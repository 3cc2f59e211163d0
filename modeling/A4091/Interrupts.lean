import A4091.Ncr53c710
import A4091.Session

/-!
# A4091 — which interrupts the tool's server claims

While the tool owns the card, its interrupt server `a4091_irq_handler` is linked
on vector 3. It counts the interrupts that find DIP or SIP set in `intcount`, a
32-bit counter that only `a4091_add_local_irq_handler` clears, at the takeover,
and it returns 1 ("handled") when the count it has just reached is 1. Between
takeover and restore the tests start SCRIPTS programs (`dma_mem_to_mem`,
`dma_mem_to_mem_quad`, each ending in `execute_script`) and the card interrupts;
neither a program start nor the `ireg_istat` marker it clears touches the count.

## Results

* `periodInv_step` — one operation of an ownership period keeps the card owned and
  the server linked, and adds one to the count for a DIP or SIP interrupt.
* `periodInv_run` — over any run of such operations, `intcount` is the number of
  DIP or SIP interrupts since the takeover, modulo `2 ^ 32`.
* `irqHandler_claims` — the server returns 1 at an interrupt exactly when it finds
  DIP or SIP set and that interrupt is the `(1 + k * 2 ^ 32)`-th such one since the
  takeover: within a period it claims the first completion interrupt only.
-/

namespace A4091

/-- The operations a test run makes between takeover and restore: starting
SCRIPTS programs, a takeover of the card it already owns, and interrupts. -/
def Op.InPeriod : Op → Prop
  | .takeover | .dmaMemToMem | .dmaMemToMemQuad _ | .irq _ => True
  | .restore | .exit | .killDriver => False

instance : DecidablePred Op.InPeriod
  | .takeover | .dmaMemToMem | .dmaMemToMemQuad _ | .irq _ => isTrue trivial
  | .restore | .exit | .killDriver => isFalse id

/-- An interrupt that finds DIP or SIP set in ISTAT. -/
def IrqRegs.DipSip (r : IrqRegs) : Bool := r.istat &&& istatDipSip != 0

/-- The interrupts of a run that find DIP or SIP set. -/
def dipSipCount (ops : List Op) : Nat :=
  ops.countP fun | .irq r => r.DipSip | _ => false

/-- Within an ownership period with `n` DIP or SIP interrupts so far: the card is
owned, the server linked, and `intcount` holds `n` modulo `2 ^ 32`. -/
structure PeriodInv (n : Nat) (s : Session) : Prop where
  owned : s.cardOwned = true
  linked : s.localIsr.isSome
  count : s.intcount = BitVec.ofNat 32 n

/-- What `a4091_irq_handler` returns: DIP or SIP set, and the count it reaches
is 1. -/
theorem a4091IrqHandler_snd (r : IrqRegs) (s : Session) :
    (a4091IrqHandler r s).2 = (r.DipSip && s.intcount + 1 == 1) := by
  unfold a4091IrqHandler IrqRegs.DipSip
  split <;> simp_all

/-- The takeover of a released card starts a period with no interrupt counted. -/
theorem periodInv_takeover {mem : Option Nat} {s s₀ : Session} (ho : s.cardOwned = false)
    (h : a4091StateTakeover mem s = some s₀) : PeriodInv 0 s₀ := by
  obtain ⟨node, rfl, -⟩ := a4091StateTakeover_released ho h
  simp only [a4091StateTakeover, ho, a4091AddLocalIrqHandler, Option.map_some',
    Bool.false_eq_true, if_false, Option.some.injEq] at h
  subst h
  exact ⟨rfl, rfl, rfl⟩

/-- The interrupt server, at an interrupt with or without DIP or SIP. -/
theorem periodInv_irqHandler {n : Nat} {s : Session} (hs : PeriodInv n s) (r : IrqRegs) :
    PeriodInv (n + dipSipCount [.irq r]) (a4091IrqHandler r s).1 := by
  have hcount : dipSipCount [.irq r] = if r.DipSip then 1 else 0 := by
    simp [dipSipCount, List.countP_cons]
  unfold a4091IrqHandler
  by_cases hr : r.istat &&& istatDipSip ≠ 0
  · have hd : r.DipSip := by simpa [IrqRegs.DipSip] using hr
    rw [if_pos hr, hcount, if_pos hd]
    exact ⟨hs.owned, hs.linked, by simp [hs.count, BitVec.ofNat_add]⟩
  · have hd : r.DipSip = false := by simpa [IrqRegs.DipSip] using hr
    rw [if_neg hr, hcount, hd]
    exact hs

/-- One operation of the period: the count grows by one at a DIP or SIP
interrupt, and nothing else changes what the invariant states. -/
theorem periodInv_step (mem : Option Nat) {n : Nat} {s : Session} (hs : PeriodInv n s)
    {op : Op} (hop : op.InPeriod) :
    ∃ s', step mem s op = some s' ∧ PeriodInv (n + dipSipCount [op]) s' := by
  cases op with
  | takeover => exact ⟨_, a4091StateTakeover_owned hs.owned mem, hs.owned, hs.linked, hs.count⟩
  | dmaMemToMem => exact ⟨_, dmaMemToMem_owned hs.owned mem, hs.owned, hs.linked, hs.count⟩
  | dmaMemToMemQuad u =>
    exact ⟨_, dmaMemToMemQuad_owned hs.owned mem u, hs.owned, hs.linked, hs.count⟩
  | irq r => exact ⟨_, by simp [step, hs.linked], periodInv_irqHandler hs r⟩
  | restore | exit | killDriver => exact hop.elim

/-- A whole run of the period goes through and keeps the invariant, with every
DIP or SIP interrupt of the run counted. -/
theorem periodInv_run (mem : Option Nat) :
    ∀ {ops : List Op} {n : Nat} {s : Session}, (∀ op ∈ ops, op.InPeriod) → PeriodInv n s →
      ∃ s', ops.foldlM (step mem) s = some s' ∧ PeriodInv (n + dipSipCount ops) s'
  | [], n, s, _, hs => ⟨s, rfl, by simpa [dipSipCount] using hs⟩
  | op :: ops, n, s, hops, hs => by
    obtain ⟨s₁, h₁, hs₁⟩ := periodInv_step mem hs (hops op (List.mem_cons_self _ _))
    obtain ⟨s', h', hs'⟩ := periodInv_run mem (fun o ho => hops o (List.mem_cons_of_mem _ ho)) hs₁
    refine ⟨s', by simp [List.foldlM_cons, h₁, h'], ?_⟩
    have hcount : dipSipCount (op :: ops) = dipSipCount [op] + dipSipCount ops := by
      simp only [dipSipCount, List.countP_cons, List.countP_nil]
      omega
    rwa [hcount, ← Nat.add_assoc]

/-- After a takeover of a released card and any run of the period, the server
returns 1 at the next interrupt exactly when it finds DIP or SIP set and the
interrupts with DIP or SIP set since the takeover, this one included, number
1 modulo `2 ^ 32`, however many SCRIPTS programs were started in between. -/
theorem irqHandler_claims (mem : Option Nat) {s s₀ : Session} (ho : s.cardOwned = false)
    (htake : a4091StateTakeover mem s = some s₀) {ops : List Op}
    (hops : ∀ op ∈ ops, op.InPeriod) (r : IrqRegs) :
    ∃ s₁, ops.foldlM (step mem) s₀ = some s₁ ∧ s₁.localIsr.isSome ∧
      (a4091IrqHandler r s₁).2 = (r.DipSip && (dipSipCount ops + 1) % 2 ^ 32 == 1) := by
  obtain ⟨s₁, hrun, hinv⟩ := periodInv_run mem hops (periodInv_takeover ho htake)
  refine ⟨s₁, hrun, hinv.linked, ?_⟩
  rw [a4091IrqHandler_snd, hinv.count, Nat.zero_add]
  congr 1
  rw [Bool.eq_iff_iff, beq_iff_eq, beq_iff_eq, BitVec.toNat_eq]
  simp only [BitVec.toNat_add, BitVec.toNat_ofNat]
  omega

/-- Two DMA programs with a DMA interrupt after each: the claim at the second one,
where only one interrupt with DIP set has been counted before it. -/
theorem irqHandler_claims_second_dip :
    (Session.init []).cardOwned = false ∧
      ∃ s₀, a4091StateTakeover (some 0x2000) (Session.init []) = some s₀ ∧
        ∃ s₁, [Op.dmaMemToMem, .irq ⟨regIstatDip, 0, 0, 0⟩, .dmaMemToMem].foldlM
            (step (some 0x2000)) s₀ = some s₁ ∧ s₁.localIsr.isSome ∧
          (a4091IrqHandler ⟨regIstatDip, 0, 0, 0⟩ s₁).2 =
            (IrqRegs.DipSip ⟨regIstatDip, 0, 0, 0⟩ &&
              (dipSipCount [.dmaMemToMem, .irq ⟨regIstatDip, 0, 0, 0⟩, .dmaMemToMem] + 1) % 2 ^ 32
                == 1) :=
  ⟨rfl, _, rfl, @irqHandler_claims (some 0x2000) (Session.init []) _ rfl rfl _ (by decide) _⟩

/-- `test_dma`'s first two programs, each followed by its DMA completion interrupt:
the server claims the first and leaves the second unclaimed, although
`execute_script` cleared the `ireg_istat` marker before it. -/
theorem irqHandler_second_completion_unclaimed :
    ([Op.takeover, .dmaMemToMem].foldlM (step (some 0x2000)) (Session.init [])).map
        (fun s => (a4091IrqHandler ⟨regIstatDip, 0, 0, 0⟩ s).2) = some true ∧
      ([Op.takeover, .dmaMemToMem, .irq ⟨regIstatDip, 0, 0, 0⟩, .dmaMemToMem].foldlM
          (step (some 0x2000)) (Session.init [])).map
        (fun s => (a4091IrqHandler ⟨regIstatDip, 0, 0, 0⟩ s).2) = some false := by
  decide

end A4091
