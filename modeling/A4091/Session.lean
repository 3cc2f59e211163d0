import A4091.Host

/-!
# A4091 — takeover and restore of the card

`a4091_save` is the one process-wide record of the card under test. While the
tool owns the card (`card_owned`), its own interrupt server "A4091 test" is on
the vector-3 chain and the resident driver's server "NCR SCSI" is off it, its
handle kept in `driver_isr` for `a4091_state_restore` to put back. The first
takeover registers `a4091_cleanup` with `atexit`, so the restore also runs when
the process exits.

This module is the session layer of those functions: the fields of
`a4091_save` they read and write and exec's chain. Their SIOP register
accesses (`a4091_reset`, the soft reset in the takeover) are the register layer,
in `A4091.Siop.Registers`.

A session runs operations (`Op`): the takeover, the restore, the process exit,
the DMA entry points (which take the card over and clear the interrupt
marker), `kill_driver`, and an invocation of the tool's interrupt server.
`test_card` is the takeover, the operations its tests issue, then the restore.
`AllocMem` may answer any block or NULL; a NULL node is written through by
`a4091_add_local_irq_handler`, and the model stops the run there (`none`).

Main results:

* `disableWalk_chain`, `disableWalk_driverIsr` — the driver walk unlinks every
  "NCR SCSI" server and keeps the handle of the last one only.
* `reach_symmetric` — over every run without `kill_driver`, from a chain with at
  most one "NCR SCSI" server, a released session has the starting chain back
  and an owned one holds it less that server, plus the local server.
* `takeover_restore_chain` — from any chain, one takeover and restore leave
  every "NCR SCSI" server but the last off the chain.
* `kill_takeover_restore_chain` — a takeover and restore after `kill_driver`
  put the evicted server back.
-/

namespace A4091

/-- The name the resident driver gives its interrupt server. -/
def ncrScsi : String := "NCR SCSI"

/-- `strcmp(name, "NCR SCSI") == 0`, the test the driver walk applies. -/
def isNcr (i : Interrupt) : Bool := i.name == ncrScsi

/-- `A4091_INTPRI`: the priority of the tool's own server. -/
def a4091Intpri : Int := 30

/-- The node `a4091_add_local_irq_handler` links: "A4091 test" at
`A4091_INTPRI`, at the address `AllocMem` returned for it. -/
def localServer (node : Nat) : Interrupt := ⟨node, "A4091 test", a4091Intpri⟩

@[simp] theorem isNcr_localServer (node : Nat) : isNcr (localServer node) = false := rfl

/-- The session state: the fields of `a4091_save` the takeover, the restore and
the interrupt server use, and exec's vector-3 chain. -/
structure Session where
  cardOwned        : Bool
  cleanupInstalled : Bool
  intcount         : BitVec 32
  localIsr         : Option Interrupt
  driverIsr        : Option Interrupt
  iregIstat        : BitVec 8
  iregSien         : BitVec 8
  iregSstat0       : BitVec 8
  iregDstat        : BitVec 8
  chain            : List Interrupt
  deriving DecidableEq, Repr

/-- The session at program start: `a4091_save` is a zeroed static, and the chain
is whatever the system has put on vector 3. -/
def Session.init (chain : List Interrupt) : Session :=
  ⟨false, false, 0, none, none, 0, 0, 0, 0, chain⟩

-- ---------------------------------------------------------------------------
-- The functions of the takeover and the restore
-- ---------------------------------------------------------------------------

/-- `a4091_add_local_irq_handler`. `mem` is `AllocMem`'s answer for the node;
the code fills the node in without checking it, so a NULL answer (`none`) is a
store through NULL, where the model stops. -/
def a4091AddLocalIrqHandler (mem : Option Nat) (s : Session) : Option Session :=
  mem.map fun node =>
    { s with intcount := 0, localIsr := some (localServer node),
             chain := addIntServer (localServer node) s.chain }

/-- `a4091_remove_local_irq_handler`. -/
def a4091RemoveLocalIrqHandler (s : Session) : Session :=
  match s.localIsr with
  | none => s
  | some i => { s with chain := remIntServer i s.chain, localIsr := none }

/-- The walk of `a4091_disable_driver_irq_handler` over the chain, from the
current `driver_isr`. A server named "NCR SCSI" is unlinked as the walk passes
it (`RemIntServer` leaves the node's successor link, so the walk goes on from
it) and its handle overwrites `driver_isr`. -/
def disableWalk : List Interrupt → Option Interrupt → List Interrupt × Option Interrupt
  | [], d => ([], d)
  | i :: is, d =>
    if isNcr i then disableWalk is (some i)
    else
      let r := disableWalk is d
      (i :: r.1, r.2)

/-- `a4091_disable_driver_irq_handler` (the `verbose` flag only prints). -/
def a4091DisableDriverIrqHandler (s : Session) : Session :=
  let r := disableWalk s.chain s.driverIsr
  { s with chain := r.1, driverIsr := r.2 }

/-- `a4091_enable_driver_irq_handler`. -/
def a4091EnableDriverIrqHandler (s : Session) : Session :=
  match s.driverIsr with
  | none => s
  | some d => { s with chain := addIntServer d s.chain, driverIsr := none }

/-- `a4091_state_restore`, session layer: `a4091_reset` is register-level. -/
def a4091StateRestore (s : Session) : Session :=
  if s.cardOwned then
    a4091RemoveLocalIrqHandler (a4091EnableDriverIrqHandler { s with cardOwned := false })
  else s

/-- `a4091_cleanup`, the `atexit` hook. -/
def a4091Cleanup (s : Session) : Session := a4091StateRestore s

/-- `a4091_state_takeover`, session layer: the ISTAT read and soft reset that
follow the driver walk are register-level. -/
def a4091StateTakeover (mem : Option Nat) (s : Session) : Option Session :=
  let s := { s with cleanupInstalled := true }
  if s.cardOwned then some s
  else (a4091AddLocalIrqHandler mem { s with cardOwned := true }).map
    a4091DisableDriverIrqHandler

/-- `kill_driver`, session layer: the reset is register-level, the removal of
the handler task acts on exec's task lists, and the devlist removal is compiled
out. -/
def killDriver (s : Session) : Session := a4091DisableDriverIrqHandler s

/-- `dma_mem_to_mem` up to its `execute_script`: take the card over and clear the
interrupt marker (`execute_script` clears it again). -/
def dmaMemToMem (mem : Option Nat) (s : Session) : Option Session :=
  (a4091StateTakeover mem s).map fun s => { s with iregIstat := 0 }

/-- `dma_mem_to_mem_quad` up to its `execute_script`: it takes the card over once
more when it patches the script. -/
def dmaMemToMemQuad (mem : Option Nat) (update : Bool) (s : Session) : Option Session :=
  let s₁ := if update then a4091StateTakeover mem s else some s
  s₁.bind fun s => dmaMemToMem mem s

/-- The bits of ISTAT the interrupt server claims an interrupt for: DIP, SIP. -/
def istatDipSip : BitVec 8 := 0x03

/-- The four registers `a4091_irq_handler` reads, in the order it reads them. -/
structure IrqRegs where
  istat  : BitVec 8
  sien   : BitVec 8
  sstat0 : BitVec 8
  dstat  : BitVec 8
  deriving DecidableEq, Repr

/-- `a4091_irq_handler`, with the return value `1` as `true`. -/
def a4091IrqHandler (r : IrqRegs) (s : Session) : Session × Bool :=
  if r.istat &&& istatDipSip ≠ 0 then
    let s := { s with iregIstat := r.istat, iregSien := r.sien, iregSstat0 := r.sstat0,
                      iregDstat := r.dstat, intcount := s.intcount + 1 }
    (s, s.intcount == 1)
  else (s, false)

/-- What a session does: one call of an entry point, or an interrupt. -/
inductive Op
  | takeover
  | restore
  | exit
  | dmaMemToMem
  | dmaMemToMemQuad (update : Bool)
  | killDriver
  | irq (r : IrqRegs)
  deriving DecidableEq, Repr

/-- One operation, given what `AllocMem` answers if the operation asks it for the
local node. An interrupt reaches the tool's server only while it is linked;
`exit` runs the `atexit` hook once it is registered. -/
def step (mem : Option Nat) (s : Session) : Op → Option Session
  | .takeover => a4091StateTakeover mem s
  | .restore => some (a4091StateRestore s)
  | .exit => some (if s.cleanupInstalled then a4091Cleanup s else s)
  | .dmaMemToMem => dmaMemToMem mem s
  | .dmaMemToMemQuad u => dmaMemToMemQuad mem u s
  | .killDriver => some (killDriver s)
  | .irq r => some (if s.localIsr.isSome then (a4091IrqHandler r s).1 else s)

/-! ## The driver walk -/

/-- The last "NCR SCSI" server of a chain: the one whose handle the walk keeps. -/
def lastNcr (chain : List Interrupt) : Option Interrupt := (chain.filter isNcr).getLast?

theorem disableWalk_chain (l : List Interrupt) (d : Option Interrupt) :
    (disableWalk l d).1 = l.filter (!isNcr ·) := by
  induction l generalizing d with
  | nil => rfl
  | cons i is ih => by_cases h : isNcr i <;> simp [disableWalk, h, ih]

/-- `driver_isr` ends as the last "NCR SCSI" server the walk met, or keeps its
value when the walk met none. -/
theorem disableWalk_driverIsr (l : List Interrupt) (d : Option Interrupt) :
    (disableWalk l d).2 = (lastNcr l).or d := by
  induction l generalizing d with
  | nil => rfl
  | cons i is ih =>
    by_cases h : isNcr i
    · have hl : lastNcr (i :: is) = (lastNcr is).or (some i) := by
        simpa [lastNcr, h] using @List.getLast?_append _ [i] (is.filter isNcr)
      cases hn : lastNcr is <;> simp [disableWalk, h, ih, hl, hn]
    · simp [disableWalk, h, ih, lastNcr]

/-- Linking a server the filter drops leaves the filtered chain as it was. -/
theorem filter_addIntServer {p : Interrupt → Bool} {i : Interrupt} (hi : p i = false)
    (chain : List Interrupt) : (addIntServer i chain).filter p = chain.filter p := by
  induction chain with
  | nil => simp [addIntServer, hi]
  | cons j js ih => unfold addIntServer; split <;> simp [List.filter_cons, hi, ih]

/-- A list of at most one element is what its last element gives back. -/
private theorem toList_getLast? {α : Type} {l : List α} (h : l.length ≤ 1) :
    l.getLast?.toList = l := by
  match l, h with
  | [], _ => rfl
  | [_], _ => rfl

/-- A permutation of a list of at most one element is that list. -/
private theorem eq_of_perm_length_le_one {α : Type} {l l' : List α} (hp : l.Perm l')
    (h : l'.length ≤ 1) : l = l' := by
  match l', h with
  | [], _ => exact List.perm_nil.mp hp
  | [_], _ => exact List.perm_singleton.mp hp

/-! ## What the takeover and the restore do -/

theorem a4091StateTakeover_owned {s : Session} (ho : s.cardOwned = true) (mem : Option Nat) :
    a4091StateTakeover mem s = some { s with cleanupInstalled := true } := by
  simp [a4091StateTakeover, ho]

/-- On an owned card the tests' DMA setup only installs the cleanup hook and
clears the interrupt marker. -/
theorem dmaMemToMem_owned {s : Session} (ho : s.cardOwned = true) (mem : Option Nat) :
    dmaMemToMem mem s = some { s with cleanupInstalled := true, iregIstat := 0 } := by
  simp [dmaMemToMem, a4091StateTakeover_owned ho]

theorem dmaMemToMemQuad_owned {s : Session} (ho : s.cardOwned = true) (mem : Option Nat)
    (update : Bool) :
    dmaMemToMemQuad mem update s = some { s with cleanupInstalled := true, iregIstat := 0 } := by
  cases update <;> simp [dmaMemToMemQuad, dmaMemToMem, a4091StateTakeover, ho]

/-- A takeover of a released card goes through exactly when `AllocMem` answers,
and then the local server is linked, every "NCR SCSI" server unlinked and the
last one's handle kept. -/
theorem a4091StateTakeover_released {s s' : Session} {mem : Option Nat}
    (ho : s.cardOwned = false) (h : a4091StateTakeover mem s = some s') :
    ∃ node, mem = some node ∧ s'.cardOwned = true ∧ s'.localIsr = some (localServer node) ∧
      s'.chain = (addIntServer (localServer node) s.chain).filter (!isNcr ·) ∧
      s'.driverIsr = (lastNcr s.chain).or s.driverIsr := by
  cases mem with
  | none => simp [a4091StateTakeover, ho, a4091AddLocalIrqHandler] at h
  | some node =>
    simp only [a4091StateTakeover, ho, a4091AddLocalIrqHandler, Option.map_some',
      Bool.false_eq_true, if_false, Option.some.injEq] at h
    subst h
    simp [a4091DisableDriverIrqHandler, disableWalk_chain, disableWalk_driverIsr, lastNcr,
      filter_addIntServer]

@[simp] theorem a4091StateRestore_cardOwned (s : Session) :
    (a4091StateRestore s).cardOwned = false := by
  unfold a4091StateRestore a4091EnableDriverIrqHandler a4091RemoveLocalIrqHandler
  split <;> (try split) <;> (try split) <;> simp_all

/-- A restore of an owned card: the kept driver server is linked back, the local
server unlinked, and both handles cleared. -/
theorem a4091StateRestore_owned {s : Session} {l : Interrupt} (ho : s.cardOwned = true)
    (hl : s.localIsr = some l) (hd : ∀ d ∈ s.driverIsr, d ≠ l) :
    (a4091StateRestore s).chain.Perm (s.driverIsr.toList ++ s.chain.erase l) ∧
      (a4091StateRestore s).driverIsr = none ∧ (a4091StateRestore s).localIsr = none := by
  unfold a4091StateRestore a4091EnableDriverIrqHandler a4091RemoveLocalIrqHandler
  cases hdr : s.driverIsr with
  | none => simp [ho, hdr, hl, remIntServer]
  | some d =>
    have hne : d ≠ l := hd d (by simp [hdr])
    simp only [ho, hdr, hl, if_true, remIntServer, Option.toList_some, List.singleton_append,
      and_self, and_true]
    exact ((addIntServer_perm d s.chain).erase l).trans (by rw [List.erase_cons_tail (by simpa using hne)])

/-! ## Takeover/restore symmetry -/

/-- What the takeover and the restore keep of a starting chain `c`. Released, the
chain is `c` again and no handle is held; owned, the local server stands in for
the "NCR SCSI" servers of `c`, and `driver_isr` holds each of them. -/
structure Symmetric (c : List Interrupt) (s : Session) : Prop where
  released : s.cardOwned = false →
    s.chain.Perm c ∧ s.driverIsr = none ∧ s.localIsr = none
  owned : s.cardOwned = true → ∃ l, s.localIsr = some l ∧ isNcr l = false ∧
    s.chain.Perm (l :: c.filter (!isNcr ·)) ∧ s.driverIsr.toList = c.filter isNcr

theorem symmetric_init (c : List Interrupt) : Symmetric c (Session.init c) :=
  ⟨fun _ => ⟨List.Perm.refl c, rfl, rfl⟩, fun h => by cases h⟩

/-- `Symmetric` reads only the ownership flag, the two handles and the chain. -/
theorem Symmetric.congr {c : List Interrupt} {s s' : Session} (h : Symmetric c s)
    (ho : s'.cardOwned = s.cardOwned) (hl : s'.localIsr = s.localIsr)
    (hd : s'.driverIsr = s.driverIsr) (hc : s'.chain = s.chain) : Symmetric c s' := by
  obtain ⟨h₁, h₂⟩ := h
  exact ⟨by rw [ho, hl, hd, hc]; exact h₁, by rw [ho, hl, hd, hc]; exact h₂⟩

theorem symmetric_restore {c : List Interrupt} {s : Session} (h : Symmetric c s) :
    Symmetric c (a4091StateRestore s) := by
  cases ho : s.cardOwned
  · exact h.congr (by simp [a4091StateRestore, ho]) (by simp [a4091StateRestore, ho])
      (by simp [a4091StateRestore, ho]) (by simp [a4091StateRestore, ho])
  · obtain ⟨l, hl, hlN, hch, hd⟩ := h.owned ho
    have hne : ∀ d ∈ s.driverIsr, d ≠ l := fun d hd' heq => by
      have : d ∈ c.filter isNcr := by rw [← hd]; simpa using hd'
      simp_all
    obtain ⟨hperm, hdn, hln⟩ := a4091StateRestore_owned ho hl hne
    refine ⟨fun _ => ⟨?_, hdn, hln⟩, fun h' => by simp at h'⟩
    have hrest : (s.chain.erase l).Perm (c.filter (!isNcr ·)) := by
      simpa using hch.erase l
    exact hperm.trans (hd ▸ (hrest.append_left _).trans (List.filter_append_perm isNcr c))

theorem symmetric_takeover {c : List Interrupt} (hc : c.countP isNcr ≤ 1) {s s' : Session}
    {mem : Option Nat} (h : Symmetric c s) (ht : a4091StateTakeover mem s = some s') :
    Symmetric c s' := by
  cases ho : s.cardOwned
  · obtain ⟨hch, hd, -⟩ := h.released ho
    obtain ⟨node, -, ho', hl', hc', hd'⟩ := a4091StateTakeover_released ho ht
    have hlen : (c.filter isNcr).length ≤ 1 := by rwa [← List.countP_eq_length_filter]
    refine ⟨fun h' => by simp [ho'] at h', fun _ => ⟨_, hl', rfl, ?_, ?_⟩⟩
    · rw [hc']
      simpa using ((addIntServer_perm _ _).trans (hch.cons _)).filter (!isNcr ·)
    · rw [hd', hd, Option.or_none, lastNcr, eq_of_perm_length_le_one (hch.filter isNcr) hlen]
      exact toList_getLast? hlen
  · rw [a4091StateTakeover_owned ho, Option.some.injEq] at ht
    exact ht ▸ h.congr rfl rfl rfl rfl

theorem symmetric_dmaMemToMem {c : List Interrupt} (hc : c.countP isNcr ≤ 1)
    {s s' : Session} {mem : Option Nat} (h : Symmetric c s)
    (hs : dmaMemToMem mem s = some s') : Symmetric c s' := by
  obtain ⟨t, ht, rfl⟩ := Option.map_eq_some'.mp hs
  exact (symmetric_takeover hc h ht).congr rfl rfl rfl rfl

/-- The interrupt server touches neither the ownership, the handles nor the chain. -/
theorem symmetric_irqHandler {c : List Interrupt} {s : Session} (r : IrqRegs)
    (h : Symmetric c s) : Symmetric c (a4091IrqHandler r s).1 := by
  unfold a4091IrqHandler
  split
  · exact h.congr rfl rfl rfl rfl
  · exact h

/-- Every operation but `kill_driver` keeps `Symmetric`, for a chain with at most
one "NCR SCSI" server. -/
theorem symmetric_step {c : List Interrupt} (hc : c.countP isNcr ≤ 1) {s s' : Session}
    {mem : Option Nat} {op : Op} (h : Symmetric c s) (hk : op ≠ .killDriver)
    (hs : step mem s op = some s') : Symmetric c s' := by
  cases op with
  | takeover => exact symmetric_takeover hc h hs
  | restore => exact Option.some.inj hs ▸ symmetric_restore h
  | exit =>
    rw [step, Option.some.injEq] at hs
    subst hs
    split
    · exact symmetric_restore h
    · exact h
  | dmaMemToMem => exact symmetric_dmaMemToMem hc h hs
  | dmaMemToMemQuad u =>
    obtain ⟨t, ht, ht'⟩ := Option.bind_eq_some.mp hs
    cases u
    · exact symmetric_dmaMemToMem hc (Option.some.inj ht ▸ h) ht'
    · exact symmetric_dmaMemToMem hc (symmetric_takeover hc h ht) ht'
  | killDriver => exact absurd rfl hk
  | irq r =>
    rw [step, Option.some.injEq] at hs
    subst hs
    split
    · exact symmetric_irqHandler r h
    · exact h

/-- The sessions a run without `kill_driver` reaches from the chain `c`: any
operation, with any answer from `AllocMem`. -/
inductive Reach (c : List Interrupt) : Session → Prop
  | init : Reach c (Session.init c)
  | step {s s' : Session} {mem : Option Nat} {op : Op} :
      Reach c s → op ≠ .killDriver → step mem s op = some s' → Reach c s'

/-- Seize/release symmetry, for a chain with at most one "NCR SCSI" server: every
session a run without `kill_driver` reaches is `Symmetric`. -/
theorem reach_symmetric {c : List Interrupt} (hc : c.countP isNcr ≤ 1) {s : Session}
    (h : Reach c s) : Symmetric c s := by
  induction h with
  | init => exact symmetric_init c
  | step _ hk hs ih => exact symmetric_step hc ih hk hs

/-! ## Servers the restore does not put back -/

/-- A takeover of a released card and the restore after it: the chain loses its
"NCR SCSI" servers and gets back the one server `driver_isr` ends up holding. -/
theorem takeover_restore_released {s s' : Session} {mem : Option Nat}
    (ho : s.cardOwned = false) (hd : ∀ d ∈ s.driverIsr, isNcr d = true)
    (h : a4091StateTakeover mem s = some s') :
    (a4091StateRestore s').chain.Perm
      (s.chain.filter (!isNcr ·) ++ ((lastNcr s.chain).or s.driverIsr).toList) := by
  obtain ⟨node, -, ho', hl', hc', hd'⟩ := a4091StateTakeover_released ho h
  have hne : ∀ d ∈ s'.driverIsr, d ≠ localServer node := by
    rintro d hmem rfl
    rw [hd'] at hmem
    cases hl : lastNcr s.chain with
    | none => simp [hl] at hmem; simpa using hd _ hmem
    | some x =>
      have hx := List.mem_of_getLast?_eq_some hl
      simp only [hl, Option.or_some, Option.mem_def, Option.some.injEq] at hmem
      subst hmem
      simp at hx
  obtain ⟨hperm, -, -⟩ := a4091StateRestore_owned ho' hl' hne
  rw [hd', hc'] at hperm
  refine hperm.trans (List.perm_append_comm.trans (List.Perm.append_right _ ?_))
  simpa using (((addIntServer_perm (localServer node) s.chain).filter (!isNcr ·)).erase (localServer node))

/-- One takeover and restore, from any chain: every "NCR SCSI" server but the last
is taken off the chain and not put back. -/
theorem takeover_restore_chain {c : List Interrupt} {mem : Option Nat} {s : Session}
    (h : a4091StateTakeover mem (Session.init c) = some s) :
    (a4091StateRestore s).chain.Perm (c.filter (!isNcr ·) ++ (lastNcr c).toList) := by
  simpa [Session.init] using takeover_restore_released rfl (by simp [Session.init]) h

/-- Two A4091 boards, two "NCR SCSI" servers: after a takeover and a restore only
the second is back on the chain. -/
theorem takeover_restore_two_drivers :
    a4091StateTakeover (some 0x2000)
        (Session.init [⟨1, "NCR SCSI", 10⟩, ⟨2, "NCR SCSI", 10⟩]) =
      some ⟨true, true, 0, some (localServer 0x2000), some ⟨2, "NCR SCSI", 10⟩, 0, 0, 0, 0,
        [localServer 0x2000]⟩ ∧
    (a4091StateRestore ⟨true, true, 0, some (localServer 0x2000), some ⟨2, "NCR SCSI", 10⟩,
        0, 0, 0, 0, [localServer 0x2000]⟩).chain.Perm [⟨2, "NCR SCSI", 10⟩] :=
  ⟨by decide, @takeover_restore_chain [⟨1, "NCR SCSI", 10⟩, ⟨2, "NCR SCSI", 10⟩] (some 0x2000) _
    (by decide)⟩

/-- `kill_driver` takes every "NCR SCSI" server off the chain, but the handle of
the last stays in `driver_isr`, and a takeover and restore that follow put that
server back on the chain. -/
theorem kill_takeover_restore_chain {c : List Interrupt} {mem : Option Nat} {s : Session}
    (h : a4091StateTakeover mem (killDriver (Session.init c)) = some s) :
    (killDriver (Session.init c)).chain = c.filter (!isNcr ·) ∧
      (a4091StateRestore s).chain.Perm (c.filter (!isNcr ·) ++ (lastNcr c).toList) := by
  have hk : killDriver (Session.init c) =
      { Session.init c with chain := c.filter (!isNcr ·), driverIsr := lastNcr c } := by
    simp [killDriver, a4091DisableDriverIrqHandler, disableWalk_chain, disableWalk_driverIsr,
      Session.init]
  have hd : ∀ d ∈ lastNcr c, isNcr d = true := fun _ hmem =>
    (List.mem_filter.mp (List.mem_of_getLast?_eq_some hmem)).2
  refine ⟨by rw [hk], ?_⟩
  rw [hk] at h
  simpa [lastNcr, List.filter_filter] using takeover_restore_released rfl hd h

/-- `-k -t` on a one-board machine: `kill_driver` evicts the driver's server,
and the restore at the end of `test_card` links it again. -/
theorem kill_takeover_restore_one_driver :
    a4091StateTakeover (some 0x2000) (killDriver (Session.init [⟨1, "NCR SCSI", 10⟩])) =
      some ⟨true, true, 0, some (localServer 0x2000), some ⟨1, "NCR SCSI", 10⟩, 0, 0, 0, 0,
        [localServer 0x2000]⟩ ∧
    (killDriver (Session.init [⟨1, "NCR SCSI", 10⟩])).chain = [] ∧
    (a4091StateRestore ⟨true, true, 0, some (localServer 0x2000), some ⟨1, "NCR SCSI", 10⟩,
        0, 0, 0, 0, [localServer 0x2000]⟩).chain.Perm [⟨1, "NCR SCSI", 10⟩] :=
  ⟨by decide, @kill_takeover_restore_chain [⟨1, "NCR SCSI", 10⟩] (some 0x2000) _ (by decide)⟩

end A4091
