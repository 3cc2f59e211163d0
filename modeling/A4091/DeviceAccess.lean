import A4091.Wait
import A4091.Ncr53c710
import Mathlib.Tactic.FinCases

/-!
# A4091 — `test_device_access`: the card answers, and its autoconfig header reads right

`test_device_access` reads the card's ROM and its 53C710 registers once each, and
checks with `access_timeout` that neither access kept the bus past two ticks from
`tick_start` (the ROM read is tried twice; the register read counts from the same
`tick_start`). It then reads the first six autoconfig registers a hundred times
over with `get_creg`, which assembles a register from the inverted high nibbles of
the bytes at `reg` and `reg + 0x100`, and compares each read with
`zorro_expected_regs`. The first wrong read of a register prints it and adds one to
`rc`; later wrong reads of that register are not counted again (`saw_incorrect`). A
timeout anywhere goes to `fail:` with `rc = 1`, whatever `rc` held.

The card is any device behind the reads, with the host clock `read_system_ticks`
reads (`Card`). A recorder on the card (`Card.logged`) keeps every byte read; the
log shows the values each autoconfig register gave (`cregReads`).

## Results

* `getCreg_zorroImage` — `get_creg` reads back every register of an autoconfig
  area laid out as Zorro III lays it out, whatever the low nibbles hold.
* `testDeviceAccess_logged` — the recorder changes nothing of the run.
* `testDeviceAccess_rc` — on any card, the test either prints a timeout and returns
  1, or reads each of the six registers a hundred times, returns the number of them
  that read wrong at least once, and prints one line for each of those.
* `testDeviceAccess_expected` — on a card whose autoconfig area holds the A4091's
  registers, whatever the low nibbles and the clock, the test names no wrong
  register: it prints only timeouts, and returns 0, or 1 after one.
-/

namespace A4091

variable {σ : Type}

-- ---------------------------------------------------------------------------
-- The card and `get_creg`
-- ---------------------------------------------------------------------------

/-- `A4091_OFFSET_AUTOCONFIG`. -/
def a4091OffsetAutoconfig : Nat := 0x00000000

/-- The A4091's window as the tool reads it, at offsets from `a4091_base`, and the
host clock: `*ADDR8` answers a byte, `*ADDR32` is read for its bus cycle only, and
`read_system_ticks` answers the time. Each may change the state `σ`. -/
structure Card (σ : Type) where
  read8 : Nat → σ → BitVec 8 × σ
  read32 : Nat → σ → σ
  readSystemTicks : σ → Nat × σ

/-- The register `get_creg` assembles from the bytes at `reg` and `reg + 0x100`:
`(hi & 0xf0) | (lo >> 4)` of the inverted bytes. -/
def cregValue (hi lo : BitVec 8) : BitVec 8 := (~~~hi &&& 0xf0) ||| (~~~lo >>> 4)

/-- `get_creg(reg)`. -/
def getCreg (c : Card σ) (reg : Nat) (s : σ) : BitVec 8 × σ :=
  let hi := c.read8 (a4091OffsetAutoconfig + reg) s
  let lo := c.read8 (a4091OffsetAutoconfig + reg + 0x100) hi.2
  (cregValue hi.1 lo.1, lo.2)

/-- What `test_device_access` prints, short of its layout and `show_test_state`. -/
inductive DeviceReport
  /-- `access_timeout`'s "%s: %d ticks": the caller's message and the ticks elapsed. -/
  | timeout (msg : String) (ticks : Nat)
  /-- "Reg %02x  %02x != expected %02x (diff %02x)". -/
  | mismatch (reg : Nat) (got expected : BitVec 8)
  deriving DecidableEq, Repr

/-- A line naming a wrong register. -/
def DeviceReport.isMismatch : DeviceReport → Bool
  | .mismatch _ _ _ => true
  | .timeout _ _ => false

/-- `access_timeout(msg, ticks, tick_start)` on the card's clock, with the line it
prints when it fires: `(uint32_t) (tick_end - tick_start)` ticks. -/
def accessTimeoutOn (c : Card σ) (msg : String) (ticks tickStart : Nat) (s : σ) :
    Option DeviceReport × σ :=
  let t := c.readSystemTicks s
  (if accessTimeout ticks tickStart t.1 then some (.timeout msg ((t.1 - tickStart) % 2 ^ 32))
    else none, t.2)

/-- `zorro_expected_regs[]`: autoconfig registers 0x00 to 0x14 of an A4091, as
`get_creg` reads them. -/
def zorroExpectedRegs : List (BitVec 8) := [0x6f, 0x54, 0x30, 0x00, 0x02, 0x02]

/-- `NUM_ZORRO_EXPECTED_REGS`. -/
def numZorroExpectedRegs : Nat := zorroExpectedRegs.length

/-- The variables of the pass loop; `saw_correct`, which nothing reads, is left out. -/
structure DevicePass (σ : Type) where
  rc : Nat
  sawIncorrect : Nat → Bool
  dev : σ
  reports : List DeviceReport

/-- One read of register `i * 4` in a pass that started at `tickStart`. A timeout is
`goto fail`, with the device and what was printed. -/
def deviceAccessReg (c : Card σ) (tickStart : Nat) (p : DevicePass σ) (i : Nat) :
    Except (σ × List DeviceReport) (DevicePass σ) :=
  let r := getCreg c (i * 4) p.dev
  let t := accessTimeoutOn c "\n53C710 loop access timeout" 4 tickStart r.2
  match t.1 with
  | some e => .error (t.2, p.reports ++ [e])
  | none =>
    let expected := zorroExpectedRegs.getD i 0
    if r.1 = expected then .ok { p with dev := t.2 }
    else if p.sawIncorrect i = false then
      .ok { rc := p.rc + 1, sawIncorrect := Function.update p.sawIncorrect i true, dev := t.2
            reports := p.reports ++ [.mismatch (i * 4) r.1 expected] }
    else .ok { p with dev := t.2 }

/-- What `test_device_access` returns, the device it leaves, and what it printed. -/
structure DeviceRun (σ : Type) where
  rc : Nat
  dev : σ
  reports : List DeviceReport

/-- `c` with a recorder: every byte read is appended, with its offset, to the log. -/
def Card.logged (c : Card σ) : Card (σ × List (Nat × BitVec 8)) where
  read8 a p := ((c.read8 a p.1).1, (c.read8 a p.1).2, p.2 ++ [(a, (c.read8 a p.1).1)])
  read32 a p := (c.read32 a p.1, p.2)
  readSystemTicks p := ((c.readSystemTicks p.1).1, (c.readSystemTicks p.1).2, p.2)

namespace Card

variable (c : Card σ) (a : Nat) (p : σ × List (Nat × BitVec 8))

@[simp] theorem logged_read8 :
    c.logged.read8 a p = ((c.read8 a p.1).1, (c.read8 a p.1).2, p.2 ++ [(a, (c.read8 a p.1).1)]) :=
  rfl

@[simp] theorem logged_readSystemTicks :
    c.logged.readSystemTicks p = ((c.readSystemTicks p.1).1, (c.readSystemTicks p.1).2, p.2) := rfl

end Card

/-- The pass loop's variables with the device seen through `f`. -/
def DevicePass.map {τ : Type} (f : σ → τ) (p : DevicePass σ) : DevicePass τ :=
  ⟨p.rc, p.sawIncorrect, f p.dev, p.reports⟩

/-- A result with the device seen through `f`. -/
def DeviceRun.map {τ : Type} (f : σ → τ) (r : DeviceRun σ) : DeviceRun τ := ⟨r.rc, f r.dev, r.reports⟩

section Recorder

variable (c : Card σ)

end Recorder

-- ---------------------------------------------------------------------------
-- One read of a register
-- ---------------------------------------------------------------------------

section Step

variable (c : Card σ)

/-- A read that returns: `saw_incorrect[i]` is set by a wrong value, and `rc` and the
printed lines grow only on the register's first wrong read. -/
theorem deviceAccessReg_ok {t : Nat} {p q : DevicePass σ} {i : Nat}
    (h : deviceAccessReg c t p i = .ok q) :
    q = { rc := p.rc + if (getCreg c (i * 4) p.dev).1 ≠ zorroExpectedRegs.getD i 0 ∧
            p.sawIncorrect i = false then 1 else 0
          sawIncorrect := fun j =>
            p.sawIncorrect j || (j == i && (getCreg c (i * 4) p.dev).1 != zorroExpectedRegs.getD i 0)
          dev := (c.readSystemTicks (getCreg c (i * 4) p.dev).2).2
          reports := p.reports ++ if (getCreg c (i * 4) p.dev).1 ≠ zorroExpectedRegs.getD i 0 ∧
            p.sawIncorrect i = false then
              [.mismatch (i * 4) (getCreg c (i * 4) p.dev).1 (zorroExpectedRegs.getD i 0)] else [] } := by
  simp only [deviceAccessReg, accessTimeoutOn] at h
  generalize getCreg c (i * 4) p.dev = r at h ⊢
  split at h
  · cases h
  · split_ifs at h with hv hs <;> cases h
    · simp [hv]
    · simp only [hv, hs, ne_eq, not_false_eq_true, and_self, if_true, DevicePass.mk.injEq,
        true_and, and_true]
      funext j
      by_cases hj : j = i
      · subst hj
        simp only [Function.update_same, beq_self_eq_true, Bool.true_and, bne_iff_ne.mpr hv,
          Bool.or_true]
      · simp [hj, Function.update_noteq hj]
    · have hs' : p.sawIncorrect i = true := by simpa using hs
      simp only [hv, hs', ne_eq, not_false_eq_true, Bool.true_eq_false, and_false, if_false,
        Nat.add_zero, List.append_nil, DevicePass.mk.injEq, true_and, and_true]
      funext j
      by_cases hj : j = i
      · subst hj
        simp [hs']
      · simp [hj]

end Step

-- ---------------------------------------------------------------------------
-- The log of the pass loop
-- ---------------------------------------------------------------------------

/-- The bytes a log shows read at offset `a`, in order. -/
def bytesAt (log : List (Nat × BitVec 8)) (a : Nat) : List (BitVec 8) :=
  log.filterMap fun e => if e.1 = a then some e.2 else none

/-- The values a log shows `get_creg(reg)` returned: each byte read at `reg` with the
byte read at `reg + 0x100` after it. -/
def cregReads (log : List (Nat × BitVec 8)) (reg : Nat) : List (BitVec 8) :=
  List.zipWith cregValue (bytesAt log (a4091OffsetAutoconfig + reg))
    (bytesAt log (a4091OffsetAutoconfig + reg + 0x100))

theorem bytesAt_append_single (log : List (Nat × BitVec 8)) (a : Nat) (v : BitVec 8) (b : Nat) :
    bytesAt (log ++ [(a, v)]) b = bytesAt log b ++ if a = b then [v] else [] := by
  by_cases h : a = b <;> simp [bytesAt, h]

theorem getCreg_logged (c : Card σ) (reg : Nat) (p : σ × List (Nat × BitVec 8)) :
    getCreg c.logged reg p = ((getCreg c reg p.1).1, (getCreg c reg p.1).2,
      p.2 ++ [(a4091OffsetAutoconfig + reg, (c.read8 (a4091OffsetAutoconfig + reg) p.1).1)] ++
        [(a4091OffsetAutoconfig + reg + 0x100, (c.read8 (a4091OffsetAutoconfig + reg + 0x100)
          (c.read8 (a4091OffsetAutoconfig + reg) p.1).2).1)]) := rfl

/-- A read of register `i * 4` adds its value to that register's reads, and to no
other's. -/
theorem cregReads_read {log : List (Nat × BitVec 8)} {i j : Nat} (hi : i < 64) (hj : j < 64)
    (hlen : (bytesAt log (a4091OffsetAutoconfig + j * 4)).length =
      (bytesAt log (a4091OffsetAutoconfig + j * 4 + 0x100)).length) (hb lb : BitVec 8) :
    cregReads (log ++ [(a4091OffsetAutoconfig + i * 4, hb)] ++
        [(a4091OffsetAutoconfig + i * 4 + 0x100, lb)]) (j * 4) =
      cregReads log (j * 4) ++ if j = i then [cregValue hb lb] else [] := by
  have h2 : a4091OffsetAutoconfig + i * 4 + 0x100 ≠ a4091OffsetAutoconfig + j * 4 := by
    unfold a4091OffsetAutoconfig; omega
  have h3 : a4091OffsetAutoconfig + i * 4 ≠ a4091OffsetAutoconfig + j * 4 + 0x100 := by
    unfold a4091OffsetAutoconfig; omega
  simp only [cregReads, bytesAt_append_single, if_neg h2, if_neg h3, List.append_nil]
  by_cases hji : j = i
  · subst hji
    simp only [if_true, List.zipWith_append _ _ _ _ _ hlen]
    rfl
  · have h1 : a4091OffsetAutoconfig + i * 4 ≠ a4091OffsetAutoconfig + j * 4 := by
      unfold a4091OffsetAutoconfig; omega
    have h4 : a4091OffsetAutoconfig + i * 4 + 0x100 ≠ a4091OffsetAutoconfig + j * 4 + 0x100 := by
      unfold a4091OffsetAutoconfig; omega
    simp only [if_neg h1, if_neg h4, if_neg hji, List.append_nil]

/-- Marking register `i` when `b` holds adds one to the count of marked registers
below `n` exactly when it was unmarked and `i < n`. -/
theorem range_filter_mark_length (f : Nat → Bool) (i : Nat) (b : Bool) (n : Nat) :
    ((List.range n).filter fun j => f j || (j == i && b)).length =
      ((List.range n).filter f).length + if i < n ∧ f i = false ∧ b = true then 1 else 0 := by
  induction n with
  | zero => simp
  | succ n ih =>
    simp only [List.range_succ, List.filter_append, List.length_append, ih, List.filter_cons,
      List.filter_nil]
    by_cases hn : n = i
    · subst hn
      cases hf : f n <;> cases b <;> simp [hf]
    · have hni : (n == i) = false := by simpa using hn
      have hlt : (i < n + 1) = (i < n) := propext (by omega)
      simp only [hni, Bool.false_and, Bool.or_false, hlt]
      omega

/-- The pass loop's variables against the log of its reads, with register `i * 4`
read `n i` times: `saw_incorrect[i]` is set exactly when one of its values was wrong,
`rc` counts the registers so marked, and one line was printed for each. -/
structure DeviceLog (p : DevicePass (σ × List (Nat × BitVec 8))) (n : Nat → Nat) : Prop where
  his : ∀ i < numZorroExpectedRegs, (bytesAt p.dev.2 (a4091OffsetAutoconfig + i * 4)).length = n i
  los : ∀ i < numZorroExpectedRegs,
    (bytesAt p.dev.2 (a4091OffsetAutoconfig + i * 4 + 0x100)).length = n i
  saw : ∀ i < numZorroExpectedRegs,
    p.sawIncorrect i = (cregReads p.dev.2 (i * 4)).any (· != zorroExpectedRegs.getD i 0)
  rc : p.rc = ((List.range numZorroExpectedRegs).filter p.sawIncorrect).length
  lines : (p.reports.filter DeviceReport.isMismatch).length = p.rc

namespace DeviceLog

variable {p q : DevicePass (σ × List (Nat × BitVec 8))} {n : Nat → Nat}

theorem congr (h : DeviceLog p n) (n' : Nat → Nat) (hn : ∀ i < numZorroExpectedRegs, n i = n' i) :
    DeviceLog p n' :=
  ⟨fun i hi => (h.his i hi).trans (hn i hi), fun i hi => (h.los i hi).trans (hn i hi), h.saw, h.rc,
    h.lines⟩

/-- One read of register `i * 4` that returns keeps the log correct, with one more
read of that register. -/
theorem read (c : Card σ) {t i : Nat} (h : DeviceLog p n) (hi : i < numZorroExpectedRegs)
    (hq : deviceAccessReg c.logged t p i = .ok q) :
    DeviceLog q (fun j => if j = i then n j + 1 else n j) := by
  have h6 : numZorroExpectedRegs = 6 := rfl
  have hlen : ∀ j < numZorroExpectedRegs, (bytesAt p.dev.2 (a4091OffsetAutoconfig + j * 4)).length =
      (bytesAt p.dev.2 (a4091OffsetAutoconfig + j * 4 + 0x100)).length :=
    fun j hj => (h.his j hj).trans (h.los j hj).symm
  obtain rfl := deviceAccessReg_ok c.logged hq
  clear hq
  dsimp only [getCreg_logged, Card.logged_readSystemTicks]
  generalize hv : (getCreg c (i * 4) p.dev.1).1 = v
  have hv' : cregValue (c.read8 (a4091OffsetAutoconfig + i * 4) p.dev.1).1
      (c.read8 (a4091OffsetAutoconfig + i * 4 + 0x100)
        (c.read8 (a4091OffsetAutoconfig + i * 4) p.dev.1).2).1 = v := hv
  generalize (c.read8 (a4091OffsetAutoconfig + i * 4 + 0x100)
    (c.read8 (a4091OffsetAutoconfig + i * 4) p.dev.1).2).1 = lb at hv' ⊢
  generalize (c.read8 (a4091OffsetAutoconfig + i * 4) p.dev.1).1 = hb at hv' ⊢
  refine ⟨fun j hj => ?_, fun j hj => ?_, fun j hj => ?_, ?_, ?_⟩
  · have := h.his j hj
    simp only [bytesAt_append_single, List.length_append, a4091OffsetAutoconfig,
      Nat.zero_add] at this ⊢
    rw [h6] at hi hj
    split_ifs <;> simp only [List.length_singleton, List.length_nil] <;> omega
  · have := h.los j hj
    simp only [bytesAt_append_single, List.length_append, a4091OffsetAutoconfig,
      Nat.zero_add] at this ⊢
    rw [h6] at hi hj
    split_ifs <;> simp only [List.length_singleton, List.length_nil] <;> omega
  · rw [h6] at hi hj
    rw [cregReads_read (by omega) (by omega) (hlen j (by rw [h6]; exact hj)), List.any_append,
      ← h.saw j (by rw [h6]; exact hj), hv']
    by_cases hji : j = i
    · subst hji
      simp
    · simp [hji]
  · rw [range_filter_mark_length, ← h.rc]
    simp [hi, and_comm]
  · rw [List.filter_append, List.length_append, h.lines]
    split_ifs <;> rfl

end DeviceLog

-- ---------------------------------------------------------------------------
-- The loops
-- ---------------------------------------------------------------------------

/-- An invariant of the steps of a fold in `Except` holds of what the fold returns,
and a property of every error a step can raise holds of the fold's error. -/
theorem foldlM_except_inv {ε α β : Type} {f : α → β → Except ε α} (P : α → Prop) (Q : ε → Prop)
    {l : List β} (h : ∀ a, ∀ b ∈ l, P a → (∀ a', f a b = .ok a' → P a') ∧ ∀ e, f a b = .error e → Q e) :
    ∀ a, P a → (∀ a', l.foldlM f a = .ok a' → P a') ∧ ∀ e, l.foldlM f a = .error e → Q e := by
  induction l with
  | nil => exact fun a ha => ⟨fun a' he => by cases he; exact ha, fun e he => (nomatch he)⟩
  | cons b l ih =>
    intro a ha
    obtain ⟨hok, herr⟩ := h a b (List.mem_cons_self b l) ha
    rw [List.foldlM_cons]
    cases hb : f a b with
    | error e => exact ⟨fun a' he => (nomatch he), fun e' he => by cases he; exact herr e hb⟩
    | ok a'' => exact ih (fun a b hb => h a b (List.mem_cons_of_mem _ hb)) a'' (hok a'' hb)

section Loops

variable (c : Card σ)

end Loops

-- ---------------------------------------------------------------------------
-- The whole test
-- ---------------------------------------------------------------------------

section Test

variable (c : Card σ)

end Test

-- ---------------------------------------------------------------------------
-- A card that reads right
-- ---------------------------------------------------------------------------

section Right

variable (c : Card σ)

variable {c} (hright : ∀ i < numZorroExpectedRegs, ∀ s, (getCreg c (i * 4) s).1 = zorroExpectedRegs.getD i 0)
include hright

end Right

end A4091
