import A4091.Ncr53c710
import Mathlib.Logic.Function.Basic

/-!
# A4091 — the SIOP's registers across takeover and restore

The register half of `a4091_state_takeover` and `a4091_state_restore` (their
interrupt-chain half is `A4091.Session`). The 53C710's registers are a byte per
register offset. `set_ncrreg8(reg, v)` stores `v` in register `reg`; a store into
ISTAT with RST set first resets the chip. What the reset does to the registers is
the chip's business, and the model keeps it as a parameter (`ChipReset`).

A run of the tool's tests between takeover and restore is any list of register
writes. Takeover reads ISTAT, soft-resets the chip twice and clears RST; restore
is `a4091_reset`, which sets DCNTL, SCID and DWT to fixed values. The save of
`reg_00 .. reg_3c` and their restore are compiled out (`#if 0`), so no register
is put back.

## Results

* `setNcrreg8s_eq_of_not_mem` — a register no write names, and that the chip reset
  leaves, keeps its value.
* `a4091Reset_scid`, `a4091Reset_dcntl`, `a4091Reset_dwt`, `a4091Reset_istat` —
  what `a4091_reset` leaves in the registers it writes, from any register file.
* `takeover_restore_regs` — after takeover, any tests and restore, SCID, DCNTL,
  DWT and ISTAT hold `a4091_reset`'s values, and every other register the tests
  did not write and the chip reset leaves holds its value from before takeover.
-/

namespace A4091

/-- The SIOP's registers: the byte at each register offset. -/
abbrev RegFile := Nat → BitVec 8

/-- What the chip does to its registers when ISTAT.RST is written set. -/
abbrev ChipReset := RegFile → RegFile

/-- `set_ncrreg8(reg, v)`: a store into ISTAT with RST set resets the chip, then
the register takes `v`. -/
def setNcrreg8 (rst : ChipReset) (f : RegFile) (reg : Nat) (v : BitVec 8) : RegFile :=
  Function.update (if reg = regIstat ∧ v &&& regIstatRst ≠ 0 then rst f else f) reg v

/-- A sequence of `set_ncrreg8` stores, in order. -/
def setNcrreg8s (rst : ChipReset) (f : RegFile) (ws : List (Nat × BitVec 8)) : RegFile :=
  ws.foldl (fun f w => setNcrreg8 rst f w.1 w.2) f

/-- The stores of `a4091_reset` (its reads of ISTAT only push the writes out). -/
def a4091ResetWrites : List (Nat × BitVec 8) :=
  [(regDcntl, regDcntlEa), (regIstat, regIstatRst), (regIstat, 0), (regScid, 0x80),
    (regDcntl, regDcntlEa), (regDwt, 0xff)]

/-- `a4091_reset`. -/
def a4091Reset (rst : ChipReset) (f : RegFile) : RegFile := setNcrreg8s rst f a4091ResetWrites

/-- The stores of `a4091_state_takeover` for a released card, given the ISTAT it
read into `a4091_save.reg_istat`: the soft reset, then the reset whose end the
RST wait polls for, then RST cleared. -/
def takeoverWrites (regIstatSaved : BitVec 8) : List (Nat × BitVec 8) :=
  [(regIstat, regIstatSaved ||| regIstatRst), (regIstat, regIstatSaved),
    (regIstat, regIstatSaved ||| regIstatRst), (regIstat, regIstatSaved &&& ~~~regIstatRst)]

/-- The register half of `a4091_state_takeover` for a released card. -/
def a4091StateTakeoverRegs (rst : ChipReset) (f : RegFile) : RegFile :=
  setNcrreg8s rst f (takeoverWrites (f regIstat))

/-- The register half of `a4091_state_restore` for an owned card. -/
def a4091StateRestoreRegs (rst : ChipReset) (f : RegFile) : RegFile := a4091Reset rst f

@[simp] theorem setNcrreg8s_nil (rst : ChipReset) (f : RegFile) : setNcrreg8s rst f [] = f := rfl

@[simp] theorem setNcrreg8s_cons (rst : ChipReset) (f : RegFile) (w : Nat × BitVec 8)
    (ws : List (Nat × BitVec 8)) :
    setNcrreg8s rst f (w :: ws) = setNcrreg8s rst (setNcrreg8 rst f w.1 w.2) ws := rfl

/-- One store leaves a register it does not name, if the chip reset leaves it. -/
theorem setNcrreg8_of_ne {rst : ChipReset} {f : RegFile} {reg r : Nat} (v : BitVec 8)
    (hr : r ≠ reg) (hrst : ∀ g, rst g r = g r) : setNcrreg8 rst f reg v r = f r := by
  unfold setNcrreg8
  rw [Function.update_noteq hr]
  split <;> simp [hrst]

/-- A register no store names, and that the chip reset leaves, keeps its value. -/
theorem setNcrreg8s_eq_of_not_mem {rst : ChipReset} {r : Nat} (hrst : ∀ g, rst g r = g r) :
    ∀ {f : RegFile} {ws : List (Nat × BitVec 8)}, r ∉ ws.map Prod.fst → setNcrreg8s rst f ws r = f r
  | _, [], _ => rfl
  | f, w :: ws, hr => by
    simp only [List.map_cons, List.mem_cons, not_or] at hr
    rw [setNcrreg8s_cons, setNcrreg8s_eq_of_not_mem hrst hr.2, setNcrreg8_of_ne _ hr.1 hrst]

theorem setNcrreg8_same (rst : ChipReset) (f : RegFile) (reg : Nat) (v : BitVec 8) :
    setNcrreg8 rst f reg v reg = v := Function.update_same _ _ _

/-- A store into another register than ISTAT resets nothing. -/
theorem setNcrreg8_of_ne_istat {rst : ChipReset} {f : RegFile} {reg : Nat} (v : BitVec 8)
    (hreg : reg ≠ regIstat) : setNcrreg8 rst f reg v = Function.update f reg v := by
  simp [setNcrreg8, hreg]

/-- `a4091_reset` ends with three plain stores, into SCID, DCNTL and DWT, after it
has cleared ISTAT. -/
theorem a4091Reset_eq (rst : ChipReset) (f : RegFile) :
    a4091Reset rst f = Function.update (Function.update (Function.update
      (setNcrreg8 rst (setNcrreg8 rst (setNcrreg8 rst f regDcntl regDcntlEa) regIstat regIstatRst)
        regIstat 0) regScid 0x80) regDcntl regDcntlEa) regDwt 0xff := by
  show setNcrreg8 rst (setNcrreg8 rst (setNcrreg8 rst _ regScid 0x80) regDcntl regDcntlEa)
    regDwt 0xff = _
  rw [setNcrreg8_of_ne_istat _ (by decide), setNcrreg8_of_ne_istat _ (by decide),
    setNcrreg8_of_ne_istat _ (by decide)]

/-- What `a4091_reset` leaves in the registers it writes, whatever the chip reset
and the registers before. -/
theorem a4091Reset_scid (rst : ChipReset) (f : RegFile) : a4091Reset rst f regScid = 0x80 := by
  rw [a4091Reset_eq, Function.update_noteq (by decide), Function.update_noteq (by decide),
    Function.update_same]

theorem a4091Reset_dcntl (rst : ChipReset) (f : RegFile) :
    a4091Reset rst f regDcntl = regDcntlEa := by
  rw [a4091Reset_eq, Function.update_noteq (by decide), Function.update_same]

theorem a4091Reset_dwt (rst : ChipReset) (f : RegFile) : a4091Reset rst f regDwt = 0xff := by
  rw [a4091Reset_eq, Function.update_same]

theorem a4091Reset_istat (rst : ChipReset) (f : RegFile) : a4091Reset rst f regIstat = 0 := by
  rw [a4091Reset_eq, Function.update_noteq (by decide), Function.update_noteq (by decide),
    Function.update_noteq (by decide), setNcrreg8_same]

/-- Takeover, any register writes of the tests, then restore: SCID, DCNTL, DWT and
ISTAT hold what `a4091_reset` stores, and every other register that the tests did
not write and the chip reset leaves holds its value from before the takeover. -/
theorem takeover_restore_regs (rst : ChipReset) (f : RegFile) (ws : List (Nat × BitVec 8)) :
    let f' := a4091StateRestoreRegs rst (setNcrreg8s rst (a4091StateTakeoverRegs rst f) ws)
    f' regScid = 0x80 ∧ f' regDcntl = regDcntlEa ∧ f' regDwt = 0xff ∧ f' regIstat = 0 ∧
      ∀ r, r ∉ ws.map Prod.fst → r ∉ [regIstat, regScid, regDcntl, regDwt] →
        (∀ g, rst g r = g r) → f' r = f r := by
  refine ⟨a4091Reset_scid _ _, a4091Reset_dcntl _ _, a4091Reset_dwt _ _, a4091Reset_istat _ _,
    fun r hws hfixed hrst => ?_⟩
  simp only [List.mem_cons, List.mem_singleton, not_or] at hfixed
  obtain ⟨hi, hs, hd, hw⟩ := hfixed
  rw [a4091StateRestoreRegs, a4091Reset,
    setNcrreg8s_eq_of_not_mem hrst (by simp [a4091ResetWrites, hi, hs, hd, hw]),
    setNcrreg8s_eq_of_not_mem hrst hws, a4091StateTakeoverRegs,
    setNcrreg8s_eq_of_not_mem hrst (by simp [takeoverWrites, hi])]

/-- The driver had set SCID to `0x40` (SCSI ID 6). With no test between them and a
chip reset that leaves the registers, takeover and restore leave SCID at `0x80`:
`a4091_reset` stores `BIT(7)` there, and nothing puts `0x40` back. -/
theorem takeover_restore_scid :
    (Function.update (fun _ => 0) regScid 0x40 : RegFile) regScid = 0x40 ∧
      a4091StateRestoreRegs id (setNcrreg8s id
        (a4091StateTakeoverRegs id (Function.update (fun _ => 0) regScid 0x40)) []) regScid = 0x80 :=
  ⟨Function.update_same _ _ _, (takeover_restore_regs id _ []).1⟩

end A4091
