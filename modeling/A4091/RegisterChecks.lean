import A4091.Bus

/-!
# A4091 — the first phases of `test_register_access`: reserved and status bits

`test_register_access` starts with a loop of up to a hundred passes. A pass calls
`check_ncrreg_bits` six times; each call reads one register and, when a bit of its
mask reads as 1, prints the register and returns 1, which the pass adds to `rc`. The
loop breaks after the first pass that leaves `rc` nonzero. The fourth call is
labelled "CTEST2" but reads `REG_CTEST0`, for bit 7, which the third call checks
already: CTEST2 is never read. After the loop come `a4091_reset()` and the check
that ISTAT and DSTAT read clear.

The device is any `Bus`; a recorder on it (`Bus.logged`) gives the values each
check read, and `checkReads` and `checkFails` say what a pass of checks reads and how
many of its checks fail, from those values.

## Results

* `checkAll_log` — a run of checks reads their registers in order, and adds one to
  `rc` and prints one line for each value with a bit of its mask set.
* `reservedPasses_run` — on any device, the reserved-bit loop reads whole passes of
  its six registers, every pass but the last clean; it returns the number of failed
  checks of the last pass, with one line for each, and it runs all hundred passes
  exactly when that number is 0. No read is of CTEST2.
* `registerChecks_rc` — the phases before the walking bits return the loop's `rc`
  plus one for each status register that does not read clear after the reset.
-/

namespace A4091

variable {σ : Type}

-- ---------------------------------------------------------------------------
-- `check_ncrreg_bits` and the loop
-- ---------------------------------------------------------------------------

/-- The line `check_ncrreg_bits` prints: "%s reg %02x [value %02x] has %s bits set:
%02x". -/
structure BitsReport where
  regname : String
  reg : Nat
  value : BitVec 8
  modestr : String
  bits : BitVec 8
  deriving DecidableEq, Repr

/-- `check_ncrreg_bits(mode, reg, regname, rbits)`: read `reg`; with a bit of `rbits`
set, print it ("reserved" in mode 0, "unexpected" otherwise) and return 1. -/
def checkNcrregBits (b : Bus σ) (mode reg : Nat) (regname : String) (rbits : BitVec 8) (s : σ) :
    Nat × List BitsReport × σ :=
  let r := b.read8 reg s
  if r.1 &&& rbits ≠ 0 then
    (1, [⟨regname, reg, r.1, if mode = 0 then "reserved" else "unexpected", r.1 &&& rbits⟩], r.2)
  else (0, [], r.2)

/-- `rc`, the device, and the lines printed so far. -/
structure CheckRun (σ : Type) where
  rc : Nat
  dev : σ
  reports : List BitsReport

/-- `rc += check_ncrreg_bits(mode, reg, regname, rbits)` for each `(reg, regname,
rbits)` of `checks`, in order. -/
def checkAll (b : Bus σ) (mode : Nat) (checks : List (Nat × String × BitVec 8)) (r : CheckRun σ) :
    CheckRun σ :=
  checks.foldl (fun r ch =>
    let x := checkNcrregBits b mode ch.1 ch.2.1 ch.2.2 r.dev
    ⟨r.rc + x.1, x.2.2, r.reports ++ x.2.1⟩) r

/-- The six calls of a pass of the reserved-bit loop, as the source makes them; the
fourth, labelled "CTEST2", reads `REG_CTEST0`. The masks are `BIT(1) | BIT(0)`,
`BIT(6)`, `BIT(7) | BIT(1)`, `BIT(7)`, `BIT(4) | BIT(2)` and `BIT(7) | BIT(6)`. -/
def reservedChecks : List (Nat × String × BitVec 8) :=
  [(regScntl1, "SCNTL1", 0x03), (regDstat, "DSTAT", 0x40), (regCtest0, "CTEST0", 0x82),
    (regCtest0, "CTEST2", 0x80), (regIstat, "ISTAT", 0x14), (regDien, "DIEN", 0xc0)]

/-- The two calls after the reset, in mode 1: ISTAT and DSTAT must read clear. -/
def statusChecks : List (Nat × String × BitVec 8) :=
  [(regIstat, "ISTAT", 0xff), (regDstat, "DSTAT", 0x7f)]

/-- `n` passes of `for (pass = 0; pass < 100; pass++) { ...; if (rc != 0) break; }`. -/
def reservedPasses (b : Bus σ) : Nat → CheckRun σ → CheckRun σ
  | 0, r => r
  | n + 1, r =>
    let r := checkAll b 0 reservedChecks r
    if r.rc ≠ 0 then r else reservedPasses b n r

/-- `test_register_access` before the walking bits: the reserved-bit loop,
`a4091_reset()`, and the status checks. -/
def registerChecks (b : Bus σ) (s : σ) : CheckRun σ :=
  let r := reservedPasses b 100 ⟨0, s, []⟩
  checkAll b 1 statusChecks { r with dev := a4091ResetOn b r.dev }

-- ---------------------------------------------------------------------------
-- What a run of checks reads
-- ---------------------------------------------------------------------------

/-- The reads a run of `checks` makes when the device answers `vals`. -/
def checkReads (checks : List (Nat × String × BitVec 8)) (vals : List (BitVec 8)) : List RegAccess :=
  List.zipWith (fun ch v => .read ch.1 v) checks vals

/-- How many of `checks` fail when the device answers `vals`: those whose value has a
bit of the mask set. -/
def checkFails : List (Nat × String × BitVec 8) → List (BitVec 8) → Nat
  | ch :: chs, v :: vs => (if v &&& ch.2.2 ≠ 0 then 1 else 0) + checkFails chs vs
  | _, _ => 0

/-- A run with the device seen through `f`. -/
def CheckRun.map {τ : Type} (f : σ → τ) (r : CheckRun σ) : CheckRun τ := ⟨r.rc, f r.dev, r.reports⟩

@[simp] theorem CheckRun.map_rc {τ : Type} (f : σ → τ) (r : CheckRun σ) : (r.map f).rc = r.rc := rfl

@[simp] theorem CheckRun.map_reports {τ : Type} (f : σ → τ) (r : CheckRun σ) :
    (r.map f).reports = r.reports := rfl

section Checks

variable (b : Bus σ)

theorem checkNcrregBits_rc (mode reg : Nat) (regname : String) (rbits : BitVec 8) (s : σ) :
    (checkNcrregBits b mode reg regname rbits s).1 =
      if (b.read8 reg s).1 &&& rbits ≠ 0 then 1 else 0 := by
  dsimp only [checkNcrregBits]; split <;> rfl

theorem checkNcrregBits_reports (mode reg : Nat) (regname : String) (rbits : BitVec 8) (s : σ) :
    (checkNcrregBits b mode reg regname rbits s).2.1.length = (checkNcrregBits b mode reg regname rbits s).1 := by
  dsimp only [checkNcrregBits]; split <;> rfl

theorem checkNcrregBits_log (mode reg : Nat) (regname : String) (rbits : BitVec 8)
    (p : σ × List RegAccess) :
    (checkNcrregBits b.logged mode reg regname rbits p).2.2.2 = p.2 ++ [.read reg (b.read8 reg p.1).1] := by
  dsimp only [checkNcrregBits]; split <;> rfl

theorem checkAll_logged (mode : Nat) (checks : List (Nat × String × BitVec 8))
    (r : CheckRun (σ × List RegAccess)) :
    (checkAll b.logged mode checks r).map Prod.fst = checkAll b mode checks (r.map Prod.fst) :=
  (List.foldl_hom _ _ _ checks r fun q ch => by
    simp only [checkNcrregBits, Bus.logged_read8, CheckRun.map]
    split_ifs <;> rfl).symm

theorem reservedPasses_logged (n : Nat) : ∀ r : CheckRun (σ × List RegAccess),
    (reservedPasses b.logged n r).map Prod.fst = reservedPasses b n (r.map Prod.fst) := by
  induction n with
  | zero => intro r; rfl
  | succ n ih =>
    intro r
    simp only [reservedPasses, ← checkAll_logged b 0 reservedChecks r, CheckRun.map_rc]
    split_ifs
    · rfl
    · exact ih _

/-- A run of checks reads their registers in order, and adds one to `rc`, with one
line, for each value read with a bit of its mask set. -/
theorem checkAll_log (mode : Nat) (checks : List (Nat × String × BitVec 8)) :
    ∀ r : CheckRun (σ × List RegAccess), ∃ vals : List (BitVec 8), vals.length = checks.length ∧
      (checkAll b.logged mode checks r).dev.2 = r.dev.2 ++ checkReads checks vals ∧
      (checkAll b.logged mode checks r).rc = r.rc + checkFails checks vals ∧
      (checkAll b.logged mode checks r).reports.length = r.reports.length + checkFails checks vals := by
  induction checks with
  | nil => intro r; exact ⟨[], rfl, by simp [checkAll, checkReads], rfl, rfl⟩
  | cons ch chs ih =>
    intro r
    obtain ⟨vals, hl, hlog, hrc, hrep⟩ := ih ⟨r.rc + (checkNcrregBits b.logged mode ch.1 ch.2.1 ch.2.2 r.dev).1,
      (checkNcrregBits b.logged mode ch.1 ch.2.1 ch.2.2 r.dev).2.2,
      r.reports ++ (checkNcrregBits b.logged mode ch.1 ch.2.1 ch.2.2 r.dev).2.1⟩
    refine ⟨(b.read8 ch.1 r.dev.1).1 :: vals, by rw [List.length_cons, hl, List.length_cons], ?_, ?_, ?_⟩
    · rw [checkAll, List.foldl_cons, ← checkAll, hlog, checkNcrregBits_log]
      simp [checkReads]
    · rw [checkAll, List.foldl_cons, ← checkAll, hrc, checkNcrregBits_rc, checkFails, ← Nat.add_assoc]
      rfl
    · rw [checkAll, List.foldl_cons, ← checkAll, hrep, List.length_append, checkNcrregBits_reports,
        checkNcrregBits_rc, checkFails, ← Nat.add_assoc]
      rfl

end Checks

-- ---------------------------------------------------------------------------
-- The reserved-bit loop
-- ---------------------------------------------------------------------------

section Loop

variable (b : Bus σ)

/-- The loop from a clean start, `n + 1` passes at most: whole passes, every one but
the last clean, and `rc` and the lines printed those of the last. -/
theorem reservedPasses_log (n : Nat) : ∀ r : CheckRun (σ × List RegAccess), r.rc = 0 →
    r.reports.length = 0 → ∃ clean : List (List (BitVec 8)), ∃ last : List (BitVec 8),
      (∀ vs ∈ clean, vs.length = 6 ∧ checkFails reservedChecks vs = 0) ∧ last.length = 6 ∧
      clean.length ≤ n ∧
      (reservedPasses b.logged (n + 1) r).dev.2 =
        r.dev.2 ++ ((clean ++ [last]).map (checkReads reservedChecks)).flatten ∧
      (reservedPasses b.logged (n + 1) r).rc = checkFails reservedChecks last ∧
      (reservedPasses b.logged (n + 1) r).reports.length = checkFails reservedChecks last ∧
      ((reservedPasses b.logged (n + 1) r).rc = 0 → clean.length = n) := by
  induction n with
  | zero =>
    intro r h0 hr0
    obtain ⟨vals, hl, hlog, hrc, hrep⟩ := checkAll_log b 0 reservedChecks r
    have he : reservedPasses b.logged 1 r = checkAll b.logged 0 reservedChecks r := by
      simp only [reservedPasses]; split_ifs <;> rfl
    rw [he]
    exact ⟨[], vals, by simp, hl, le_rfl, by rw [hlog]; simp, by rw [hrc, h0, Nat.zero_add],
      by rw [hrep, hr0, Nat.zero_add], fun _ => rfl⟩
  | succ n ih =>
    intro r h0 hr0
    obtain ⟨vals, hl, hlog, hrc, hrep⟩ := checkAll_log b 0 reservedChecks r
    rw [h0, Nat.zero_add] at hrc
    rw [hr0, Nat.zero_add] at hrep
    by_cases hf : checkFails reservedChecks vals = 0
    · have he : reservedPasses b.logged (n + 1 + 1) r =
          reservedPasses b.logged (n + 1) (checkAll b.logged 0 reservedChecks r) := by
        simp only [reservedPasses]
        rw [if_neg (by rw [hrc, hf]; exact fun h => h rfl)]
      obtain ⟨clean, last, hc, hlast, hlen, hlog', hrc', hrep', hall⟩ :=
        ih _ (hrc.trans hf) (hrep.trans hf)
      rw [he]
      refine ⟨vals :: clean, last, List.forall_mem_cons.mpr ⟨⟨hl, hf⟩, hc⟩, hlast,
        by rw [List.length_cons]; omega, ?_, hrc', hrep', fun h => by rw [List.length_cons, hall h]⟩
      rw [hlog', hlog]
      simp
    · have he : reservedPasses b.logged (n + 1 + 1) r = checkAll b.logged 0 reservedChecks r := by
        simp only [reservedPasses]
        rw [if_pos (by rw [hrc]; exact hf)]
      rw [he]
      exact ⟨[], vals, by simp, hl, Nat.zero_le _, by rw [hlog]; simp, hrc, hrep,
        fun h => absurd (hrc.symm.trans h) hf⟩

end Loop

theorem registerChecks_logged (b : Bus σ) (s : σ) :
    (registerChecks b.logged (s, [])).map Prod.fst = registerChecks b s := by
  have hsim : (reservedPasses b.logged 100 ⟨0, (s, []), []⟩).map Prod.fst =
      reservedPasses b 100 ⟨0, s, []⟩ := reservedPasses_logged b 100 _
  dsimp only [registerChecks]
  rw [checkAll_logged, ← hsim]
  rfl

/-- The phases before the walking bits return the reserved-bit loop's `rc` plus one
for each of ISTAT and DSTAT that does not read clear after the reset (the two reads
that end the log), and print one line for each unit of `rc`. -/
theorem registerChecks_rc (b : Bus σ) (s : σ) : ∃ vals : List (BitVec 8), vals.length = 2 ∧
    (registerChecks b s).rc = (reservedPasses b 100 ⟨0, s, []⟩).rc + checkFails statusChecks vals ∧
    (registerChecks b s).reports.length = (registerChecks b s).rc ∧
    (registerChecks b.logged (s, [])).dev.2 =
      (a4091ResetOn b.logged (reservedPasses b.logged 100 ⟨0, (s, []), []⟩).dev).2 ++
        checkReads statusChecks vals := by
  obtain ⟨_, _, -, -, -, -, hrc, hrep, -⟩ := reservedPasses_log b 99 ⟨0, (s, []), []⟩ rfl rfl
  have hsim : (reservedPasses b.logged 100 ⟨0, (s, []), []⟩).map Prod.fst =
      reservedPasses b 100 ⟨0, s, []⟩ := reservedPasses_logged b 100 _
  rw [← registerChecks_logged b s, ← hsim, CheckRun.map_rc, CheckRun.map_reports]
  generalize hr : reservedPasses b.logged 100 ⟨0, (s, []), []⟩ = r at hrc hrep
  obtain ⟨vals, hl, hlog, hrc2, hrep2⟩ :=
    checkAll_log b 1 statusChecks ⟨r.rc, a4091ResetOn b.logged r.dev, r.reports⟩
  have hreg : registerChecks b.logged (s, []) =
      checkAll b.logged 1 statusChecks ⟨r.rc, a4091ResetOn b.logged r.dev, r.reports⟩ := by
    rw [← hr]; rfl
  rw [hreg]
  exact ⟨vals, hl, hrc2, by rw [hrc2, hrep2, hrep, hrc], hlog⟩

end A4091
