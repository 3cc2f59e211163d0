import A4091.Ncr53c710

/-!
# A4091 — the walking-bit phase of `test_register_access`

The last phase of `test_register_access` writes a 32-bit pattern to SCRATCH and
the pattern rotated left by one to TEMP, reads both back, and folds what it read
into three masks: `stuck_high` keeps the bits read as 1 every time, `stuck_low`
the bits read as 0 every time, and `pins_diff` every bit ever read wrong. Each
wrong read adds one to `rc`. After 256 rotations from `0xf0e7c3a5` the pins
reported stuck are taken out of `pins_diff`, which then names the pins that are
floating or bridged.

What a read returns is the board's business: `Readback` gives the value a read of
a register returns after a value was written to it. A board with data pins
shorted to VCC or to GND (`StuckPins`) returns the written value with those pins
forced.

## Results

* `walkingBitsStep_pinsDiff`, `walkingBitsStep_rc` — on any board, a rotation ors
  into `pins_diff` what the two reads got wrong and counts each wrong read in `rc`.
* `walkInv_step`, `walkInv_run` — on a board with stuck pins, each rotation keeps
  the masks in closed form over the patterns seen so far, and `rc` unchanged
  exactly while no pattern has met a stuck pin.
* `pattAnd_256`, `pattOr_256` — over the 256 rotations every bit position is
  driven both low and high (six rotations already do it).
* `walkingBits_stuck` — on every board with stuck pins the phase ends with
  `stuck_high` and `stuck_low` exactly the pins stuck at 1 and at 0, nothing
  floating or bridged, and `rc` raised exactly when some pin is stuck.
-/

namespace A4091

open BitVec

-- ---------------------------------------------------------------------------
-- The loop
-- ---------------------------------------------------------------------------

/-- `next = (patt << 1) | (patt >> 31)`. -/
def walkNext (patt : BitVec 32) : BitVec 32 := (patt <<< 1) ||| (patt >>> 31)

/-- The variables of the walking-bit phase. -/
structure WalkState where
  patt      : BitVec 32
  stuckHigh : BitVec 32
  stuckLow  : BitVec 32
  pinsDiff  : BitVec 32
  rc        : Nat
  deriving DecidableEq, Repr

/-- What `get_ncrreg32(reg)` returns after `set_ncrreg32(reg, v)`. -/
abbrev Readback := Nat → BitVec 32 → BitVec 32

/-- One rotation of the loop; the `printf`s of a wrong read are left out. -/
def walkingBitsStep (got : Readback) (s : WalkState) : WalkState :=
  let next := walkNext s.patt
  let gotScratch := got regScratch s.patt
  let gotTemp := got regTemp next
  let diffS := gotScratch ^^^ s.patt
  let diffT := gotTemp ^^^ next
  let pinsDiff := if diffS ≠ 0 then s.pinsDiff ||| diffS else s.pinsDiff
  let rc := if diffS ≠ 0 then s.rc + 1 else s.rc
  { patt := next
    stuckHigh := s.stuckHigh &&& (gotScratch &&& gotTemp)
    stuckLow := s.stuckLow &&& ~~~(gotScratch ||| gotTemp)
    pinsDiff := if diffT ≠ 0 then pinsDiff ||| diffT else pinsDiff
    rc := if diffT ≠ 0 then rc + 1 else rc }

/-- `n` rotations of `for (rot = 0; rot < 256; rot++, patt = next)`. -/
def walkingBitsLoop (got : Readback) : Nat → WalkState → WalkState
  | 0, s => s
  | n + 1, s => walkingBitsLoop got n (walkingBitsStep got s)

/-- The state the loop starts from, with the `rc` of the earlier phases. -/
def walkingBitsInit (rc : Nat) : WalkState := ⟨0xf0e7c3a5, 0xffffffff, 0xffffffff, 0, rc⟩

/-- The walking-bit phase of `test_register_access`: 256 rotations, then
`pins_diff &= ~(stuck_high | stuck_low)`. -/
def walkingBits (got : Readback) (rc : Nat) : WalkState :=
  let s := walkingBitsLoop got 256 (walkingBitsInit rc)
  { s with pinsDiff := s.pinsDiff &&& ~~~(s.stuckHigh ||| s.stuckLow) }

/-- A rotation adds to `pins_diff` what either read got wrong (an `|=` of a zero
difference changes nothing). -/
theorem walkingBitsStep_pinsDiff (got : Readback) (s : WalkState) :
    (walkingBitsStep got s).pinsDiff = s.pinsDiff ||| (got regScratch s.patt ^^^ s.patt) |||
      (got regTemp (walkNext s.patt) ^^^ walkNext s.patt) := by
  simp only [walkingBitsStep]
  split_ifs <;> simp_all

/-- A rotation adds one to `rc` for each read it gets wrong. -/
theorem walkingBitsStep_rc (got : Readback) (s : WalkState) :
    (walkingBitsStep got s).rc = s.rc + (if got regScratch s.patt ^^^ s.patt ≠ 0 then 1 else 0) +
      (if got regTemp (walkNext s.patt) ^^^ walkNext s.patt ≠ 0 then 1 else 0) := by
  simp only [walkingBitsStep]
  split_ifs <;> rfl

/-- A count that grows by one for each nonzero of two masks stays where it was
exactly when both are zero. -/
theorem rc_step_eq_iff {rc rc₀ : Nat} (hle : rc₀ ≤ rc) (x y : BitVec 32) :
    rc + (if x ≠ 0 then 1 else 0) + (if y ≠ 0 then 1 else 0) = rc₀ ↔ rc = rc₀ ∧ x = 0 ∧ y = 0 := by
  by_cases hx : x = 0 <;> by_cases hy : y = 0 <;>
    simp only [hx, hy, ne_eq, not_true_eq_false, not_false_eq_true, if_true, if_false,
      and_true, and_false, iff_false, Nat.add_zero] <;> omega

-- ---------------------------------------------------------------------------
-- The patterns
-- ---------------------------------------------------------------------------

/-- The pattern written to SCRATCH at rotation `k`. -/
def walkPatt : Nat → BitVec 32
  | 0 => 0xf0e7c3a5
  | k + 1 => walkNext (walkPatt k)

/-- The bits set in both patterns of every rotation before `n`. -/
def pattAnd : Nat → BitVec 32
  | 0 => allOnes 32
  | n + 1 => pattAnd n &&& (walkPatt n &&& walkPatt (n + 1))

/-- The bits set in either pattern of some rotation before `n`. -/
def pattOr : Nat → BitVec 32
  | 0 => 0
  | n + 1 => pattOr n ||| (walkPatt n ||| walkPatt (n + 1))

/-- Six rotations drive every bit position low at least once. -/
theorem pattAnd_add_five : ∀ n, pattAnd (n + 5) = 0
  | 0 => by decide
  | n + 1 => by
    rw [show n + 1 + 5 = n + 5 + 1 from rfl, pattAnd, pattAnd_add_five n]
    exact BitVec.zero_and

/-- Five rotations drive every bit position high at least once. -/
theorem pattOr_add_four : ∀ n, pattOr (n + 4) = allOnes 32
  | 0 => by decide
  | n + 1 => by
    rw [show n + 1 + 4 = n + 4 + 1 from rfl, pattOr, pattOr_add_four n, BitVec.allOnes_or]

theorem pattAnd_256 : pattAnd 256 = 0 := pattAnd_add_five 251

theorem pattOr_256 : pattOr 256 = allOnes 32 := pattOr_add_four 252

-- ---------------------------------------------------------------------------
-- Bitwise identities
-- ---------------------------------------------------------------------------

theorem bv32_eq_zero_iff {x : BitVec 32} : x = 0 ↔ ∀ i : Fin 32, x.getLsbD i = false :=
  ⟨fun h i => by simp [h], fun h => by ext i; simp [h i]⟩

theorem bv32_or_eq_zero {x y : BitVec 32} : x ||| y = 0 ↔ x = 0 ∧ y = 0 := by
  simp only [bv32_eq_zero_iff, getLsbD_or, Bool.or_eq_false_iff, forall_and]

/-- Two reads with the same pins forced, anded. -/
theorem forced_and (x y H L : BitVec 32) :
    ((x &&& ~~~L) ||| H) &&& ((y &&& ~~~L) ||| H) = ((x &&& y) &&& ~~~L) ||| H := by
  ext i
  simp only [getLsbD_and, getLsbD_or, getLsbD_not, i.isLt, decide_True, Bool.true_and]
  cases x.getLsbD i <;> cases y.getLsbD i <;> cases H.getLsbD i <;> cases L.getLsbD i <;> rfl

/-- Two reads with the same pins forced, neither of them set. -/
theorem forced_nor (x y H L : BitVec 32) :
    ~~~(((x &&& ~~~L) ||| H) ||| ((y &&& ~~~L) ||| H)) = (~~~(x ||| y) ||| L) &&& ~~~H := by
  ext i
  simp only [getLsbD_and, getLsbD_or, getLsbD_not, i.isLt, decide_True, Bool.true_and]
  cases x.getLsbD i <;> cases y.getLsbD i <;> cases H.getLsbD i <;> cases L.getLsbD i <;> rfl

theorem forced_nor_and (a b H L : BitVec 32) :
    ((~~~a ||| L) &&& ~~~H) &&& ((~~~b ||| L) &&& ~~~H) = (~~~(a ||| b) ||| L) &&& ~~~H := by
  ext i
  simp only [getLsbD_and, getLsbD_or, getLsbD_not, i.isLt, decide_True, Bool.true_and]
  cases a.getLsbD i <;> cases b.getLsbD i <;> cases H.getLsbD i <;> cases L.getLsbD i <;> rfl

-- ---------------------------------------------------------------------------
-- A board with stuck data pins
-- ---------------------------------------------------------------------------

/-- Data pins shorted to VCC (`high`) and to GND (`low`); no pin is both. -/
structure StuckPins where
  high : BitVec 32
  low : BitVec 32
  disjoint : high &&& low = 0

namespace StuckPins

variable (b : StuckPins)

/-- Every read returns the value last written, with the stuck pins forced. -/
def got : Readback := fun _ v => (v &&& ~~~b.low) ||| b.high

/-- The bits a read of `p` gets wrong: a 1 on a pin stuck low, a 0 on a pin stuck
high. -/
def wrong (p : BitVec 32) : BitVec 32 := (p &&& b.low) ||| (~~~p &&& b.high)

theorem got_xor (reg : Nat) (p : BitVec 32) : b.got reg p ^^^ p = b.wrong p := by
  ext i
  have hd := bv32_eq_zero_iff.mp b.disjoint i
  simp only [got, wrong, getLsbD_and, getLsbD_or, getLsbD_not, getLsbD_xor, i.isLt, decide_True,
    Bool.true_and] at hd ⊢
  revert hd
  cases p.getLsbD i <;> cases b.high.getLsbD i <;> cases b.low.getLsbD i <;> decide

/-- A wrong bit is a stuck pin. -/
theorem wrong_or_mask {x : BitVec 32} (hx : x &&& ~~~(b.high ||| b.low) = 0) (p q : BitVec 32) :
    (x ||| b.wrong p ||| b.wrong q) &&& ~~~(b.high ||| b.low) = 0 := by
  rw [bv32_eq_zero_iff] at hx ⊢
  intro i
  have hxi := hx i
  simp only [wrong, getLsbD_and, getLsbD_or, getLsbD_not, i.isLt, decide_True,
    Bool.true_and] at hxi ⊢
  revert hxi
  cases x.getLsbD i <;> cases p.getLsbD i <;> cases q.getLsbD i <;> cases b.high.getLsbD i <;>
    cases b.low.getLsbD i <;> decide

/-- No read has got a bit wrong so far, and two more reads get none wrong,
exactly when the pins stuck high are set in every pattern and the pins stuck
low in none. -/
theorem covered_iff (A O p q : BitVec 32) :
    (b.high &&& ~~~(A &&& (p &&& q)) = 0 ∧ b.low &&& (O ||| (p ||| q)) = 0) ↔
      (b.high &&& ~~~A = 0 ∧ b.low &&& O = 0) ∧ b.wrong p = 0 ∧ b.wrong q = 0 := by
  simp only [bv32_eq_zero_iff, ← forall_and]
  refine forall_congr' fun i => ?_
  simp only [wrong, getLsbD_and, getLsbD_or, getLsbD_not, i.isLt, decide_True, Bool.true_and]
  cases A.getLsbD i <;> cases O.getLsbD i <;> cases p.getLsbD i <;> cases q.getLsbD i <;>
    cases b.high.getLsbD i <;> cases b.low.getLsbD i <;> decide

/-- One rotation on the board: what it does to each mask and to `rc`. -/
theorem step_stuckHigh (s : WalkState) :
    (walkingBitsStep b.got s).stuckHigh =
      s.stuckHigh &&& (((s.patt &&& walkNext s.patt) &&& ~~~b.low) ||| b.high) :=
  congrArg (s.stuckHigh &&& ·) (forced_and _ _ _ _)

theorem step_stuckLow (s : WalkState) :
    (walkingBitsStep b.got s).stuckLow =
      s.stuckLow &&& ((~~~(s.patt ||| walkNext s.patt) ||| b.low) &&& ~~~b.high) :=
  congrArg (s.stuckLow &&& ·) (forced_nor _ _ _ _)

theorem step_pinsDiff (s : WalkState) :
    (walkingBitsStep b.got s).pinsDiff = s.pinsDiff ||| b.wrong s.patt ||| b.wrong (walkNext s.patt) := by
  rw [walkingBitsStep_pinsDiff, got_xor, got_xor]

theorem step_rc (s : WalkState) :
    (walkingBitsStep b.got s).rc = s.rc + (if b.wrong s.patt ≠ 0 then 1 else 0) +
      (if b.wrong (walkNext s.patt) ≠ 0 then 1 else 0) := by
  rw [walkingBitsStep_rc, got_xor, got_xor]

/-- After all 256 rotations the closed forms name exactly the stuck pins. -/
theorem stuckHigh_final : (pattAnd 256 &&& ~~~b.low) ||| b.high = b.high := by
  rw [pattAnd_256]
  ext i
  simp

theorem stuckLow_final : (~~~(pattOr 256) ||| b.low) &&& ~~~b.high = b.low := by
  rw [pattOr_256]
  ext i
  have hd := bv32_eq_zero_iff.mp b.disjoint i
  simp only [getLsbD_and, getLsbD_or, getLsbD_not, getLsbD_allOnes, i.isLt, decide_True,
    Bool.true_and] at hd ⊢
  revert hd
  cases b.high.getLsbD i <;> cases b.low.getLsbD i <;> decide

/-- After all 256 rotations, no read has got a bit wrong exactly when no pin is
stuck. -/
theorem covered_final :
    (b.high &&& ~~~(pattAnd 256) = 0 ∧ b.low &&& pattOr 256 = 0) ↔ b.high ||| b.low = 0 := by
  rw [pattAnd_256, pattOr_256, show ~~~(0 : BitVec 32) = allOnes 32 from BitVec.not_zero,
    BitVec.and_allOnes, BitVec.and_allOnes, bv32_or_eq_zero]

end StuckPins

-- ---------------------------------------------------------------------------
-- The invariant of the loop
-- ---------------------------------------------------------------------------

/-- After `n ≥ 1` rotations on a board with stuck pins, entered with `rc₀`. -/
structure WalkInv (b : StuckPins) (rc₀ n : Nat) (s : WalkState) : Prop where
  patt : s.patt = walkPatt n
  high : s.stuckHigh = (pattAnd n &&& ~~~b.low) ||| b.high
  low : s.stuckLow = (~~~(pattOr n) ||| b.low) &&& ~~~b.high
  diff : s.pinsDiff &&& ~~~(b.high ||| b.low) = 0
  rc_le : rc₀ ≤ s.rc
  rc_eq : s.rc = rc₀ ↔ b.high &&& ~~~(pattAnd n) = 0 ∧ b.low &&& pattOr n = 0

section Walk

variable (b : StuckPins)

/-- The first rotation establishes the invariant. -/
theorem walkInv_first (rc₀ : Nat) :
    WalkInv b rc₀ 1 (walkingBitsStep b.got (walkingBitsInit rc₀)) := by
  have hones : (0xffffffff : BitVec 32) = allOnes 32 := by decide
  refine ⟨rfl, ?_, ?_, ?_, ?_, ?_⟩
  · rw [b.step_stuckHigh]
    simp only [walkingBitsInit, hones, allOnes_and]
    exact congrArg (fun x => (x &&& ~~~b.low) ||| b.high) BitVec.allOnes_and.symm
  · rw [b.step_stuckLow]
    simp only [walkingBitsInit, hones, allOnes_and]
    exact congrArg (fun x => (~~~x ||| b.low) &&& ~~~b.high) BitVec.zero_or.symm
  · rw [b.step_pinsDiff]
    exact b.wrong_or_mask BitVec.zero_and _ _
  · rw [b.step_rc]
    exact Nat.le_add_right_of_le (Nat.le_add_right _ _)
  · have h0 : b.high &&& ~~~(pattAnd 0) = 0 ∧ b.low &&& pattOr 0 = 0 :=
      ⟨by ext i; simp [pattAnd], by ext i; simp [pattOr]⟩
    rw [b.step_rc, pattAnd, pattOr, b.covered_iff, and_iff_right h0]
    exact (rc_step_eq_iff le_rfl _ _).trans (and_iff_right rfl)

/-- One more rotation keeps the invariant. -/
theorem walkInv_step {rc₀ n : Nat} {s : WalkState} (h : WalkInv b rc₀ n s) :
    WalkInv b rc₀ (n + 1) (walkingBitsStep b.got s) := by
  have hq : walkNext s.patt = walkPatt (n + 1) := by rw [h.patt]; rfl
  refine ⟨hq, ?_, ?_, ?_, ?_, ?_⟩
  · rw [b.step_stuckHigh, h.high, forced_and, hq, h.patt]
    rfl
  · rw [b.step_stuckLow, h.low, forced_nor_and, hq, h.patt]
    rfl
  · rw [b.step_pinsDiff]
    exact b.wrong_or_mask h.diff _ _
  · rw [b.step_rc]
    have := h.rc_le
    omega
  · rw [b.step_rc, rc_step_eq_iff h.rc_le, pattAnd, pattOr, b.covered_iff, h.rc_eq, hq, h.patt]

/-- Any number of further rotations keeps the invariant. -/
theorem walkInv_run {rc₀ : Nat} :
    ∀ (n : Nat) {m : Nat} {s : WalkState}, WalkInv b rc₀ m s →
      WalkInv b rc₀ (m + n) (walkingBitsLoop b.got n s)
  | 0, _, _, h => h
  | n + 1, m, s, h => by
    rw [walkingBitsLoop, show m + (n + 1) = m + 1 + n by omega]
    exact walkInv_run n (walkInv_step b h)

/-- On every board whose data pins are stuck at 1 (`high`) or at 0 (`low`), the
walking-bit phase ends with `stuck_high` and `stuck_low` naming exactly those pins,
no pin floating or bridged, and `rc` raised exactly when some pin is stuck. -/
theorem walkingBits_stuck (rc : Nat) :
    (walkingBits b.got rc).stuckHigh = b.high ∧ (walkingBits b.got rc).stuckLow = b.low ∧
      (walkingBits b.got rc).pinsDiff = 0 ∧
      (rc < (walkingBits b.got rc).rc ↔ b.high ||| b.low ≠ 0) := by
  have h : WalkInv b rc 256 (walkingBitsLoop b.got 255 (walkingBitsStep b.got (walkingBitsInit rc))) :=
    walkInv_run b 255 (walkInv_first b rc)
  have hrun : walkingBitsLoop b.got 256 (walkingBitsInit rc) =
      walkingBitsLoop b.got 255 (walkingBitsStep b.got (walkingBitsInit rc)) :=
    walkingBitsLoop.eq_2 b.got _ 255
  simp only [walkingBits, hrun]
  rw [h.high, b.stuckHigh_final, h.low, b.stuckLow_final]
  refine ⟨rfl, rfl, h.diff, ?_⟩
  rw [Nat.lt_iff_le_and_ne, ne_comm, Ne, h.rc_eq, b.covered_final]
  exact and_iff_right h.rc_le

end Walk

end A4091
