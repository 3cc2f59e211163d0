import A4091.Ncr53c710

/-!
# A4091 — the wait loops and `access_timeout`

The tool waits on the 53C710 in five loops: the DSTAT.ABRT wait of
`a4091_abort`, the ISTAT.RST wait of `a4091_state_takeover`, the completion wait
of `execute_script`, the `ticks < 10` rerun loop of `test_dma_copy_perf`, and
the loop of `dma_init_siop` that clears pending interrupts. Each is a polling
loop: iteration `k` reads what it reads and either leaves with an answer or goes
on to `k + 1`. The model writes each iteration as a function of `k` (its
register reads and clock readings are streams indexed by when they are taken)
and runs it with `pollLoop`, whose fuel bounds the iterations; `none` is a run
that did not leave within the fuel.

The clock is `read_system_ticks`, a 64-bit tick count. A `Clock` is a stream of
readings, each at least one tick and fewer than `2 ^ 30` ticks past the one
before. Readings are the code's `uint64_t` values, far below `2 ^ 64`, and a
later reading is never below an earlier one, so the code's 64-bit subtraction of
`tick_start` from a later reading is exact; `access_timeout` compares the low 32
bits of the difference, as signed integers.

## Results

* `pollLoop_isSome_of_exit`, `pollLoop_eq_none`, `pollLoop_terminates_iff` — a
  polling loop leaves exactly when some iteration would leave.
* `readSystemTicks_eq_ticks`, `accessTimeout_dateStamps` — on date stamps,
  `access_timeout` fires exactly when the elapsed ticks modulo `2 ^ 32` exceed the
  budget and are not a negative `int`: not when they exceed it, past `2 ^ 31` ticks.
* `Clock.timeout_within` — with a budget below `2 ^ 30`, `access_timeout`
  fires by the `budget + 1`-th reading after `tick_start`.
* `a4091AbortWait_terminates`, `takeoverRstWait_terminates`,
  `executeScript_terminates`, `testDmaCopyPerfRerun_terminates` — the four timed
  loops leave within a fixed number of iterations, whatever the card returns.
* `dmaInitSiopDrain_terminates_iff` — the drain loop of `dma_init_siop` leaves
  only if some ISTAT read has DIP and SIP clear: an ISTAT stuck with DIP or SIP
  set keeps it spinning.
-/

namespace A4091

-- ---------------------------------------------------------------------------
-- Polling loops
-- ---------------------------------------------------------------------------

/-- A polling loop from iteration `k`, with `fuel` iterations left: iteration `k`
either leaves with an answer or goes on to `k + 1`. -/
def pollLoop {α : Type} (exit : Nat → Option α) : Nat → Nat → Option α
  | 0, _ => none
  | fuel + 1, k =>
    match exit k with
    | some a => some a
    | none => pollLoop exit fuel (k + 1)

section PollLoop

variable {α : Type} {exit : Nat → Option α}

/-- An iteration within the fuel that would leave makes the loop leave. -/
theorem pollLoop_isSome_of_exit :
    ∀ {fuel k m : Nat}, k ≤ m → m < k + fuel → (exit m).isSome → (pollLoop exit fuel k).isSome
  | 0, _, _, hkm, hm, _ => absurd hm (by omega)
  | fuel + 1, k, m, hkm, hm, hexit => by
    simp only [pollLoop]
    split
    · rfl
    · rename_i hk
      have hne : k ≠ m := by rintro rfl; simp [hk] at hexit
      exact pollLoop_isSome_of_exit (by omega) (by omega) hexit

/-- A loop none of whose iterations would leave never leaves, whatever the fuel. -/
theorem pollLoop_eq_none {k : Nat} (h : ∀ m, k ≤ m → exit m = none) :
    ∀ fuel, pollLoop exit fuel k = none
  | 0 => rfl
  | fuel + 1 => by
    simp only [pollLoop, h k le_rfl]
    exact pollLoop_eq_none (fun m hm => h m (by omega)) fuel

/-- A polling loop leaves, given enough fuel, exactly when some iteration from
`k` on would leave. -/
theorem pollLoop_terminates_iff {k : Nat} :
    (∃ fuel, (pollLoop exit fuel k).isSome) ↔ ∃ m, k ≤ m ∧ (exit m).isSome := by
  constructor
  · rintro ⟨fuel, hfuel⟩
    by_contra hno
    push_neg at hno
    rw [pollLoop_eq_none (fun m hm => Option.not_isSome_iff_eq_none.mp (hno m hm))] at hfuel
    exact absurd hfuel (by simp)
  · rintro ⟨m, hkm, hm⟩
    exact ⟨m + 1, pollLoop_isSome_of_exit hkm (by omega) hm⟩

end PollLoop

-- ---------------------------------------------------------------------------
-- The clock and `access_timeout`
-- ---------------------------------------------------------------------------

/-- `(int) x` for a value held unsigned: its low 32 bits, as two's complement. -/
def toInt32 (x : Nat) : Int :=
  if x % 2 ^ 32 < 2 ^ 31 then (x % 2 ^ 32 : Nat) else (x % 2 ^ 32 : Nat) - 2 ^ 32

theorem toInt32_of_lt {x : Nat} (h : x < 2 ^ 31) : toInt32 x = x := by
  have hx : x % 2 ^ 32 = x := Nat.mod_eq_of_lt (by omega)
  rw [toInt32, hx, if_pos h]

/-- `access_timeout(msg, ticks, tick_start)` when `read_system_ticks` returns
`tickEnd`: a reading before `tick_start` is reported and counts as no timeout;
otherwise `(int) (tick_end - tick_start) > (int) ticks`. -/
def accessTimeout (ticks tickStart tickEnd : Nat) : Bool :=
  if tickEnd < tickStart then false
  else decide (toInt32 ticks < toInt32 (tickEnd - tickStart))

/-- Below `2 ^ 31` ticks the comparison is the plain one. -/
theorem accessTimeout_of_lt {ticks tickStart tickEnd : Nat} (hticks : ticks < 2 ^ 31)
    (hle : tickStart ≤ tickEnd) (hlt : tickEnd - tickStart < 2 ^ 31) :
    accessTimeout ticks tickStart tickEnd = decide (ticks < tickEnd - tickStart) := by
  simp only [accessTimeout, toInt32_of_lt hticks, toInt32_of_lt hlt, Nat.cast_lt]
  simp [show ¬ tickEnd < tickStart by omega]

-- ---------------------------------------------------------------------------
-- `read_system_ticks` on date stamps
-- ---------------------------------------------------------------------------

/-- `TICKS_PER_SECOND` of the host's `dos/dos.h`. -/
def ticksPerSecond : Nat := 50

/-- A `struct DateStamp` as `DateStamp()` fills it: `ds_Days`, `ds_Minute` and
`ds_Tick`, each a `LONG`, here at their non-negative values. -/
structure DateStamp where
  days : Nat
  minute : Nat
  tick : Nat
  deriving DecidableEq, Repr

/-- A date stamp the clock can show: `ds_Minute < 1440` and
`ds_Tick < 60 * TICKS_PER_SECOND`. -/
def DateStamp.Valid (ds : DateStamp) : Prop := ds.minute < 1440 ∧ ds.tick < 60 * ticksPerSecond

/-- The lexicographic order of date stamps. -/
def DateStamp.Le (s e : DateStamp) : Prop :=
  s.days < e.days ∨ s.days = e.days ∧ (s.minute < e.minute ∨ s.minute = e.minute ∧ s.tick ≤ e.tick)

instance (ds : DateStamp) : Decidable ds.Valid := inferInstanceAs (Decidable (_ ∧ _))

instance (s e : DateStamp) : Decidable (s.Le e) := inferInstanceAs (Decidable (_ ∨ _))

/-- The ticks since day 0 that a date stamp stands for. -/
def DateStamp.ticks (ds : DateStamp) : Nat :=
  (ds.days * 1440 + ds.minute) * 60 * ticksPerSecond + ds.tick

/-- `read_system_ticks()` when `DateStamp()` gives `ds`: `ds_Days * 24 * 60 + ds_Minute`
is computed in 32-bit `LONG` arithmetic, then widened to `uint64_t`, scaled and
added to in 64 bits. -/
def readSystemTicks (ds : DateStamp) : Nat :=
  ((toInt32 (ds.days * 24 * 60 + ds.minute) % 2 ^ 64).toNat * 60 * ticksPerSecond + ds.tick) %
    2 ^ 64

/-- Of two valid date stamps, the later one stands for more ticks. -/
theorem DateStamp.ticks_le_of_le {s e : DateStamp} (hs : s.Valid) (he : e.Valid) (h : s.Le e) :
    s.ticks ≤ e.ticks := by
  unfold DateStamp.Valid DateStamp.Le DateStamp.ticks ticksPerSecond at *
  rcases h with h | ⟨hd, h | ⟨hm, ht⟩⟩
  · have : (s.days + 1) * 1440 ≤ e.days * 1440 := Nat.mul_le_mul_right _ h
    omega
  · omega
  · omega

/-- While the minutes fit in a `LONG`, `read_system_ticks` is the tick count of the
date stamp. -/
theorem readSystemTicks_eq_ticks {ds : DateStamp} (hv : ds.Valid)
    (h : ds.days * 1440 + ds.minute < 2 ^ 31) : readSystemTicks ds = ds.ticks := by
  unfold readSystemTicks DateStamp.ticks
  rw [show ds.days * 24 * 60 = ds.days * 1440 by omega, toInt32_of_lt h]
  unfold DateStamp.Valid ticksPerSecond at *
  rw [Int.emod_eq_of_lt (by omega) (by omega), Int.toNat_natCast, Nat.mod_eq_of_lt (by omega)]

/-- `(int) d > (int) ticks` for a budget below `2 ^ 31`: the low 32 bits of `d`
exceed the budget and are not a negative `int`. -/
theorem toInt32_lt_toInt32_iff {t d : Nat} (ht : t < 2 ^ 31) :
    toInt32 t < toInt32 d ↔ t < d % 2 ^ 32 ∧ d % 2 ^ 32 < 2 ^ 31 := by
  rw [toInt32_of_lt ht, toInt32]
  split <;> omega

/-- `access_timeout(msg, ticks, tick_start)` with `tick_start` read at `s` and the
clock at `e`, for valid date stamps `s ≤ e` whose minutes fit in a `LONG` and a
budget below `2 ^ 31`: it fires exactly when the elapsed ticks, taken modulo
`2 ^ 32`, exceed the budget and stay below `2 ^ 31`. -/
theorem accessTimeout_dateStamps {s e : DateStamp} (hs : s.Valid) (he : e.Valid) (hle : s.Le e)
    (hlong : e.days * 1440 + e.minute < 2 ^ 31) {ticks : Nat} (hticks : ticks < 2 ^ 31) :
    accessTimeout ticks (readSystemTicks s) (readSystemTicks e) =
      decide (ticks < (e.ticks - s.ticks) % 2 ^ 32 ∧ (e.ticks - s.ticks) % 2 ^ 32 < 2 ^ 31) := by
  have hst := DateStamp.ticks_le_of_le hs he hle
  have hslong : s.days * 1440 + s.minute < 2 ^ 31 := by
    unfold DateStamp.Valid DateStamp.ticks ticksPerSecond at *
    omega
  rw [readSystemTicks_eq_ticks hs hslong, readSystemTicks_eq_ticks he hlong, accessTimeout,
    if_neg (by omega)]
  exact decide_eq_decide.mpr (toInt32_lt_toInt32_iff hticks)

/-- 498 days after day 0, with a budget of 0 ticks: 2,151,360,000 ticks have
elapsed, whose low 32 bits are a negative `int`, and the deadline, long past, is not
reported. -/
theorem accessTimeout_after_498_days :
    DateStamp.Valid ⟨0, 0, 0⟩ ∧ DateStamp.Valid ⟨498, 0, 0⟩ ∧
      DateStamp.Le ⟨0, 0, 0⟩ ⟨498, 0, 0⟩ ∧ 498 * 1440 + 0 < 2 ^ 31 ∧ (0 : Nat) < 2 ^ 31 ∧
      DateStamp.ticks ⟨498, 0, 0⟩ - DateStamp.ticks ⟨0, 0, 0⟩ = 2151360000 ∧
      accessTimeout 0 (readSystemTicks ⟨0, 0, 0⟩) (readSystemTicks ⟨498, 0, 0⟩) = false :=
  ⟨by decide, by decide, by decide, by decide, by decide, by decide,
    (accessTimeout_dateStamps (by decide) (by decide) (by decide) (by decide) (by decide)).trans
      (by decide)⟩

-- ---------------------------------------------------------------------------
-- The clock as the loops read it
-- ---------------------------------------------------------------------------

/-- The readings of `read_system_ticks` in the order the tool takes them: each at
least one tick and fewer than `2 ^ 30` ticks past the one before. -/
structure Clock where
  read : Nat → Nat
  rises : ∀ k, read k < read (k + 1)
  step_lt : ∀ k, read (k + 1) < read k + 2 ^ 30

namespace Clock

variable (c : Clock)

/-- `k` readings on, the clock has moved at least `k` ticks. -/
theorem add_le_read (i : Nat) : ∀ k, c.read i + k ≤ c.read (i + k)
  | 0 => le_rfl
  | k + 1 => by
    have := add_le_read i k
    have := c.rises (i + k)
    show c.read i + (k + 1) ≤ c.read (i + k + 1)
    omega

/-- With a budget below `2 ^ 30`, one of the first `budget + 1` readings after
`tick_start = c.read 0` makes `access_timeout` fire: the first reading past the
budget is past it by fewer than `2 ^ 30` ticks, so its difference is still
positive as a 32-bit `int`. -/
theorem timeout_within {budget : Nat} (hb : budget < 2 ^ 30) :
    ∃ j ≤ budget, accessTimeout budget (c.read 0) (c.read (j + 1)) = true := by
  have step : ∀ j, (∃ i < j, accessTimeout budget (c.read 0) (c.read (i + 1)) = true) ∨
      c.read j ≤ c.read 0 + budget := by
    intro j
    induction j with
    | zero => exact .inr (by omega)
    | succ j ih =>
      rcases ih with ⟨i, hi, ht⟩ | hj
      · exact .inl ⟨i, by omega, ht⟩
      · by_cases hle : c.read (j + 1) ≤ c.read 0 + budget
        · exact .inr hle
        · have hstep := c.step_lt j
          refine .inl ⟨j, by omega, ?_⟩
          rw [accessTimeout_of_lt (by omega) (by omega) (by omega)]
          simp only [decide_eq_true_eq]
          omega
  rcases step (budget + 1) with ⟨i, hi, ht⟩ | hlate
  · exact ⟨i, by omega, ht⟩
  · have := c.add_le_read 0 (budget + 1)
    simp only [Nat.zero_add] at this
    omega

end Clock

-- ---------------------------------------------------------------------------
-- The loops
-- ---------------------------------------------------------------------------

/-- Iteration `k` of a loop that waits for a register bit with a timeout: it
reads the register (`reg k`) and leaves when `bit` is set; otherwise it takes
the reading `clock (k + 1)` (`clock 0` is `tick_start`) and leaves when
`access_timeout(msg, ticks, tick_start)` fires. -/
def bitWaitStep (bit : BitVec 8) (ticks : Nat) (reg : Nat → BitVec 8) (clock : Nat → Nat)
    (k : Nat) : Option Unit :=
  if reg k &&& bit ≠ 0 then some ()
  else if accessTimeout ticks (clock 0) (clock (k + 1)) then some ()
  else none

/-- The wait of `a4091_abort`: `while ((get_ncrreg8(REG_DSTAT) & REG_DSTAT_ABRT) == 0)`,
left when `access_timeout("DSTAT_ABRT timeout", 2, tick_start)` fires. -/
def a4091AbortWait (dstat : Nat → BitVec 8) (clock : Nat → Nat) (fuel : Nat) : Option Unit :=
  pollLoop (bitWaitStep regDstatAbrt 2 dstat clock) fuel 0

/-- The wait of `a4091_state_takeover` after setting ISTAT.RST:
`while ((get_ncrreg8(REG_ISTAT) & REG_ISTAT_RST) == 0)`, left when
`access_timeout("ISTAT_RST timeout", 2, tick_start)` fires. -/
def takeoverRstWait (istat : Nat → BitVec 8) (clock : Nat → Nat) (fuel : Nat) : Option Unit :=
  pollLoop (bitWaitStep regIstatRst 2 istat clock) fuel 0

/-- A bit wait with a budget below `2 ^ 30` leaves within `ticks + 1`
iterations, whatever the register returns. -/
theorem bitWait_terminates (c : Clock) (bit : BitVec 8) {ticks : Nat} (hb : ticks < 2 ^ 30)
    (reg : Nat → BitVec 8) : (pollLoop (bitWaitStep bit ticks reg c.read) (ticks + 1) 0).isSome := by
  obtain ⟨j, hj, ht⟩ := c.timeout_within hb
  refine pollLoop_isSome_of_exit (Nat.zero_le j) (by omega) ?_
  unfold bitWaitStep
  split <;> simp [ht]

theorem a4091AbortWait_terminates (c : Clock) (dstat : Nat → BitVec 8) :
    (a4091AbortWait dstat c.read 3).isSome :=
  bitWait_terminates c _ (by norm_num) dstat

theorem takeoverRstWait_terminates (c : Clock) (istat : Nat → BitVec 8) :
    (takeoverRstWait istat c.read 3).isSome :=
  bitWait_terminates c _ (by norm_num) istat

/-- `REG_ISTAT_ABRT | REG_ISTAT_DIP`: the SCRIPTS processor has stopped. -/
def istatAbrtDip : BitVec 8 := regIstatAbrt ||| regIstatDip

/-- Iteration `count` of the completion wait of `execute_script`. Every eighth
iteration polls ISTAT (`istat n` is the `n`-th poll); every iteration looks at
`a4091_save.ireg_istat`, which the interrupt handler sets (`ireg count` is what it
holds then); every 32nd checks `access_timeout("SIOP timeout", 30, tick_start)`
(`clock (n + 1)` is the `n`-th check's reading). The answer is `rc`. -/
def executeScriptStep (istat ireg : Nat → BitVec 8) (clock : Nat → Nat) (count : Nat) :
    Option Nat :=
  if count % 8 = 0 ∧ istat (count / 8) &&& istatAbrtDip ≠ 0 then some 0
  else if ireg count &&& istatAbrtDip ≠ 0 then some 0
  else if count % 32 = 0 ∧ accessTimeout 30 (clock 0) (clock (count / 32 + 1)) = true then some 1
  else none

/-- The completion wait of `execute_script`, from `count = 0`. -/
def executeScript (istat ireg : Nat → BitVec 8) (clock : Nat → Nat) (fuel : Nat) : Option Nat :=
  pollLoop (executeScriptStep istat ireg clock) fuel 0

/-- `execute_script` returns within `32 * 30 + 1` iterations, whatever the card
and the interrupt handler do: the timeout check at `count = 32 * j` fires for
some `j ≤ 30`. -/
theorem executeScript_terminates (c : Clock) (istat ireg : Nat → BitVec 8) :
    (executeScript istat ireg c.read (32 * 30 + 1)).isSome := by
  obtain ⟨j, hj, ht⟩ := c.timeout_within (show 30 < 2 ^ 30 by norm_num)
  refine pollLoop_isSome_of_exit (Nat.zero_le (32 * j)) (by omega) ?_
  have h32 : 32 * j / 32 + 1 = j + 1 := by omega
  unfold executeScriptStep
  split
  · rfl
  · split
    · rfl
    · simp [h32, ht]

/-- Round `r` of the `ticks < 10` rerun loop of `test_dma_copy_perf`: sixteen
`dma_mem_to_mem_quad` passes (`failed r`: one returned nonzero, and the loop
breaks out with `rc = 1`), then the reading `clock (ends r)`; the rounds go on
while `tick_end - tick_start < 10`, with `tick_start = clock 0`. -/
def testDmaCopyPerfStep (failed : Nat → Bool) (clock ends : Nat → Nat) (r : Nat) : Option Nat :=
  if failed r then some 1
  else if clock (ends r) - clock 0 < 10 then none
  else some 0

/-- The rerun loop of `test_dma_copy_perf`, from round 0. -/
def testDmaCopyPerfRerun (failed : Nat → Bool) (clock ends : Nat → Nat) (fuel : Nat) :
    Option Nat :=
  pollLoop (testDmaCopyPerfStep failed clock ends) fuel 0

/-- The rerun loop leaves within ten rounds: each round ends with a reading
taken after the one before (`ends` rises, after `tick_start`), and the clock
moves at least a tick per reading. -/
theorem testDmaCopyPerfRerun_terminates (c : Clock) (failed : Nat → Bool) {ends : Nat → Nat}
    (h0 : 0 < ends 0) (hends : ∀ r, ends r < ends (r + 1)) :
    (testDmaCopyPerfRerun failed c.read ends 10).isSome := by
  have hlate : ∀ r, r + 1 ≤ ends r := by
    intro r
    induction r with
    | zero => omega
    | succ r ih => have := hends r; omega
  refine pollLoop_isSome_of_exit (Nat.zero_le 9) (by omega) ?_
  have hread := c.add_le_read 0 (ends 9)
  simp only [Nat.zero_add] at hread
  have := hlate 9
  unfold testDmaCopyPerfStep
  split
  · rfl
  · rw [if_neg (by omega)]
    rfl

/-- Iteration `k` of the loop that clears pending interrupts in `dma_init_siop`:
`while (((istat = get_ncrreg8(REG_ISTAT)) & 0x03) != 0)`. The body reads SSTAT0
for SIP and DSTAT for DIP and waits a tick; there is no timeout. -/
def dmaInitSiopDrainStep (istat : Nat → BitVec 8) (k : Nat) : Option Unit :=
  if istat k &&& 0x03 = 0 then some () else none

/-- The drain loop of `dma_init_siop`, from its first ISTAT read. -/
def dmaInitSiopDrain (istat : Nat → BitVec 8) (fuel : Nat) : Option Unit :=
  pollLoop (dmaInitSiopDrainStep istat) fuel 0

/-- The drain loop leaves, given enough iterations, exactly when some ISTAT read
has both DIP and SIP clear: no clock bounds it. -/
theorem dmaInitSiopDrain_terminates_iff (istat : Nat → BitVec 8) :
    (∃ fuel, (dmaInitSiopDrain istat fuel).isSome) ↔ ∃ k, istat k &&& 0x03 = 0 := by
  unfold dmaInitSiopDrain
  rw [pollLoop_terminates_iff]
  simp [dmaInitSiopDrainStep]

/-- A card that clears DIP on the fourth ISTAT read lets the loop leave there. -/
example : dmaInitSiopDrain (fun k => if k < 3 then regIstatDip else 0) 4 = some () := by decide

end A4091
