import A4091.Fifo
import Mathlib.Data.Nat.Bitwise

/-!
# A4091 — what a FIFO test run shows of any device

`A4091.Fifo` runs the FIFO tests on the 53C710's DMA FIFO. Here the device behind
the register interface is any `Bus`, and a recorder on the bus (`Bus.logged`) keeps
every access of a run. The log shows what the test pushed, a CTEST7 write followed by
a CTEST6 write, and what it popped, a CTEST6 read followed by a CTEST2 read, as the
9-bit values the test compares (`pushedValues`, `poppedValues`). `FifoLog` keeps a log
correct against those values, and against the registers the test may touch, access by
access; each loop of the test keeps it over its whole run.

## Results

* `fifoTest_log` — on any device and under any runtime flags, every run of the FIFO
  test keeps its log correct, and a run that returns 0 pushed the test's 64 values and
  popped them back, in order.
* `fifoTests_pass` — outside UAE, `test_dma_fifo` returning 0 on a device has seen
  that device hand back, lane by lane and in the order pushed, every 9-bit value it was
  given, and so has `test_scsi_fifo`; under UAE `test_dma_fifo` returns 0 untested.
* `testScsiFifo_regs` — `test_scsi_fifo` reaches only the DMA FIFO test's registers:
  it never writes SODL nor reads CTEST3, the two ways into the SCSI FIFO its comment
  describes.
* `fifoTest_logged` — the recorder changes nothing of the run it records.
* `fifoPopLane_prints` — on any device, a lane of the pop loop sets its bit of `rc`
  exactly when one of the sixteen values the log shows it popped mismatched, lists
  three of those mismatches at most (two when the bit was already set) and prints
  "..." once past them.
-/

namespace A4091

variable {σ : Type}

-- ---------------------------------------------------------------------------
-- What the log shows
-- ---------------------------------------------------------------------------

/-- The registers the FIFO tests reach: those of `a4091_reset`, and CTEST1, DSTAT,
CTEST4, CTEST7, CTEST6 and CTEST2. -/
def fifoTestRegs : List Nat :=
  [regDcntl, regIstat, regScid, regDwt, regCtest1, regDstat, regCtest4, regCtest7, regCtest6,
    regCtest2]

namespace RegAccess

/-- An access the FIFO's data does not travel on: one of the tests' registers, read
other than through CTEST6 or CTEST2, written other than through CTEST6 or CTEST7. -/
def quiet : RegAccess → Bool
  | read r _ => fifoTestRegs.contains r && r != regCtest6 && r != regCtest2
  | write r _ => fifoTestRegs.contains r && r != regCtest6 && r != regCtest7

theorem quiet_spec {a : RegAccess} (h : a.quiet = true) :
    a.reg ∈ fifoTestRegs ∧ a.readOf regCtest6 = none ∧ a.readOf regCtest2 = none ∧
      a.writeOf regCtest6 = none ∧ a.writeOf regCtest7 = none := by
  cases a <;> simp_all [quiet, reg, readOf, writeOf]

end RegAccess

/-- The 9-bit values a log shows pushed: each byte written to CTEST6 with the
parity bit of the CTEST7 written before it. -/
def pushedValues (log : List RegAccess) : List (BitVec 16) :=
  List.zipWith fifoValue (log.filterMap (RegAccess.writeOf regCtest6))
    (log.filterMap (RegAccess.writeOf regCtest7))

/-- The 9-bit values a log shows popped: each byte read from CTEST6 with the parity
bit of the CTEST2 read after it. -/
def poppedValues (log : List RegAccess) : List (BitVec 16) :=
  List.zipWith fifoValue (log.filterMap (RegAccess.readOf regCtest6))
    (log.filterMap (RegAccess.readOf regCtest2))

/-- The values the pushes, and the pops, of the `n` seeds after `seed` carry. -/
def fifoExpecteds : BitVec 32 → Nat → List (BitVec 16)
  | _, 0 => []
  | seed, n + 1 => fifoExpected (rand32 seed) :: fifoExpecteds (rand32 seed) n

/-- The 64 values the test pushes and expects back, lane after lane. -/
def fifoPattern : List (BitVec 16) := fifoExpecteds fifoSeed (ncrFifoSize * 4)

theorem fifoExpecteds_add (seed : BitVec 32) (m n : Nat) :
    fifoExpecteds seed (m + n) = fifoExpecteds seed m ++ fifoExpecteds (rand32^[m] seed) n := by
  induction m generalizing seed with
  | zero => rw [Nat.zero_add]; rfl
  | succ m ih =>
    rw [Nat.succ_add, fifoExpecteds, fifoExpecteds, ih, Function.iterate_succ_apply, List.cons_append]

-- ---------------------------------------------------------------------------
-- A log correct against the values pushed and popped
-- ---------------------------------------------------------------------------

/-- The log `log` reaches only the FIFO tests' registers, pairs its CTEST6 reads with
CTEST2 reads and its CTEST6 writes with CTEST7 writes, and shows `popped` popped and
`pushed` pushed. -/
structure FifoLog (log : List RegAccess) (popped pushed : List (BitVec 16)) : Prop where
  regs : ∀ a ∈ log, a.reg ∈ fifoTestRegs
  reads : (log.filterMap (RegAccess.readOf regCtest6)).length =
    (log.filterMap (RegAccess.readOf regCtest2)).length
  writes : (log.filterMap (RegAccess.writeOf regCtest6)).length =
    (log.filterMap (RegAccess.writeOf regCtest7)).length
  popped : poppedValues log = popped
  pushed : pushedValues log = pushed

namespace FifoLog

variable {log : List RegAccess} {P Q : List (BitVec 16)}

theorem nil : FifoLog [] [] [] := ⟨fun _ h => absurd h (List.not_mem_nil _), rfl, rfl, rfl, rfl⟩

theorem regs_append (h : FifoLog log P Q) {Δ : List RegAccess} (hΔ : ∀ a ∈ Δ, a.reg ∈ fifoTestRegs) :
    ∀ a ∈ log ++ Δ, a.reg ∈ fifoTestRegs := by
  intro a ha
  rcases List.mem_append.mp ha with ha | ha
  · exact h.regs a ha
  · exact hΔ a ha

/-- An access of a FIFO test register that carries none of the FIFO's data. -/
theorem quiet (h : FifoLog log P Q) (a : RegAccess) (ha : a.quiet = true) :
    FifoLog (log ++ [a]) P Q := by
  obtain ⟨hr, h6, h2, w6, w7⟩ := RegAccess.quiet_spec ha
  refine ⟨h.regs_append (by simpa using hr), ?_, ?_, ?_, ?_⟩ <;>
    simp only [poppedValues, pushedValues, List.filterMap_append, List.filterMap_cons,
      List.filterMap_nil, h6, h2, w6, w7, List.append_nil]
  exacts [h.reads, h.writes, h.popped, h.pushed]

/-- A run of such accesses. -/
theorem quiets (h : FifoLog log P Q) {Δ : List RegAccess} (hΔ : Δ.all RegAccess.quiet = true) :
    FifoLog (log ++ Δ) P Q := by
  induction Δ generalizing log with
  | nil => rwa [List.append_nil]
  | cons a Δ ih =>
    rw [List.all_cons, Bool.and_eq_true] at hΔ
    rw [← List.singleton_append, ← List.append_assoc]
    exact ih (h.quiet a hΔ.1) hΔ.2

/-- A pop: CTEST6 read, then CTEST2 read. -/
theorem pop (d q : BitVec 8) (h : FifoLog log P Q) :
    FifoLog (log ++ [.read regCtest6 d] ++ [.read regCtest2 q]) (P ++ [fifoValue d q]) Q := by
  have h62 : regCtest6 ≠ regCtest2 := by decide
  have hregs : ∀ a ∈ log ++ [.read regCtest6 d] ++ [.read regCtest2 q], a.reg ∈ fifoTestRegs := by
    rw [List.append_assoc]
    exact h.regs_append (by simp [RegAccess.reg, fifoTestRegs])
  refine ⟨hregs, ?_, ?_, ?_, ?_⟩ <;>
    simp only [poppedValues, pushedValues, List.filterMap_append, List.filterMap_cons,
      List.filterMap_nil, RegAccess.readOf_read_self, RegAccess.readOf_read_ne _ h62,
      RegAccess.readOf_read_ne _ h62.symm, RegAccess.writeOf_read, List.append_nil, List.nil_append,
      List.length_append]
  · rw [h.reads]; rfl
  · exact h.writes
  · rw [List.zipWith_append _ _ _ _ _ h.reads, ← h.popped]; rfl
  · exact h.pushed

/-- A push: CTEST7 written, then CTEST6 written. -/
theorem push (p d : BitVec 8) (h : FifoLog log P Q) :
    FifoLog (log ++ [.write regCtest7 p] ++ [.write regCtest6 d]) P (Q ++ [fifoValue d p]) := by
  have h67 : regCtest6 ≠ regCtest7 := by decide
  have hregs : ∀ a ∈ log ++ [.write regCtest7 p] ++ [.write regCtest6 d], a.reg ∈ fifoTestRegs := by
    rw [List.append_assoc]
    exact h.regs_append (by simp [RegAccess.reg, fifoTestRegs])
  refine ⟨hregs, ?_, ?_, ?_, ?_⟩ <;>
    simp only [poppedValues, pushedValues, List.filterMap_append, List.filterMap_cons,
      List.filterMap_nil, RegAccess.writeOf_write_self, RegAccess.writeOf_write_ne _ h67,
      RegAccess.writeOf_write_ne _ h67.symm, RegAccess.readOf_write, List.append_nil,
      List.nil_append, List.length_append]
  · exact h.reads
  · rw [h.writes]; rfl
  · exact h.popped
  · rw [List.zipWith_append _ _ _ _ _ h.writes, ← h.pushed]; rfl

end FifoLog

-- ---------------------------------------------------------------------------
-- The recorder changes nothing of the run
-- ---------------------------------------------------------------------------

/-- The pop loop's variables with the device seen through `f`. -/
def FifoPop.map {τ : Type} (f : σ → τ) (p : FifoPop σ) : FifoPop τ :=
  ⟨p.rc, p.count, p.seed, f p.dev, p.reports⟩

/-- A test's result with the device seen through `f`. -/
def FifoRun.map {τ : Type} (f : σ → τ) (r : FifoRun σ) : FifoRun τ := ⟨r.rc, f r.dev, r.reports⟩

section Recorder

variable (b : Bus σ)

theorem a4091ResetOn_logged (p : σ × List RegAccess) :
    (a4091ResetOn b.logged p).1 = a4091ResetOn b p.1 := rfl

theorem fifoPushByte_logged (c7 : BitVec 8) :
    Function.Semiconj (Prod.map id Prod.fst) (fifoPushByte b.logged c7) (fifoPushByte b c7) :=
  fun _ => rfl

theorem fifoPushLanes_logged (c4 c7 : BitVec 8) (lanes : List Nat) (p : BitVec 32 × σ × List RegAccess) :
    Prod.map id Prod.fst (fifoPushLanes b.logged c4 c7 lanes p) =
      fifoPushLanes b c4 c7 lanes (Prod.map id Prod.fst p) :=
  (List.foldl_hom _ _ _ lanes p fun q lane =>
    ((fifoPushByte_logged b c7).iterate_right ncrFifoSize
      (q.1, b.logged.write8 regCtest4 (laneSelect c4 lane) q.2)).symm).symm

theorem fifoPopByte_logged (lane cbyte : Nat) (p : FifoPop (σ × List RegAccess)) :
    (fifoPopByte b.logged lane cbyte p).map Prod.fst = fifoPopByte b lane cbyte (p.map Prod.fst) := by
  simp only [fifoPopByte, Bus.logged_read8, FifoPop.map]
  split_ifs <;> rfl

theorem fifoPopLanes_logged (c4 : BitVec 8) (lanes : List Nat) (p : FifoPop (σ × List RegAccess)) :
    (fifoPopLanes b.logged c4 lanes p).map Prod.fst = fifoPopLanes b c4 lanes (p.map Prod.fst) := by
  have hbytes : ∀ (lane : Nat) (cbytes : List Nat) (q : FifoPop (σ × List RegAccess)),
      (fifoPopBytes b.logged lane cbytes q).map Prod.fst = fifoPopBytes b lane cbytes (q.map Prod.fst) :=
    fun lane cbytes q =>
      (List.foldl_hom _ _ _ cbytes q fun q c => (fifoPopByte_logged b lane c q).symm).symm
  exact (List.foldl_hom _ _ _ lanes p fun q lane => (hbytes lane (List.range ncrFifoSize)
    { q with count := 0, dev := b.logged.write8 regCtest4 (laneSelect c4 lane) q.dev }).symm).symm

theorem fifoUnload_logged (name : String) (c4 : BitVec 8) (p : FifoPop (σ × List RegAccess)) :
    (fifoUnload name b.logged c4 p).map Prod.fst = fifoUnload name b c4 (p.map Prod.fst) := by
  have hq : fifoPopLanes b c4 (List.range 4) { p.map Prod.fst with seed := fifoSeed } =
      (fifoPopLanes b.logged c4 (List.range 4) { p with seed := fifoSeed }).map Prod.fst :=
    (fifoPopLanes_logged b c4 (List.range 4) { p with seed := fifoSeed }).symm
  rw [fifoUnload, fifoUnload, hq]
  rfl

theorem fifoFullCheck_logged (name : String) (runtimeFlags : BitVec 32) (c4 : BitVec 8) (rc : Nat)
    (reports : List FifoReport) (p : σ × List RegAccess) :
    (fifoFullCheck name b.logged runtimeFlags c4 rc reports p).map Prod.fst =
      fifoFullCheck name b runtimeFlags c4 rc reports p.1 := by
  simp only [fifoFullCheck, Bus.logged_read8, apply_ite (FifoRun.map Prod.fst), fifoUnload_logged]
  rfl

/-- The recorder changes nothing of the run it records: the same `rc`, the same
reports, the same device. -/
theorem fifoTest_logged (name : String) (runtimeFlags : BitVec 32) (p : σ × List RegAccess) :
    (fifoTest name b.logged runtimeFlags p).map Prod.fst = fifoTest name b runtimeFlags p.1 := by
  have hpush : ∀ c4 c7 : BitVec 8, ∀ q : σ × List RegAccess,
      (fifoPushLanes b.logged c4 c7 (List.range 4) (fifoSeed, q)).2.1 =
        (fifoPushLanes b c4 c7 (List.range 4) (fifoSeed, q.1)).2 :=
    fun c4 c7 q => congrArg Prod.snd (fifoPushLanes_logged b c4 c7 (List.range 4) (fifoSeed, q))
  simp only [fifoTest, Bus.logged_read8, a4091ResetOn_logged, apply_ite (FifoRun.map Prod.fst),
    fifoFullCheck_logged, hpush]
  rfl

end Recorder

-- ---------------------------------------------------------------------------
-- The log of each phase
-- ---------------------------------------------------------------------------

theorem nat_or_eq_zero {m n : Nat} : m ||| n = 0 ↔ m = 0 ∧ n = 0 := by
  refine ⟨fun h => ⟨Nat.eq_of_testBit_eq fun i => ?_, Nat.eq_of_testBit_eq fun i => ?_⟩,
    fun ⟨hm, hn⟩ => by rw [hm, hn]; rfl⟩ <;>
  · have hi := congrArg (Nat.testBit · i) h
    simp only [Nat.testBit_or, Nat.zero_testBit, Bool.or_eq_false_iff] at hi
    simp only [Nat.zero_testBit, hi]

/-- A lane's verdict as a bit of `rc`: clear when its values all came back. -/
theorem ite_or_ite (a c : Prop) [Decidable a] [Decidable c] (k : Nat) :
    ((if a then 0 else k) ||| if c then 0 else k) = if a ∧ c then 0 else k := by
  by_cases ha : a <;> by_cases hc : c <;> simp [ha, hc]

theorem ite_two_pow_eq_zero {a : Prop} [Decidable a] (lane : Nat) :
    (if a then 0 else 2 ^ lane) = 0 ↔ a := by
  split <;> simp_all

section Log

variable (b : Bus σ) {P Q : List (BitVec 16)}

theorem a4091ResetOn_log {p : σ × List RegAccess} (h : FifoLog p.2 P Q) :
    FifoLog (a4091ResetOn b.logged p).2 P Q := by
  simp only [a4091ResetOn, Bus.logged_read8, Bus.logged_write8, List.append_assoc,
    List.singleton_append]
  exact h.quiets rfl

/-- One push logs the value of the next seed. -/
theorem fifoPushByte_log {c7 : BitVec 8} (hc7 : c7.getLsbD 3 = false)
    {p : BitVec 32 × σ × List RegAccess} (h : FifoLog p.2.2 P Q) :
    FifoLog (fifoPushByte b.logged c7 p).2.2 P (Q ++ [fifoExpected (rand32 p.1)]) := by
  rw [← fifoValue_push hc7]
  exact h.push _ _

theorem fifoPushByte_seed (c7 : BitVec 8) : Function.Semiconj Prod.fst (fifoPushByte b c7) rand32 :=
  fun _ => rfl

theorem fifoPushBytes_log {c7 : BitVec 8} (hc7 : c7.getLsbD 3 = false) (n : Nat) :
    ∀ (p : BitVec 32 × σ × List RegAccess) (Q : List (BitVec 16)), FifoLog p.2.2 P Q →
      FifoLog ((fifoPushByte b.logged c7)^[n] p).2.2 P (Q ++ fifoExpecteds p.1 n) := by
  induction n with
  | zero => intro p Q h; rwa [fifoExpecteds, List.append_nil]
  | succ n ih =>
    intro p Q h
    rw [Function.iterate_succ_apply, fifoExpecteds, ← List.singleton_append, ← List.append_assoc]
    exact ih _ _ (fifoPushByte_log b hc7 h)

/-- The push loop logs the values of the next `NCR_FIFO_SIZE` seeds per lane. -/
theorem fifoPushLanes_log (c4 : BitVec 8) {c7 : BitVec 8} (hc7 : c7.getLsbD 3 = false)
    (lanes : List Nat) : ∀ (p : BitVec 32 × σ × List RegAccess) (Q : List (BitVec 16)),
      FifoLog p.2.2 P Q →
      FifoLog (fifoPushLanes b.logged c4 c7 lanes p).2.2 P
        (Q ++ fifoExpecteds p.1 (ncrFifoSize * lanes.length)) := by
  induction lanes with
  | nil => intro p Q h; rwa [List.length_nil, Nat.mul_zero, fifoExpecteds, List.append_nil]
  | cons lane lanes ih =>
    intro p Q h
    have hseed : (fifoPushLane b.logged c4 c7 p lane).1 = rand32^[ncrFifoSize] p.1 :=
      (fifoPushByte_seed b.logged c7).iterate_right _ _
    have h1 := fifoPushBytes_log b hc7 ncrFifoSize
      (p.1, b.logged.write8 regCtest4 (laneSelect c4 lane) p.2) Q
      (h.quiet (.write regCtest4 (laneSelect c4 lane)) rfl)
    rw [fifoPushLanes_cons, List.length_cons, Nat.mul_succ, Nat.add_comm, fifoExpecteds_add,
      ← List.append_assoc, ← hseed]
    exact ih _ _ h1

/-- One pop logs the value it read, and sets the lane's bit of `rc` when that value is
not the next seed's. -/
theorem fifoPopByte_log (lane cbyte : Nat) {p : FifoPop (σ × List RegAccess)}
    (h : FifoLog p.dev.2 P Q) : ∃ v,
      FifoLog (fifoPopByte b.logged lane cbyte p).dev.2 (P ++ [v]) Q ∧
      (fifoPopByte b.logged lane cbyte p).rc =
        p.rc ||| (if v = fifoExpected (rand32 p.seed) then 0 else 2 ^ lane) ∧
      (fifoPopByte b.logged lane cbyte p).seed = rand32 p.seed := by
  have hl := h.pop (b.read8 regCtest6 p.dev.1).1 (b.read8 regCtest2 (b.read8 regCtest6 p.dev.1).2).1
  simp only [fifoPopByte, Bus.logged_read8]
  generalize fifoValue (b.read8 regCtest6 p.dev.1).1 (b.read8 regCtest2 (b.read8 regCtest6 p.dev.1).2).1
    = v at hl ⊢
  refine ⟨v, ?_⟩
  by_cases hv : v = fifoExpected (rand32 p.seed)
  · simp only [if_pos hv, Nat.or_zero, and_true]
    exact hl
  · simp only [if_neg hv, and_true]
    exact hl

/-- The inner pop loop: `rc` gains the lane's bit exactly when the values it logged
differ from those of the next seeds. -/
theorem fifoPopBytes_log (lane : Nat) (cbytes : List Nat) :
    ∀ (p : FifoPop (σ × List RegAccess)) (P : List (BitVec 16)), FifoLog p.dev.2 P Q → ∃ V,
      FifoLog (fifoPopBytes b.logged lane cbytes p).dev.2 (P ++ V) Q ∧
      (fifoPopBytes b.logged lane cbytes p).rc =
        p.rc ||| (if V = fifoExpecteds p.seed cbytes.length then 0 else 2 ^ lane) ∧
      (fifoPopBytes b.logged lane cbytes p).seed = rand32^[cbytes.length] p.seed := by
  induction cbytes with
  | nil => intro p P h; exact ⟨[], by rwa [List.append_nil], by simp [fifoExpecteds], rfl⟩
  | cons c cs ih =>
    intro p P h
    obtain ⟨v, h1, hrc1, hs1⟩ := fifoPopByte_log b lane c h
    obtain ⟨V, h2, hrc2, hs2⟩ := ih _ _ h1
    refine ⟨v :: V, by rwa [List.append_cons], ?_, ?_⟩
    · rw [fifoPopBytes_cons, hrc2, hrc1, hs1, Nat.or_assoc, ite_or_ite]
      simp only [List.length_cons, fifoExpecteds, List.cons.injEq]
    · rw [fifoPopBytes_cons, hs2, hs1, List.length_cons, Function.iterate_succ_apply]

/-- The pop loop: a run that leaves `rc` clear started with it clear and logged the
values of the next seeds. -/
theorem fifoPopLanes_log (c4 : BitVec 8) (lanes : List Nat) :
    ∀ (p : FifoPop (σ × List RegAccess)) (P : List (BitVec 16)), FifoLog p.dev.2 P Q → ∃ V,
      FifoLog (fifoPopLanes b.logged c4 lanes p).dev.2 (P ++ V) Q ∧
      ((fifoPopLanes b.logged c4 lanes p).rc = 0 →
        p.rc = 0 ∧ V = fifoExpecteds p.seed (ncrFifoSize * lanes.length)) := by
  induction lanes with
  | nil => intro p P h; exact ⟨[], by rwa [List.append_nil], fun h0 => ⟨h0, rfl⟩⟩
  | cons lane lanes ih =>
    intro p P h
    obtain ⟨V1, h1, hrc1, hs1⟩ := fifoPopBytes_log b lane (List.range ncrFifoSize)
      { p with count := 0, dev := b.logged.write8 regCtest4 (laneSelect c4 lane) p.dev } P
      (h.quiet (.write regCtest4 (laneSelect c4 lane)) rfl)
    obtain ⟨V2, h2, hrc2⟩ := ih _ _ h1
    refine ⟨V1 ++ V2, by rwa [← List.append_assoc], fun h0 => ?_⟩
    obtain ⟨hl0, rfl⟩ := hrc2 h0
    obtain ⟨hp, hV1⟩ := nat_or_eq_zero.mp (hrc1.symm.trans hl0)
    rw [List.length_range, ite_two_pow_eq_zero] at hV1
    refine ⟨hp, ?_⟩
    rw [hV1, List.length_range] at *
    rw [List.length_cons, Nat.mul_succ, Nat.add_comm, fifoExpecteds_add]
    exact congrArg _ (congrArg (fifoExpecteds · _) hs1)

theorem fifoUnload_log (name : String) (c4 : BitVec 8) {p : FifoPop (σ × List RegAccess)}
    (h : FifoLog p.dev.2 P Q) : ∃ V,
      FifoLog (fifoUnload name b.logged c4 p).dev.2 (P ++ V) Q ∧
      ((fifoUnload name b.logged c4 p).rc = 0 → p.rc = 0 ∧ V = fifoPattern) := by
  obtain ⟨V, h1, hrc⟩ := fifoPopLanes_log b c4 (List.range 4) { p with seed := fifoSeed } P h
  simp only [fifoUnload, fifoRestore, Bus.logged_read8, Bus.logged_write8]
  refine ⟨V, (h1.quiet _ (by rfl)).quiet _ (by rfl), fun h0 => ?_⟩
  split at h0
  · exact hrc h0
  · exact absurd h0 (by decide)

theorem fifoFullCheck_log (name : String) (runtimeFlags : BitVec 32) (c4 : BitVec 8) (rc : Nat)
    (reports : List FifoReport) {p : σ × List RegAccess} (h : FifoLog p.2 P Q) : ∃ V,
      FifoLog (fifoFullCheck name b.logged runtimeFlags c4 rc reports p).dev.2 (P ++ V) Q ∧
      ((fifoFullCheck name b.logged runtimeFlags c4 rc reports p).rc = 0 →
        rc = 0 ∧ V = fifoPattern) := by
  dsimp only [fifoFullCheck, Bus.logged_read8]
  generalize b.read8 regDstat p.1 = d
  generalize b.read8 regCtest1 d.2 = c1
  have hd := h.quiet (.read regDstat d.1) rfl
  have hc := hd.quiet (.read regCtest1 c1.1) rfl
  by_cases hA : d.1 &&& regDstatDfe ≠ 0 ∧ moreDebug runtimeFlags = false
  · rw [if_pos hA]
    exact ⟨[], by rwa [List.append_nil], fun h0 => by simp at h0⟩
  rw [if_neg hA]
  by_cases hB : ¬c1.1 = 0x0f ∧ moreDebug runtimeFlags = false
  · rw [if_pos hB]
    refine ⟨[], by rw [List.append_nil]; exact hc.quiet _ (by rfl), fun h0 => absurd h0 ?_⟩
    simp only [fifoRestore, if_neg hB.1]
    decide
  rw [if_neg hB]
  refine (fifoUnload_log b name c4 (p := ⟨_, 0, fifoSeed, (c1.2, _), _⟩) hc).imp
    fun V ⟨hu, hrc⟩ => ⟨hu, fun h0 => ⟨?_, (hrc h0).2⟩⟩
  have h1 := (hrc h0).1
  dsimp only at h1
  split_ifs at h1
  omega

end Log

/-- On any device and under any runtime flags, the FIFO test logs only its registers,
and a run that returns 0 pushed the test's 64 values and popped the same values back,
in the order pushed. -/
theorem fifoTest_log (name : String) (b : Bus σ) (runtimeFlags : BitVec 32) (s : σ) : ∃ P Q,
    FifoLog (fifoTest name b.logged runtimeFlags (s, [])).dev.2 P Q ∧
      ((fifoTest name b.logged runtimeFlags (s, [])).rc = 0 → P = fifoPattern ∧ Q = fifoPattern) := by
  have h0 := a4091ResetOn_log b (p := (s, [])) FifoLog.nil
  dsimp only [fifoTest, Bus.logged_read8]
  generalize a4091ResetOn b.logged (s, []) = p at h0 ⊢
  generalize b.read8 regCtest1 p.1 = c1
  have h1 := h0.quiet (.read regCtest1 c1.1) rfl
  by_cases hA : c1.1 ≠ 0xf0 ∧ moreDebug runtimeFlags = false
  · rw [if_pos hA]
    exact ⟨[], [], h1, fun h => by simp at h⟩
  rw [if_neg hA]
  generalize b.read8 regDstat c1.2 = d
  have h2 := h1.quiet (.read regDstat d.1) rfl
  by_cases hB : d.1 &&& regDstatDfe = 0 ∧ moreDebug runtimeFlags = false
  · rw [if_pos hB]
    exact ⟨[], [], h2, fun h => by simp at h⟩
  rw [if_neg hB]
  generalize b.read8 regCtest4 d.2 = c4
  generalize b.read8 regCtest7 c4.2 = c7
  have hc7 : (c7.1 &&& ~~~0x08).getLsbD 3 = false := by simp
  have hp := fifoPushLanes_log b c4.1 hc7 (List.range 4) (fifoSeed, c7.2, _) []
    ((h2.quiet (.read regCtest4 c4.1) rfl).quiet (.read regCtest7 c7.1) rfl)
  obtain ⟨V, hl, hrc⟩ := fifoFullCheck_log b name runtimeFlags c4.1 _ _ hp
  rw [List.nil_append, List.nil_append, List.length_range] at hl
  exact ⟨V, _, hl, fun h => ⟨(hrc h).2, rfl⟩⟩

/-- A FIFO test that returns 0 on a device has seen that device hand back, lane by
lane and in the order pushed, every 9-bit value it was given: the log of the same run
shows the test's 64 values pushed, and the same 64 popped. -/
theorem fifoTest_pass (name : String) (b : Bus σ) (runtimeFlags : BitVec 32) (s : σ)
    (h : (fifoTest name b runtimeFlags s).rc = 0) :
    pushedValues (fifoTest name b.logged runtimeFlags (s, [])).dev.2 = fifoPattern ∧
      poppedValues (fifoTest name b.logged runtimeFlags (s, [])).dev.2 = fifoPattern := by
  obtain ⟨P, Q, hl, hrc⟩ := fifoTest_log name b runtimeFlags s
  obtain ⟨rfl, rfl⟩ := hrc ((congrArg FifoRun.rc (fifoTest_logged b name runtimeFlags (s, []))).trans h)
  exact ⟨hl.pushed, hl.popped⟩

/-- Both FIFO tests as the source calls them. Outside UAE, `test_dma_fifo` returning 0
has seen the device hand back the 64 values it was given, and so has
`test_scsi_fifo` returning 0; under UAE `test_dma_fifo` returns 0 having touched no
register, and its 0 shows nothing. -/
theorem fifoTests_pass (b : Bus σ) (runtimeFlags : BitVec 32) (chain : List Interrupt) (s : σ) :
    (isRunningInUae chain = false → (testDmaFifo b runtimeFlags chain s).rc = 0 →
      pushedValues (testDmaFifo b.logged runtimeFlags chain (s, [])).dev.2 = fifoPattern ∧
        poppedValues (testDmaFifo b.logged runtimeFlags chain (s, [])).dev.2 = fifoPattern) ∧
    (isRunningInUae chain = true →
      testDmaFifo b.logged runtimeFlags chain (s, []) = ⟨0, (s, []), []⟩) ∧
    ((testScsiFifo b runtimeFlags s).rc = 0 →
      pushedValues (testScsiFifo b.logged runtimeFlags (s, [])).dev.2 = fifoPattern ∧
        poppedValues (testScsiFifo b.logged runtimeFlags (s, [])).dev.2 = fifoPattern) := by
  refine ⟨fun hu h => ?_, fun hu => by rw [testDmaFifo, if_pos hu], fifoTest_pass _ b runtimeFlags s⟩
  rw [testDmaFifo, if_neg (by simp [hu])] at h ⊢
  exact fifoTest_pass _ b runtimeFlags s h

/-- On the model chip with no UAE board on the chain, `test_dma_fifo` returns 0 and its
log shows the pattern pushed and popped back. -/
theorem fifoTests_pass_chip :
    (testDmaFifo (dmaFifoBus id) 0 [] ⟨fun _ => 0, fun _ => [], false⟩).rc = 0 ∧
      pushedValues (testDmaFifo (dmaFifoBus id).logged 0 []
        (⟨fun _ => 0, fun _ => [], false⟩, [])).dev.2 = fifoPattern ∧
      poppedValues (testDmaFifo (dmaFifoBus id).logged 0 []
        (⟨fun _ => 0, fun _ => [], false⟩, [])).dev.2 = fifoPattern :=
  have h : (testDmaFifo (dmaFifoBus id) 0 [] ⟨fun _ => 0, fun _ => [], false⟩).rc = 0 := by
    rw [testDmaFifo, if_neg (by decide)]
    exact (fifoTest_chip id "DMA FIFO" 0 _).1
  ⟨h, (fifoTests_pass (dmaFifoBus id) 0 [] _).1 rfl h⟩

/-- `test_scsi_fifo` reaches only the DMA FIFO test's registers: on any device and
under any runtime flags it never writes SODL and never reads CTEST3, the registers
through which its comment says the SCSI FIFO is loaded and unloaded. -/
theorem testScsiFifo_regs (b : Bus σ) (runtimeFlags : BitVec 32) (s : σ) :
    ∀ a ∈ (testScsiFifo b.logged runtimeFlags (s, [])).dev.2,
      a.reg ∈ fifoTestRegs ∧ a.reg ≠ regSodl ∧ a.reg ≠ regCtest3 := by
  obtain ⟨P, Q, hl, -⟩ := fifoTest_log "SCSI FIFO" b runtimeFlags s
  intro a ha
  have hr := hl.regs a ha
  refine ⟨hr, ?_, ?_⟩ <;> · intro he; rw [he] at hr; revert hr; decide

-- ---------------------------------------------------------------------------
-- What a lane of the pop loop prints
-- ---------------------------------------------------------------------------

/-- A mismatch line. -/
def FifoReport.isMismatch : FifoReport → Bool
  | .mismatch _ _ _ _ => true
  | _ => false

/-- How many mismatches of a lane get a line: the first, and two more through
`count++ < 2`; two when the lane's bit of `rc` was already set as the lane began
(after a failed DFE check under `FLAG_MORE_DEBUG`, or `rc = 0xff`). -/
def laneListed (rc lane : Nat) : Nat := if rc &&& 2 ^ lane = 0 then 3 else 2

theorem or_two_pow_and_two_pow (a lane : Nat) : (a ||| 2 ^ lane) &&& 2 ^ lane = 2 ^ lane :=
  Nat.eq_of_testBit_eq fun i => by
    simp only [Nat.testBit_and, Nat.testBit_or, Nat.testBit_two_pow]
    by_cases h : lane = i <;> simp [h]

/-- The pops of lane `lane` from `p₀`, with `count = 0`, after `k` mismatches. -/
structure LanePrints (lane : Nat) (p₀ : FifoPop σ) (k : Nat) (p : FifoPop σ) : Prop where
  rc : p.rc = p₀.rc ||| (if k = 0 then 0 else 2 ^ lane)
  count : p.count = if p₀.rc &&& 2 ^ lane = 0 then k - 1 else k
  lines : ∃ added, p.reports = p₀.reports ++ added ∧
    (∀ r ∈ added, r = .more ∨ ∃ cbyte got expected, r = .mismatch lane cbyte got expected) ∧
    added.countP FifoReport.isMismatch = min k (laneListed p₀.rc lane) ∧
    added.count .more = if laneListed p₀.rc lane < k then 1 else 0

/-- The lane's bit is still clear exactly before its first mismatch, if it was clear
when the lane began. -/
theorem LanePrints.first_iff {lane k : Nat} {p₀ p : FifoPop σ} (h : LanePrints lane p₀ k p) :
    p.rc &&& 2 ^ lane = 0 ↔ k = 0 ∧ p₀.rc &&& 2 ^ lane = 0 := by
  rw [h.rc]
  by_cases hk : k = 0
  · simp [hk]
  · rw [if_neg hk, or_two_pow_and_two_pow]
    exact ⟨fun h0 => absurd h0 (Nat.pos_pow_of_pos lane (by decide)).ne', fun h' => absurd h'.1 hk⟩

/-- The arithmetic of a lane's lines: a mismatch is listed while fewer than
`laneListed` came before it, "..." follows the one after the last listed, and `count`
moves on with the mismatches. -/
theorem lane_listed_iff (B first : Prop) [Decidable B] [Decidable first] {k count : Nat}
    (hfirst : first ↔ k = 0 ∧ B) (hc : count = if B then k - 1 else k) :
    (first ∨ count < 2 ↔ k < if B then 3 else 2) ∧
      (¬(first ∨ count < 2) → ((if first then count else count + 1) = 3 ↔ k = if B then 3 else 2)) ∧
      (if first then count else count + 1) = if B then k + 1 - 1 else k + 1 := by
  by_cases hB : B
  · simp only [hB, and_true, if_true] at hfirst hc ⊢
    by_cases hk : k = 0
    · simp [hfirst.mpr hk, hk, hc]
    · rw [if_neg fun h => hk (hfirst.mp h)]; simp only [hfirst, hk, false_or]; omega
  · simp only [hB, and_false, if_false, iff_false] at hfirst hc ⊢
    rw [if_neg hfirst]; simp only [hfirst, false_or]; omega

/-- The value one pop compares: the byte CTEST6 answers, with the parity bit of the
CTEST2 read after it. -/
def popValue (b : Bus σ) (s : σ) : BitVec 16 :=
  fifoValue (b.read8 regCtest6 s).1 (b.read8 regCtest2 (b.read8 regCtest6 s).2).1

/-- One pop: a match changes nothing `LanePrints` reads, a mismatch counts once more. -/
theorem fifoPopByte_prints (b : Bus σ) {lane k : Nat} (cbyte : Nat) {p₀ p : FifoPop σ}
    (h : LanePrints lane p₀ k p) :
    LanePrints lane p₀ (k + if popValue b p.dev = fifoExpected (rand32 p.seed) then 0 else 1)
      (fifoPopByte b lane cbyte p) := by
  by_cases hv : popValue b p.dev = fifoExpected (rand32 p.seed)
  · rw [if_pos hv, Nat.add_zero]
    rw [popValue] at hv
    dsimp only [fifoPopByte]
    rw [if_pos hv]
    exact ⟨h.rc, h.count, h.lines⟩
  rw [if_neg hv]
  rw [popValue] at hv
  dsimp only [fifoPopByte]
  rw [if_neg hv]
  obtain ⟨hlist, hmore3, hcount⟩ := lane_listed_iff _ _ h.first_iff h.count
  refine ⟨?_, hcount, ?_⟩
  · rw [h.rc, if_neg (Nat.succ_ne_zero k), Nat.or_assoc]
    by_cases hk : k = 0 <;> simp [hk]
  obtain ⟨added, hrep, hall, hmis, hmore⟩ := h.lines
  have hN : laneListed p₀.rc lane = if p₀.rc &&& 2 ^ lane = 0 then 3 else 2 := rfl
  rw [← hN] at hlist hmore3
  by_cases hp : p.rc &&& 2 ^ lane = 0 ∨ p.count < 2
  · -- the mismatch is listed
    have hlt := hlist.mp hp
    refine ⟨added ++ [.mismatch lane cbyte _ _], by rw [if_pos hp, hrep, List.append_assoc], ?_, ?_, ?_⟩
    · intro r hr
      rcases List.mem_append.mp hr with hr | hr
      · exact hall r hr
      · exact .inr ⟨_, _, _, List.mem_singleton.mp hr⟩
    · rw [List.countP_append, hmis, Nat.min_eq_left hlt.le, Nat.min_eq_left hlt]; rfl
    · rw [List.count_append, hmore, if_neg (Nat.not_lt.mpr hlt.le), if_neg (Nat.not_lt.mpr hlt)]
      rfl
  have hge : laneListed p₀.rc lane ≤ k := Nat.le_of_not_lt fun h' => hp (hlist.mpr h')
  by_cases h3 : (if p.rc &&& 2 ^ lane = 0 then p.count else p.count + 1) = 3
  · -- the first mismatch past the listed ones prints "..."
    have hk := (hmore3 hp).mp h3
    refine ⟨added ++ [.more], by rw [if_neg hp, if_pos h3, hrep, List.append_assoc], ?_, ?_, ?_⟩
    · intro r hr
      rcases List.mem_append.mp hr with hr | hr
      · exact hall r hr
      · exact .inl (List.mem_singleton.mp hr)
    · rw [List.countP_append, hmis, hk, Nat.min_self, Nat.min_eq_right (Nat.le_succ _)]; rfl
    · rw [List.count_append, hmore, hk, if_neg (Nat.lt_irrefl _), if_pos (Nat.lt_succ_self _)]; rfl
  · -- later mismatches print nothing
    have hk : laneListed p₀.rc lane < k := Nat.lt_of_le_of_ne hge fun h' => h3 ((hmore3 hp).mpr h'.symm)
    refine ⟨added, by rw [if_neg hp, if_neg h3, hrep, List.append_nil], hall, ?_, ?_⟩
    · rw [hmis, Nat.min_eq_right hk.le, Nat.min_eq_right (Nat.le_succ_of_le hk.le)]
    · rw [hmore, if_pos hk, if_pos (Nat.lt_succ_of_lt hk)]

theorem popValue_logged (b : Bus σ) (p : σ × List RegAccess) : popValue b.logged p = popValue b p.1 :=
  rfl

theorem fifoPopByte_dev (b : Bus σ) (lane cbyte : Nat) (p : FifoPop σ) :
    (fifoPopByte b lane cbyte p).dev = (b.read8 regCtest2 (b.read8 regCtest6 p.dev).2).2 := by
  dsimp only [fifoPopByte]; split <;> rfl

theorem fifoPopByte_seed (b : Bus σ) (lane cbyte : Nat) (p : FifoPop σ) :
    (fifoPopByte b lane cbyte p).seed = rand32 p.seed := by
  dsimp only [fifoPopByte]; split <;> rfl

@[simp] theorem fifoExpecteds_length (seed : BitVec 32) (n : Nat) :
    (fifoExpecteds seed n).length = n := by
  induction n generalizing seed <;> simp_all [fifoExpecteds]

/-- How many of the values popped differ from those expected, position by
position. -/
def popMismatches (popped expected : List (BitVec 16)) : Nat :=
  (List.zipWith (fun v e => v != e) popped expected).count true

@[simp] theorem popMismatches_nil (E : List (BitVec 16)) : popMismatches [] E = 0 := rfl

theorem popMismatches_concat {V E : List (BitVec 16)} (h : V.length = E.length) (v e : BitVec 16) :
    popMismatches (V ++ [v]) (E ++ [e]) = popMismatches V E + if v = e then 0 else 1 := by
  rw [popMismatches, List.zipWith_append _ _ _ _ _ h, List.count_append]
  by_cases hv : v = e <;> simp [popMismatches, hv]

/-- The pops of lane `lane` from `p₀` on a recorded bus whose log stood at `L`: the
log gained `Δ`, which shows the values `V` popped, the seed moved on once per pop,
and `LanePrints` holds with the number of those values that differ from the values of
the seeds. -/
structure LaneLog (lane : Nat) (L : List RegAccess) (p₀ : FifoPop (σ × List RegAccess))
    (V : List (BitVec 16)) (p : FifoPop (σ × List RegAccess)) : Prop where
  log : ∃ Δ, p.dev.2 = L ++ Δ ∧ FifoLog Δ V []
  seed : p.seed = rand32^[V.length] p₀.seed
  prints : LanePrints lane p₀ (popMismatches V (fifoExpecteds p₀.seed V.length)) p

/-- One pop on a recorded bus logs the value it compares, and counts it in when it is
not the next seed's. -/
theorem fifoPopByte_laneLog (b : Bus σ) {lane : Nat} (cbyte : Nat) {L : List RegAccess}
    {p₀ p : FifoPop (σ × List RegAccess)} {V : List (BitVec 16)} (h : LaneLog lane L p₀ V p) :
    LaneLog lane L p₀ (V ++ [popValue b p.dev.1]) (fifoPopByte b.logged lane cbyte p) := by
  obtain ⟨Δ, hΔ, hl⟩ := h.log
  refine ⟨⟨Δ ++ [.read regCtest6 _] ++ [.read regCtest2 _], ?_, hl.pop _ _⟩, ?_, ?_⟩
  · rw [fifoPopByte_dev]
    simp only [Bus.logged_read8, hΔ, List.append_assoc]
  · rw [fifoPopByte_seed, h.seed, List.length_append, List.length_singleton,
      Function.iterate_succ_apply']
  · have hp := fifoPopByte_prints b.logged cbyte h.prints
    rw [popValue_logged] at hp
    rwa [List.length_append, List.length_singleton, fifoExpecteds_add, ← h.seed,
      show fifoExpecteds p.seed 1 = [fifoExpected (rand32 p.seed)] from rfl,
      popMismatches_concat (fifoExpecteds_length _ _).symm]

/-- The inner pop loop on a recorded bus logs each value it compares. -/
theorem fifoPopBytes_laneLog (b : Bus σ) (lane : Nat) (L : List RegAccess)
    (p₀ : FifoPop (σ × List RegAccess)) (cbytes : List Nat) :
    ∀ (p : FifoPop (σ × List RegAccess)) (V : List (BitVec 16)), LaneLog lane L p₀ V p →
      ∃ V', V'.length = V.length + cbytes.length ∧
        LaneLog lane L p₀ V' (fifoPopBytes b.logged lane cbytes p) := by
  induction cbytes with
  | nil => exact fun p V h => ⟨V, rfl, h⟩
  | cons c cs ih =>
    intro p V h
    obtain ⟨V', hV', h'⟩ := ih _ _ (fifoPopByte_laneLog b c h)
    refine ⟨V', ?_, h'⟩
    rw [hV', List.length_append, List.length_singleton, List.length_cons]
    omega

/-- On any device, a lane of the pop loop as the register log shows it: sixteen values
popped, `k` of them differing from the values of the seeds. The lane sets its bit of
`rc` exactly when `k ≠ 0`, prints `min k 3` mismatch lines of that lane (`min k 2`
when the bit was already set as the lane began), and one "..." once the mismatches
outnumber the lines. -/
theorem fifoPopLane_prints (b : Bus σ) (ctest4 : BitVec 8) (p : FifoPop (σ × List RegAccess))
    (lane : Nat) :
    ∃ Δ added, (fifoPopLane b.logged ctest4 p lane).dev.2 = p.dev.2 ++ Δ ∧
      (poppedValues Δ).length = ncrFifoSize ∧
      let k := popMismatches (poppedValues Δ) (fifoExpecteds p.seed ncrFifoSize)
      (fifoPopLane b.logged ctest4 p lane).reports = p.reports ++ added ∧
      (fifoPopLane b.logged ctest4 p lane).rc = p.rc ||| (if k = 0 then 0 else 2 ^ lane) ∧
      (∀ r ∈ added, r = .more ∨ ∃ cbyte got expected, r = .mismatch lane cbyte got expected) ∧
      added.countP FifoReport.isMismatch = min k (laneListed p.rc lane) ∧
      added.count .more = if laneListed p.rc lane < k then 1 else 0 := by
  have h0 : LaneLog lane p.dev.2
      { p with count := 0, dev := b.logged.write8 regCtest4 (laneSelect ctest4 lane) p.dev } []
      { p with count := 0, dev := b.logged.write8 regCtest4 (laneSelect ctest4 lane) p.dev } :=
    ⟨⟨[.write regCtest4 (laneSelect ctest4 lane)], rfl, FifoLog.nil.quiet _ rfl⟩, rfl,
      (Nat.or_zero _).symm, by dsimp only; split <;> rfl,
      ⟨[], (List.append_nil _).symm, fun _ h => absurd h (List.not_mem_nil _), by simp, by simp⟩⟩
  obtain ⟨V, hV, ⟨Δ, hΔ, hl⟩, -, hrc, -, added, hrep, hall, hmis, hmore⟩ :=
    fifoPopBytes_laneLog b lane p.dev.2 _ (List.range ncrFifoSize) _ [] h0
  rw [List.length_nil, Nat.zero_add, List.length_range] at hV
  rw [hV, ← hl.popped] at hrc hmis hmore
  exact ⟨Δ, added, hΔ, by rw [hl.popped, hV], hrep, hrc, hall, hmis, hmore⟩

end A4091
