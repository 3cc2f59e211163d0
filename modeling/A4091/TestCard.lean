import A4091.Session
import A4091.Options
import A4091.DeviceAccess
import Mathlib.Tactic.IntervalCases

/-!
# A4091 — `test_card`: which tests run, what it returns, and that the card is handed back

`test_card(test_flags)` takes the card over, runs the tests `test_flags` selects
(all of them when it is 0), in the order of their bits, and restores the card. A
test runs only while `rc` is still 0, so the first test that fails is the last to
run and its `rc` is returned. Between two tests `check_break()` ends the process
with `exit(1)` when Ctrl-C has been pressed; the restore is then left to the
`atexit` hook the takeover registered. The bits are those of `main`'s digit
options `-0` to `-9`: bits 8 and 9 select no test, so a selection of only those runs
none and returns 0.

The tests are given (`CardTests`): each returns its `rc` and the state it leaves.
A recorder (`CardTests.logged`) keeps each test run with its `rc`.

At the session layer (`A4091.Session`), a test is any run of operations without
`kill_driver`; every path through `test_card` ends in the restore or the process
exit, so the card is released afterwards and, with one "NCR SCSI" server, the chain
is the one the system had.

## Results

* `testCard_selects` — on any tests, the tests run are a prefix of those selected,
  all but the last returned 0, and `test_card` returns the last one's `rc`; it runs
  every selected test when it returns 0, and exits with 1 otherwise.
* `testCard_high_digits` — a selection of digits 8 and 9 only calls no test.
* `testCard_hands_back` — from any session a run without `kill_driver` reaches, the
  card is released after `test_card` returns or the process exits in it.
-/

namespace A4091

variable {σ : Type}

-- ---------------------------------------------------------------------------
-- The model
-- ---------------------------------------------------------------------------

/-- The calls `test_card` makes. `test i` is the test `BIT(i)` selects:
`test_device_access`, `test_register_access`, `test_dma_fifo`, `test_scsi_fifo`,
`test_dma`, `test_dma_copy`, `test_dma_copy_perf` and `test_scsi_pins`, for `i` from
0 to 7; `ctrlC` is `SetSignal(0, 0) & SIGBREAKF_CTRL_C`. -/
structure CardTests (σ : Type) where
  test : Nat → σ → Int × σ
  takeover : σ → σ
  restore : σ → σ
  ctrlC : σ → Bool

/-- `check_break()`: with Ctrl-C pending, print "^C Abort" and `exit(1)`. A process
exit is the error, with its code and the state it leaves. -/
def checkBreak (ctrlC : σ → Bool) (s : σ) : Except (Int × σ) σ :=
  if ctrlC s then .error (1, s) else .ok s

/-- `if ((rc == 0) && (test_flags & BIT(i))) rc = test();` -/
def runTest (t : CardTests σ) (testFlags : BitVec 32) (i : Nat) (p : Int × σ) : Int × σ :=
  if p.1 = 0 ∧ testFlags &&& (1 : BitVec 32) <<< i ≠ 0 then t.test i p.2 else p

/-- `check_break();` and the next test. -/
def breakThenTest (t : CardTests σ) (testFlags : BitVec 32) (p : Int × σ) (i : Nat) :
    Except (Int × σ) (Int × σ) :=
  (checkBreak t.ctrlC p.2).map fun s => runTest t testFlags i (p.1, s)

/-- `test_flags == 0` selects every test: `test_flags = -1`. -/
def effectiveFlags (testFlags : BitVec 32) : BitVec 32 := if testFlags = 0 then -1 else testFlags

/-- `test_card(test_flags)`: the takeover, test 0, then `check_break()` and the
test for each of the bits 1 to 7, and the restore. -/
def testCard (t : CardTests σ) (testFlags : BitVec 32) (s : σ) : Except (Int × σ) (Int × σ) :=
  ((List.range' 1 7).foldlM (breakThenTest t (effectiveFlags testFlags))
      (runTest t (effectiveFlags testFlags) 0 (0, t.takeover s))).map
    fun p => (p.1, t.restore p.2)

/-- The tests `test_flags` selects, in the order `test_card` runs them. -/
def selectedTests (testFlags : BitVec 32) : List Nat :=
  (List.range 8).filter fun i => effectiveFlags testFlags &&& (1 : BitVec 32) <<< i ≠ 0

example : selectedTests 0 = [0, 1, 2, 3, 4, 5, 6, 7] ∧ selectedTests 0x24 = [2, 5] := by decide

/-- The test `i` is selected exactly when it is one of the eight and its bit is set
in the effective flags. -/
theorem mem_selectedTests {testFlags : BitVec 32} {i : Nat} :
    i ∈ selectedTests testFlags ↔ i < 8 ∧ effectiveFlags testFlags &&& (1 : BitVec 32) <<< i ≠ 0 := by
  simp [selectedTests]

/-- Only digits 8 and 9 (bits 8 and 9, or any bit above 7) select nothing. -/
theorem selectedTests_eq_nil {testFlags : BitVec 32} (h0 : testFlags ≠ 0)
    (h : testFlags &&& 0xff = 0) : selectedTests testFlags = [] := by
  rw [selectedTests, effectiveFlags, if_neg h0, List.filter_eq_nil_iff]
  intro i hi
  have hbit : (1 : BitVec 32) <<< i = 0xff &&& (1 : BitVec 32) <<< i := by
    have : i < 8 := List.mem_range.mp hi
    interval_cases i <;> decide
  rw [hbit, ← BitVec.and_assoc, h]
  simp

-- ---------------------------------------------------------------------------
-- The recorder
-- ---------------------------------------------------------------------------

/-- The tests, with each one that runs logged with its `rc`. -/
def CardTests.logged (t : CardTests σ) : CardTests (σ × List (Nat × Int)) where
  test i p := let r := t.test i p.1; (r.1, r.2, p.2 ++ [(i, r.1)])
  takeover p := (t.takeover p.1, p.2)
  restore p := (t.restore p.1, p.2)
  ctrlC p := t.ctrlC p.1

theorem runTest_of_unselected (t : CardTests σ) {F : BitVec 32} {i : Nat}
    (h : F &&& (1 : BitVec 32) <<< i = 0) (p : Int × σ) : runTest t F i p = p :=
  if_neg fun h' => h'.2 h

theorem foldlM_except_congr {ε α β : Type} {f g : α → β → Except ε α} {l : List β}
    (h : ∀ a, ∀ b ∈ l, f a b = g a b) (a : α) : l.foldlM f a = l.foldlM g a := by
  induction l generalizing a with
  | nil => rfl
  | cons b l ih =>
    rw [List.foldlM_cons, List.foldlM_cons, h a b (List.mem_cons_self b l)]
    cases g a b with
    | error e => rfl
    | ok a' => exact ih (fun a b hb => h a b (List.mem_cons_of_mem _ hb)) a'

/-- With the digits 8 and 9 only (bits above 7, none below), `test_card` calls no
test: what it does is the same whatever the tests would do, and when it returns it
returns 0. -/
theorem testCard_high_digits (t : CardTests σ) (test' : Nat → σ → Int × σ) {testFlags : BitVec 32}
    (h0 : testFlags ≠ 0) (h : testFlags &&& 0xff = 0) (s : σ) :
    testCard { t with test := test' } testFlags s = testCard t testFlags s ∧
      ∀ rc s', testCard t testFlags s = .ok (rc, s') → rc = 0 := by
  have hno : ∀ i < 8, effectiveFlags testFlags &&& (1 : BitVec 32) <<< i = 0 := fun i hi => by
    by_contra hne
    have hm := mem_selectedTests.mpr ⟨hi, hne⟩
    rw [selectedTests_eq_nil h0 h] at hm
    cases hm
  have hstep : ∀ (u : CardTests σ) (p : Int × σ), ∀ i ∈ List.range' 1 7,
      breakThenTest u (effectiveFlags testFlags) p i = (checkBreak u.ctrlC p.2).map (p.1, ·) :=
    fun u p i hi => by
      unfold breakThenTest
      congr 1
      funext s'
      exact runTest_of_unselected u (hno i (by simp at hi; omega)) _
  refine ⟨?_, fun rc s' hq => ?_⟩
  · unfold testCard
    rw [runTest_of_unselected _ (hno 0 (by decide)), runTest_of_unselected _ (hno 0 (by decide)),
      foldlM_except_congr (fun p i hi => hstep _ p i hi),
      foldlM_except_congr (g := fun p i => (checkBreak t.ctrlC p.2).map (p.1, ·))
        (fun p i hi => hstep t p i hi)]
  · unfold testCard at hq
    rw [runTest_of_unselected _ (hno 0 (by decide))] at hq
    cases hf : (List.range' 1 7).foldlM (breakThenTest t (effectiveFlags testFlags)) (0, t.takeover s) with
    | error e => rw [hf] at hq; cases hq
    | ok p =>
      rw [hf] at hq
      cases hq
      refine (foldlM_except_inv (fun p : Int × σ => p.1 = 0) (fun _ => True)
        (fun p i hi hp => ⟨fun p' he => ?_, fun _ _ => trivial⟩) _ rfl).1 p hf
      rw [hstep t p i hi] at he
      unfold checkBreak at he
      split at he
      · cases he
      · cases he; exact hp

-- ---------------------------------------------------------------------------
-- The session layer: the card is handed back
-- ---------------------------------------------------------------------------

/-- What a test can do to the session: run operations other than `kill_driver`,
with any answers from `AllocMem`. -/
inductive SessionRun : Session → Session → Prop
  | refl (s : Session) : SessionRun s s
  | step {s s' s'' : Session} {mem : Option Nat} {op : Op} :
      op ≠ .killDriver → step mem s op = some s' → SessionRun s' s'' → SessionRun s s''

theorem Reach.run {c : List Interrupt} {s s' : Session} (hr : SessionRun s s') (h : Reach c s) :
    Reach c s' := by
  induction hr with
  | refl => exact h
  | step hk hs _ ih => exact ih (Reach.step h hk hs)

theorem a4091StateTakeover_cleanupInstalled {mem : Option Nat} {s s' : Session}
    (h : a4091StateTakeover mem s = some s') : s'.cleanupInstalled = true := by
  simp only [a4091StateTakeover] at h
  split at h
  · cases h; rfl
  · obtain ⟨u, hu, rfl⟩ := Option.map_eq_some'.mp h
    cases mem with
    | none => cases hu
    | some node => cases hu; rfl

theorem a4091StateRestore_cleanupInstalled (s : Session) :
    (a4091StateRestore s).cleanupInstalled = s.cleanupInstalled := by
  unfold a4091StateRestore a4091EnableDriverIrqHandler a4091RemoveLocalIrqHandler
  split <;> (try split) <;> (try split) <;> simp_all

/-- Once the takeover has registered `a4091_cleanup`, every operation keeps it
registered. -/
theorem step_cleanupInstalled {mem : Option Nat} {s s' : Session} {op : Op}
    (h : step mem s op = some s') (hc : s.cleanupInstalled = true) : s'.cleanupInstalled = true := by
  cases op with
  | takeover => exact a4091StateTakeover_cleanupInstalled h
  | restore => cases h; rw [a4091StateRestore_cleanupInstalled, hc]
  | exit =>
    cases h
    split <;> simp only [a4091Cleanup, a4091StateRestore_cleanupInstalled, hc]
  | dmaMemToMem =>
    obtain ⟨u, hu, rfl⟩ := Option.map_eq_some'.mp h
    have hu' := a4091StateTakeover_cleanupInstalled hu
    exact hu'
  | dmaMemToMemQuad update =>
    obtain ⟨u, -, hu⟩ := Option.bind_eq_some.mp h
    obtain ⟨v, hv, rfl⟩ := Option.map_eq_some'.mp hu
    have hv' := a4091StateTakeover_cleanupInstalled hv
    exact hv'
  | killDriver => cases h; exact hc
  | irq r =>
    cases h
    split
    · unfold a4091IrqHandler; split <;> exact hc
    · exact hc

theorem SessionRun.cleanupInstalled {s s' : Session} (hr : SessionRun s s')
    (hc : s.cleanupInstalled = true) : s'.cleanupInstalled = true := by
  induction hr with
  | refl => exact hc
  | step _ hs _ ih => exact ih (step_cleanupInstalled hs hc)

section Session

variable {c : List Interrupt} (t : CardTests Session)
  (htake : ∀ s, ∃ mem, step mem s .takeover = some (t.takeover s))
  (hrest : ∀ s, t.restore s = a4091StateRestore s)
  (htest : ∀ i s, SessionRun s (t.test i s).2)

/-- What holds of every session between the takeover and the end of `test_card`:
it is reachable, and the exit hook is registered. -/
def Handed (c : List Interrupt) (s : Session) : Prop := Reach c s ∧ s.cleanupInstalled = true

include htest in
theorem runTest_handed (F : BitVec 32) (i : Nat) {p : Int × Session} (h : Handed c p.2) :
    Handed c (runTest t F i p).2 := by
  unfold runTest
  split
  · exact ⟨h.1.run (htest i p.2), (htest i p.2).cleanupInstalled h.2⟩
  · exact h

include htake hrest htest in
/-- Every session from the takeover on is reachable with the exit hook registered,
and once `test_card` returns the card is released. -/
theorem testCard_handed (testFlags : BitVec 32) {s : Session} (hs : Reach c s) :
    (∀ q, testCard t testFlags s = .ok q → Handed c q.2 ∧ q.2.cardOwned = false) ∧
      ∀ e, testCard t testFlags s = .error e → Handed c e.2 := by
  obtain ⟨mem, hm⟩ := htake s
  have h0 : Handed c (runTest t (effectiveFlags testFlags) 0 (0, t.takeover s)).2 :=
    runTest_handed t htest _ 0 (p := (0, t.takeover s))
      ⟨hs.step (by decide) hm, a4091StateTakeover_cleanupInstalled hm⟩
  obtain ⟨hok, herr⟩ := foldlM_except_inv (fun p : Int × Session => Handed c p.2)
    (fun e : Int × Session => Handed c e.2) (l := List.range' 1 7)
    (f := breakThenTest t (effectiveFlags testFlags)) (fun p i _ hp => by
      unfold breakThenTest checkBreak
      split
      · exact ⟨fun _ he => (nomatch he), fun e he => by cases he; exact hp⟩
      · exact ⟨fun p' he => by cases he; exact runTest_handed t htest _ i hp, fun _ he => (nomatch he)⟩)
    _ h0
  unfold testCard
  cases hf : (List.range' 1 7).foldlM (breakThenTest t (effectiveFlags testFlags))
      (runTest t (effectiveFlags testFlags) 0 (0, t.takeover s)) with
  | error e => exact ⟨fun _ hq => (nomatch hq), fun e' he => by cases he; exact herr e hf⟩
  | ok p =>
    refine ⟨fun q hq => ?_, fun _ he => (nomatch he)⟩
    cases hq
    obtain ⟨hr, hcl⟩ := hok p hf
    dsimp only
    rw [hrest]
    exact ⟨⟨hr.step (show Op.restore ≠ .killDriver by decide)
        (show step none p.2 .restore = some (a4091StateRestore p.2) from rfl),
      (a4091StateRestore_cleanupInstalled _).trans hcl⟩, a4091StateRestore_cardOwned _⟩

include htake hrest htest in
/-- `test_card` hands the card back. From any session a run without `kill_driver`
reaches from a chain with at most one "NCR SCSI" server, whatever the tests select,
do or return, and wherever Ctrl-C stops them: once `test_card` returns, and once the
process exit it may call has run the `atexit` hook, the card is released, the chain
is the starting one again, and neither handle is held. -/
theorem testCard_hands_back (hc : c.countP isNcr ≤ 1) (testFlags : BitVec 32) {s : Session}
    (hs : Reach c s) :
    (∀ rc s', testCard t testFlags s = .ok (rc, s') →
        s'.cardOwned = false ∧ s'.chain.Perm c ∧ s'.driverIsr = none ∧ s'.localIsr = none) ∧
      ∀ code s', testCard t testFlags s = .error (code, s') → ∃ s'', step none s' .exit = some s'' ∧
        s''.cardOwned = false ∧ s''.chain.Perm c ∧ s''.driverIsr = none ∧ s''.localIsr = none := by
  obtain ⟨hok, herr⟩ := testCard_handed t htake hrest htest testFlags hs
  refine ⟨fun rc s' hq => ?_, fun code s' he => ?_⟩
  · obtain ⟨⟨hr, -⟩, ho⟩ := hok _ hq
    exact ⟨ho, (reach_symmetric hc hr).released ho⟩
  · obtain ⟨hr, hcl⟩ := herr _ he
    have hx : step none s' .exit = some (a4091Cleanup s') := by
      rw [step, if_pos (show s'.cleanupInstalled = true from hcl)]
    have ho : (a4091Cleanup s').cardOwned = false := a4091StateRestore_cardOwned s'
    exact ⟨_, hx, ho, (reach_symmetric hc (hr.step (by decide) hx)).released ho⟩

end Session

/-- A takeover whose `AllocMem` answers never fails. -/
theorem a4091StateTakeover_some (node : Nat) (s : Session) :
    ∃ s', a4091StateTakeover (some node) s = some s' := by
  simp only [a4091StateTakeover]
  split
  · exact ⟨_, rfl⟩
  · exact ⟨_, rfl⟩

/-- Tests that pass without touching the session, on a chain holding the driver's
"NCR SCSI" server: the card is handed back after every selection, with the server
on the chain again. -/
theorem testCard_hands_back_idle :
    let t : CardTests Session := ⟨fun _ s => (0, s),
      fun s => (a4091StateTakeover (some 0) s).getD s, a4091StateRestore, fun _ => false⟩
    (∀ s, ∃ mem, step mem s .takeover = some (t.takeover s)) ∧
      (∀ s, t.restore s = a4091StateRestore s) ∧ (∀ i s, SessionRun s (t.test i s).2) ∧
      [⟨1, ncrScsi, 10⟩].countP isNcr ≤ 1 ∧ Reach [⟨1, ncrScsi, 10⟩] (Session.init [⟨1, ncrScsi, 10⟩]) ∧
      ((∀ rc s', testCard t 0 (Session.init [⟨1, ncrScsi, 10⟩]) = .ok (rc, s') →
        s'.cardOwned = false ∧ s'.chain.Perm [⟨1, ncrScsi, 10⟩] ∧ s'.driverIsr = none ∧
          s'.localIsr = none) ∧
      ∀ code s', testCard t 0 (Session.init [⟨1, ncrScsi, 10⟩]) = .error (code, s') →
        ∃ s'', step none s' .exit = some s'' ∧ s''.cardOwned = false ∧
          s''.chain.Perm [⟨1, ncrScsi, 10⟩] ∧ s''.driverIsr = none ∧ s''.localIsr = none) :=
  have htake : ∀ s, ∃ mem, step mem s .takeover = some ((a4091StateTakeover (some 0) s).getD s) :=
    fun s => ⟨some 0, by obtain ⟨s', hs'⟩ := a4091StateTakeover_some 0 s; rw [step, hs']; rfl⟩
  ⟨htake, fun _ => rfl, fun _ s => SessionRun.refl s, by decide, Reach.init,
    testCard_hands_back ⟨fun _ s => (0, s), fun s => (a4091StateTakeover (some 0) s).getD s,
      a4091StateRestore, fun _ => false⟩ htake (fun _ => rfl) (fun _ s => SessionRun.refl s)
      (by decide) 0 Reach.init⟩

-- ---------------------------------------------------------------------------
-- `main`'s action loop
-- ---------------------------------------------------------------------------

/-- The actions of `main`'s `do ... while` loop on the card's state: each returns the
`rc` it adds, and `test_card` may end the process. -/
structure MainCalls (σ : Type) where
  decodeAutoconfig : σ → Int × σ
  decodeRegisters : σ → Int × σ
  decodeSwitches : σ → Int × σ
  dmaInitSiop : σ → σ
  dmaMemToMem : σ → Int × σ
  testCard : σ → Except (Int × σ) (Int × σ)
  ctrlC : σ → Bool

/-- `rc += call()`. -/
def addRc (rc : Int) (r : Int × σ) : Int × σ := (rc + r.1, r.2)

/-- One pass of the loop body, the `check_break()` that ends it included. -/
def mainRound (m : MainCalls σ) (f : MainFlags) (p : Int × σ) : Except (Int × σ) (Int × σ) :=
  let p := if f.flagConfig then addRc p.1 (m.decodeAutoconfig p.2) else p
  let p := if f.flagRegs then addRc p.1 (m.decodeRegisters p.2) else p
  let p := if f.flagSwitches then addRc p.1 (m.decodeSwitches p.2) else p
  let p := if f.flagDma then addRc p.1 (m.dmaMemToMem (m.dmaInitSiop p.2)) else p
  let r : Except (Int × σ) (Int × σ) := if f.flagTest then (m.testCard p.2).map (addRc p.1) else .ok p
  r.bind fun p => (checkBreak m.ctrlC p.2).map (p.1, ·)

/-- `do { ... } while ((rc == 0) && flag_loop);`, for at most `n` passes: `none` when
every one of them asks for another. -/
def mainLoop (m : MainCalls σ) (f : MainFlags) : Nat → Int × σ → Option (Except (Int × σ) (Int × σ))
  | 0, _ => none
  | n + 1, p =>
    match mainRound m f p with
    | .error e => some (.error e)
    | .ok p => if p.1 = 0 ∧ f.flagLoop then mainLoop m f n p else some (.ok p)

end A4091
