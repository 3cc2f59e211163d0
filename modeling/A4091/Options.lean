import Mathlib.Data.List.Nodup

/-!
# A4091 — `main`'s option loop

`main` walks `argv[1..argc-1]` once. An argument that starts with `-` is a cluster of
option letters; `-a` takes the next argument as the card address, with `argv[++arg]`;
`-D` takes three operands with `nextarg`, which hands out the first non-NULL argument
after the cluster and sets it to NULL so that the loop skips it later. Both operands
are read with `sscanf(…, "%x%n", …)`, which the model takes as an oracle `scan`
(`none` when it does not convert one number).

`-a` does not skip NULL entries. After a `-D` in the same cluster, the argument after
the cluster is one `-D` has consumed, and `-a` hands that NULL to `sscanf`
(`"-Da 1 2 3"`). The model records every argument the loop uses, with its role, and
stops with `nullScan` where the code passes NULL to `sscanf`.

## Results

* `nextarg_spec` — `nextarg` hands out the first non-NULL argument from `argnum` on and
  consumes exactly it.
* `optionLetter_inv`, `clusterLoop_inv` — within a cluster with no `D` before an `a`,
  every letter keeps the consumed arguments after `arg` a contiguous run and uses no
  argument twice.
* `optionLoop_inv` — over the whole loop, from a state where this holds.
* `mainOptions_safe` — for every argument vector of non-NULL strings with no cluster
  asking for `-D` before `-a`: the loop finishes or exits, never hands NULL to
  `sscanf`, and uses each argument in one role at most.
* `mainOptions_da` — `-Da 1 2 3` hands the consumed `argv[2]` to `sscanf`, whatever
  `sscanf` makes of the operands.
-/

namespace A4091

-- ---------------------------------------------------------------------------
-- The variables the loop sets
-- ---------------------------------------------------------------------------

/-- `FLAG_DEBUG` of `runtime_flags`. -/
def flagDebug : BitVec 32 := 0x01

/-- `FLAG_MORE_DEBUG` of `runtime_flags`. -/
def flagMoreDebug : BitVec 32 := 0x02

/-- The variables of `main` the option loop sets, with their initial values, and the
global `runtime_flags`. `dma` is empty until `-D` has scanned its three operands. -/
structure MainFlags where
  flagConfig : Bool := false
  flagDma : Bool := false
  flagForce : Bool := false
  flagLoop : Bool := false
  flagKill : Bool := false
  flagList : Bool := false
  flagRegs : Bool := false
  flagSwitches : Bool := false
  flagTest : Bool := false
  testFlags : BitVec 32 := 0
  addr : BitVec 32 := 0
  dma : List (BitVec 32) := []
  runtimeFlags : BitVec 32 := 0
  deriving DecidableEq, Repr

/-- The letters that only set a variable: the test numbers `0`–`9` (`BIT(*ptr - '0')`
into `test_flags`), `c`, `d`, `f`, `k`, `L`, `P`, `r`, `s` and `t`; `none` for a letter
`main` does not know. -/
def optionFlag (c : Char) (f : MainFlags) : Option MainFlags :=
  match c with
  | '0' | '1' | '2' | '3' | '4' | '5' | '6' | '7' | '8' | '9' =>
    some { f with testFlags := f.testFlags ||| 1 <<< (c.toNat - '0'.toNat) }
  | 'c' => some { f with flagConfig := true }
  | 'd' =>
    some { f with
      runtimeFlags := if f.runtimeFlags &&& flagDebug != 0 then f.runtimeFlags ||| flagMoreDebug
        else f.runtimeFlags ||| flagDebug }
  | 'f' => some { f with flagForce := true }
  | 'k' => some { f with flagKill := true }
  | 'L' => some { f with flagLoop := true }
  | 'P' => some { f with flagList := true }
  | 'r' => some { f with flagRegs := true }
  | 's' => some { f with flagSwitches := true }
  | 't' => some { f with flagTest := true }
  | _ => none

-- ---------------------------------------------------------------------------
-- The loop's state
-- ---------------------------------------------------------------------------

/-- The roles the loop gives an argument. -/
inductive ArgRole
  | cluster
  | addr
  | dma
  deriving DecidableEq, Repr

/-- The loop's state: `argv` as `nextarg` has left it, the index `arg`, the variables
set so far, and the arguments used so far with their roles. -/
structure ArgScan where
  argv : List (Option String)
  arg : Nat
  flags : MainFlags
  uses : List (Nat × ArgRole)
  deriving DecidableEq, Repr

/-- `argv[i]`, NULL past the end. -/
def ArgScan.at (p : ArgScan) (i : Nat) : Option String := p.argv.getD i none

/-- How the loop stops before its end: `exit(code)` after printing `msg` and, if
`usage`, the usage text; or `sscanf` handed the NULL `argv[idx]`. -/
inductive MainExit
  | exit (code : Nat) (msg : Option String) (usage : Bool)
  | nullScan (idx : Nat)
  deriving DecidableEq, Repr

/-- A stretch of the loop: it goes on in a state of type `α`, or stops, with the state
it stops in. -/
abbrev ArgRun (α : Type) := Except (MainExit × ArgScan) α

-- ---------------------------------------------------------------------------
-- `nextarg`, `-a`, `-D`
-- ---------------------------------------------------------------------------

/-- `nextarg`'s loop over `argv[argnum]`, `argv[argnum + 1]`, …, given as the list
`rest`: the first non-NULL entry, with its index. -/
def nextargFrom : List (Option String) → Nat → Option (Nat × String)
  | [], _ => none
  | none :: rest, argnum => nextargFrom rest (argnum + 1)
  | some s :: _, argnum => some (argnum, s)

/-- `nextarg(argc, argv, argnum)`: the first non-NULL argument from `argnum` on, with
its index, and `argv` with that entry set to NULL. -/
def nextarg (argv : List (Option String)) (argnum : Nat) :
    Option (Nat × String × List (Option String)) :=
  (nextargFrom (argv.drop argnum) argnum).map fun (j, s) => (j, s, argv.set j none)

/-- The names `-D` gives its operands in its error message, `which[]`. -/
def dmaWhich : List String := ["src", "dst", "len"]

/-- `-D`'s loop over its operands still to read, named `ws`: each is taken with
`nextarg(argc, argv, arg + 1)` and scanned. -/
def dmaOperands (scan : String → Option (BitVec 32)) :
    List String → ArgScan → ArgRun (List (BitVec 32) × ArgScan)
  | [], p => .ok ([], p)
  | w :: ws, p =>
    match nextarg p.argv (p.arg + 1) with
    | none => .error (.exit 1 (some "Command requires <src> <dst> <len>") false, p)
    | some (j, s, argv) =>
      let p := { p with argv, uses := p.uses ++ [(j, .dma)] }
      match scan s with
      | none => .error (.exit 1 (some ("Invalid DMA " ++ w ++ " " ++ s ++ " specified")) false, p)
      | some v => (dmaOperands scan ws p).map fun (vs, p) => (v :: vs, p)

/-- One option letter `c` of a cluster, where `ptr` is the cluster's text from `c` on. -/
def optionLetter (scan : String → Option (BitVec 32)) (ptr : List Char) (c : Char)
    (p : ArgScan) : ArgRun ArgScan :=
  match c with
  | 'a' =>
    let arg := p.arg + 1
    if arg < p.argv.length then
      match p.at arg with
      | none => .error (.nullScan arg, { p with arg, uses := p.uses ++ [(arg, .addr)] })
      | some s =>
        let p := { p with arg, uses := p.uses ++ [(arg, .addr)] }
        match scan s with
        | none =>
          .error (.exit 1 (some ("Invalid card address " ++ String.mk ptr ++ " specified")) false, p)
        | some v => .ok { p with flags := { p.flags with addr := v } }
    else .error (.exit 1 (some "You must specify an address") false, p)
  | 'D' =>
    (dmaOperands scan dmaWhich p).map fun (vs, p) =>
      { p with flags := { p.flags with flagDma := true, dma := vs } }
  | 'h' => .error (.exit 0 none true, p)
  | _ =>
    match optionFlag c p.flags with
    | some f => .ok { p with flags := f }
    | none => .error (.exit 1 (some ("Unknown -" ++ String.mk ptr)) true, p)

/-- `while (*(++ptr) != '\0')` over the letters of a cluster after its `-`. -/
def clusterLoop (scan : String → Option (BitVec 32)) : List Char → ArgScan → ArgRun ArgScan
  | [], p => .ok p
  | c :: cs, p => (optionLetter scan (c :: cs) c p).bind (clusterLoop scan cs)

/-- `main`'s loop `for (; arg < argc; arg++)` from the state `p`, with `fuel` rounds;
`none` when the fuel runs out first. -/
def optionLoop (scan : String → Option (BitVec 32)) (fuel : Nat) (p : ArgScan) :
    Option (ArgRun ArgScan) :=
  if p.arg < p.argv.length then
    match fuel with
    | 0 => none
    | fuel + 1 =>
      match p.at p.arg with
      | none => optionLoop scan fuel { p with arg := p.arg + 1 }
      | some s =>
        match s.toList with
        | '-' :: cs =>
          match clusterLoop scan cs { p with uses := p.uses ++ [(p.arg, .cluster)] } with
          | .ok p => optionLoop scan fuel { p with arg := p.arg + 1 }
          | .error e => some (.error e)
        | _ => some (.error (.exit 1 (some ("Unknown argument " ++ s)) true, p))
  else some (.ok p)

/-- `main`'s option loop over `argv`, `argv[0]` being the program's name, from the
initial values of its variables; `argc` rounds are enough (`mainOptions_safe`). -/
def mainOptions (scan : String → Option (BitVec 32)) (argv : List (Option String)) :
    Option (ArgRun ArgScan) :=
  optionLoop scan argv.length { argv, arg := 1, flags := {}, uses := [] }

-- ---------------------------------------------------------------------------
-- Reading `argv`
-- ---------------------------------------------------------------------------

@[simp] theorem ArgScan.at_eq (p : ArgScan) (i : Nat) : p.at i = p.argv.getD i none := rfl

/-- Setting an entry to NULL changes only that entry. -/
theorem getD_set_none (argv : List (Option String)) (i j : Nat) :
    (argv.set j none).getD i none = if i = j then none else argv.getD i none := by
  by_cases h : i = j
  · subst h
    by_cases hl : i < argv.length <;> simp [List.getElem?_set, hl]
  · simp [List.getElem?_set_ne (Ne.symm h), h]

/-- An entry that is not NULL lies inside `argv`. -/
theorem lt_length_of_getD {argv : List (Option String)} {i : Nat} {s : String}
    (h : argv.getD i none = some s) : i < argv.length := by
  by_contra hl
  simp [List.getElem?_eq_none (Nat.le_of_not_lt hl)] at h

/-- An entry that is not NULL is one of the arguments. -/
theorem mem_of_getD {argv : List (Option String)} {i : Nat} {s : String}
    (h : argv.getD i none = some s) : some s ∈ argv := by
  have hl := lt_length_of_getD h
  rw [List.getD_eq_getElem?_getD, List.getElem?_eq_getElem hl, Option.getD_some] at h
  exact h ▸ List.getElem_mem hl

/-- `nextarg`'s loop finds the first non-NULL entry from `argnum` on. -/
theorem nextargFrom_spec : ∀ (rest : List (Option String)) (argnum j : Nat) (s : String),
    nextargFrom rest argnum = some (j, s) →
      argnum ≤ j ∧ rest.getD (j - argnum) none = some s ∧
        ∀ i, argnum ≤ i → i < j → rest.getD (i - argnum) none = none
  | [], _, _, _, h => nomatch h
  | none :: rest, argnum, j, s, h => by
    obtain ⟨hle, hj, hbefore⟩ := nextargFrom_spec rest (argnum + 1) j s h
    refine ⟨by omega, ?_, fun i hi hij => ?_⟩
    · rwa [show j - argnum = j - (argnum + 1) + 1 by omega]
    · by_cases he : i = argnum
      · simp [he]
      · rw [show i - argnum = i - (argnum + 1) + 1 by omega]
        exact hbefore i (by omega) hij
  | some _ :: _, argnum, j, s, h => by
    simp only [nextargFrom, Option.some.injEq, Prod.mk.injEq] at h
    obtain ⟨rfl, rfl⟩ := h
    exact ⟨le_rfl, by simp, fun i hi hij => absurd hij (by omega)⟩

/-- `nextarg(argc, argv, argnum)` hands out the first non-NULL argument from `argnum`
on and sets exactly that entry to NULL. -/
theorem nextarg_spec {argv argv' : List (Option String)} {argnum j : Nat} {s : String}
    (h : nextarg argv argnum = some (j, s, argv')) :
    argnum ≤ j ∧ argv.getD j none = some s ∧
      (∀ i, argnum ≤ i → i < j → argv.getD i none = none) ∧ argv' = argv.set j none := by
  simp only [nextarg, Option.map_eq_some', Prod.exists, Prod.mk.injEq] at h
  obtain ⟨j, s, hfind, rfl, rfl, rfl⟩ := h
  obtain ⟨hle, hj, hbefore⟩ := nextargFrom_spec _ _ _ _ hfind
  have hdrop : ∀ i, argnum ≤ i → (argv.drop argnum).getD (i - argnum) none = argv.getD i none :=
    fun i hi => by simp [List.getElem?_drop, Nat.add_sub_cancel' hi]
  exact ⟨hle, by rwa [← hdrop j hle], fun i hi hij => by rw [← hdrop i hi]; exact hbefore i hi hij,
    rfl⟩

-- ---------------------------------------------------------------------------
-- The invariant of a cluster
-- ---------------------------------------------------------------------------

/-- From index `i` on, the NULL entries of `argv` are exactly those before `k`. -/
def NullPrefix (argv : List (Option String)) (i k : Nat) : Prop :=
  ∀ j, i ≤ j → j < argv.length → (argv.getD j none = none ↔ j < k)

theorem NullPrefix.mono {argv : List (Option String)} {i i' k : Nat} (h : NullPrefix argv i k)
    (hi : i ≤ i') : NullPrefix argv i' k :=
  fun j hj hl => h j (le_trans hi hj) hl

/-- How the loop changes its state: `arg` only moves forward, and `argv` keeps its
length and only loses entries to NULL. -/
structure ArgScan.Le (p p' : ArgScan) : Prop where
  arg_le : p.arg ≤ p'.arg
  length_eq : p'.argv.length = p.argv.length
  consumes : ∀ j, p'.at j = p.at j ∨ p'.at j = none

theorem ArgScan.Le.refl (p : ArgScan) : p.Le p := ⟨le_rfl, rfl, fun _ => .inl rfl⟩

theorem ArgScan.Le.trans {p p' p'' : ArgScan} (h : p.Le p') (h' : p'.Le p'') : p.Le p'' :=
  ⟨le_trans h.arg_le h'.arg_le, h'.length_eq.trans h.length_eq, fun j => by
    rcases h'.consumes j with e | e
    · rw [e]; exact h.consumes j
    · exact .inr e⟩

/-- Inside a cluster at `arg`: no argument used twice; each used argument is at or
before `arg`, or consumed; the consumed arguments after `arg` are those before `k`. -/
structure ScanInv (k : Nat) (p : ArgScan) : Prop where
  nodup : (p.uses.map Prod.fst).Nodup
  behind : ∀ u ∈ p.uses, u.1 ≤ p.arg ∨ p.at u.1 = none
  ahead : NullPrefix p.argv (p.arg + 1) k
  arg_lt : p.arg < p.argv.length

/-- The invariant does not look at the variables the letters set. -/
theorem ScanInv.with_flags {k : Nat} {p : ArgScan} (h : ScanInv k p) (f : MainFlags) :
    ScanInv k { p with flags := f } :=
  ⟨h.nodup, h.behind, h.ahead, h.arg_lt⟩

theorem ArgScan.Le.with_flags {p q : ArgScan} (h : p.Le q) (f : MainFlags) :
    p.Le { q with flags := f } :=
  ⟨h.arg_le, h.length_eq, h.consumes⟩

/-- A use of an argument not used before keeps the uses free of repeats. -/
theorem nodup_uses_append {uses : List (Nat × ArgRole)} (h : (uses.map Prod.fst).Nodup) {j : Nat}
    (hj : ∀ u ∈ uses, u.1 ≠ j) (r : ArgRole) : ((uses ++ [(j, r)]).map Prod.fst).Nodup := by
  rw [List.map_append, List.nodup_append]
  exact ⟨h, List.nodup_singleton _, by simpa using fun r (hr : (j, r) ∈ uses) => hj _ hr rfl⟩

/-- An argument after `arg` that is not NULL has not been used. -/
theorem ScanInv.unused {k : Nat} {p : ArgScan} (hinv : ScanInv k p) {j : Nat} {s : String}
    (hj : p.arg < j) (hs : p.at j = some s) : ∀ u ∈ p.uses, u.1 ≠ j := by
  rintro u hu rfl
  rcases hinv.behind u hu with h | h
  · omega
  · rw [hs] at h; cases h

/-- How a stretch of the loop may end: it never hands NULL to `sscanf`, uses no
argument twice when it stops, and goes on only in states satisfying `P`. -/
def ArgRun.Safe {α : Type} (P : α → Prop) : ArgRun α → Prop
  | .ok a => P a
  | .error (e, p) => (∀ i, e ≠ .nullScan i) ∧ (p.uses.map Prod.fst).Nodup

theorem ArgRun.Safe.imp {α : Type} {P Q : α → Prop} {r : ArgRun α} (h : r.Safe P)
    (hPQ : ∀ a, P a → Q a) : r.Safe Q := by
  cases r with
  | ok a => exact hPQ a h
  | error e => exact h

theorem ArgRun.Safe.bind {α β : Type} {P : α → Prop} {Q : β → Prop} {r : ArgRun α}
    {f : α → ArgRun β} (h : r.Safe P) (hf : ∀ a, P a → (f a).Safe Q) : ArgRun.Safe Q (r.bind f) := by
  cases r with
  | ok a => exact hf a h
  | error e => exact h

theorem ArgRun.Safe.map {α β : Type} {P : α → Prop} {Q : β → Prop} {r : ArgRun α}
    {f : α → β} (h : r.Safe P) (hf : ∀ a, P a → Q (f a)) : ArgRun.Safe Q (r.map f) := by
  cases r with
  | ok a => exact hf a h
  | error e => exact h

/-- An `exit` in a state with no argument used twice. -/
theorem ArgRun.safe_exit {α : Type} (P : α → Prop) {k : Nat} {p : ArgScan} (hinv : ScanInv k p)
    (code : Nat) (msg : Option String) (usage : Bool) :
    (ArgRun.Safe P (.error (.exit code msg usage, p))) :=
  ⟨fun _ => MainExit.noConfusion, hinv.nodup⟩

/-- Consuming an entry only turns it NULL. -/
theorem getD_set_none_cases (argv : List (Option String)) (i j : Nat) :
    (argv.set j none).getD i none = argv.getD i none ∨ (argv.set j none).getD i none = none := by
  rw [getD_set_none]
  split_ifs <;> simp

/-- A non-NULL entry from `n` on lies past the NULL run. -/
theorem NullPrefix.le_of_some {argv : List (Option String)} {n k j : Nat} (h : NullPrefix argv n k)
    (hj : n ≤ j) {s : String} (hs : argv.getD j none = some s) : k ≤ j :=
  Nat.le_of_not_lt fun hk => by
    have := (h j hj (lt_length_of_getD hs)).mpr hk
    rw [hs] at this
    cases this

/-- Consuming the first non-NULL entry from `n` on moves the end of the NULL run after
`n` past that entry. -/
theorem NullPrefix.set_none {argv : List (Option String)} {n k j : Nat} (h : NullPrefix argv n k)
    (hle : n ≤ j) {s : String} (hs : argv.getD j none = some s)
    (hbefore : ∀ i, n ≤ i → i < j → argv.getD i none = none) :
    NullPrefix (argv.set j none) n (j + 1) := by
  have hk := h.le_of_some hle hs
  intro i hi hil
  rw [List.length_set] at hil
  rw [getD_set_none]
  rcases Nat.lt_trichotomy i j with hij | rfl | hij
  · simp only [hbefore i hi hij, hij.ne, if_false, Nat.lt_succ_of_lt hij, iff_true]
  · simp
  · have hne : argv.getD i none ≠ none := fun hn => absurd ((h i hi hil).mp hn) (by omega)
    simp only [hij.ne', if_false, hne, false_iff]
    omega

/-- Taking an operand with `nextarg` from `arg + 1` keeps the invariant, with the
consumed run now ending after the operand. -/
theorem ScanInv.consume {k : Nat} {p : ArgScan} (hinv : ScanInv k p) {j : Nat} {s : String}
    {argv : List (Option String)} (h : nextarg p.argv (p.arg + 1) = some (j, s, argv)) :
    ScanInv (j + 1) { p with argv, uses := p.uses ++ [(j, .dma)] } ∧
      p.Le { p with argv, uses := p.uses ++ [(j, .dma)] } := by
  obtain ⟨hle, hs, hbefore, rfl⟩ := nextarg_spec h
  refine ⟨⟨nodup_uses_append hinv.nodup (hinv.unused (by omega) hs) _, fun u hu => ?_,
    hinv.ahead.set_none hle hs hbefore, by simpa using hinv.arg_lt⟩,
    ⟨le_rfl, List.length_set _ _ _, fun i => getD_set_none_cases _ i j⟩⟩
  rcases List.mem_append.mp hu with hu | hu
  · exact (hinv.behind u hu).imp_right fun hn =>
      (getD_set_none_cases _ u.1 j).elim (fun e => e.trans hn) id
  · obtain rfl : u = (j, .dma) := List.mem_singleton.mp hu
    exact .inr (by rw [ArgScan.at_eq, getD_set_none, if_pos rfl])

/-- `-a` moving to an argument after `arg` that is not NULL keeps the invariant. -/
theorem ScanInv.advance {k : Nat} {p : ArgScan} (hinv : ScanInv k p)
    (hlt : p.arg + 1 < p.argv.length) {s : String} (hs : p.at (p.arg + 1) = some s) :
    ScanInv k { p with arg := p.arg + 1, uses := p.uses ++ [(p.arg + 1, .addr)] } ∧
      p.Le { p with arg := p.arg + 1, uses := p.uses ++ [(p.arg + 1, .addr)] } := by
  refine ⟨⟨nodup_uses_append hinv.nodup (hinv.unused (by omega) hs) _, fun u hu => ?_,
    hinv.ahead.mono (Nat.le_succ _), hlt⟩, ⟨Nat.le_succ _, rfl, fun _ => .inl rfl⟩⟩
  rcases List.mem_append.mp hu with hu | hu
  · exact (hinv.behind u hu).imp_left Nat.le_succ_of_le
  · obtain rfl : u = (p.arg + 1, .addr) := List.mem_singleton.mp hu
    exact .inl le_rfl

/-- `-D`'s three operands keep the invariant and leave `arg` where it was. -/
theorem dmaOperands_inv (scan : String → Option (BitVec 32)) :
    ∀ (ws : List String) {k : Nat} {p : ArgScan}, ScanInv k p →
      ArgRun.Safe (fun q => ∃ k', ScanInv k' q.2 ∧ q.2.arg = p.arg ∧ p.Le q.2)
        (dmaOperands scan ws p)
  | [], k, p, hinv => ⟨k, hinv, rfl, .refl p⟩
  | w :: ws, k, p, hinv => by
    unfold dmaOperands
    split
    · exact ArgRun.safe_exit _ hinv _ _ _
    · rename_i j s argv h
      obtain ⟨hinv', hle'⟩ := hinv.consume h
      split
      · exact ArgRun.safe_exit _ hinv' _ _ _
      · exact (dmaOperands_inv scan ws hinv').map fun _ ⟨k', hq, harg, hle⟩ =>
          ⟨k', hq, harg, hle'.trans hle⟩

/-- One letter of a cluster keeps the invariant. Once a `D` has consumed arguments
after `arg`, the letters left contain no `a`. -/
theorem optionLetter_inv (scan : String → Option (BitVec 32)) (ptr : List Char) {c : Char}
    {cs : List Char} {k : Nat} {p : ArgScan} (hinv : ScanInv k p)
    (hk : k ≤ p.arg + 1 ∨ 'a' ∉ c :: cs) (hD : c = 'D' → 'a' ∉ cs) :
    ArgRun.Safe (fun q => ∃ k', ScanInv k' q ∧ (k' ≤ q.arg + 1 ∨ 'a' ∉ cs) ∧ p.Le q)
      (optionLetter scan ptr c p) := by
  unfold optionLetter
  split
  case h_1 =>
    have hk' : k ≤ p.arg + 1 := hk.resolve_right (by simp)
    dsimp only
    split
    case isTrue hlt =>
      obtain ⟨s, hs⟩ : ∃ s, p.at (p.arg + 1) = some s := Option.ne_none_iff_exists'.mp fun hn => by
        have := (hinv.ahead _ le_rfl hlt).mp hn
        omega
      obtain ⟨hinv', hle⟩ := hinv.advance hlt hs
      simp only [hs]
      split
      · exact ArgRun.safe_exit _ hinv' _ _ _
      · exact ⟨k, hinv'.with_flags _, .inl (Nat.le_succ_of_le hk'), hle.with_flags _⟩
    case isFalse => exact ArgRun.safe_exit _ hinv _ _ _
  case h_2 =>
    exact (dmaOperands_inv scan dmaWhich hinv).map fun _ ⟨k', hq, _, hle⟩ =>
      ⟨k', hq.with_flags _, .inr (hD rfl), hle.with_flags _⟩
  case h_3 => exact ArgRun.safe_exit _ hinv _ _ _
  case h_4 =>
    split
    · exact ⟨k, hinv.with_flags _, hk.imp_right fun h hm => h (List.mem_cons_of_mem _ hm),
        (ArgScan.Le.refl p).with_flags _⟩
    · exact ArgRun.safe_exit _ hinv _ _ _

-- ---------------------------------------------------------------------------
-- Clusters and the whole loop
-- ---------------------------------------------------------------------------

/-- Whether a cluster's letters ask for `-D` before `-a`. -/
def dBeforeA : List Char → Bool
  | [] => false
  | c :: cs => (c == 'D' && cs.contains 'a') || dBeforeA cs

/-- An argument with no `D` before an `a` is a cluster with none. -/
theorem dBeforeA_cluster {s : String} {cs : List Char} (h : dBeforeA s.toList = false)
    (hcs : s.toList = '-' :: cs) : dBeforeA cs = false := by
  rw [hcs] at h
  simpa [dBeforeA] using h

/-- The letters of a cluster with no `D` before an `a` keep the invariant. -/
theorem clusterLoop_inv (scan : String → Option (BitVec 32)) :
    ∀ (cs : List Char) {k : Nat} {p : ArgScan}, dBeforeA cs = false → ScanInv k p →
      (k ≤ p.arg + 1 ∨ 'a' ∉ cs) →
      ArgRun.Safe (fun q => (∃ k', ScanInv k' q) ∧ p.Le q) (clusterLoop scan cs p)
  | [], k, p, _, hinv, _ => ⟨⟨k, hinv⟩, .refl p⟩
  | c :: cs, _, p, hDA, hinv, hk => by
    simp only [dBeforeA, Bool.or_eq_false_iff] at hDA
    have hD : c = 'D' → 'a' ∉ cs := fun hc => by simpa [hc] using hDA.1
    exact (optionLetter_inv scan _ hinv hk hD).bind fun q ⟨_, hq, hk', hle⟩ =>
      (clusterLoop_inv scan cs hDA.2 hq hk').imp fun _ ⟨hr, hle'⟩ => ⟨hr, hle.trans hle'⟩

/-- At the head of the loop, at `arg`: no argument used twice; each used argument is
before `arg`, or consumed; from `arg` on, the consumed arguments are those before some
`k`; and no cluster still ahead asks for `-D` before `-a`. -/
structure LoopInv (p : ArgScan) : Prop where
  nodup : (p.uses.map Prod.fst).Nodup
  behind : ∀ u ∈ p.uses, u.1 < p.arg ∨ p.at u.1 = none
  ahead : ∃ k, NullPrefix p.argv p.arg k
  clusters : ∀ j s cs, p.arg ≤ j → p.at j = some s → s.toList = '-' :: cs → dBeforeA cs = false

/-- A consumed argument is skipped. -/
theorem LoopInv.skip {p : ArgScan} (hinv : LoopInv p) :
    LoopInv { p with arg := p.arg + 1 } :=
  ⟨hinv.nodup, fun u hu => (hinv.behind u hu).imp_left Nat.lt_succ_of_lt,
    hinv.ahead.imp fun _ h => h.mono (Nat.le_succ _),
    fun j s cs hj => hinv.clusters j s cs (Nat.le_of_succ_le hj)⟩

/-- Entering the cluster at `arg`: nothing after it is consumed. -/
theorem LoopInv.enter {p : ArgScan} (hinv : LoopInv p) (hlt : p.arg < p.argv.length)
    {s : String} (hs : p.at p.arg = some s) :
    ∃ k, ScanInv k { p with uses := p.uses ++ [(p.arg, .cluster)] } ∧ k ≤ p.arg + 1 := by
  obtain ⟨k, hk⟩ := hinv.ahead
  have hka : k ≤ p.arg := hk.le_of_some le_rfl hs
  have hunused : ∀ u ∈ p.uses, u.1 ≠ p.arg := by
    rintro u hu he
    rcases hinv.behind u hu with h | h
    · omega
    · rw [he, hs] at h; cases h
  refine ⟨k, ⟨nodup_uses_append hinv.nodup hunused _, fun u hu => ?_, hk.mono (Nat.le_succ _),
    hlt⟩, Nat.le_succ_of_le hka⟩
  rcases List.mem_append.mp hu with hu | hu
  · exact (hinv.behind u hu).imp_left Nat.le_of_lt
  · obtain rfl : u = (p.arg, .cluster) := List.mem_singleton.mp hu
    exact .inl le_rfl

/-- Leaving a cluster that kept the invariant: the loop goes on after it. -/
theorem LoopInv.next {p q : ArgScan} (hinv : LoopInv p) {k : Nat} (hq : ScanInv k q)
    (hle : p.Le q) : LoopInv { q with arg := q.arg + 1 } :=
  ⟨hq.nodup, fun u hu => (hq.behind u hu).imp_left Nat.lt_succ_of_le, ⟨k, hq.ahead⟩,
    fun j s cs hj hs => by
      rcases hle.consumes j with h | h
      · exact hinv.clusters j s cs (le_trans hle.arg_le (Nat.le_of_succ_le hj)) (h ▸ hs)
      · simp only [ArgScan.at_eq] at h hs
        rw [h] at hs
        cases hs⟩

/-- The whole loop, from a state that satisfies the invariant and with a round of
fuel for each argument left: it finishes or exits, never hands NULL to `sscanf`, and
uses no argument twice. -/
theorem optionLoop_inv (scan : String → Option (BitVec 32)) :
    ∀ (fuel : Nat) {p : ArgScan}, LoopInv p → p.argv.length - p.arg ≤ fuel →
      ∃ r, optionLoop scan fuel p = some r ∧ ArgRun.Safe (fun q => (q.uses.map Prod.fst).Nodup) r
  | 0, p, hinv, hfuel => by
    unfold optionLoop
    split
    · omega
    · exact ⟨_, rfl, hinv.nodup⟩
  | fuel + 1, p, hinv, hfuel => by
    unfold optionLoop
    split
    case isFalse => exact ⟨_, rfl, hinv.nodup⟩
    case isTrue hlt =>
      dsimp only
      split
      case h_1 hs =>
        exact optionLoop_inv scan fuel hinv.skip (show p.argv.length - (p.arg + 1) ≤ fuel by omega)
      case h_2 s hs =>
        split
        case h_1 cs hcs =>
          obtain ⟨k, hinv₁, hk⟩ := hinv.enter hlt hs
          have hDA : dBeforeA cs = false := hinv.clusters p.arg s cs le_rfl hs hcs
          have hc := clusterLoop_inv scan cs hDA hinv₁ (.inl hk)
          split
          case h_1 q hq =>
            rw [hq] at hc
            obtain ⟨⟨k', hq'⟩, hle⟩ := hc
            have harg : p.arg ≤ q.arg := hle.arg_le
            have hlen : q.argv.length = p.argv.length := hle.length_eq
            exact optionLoop_inv scan fuel (hinv.next hq' ⟨hle.arg_le, hle.length_eq, hle.consumes⟩)
              (show q.argv.length - (q.arg + 1) ≤ fuel by omega)
          case h_2 e he =>
            rw [he] at hc
            exact ⟨_, rfl, hc⟩
        case h_2 => exact ⟨_, rfl, fun _ => MainExit.noConfusion, hinv.nodup⟩

/-- The state a run of the loop ends in, at its end or at its `exit`. -/
def ArgRun.last : ArgRun ArgScan → ArgScan
  | .ok p => p
  | .error (_, p) => p

/-- Whether a run of the loop hands NULL to `sscanf`. -/
def ArgRun.scansNull : ArgRun ArgScan → Bool
  | .error (.nullScan _, _) => true
  | _ => false

theorem ArgRun.Safe.last {r : ArgRun ArgScan} (h : r.Safe fun q => (q.uses.map Prod.fst).Nodup) :
    r.scansNull = false ∧ (r.last.uses.map Prod.fst).Nodup := by
  rcases r with ⟨e | i, q⟩ | q
  · exact ⟨rfl, h.2⟩
  · exact absurd rfl (h.1 i)
  · exact ⟨rfl, h⟩

/-- For every argument vector of non-NULL strings in which no option cluster (an
argument starting with `-`) asks for `-D` before `-a`, and whatever `sscanf` makes of
the operands, `main`'s option loop
finishes or exits within `argc` rounds, never hands NULL to `sscanf`, and uses no
argument in two roles. -/
theorem mainOptions_safe (scan : String → Option (BitVec 32)) (argv : List (Option String))
    (hargs : ∀ a ∈ argv.tail, a ≠ none)
    (hD : ∀ s cs, some s ∈ argv.tail → s.toList = '-' :: cs → dBeforeA cs = false) :
    ∃ r, mainOptions scan argv = some r ∧ r.scansNull = false ∧
      (r.last.uses.map Prod.fst).Nodup := by
  have htail : ∀ j, 1 ≤ j → argv.getD j none = argv.tail.getD (j - 1) none := by
    intro j hj
    obtain ⟨j, rfl⟩ := Nat.exists_eq_add_of_le' hj
    cases argv <;> simp
  have hinv : LoopInv { argv, arg := 1, flags := {}, uses := [] } := by
    refine ⟨List.nodup_nil, fun _ h => absurd h (List.not_mem_nil _), ⟨1, fun j hj hl => ?_⟩,
      fun j s cs hj hs => hD s cs (mem_of_getD ((htail j hj).symm.trans hs))⟩
    dsimp only at hj hl ⊢
    rw [htail j hj, iff_false_intro (Nat.not_lt.mpr hj), iff_false]
    have hl' : j - 1 < argv.tail.length := by simp only [List.length_tail]; omega
    rw [List.getD_eq_getElem?_getD, List.getElem?_eq_getElem hl', Option.getD_some]
    exact hargs _ (List.getElem_mem hl')
  obtain ⟨r, hr, hsafe⟩ := optionLoop_inv scan argv.length hinv (Nat.sub_le _ _)
  exact ⟨r, hr, hsafe.last⟩

/-- `-aD 40 1 2 3 -t9`: `-a` reads its operand before `-D` consumes the next three. -/
theorem mainOptions_safe_aD :
    (∀ a ∈ [some "a4091", some "-aD", some "40", some "1", some "2", some "3", some "-t9"].tail,
        a ≠ none) ∧
      (∀ s cs, some s ∈ [some "a4091", some "-aD", some "40", some "1", some "2", some "3",
        some "-t9"].tail → s.toList = '-' :: cs → dBeforeA cs = false) ∧
      ∃ r, mainOptions (fun _ => some 0)
          [some "a4091", some "-aD", some "40", some "1", some "2", some "3", some "-t9"] = some r ∧
        r.scansNull = false ∧ (r.last.uses.map Prod.fst).Nodup :=
  have hargs : ∀ a ∈ [some "a4091", some "-aD", some "40", some "1", some "2", some "3",
      some "-t9"].tail, a ≠ none := by decide
  have hD : ∀ s cs, some s ∈ [some "a4091", some "-aD", some "40", some "1", some "2", some "3",
      some "-t9"].tail → s.toList = '-' :: cs → dBeforeA cs = false := by
    simp only [List.tail_cons, List.mem_cons, Option.some.injEq, List.mem_singleton,
      List.not_mem_nil, or_false]
    rintro s cs (rfl | rfl | rfl | rfl | rfl | rfl) hcs <;> exact dBeforeA_cluster (by rfl) hcs
  ⟨hargs, hD, mainOptions_safe _ _ hargs hD⟩

/-- `-Da 1 2 3`: `-D` consumes `argv[2..4]`, and `-a` then hands the NULL `argv[2]` to
`sscanf`, so that `argv[2]` is used both as an operand of `-D` and of `-a`. -/
theorem mainOptions_da (scan : String → Option (BitVec 32)) {v₁ v₂ v₃ : BitVec 32}
    (h₁ : scan "1" = some v₁) (h₂ : scan "2" = some v₂) (h₃ : scan "3" = some v₃) :
    mainOptions scan [some "a4091", some "-Da", some "1", some "2", some "3"] =
      some (.error (.nullScan 2,
        ⟨[some "a4091", some "-Da", none, none, none], 2, { flagDma := true, dma := [v₁, v₂, v₃] },
          [(1, .cluster), (2, .dma), (3, .dma), (4, .dma), (2, .addr)]⟩)) := by
  simp [mainOptions, optionLoop, clusterLoop, optionLetter, dmaOperands, nextarg, nextargFrom,
    dmaWhich, h₁, h₂, h₃, Except.map, Except.bind]

end A4091
