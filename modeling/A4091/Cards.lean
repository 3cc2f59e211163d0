import Mathlib.Data.List.Basic

/-!
# A4091 — which cards the tool lists and which it operates on

`expansion.library`'s `FindConfigDev` walks the A4091 `ConfigDev`s in autoconfig
order; the model takes that order as a list of cards. `a4091_list` prints a row
for each card its selector `addr` picks, and `main` operates on the card
`a4091_find` picks: the `addr`-th card when `addr < 0x10`, otherwise the card at
board address `addr`. Without `-a`, `addr` keeps its default 0.

`a4091_list` classifies the selector with `addr > 0x10` and `addr <= 0x10`,
`main` with `addr < 0x10`: the two agree on every selector but `0x10`.

## Results

* `a4091ListLoop_rows` — `a4091_list` prints the cards its selector picks, in
  autoconfig order: by index up to `0x10`, by board address above.
* `a4091FindLoop_eq` — `a4091_find(pos)` is the board address of card `pos`, or
  `-1` when there is none.
* `a4091List_zero` — without `-a`, `-P` lists the first card only.
* `a4091List_operated` — for every selector but `0x10`, `a4091_list` prints
  exactly the cards `main` would operate on.
-/

namespace A4091

/-- An A4091 `ConfigDev` as the two walks read it: its board address, and what
`a4091_list` prints besides (size, the `cd_Flags` bits and the binding). -/
structure ConfigDev where
  boardAddr : BitVec 32
  boardSize : BitVec 32
  flags : BitVec 8
  bound : Bool
  deriving DecidableEq, Repr

-- ---------------------------------------------------------------------------
-- `a4091_list` and `a4091_find`
-- ---------------------------------------------------------------------------

/-- Whether `a4091_list`'s loop skips the card it found as number `count`:
`((addr > 0x10) && (cd_BoardAddr != addr)) || ((addr <= 0x10) && (count != addr))`.
`count` is an `int` converted to `uint32_t` for the comparison, exact while the
number of cards fits. -/
def a4091ListSkips (addr : BitVec 32) (count : Nat) (c : ConfigDev) : Bool :=
  (addr > 0x10 && c.boardAddr != addr) || (addr ≤ 0x10 && count != addr.toNat)

/-- The rows `a4091_list`'s loop prints, each with the card's index, from card
number `count` on. -/
def a4091ListLoop (addr : BitVec 32) : Nat → List ConfigDev → List (Nat × ConfigDev)
  | _, [] => []
  | count, c :: cs =>
    if a4091ListSkips addr count c then a4091ListLoop addr (count + 1) cs
    else (count, c) :: a4091ListLoop addr (count + 1) cs

/-- What `a4091_list(addr)` prints and returns, once `expansion.library` is open. -/
structure ListOutput where
  rows : List (Nat × ConfigDev)
  /-- "No A4091 cards detected". -/
  noneDetected : Bool
  /-- "Specified card %x not detected". -/
  notDetected : Bool
  rc : Nat
  deriving DecidableEq, Repr

/-- `a4091_list(addr)`. -/
def a4091List (addr : BitVec 32) (cards : List ConfigDev) : ListOutput :=
  let rows := a4091ListLoop addr 0 cards
  { rows := rows
    noneDetected := cards.isEmpty
    notDetected := !cards.isEmpty && rows.isEmpty
    rc := if cards.isEmpty then 1 else 0 }

/-- `a4091_find(pos)`'s loop from card number `count` on: the board address of the
card numbered `pos`, or `-1`. -/
def a4091FindLoop (pos : BitVec 32) : Nat → List ConfigDev → BitVec 32
  | _, [] => 0xffffffff
  | count, c :: cs => if pos.toNat = count then c.boardAddr else a4091FindLoop pos (count + 1) cs

/-- `a4091_find(pos)`. -/
def a4091Find (pos : BitVec 32) (cards : List ConfigDev) : BitVec 32 := a4091FindLoop pos 0 cards

/-- `main`'s choice of `a4091_base` from the selector `addr`. -/
def mainBase (addr : BitVec 32) (cards : List ConfigDev) : BitVec 32 :=
  if addr < 0x10 then a4091Find addr cards else addr

-- ---------------------------------------------------------------------------
-- What the walks select
-- ---------------------------------------------------------------------------

/-- The loop prints the cards from number `count` on that the selector picks. -/
theorem a4091ListLoop_rows (addr : BitVec 32) :
    ∀ (count : Nat) (cards : List ConfigDev), a4091ListLoop addr count cards =
      (cards.enumFrom count).filter fun ic => !a4091ListSkips addr ic.1 ic.2
  | _, [] => rfl
  | count, c :: cs => by
    rw [a4091ListLoop, List.enumFrom_cons, List.filter_cons, a4091ListLoop_rows addr (count + 1) cs]
    cases a4091ListSkips addr count c <;> rfl

/-- `a4091_find(pos)` answers the board address of card `pos`, or `-1`. -/
theorem a4091FindLoop_eq (pos : BitVec 32) :
    ∀ (count : Nat) (cards : List ConfigDev), count ≤ pos.toNat →
      a4091FindLoop pos count cards = ((cards.get? (pos.toNat - count)).map (·.boardAddr)).getD 0xffffffff
  | _, [], _ => rfl
  | count, c :: cs, h => by
    rw [a4091FindLoop]
    split
    · rename_i he
      simp [← he]
    · rename_i hne
      rw [a4091FindLoop_eq pos (count + 1) cs (by omega),
        show pos.toNat - count = pos.toNat - (count + 1) + 1 by omega]
      rfl

-- ---------------------------------------------------------------------------
-- Listing against operating
-- ---------------------------------------------------------------------------

/-- The cards `main` operates on for the selector `v`, in the words of the usage
text: the `v`-th card when `v < 0x10`, otherwise the cards at board address `v`. -/
def operatedCards (v : BitVec 32) (cards : List ConfigDev) : List (Nat × ConfigDev) :=
  cards.enum.filter fun ic => if v < 0x10 then ic.1 == v.toNat else ic.2.boardAddr == v

/-- `main` operates on the board address of the `v`-th card for `v < 0x10` (on
`-1`, "No A4091 cards detected", when there is none), and on the address `v`
itself otherwise. -/
theorem mainBase_eq (v : BitVec 32) (cards : List ConfigDev) :
    mainBase v cards = if v < 0x10 then ((cards.get? v.toNat).map (·.boardAddr)).getD 0xffffffff
      else v := by
  unfold mainBase a4091Find
  split
  · rw [a4091FindLoop_eq v 0 cards (Nat.zero_le _), Nat.sub_zero]
  · rfl

/-- Without `-a` the selector is 0, and `-P` lists the first card only. -/
theorem a4091List_zero (cards : List ConfigDev) : (a4091List 0 cards).rows = cards.enum.take 1 := by
  cases cards with
  | nil => rfl
  | cons c cs =>
    show a4091ListLoop 0 0 (c :: cs) = [(0, c)]
    rw [a4091ListLoop_rows, List.enumFrom_cons, List.filter_cons_of_pos rfl]
    refine congrArg _ (List.filter_eq_nil_iff.mpr fun ic hic => ?_)
    have h1 : 1 ≤ ic.1 := List.le_fst_of_mem_enumFrom hic
    simp [a4091ListSkips]
    omega

/-- For every population of cards and every selector but `0x10`, `a4091_list`
prints exactly the cards `main` operates on. -/
theorem a4091List_operated (cards : List ConfigDev) {v : BitVec 32} (hv : v ≠ 0x10) :
    (a4091List v cards).rows = operatedCards v cards := by
  show a4091ListLoop v 0 cards = _
  rw [a4091ListLoop_rows, operatedCards]
  refine List.filter_congr fun ic _ => ?_
  by_cases hlt : v < 0x10
  · have hgt : ¬ v > 0x10 := by bv_omega
    have hle : v ≤ 0x10 := by bv_omega
    rw [if_pos hlt, a4091ListSkips, decide_eq_false hgt, decide_eq_true hle]
    simp [bne]
  · have hgt : v > 0x10 := by bv_omega
    have hle : ¬ v ≤ 0x10 := by bv_omega
    rw [if_neg hlt, a4091ListSkips, decide_eq_true hgt, decide_eq_false hle]
    simp [bne]

/-- At the selector `0x10` itself `a4091_list` takes the index branch and prints
card number 16, while `main` takes the address branch. -/
theorem a4091List_sixteen (cards : List ConfigDev) :
    (a4091List 0x10 cards).rows = cards.enum.filter fun ic => ic.1 == 0x10 := by
  show a4091ListLoop 0x10 0 cards = _
  rw [a4091ListLoop_rows]
  refine List.filter_congr fun ic _ => ?_
  simp [a4091ListSkips, bne]

/-- What `-P` prints against what `main` operates on, for every population of
cards: without `-a` only the first card is listed; at the selector `0x10` the
list shows card number 16 while `main` operates at board address `0x10`; at every
other selector the two agree. -/
theorem a4091List_selects (cards : List ConfigDev) :
    (a4091List 0 cards).rows = cards.enum.take 1 ∧
      ((a4091List 0x10 cards).rows = cards.enum.filter (fun ic => ic.1 == 0x10) ∧
        mainBase 0x10 cards = 0x10) ∧
      ∀ v : BitVec 32, v ≠ 0x10 → (a4091List v cards).rows = operatedCards v cards :=
  ⟨a4091List_zero cards, ⟨a4091List_sixteen cards, rfl⟩, fun _ hv => a4091List_operated cards hv⟩

example : (a4091List 0 [⟨0x40000000, 0x2000000, 0, true⟩, ⟨0x42000000, 0x2000000, 0, false⟩]).rows.length = 1 := by
  decide

end A4091
