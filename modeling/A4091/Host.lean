import Mathlib.Data.List.Perm.Basic

/-!
# A4091 — the host's interrupt-server chain

The A4091 sits on the Amiga's `INT2` (`PORTS`) line, exec interrupt vector
`A4091_IRQ = 3`. Exec keeps the servers of that vector on a list ordered by
priority, and the test engine edits that list with `AddIntServer` and
`RemIntServer`: it takes the resident driver's server ("NCR SCSI") off the
chain and puts its own server ("A4091 test") on it while it owns the card.

A server node is identified by its address; its name and priority are what
the code and exec read from it. Only the vector-3 chain is modelled: nothing
in the test engine touches another vector.

Main results:

* `addIntServer_perm` — `AddIntServer` adds exactly the one node.
* `count_addIntServer` — the same as counts, the form the session invariants
  use.
-/

namespace A4091

/-- An interrupt server node (`struct Interrupt`) as exec's chain holds it: the
node's address, its `ln_Name` and its `ln_Pri`. -/
structure Interrupt where
  node : Nat
  name : String
  pri  : Int
  deriving DecidableEq, Repr

/-- `AddIntServer`: exec `Enqueue`s the node by priority, behind every server
of the same or a higher priority. -/
def addIntServer (i : Interrupt) : List Interrupt → List Interrupt
  | [] => [i]
  | j :: js => if j.pri < i.pri then i :: j :: js else j :: addIntServer i js

/-- `RemIntServer`: exec unlinks the node from the chain. -/
def remIntServer (i : Interrupt) (chain : List Interrupt) : List Interrupt :=
  chain.erase i

/-- Exec's chain, as a multiset, gains exactly the server `AddIntServer` links. -/
theorem addIntServer_perm (i : Interrupt) (chain : List Interrupt) :
    List.Perm (addIntServer i chain) (i :: chain) := by
  induction chain with
  | nil => rfl
  | cons j js ih =>
    unfold addIntServer
    split
    · rfl
    · exact (ih.cons j).trans (List.Perm.swap i j js)

@[simp] theorem mem_addIntServer {i j : Interrupt} {chain : List Interrupt} :
    j ∈ addIntServer i chain ↔ j = i ∨ j ∈ chain := by
  rw [(addIntServer_perm i chain).mem_iff, List.mem_cons]

@[simp] theorem count_addIntServer (p : Interrupt → Bool) (i : Interrupt)
    (chain : List Interrupt) :
    (addIntServer i chain).countP p = chain.countP p + if p i then 1 else 0 := by
  rw [(addIntServer_perm i chain).countP_eq, List.countP_cons]

end A4091
