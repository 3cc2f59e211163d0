import Mathlib.Data.Nat.Bitwise
import Mathlib.Logic.Function.Basic

/-!
# A4091 — the SCRIPTS programs of the DMA tests

`dma_mem_to_mem` and `dma_mem_to_mem_quad` patch a SCRIPTS template in host memory
and start the 53C710 on it. The template is one Memory Move (four for the quad
template) followed by an INT: a Memory Move is three words, the first with bits
31-30 `11`, bits 29-24 reserved (zero) and a 24-bit byte count, then the source
and the destination; `0x98080000` is a Transfer Control INT whose condition is
always true (jump-if-true, no phase or data compare), and its second word the
interrupt vector. The code patches the first word to `0xc0000000 | len` whatever
`len` is.

A script is the memory the SCRIPTS processor fetches from, word by word from the
script's start. The processor is modelled as an interpreter over it: it decodes
the instruction at word `pc`, performs a Memory Move as a `Move` of its count
from its source to its destination, and halts at an INT, at an instruction with
reserved bits set (an illegal instruction, DSTAT.IID), or at an instruction the
model does not decode.

## Results

* `runScript_move`, `runScript_interrupt`, `runScript_illegal` — one step of the
  processor at each kind of instruction it decodes.
* `moveWord_fields` — the fields of `0xc0000000 | len`: a Memory Move whose
  reserved bits are bits 29-24 of `len`, and whose count is its low 24 bits.
* `dmaMemToMem_run`, `dmaMemToMemQuad_run` — what the patched programs do, for
  every `src`, `dst` and `len`: one (four) moves of `len mod 2 ^ 24` bytes and an
  interrupt when bits 29-24 of `len` are clear, and an illegal instruction with
  no move otherwise.
* `dmaMemToMem_run_reserved` — a `len` with a bit among 29-24 set, which `-D`
  passes unchecked, stops the processor at an illegal instruction, no move done.
* `dmaMemToMem_run_of_lt` — below `2 ^ 24` bytes, exactly the move asked for.
-/

namespace A4091

/-- One Memory Move the SCRIPTS processor performs. -/
structure Move where
  src : BitVec 32
  dst : BitVec 32
  count : Nat
  deriving DecidableEq, Repr

/-- How a SCRIPTS run stops. -/
inductive Halt
  /-- An INT instruction: DSTAT.SIR, with DSPS the vector. -/
  | interrupt (vector : BitVec 32)
  /-- An instruction with reserved bits set: DSTAT.IID. -/
  | illegal (pc : Nat)
  /-- An instruction the model does not decode. -/
  | unmodelled (pc : Nat)
  deriving DecidableEq, Repr

/-- An instruction as the SCRIPTS processor decodes it. -/
inductive Instr
  | memoryMove (count : Nat) (src dst : BitVec 32)
  | interrupt (vector : BitVec 32)
  | illegal
  | unmodelled

/-- A SCRIPTS program in host memory: the word at each index from its start. -/
abbrev Script := Nat → BitVec 32

/-- The instruction at word `pc`: bits 31-30 `11` is a Memory Move, whose bits
29-24 must be zero; bits 31-27 `10011` is a Transfer Control INT, unconditional
when bits 19-16 are `1000` (jump if true, no compare, no wait). -/
def decode (script : Script) (pc : Nat) : Instr :=
  let w := (script pc).toNat
  if w / 2 ^ 30 = 3 then
    if w / 2 ^ 24 % 2 ^ 6 = 0 then .memoryMove (w % 2 ^ 24) (script (pc + 1)) (script (pc + 2))
    else .illegal
  else if w / 2 ^ 27 = 0b10011 ∧ w / 2 ^ 16 % 2 ^ 4 = 0b1000 then .interrupt (script (pc + 1))
  else .unmodelled

/-- The SCRIPTS processor from `pc`, with the moves done so far; `fuel` bounds the
instructions it runs. -/
def runScript (script : Script) : Nat → Nat → List Move → Option (List Move × Halt)
  | 0, _, _ => none
  | fuel + 1, pc, done =>
    match decode script pc with
    | .memoryMove n src dst => runScript script fuel (pc + 3) (done ++ [⟨src, dst, n⟩])
    | .interrupt v => some (done, .interrupt v)
    | .illegal => some (done, .illegal pc)
    | .unmodelled => some (done, .unmodelled pc)

/-- One step of the SCRIPTS processor at a Memory Move: the move is done and the
run goes on three words further. -/
theorem runScript_move {script : Script} {pc n : Nat} {src dst : BitVec 32}
    (h : decode script pc = .memoryMove n src dst) (fuel : Nat) (done : List Move) :
    runScript script (fuel + 1) pc done = runScript script fuel (pc + 3) (done ++ [⟨src, dst, n⟩]) := by
  simp only [runScript, h]

/-- The SCRIPTS processor stops at an INT with its vector. -/
theorem runScript_interrupt {script : Script} {pc : Nat} {v : BitVec 32}
    (h : decode script pc = .interrupt v) (fuel : Nat) (done : List Move) :
    runScript script (fuel + 1) pc done = some (done, .interrupt v) := by
  simp only [runScript, h]

/-- The SCRIPTS processor stops at an illegal instruction. -/
theorem runScript_illegal {script : Script} {pc : Nat} (h : decode script pc = .illegal)
    (fuel : Nat) (done : List Move) : runScript script (fuel + 1) pc done = some (done, .illegal pc) := by
  simp only [runScript, h]

/-- `dma_mem_move_script` (the model reads the words past the array as zero). -/
def dmaMemMoveScript : Script := fun j =>
  [0xc0000000, 0x00000000, 0x00000000,
    0x98080000, 0x00000000,
    0x00000000, 0x00000000, 0x00000000, 0x00000000, 0x00000000, 0x00000000,
    0x00000000, 0x00000000, 0x00000000, 0x00000000,
    0x00000000].getD j 0

/-- `dma_mem_move_script_quad`. -/
def dmaMemMoveScriptQuad : Script := fun j =>
  [0xc0000000, 0x00000000, 0x00000000,
    0xc0000000, 0x00000000, 0x00000000,
    0xc0000000, 0x00000000, 0x00000000,
    0xc0000000, 0x00000000, 0x00000000,
    0x98080000, 0x00000000,
    0x00000000, 0x00000000, 0x00000000, 0x00000000, 0x00000000, 0x00000000,
    0x00000000, 0x00000000, 0x00000000, 0x00000000, 0x00000000, 0x00000000,
    0x00000000, 0x00000000, 0x00000000, 0x00000000, 0x00000000, 0x00000000,
    0x00000000, 0x00000000,
    0x00000000].getD j 0

/-- `0xc0000000 | len`: the first word of a patched Memory Move. -/
def moveWord (len : BitVec 32) : BitVec 32 := 0xc0000000 ||| len

/-- `script[3i] = 0xc0000000 | len; script[3i+1] = src; script[3i+2] = dst`. -/
def patchMove (script : Script) (i : Nat) (src dst len : BitVec 32) : Script :=
  Function.update (Function.update (Function.update script (3 * i) (moveWord len))
    (3 * i + 1) src) (3 * i + 2) dst

/-- The program `dma_mem_to_mem(src, dst, len)` starts. -/
def dmaMemToMemScript (src dst len : BitVec 32) : Script :=
  patchMove dmaMemMoveScript 0 src dst len

/-- The program `dma_mem_to_mem_quad(src, dst, len, update_script)` starts: the
template patched four times, or, without `update_script`, the program it last ran. -/
def dmaMemToMemQuadScript (prev : Script) (src dst len : BitVec 32) (updateScript : Bool) :
    Script :=
  if updateScript then
    patchMove (patchMove (patchMove (patchMove dmaMemMoveScriptQuad 0 src dst len) 1 src dst len)
      2 src dst len) 3 src dst len
  else prev

-- ---------------------------------------------------------------------------
-- The fields of `0xc0000000 | len`
-- ---------------------------------------------------------------------------

/-- Or-ing bits at and above `k` leaves the bits below `k`. -/
theorem or_high_mod (c x k : Nat) : (2 ^ k * c ||| x) % 2 ^ k = x % 2 ^ k := by
  apply Nat.eq_of_testBit_eq
  intro j
  simp only [Nat.testBit_mod_two_pow, Nat.testBit_or, Nat.testBit_mul_pow_two]
  by_cases hj : j < k
  · simp [hj, show ¬ j ≥ k by omega]
  · simp [hj]

/-- Above bit `k`, or-ing `2 ^ k * c` is or-ing `c`. -/
theorem or_high_div (c x k : Nat) : (2 ^ k * c ||| x) / 2 ^ k = c ||| x / 2 ^ k := by
  apply Nat.eq_of_testBit_eq
  intro j
  simp only [← Nat.shiftRight_eq_div_pow, Nat.testBit_shiftRight, Nat.testBit_or,
    Nat.testBit_mul_pow_two]
  simp [Nat.add_sub_cancel_left]

/-- `0xc0000000 | len` is always a Memory Move word; its reserved bits 29-24 are
those of `len`, and its count the low 24 bits of `len`. -/
theorem moveWord_fields (len : BitVec 32) :
    (moveWord len).toNat / 2 ^ 30 = 3 ∧
      (moveWord len).toNat / 2 ^ 24 % 2 ^ 6 = len.toNat / 2 ^ 24 % 2 ^ 6 ∧
      (moveWord len).toNat % 2 ^ 24 = len.toNat % 2 ^ 24 := by
  have hw : (moveWord len).toNat = 2 ^ 24 * (2 ^ 6 * 3) ||| len.toNat := by
    rw [moveWord, BitVec.toNat_or]; rfl
  have hq : len.toNat / 2 ^ 24 / 2 ^ 6 < 4 := by have := len.isLt; omega
  rw [hw, or_high_div, or_high_mod, or_high_mod, show 2 ^ 30 = 2 ^ 24 * 2 ^ 6 by rfl,
    ← Nat.div_div_eq_div_mul, or_high_div, or_high_div]
  refine ⟨?_, rfl, rfl⟩
  generalize len.toNat / 2 ^ 24 / 2 ^ 6 = q at hq
  rcases (by omega : q = 0 ∨ q = 1 ∨ q = 2 ∨ q = 3) with rfl | rfl | rfl | rfl <;> rfl

/-- A patched Memory Move decodes as the move asked for when the reserved bits
of `len` are clear, and as an illegal instruction otherwise. -/
theorem decode_moveWord {script : Script} {pc : Nat} {src dst len : BitVec 32}
    (h0 : script pc = moveWord len) (h1 : script (pc + 1) = src) (h2 : script (pc + 2) = dst) :
    decode script pc = if len.toNat / 2 ^ 24 % 2 ^ 6 = 0
      then .memoryMove (len.toNat % 2 ^ 24) src dst else .illegal := by
  obtain ⟨hop, hres, hcount⟩ := moveWord_fields len
  simp only [decode, h0, h1, h2, hop, hres, hcount, if_true]

/-- The INT of the templates. -/
theorem decode_int {script : Script} {pc : Nat} (h0 : script pc = 0x98080000) :
    decode script pc = .interrupt (script (pc + 1)) := by
  simp only [decode, h0]
  rw [if_neg (by decide), if_pos (by decide)]

/-- The first instruction of `dma_mem_to_mem`'s program. -/
theorem decode_dmaMemToMemScript (src dst len : BitVec 32) :
    decode (dmaMemToMemScript src dst len) 0 = if len.toNat / 2 ^ 24 % 2 ^ 6 = 0
      then .memoryMove (len.toNat % 2 ^ 24) src dst else .illegal :=
  decode_moveWord (by simp [dmaMemToMemScript, patchMove]) (by simp [dmaMemToMemScript, patchMove])
    (by simp [dmaMemToMemScript, patchMove])

-- ---------------------------------------------------------------------------
-- The runs
-- ---------------------------------------------------------------------------

/-- What `dma_mem_to_mem(src, dst, len)` has the SCRIPTS processor do, for every
`src`, `dst` and `len`: the move of `len mod 2 ^ 24` bytes and the interrupt when
bits 29-24 of `len` are clear, and otherwise an illegal instruction, before any
move. -/
theorem dmaMemToMem_run (src dst len : BitVec 32) (fuel : Nat) :
    runScript (dmaMemToMemScript src dst len) (fuel + 2) 0 [] =
      if len.toNat / 2 ^ 24 % 2 ^ 6 = 0 then some ([⟨src, dst, len.toNat % 2 ^ 24⟩], .interrupt 0)
      else some ([], .illegal 0) := by
  have hint : decode (dmaMemToMemScript src dst len) 3 = .interrupt 0 :=
    decode_int (by simp only [dmaMemToMemScript, patchMove, Function.update_apply]; rfl)
  by_cases hres : len.toNat / 2 ^ 24 % 2 ^ 6 = 0
  · rw [if_pos hres, runScript_move ((decode_dmaMemToMemScript src dst len).trans (if_pos hres)),
      runScript_interrupt hint]
    rfl
  · rw [if_neg hres, runScript_illegal ((decode_dmaMemToMemScript src dst len).trans (if_neg hres))]

/-- A `len` with any of bits 29-24 set makes `dma_mem_to_mem` start the SCRIPTS
processor on an illegal instruction: it stops at once, without any move, however
long it may run. -/
theorem dmaMemToMem_run_reserved (src dst len : BitVec 32) (h : len.toNat / 2 ^ 24 % 2 ^ 6 ≠ 0)
    (fuel : Nat) : runScript (dmaMemToMemScript src dst len) (fuel + 1) 0 [] = some ([], .illegal 0) :=
  runScript_illegal ((decode_dmaMemToMemScript src dst len).trans (if_neg h)) fuel []

/-- `a4091 -D 0 0 1000000`: bit 24 of the count is set. -/
theorem dmaMemToMem_run_bit24 : (0x01000000 : BitVec 32).toNat / 2 ^ 24 % 2 ^ 6 ≠ 0 ∧
    runScript (dmaMemToMemScript 0 0 0x01000000) 1 0 [] = some ([], .illegal 0) :=
  ⟨by decide, dmaMemToMem_run_reserved 0 0 0x01000000 (by decide) 0⟩

/-- Below `2 ^ 24` bytes, `dma_mem_to_mem` moves exactly `len` bytes from `src`
to `dst` and stops with the interrupt. -/
theorem dmaMemToMem_run_of_lt (src dst len : BitVec 32) (h : len.toNat < 2 ^ 24) (fuel : Nat) :
    runScript (dmaMemToMemScript src dst len) (fuel + 2) 0 [] =
      some ([⟨src, dst, len.toNat⟩], .interrupt 0) := by
  rw [dmaMemToMem_run, if_pos (by rw [Nat.div_eq_of_lt h]; rfl), Nat.mod_eq_of_lt h]

/-- `test_dma` reads four bytes into SCRATCH. -/
example : runScript (dmaMemToMemScript 0x00202000 0x40800034 4) 2 0 [] =
    some ([⟨0x00202000, 0x40800034, 4⟩], .interrupt 0) :=
  dmaMemToMem_run_of_lt _ _ _ (by decide) 0

/-- What `dma_mem_to_mem_quad(src, dst, len, 1)` has the SCRIPTS processor do:
four moves of `len mod 2 ^ 24` bytes and the interrupt when bits 29-24 of `len`
are clear, and otherwise an illegal instruction at the first word. -/
theorem dmaMemToMemQuad_run (prev : Script) (src dst len : BitVec 32) (fuel : Nat) :
    runScript (dmaMemToMemQuadScript prev src dst len true) (fuel + 5) 0 [] =
      if len.toNat / 2 ^ 24 % 2 ^ 6 = 0 then
        some (List.replicate 4 ⟨src, dst, len.toNat % 2 ^ 24⟩, .interrupt 0)
      else some ([], .illegal 0) := by
  have hmove : ∀ i < 4, decode (dmaMemToMemQuadScript prev src dst len true) (3 * i) =
      if len.toNat / 2 ^ 24 % 2 ^ 6 = 0 then .memoryMove (len.toNat % 2 ^ 24) src dst
      else .illegal := by
    intro i hi
    rcases (by omega : i = 0 ∨ i = 1 ∨ i = 2 ∨ i = 3) with rfl | rfl | rfl | rfl <;>
      exact @decode_moveWord (dmaMemToMemQuadScript prev src dst len true) _ src dst len
        (by simp [dmaMemToMemQuadScript, patchMove]) (by simp [dmaMemToMemQuadScript, patchMove])
        (by simp [dmaMemToMemQuadScript, patchMove])
  have hint : decode (dmaMemToMemQuadScript prev src dst len true) 12 = .interrupt 0 :=
    decode_int (by simp only [dmaMemToMemQuadScript, if_true, patchMove, Function.update_apply]; rfl)
  by_cases hres : len.toNat / 2 ^ 24 % 2 ^ 6 = 0
  · have hm : ∀ i < 4, decode (dmaMemToMemQuadScript prev src dst len true) (3 * i) =
        .memoryMove (len.toNat % 2 ^ 24) src dst := fun i hi => (hmove i hi).trans (if_pos hres)
    rw [if_pos hres, runScript_move (hm 0 (by decide)), runScript_move (hm 1 (by decide)),
      runScript_move (hm 2 (by decide)), runScript_move (hm 3 (by decide)), runScript_interrupt hint]
    rfl
  · rw [if_neg hres, runScript_illegal ((hmove 0 (by decide)).trans (if_neg hres))]

end A4091
