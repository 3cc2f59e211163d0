import A4091.Memory
import A4091.Ncr53c710

/-!
# A4091 — `test_dma`: DMA from host memory to SCRATCH

`test_dma` takes a buffer of `3 * dma_len` bytes from `AllocMem_aligned`, meant
to use its middle third as the source region. For each 4-byte position it
stores a fresh `rand32` word, has the 53C710 move those four bytes into its
SCRATCH register with `dma_mem_to_scratch`, and compares SCRATCH with the word.

The source pointer is `src = tsrc + dma_len` with `tsrc` an `APTR *`, so it
lies `4 * dma_len` bytes past the buffer's start, already past its end: every
word the test stores and every DMA source it names lies outside its buffer.

What the card does is an oracle: for each position, `dma_mem_to_scratch` either
times out (`none`) or completes with SCRATCH reading back some value.

Main results:

* `testDmaLoop_accesses` — the accesses of the transfer loop, position by
  position.
* `testDma_outside_buffer` — for every buffer the allocator can hand out, every
  store and every DMA source of `test_dma` lies outside it.
-/

namespace A4091

/-- `dma_len` of `test_dma`. -/
def testDmaLen : Nat := 2048

/-- The destination `dma_mem_to_scratch` gives the memory move: SCRATCH in the
register window of the card at `base`. -/
def scratchAddr (base : Nat) : Nat := addr32 (getNcrregAddr base regScratch)

/-- The positions `for (pos = 0; pos < dma_len; pos += 4)` visits. -/
def testDmaPositions : List Nat := List.range' 0 (testDmaLen / 4) 4

/-- The transfer loop of `test_dma` over the positions left, from the generator's
seed and the mismatch count `rc2`. It returns the accesses and the test's `rc`:
`1` when a transfer times out (`goto fail_dma` skips `rc += rc2`), `rc2`
otherwise. -/
def testDmaLoop (base src : Nat) (xfer : Nat → Option (BitVec 32)) :
    List Nat → BitVec 32 → Nat → List Access × Nat
  | [], _, rc2 => ([], rc2)
  | pos :: rest, seed, rc2 =>
    let saddr := addr32 (src + pos)
    let w := rand32 seed
    let here := [Access.cpuStore saddr 4, Access.dmaMove saddr (scratchAddr base) 4]
    match xfer pos with
    | none => (here, 1)
    | some scratch =>
      let r := testDmaLoop base src xfer rest w (if w ^^^ scratch ≠ 0 then rc2 + 1 else rc2)
      (here ++ r.1, r.2)

/-- `test_dma` for the card at `base`, given what `AllocMem_aligned` answered for
`tsrc`, the seed `srand32(time(NULL))` set, and what each transfer did. The
buffer is freed on every path that got one. -/
def testDma (base : Nat) (tsrc : Option (Grant (3 * testDmaLen))) (seed : BitVec 32)
    (xfer : Nat → Option (BitVec 32)) : List Access × Nat :=
  match tsrc with
  | none => ([], 1)
  | some g =>
    let src := g.base + aptrSize * testDmaLen
    let r := testDmaLoop base src xfer testDmaPositions seed 0
    (r.1 ++ [Access.free g.base (3 * testDmaLen)], r.2)

/-- Each access of the transfer loop is, at some visited position, the store of
its word or the DMA that reads it back. -/
theorem testDmaLoop_accesses {base src : Nat} {xfer : Nat → Option (BitVec 32)}
    {ps : List Nat} {seed : BitVec 32} {rc2 : Nat} {acc : Access}
    (h : acc ∈ (testDmaLoop base src xfer ps seed rc2).1) :
    ∃ pos ∈ ps, acc = .cpuStore (addr32 (src + pos)) 4 ∨
      acc = .dmaMove (addr32 (src + pos)) (scratchAddr base) 4 := by
  induction ps generalizing seed rc2 with
  | nil => simp [testDmaLoop] at h
  | cons p ps ih =>
    simp only [testDmaLoop] at h
    split at h
    · simp at h
      exact ⟨p, by simp, h⟩
    · simp only [List.cons_append, List.mem_cons, List.singleton_append] at h
      rcases h with h | h | h
      · exact ⟨p, by simp, .inl h⟩
      · exact ⟨p, by simp, .inr h⟩
      · obtain ⟨q, hq, hq'⟩ := ih h
        exact ⟨q, List.mem_cons_of_mem p hq, hq'⟩

/-- The loop stores the word of the first position it visits, however the
transfer then goes. -/
theorem store_mem_testDmaLoop (base src : Nat) (xfer : Nat → Option (BitVec 32)) (p : Nat)
    (ps : List Nat) (seed : BitVec 32) (rc2 : Nat) :
    Access.cpuStore (addr32 (src + p)) 4 ∈ (testDmaLoop base src xfer (p :: ps) seed rc2).1 := by
  simp only [testDmaLoop]
  split <;> simp

/-- A word at a visited position, `4 * dma_len` bytes past the buffer's start,
lies outside the buffer, with or without 32-bit wrap-around. -/
theorem apart_src_word (g : Grant (3 * testDmaLen)) {pos : Nat}
    (hpos : pos ∈ testDmaPositions) :
    Apart (addr32 (g.base + aptrSize * testDmaLen + pos)) 4 g.base (3 * testDmaLen) := by
  have hg := g.fits
  simp only [testDmaPositions, List.mem_range'] at hpos
  obtain ⟨i, hi, rfl⟩ := hpos
  unfold Apart addr32 aptrSize testDmaLen at *
  omega

/-- `test_dma` never stays inside its buffer: for every buffer the allocator can
hand it and every behaviour of the card, each word it stores and each DMA
source it names lies outside `[tsrc, tsrc + 3 * dma_len)`. -/
theorem testDma_outside_buffer (base : Nat) (g : Grant (3 * testDmaLen)) (seed : BitVec 32)
    (xfer : Nat → Option (BitVec 32)) :
    ∀ acc ∈ (testDma base (some g) seed xfer).1,
      (∀ a n, acc = .cpuStore a n → Apart a n g.base (3 * testDmaLen)) ∧
      (∀ s d n, acc = .dmaMove s d n → Apart s n g.base (3 * testDmaLen)) := by
  intro acc hacc
  simp only [testDma, List.mem_append, List.mem_singleton] at hacc
  rcases hacc with hacc | rfl
  · obtain ⟨pos, hpos, rfl | rfl⟩ := testDmaLoop_accesses hacc
    · exact ⟨by rintro a n ⟨⟩; exact apart_src_word g hpos, by simp⟩
    · exact ⟨by simp, by rintro s d n ⟨⟩; exact apart_src_word g hpos⟩
  · exact ⟨by simp, by simp⟩

/-- A buffer at `0x200000`, ending at `0x201800`: the first word goes to
`0x202000`. -/
theorem testDma_first_store_outside :
    Access.cpuStore 0x202000 4 ∈
      (testDma 0x40000000 (some ⟨0x200000, by decide, by decide⟩) 0 (fun _ => some 0)).1 ∧
    Apart 0x202000 4 0x200000 (3 * testDmaLen) := by
  have hmem : Access.cpuStore 0x202000 4 ∈
      (testDma 0x40000000 (some ⟨0x200000, by decide, by decide⟩) 0 (fun _ => some 0)).1 := by
    show _ ∈ (testDmaLoop 0x40000000 (0x200000 + aptrSize * testDmaLen) (fun _ => some 0)
      testDmaPositions 0 0).1 ++ _
    rw [show testDmaPositions = 0 :: List.range' 4 511 4 from rfl]
    exact List.mem_append_left _ (store_mem_testDmaLoop _ _ _ 0 _ _ _)
  exact ⟨hmem, (testDma_outside_buffer _ _ _ _ _ hmem).1 _ _ rfl⟩

end A4091
