import Mathlib.Tactic.Linarith

/-!
# A4091 — host memory as the DMA tests use it

The DMA tests allocate buffers with `AllocMem`, `AllocAbs` and
`AllocMem_aligned`, store into them, and hand ranges of them to the 53C710 as
DMA sources and destinations. Addresses are the 68k's 32-bit addresses, kept as
`Nat`; the code's `(uint32_t)` pointer arithmetic is `% 2 ^ 32`, and arithmetic
on an `APTR *` steps in units of `sizeof (APTR) = 4`.

A block the allocator grants (`Grant len`) lies inside the address space: that
is what an allocator answer can be, and it is carried by the block itself. What
a test does to memory is recorded as a list of `Access`es, in program order.

Main results:

* `apart_of_mod_eq` — two blocks of `n` bytes at distinct addresses that agree
  modulo `n` share no byte: the fact behind the bit-flip grid's layout.
* `Ram.Steps` and its step lemmas (`steps_memset`, `steps_memcpy`,
  `steps_dmaStore`, ...) — what each memory operation may change, composed over
  whole loops with `Steps.trans`.
-/

namespace A4091

/-- `(uint32_t)` arithmetic on addresses. -/
def addr32 (a : Nat) : Nat := a % 2 ^ 32

/-- `sizeof (APTR)`: pointer arithmetic on an `APTR *` steps by this many bytes. -/
def aptrSize : Nat := 4

/-- A block of `len` bytes the allocator handed out, at `base`: never at NULL,
and inside the address space. -/
structure Grant (len : Nat) where
  base : Nat
  nonnull : 0 < base
  fits : base + len ≤ 2 ^ 32

/-- `[a, a + n)` and `[b, b + m)` share no byte. -/
def Apart (a n b m : Nat) : Prop := a + n ≤ b ∨ b + m ≤ a

instance (a n b m : Nat) : Decidable (Apart a n b m) := inferInstanceAs (Decidable (_ ∨ _))

theorem apart_comm {a n b m : Nat} : Apart a n b m ↔ Apart b m a n := Or.comm

/-- Two blocks of `n` bytes at distinct addresses that agree modulo `n` share no
byte. -/
theorem apart_of_mod_eq {a b n : Nat} (h : a % n = b % n) (hne : a ≠ b) : Apart a n b n := by
  unfold Apart
  rcases Nat.lt_or_gt_of_ne hne with hab | hab
  · have := Nat.le_of_dvd (by omega) (Nat.dvd_of_mod_eq_zero (Nat.sub_mod_eq_zero_of_mod_eq h.symm))
    omega
  · have := Nat.le_of_dvd (by omega) (Nat.dvd_of_mod_eq_zero (Nat.sub_mod_eq_zero_of_mod_eq h))
    omega

/-- The byte at offset `i` of a block is outside every block apart from it. -/
theorem Apart.not_mem {a n b m i : Nat} (h : Apart a n b m) (hi : i < n) :
    ¬ (b ≤ a + i ∧ a + i < b + m) := by
  unfold Apart at h; omega

theorem addr32_of_lt {a : Nat} (h : a < 2 ^ 32) : addr32 a = a := Nat.mod_eq_of_lt h

/-- One access a test makes to host memory, in program order. -/
inductive Access
  /-- A CPU store of `len` bytes at `addr`. -/
  | cpuStore (addr len : Nat)
  /-- A SCRIPTS memory move of `len` bytes from `src` to `dst`. -/
  | dmaMove (src dst len : Nat)
  /-- A byte the DMA engine stored at `addr` while it ran a move. -/
  | dmaWrite (addr : Nat)
  /-- `FreeMem(addr, len)`. -/
  | free (addr len : Nat)
  deriving DecidableEq, Repr

/-- The access stores into the byte at `x`. -/
def Access.Hits : Access → Nat → Prop
  | .cpuStore a n, x => a ≤ x ∧ x < a + n
  | .dmaWrite a, x => x = a
  | _, _ => False

/-- `rand32`: the tests' pseudo-random generator. The seed is the last value
returned; `srand32` sets it. -/
def rand32 (seed : BitVec 32) : BitVec 32 := seed * 25173 + 13849

/-! ## Memory contents -/

/-- Host memory as a test sees it: a byte at every address, and the accesses the
test has made so far. -/
structure Ram where
  mem : Nat → BitVec 8
  log : List Access

namespace Ram

/-- `memset(a, v, n)`. -/
def memset (r : Ram) (a n : Nat) (v : BitVec 8) : Ram :=
  ⟨fun x => if a ≤ x ∧ x < a + n then v else r.mem x, r.log ++ [.cpuStore a n]⟩

/-- `memcpy(dst, src, n)`, for blocks that do not overlap. -/
def memcpy (r : Ram) (dst src n : Nat) : Ram :=
  ⟨fun x => if dst ≤ x ∧ x < dst + n then r.mem (src + (x - dst)) else r.mem x,
    r.log ++ [.cpuStore dst n]⟩

/-- A 32-bit store, big-endian as on the 68k. -/
def storeWord (r : Ram) (a : Nat) (w : BitVec 32) : Ram :=
  ⟨fun x => if a ≤ x ∧ x < a + 4 then w.extractLsb' (8 * (3 - (x - a))) 8 else r.mem x,
    r.log ++ [.cpuStore a 4]⟩

/-- Bytes stored one at a time, in order, each logged as `acc a`. -/
def storeBytes (acc : Nat → Access) (r : Ram) : List (Nat × BitVec 8) → Ram
  | [] => r
  | (a, v) :: ws => storeBytes acc ⟨fun x => if x = a then v else r.mem x, r.log ++ [acc a]⟩ ws

/-- The bytes the DMA engine stores during one move, in order. -/
def dmaStore (r : Ram) (ws : List (Nat × BitVec 8)) : Ram := r.storeBytes .dmaWrite ws

/-- Bytes the CPU stores whose places the source does not spell out: the stack, the
stdio buffers, interrupt code. -/
def cpuStores (r : Ram) (ws : List (Nat × BitVec 8)) : Ram := r.storeBytes (.cpuStore · 1) ws

/-- An access that stores into no host memory (a DMA request, a free): only
logged. -/
def issue (r : Ram) (acc : Access) : Ram := ⟨r.mem, r.log ++ [acc]⟩

/-- `issue` for several accesses. -/
def issueAll (r : Ram) (accs : List Access) : Ram := ⟨r.mem, r.log ++ accs⟩

/-- A 32-bit load, big-endian. -/
def loadWord (r : Ram) (a : Nat) : BitVec 32 :=
  r.mem a ++ r.mem (a + 1) ++ r.mem (a + 2) ++ r.mem (a + 3)

/-- `memcmp(a, b, n) == 0`. -/
def memEq (r : Ram) (a b n : Nat) : Bool :=
  (List.range n).all fun i => r.mem (a + i) == r.mem (b + i)

/-- `mem_not_zero(a, len)`: some 32-bit word of the block is not zero. -/
def memNotZero (r : Ram) (a len : Nat) : Bool :=
  (List.range (len / 4)).any fun k => r.loadWord (a + 4 * k) != 0

/-- `r'` follows `r` by accesses that all satisfy `P`: the log gains them, and the
memory changes only at bytes they store into. -/
def Steps (P : Access → Prop) (r r' : Ram) : Prop :=
  ∃ l, r'.log = r.log ++ l ∧ (∀ acc ∈ l, P acc) ∧
    ∀ x, (∀ acc ∈ l, ¬ acc.Hits x) → r'.mem x = r.mem x

variable {P Q : Access → Prop} {r r' r'' : Ram}

theorem Steps.refl (P : Access → Prop) (r : Ram) : Steps P r r :=
  ⟨[], by simp, by simp, fun _ _ => rfl⟩

theorem Steps.trans (h : Steps P r r') (h' : Steps Q r' r'') :
    Steps (fun acc => P acc ∨ Q acc) r r'' := by
  obtain ⟨l, hl, hP, hm⟩ := h
  obtain ⟨l', hl', hQ, hm'⟩ := h'
  refine ⟨l ++ l', by rw [hl', hl, List.append_assoc], ?_, fun x hx => ?_⟩
  · simp only [List.mem_append]
    rintro acc (ha | ha)
    exacts [.inl (hP acc ha), .inr (hQ acc ha)]
  · rw [hm' x (fun acc h => hx acc (by simp [h])), hm x (fun acc h => hx acc (by simp [h]))]

theorem Steps.mono (h : Steps P r r') (hPQ : ∀ acc, P acc → Q acc) : Steps Q r r' := by
  obtain ⟨l, hl, hP, hm⟩ := h
  exact ⟨l, hl, fun acc ha => hPQ acc (hP acc ha), hm⟩

/-- A byte none of the step's kind of access stores into keeps its value. -/
theorem Steps.mem_eq (h : Steps P r r') {x : Nat} (hx : ∀ acc, P acc → ¬ acc.Hits x) :
    r'.mem x = r.mem x := by
  obtain ⟨l, -, hP, hm⟩ := h
  exact hm x fun acc ha => hx acc (hP acc ha)

/-- The log only grows. -/
theorem Steps.log_sub (h : Steps P r r') {acc : Access} (ha : acc ∈ r.log) : acc ∈ r'.log := by
  obtain ⟨l, hl, -, -⟩ := h
  simp [hl, ha]

/-- A single logged access: memory changes only where it stores. -/
private theorem steps_single {r r' : Ram} {acc : Access} (hl : r'.log = r.log ++ [acc])
    (hm : ∀ x, ¬ acc.Hits x → r'.mem x = r.mem x) : Steps (· = acc) r r' :=
  ⟨[acc], hl, by simp, fun x hx => hm x (hx acc (by simp))⟩

theorem steps_memset (r : Ram) (a n : Nat) (v : BitVec 8) :
    Steps (· = .cpuStore a n) r (r.memset a n v) :=
  steps_single rfl fun x hx => by simp only [Access.Hits] at hx; simp [memset, hx]

theorem steps_memcpy (r : Ram) (dst src n : Nat) :
    Steps (· = .cpuStore dst n) r (r.memcpy dst src n) :=
  steps_single rfl fun x hx => by simp only [Access.Hits] at hx; simp [memcpy, hx]

theorem steps_storeWord (r : Ram) (a : Nat) (w : BitVec 32) :
    Steps (· = .cpuStore a 4) r (r.storeWord a w) :=
  steps_single rfl fun x hx => by simp only [Access.Hits] at hx; simp [storeWord, hx]

/-- Storing bytes one at a time, with accesses that store only at their own address. -/
theorem steps_storeBytes {acc : Nat → Access} (hacc : ∀ a x, (acc a).Hits x ↔ x = a) (r : Ram)
    (ws : List (Nat × BitVec 8)) :
    Steps (fun b => ∃ w ∈ ws, b = acc w.1) r (r.storeBytes acc ws) := by
  induction ws generalizing r with
  | nil => exact Steps.refl _ r
  | cons w ws ih =>
    obtain ⟨a, v⟩ := w
    have h₁ : Steps (· = acc a) r ⟨fun x => if x = a then v else r.mem x, r.log ++ [acc a]⟩ :=
      steps_single rfl fun x hx => if_neg fun h => hx ((hacc a x).mpr h)
    refine (h₁.trans (ih _)).mono ?_
    rintro b (rfl | ⟨w', hw', rfl⟩)
    exacts [⟨(a, v), by simp, rfl⟩, ⟨w', by simp [hw'], rfl⟩]

theorem steps_dmaStore (r : Ram) (ws : List (Nat × BitVec 8)) :
    Steps (fun acc => ∃ w ∈ ws, acc = .dmaWrite w.1) r (r.dmaStore ws) :=
  @steps_storeBytes .dmaWrite (fun _ _ => Iff.rfl) r ws

theorem steps_cpuStores (r : Ram) (ws : List (Nat × BitVec 8)) :
    Steps (fun acc => ∃ w ∈ ws, acc = .cpuStore w.1 1) r (r.cpuStores ws) :=
  @steps_storeBytes (.cpuStore · 1) (fun _ _ => by simp only [Access.Hits]; omega) r ws

theorem steps_issue (r : Ram) (acc : Access) : Steps (· = acc) r (r.issue acc) :=
  steps_single rfl fun _ _ => rfl

theorem steps_issueAll (r : Ram) (accs : List Access) :
    Steps (· ∈ accs) r (r.issueAll accs) :=
  ⟨accs, rfl, fun _ h => h, fun _ _ => rfl⟩

@[simp] theorem memset_mem (r : Ram) (a n : Nat) (v : BitVec 8) (x : Nat) :
    (r.memset a n v).mem x = if a ≤ x ∧ x < a + n then v else r.mem x := rfl

@[simp] theorem memcpy_mem (r : Ram) (dst src n x : Nat) :
    (r.memcpy dst src n).mem x = if dst ≤ x ∧ x < dst + n then r.mem (src + (x - dst)) else r.mem x :=
  rfl

theorem memEq_iff (r : Ram) (a b n : Nat) :
    r.memEq a b n = true ↔ ∀ i < n, r.mem (a + i) = r.mem (b + i) := by
  simp [memEq]

/-- A block whose bytes are all zero has no nonzero word. -/
theorem memNotZero_eq_false {r : Ram} {a len : Nat} (h : ∀ i < len, r.mem (a + i) = 0) :
    r.memNotZero a len = false := by
  simp only [memNotZero, List.any_eq_false, List.mem_range, bne_iff_ne, ne_eq, not_not]
  intro k hk
  simp only [loadWord, Nat.add_assoc, h (4 * k) (by omega), h (4 * k + 1) (by omega),
    h (4 * k + 2) (by omega), h (4 * k + 3) (by omega)]
  decide

end Ram

end A4091
