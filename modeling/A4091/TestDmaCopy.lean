import A4091.Memory
import A4091.Scripts
import Mathlib.Data.List.Nodup
import Mathlib.Data.Nat.Bitwise

/-!
# A4091 — `test_dma_copy`: DMA copies with bit-flip landing protection

`test_dma_copy` has the 53C710 copy host memory to host memory and checks the
copy. A card with a floating or bridged address line would land the data
elsewhere, so before the passes the test protects every address that differs
from the destination `dst` in one or two of the bits `DMA_LEN_BIT .. 31`: it
reserves the `dma_len` bytes there with `AllocAbs` and wipes them, or, when
`AllocAbs` fails because the memory is in use, copies them into a buffer from
`AllocMem` (a COPY entry). A pass that miscompares scans the grid and reports
each COPY region that no longer matches its copy (`<a>`) and each reserved region
that holds a nonzero word (`>a<`).

The model follows the test's phases: the allocations, the grid (`bfGrid`), the
wipe of the reserved regions, the snapshot of the COPY regions, the passes with
their scan, and the frees. The system's answers are an environment (`CopyEnv`):
what each allocation returned, the seed, the memory as the test finds it, where
the loader put `rand_seed` and `dma_mem_move_script`, for each pass whether
`dma_mem_to_mem` completed and which bytes the engine stored, and the bytes the
rest of the host stores meanwhile: the program's stack, `a4091_save` and stdio
buffers, and interrupt code, whose places the source does not spell out. The
stores the source does spell out are modelled as it makes them: each `rand32`
rewrites `rand_seed`, and `dma_mem_to_mem` patches three words of its template.
The tables `bf_addr` and `bf_mem` are kept as values: they are written before the
snapshot and only read after it.

Main results:

* `bfAddr_apart_dst` — every protected region is apart from the landing area.
* `bfGrid_addrs` — the grid lists each address that differs from `dst` in one or
  two of the bits `DMA_LEN_BIT .. 31` exactly once, with pairwise apart regions.
* `testDmaCopy_null_copy` — a failed fallback `AllocMem` leaves a COPY entry at
  NULL, and the snapshot copies `dma_len` bytes to address 0.
* `testDmaCopy_reports_own_stores` — with an allocator that hands out only free
  memory and a DMA engine that stores only into the landing area, a region is
  reported only when it is a COPY region overlapping the test's source buffer, a
  COPY buffer, or a byte the host CPU stores into after the snapshot (`rand_seed`,
  the script, the stack, stdio buffers): the scan takes those stores for the DMA's.
* `testDmaCopy_reports_src_region` — such a report happens: a source buffer
  inside a COPY region is reported although the engine stored nothing.
-/

namespace A4091

/-- `DMA_LEN_BIT`. -/
def dmaLenBit : Nat := 12

/-- `dma_len = BIT(DMA_LEN_BIT)`, the size of the copy and of each protected
region. -/
def dmaCopyLen : Nat := 2 ^ dmaLenBit

/-- `BFADDR_SIZE`: a 32 × 32 table of 32-bit addresses. -/
def bfaddrSize : Nat := 32 * 32 * 4

/-- The `(bit1, bit2)` pairs the grid loops visit, in loop order:
`DMA_LEN_BIT <= bit1 <= bit2 < 32`. -/
def bfPairs : List (Nat × Nat) :=
  (List.range' dmaLenBit (32 - dmaLenBit)).flatMap fun b1 =>
    (List.range' b1 (32 - b1)).map fun b2 => (b1, b2)

/-- `bf_addr[bit1][bit2]`: `dst` with bit `bit1` flipped, and bit `bit2` too when
it is another bit. `BIT(31)` is `1 << 31`, which the XOR with a `uint32_t`
converts to `0x80000000`. -/
def bfAddr (dst : Nat) (p : Nat × Nat) : Nat :=
  if p.1 = p.2 then dst ^^^ 2 ^ p.1 else dst ^^^ 2 ^ p.1 ^^^ 2 ^ p.2

/-- `dst = dst_buf + dma_len`: the landing area, the middle third of `dst_buf`. -/
def copyDst (dstBuf : Nat) : Nat := addr32 (dstBuf + dmaCopyLen)

/-- What `test_dma_copy` gets from the system, and what the card and the rest of
the host do. -/
structure CopyEnv where
  /-- `AllocMem_aligned(dma_len, 16)`. -/
  src : Option (Grant dmaCopyLen)
  /-- `AllocMem_aligned(dma_len * 3, 16)`. -/
  dstBuf : Option (Grant (3 * dmaCopyLen))
  /-- `AllocMem(BFADDR_SIZE)` for the table `bf_addr`. -/
  bfAddrTable : Option (Grant bfaddrSize)
  /-- `AllocMem(BFADDR_SIZE)` for the table `bf_mem`. -/
  bfMemTable : Option (Grant bfaddrSize)
  /-- `AllocAbs(dma_len, bf_addr[bit1][bit2])` went through. -/
  allocAbs : Nat × Nat → Bool
  /-- The `AllocMem(dma_len)` that follows a failed `AllocAbs`. -/
  fallback : Nat × Nat → Option (Grant dmaCopyLen)
  /-- The seed `srand32(time(NULL))` stores into `rand_seed`. -/
  seed : BitVec 32
  /-- Host memory as the test finds it. -/
  mem : Nat → BitVec 8
  /-- For each pass: `none` when `dma_mem_to_mem` timed out, else the bytes the
  engine stored. -/
  dma : Nat → Option (List (Nat × BitVec 8))
  /-- `&rand_seed`: where the loader put the seed each `rand32` rewrites. -/
  randSeedAt : Nat
  /-- `dma_mem_move_script`: where the loader put the template `dma_mem_to_mem`
  patches. -/
  scriptAt : Nat
  /-- For each pass, the bytes the rest of the host stores before the compare
  reads memory: the program's stack (return addresses, `buf_handled`),
  `a4091_save` (`a4091_state_takeover`, `dma_mem_to_mem`, the interrupt handler),
  the stdio buffers of its prints, and interrupt code. -/
  hostStores : Nat → List (Nat × BitVec 8)
  /-- The bytes the host stores after the scan reads the grid entry at position
  `j`: the `BF_FLAG_CORRUPT` bit of `bf_flags` on the stack and the stdio buffer of
  the `printf` when the entry is reported, and interrupt code. -/
  scanStores : Nat → List (Nat × BitVec 8)

/-- One grid entry: `bf_addr`, `bf_mem` (0 for NULL) and `BF_FLAG_COPY`. -/
structure BfEntry where
  addr : Nat
  mem  : Nat
  copy : Bool
  deriving DecidableEq, Repr

/-- The block a grid entry holds: the reserved region, or the COPY buffer. -/
def entryMem (env : CopyEnv) (dst : Nat) (p : Nat × Nat) : Nat :=
  if env.allocAbs p then bfAddr dst p else ((env.fallback p).map Grant.base).getD 0

/-- The grid entry for `(bit1, bit2)` after the construction loop. -/
def bfEntry (env : CopyEnv) (dst : Nat) (p : Nat × Nat) : BfEntry :=
  ⟨bfAddr dst p, entryMem env dst p, !env.allocAbs p⟩

/-- The grid the construction loop builds. -/
def bfGrid (env : CopyEnv) (dst : Nat) : List BfEntry := bfPairs.map (bfEntry env dst)

/-- The construction loop's `memset(bf_mem, 0, dma_len)` of each reserved
region. -/
def wipe (r : Ram) : List BfEntry → Ram
  | [] => r
  | e :: es => wipe (if e.copy then r else r.memset e.mem dmaCopyLen 0) es

/-- The snapshot loop: `memcpy(bf_mem, bf_addr, dma_len)` for each COPY entry. -/
def snapshot (r : Ram) : List BfEntry → Ram
  | [] => r
  | e :: es => snapshot (if e.copy then r.memcpy e.mem e.addr dmaCopyLen else r) es

/-- The positions `for (pos = 0; pos < len; pos += 4)` visits. -/
def wordPositions (len : Nat) : List Nat := List.range' 0 (len / 4) 4

/-- The fill loop: at each position of the source, `rand32()` reads `rand_seed`
at `seedAt`, stores the next value back there, and the value is stored into the
source. -/
def fillSrc (seedAt src : Nat) : List Nat → Ram → Ram
  | [], r => r
  | pos :: ps, r =>
    let v := rand32 (r.loadWord seedAt)
    fillSrc seedAt src ps ((r.storeWord seedAt v).storeWord (addr32 (src + pos)) v)

/-- `dma_mem_to_mem`'s stores into its template at `scriptAt` before it starts
it: `script[0] = 0xc0000000 | len; script[1] = src; script[2] = dst`. -/
def patchScript (r : Ram) (scriptAt src dst len : Nat) : Ram :=
  ((r.storeWord scriptAt (moveWord (BitVec.ofNat 32 len))).storeWord (scriptAt + 4)
    (BitVec.ofNat 32 src)).storeWord (scriptAt + 8) (BitVec.ofNat 32 dst)

/-- The compare loop: how many words of the landing area differ from the
source. -/
def miscompares (r : Ram) (src dst len : Nat) : Nat :=
  ((wordPositions len).filter fun pos =>
    r.loadWord (addr32 (src + pos)) != r.loadWord (addr32 (dst + pos))).length

/-- What the scan prints for a modified region. -/
inductive Report
  /-- `<a>`: a COPY region no longer matches its copy. -/
  | copy (a : Nat)
  /-- `>a<`: a reserved region holds a nonzero word. -/
  | reserved (a : Nat)
  deriving DecidableEq, Repr

/-- The scan's verdict on one entry. -/
def scanEntry (r : Ram) (e : BfEntry) : Option Report :=
  if e.copy then
    if r.memEq e.mem e.addr dmaCopyLen then none else some (.copy e.addr)
  else if r.memNotZero e.mem dmaCopyLen then some (.reserved e.addr) else none

/-- The scan over the grid, in loop order, from the entry at position `j`: after
each entry the host stores `scanStores j`. -/
def scan (env : CopyEnv) (r : Ram) : Nat → List BfEntry → List Report
  | _, [] => []
  | j, e :: es => (scanEntry r e).toList ++ scan env (r.cpuStores (env.scanStores j)) (j + 1) es

/-- What the passes end with: the memory, the test's `rc`, and the scan's
reports. -/
structure PassResult where
  ram : Ram
  rc : Nat
  reports : List Report

/-- The passes left, from pass `pass` with `cur_dma_len = cur`: clear the
landing area, fill the source, patch and start the copy, compare, and on a
miscompare scan the grid and stop. `cur` doubles up to `dma_len`. -/
def passes (env : CopyEnv) (src dst : Nat) (es : List BfEntry) :
    Nat → Nat → Nat → Ram → PassResult
  | 0, _, _, r => ⟨r, 0, []⟩
  | n + 1, pass, cur, r =>
    let f := patchScript (fillSrc env.randSeedAt src (wordPositions cur) (r.memset dst cur 0))
      env.scriptAt src dst cur
    match env.dma pass with
    | none => ⟨f, 1, []⟩
    | some ws =>
      let r' := ((f.issue (.dmaMove src dst cur)).dmaStore ws).cpuStores (env.hostStores pass)
      let rc := miscompares r' src dst cur
      if rc ≠ 0 then ⟨r', rc, scan env r' 0 es⟩
      else passes env src dst es n (pass + 1) (min (2 * cur) dmaCopyLen) r'

/-- The frees of the protected memory: each entry with a nonzero `bf_mem`. -/
def gridFrees (es : List BfEntry) : List Access :=
  es.filterMap fun e => if e.mem ≠ 0 then some (.free e.mem dmaCopyLen) else none

/-- What `test_dma_copy` did: host memory and its log, `rc`, and the reports. -/
structure CopyRun where
  ram : Ram
  rc : Nat
  reports : List Report

/-- `test_dma_copy`, from `srand32(time(NULL))` on. -/
def testDmaCopy (env : CopyEnv) : CopyRun :=
  let r₀ : Ram := (⟨env.mem, []⟩ : Ram).storeWord env.randSeedAt env.seed
  match env.src, env.dstBuf with
  | none, _ => ⟨r₀, 1, []⟩
  | some gs, none => ⟨r₀.issue (.free gs.base dmaCopyLen), 1, []⟩
  | some gs, some gd =>
    let frees := [Access.free gd.base (3 * dmaCopyLen), .free gs.base dmaCopyLen]
    match env.bfAddrTable, env.bfMemTable with
    | some ta, some tm =>
      let dst := copyDst gd.base
      let es := bfGrid env dst
      let res := passes env gs.base dst es 32 0 4 (snapshot (wipe r₀ es) es)
      ⟨(res.ram.issueAll (gridFrees es)).issueAll
        (.free tm.base bfaddrSize :: .free ta.base bfaddrSize :: frees), res.rc, res.reports⟩
    | ta, tm =>
      ⟨r₀.issueAll ((tm.map fun g => Access.free g.base bfaddrSize).toList ++
        (ta.map fun g => Access.free g.base bfaddrSize).toList ++ frees), 1, []⟩

/-- The run when all four allocations went through: the grid, the passes, and the
frees. -/
theorem testDmaCopy_of_granted {env : CopyEnv} {gs : Grant dmaCopyLen}
    {gd : Grant (3 * dmaCopyLen)} {ta tm : Grant bfaddrSize} (hs : env.src = some gs)
    (hd : env.dstBuf = some gd) (ha : env.bfAddrTable = some ta) (hm : env.bfMemTable = some tm) :
    testDmaCopy env =
      let r₀ : Ram := (⟨env.mem, []⟩ : Ram).storeWord env.randSeedAt env.seed
      let es := bfGrid env (copyDst gd.base)
      let res := passes env gs.base (copyDst gd.base) es 32 0 4 (snapshot (wipe r₀ es) es)
      ⟨(res.ram.issueAll (gridFrees es)).issueAll [.free tm.base bfaddrSize,
        .free ta.base bfaddrSize, .free gd.base (3 * dmaCopyLen), .free gs.base dmaCopyLen],
        res.rc, res.reports⟩ := by
  simp only [testDmaCopy, hs, hd, ha, hm]

/-! ## The grid's geometry -/

theorem mem_bfPairs {p : Nat × Nat} :
    p ∈ bfPairs ↔ dmaLenBit ≤ p.1 ∧ p.1 ≤ p.2 ∧ p.2 < 32 := by
  obtain ⟨b1, b2⟩ := p
  simp only [bfPairs, List.mem_flatMap, List.mem_range', List.mem_map, Prod.mk.injEq, dmaLenBit]
  constructor
  · rintro ⟨_, ⟨i, hi, rfl⟩, _, ⟨j, hj, rfl⟩, rfl, rfl⟩
    omega
  · rintro ⟨h1, h2, h3⟩
    exact ⟨b1, ⟨b1 - 12, by omega, by omega⟩, b2, ⟨b2 - b1, by omega, by omega⟩, rfl, rfl⟩

/-- Flipping a bit at or above `k` leaves the address modulo `2 ^ k` alone. -/
theorem xor_two_pow_mod (a : Nat) {b k : Nat} (hb : k ≤ b) :
    (a ^^^ 2 ^ b) % 2 ^ k = a % 2 ^ k := by
  apply Nat.eq_of_testBit_eq
  intro i
  simp only [Nat.testBit_mod_two_pow, Nat.testBit_xor, Nat.testBit_two_pow]
  by_cases hi : i < k
  · simp [hi, show b ≠ i by omega]
  · simp [hi]

/-- Every protected address agrees with `dst` modulo `dma_len` and differs from
it. -/
theorem bfAddr_mod_ne {p : Nat × Nat} (hp : p ∈ bfPairs) (dst : Nat) :
    bfAddr dst p % dmaCopyLen = dst % dmaCopyLen ∧ bfAddr dst p ≠ dst := by
  rw [mem_bfPairs] at hp
  unfold bfAddr dmaCopyLen
  split
  · refine ⟨xor_two_pow_mod dst hp.1, fun h => ?_⟩
    have := Nat.xor_right_inj.mp (h.trans (Nat.xor_zero dst).symm)
    exact absurd this (Nat.pos_pow_of_pos _ (by norm_num)).ne'
  · rename_i hne
    refine ⟨by rw [xor_two_pow_mod _ (by omega), xor_two_pow_mod _ hp.1], fun h => hne ?_⟩
    rw [Nat.xor_assoc] at h
    have h2 := Nat.xor_right_inj.mp (h.trans (Nat.xor_zero dst).symm)
    exact Nat.pow_right_injective (le_refl 2) (Nat.xor_eq_zero.mp h2)

/-- Every protected region is apart from the landing area `[dst, dst + dma_len)`. -/
theorem bfAddr_apart_dst {p : Nat × Nat} (hp : p ∈ bfPairs) (dst : Nat) :
    Apart (bfAddr dst p) dmaCopyLen dst dmaCopyLen := by
  obtain ⟨hmod, hne⟩ := bfAddr_mod_ne hp dst
  exact apart_of_mod_eq hmod hne

/-- `BIT(bit1) ^ BIT(bit2)` for two different bits is their union. -/
theorem two_pow_xor_two_pow {a b : Nat} (h : a ≠ b) : 2 ^ a ^^^ 2 ^ b = 2 ^ a ||| 2 ^ b := by
  apply Nat.eq_of_testBit_eq
  intro i
  simp only [Nat.testBit_xor, Nat.testBit_or, Nat.testBit_two_pow]
  by_cases ha : a = i <;> by_cases hb : b = i <;> simp_all

/-- Both branches of the construction loop flip the bits `bit1` and `bit2` of
`dst`, one bit when they are the same. -/
theorem bfAddr_eq_xor (dst : Nat) (p : Nat × Nat) :
    bfAddr dst p = dst ^^^ (2 ^ p.1 ||| 2 ^ p.2) := by
  unfold bfAddr
  split
  · rename_i h
    rw [h, Nat.or_self]
  · rename_i h
    rw [Nat.xor_assoc, two_pow_xor_two_pow h]

/-- A mask of one or two bits determines its ordered pair of bits. -/
theorem flipMask_inj {a b c d : Nat} (hab : a ≤ b) (hcd : c ≤ d)
    (h : 2 ^ a ||| 2 ^ b = 2 ^ c ||| 2 ^ d) : a = c ∧ b = d := by
  have key : ∀ i, (a = i ∨ b = i) ↔ (c = i ∨ d = i) := fun i => by
    have hi := congrArg (Nat.testBit · i) h
    simp only [Nat.testBit_or, Nat.testBit_two_pow] at hi
    simpa using Bool.eq_iff_iff.mp hi
  have := key a
  have := key b
  have := key c
  have := key d
  omega

theorem bfPairs_nodup : bfPairs.Nodup := by
  unfold bfPairs
  rw [List.nodup_flatMap]
  refine ⟨fun b1 _ => (List.nodup_range' _ _).map fun _ _ h => (Prod.mk.inj h).2, ?_⟩
  refine (List.nodup_range' _ _).imp fun {b1 b1'} hne p hp hp' => hne ?_
  obtain ⟨_, _, rfl⟩ := List.mem_map.mp hp
  obtain ⟨_, _, h⟩ := List.mem_map.mp hp'
  exact (Prod.mk.inj h).1.symm

/-- Different pairs of the loops protect different addresses. -/
theorem bfAddr_inj {dst : Nat} {p q : Nat × Nat} (hp : p ∈ bfPairs) (hq : q ∈ bfPairs)
    (h : bfAddr dst p = bfAddr dst q) : p = q := by
  rw [mem_bfPairs] at hp hq
  rw [bfAddr_eq_xor, bfAddr_eq_xor] at h
  obtain ⟨h1, h2⟩ := flipMask_inj hp.2.1 hq.2.1 (Nat.xor_right_inj.mp h)
  exact Prod.ext h1 h2

/-- The regions of two different pairs are apart. -/
theorem bfAddr_apart {dst : Nat} {p q : Nat × Nat} (hp : p ∈ bfPairs) (hq : q ∈ bfPairs)
    (hne : p ≠ q) : Apart (bfAddr dst p) dmaCopyLen (bfAddr dst q) dmaCopyLen :=
  apart_of_mod_eq ((bfAddr_mod_ne hp dst).1.trans (bfAddr_mod_ne hq dst).1.symm)
    fun h => hne (bfAddr_inj hp hq h)

/-- The grid that the construction loop fills and that the scan and the release
walk (`scan` and `gridFrees` take the same entries): for every `dst`, its
addresses are `dst` with one or two of the bits `DMA_LEN_BIT .. 31` flipped, each
such address exactly once, and their `dma_len`-byte regions are pairwise apart
and apart from the landing area. -/
theorem bfGrid_addrs (env : CopyEnv) (dst : Nat) :
    let addrs := (bfGrid env dst).map BfEntry.addr
    addrs.Nodup ∧
      (∀ a, a ∈ addrs ↔ ∃ b1 b2, dmaLenBit ≤ b1 ∧ b1 ≤ b2 ∧ b2 < 32 ∧
        a = dst ^^^ (2 ^ b1 ||| 2 ^ b2)) ∧
      addrs.Pairwise (fun a b => Apart a dmaCopyLen b dmaCopyLen) ∧
      ∀ a ∈ addrs, Apart a dmaCopyLen dst dmaCopyLen := by
  have haddrs : (bfGrid env dst).map BfEntry.addr = bfPairs.map (bfAddr dst) := by
    simp only [bfGrid, bfEntry, List.map_map]
    rfl
  simp only [haddrs]
  refine ⟨bfPairs_nodup.map_on fun p hp q hq h => bfAddr_inj hp hq h, fun a => ?_, ?_, ?_⟩
  · simp only [List.mem_map, mem_bfPairs]
    constructor
    · rintro ⟨p, hp, rfl⟩
      exact ⟨p.1, p.2, hp.1, hp.2.1, hp.2.2, bfAddr_eq_xor dst p⟩
    · rintro ⟨b1, b2, h1, h2, h3, rfl⟩
      exact ⟨(b1, b2), ⟨h1, h2, h3⟩, bfAddr_eq_xor dst _⟩
  · rw [List.pairwise_map]
    exact bfPairs_nodup.imp_of_mem fun hp hq hne => bfAddr_apart hp hq hne
  · intro a ha
    obtain ⟨p, hp, rfl⟩ := List.mem_map.mp ha
    exact bfAddr_apart_dst hp dst

/-- The landing area is the middle third of `dst_buf`. -/
theorem copyDst_eq (gd : Grant (3 * dmaCopyLen)) : copyDst gd.base = gd.base + dmaCopyLen := by
  have := gd.fits
  exact addr32_of_lt (by unfold dmaCopyLen dmaLenBit at *; omega)

/-! ## What each phase stores -/

open Ram

theorem steps_snapshot (r : Ram) (es : List BfEntry) :
    Steps (fun acc => ∃ e ∈ es, e.copy = true ∧ acc = .cpuStore e.mem dmaCopyLen)
      r (snapshot r es) := by
  induction es generalizing r with
  | nil => exact Steps.refl _ r
  | cons e es ih =>
    have h₁ : Steps (fun acc => e.copy = true ∧ acc = .cpuStore e.mem dmaCopyLen) r
        (if e.copy then r.memcpy e.mem e.addr dmaCopyLen else r) := by
      cases hc : e.copy
      · exact Steps.refl _ r
      · exact (steps_memcpy r _ _ _).mono fun _ h => ⟨rfl, h⟩
    refine (h₁.trans (ih _)).mono ?_
    rintro acc (h | ⟨e', he', h⟩)
    exacts [⟨e, by simp, h⟩, ⟨e', by simp [he'], h⟩]

/-- The snapshot loop copies into the buffer of every COPY entry, NULL or not. -/
theorem snapshot_log {r : Ram} {es : List BfEntry} {e : BfEntry} (he : e ∈ es)
    (hc : e.copy = true) : Access.cpuStore e.mem dmaCopyLen ∈ (snapshot r es).log := by
  induction es generalizing r with
  | nil => simp at he
  | cons e' es ih =>
    rcases List.mem_cons.mp he with rfl | he
    · simpa [snapshot, hc] using (steps_snapshot (r.memcpy e.mem e.addr dmaCopyLen) es).log_sub
        (show Access.cpuStore e.mem dmaCopyLen ∈ (r.memcpy e.mem e.addr dmaCopyLen).log by
          simp [memcpy])
    · exact ih he

theorem mem_wordPositions {len pos : Nat} (h : pos ∈ wordPositions len) :
    pos + 4 ≤ len ∧ pos % 4 = 0 := by
  simp only [wordPositions, List.mem_range'] at h
  omega

theorem steps_fillSrc (seedAt src : Nat) (ps : List Nat) (r : Ram) :
    Steps (fun acc => acc = .cpuStore seedAt 4 ∨ ∃ pos ∈ ps, acc = .cpuStore (addr32 (src + pos)) 4)
      r (fillSrc seedAt src ps r) := by
  induction ps generalizing r with
  | nil => exact Steps.refl _ r
  | cons p ps ih =>
    refine (((steps_storeWord r _ _).trans (steps_storeWord _ _ _)).trans (ih _)).mono ?_
    rintro acc ((h | h) | h | ⟨q, hq, h⟩)
    exacts [.inl h, .inr ⟨p, by simp, h⟩, .inl h, .inr ⟨q, by simp [hq], h⟩]

theorem steps_patchScript (r : Ram) (scriptAt src dst len : Nat) :
    Steps (fun acc => ∃ i < 3, acc = .cpuStore (scriptAt + 4 * i) 4) r
      (patchScript r scriptAt src dst len) := by
  refine (((steps_storeWord r _ _).trans (steps_storeWord _ _ _)).trans
    (steps_storeWord _ _ _)).mono ?_
  rintro acc ((rfl | rfl) | rfl)
  exacts [⟨0, by decide, rfl⟩, ⟨1, by decide, rfl⟩, ⟨2, by decide, rfl⟩]

/-- The host's stores after the snapshot outside the test's buffers: `rand_seed` at
each `rand32`, the three words `dma_mem_to_mem` patches into its template, and the
bytes of `hostStores` and `scanStores`. -/
def HostAccess (env : CopyEnv) (acc : Access) : Prop :=
  acc = .cpuStore env.randSeedAt 4 ∨ (∃ i < 3, acc = .cpuStore (env.scriptAt + 4 * i) 4) ∨
    (∃ pass, ∃ w ∈ env.hostStores pass, acc = .cpuStore w.1 1) ∨
    ∃ j, ∃ w ∈ env.scanStores j, acc = .cpuStore w.1 1

/-- A byte the host stores into after the snapshot, outside the test's buffers. -/
def HostStore (env : CopyEnv) (x : Nat) : Prop := ∃ acc, HostAccess env acc ∧ acc.Hits x

/-- The accesses of the passes: clearing the landing area, storing source words,
requesting the move, the engine's stores, and the host's other stores. -/
def PassAccess (env : CopyEnv) (src dst : Nat) (acc : Access) : Prop :=
  (∃ c ≤ dmaCopyLen, acc = .cpuStore dst c) ∨
  (∃ pos, pos + 4 ≤ dmaCopyLen ∧ acc = .cpuStore (addr32 (src + pos)) 4) ∨
  (∃ c, acc = .dmaMove src dst c) ∨
  (∃ pass ws, env.dma pass = some ws ∧ ∃ w ∈ ws, acc = .dmaWrite w.1) ∨
  HostAccess env acc

/-- One pass up to the compare: clear, fill, patch, request, the engine's stores
and the host's. -/
private theorem steps_pass (env : CopyEnv) (src dst pass : Nat) {cur : Nat}
    (hcur : cur ≤ dmaCopyLen) (r : Ram) :
    let f := patchScript (fillSrc env.randSeedAt src (wordPositions cur) (r.memset dst cur 0))
      env.scriptAt src dst cur
    Steps (PassAccess env src dst) r f ∧
      ∀ ws, env.dma pass = some ws → Steps (PassAccess env src dst) r
        (((f.issue (.dmaMove src dst cur)).dmaStore ws).cpuStores (env.hostStores pass)) := by
  intro f
  have hf : Steps (PassAccess env src dst) r f := by
    refine (((steps_memset r dst cur 0).trans (steps_fillSrc _ _ _ _)).trans
      (steps_patchScript _ _ _ _ _)).mono ?_
    rintro acc ((rfl | rfl | ⟨pos, hpos, rfl⟩) | h)
    · exact .inl ⟨cur, hcur, rfl⟩
    · exact .inr (.inr (.inr (.inr (.inl rfl))))
    · exact .inr (.inl ⟨pos, by have := mem_wordPositions hpos; omega, rfl⟩)
    · exact .inr (.inr (.inr (.inr (.inr (.inl h)))))
  refine ⟨hf, fun ws hws => ?_⟩
  refine (((hf.trans (steps_issue _ _)).trans (steps_dmaStore _ ws)).trans
    (steps_cpuStores _ _)).mono ?_
  rintro acc (((h | rfl) | ⟨w, hw, rfl⟩) | ⟨w, hw, rfl⟩)
  · exact h
  · exact .inr (.inr (.inl ⟨cur, rfl⟩))
  · exact .inr (.inr (.inr (.inl ⟨pass, ws, hws, w, hw, rfl⟩)))
  · exact .inr (.inr (.inr (.inr (.inr (.inr (.inl ⟨pass, w, hw, rfl⟩))))))

theorem steps_passes (env : CopyEnv) (src dst : Nat) (es : List BfEntry) :
    ∀ n pass cur r, cur ≤ dmaCopyLen →
      Steps (PassAccess env src dst) r (passes env src dst es n pass cur r).ram
  | 0, _, _, r, _ => Steps.refl _ r
  | n + 1, pass, cur, r, hcur => by
    have hp := steps_pass env src dst pass hcur r
    simp only [passes]
    split
    · exact hp.1
    · rename_i ws hws
      split
      · exact hp.2 ws hws
      · exact ((hp.2 ws hws).trans (steps_passes env src dst es n _ _ _
          (Nat.min_le_right _ _))).mono fun _ h => h.elim id id

/-- The scan reads each entry after the host's stores at the entries before it. -/
theorem mem_scan {env : CopyEnv} {rep : Report} :
    ∀ {r : Ram} {j : Nat} {es : List BfEntry}, rep ∈ scan env r j es →
      ∃ e ∈ es, ∃ r', Steps (HostAccess env) r r' ∧ scanEntry r' e = some rep
  | _, _, [], h => by simp [scan] at h
  | r, j, e :: es, h => by
    rcases List.mem_append.mp h with h | h
    · exact ⟨e, List.mem_cons_self _ _, r, Steps.refl _ r, Option.mem_toList.mp h⟩
    · obtain ⟨e', he', r', hr', hrep⟩ := mem_scan h
      refine ⟨e', List.mem_cons_of_mem _ he', r', ((steps_cpuStores r _).trans hr').mono ?_, hrep⟩
      rintro acc (⟨w, hw, rfl⟩ | h)
      exacts [.inr (.inr (.inr ⟨j, w, hw, rfl⟩)), h]

/-- Each report of the passes is the scan's verdict on an entry, read after
accesses of the passes. -/
theorem passes_reports {env : CopyEnv} {src dst : Nat} {es : List BfEntry} :
    ∀ {n pass cur : Nat} {r : Ram} {rep : Report}, cur ≤ dmaCopyLen →
      rep ∈ (passes env src dst es n pass cur r).reports →
        ∃ e ∈ es, ∃ r', Steps (PassAccess env src dst) r r' ∧ scanEntry r' e = some rep
  | 0, _, _, _, _, _ => by simp [passes]
  | n + 1, pass, cur, r, rep, hcur => by
    have hp := steps_pass env src dst pass hcur r
    simp only [passes]
    split
    · simp
    · rename_i ws hws
      split
      · intro h
        obtain ⟨e, he, r', hr', hrep⟩ := mem_scan h
        exact ⟨e, he, r', ((hp.2 ws hws).trans hr').mono fun _ h =>
          h.elim id fun h => .inr (.inr (.inr (.inr h))), hrep⟩
      · intro h
        obtain ⟨e, he, r', hr', hrep⟩ := passes_reports (Nat.min_le_right _ _) h
        exact ⟨e, he, r', ((hp.2 ws hws).trans hr').mono fun _ h => h.elim id id, hrep⟩

/-! ## Allocation failures -/

/-- A failed `AllocAbs` followed by a failed fallback `AllocMem` leaves a COPY entry
with `bf_mem` NULL, and the snapshot loop copies `dma_len` bytes to address 0. -/
theorem testDmaCopy_null_copy {env : CopyEnv} {gs : Grant dmaCopyLen}
    {gd : Grant (3 * dmaCopyLen)} {ta tm : Grant bfaddrSize} (hs : env.src = some gs)
    (hd : env.dstBuf = some gd) (ha : env.bfAddrTable = some ta) (hm : env.bfMemTable = some tm)
    {p : Nat × Nat} (hp : p ∈ bfPairs) (habs : env.allocAbs p = false)
    (hfb : env.fallback p = none) :
    Access.cpuStore 0 dmaCopyLen ∈ (testDmaCopy env).ram.log := by
  rw [testDmaCopy_of_granted hs hd ha hm]
  refine (steps_issueAll _ _).log_sub ((steps_issueAll _ _).log_sub
    ((steps_passes env gs.base _ _ 32 0 4 _ (by decide)).log_sub ?_))
  have hnull : (bfEntry env (copyDst gd.base) p).mem = 0 := by
    simp [bfEntry, entryMem, habs, hfb]
  rw [← hnull]
  exact snapshot_log (List.mem_map_of_mem _ hp) (by simp [bfEntry, habs])

/-- Every `AllocAbs` and every fallback `AllocMem` fails: the entry `(12, 12)`
copies `dma_len` bytes to address 0. -/
theorem testDmaCopy_null_copy_at_12 :
    Access.cpuStore 0 dmaCopyLen ∈ (testDmaCopy
      ⟨some ⟨0x200000, by decide, by decide⟩, some ⟨0x300000, by decide, by decide⟩,
        some ⟨0x400000, by decide, by decide⟩, some ⟨0x401000, by decide, by decide⟩,
        fun _ => false, fun _ => none, 0, fun _ => 0, fun _ => some [], 0x100, 0x200,
        fun _ => [], fun _ => []⟩).ram.log :=
  @testDmaCopy_null_copy _ _ _ _ _ rfl rfl rfl rfl (12, 12) (by decide) rfl rfl

/-! ## What the scan compares -/

/-- The DMA engine stores only into the landing area, whatever data it stores. -/
def DmaConfined (env : CopyEnv) (dst : Nat) : Prop :=
  ∀ pass ws, env.dma pass = some ws → ∀ w ∈ ws, dst ≤ w.1 ∧ w.1 < dst + dmaCopyLen

/-- An access of the passes stores into the landing area, into the source, or where
the host stores. -/
theorem passAccess_hits {env : CopyEnv} {src dst : Nat} (hsrc : src + dmaCopyLen ≤ 2 ^ 32)
    (hdma : DmaConfined env dst) {acc : Access} (hacc : PassAccess env src dst acc) {x : Nat}
    (hx : acc.Hits x) :
    (dst ≤ x ∧ x < dst + dmaCopyLen) ∨ (src ≤ x ∧ x < src + dmaCopyLen) ∨ HostStore env x := by
  rcases hacc with ⟨c, hc, rfl⟩ | ⟨pos, hpos, rfl⟩ | ⟨c, rfl⟩ | ⟨pass, ws, hws, w, hw, rfl⟩ | h
  · simp only [Access.Hits] at hx; omega
  · simp only [Access.Hits] at hx
    rw [addr32_of_lt (by unfold dmaCopyLen dmaLenBit at *; omega)] at hx
    omega
  · exact hx.elim
  · exact .inl (hx ▸ hdma pass ws hws w hw)
  · exact .inr (.inr ⟨acc, h, hx⟩)

/-- Accesses of the passes leave every byte outside the landing area, the source
and the host's stores. -/
theorem passSteps_mem_eq {env : CopyEnv} {src dst : Nat} (hsrc : src + dmaCopyLen ≤ 2 ^ 32)
    (hdma : DmaConfined env dst) {r r' : Ram} (h : Steps (PassAccess env src dst) r r') {x : Nat}
    (hxd : ¬ (dst ≤ x ∧ x < dst + dmaCopyLen)) (hxs : ¬ (src ≤ x ∧ x < src + dmaCopyLen))
    (hxh : ¬ HostStore env x) : r'.mem x = r.mem x :=
  h.mem_eq fun _ hacc hhit => by
    rcases passAccess_hits hsrc hdma hacc hhit with h | h | h <;> contradiction

/-- When every copy completes and the passes end on a miscompare, the reports are
exactly the scan of the final memory. -/
theorem passes_reports_eq_scan {env : CopyEnv} {src dst : Nat} {es : List BfEntry}
    (hdma : ∀ pass, env.dma pass ≠ none) :
    ∀ {n pass cur : Nat} {r : Ram},
      (passes env src dst es n pass cur r).rc ≠ 0 →
        (passes env src dst es n pass cur r).reports =
          scan env (passes env src dst es n pass cur r).ram 0 es
  | 0, _, _, _ => by simp [passes]
  | n + 1, pass, cur, r => by
    simp only [passes]
    split
    · exact absurd ‹_› (hdma pass)
    · split
      · exact fun _ => rfl
      · exact passes_reports_eq_scan hdma

/-- With no stores of the host during the scan, the scan is the verdicts on the
entries. -/
theorem scan_eq_filterMap {env : CopyEnv} (h : ∀ j, env.scanStores j = []) (r : Ram) :
    ∀ (j : Nat) (es : List BfEntry), scan env r j es = es.filterMap (scanEntry r)
  | _, [] => rfl
  | j, e :: es => by
    rw [scan, h j, show r.cpuStores [] = r from rfl, scan_eq_filterMap h r (j + 1) es,
      List.filterMap_cons]
    cases scanEntry r e <;> rfl

theorem wipe_mem_zero {x : Nat} {r : Ram} {es : List BfEntry}
    (h : r.mem x = 0 ∨ ∃ e ∈ es, e.copy = false ∧ e.mem ≤ x ∧ x < e.mem + dmaCopyLen) :
    (wipe r es).mem x = 0 := by
  induction es generalizing r with
  | nil => simpa [wipe] using h
  | cons e es ih =>
    apply ih
    rcases h with h | ⟨e', he', hc, hx⟩
    · left; split <;> simp [h]
    · rcases List.mem_cons.mp he' with rfl | he'
      · left; simp [hc, hx]
      · exact .inr ⟨e', he', hc, hx⟩

/-- The snapshot leaves every byte outside the COPY buffers. -/
theorem snapshot_mem_eq {r : Ram} {es : List BfEntry} {x : Nat}
    (hx : ∀ e ∈ es, e.copy = true → ¬ (e.mem ≤ x ∧ x < e.mem + dmaCopyLen)) :
    (snapshot r es).mem x = r.mem x :=
  (steps_snapshot r es).mem_eq fun _ ⟨e, he, hc, h⟩ => by subst h; exact hx e he hc

/-- A COPY buffer holds its region as it was before the snapshot, when no other
buffer overlaps it and no buffer overlaps the region. -/
theorem snapshot_mem {e : BfEntry} (hc : e.copy = true) {x : Nat}
    (hx : e.mem ≤ x ∧ x < e.mem + dmaCopyLen) {r : Ram} {es : List BfEntry}
    (hes : ∀ e' ∈ es, e'.copy = true → (e' = e ∨ Apart e'.mem dmaCopyLen e.mem dmaCopyLen) ∧
      Apart e'.mem dmaCopyLen e.addr dmaCopyLen) :
    (snapshot r es).mem x = if e ∈ es then r.mem (e.addr + (x - e.mem)) else r.mem x := by
  induction es generalizing r with
  | nil => simp [snapshot]
  | cons e' es ih =>
    rw [snapshot, ih fun e'' h => hes e'' (List.mem_cons_of_mem _ h)]
    by_cases hc' : e'.copy = true
    · obtain ⟨h1, h2⟩ := hes e' (List.mem_cons_self _ _) hc'
      have hR := (apart_comm.mp h2).not_mem (i := x - e.mem) (by omega)
      rcases h1 with rfl | h1
      · simp [hc, hx, hR]
      · have hne : e' ≠ e := by
          rintro rfl; unfold Apart dmaCopyLen dmaLenBit at h1; omega
        have hX := (apart_comm.mp h1).not_mem (i := x - e.mem) (by omega)
        rw [Nat.add_sub_cancel' hx.1] at hX
        simp [hc', hR, hX, Ne.symm hne]
    · have hne : e' ≠ e := fun h => hc' (h ▸ hc)
      simp [hc', Ne.symm hne]

theorem scanEntry_reserved {r : Ram} {e : BfEntry} (hc : e.copy = false)
    (h : ∀ i < dmaCopyLen, r.mem (e.mem + i) = 0) : scanEntry r e = none := by
  simp [scanEntry, hc, memNotZero_eq_false h]

theorem scanEntry_copy {r : Ram} {e : BfEntry} (hc : e.copy = true)
    (h : ∀ i < dmaCopyLen, r.mem (e.mem + i) = r.mem (e.addr + i)) : scanEntry r e = none := by
  simp [scanEntry, hc, (memEq_iff r _ _ _).mpr h]

/-- What an allocator that hands out only free memory guarantees the grid, each
block staying live to the end of the test: a region `AllocAbs` reserved was free,
so it shares no byte with the source, any COPY buffer, or what the rest of the
host stores into (the program's globals and stack, stdio buffers, interrupt
code's data, all in memory already in use); a COPY buffer shares no byte with the
source, `dst_buf`, another COPY buffer, or what the host stores into. A region
whose `AllocAbs` failed is in use, and may overlap anything. -/
structure AllocApart (env : CopyEnv) (src dstBuf : Nat) : Prop where
  reserved_src : ∀ p ∈ bfPairs, env.allocAbs p = true →
    Apart (bfAddr (copyDst dstBuf) p) dmaCopyLen src dmaCopyLen
  reserved_copy : ∀ p ∈ bfPairs, ∀ q ∈ bfPairs, env.allocAbs p = true → env.allocAbs q = false →
    Apart (bfAddr (copyDst dstBuf) p) dmaCopyLen (entryMem env (copyDst dstBuf) q) dmaCopyLen
  reserved_host : ∀ p ∈ bfPairs, env.allocAbs p = true → ∀ i < dmaCopyLen,
    ¬ HostStore env (bfAddr (copyDst dstBuf) p + i)
  copy_src : ∀ q ∈ bfPairs, env.allocAbs q = false →
    Apart (entryMem env (copyDst dstBuf) q) dmaCopyLen src dmaCopyLen
  copy_dstBuf : ∀ q ∈ bfPairs, env.allocAbs q = false →
    Apart (entryMem env (copyDst dstBuf) q) dmaCopyLen dstBuf (3 * dmaCopyLen)
  copy_copy : ∀ q ∈ bfPairs, ∀ q' ∈ bfPairs, q ≠ q' → env.allocAbs q = false →
    env.allocAbs q' = false →
      Apart (entryMem env (copyDst dstBuf) q) dmaCopyLen (entryMem env (copyDst dstBuf) q') dmaCopyLen
  copy_host : ∀ q ∈ bfPairs, env.allocAbs q = false → ∀ i < dmaCopyLen,
    ¬ HostStore env (entryMem env (copyDst dstBuf) q + i)

/-- A COPY entry of the grid is the entry of a pair the allocator did not grant. -/
theorem mem_bfGrid_copy {env : CopyEnv} {dst : Nat} {e : BfEntry} (he : e ∈ bfGrid env dst)
    (hc : e.copy = true) : ∃ q ∈ bfPairs, env.allocAbs q = false ∧ e = bfEntry env dst q := by
  obtain ⟨q, hq, rfl⟩ := List.mem_map.mp he
  exact ⟨q, hq, by simpa [bfEntry] using hc, rfl⟩

section Scan

variable {env : CopyEnv} {gs : Grant dmaCopyLen} {gd : Grant (3 * dmaCopyLen)}
  (hA : AllocApart env gs.base gd.base) (hdma : DmaConfined env (copyDst gd.base))
include hA hdma

/-- A reserved region is still zero when the scan reads it. -/
theorem reserved_region_zero {r r' : Ram}
    (hr : Steps (PassAccess env gs.base (copyDst gd.base))
      (snapshot (wipe r (bfGrid env (copyDst gd.base))) (bfGrid env (copyDst gd.base))) r')
    {p : Nat × Nat} (hp : p ∈ bfPairs) (habs : env.allocAbs p = true) {i : Nat}
    (hi : i < dmaCopyLen) : r'.mem (bfAddr (copyDst gd.base) p + i) = 0 := by
  rw [passSteps_mem_eq gs.fits hdma hr ((bfAddr_apart_dst hp _).not_mem hi)
    ((hA.reserved_src p hp habs).not_mem hi) (hA.reserved_host p hp habs i hi)]
  rw [snapshot_mem_eq]
  · refine wipe_mem_zero (.inr ⟨_, List.mem_map_of_mem _ hp, by simp [bfEntry, habs], ?_⟩)
    simp only [bfEntry, entryMem, habs, if_true]
    omega
  · intro e he hc
    obtain ⟨q, hq, hq', rfl⟩ := mem_bfGrid_copy he hc
    exact (hA.reserved_copy p hp q hq habs hq').not_mem hi

/-- A COPY buffer still matches its region when the scan reads them, unless the
region overlaps the test's source, a COPY buffer, or a byte the host stores
into. -/
theorem copy_region_intact {r r' : Ram}
    (hr : Steps (PassAccess env gs.base (copyDst gd.base))
      (snapshot (wipe r (bfGrid env (copyDst gd.base))) (bfGrid env (copyDst gd.base))) r')
    {p : Nat × Nat} (hp : p ∈ bfPairs) (habs : env.allocAbs p = false)
    (hR : Apart (bfAddr (copyDst gd.base) p) dmaCopyLen gs.base dmaCopyLen)
    (hB : ∀ q ∈ bfPairs, env.allocAbs q = false →
      Apart (bfAddr (copyDst gd.base) p) dmaCopyLen (entryMem env (copyDst gd.base) q) dmaCopyLen)
    {i : Nat} (hi : i < dmaCopyLen) (hH : ¬ HostStore env (bfAddr (copyDst gd.base) p + i)) :
    r'.mem (entryMem env (copyDst gd.base) p + i) = r'.mem (bfAddr (copyDst gd.base) p + i) := by
  have hdst := copyDst_eq gd
  have hBd := (hA.copy_dstBuf p hp habs).not_mem hi
  have hcopy : ∀ e ∈ bfGrid env (copyDst gd.base), e.copy = true →
      ¬ (e.mem ≤ bfAddr (copyDst gd.base) p + i ∧ bfAddr (copyDst gd.base) p + i < e.mem + dmaCopyLen) := by
    intro e he hc
    obtain ⟨q, hq, hq', rfl⟩ := mem_bfGrid_copy he hc
    exact (hB q hq hq').not_mem hi
  calc r'.mem (entryMem env (copyDst gd.base) p + i)
      = (snapshot (wipe r _) (bfGrid env (copyDst gd.base))).mem
          (entryMem env (copyDst gd.base) p + i) :=
        passSteps_mem_eq gs.fits hdma hr (by omega) ((hA.copy_src p hp habs).not_mem hi)
          (hA.copy_host p hp habs i hi)
    _ = (wipe r (bfGrid env (copyDst gd.base))).mem (bfAddr (copyDst gd.base) p + i) := by
        rw [snapshot_mem (e := bfEntry env (copyDst gd.base) p) (by simp [bfEntry, habs])
          (by simp only [bfEntry]; omega),
          if_pos (show _ ∈ bfGrid env _ from List.mem_map_of_mem _ hp)]
        · simp [bfEntry]
        · intro e he hc
          obtain ⟨q, hq, hq', rfl⟩ := mem_bfGrid_copy he hc
          refine ⟨?_, apart_comm.mp (hB q hq hq')⟩
          by_cases hqp : q = p
          · exact .inl (hqp ▸ rfl)
          · exact .inr (hA.copy_copy q hq p hp hqp hq' habs)
    _ = (snapshot (wipe r _) (bfGrid env (copyDst gd.base))).mem
          (bfAddr (copyDst gd.base) p + i) := (snapshot_mem_eq hcopy).symm
    _ = r'.mem (bfAddr (copyDst gd.base) p + i) :=
        (passSteps_mem_eq gs.fits hdma hr ((bfAddr_apart_dst hp _).not_mem hi)
          (hR.not_mem hi) hH).symm

/-- With an allocator that hands out only free memory and a DMA engine that stores
only into the landing area, the scan reports only COPY regions, and a COPY region
only when it overlaps the test's own source buffer, a COPY buffer, or a byte the
host stores into after the snapshot (`rand_seed`, the patched script, the stack,
stdio buffers, interrupt code's data). The landing area meets no protected
region (`bfAddr_apart_dst`), so no report is one the engine's stores caused. -/
theorem testDmaCopy_reports_own_stores {ta tm : Grant bfaddrSize} (hs : env.src = some gs)
    (hd : env.dstBuf = some gd) (ha : env.bfAddrTable = some ta) (hm : env.bfMemTable = some tm) :
    ∀ rep ∈ (testDmaCopy env).reports, ∃ p ∈ bfPairs, env.allocAbs p = false ∧
      rep = .copy (bfAddr (copyDst gd.base) p) ∧
      (¬ Apart (bfAddr (copyDst gd.base) p) dmaCopyLen gs.base dmaCopyLen ∨
        (∃ q ∈ bfPairs, env.allocAbs q = false ∧
          ¬ Apart (bfAddr (copyDst gd.base) p) dmaCopyLen (entryMem env (copyDst gd.base) q)
            dmaCopyLen) ∨
        ∃ i < dmaCopyLen, HostStore env (bfAddr (copyDst gd.base) p + i)) := by
  intro rep hrep
  rw [testDmaCopy_of_granted hs hd ha hm] at hrep
  obtain ⟨e, he, r', hr, hscan⟩ := passes_reports (by decide) hrep
  obtain ⟨p, hp, rfl⟩ := List.mem_map.mp he
  cases habs : env.allocAbs p
  · refine ⟨p, hp, habs, ?_, ?_⟩
    · simp only [scanEntry, bfEntry, habs, Bool.not_false, if_true] at hscan
      split at hscan <;> simp_all
    · by_contra hcon
      push_neg at hcon
      rw [scanEntry_copy (by simp [bfEntry, habs]) fun i hi =>
        copy_region_intact hA hdma hr hp habs hcon.1 hcon.2.1 hi (hcon.2.2 i hi)] at hscan
      exact Option.noConfusion hscan
  · rw [scanEntry_reserved (by simp [bfEntry, habs]) fun i hi => by
      simpa only [bfEntry, entryMem, habs, if_true] using
        reserved_region_zero hA hdma hr hp habs hi] at hscan
    exact Option.noConfusion hscan

end Scan

/-- `src` at `0x201000` lies in the region of `(20, 20)`, `0x301000` with bit 20
flipped, so that `AllocAbs` fails (the test's own source is there) and the entry
is a COPY entry with its buffer at `0x10000000`. Every other `AllocAbs` goes
through. The card completes each copy but stores nothing; `rand_seed` and the
script lie below every protected region, and the rest of the host stores
nothing. -/
def srcInGridEnv : CopyEnv where
  src := some ⟨0x201000, by decide, by decide⟩
  dstBuf := some ⟨0x300000, by decide, by decide⟩
  bfAddrTable := some ⟨0x400000, by decide, by decide⟩
  bfMemTable := some ⟨0x401000, by decide, by decide⟩
  allocAbs p := p != (20, 20)
  fallback _ := some ⟨0x10000000, by decide, by decide⟩
  seed := 0
  mem _ := 0
  dma _ := some []
  randSeedAt := 0x100
  scriptAt := 0x200
  hostStores _ := []
  scanStores _ := []

/-- The host stores only into `rand_seed` and the script. -/
theorem srcInGridEnv_hostStore {x : Nat} (h : HostStore srcInGridEnv x) : x < 0x20c := by
  obtain ⟨acc, hacc, hx⟩ := h
  rcases hacc with rfl | ⟨i, hi, rfl⟩ | ⟨_, w, hw, _⟩ | ⟨_, w, hw, _⟩
  · simp only [Access.Hits, srcInGridEnv] at hx; omega
  · simp only [Access.Hits, srcInGridEnv] at hx; omega
  · exact absurd hw (List.not_mem_nil w)
  · exact absurd hw (List.not_mem_nil w)

set_option maxRecDepth 4000 in
theorem srcInGridEnv_allocApart : AllocApart srcInGridEnv 0x201000 0x300000 := by
  have hcopy : ∀ q, srcInGridEnv.allocAbs q = false → q = (20, 20) := by
    simp [srcInGridEnv]
  have hlow : ∀ p ∈ bfPairs, 0x1000 ≤ bfAddr (copyDst 0x300000) p := by decide
  have hbuf : entryMem srcInGridEnv (copyDst 0x300000) (20, 20) = 0x10000000 := by decide
  constructor
  · intro p hp habs
    rw [show (0x201000 : Nat) = bfAddr (copyDst 0x300000) (20, 20) by decide]
    exact bfAddr_apart hp (by decide) (by simpa [srcInGridEnv] using habs)
  · intro p _ q _ _ hq
    obtain rfl := hcopy q hq
    revert p
    decide
  · intro p hp _ i _ hH
    have := srcInGridEnv_hostStore hH
    have := hlow p hp
    omega
  · intro q _ hq
    obtain rfl := hcopy q hq
    decide
  · intro q _ hq
    obtain rfl := hcopy q hq
    decide
  · intro q _ q' _ hne hq hq'
    exact absurd ((hcopy q hq).trans (hcopy q' hq').symm) hne
  · intro q _ hq i _ hH
    obtain rfl := hcopy q hq
    have := srcInGridEnv_hostStore hH
    omega

theorem srcInGridEnv_dmaConfined : DmaConfined srcInGridEnv (copyDst 0x300000) := by
  intro _ _ h w hw
  cases (Option.some.inj h).symm ▸ hw

set_option maxRecDepth 8000 in
/-- The first pass miscompares, as the card stored nothing, and the scan finds the
COPY region of `(20, 20)` changed: the passes rewrote `src` after its snapshot. -/
theorem srcInGridEnv_reports_copy : Report.copy 0x201000 ∈ (testDmaCopy srcInGridEnv).reports := by
  rw [testDmaCopy_of_granted rfl rfl rfl rfl]
  dsimp only
  rw [passes_reports_eq_scan (fun _ => Option.some_ne_none _) (by decide),
    scan_eq_filterMap (fun _ => rfl)]
  exact List.mem_filterMap.mpr ⟨_, List.mem_map_of_mem _
    (show ((20 : Nat), (20 : Nat)) ∈ bfPairs by decide), by decide⟩

/-- The report of `srcInGridEnv`'s run names a COPY region that overlaps the source
buffer, a COPY buffer or a byte the host stores into. -/
theorem testDmaCopy_src_region_explained :
    ∃ p ∈ bfPairs, srcInGridEnv.allocAbs p = false ∧
      Report.copy 0x201000 = .copy (bfAddr (copyDst 0x300000) p) ∧
      (¬ Apart (bfAddr (copyDst 0x300000) p) dmaCopyLen 0x201000 dmaCopyLen ∨
        (∃ q ∈ bfPairs, srcInGridEnv.allocAbs q = false ∧
          ¬ Apart (bfAddr (copyDst 0x300000) p) dmaCopyLen
            (entryMem srcInGridEnv (copyDst 0x300000) q) dmaCopyLen) ∨
        ∃ i < dmaCopyLen, HostStore srcInGridEnv (bfAddr (copyDst 0x300000) p + i)) :=
  @testDmaCopy_reports_own_stores srcInGridEnv ⟨0x201000, by decide, by decide⟩
    ⟨0x300000, by decide, by decide⟩ srcInGridEnv_allocApart srcInGridEnv_dmaConfined _ _
    rfl rfl rfl rfl _ srcInGridEnv_reports_copy

/-- The scan reports the region at `0x201000` although the card stored no byte
anywhere: the allocator hands out only free memory, the engine stores only into
the landing area, and the report comes from the test's own stores into `src`. -/
theorem testDmaCopy_reports_src_region :
    AllocApart srcInGridEnv 0x201000 0x300000 ∧ DmaConfined srcInGridEnv (copyDst 0x300000) ∧
      (∀ pass ws, srcInGridEnv.dma pass = some ws → ws = []) ∧
      Report.copy 0x201000 ∈ (testDmaCopy srcInGridEnv).reports :=
  ⟨srcInGridEnv_allocApart, srcInGridEnv_dmaConfined, fun _ _ h => (Option.some.inj h).symm,
    srcInGridEnv_reports_copy⟩

end A4091
