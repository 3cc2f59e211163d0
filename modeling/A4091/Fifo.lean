import A4091.Bus
import A4091.Siop
import A4091.Memory
import A4091.Options
import A4091.Host
import Mathlib.Tactic.FinCases

/-!
# A4091 — the DMA FIFO test, and the SCSI FIFO test that repeats it

`test_dma_fifo` resets the 53C710 and checks that its DMA FIFO reads empty. It then
pushes sixteen 9-bit values into each of the FIFO's four byte lanes, the byte through
CTEST6 and bit 8 through CTEST7's DMA FIFO parity bit, and checks that the FIFO reads
full. Last it pops the lanes again, byte through CTEST6 and parity through CTEST2,
comparing each value against the same pseudo-random sequence, re-seeded. A lane that
returns a wrong value sets its bit in `rc`. `test_scsi_fifo` is the same code under
another name ("The below code has not been changed yet from the DMA FIFO test"),
without the check for UAE.

The tests are modelled once, as a program over any device behind the register
interface (`Bus`). The 53C710's DMA FIFO is one such device, `DmaFifoChip`, built from
the data manual's description that the test follows: four lanes of `NCR_FIFO_SIZE`
(parity, byte) entries, CTEST4's FBL bits choosing the lane CTEST6 reaches, CTEST1
holding the lanes' empty and full flags, and DSTAT.DFE set while the FIFO is empty.
A write of ISTAT.RST empties the FIFO.

## Results

* `fifoValue_push` — a push writes, and a pop of the same entry reads back, the
  9-bit value the pop expects.
* `fifoTest_chip` — on the 53C710's DMA FIFO, from any state and under any runtime
  flags, the FIFO test prints nothing and returns 0.
* `fifoTests_chip` — so do `test_dma_fifo`, on any interrupt chain, and `test_scsi_fifo`.
-/

namespace A4091

variable {σ : Type}

/-- `is_running_in_uae`: a server on the A4091's interrupt chain has a name that
starts with "UAE" (`strncmp(name, "UAE", 3) == 0`). -/
def isRunningInUae (chain : List Interrupt) : Bool :=
  chain.any fun s => s.name.startsWith "UAE"

/-- `runtime_flags & FLAG_MORE_DEBUG`: the tests go on past a failed check. -/
def moreDebug (runtimeFlags : BitVec 32) : Bool := runtimeFlags &&& flagMoreDebug != 0

-- ---------------------------------------------------------------------------
-- `test_dma_fifo`
-- ---------------------------------------------------------------------------

/-- `NCR_FIFO_SIZE`: the depth of a byte lane of the DMA FIFO. -/
def ncrFifoSize : Nat := 16

/-- `srand32(19700119)`: the seed both halves of the test start from. -/
def fifoSeed : BitVec 32 := 19700119

/-- `(ctest4 & ~3) | REG_CTEST4_FBL2 | lane`: CTEST4 with CTEST6 sent to byte lane
`lane`. -/
def laneSelect (ctest4 : BitVec 8) (lane : Nat) : BitVec 8 :=
  (ctest4 &&& ~~~3) ||| regCtest4Fbl2 ||| BitVec.ofNat 8 lane

/-- The byte a push stores in CTEST6: `rvalue = rand32() >> 8`, a `uint16_t`, cut
to a byte. -/
def pushData (seed : BitVec 32) : BitVec 8 := ((seed >>> 8).setWidth 16).setWidth 8

/-- The CTEST7 a push stores first: `ctest7 | ((rvalue >> 5) & BIT(3))`, bit 8 of
`rvalue` in the DMA FIFO parity bit. -/
def pushPvalue (ctest7 : BitVec 8) (seed : BitVec 32) : BitVec 8 :=
  ctest7 ||| ((((seed >>> 8).setWidth 16) >>> 5) &&& 0x08).setWidth 8

/-- The value a pop assembles: `get_ncrreg8(REG_CTEST6)` with
`(get_ncrreg8(REG_CTEST2) & BIT(3)) << 5`, the parity as bit 8. -/
def fifoValue (data parity : BitVec 8) : BitVec 16 :=
  data.setWidth 16 ||| ((parity &&& 0x08).setWidth 16 <<< 5)

/-- The value a pop expects: `(rand32() >> 8) & (BIT(9) - 1)`. -/
def fifoExpected (seed : BitVec 32) : BitVec 16 := ((seed >>> 8) &&& 0x1ff).setWidth 16

/-- One push of the inner loop, on the seed and the device. -/
def fifoPushByte (b : Bus σ) (ctest7 : BitVec 8) (p : BitVec 32 × σ) : BitVec 32 × σ :=
  let seed := rand32 p.1
  (seed, b.write8 regCtest6 (pushData seed) (b.write8 regCtest7 (pushPvalue ctest7 seed) p.2))

/-- The body of the push loop for lane `lane`: select the lane, push
`NCR_FIFO_SIZE` bytes. -/
def fifoPushLane (b : Bus σ) (ctest4 ctest7 : BitVec 8) (p : BitVec 32 × σ) (lane : Nat) :
    BitVec 32 × σ :=
  (fifoPushByte b ctest7)^[ncrFifoSize] (p.1, b.write8 regCtest4 (laneSelect ctest4 lane) p.2)

/-- The push loop over the lanes `lanes`. -/
def fifoPushLanes (b : Bus σ) (ctest4 ctest7 : BitVec 8) (lanes : List Nat) (p : BitVec 32 × σ) :
    BitVec 32 × σ :=
  lanes.foldl (fifoPushLane b ctest4 ctest7) p

@[simp] theorem fifoPushLanes_cons (b : Bus σ) (ctest4 ctest7 : BitVec 8) (lane : Nat)
    (lanes : List Nat) (p : BitVec 32 × σ) :
    fifoPushLanes b ctest4 ctest7 (lane :: lanes) p =
      fifoPushLanes b ctest4 ctest7 lanes (fifoPushLane b ctest4 ctest7 p lane) := by
  rw [fifoPushLanes, fifoPushLanes, List.foldl_cons]

/-- What the FIFO tests print, short of their debug output and layout. `name` is the
test's, "DMA FIFO" or "SCSI FIFO". -/
inductive FifoReport
  /-- "%s not empty before test: CTEST1 should be 0xf0, but is 0x%02x". -/
  | notEmptyBefore (name : String) (ctest1 : BitVec 8)
  /-- "%s not empty: DSTAT DFE not 1". -/
  | dfeClear (name : String)
  /-- "%s is empty: DSTAT DFE not 1". -/
  | dfeSet (name : String)
  /-- "%s not full: CTEST1 should be 0x0f, but is 0x%02x". -/
  | notFull (name : String) (ctest1 : BitVec 8)
  /-- "Lane %d byte %d FIFO got %03x, expected %03x". -/
  | mismatch (lane cbyte : Nat) (got expected : BitVec 16)
  /-- "...": the lane's further mismatches go unlisted. -/
  | more
  /-- "%s not empty after test: CTEST1 should be 0xf0, but is 0x%02x". -/
  | notEmptyAfter (name : String) (ctest1 : BitVec 8)
  deriving DecidableEq, Repr

/-- The variables of the pop loop. -/
structure FifoPop (σ : Type) where
  rc : Nat
  count : Nat
  seed : BitVec 32
  dev : σ
  reports : List FifoReport

/-- One pop of byte `cbyte` of lane `lane`. A mismatch sets the lane's bit in `rc`;
it is listed while the lane's bit was clear (`count` untouched) or while `count++ < 2`,
and the `count == 3`-th after that prints "...". -/
def fifoPopByte (b : Bus σ) (lane cbyte : Nat) (p : FifoPop σ) : FifoPop σ :=
  let seed := rand32 p.seed
  let rvalue := fifoExpected seed
  let r6 := b.read8 regCtest6 p.dev
  let r2 := b.read8 regCtest2 r6.2
  let value := fifoValue r6.1 r2.1
  if value = rvalue then { p with seed := seed, dev := r2.2 } else
    let first := p.rc &&& 2 ^ lane = 0
    let count := if first then p.count else p.count + 1
    { rc := p.rc ||| 2 ^ lane, count := count, seed := seed, dev := r2.2
      reports := p.reports ++
        if first ∨ p.count < 2 then [.mismatch lane cbyte value rvalue]
        else if count = 3 then [.more] else [] }

/-- The inner pop loop over the bytes `cbytes` of lane `lane`. -/
def fifoPopBytes (b : Bus σ) (lane : Nat) (cbytes : List Nat) (p : FifoPop σ) : FifoPop σ :=
  cbytes.foldl (fun p cbyte => fifoPopByte b lane cbyte p) p

@[simp] theorem fifoPopBytes_nil (b : Bus σ) (lane : Nat) (p : FifoPop σ) :
    fifoPopBytes b lane [] p = p := rfl

@[simp] theorem fifoPopBytes_cons (b : Bus σ) (lane c : Nat) (cs : List Nat) (p : FifoPop σ) :
    fifoPopBytes b lane (c :: cs) p = fifoPopBytes b lane cs (fifoPopByte b lane c p) := rfl

/-- The body of the pop loop for lane `lane`: `count = 0`, select the lane, pop
`NCR_FIFO_SIZE` bytes. -/
def fifoPopLane (b : Bus σ) (ctest4 : BitVec 8) (p : FifoPop σ) (lane : Nat) : FifoPop σ :=
  fifoPopBytes b lane (List.range ncrFifoSize)
    { p with count := 0, dev := b.write8 regCtest4 (laneSelect ctest4 lane) p.dev }

/-- The pop loop over the lanes `lanes`. -/
def fifoPopLanes (b : Bus σ) (ctest4 : BitVec 8) (lanes : List Nat) (p : FifoPop σ) : FifoPop σ :=
  lanes.foldl (fifoPopLane b ctest4) p

@[simp] theorem fifoPopLanes_cons (b : Bus σ) (ctest4 : BitVec 8) (lane : Nat) (lanes : List Nat)
    (p : FifoPop σ) :
    fifoPopLanes b ctest4 (lane :: lanes) p = fifoPopLanes b ctest4 lanes (fifoPopLane b ctest4 p lane) :=
  rfl

/-- What a FIFO test returns, the device it leaves, and what it printed. -/
structure FifoRun (σ : Type) where
  rc : Nat
  dev : σ
  reports : List FifoReport

/-- The `fail:` label: CTEST4 back to normal operation, `ctest4 & ~7`. -/
def fifoRestore (b : Bus σ) (ctest4 : BitVec 8) (r : FifoRun σ) : FifoRun σ :=
  { r with dev := b.write8 regCtest4 (ctest4 &&& ~~~7) r.dev }

/-- From the pop loop on: pop the four lanes from the seed again, check that CTEST1
reads empty, and restore CTEST4. -/
def fifoUnload (name : String) (b : Bus σ) (ctest4 : BitVec 8) (p : FifoPop σ) : FifoRun σ :=
  let q := fifoPopLanes b ctest4 (List.range 4) { p with seed := fifoSeed }
  let c1 := b.read8 regCtest1 q.dev
  fifoRestore b ctest4
    { rc := if c1.1 = 0xf0 then q.rc else 0xff, dev := c1.2
      reports := q.reports ++ if c1.1 = 0xf0 then [] else [.notEmptyAfter name c1.1] }

/-- From the check that the FIFO holds data on. A set DFE returns `0x0f` at once
(CTEST4 stays as the push loop left it); CTEST1 other than full sets `rc` to `0xff`
and goes to `fail:`. Under `FLAG_MORE_DEBUG` both go on. -/
def fifoFullCheck (name : String) (b : Bus σ) (runtimeFlags : BitVec 32) (ctest4 : BitVec 8)
    (rc : Nat) (reports : List FifoReport) (s : σ) : FifoRun σ :=
  let d := b.read8 regDstat s
  let dfe := d.1 &&& regDstatDfe ≠ 0
  let rc := if dfe then rc + 1 else rc
  let reports := reports ++ if dfe then [.dfeSet name] else []
  if dfe ∧ moreDebug runtimeFlags = false then ⟨0x0f, d.2, reports⟩ else
  let c1 := b.read8 regCtest1 d.2
  let full := c1.1 = 0x0f
  let rc := if full then rc else 0xff
  let reports := reports ++ if full then [] else [.notFull name c1.1]
  if ¬full ∧ moreDebug runtimeFlags = false then fifoRestore b ctest4 ⟨rc, c1.2, reports⟩ else
  fifoUnload name b ctest4 ⟨rc, 0, fifoSeed, c1.2, reports⟩

/-- The body the two FIFO tests share, from `a4091_reset()` on. A CTEST1 other than
empty returns `0x0f`, and so does a clear DFE after `rc++`; under `FLAG_MORE_DEBUG`
both go on, the first without touching `rc`. -/
def fifoTest (name : String) (b : Bus σ) (runtimeFlags : BitVec 32) (s : σ) : FifoRun σ :=
  let c1 := b.read8 regCtest1 (a4091ResetOn b s)
  let reports := if c1.1 = 0xf0 then [] else [FifoReport.notEmptyBefore name c1.1]
  if c1.1 ≠ 0xf0 ∧ moreDebug runtimeFlags = false then ⟨0x0f, c1.2, reports⟩ else
  let d := b.read8 regDstat c1.2
  let dfe := d.1 &&& regDstatDfe = 0
  let reports := reports ++ if dfe then [.dfeClear name] else []
  if dfe ∧ moreDebug runtimeFlags = false then ⟨0x0f, d.2, reports⟩ else
  let c4 := b.read8 regCtest4 d.2
  let c7 := b.read8 regCtest7 c4.2
  let pushed := fifoPushLanes b c4.1 (c7.1 &&& ~~~0x08) (List.range 4) (fifoSeed, c7.2)
  fifoFullCheck name b runtimeFlags c4.1 (if dfe then 1 else 0) reports pushed.2

/-- `test_dma_fifo`: nothing under UAE, whose emulation of the FIFO is incomplete. -/
def testDmaFifo (b : Bus σ) (runtimeFlags : BitVec 32) (chain : List Interrupt) (s : σ) :
    FifoRun σ :=
  if isRunningInUae chain then ⟨0, s, []⟩ else fifoTest "DMA FIFO" b runtimeFlags s

/-- `test_scsi_fifo`: the DMA FIFO test's body under its own name; its check for UAE
is compiled out. -/
def testScsiFifo (b : Bus σ) (runtimeFlags : BitVec 32) (s : σ) : FifoRun σ :=
  fifoTest "SCSI FIFO" b runtimeFlags s

-- ---------------------------------------------------------------------------
-- The 53C710's DMA FIFO
-- ---------------------------------------------------------------------------

/-- The 53C710 as the FIFO tests reach it: its register file, the byte lanes of the
DMA FIFO, each a queue of (parity, byte) entries, oldest first, and the DMA FIFO
parity bit CTEST2 shows, that of the last byte popped. -/
structure DmaFifoChip where
  regs : RegFile
  lanes : Nat → List (Bool × BitVec 8)
  parity : Bool

namespace DmaFifoChip

/-- CTEST4.FBL2: CTEST6 reaches the DMA FIFO. -/
def fbl2 (c : DmaFifoChip) : Bool := c.regs regCtest4 &&& regCtest4Fbl2 != 0

/-- The byte lane CTEST4.FBL1-0 select. -/
def lane (c : DmaFifoChip) : Nat := (c.regs regCtest4 &&& 3).toNat

/-- Four flags, lane `i`'s at bit `i`. -/
def laneFlags (p : Nat → Bool) : BitVec 8 :=
  (if p 0 then 1 else 0) ||| (if p 1 then 2 else 0) ||| (if p 2 then 4 else 0) |||
    (if p 3 then 8 else 0)

/-- CTEST1: the lanes' empty flags FMT3-0 over their full flags FFL3-0. -/
def ctest1 (c : DmaFifoChip) : BitVec 8 :=
  (laneFlags (fun i => (c.lanes i).isEmpty) <<< 4) |||
    laneFlags (fun i => decide (ncrFifoSize ≤ (c.lanes i).length))

/-- DSTAT.DFE: every byte lane is empty. -/
def empty (c : DmaFifoChip) : Bool := (List.range 4).all fun i => (c.lanes i).isEmpty

/-- A register read. CTEST6 with FBL2 set pops the selected lane and latches the
entry's parity for CTEST2's bit 3. -/
def read8 (reg : Nat) (c : DmaFifoChip) : BitVec 8 × DmaFifoChip :=
  if reg = regCtest6 ∧ c.fbl2 then
    match c.lanes c.lane with
    | [] => (c.regs regCtest6, c)
    | (p, v) :: rest => (v, { c with lanes := Function.update c.lanes c.lane rest, parity := p })
  else if reg = regCtest1 then (c.ctest1, c)
  else if reg = regDstat then
    ((c.regs regDstat &&& ~~~regDstatDfe) ||| (if c.empty then regDstatDfe else 0), c)
  else if reg = regCtest2 then
    ((c.regs regCtest2 &&& ~~~0x08) ||| (if c.parity then 0x08 else 0), c)
  else (c.regs reg, c)

/-- A register write. CTEST6 with FBL2 set pushes the byte, with CTEST7's DMA FIFO
parity bit, onto the selected lane unless it is full; ISTAT.RST empties the FIFO. -/
def write8 (rst : ChipReset) (reg : Nat) (v : BitVec 8) (c : DmaFifoChip) : DmaFifoChip :=
  if reg = regCtest6 ∧ c.fbl2 then
    if (c.lanes c.lane).length < ncrFifoSize then
      let entry := ((c.regs regCtest7).getLsbD 3, v)
      { c with lanes := Function.update c.lanes c.lane (c.lanes c.lane ++ [entry]) }
    else c
  else if reg = regIstat ∧ v &&& regIstatRst ≠ 0 then
    { regs := setNcrreg8 rst c.regs reg v, lanes := fun _ => [], parity := false }
  else { c with regs := setNcrreg8 rst c.regs reg v }

end DmaFifoChip

/-- The 53C710's DMA FIFO behind the register interface; `rst` is what a chip reset
does to the other registers. -/
def dmaFifoBus (rst : ChipReset) : Bus DmaFifoChip := ⟨DmaFifoChip.read8, DmaFifoChip.write8 rst⟩

-- ---------------------------------------------------------------------------
-- The 9-bit value a push writes and a pop reads
-- ---------------------------------------------------------------------------

/-- A pop reads back the value it expects from the byte and the parity bit the
push of the same seed wrote, whatever else CTEST7 held apart from its bit 3. -/
theorem fifoValue_push {ctest7 : BitVec 8} (h : ctest7.getLsbD 3 = false) (seed : BitVec 32) :
    fifoValue (pushData seed) (pushPvalue ctest7 seed) = fifoExpected seed := by
  ext i
  simp only [fifoValue, pushData, pushPvalue, fifoExpected, BitVec.getLsbD_or, BitVec.getLsbD_and,
    BitVec.getLsbD_setWidth, BitVec.getLsbD_shiftLeft, BitVec.getLsbD_ushiftRight]
  fin_cases i <;> simp [h]

/-- A pop reads only bit 3 of the parity byte. -/
theorem fifoValue_congr (data : BitVec 8) {p q : BitVec 8} (h : p &&& 0x08 = q &&& 0x08) :
    fifoValue data p = fifoValue data q := by
  rw [fifoValue, fifoValue, h]

/-- Bit 3 of a byte, as the mask `BIT(3)` leaves it. -/
theorem and_eight_eq (x : BitVec 8) : x &&& 0x08 = if x.getLsbD 3 then 0x08 else 0 :=
  BitVec.and_twoPow x 3

/-- Masking `m` out of a byte, or-ing in `y` and masking with `m` keeps `y`'s bits. -/
theorem and_not_or_and {w : Nat} (x y m : BitVec w) : ((x &&& ~~~m) ||| y) &&& m = y &&& m := by
  ext i
  simp only [BitVec.getLsbD_and, BitVec.getLsbD_or, BitVec.getLsbD_not]
  cases m.getLsbD i <;> simp

/-- The CTEST4 the loops write selects lane `lane`. -/
theorem laneSelect_and_three (ctest4 : BitVec 8) {lane : Nat} (h : lane < 4) :
    (laneSelect ctest4 lane &&& 3).toNat = lane := by
  rw [laneSelect, BitVec.or_assoc, and_not_or_and]
  rcases lane with _ | _ | _ | _ | _ <;> first | omega | decide

/-- The CTEST4 the loops write sends CTEST6 to the DMA FIFO. -/
theorem laneSelect_and_fbl2 (ctest4 : BitVec 8) (lane : Nat) :
    laneSelect ctest4 lane &&& regCtest4Fbl2 = regCtest4Fbl2 := by
  ext i
  simp only [laneSelect, BitVec.getLsbD_and, BitVec.getLsbD_or]
  cases regCtest4Fbl2.getLsbD i <;> simp

-- ---------------------------------------------------------------------------
-- One access to the chip
-- ---------------------------------------------------------------------------

namespace DmaFifoChip

variable (rst : ChipReset) (c : DmaFifoChip)

@[simp] theorem bus_read8 : (dmaFifoBus rst).read8 = read8 := rfl
@[simp] theorem bus_write8 : (dmaFifoBus rst).write8 = write8 rst := rfl

/-- A read of any register but CTEST6 leaves the chip as it was. -/
theorem read8_snd {reg : Nat} (h : reg ≠ regCtest6) : (c.read8 reg).2 = c := by
  rw [read8, if_neg fun h' => h h'.1]
  split_ifs <;> rfl

/-- A register the FIFO does not back reads as the register file holds it. -/
theorem read8_plain {reg : Nat} (h6 : reg ≠ regCtest6) (h1 : reg ≠ regCtest1)
    (hd : reg ≠ regDstat) (h2 : reg ≠ regCtest2) : c.read8 reg = (c.regs reg, c) := by
  rw [read8, if_neg fun h => h6 h.1, if_neg h1, if_neg hd, if_neg h2]

theorem read8_ctest1 : c.read8 regCtest1 = (c.ctest1, c) := by
  rw [read8, if_neg fun h => absurd h.1 (by decide), if_pos rfl]

theorem read8_dstat :
    (c.read8 regDstat).1 &&& regDstatDfe = if c.empty then regDstatDfe else 0 := by
  rw [read8, if_neg fun h => absurd h.1 (by decide), if_neg (by decide), if_pos rfl, and_not_or_and]
  cases c.empty <;> decide

/-- DSTAT.DFE reads clear exactly while the FIFO holds data. -/
theorem read8_dstat_dfe : ((c.read8 regDstat).1 &&& regDstatDfe = 0) = (c.empty = false) := by
  rw [read8_dstat]
  cases c.empty <;> decide

theorem read8_ctest2 : (c.read8 regCtest2).1 &&& 0x08 = if c.parity then 0x08 else 0 := by
  rw [read8, if_neg fun h => absurd h.1 (by decide), if_neg (by decide), if_neg (by decide),
    if_pos rfl, and_not_or_and]
  cases c.parity <;> decide

/-- Reading CTEST6 with FBL2 set pops the selected lane. -/
theorem read8_ctest6 (hf : c.fbl2 = true) {p : Bool} {v : BitVec 8} {rest : List (Bool × BitVec 8)}
    (hq : c.lanes c.lane = (p, v) :: rest) :
    c.read8 regCtest6 = (v, { c with lanes := Function.update c.lanes c.lane rest, parity := p }) := by
  rw [read8, if_pos ⟨rfl, hf⟩]
  split <;> simp_all

/-- A write of any register but CTEST6 and ISTAT only stores the byte. -/
theorem write8_of_ne {reg : Nat} (v : BitVec 8) (h6 : reg ≠ regCtest6) (hi : reg ≠ regIstat) :
    c.write8 rst reg v = { c with regs := Function.update c.regs reg v } := by
  rw [write8, if_neg fun h => h6 h.1, if_neg fun h => hi h.1, setNcrreg8, if_neg fun h => hi h.1]

theorem write8_lanes {reg : Nat} {v : BitVec 8} (h6 : reg ≠ regCtest6)
    (hr : ¬(reg = regIstat ∧ v &&& regIstatRst ≠ 0)) : (c.write8 rst reg v).lanes = c.lanes := by
  rw [write8, if_neg fun h => h6 h.1, if_neg hr]

theorem write8_rst : (c.write8 rst regIstat regIstatRst).lanes = fun _ => [] := by
  rw [write8, if_neg fun h => absurd h.1 (by decide), if_pos ⟨rfl, by decide⟩]

/-- Writing CTEST6 with FBL2 set pushes onto the selected lane while it has room. -/
theorem write8_ctest6 (v : BitVec 8) (hf : c.fbl2 = true)
    (hl : (c.lanes c.lane).length < ncrFifoSize) :
    c.write8 rst regCtest6 v =
      { c with lanes := Function.update c.lanes c.lane
                          (c.lanes c.lane ++ [((c.regs regCtest7).getLsbD 3, v)]) } := by
  rw [write8, if_pos ⟨rfl, hf⟩, if_pos hl]

/-- FBL2 and the lane are CTEST4's. -/
theorem fbl2_of_regs {c' : DmaFifoChip} (h : c'.regs regCtest4 = c.regs regCtest4) :
    c'.fbl2 = c.fbl2 := by
  rw [fbl2, fbl2, h]

theorem lane_of_regs {c' : DmaFifoChip} (h : c'.regs regCtest4 = c.regs regCtest4) :
    c'.lane = c.lane := by
  rw [lane, lane, h]

theorem update_ctest4 {r : Nat} (v : BitVec 8) (h : r ≠ regCtest4) :
    Function.update c.regs r v regCtest4 = c.regs regCtest4 :=
  Function.update_noteq (Ne.symm h) _ _

theorem select_fbl2 (c4 : BitVec 8) (lane : Nat) :
    { c with regs := Function.update c.regs regCtest4 (laneSelect c4 lane) }.fbl2 = true := by
  show (Function.update c.regs regCtest4 (laneSelect c4 lane) regCtest4 &&& regCtest4Fbl2 != 0) = true
  rw [Function.update_same, laneSelect_and_fbl2]
  decide

theorem select_lane (c4 : BitVec 8) {lane : Nat} (h : lane < 4) :
    { c with regs := Function.update c.regs regCtest4 (laneSelect c4 lane) }.lane = lane := by
  simp only [DmaFifoChip.lane, Function.update_same, laneSelect_and_three c4 h]

theorem laneFlags_const (p : Nat → Bool) (b : Bool) (h : ∀ i < 4, p i = b) :
    laneFlags p = if b then 0x0f else 0 := by
  rw [laneFlags, h 0 (by omega), h 1 (by omega), h 2 (by omega), h 3 (by omega)]
  cases b <;> decide

/-- CTEST1 of an empty FIFO. -/
theorem ctest1_empty (h : ∀ i < 4, c.lanes i = []) : c.ctest1 = 0xf0 := by
  rw [ctest1, laneFlags_const _ true fun i hi => by simp [h i hi],
    laneFlags_const _ false fun i hi => by simp [h i hi, ncrFifoSize]]
  decide

/-- CTEST1 of a full FIFO. -/
theorem ctest1_full (h : ∀ i < 4, (c.lanes i).length = ncrFifoSize) : c.ctest1 = 0x0f := by
  rw [ctest1, laneFlags_const _ false fun i hi => by simp [← List.length_eq_zero, h i hi, ncrFifoSize],
    laneFlags_const _ true fun i hi => by simp [h i hi]]
  decide

theorem empty_eq : c.empty = (List.range 4).all fun i => (c.lanes i).isEmpty := rfl

end DmaFifoChip

open DmaFifoChip

/-- `a4091_reset` empties the DMA FIFO. -/
theorem a4091ResetOn_lanes (rst : ChipReset) (c : DmaFifoChip) :
    (a4091ResetOn (dmaFifoBus rst) c).lanes = fun _ => [] := by
  simp only [a4091ResetOn, bus_read8, bus_write8]
  rw [write8_lanes _ _ (by decide) (by decide), write8_lanes _ _ (by decide) (by decide),
    write8_lanes _ _ (by decide) (by decide), read8_snd _ (by decide),
    write8_lanes _ _ (by decide) (by decide), read8_snd _ (by decide), write8_rst]

-- ---------------------------------------------------------------------------
-- The test on the chip
-- ---------------------------------------------------------------------------

/-- What the chip stores for the push of seed `seed`. -/
def fifoEntry (ctest7 : BitVec 8) (seed : BitVec 32) : Bool × BitVec 8 :=
  ((pushPvalue ctest7 seed).getLsbD 3, pushData seed)

/-- The entries the pushes of the `n` seeds after `seed` store, in order. -/
def laneEntries (ctest7 : BitVec 8) : BitVec 32 → Nat → List (Bool × BitVec 8)
  | _, 0 => []
  | seed, n + 1 => fifoEntry ctest7 (rand32 seed) :: laneEntries ctest7 (rand32 seed) n

/-- Byte lanes `lo .. hi - 1` hold their sixteen entries of the test's sequence, the
others none. -/
def laneContents (ctest7 : BitVec 8) (lo hi : Nat) : Nat → List (Bool × BitVec 8) :=
  fun i => if lo ≤ i ∧ i < hi then
    laneEntries ctest7 (rand32^[ncrFifoSize * i] fifoSeed) ncrFifoSize else []

theorem laneEntries_length (ctest7 : BitVec 8) : ∀ (seed : BitVec 32) (n : Nat),
    (laneEntries ctest7 seed n).length = n
  | _, 0 => rfl
  | seed, n + 1 => by rw [laneEntries, List.length_cons, laneEntries_length]

theorem laneContents_empty (c7 : BitVec 8) {j : Nat} (i : Nat) (h : i < j ∨ 4 ≤ i) :
    laneContents c7 j 4 i = [] := by
  rw [laneContents, if_neg (by omega)]

theorem laneContents_length (c7 : BitVec 8) {i : Nat} (h : i < 4) :
    (laneContents c7 0 4 i).length = ncrFifoSize := by
  rw [laneContents, if_pos ⟨Nat.zero_le _, h⟩, laneEntries_length]

/-- One push appends its entry to the selected lane and leaves CTEST7 holding its
parity byte. -/
theorem fifoPushByte_chip (rst : ChipReset) (c7 : BitVec 8) (t : BitVec 32) (c : DmaFifoChip)
    (hf : c.fbl2 = true) (hl : (c.lanes c.lane).length < ncrFifoSize) :
    fifoPushByte (dmaFifoBus rst) c7 (t, c) =
      (rand32 t, ⟨Function.update c.regs regCtest7 (pushPvalue c7 (rand32 t)),
        Function.update c.lanes c.lane (c.lanes c.lane ++ [fifoEntry c7 (rand32 t)]), c.parity⟩) := by
  have h74 : regCtest7 ≠ regCtest4 := by decide
  set c' : DmaFifoChip := { c with regs := Function.update c.regs regCtest7 (pushPvalue c7 (rand32 t)) }
  have h7 : c.write8 rst regCtest7 (pushPvalue c7 (rand32 t)) = c' :=
    write8_of_ne _ _ _ (by decide) (by decide)
  have h4 : c'.regs regCtest4 = c.regs regCtest4 := update_ctest4 c (pushPvalue c7 (rand32 t)) h74
  simp only [fifoPushByte, bus_write8]
  rw [h7, write8_ctest6 _ _ _ (by rwa [fbl2_of_regs c h4]) (by rwa [lane_of_regs c h4]),
    lane_of_regs c h4]
  simp [fifoEntry]

/-- `n` pushes into a lane with room for them append their entries, in order. -/
theorem fifoPushByte_iterate_chip (rst : ChipReset) (c7 : BitVec 8) (n : Nat) : ∀ (t : BitVec 32)
    (c : DmaFifoChip), c.fbl2 = true → (c.lanes c.lane).length + n ≤ ncrFifoSize →
    ∃ regs : RegFile, regs regCtest4 = c.regs regCtest4 ∧
      (fifoPushByte (dmaFifoBus rst) c7)^[n] (t, c) =
        (rand32^[n] t, ⟨regs, Function.update c.lanes c.lane (c.lanes c.lane ++ laneEntries c7 t n),
          c.parity⟩) := by
  induction n with
  | zero => exact fun t c _ _ => ⟨c.regs, rfl, by simp [laneEntries]⟩
  | succ n ih =>
    intro t c hf hl
    have h74 : regCtest7 ≠ regCtest4 := by decide
    rw [Function.iterate_succ_apply, fifoPushByte_chip rst c7 t c hf (by omega)]
    set c' : DmaFifoChip := ⟨Function.update c.regs regCtest7 (pushPvalue c7 (rand32 t)),
      Function.update c.lanes c.lane (c.lanes c.lane ++ [fifoEntry c7 (rand32 t)]), c.parity⟩
    have h4 : c'.regs regCtest4 = c.regs regCtest4 := update_ctest4 c (pushPvalue c7 (rand32 t)) h74
    have hlane : c'.lane = c.lane := lane_of_regs c h4
    obtain ⟨regs, hr, he⟩ := ih (rand32 t) c' (by rwa [fbl2_of_regs c h4])
      (by rw [hlane]; simp only [c', Function.update_same, List.length_append, List.length_singleton]; omega)
    refine ⟨regs, hr.trans h4, ?_⟩
    rw [he, hlane, Function.iterate_succ_apply, laneEntries]
    simp only [c', Function.update_idem, Function.update_same, List.append_assoc, List.singleton_append]

/-- The push loop fills lane after lane with the test's sequence, from where the
seed stands. -/
theorem fifoPushLanes_chip (rst : ChipReset) (c4 c7 : BitVec 8) (n : Nat) :
    ∀ (j : Nat) (c : DmaFifoChip), j + n ≤ 4 → c.lanes = laneContents c7 0 j →
    ∃ c' : DmaFifoChip, c'.lanes = laneContents c7 0 (j + n) ∧
      fifoPushLanes (dmaFifoBus rst) c4 c7 (List.range' j n) (rand32^[ncrFifoSize * j] fifoSeed, c) =
        (rand32^[ncrFifoSize * (j + n)] fifoSeed, c') := by
  induction n with
  | zero => exact fun j c _ hc => ⟨c, hc, rfl⟩
  | succ n ih =>
    intro j c hj hc
    have hsel : c.write8 rst regCtest4 (laneSelect c4 j) =
        { c with regs := Function.update c.regs regCtest4 (laneSelect c4 j) } :=
      write8_of_ne _ _ _ (by decide) (by decide)
    have hlj : c.lanes j = [] := by simp [hc, laneContents]
    rw [fifoPushLanes, List.range'_succ, List.foldl_cons, fifoPushLane]
    dsimp only
    rw [bus_write8, hsel]
    obtain ⟨regs, -, he⟩ := fifoPushByte_iterate_chip rst c7 ncrFifoSize
      (rand32^[ncrFifoSize * j] fifoSeed) _
      (select_fbl2 c c4 j) (by rw [select_lane c c4 (by omega)]; simp [hlj])
    rw [he, select_lane c c4 (by omega), ← Function.iterate_add_apply,
      show ncrFifoSize + ncrFifoSize * j = ncrFifoSize * (j + 1) by unfold ncrFifoSize; omega]
    have hnext : Function.update c.lanes j
        (c.lanes j ++ laneEntries c7 (rand32^[ncrFifoSize * j] fifoSeed) ncrFifoSize) =
        laneContents c7 0 (j + 1) := by
      funext i
      by_cases hi : i = j
      · subst hi; simp [laneContents, hlj]
      · rw [Function.update_noteq hi, hc]; simp only [laneContents]
        congr 1; apply propext; omega
    obtain ⟨c', hc', he'⟩ := ih (j + 1)
      ⟨regs, Function.update c.lanes j (c.lanes j ++
        laneEntries c7 (rand32^[ncrFifoSize * j] fifoSeed) ncrFifoSize), c.parity⟩ (by omega) hnext
    rw [show j + 1 + n = j + (n + 1) by omega] at hc' he'
    exact ⟨c', hc', he'⟩

/-- One pop of the entry the push of the same seed stored matches, and leaves `rc`,
`count` and the reports alone. -/
theorem fifoPopByte_chip (rst : ChipReset) {c7 : BitVec 8} (hc7 : c7.getLsbD 3 = false)
    {lane : Nat} (cbyte : Nat) (p : FifoPop DmaFifoChip) (hf : p.dev.fbl2 = true)
    (hl : p.dev.lane = lane) {rest : List (Bool × BitVec 8)}
    (hq : p.dev.lanes lane = fifoEntry c7 (rand32 p.seed) :: rest) :
    fifoPopByte (dmaFifoBus rst) lane cbyte p =
      { p with seed := rand32 p.seed
               dev := { p.dev with lanes := Function.update p.dev.lanes lane rest
                                   parity := (pushPvalue c7 (rand32 p.seed)).getLsbD 3 } } := by
  subst hl
  set c' : DmaFifoChip := { p.dev with lanes := Function.update p.dev.lanes p.dev.lane rest
                                       parity := (pushPvalue c7 (rand32 p.seed)).getLsbD 3 }
  have hpar : (read8 regCtest2 c').1 &&& 0x08 = pushPvalue c7 (rand32 p.seed) &&& 0x08 := by
    rw [read8_ctest2, and_eight_eq (pushPvalue c7 _)]
  have hv : fifoValue (pushData (rand32 p.seed)) (read8 regCtest2 c').1 =
      fifoExpected (rand32 p.seed) :=
    (fifoValue_congr _ hpar).trans (fifoValue_push hc7 _)
  simp only [fifoPopByte, bus_read8]
  rw [read8_ctest6 p.dev hf hq]
  dsimp only
  rw [if_pos hv, read8_snd _ (by decide)]

/-- `n` pops of a lane that holds the entries of the next `n` seeds take them off,
all matching. -/
theorem fifoPopBytes_chip (rst : ChipReset) {c7 : BitVec 8} (hc7 : c7.getLsbD 3 = false)
    {lane : Nat} (rest : List (Bool × BitVec 8)) (n : Nat) : ∀ (cbyte : Nat) (p : FifoPop DmaFifoChip),
    p.dev.fbl2 = true → p.dev.lane = lane → p.dev.lanes lane = laneEntries c7 p.seed n ++ rest →
    ∃ par : Bool, fifoPopBytes (dmaFifoBus rst) lane (List.range' cbyte n) p =
        { p with seed := rand32^[n] p.seed
                 dev := { p.dev with lanes := Function.update p.dev.lanes lane rest
                                     parity := par } } := by
  induction n with
  | zero =>
    intro _ p _ _ hq
    have hrest : Function.update p.dev.lanes lane rest = p.dev.lanes := by
      rw [show rest = p.dev.lanes lane by rw [hq]; rfl, Function.update_eq_self]
    exact ⟨p.dev.parity, by rw [List.range'_zero, fifoPopBytes_nil, hrest]; rfl⟩
  | succ n ih =>
    intro cbyte p hf hl hq
    rw [List.range'_succ, fifoPopBytes_cons,
      fifoPopByte_chip rst hc7 cbyte p hf hl (by rw [hq, laneEntries, List.cons_append])]
    obtain ⟨par, he⟩ := ih (cbyte + 1)
      { p with seed := rand32 p.seed
               dev := { p.dev with lanes := Function.update p.dev.lanes lane
                                              (laneEntries c7 (rand32 p.seed) n ++ rest)
                                   parity := (pushPvalue c7 (rand32 p.seed)).getLsbD 3 } }
      hf hl (by simp)
    exact ⟨par, by rw [he, Function.iterate_succ_apply]; simp only [Function.update_idem]⟩

/-- The pop loop empties lane after lane without a mismatch. -/
theorem fifoPopLanes_chip (rst : ChipReset) (c4 : BitVec 8) {c7 : BitVec 8}
    (hc7 : c7.getLsbD 3 = false) (n : Nat) : ∀ (j : Nat) (p : FifoPop DmaFifoChip), j + n = 4 →
    p.dev.lanes = laneContents c7 j 4 → p.seed = rand32^[ncrFifoSize * j] fifoSeed →
    ∃ (count : Nat) (c' : DmaFifoChip), c'.lanes = laneContents c7 4 4 ∧
      fifoPopLanes (dmaFifoBus rst) c4 (List.range' j n) p =
        ⟨p.rc, count, rand32^[ncrFifoSize * 4] fifoSeed, c', p.reports⟩ := by
  induction n with
  | zero =>
    intro j p hj hc hs
    obtain rfl : j = 4 := by omega
    exact ⟨p.count, p.dev, hc, by rw [fifoPopLanes, List.range'_zero, List.foldl_nil, ← hs]⟩
  | succ n ih =>
    intro j p hj hc hs
    have hsel : p.dev.write8 rst regCtest4 (laneSelect c4 j) =
        { p.dev with regs := Function.update p.dev.regs regCtest4 (laneSelect c4 j) } :=
      write8_of_ne _ _ _ (by decide) (by decide)
    have hlj : p.dev.lanes j = laneEntries c7 p.seed ncrFifoSize ++ [] := by
      rw [hc, hs, List.append_nil]; simp [laneContents]; omega
    rw [fifoPopLanes, List.range'_succ, List.foldl_cons, fifoPopLane, List.range_eq_range']
    obtain ⟨par, he⟩ := @fifoPopBytes_chip rst c7 hc7 j [] ncrFifoSize 0
      { p with count := 0, dev := (dmaFifoBus rst).write8 regCtest4 (laneSelect c4 j) p.dev }
      (by rw [bus_write8, hsel]; exact select_fbl2 _ c4 j)
      (by rw [bus_write8, hsel]; exact select_lane _ c4 (by omega)) (by rw [bus_write8, hsel]; exact hlj)
    rw [he]
    have hnext : Function.update p.dev.lanes j [] = laneContents c7 (j + 1) 4 := by
      funext i
      by_cases hi : i = j
      · subst hi; simp [laneContents]
      · rw [Function.update_noteq hi, hc]; simp only [laneContents]
        congr 1; apply propext; omega
    refine ih (j + 1) _ (by omega) ?_ ?_
    · dsimp only
      rw [bus_write8, hsel]
      exact hnext
    · dsimp only
      rw [hs, ← Function.iterate_add_apply]
      congr 1
      unfold ncrFifoSize
      omega

/-- From the pop loop on, a full chip holding the test's sequence leaves `rc` and
the reports as they were. -/
theorem fifoUnload_chip (rst : ChipReset) (name : String) (c4 : BitVec 8) {c7 : BitVec 8}
    (hc7 : c7.getLsbD 3 = false) (p : FifoPop DmaFifoChip) (hc : p.dev.lanes = laneContents c7 0 4) :
    (fifoUnload name (dmaFifoBus rst) c4 p).rc = p.rc ∧
      (fifoUnload name (dmaFifoBus rst) c4 p).reports = p.reports := by
  obtain ⟨count, c', hc', he⟩ := fifoPopLanes_chip rst c4 hc7 4 0 { p with seed := fifoSeed } rfl hc
    (by rw [Nat.mul_zero, Function.iterate_zero_apply])
  rw [← List.range_eq_range'] at he
  have e1 : c'.read8 regCtest1 = (0xf0, c') := by
    rw [read8_ctest1, ctest1_empty _ fun i hi => by rw [hc', laneContents_empty _ _ (by omega)]]
  simp only [fifoUnload, fifoRestore, he, bus_read8, e1]
  simp

/-- From the check that the FIFO holds data on, likewise. -/
theorem fifoFullCheck_chip (rst : ChipReset) (name : String) (runtimeFlags : BitVec 32)
    (c4 : BitVec 8) {c7 : BitVec 8} (hc7 : c7.getLsbD 3 = false) (rc : Nat)
    (reports : List FifoReport) (c : DmaFifoChip) (hc : c.lanes = laneContents c7 0 4) :
    (fifoFullCheck name (dmaFifoBus rst) runtimeFlags c4 rc reports c).rc = rc ∧
      (fifoFullCheck name (dmaFifoBus rst) runtimeFlags c4 rc reports c).reports = reports := by
  have e2 : ((c.read8 regDstat).1 &&& regDstatDfe ≠ 0) = False := by
    rw [ne_eq, read8_dstat_dfe]
    simp [empty_eq, hc, laneContents, laneEntries, ncrFifoSize]
    exact ⟨0, by omega⟩
  have e1 : c.read8 regCtest1 = (0x0f, c) := by
    rw [read8_ctest1, ctest1_full _ fun i hi => by rw [hc, laneContents_length _ hi]]
  have e3 : (c.read8 regDstat).2 = c := read8_snd _ (by decide)
  simp only [fifoFullCheck, bus_read8, e2, e3, e1]
  simp only [if_false, if_true, not_true_eq_false, false_and, List.append_nil]
  exact fifoUnload_chip rst name c4 hc7 ⟨rc, 0, fifoSeed, c, reports⟩ hc

/-- On the 53C710's DMA FIFO the FIFO test passes: from any state of the chip, for
any effect of a chip reset on the other registers, and under any runtime flags, it
prints nothing and returns 0. -/
theorem fifoTest_chip (rst : ChipReset) (name : String) (runtimeFlags : BitVec 32)
    (c : DmaFifoChip) :
    (fifoTest name (dmaFifoBus rst) runtimeFlags c).rc = 0 ∧
      (fifoTest name (dmaFifoBus rst) runtimeFlags c).reports = [] := by
  have hl0 := a4091ResetOn_lanes rst c
  simp only [fifoTest, bus_read8]
  generalize a4091ResetOn (dmaFifoBus rst) c = c0 at hl0 ⊢
  have hc7 : (c0.regs regCtest7 &&& ~~~0x08).getLsbD 3 = false := by simp
  have e1 : c0.read8 regCtest1 = (0xf0, c0) := by
    rw [read8_ctest1, ctest1_empty _ fun i _ => by rw [hl0]]
  have e2 : ((c0.read8 regDstat).1 &&& regDstatDfe = 0) = False := by
    rw [read8_dstat_dfe]; simp [empty_eq, hl0]
  have e3 : (c0.read8 regDstat).2 = c0 := read8_snd c0 (by decide)
  have e4 : c0.read8 regCtest4 = (c0.regs regCtest4, c0) :=
    read8_plain c0 (by decide) (by decide) (by decide) (by decide)
  have e7 : c0.read8 regCtest7 = (c0.regs regCtest7, c0) :=
    read8_plain c0 (by decide) (by decide) (by decide) (by decide)
  obtain ⟨c1, hc1, hpush⟩ := fifoPushLanes_chip rst (c0.regs regCtest4)
    (c0.regs regCtest7 &&& ~~~0x08) 4 0 c0 (by omega)
    (by rw [hl0]; funext i; rw [laneContents, if_neg (by omega)])
  rw [Nat.mul_zero, Function.iterate_zero_apply, ← List.range_eq_range'] at hpush
  simp only [e1, e2, e3, e4, e7, hpush]
  simp only [ne_eq, not_true_eq_false, false_and, if_false, if_true, List.nil_append]
  exact fifoFullCheck_chip rst name runtimeFlags _ hc7 0 [] c1 hc1

/-- Both FIFO tests pass on the 53C710's DMA FIFO: from any state of the chip, for any
effect of a chip reset, under any runtime flags and on any interrupt chain, they print
nothing and return 0. -/
theorem fifoTests_chip (rst : ChipReset) (runtimeFlags : BitVec 32) (chain : List Interrupt)
    (c : DmaFifoChip) :
    (testDmaFifo (dmaFifoBus rst) runtimeFlags chain c).rc = 0 ∧
      (testDmaFifo (dmaFifoBus rst) runtimeFlags chain c).reports = [] ∧
      (testScsiFifo (dmaFifoBus rst) runtimeFlags c).rc = 0 ∧
      (testScsiFifo (dmaFifoBus rst) runtimeFlags c).reports = [] := by
  refine ⟨?_, ?_, fifoTest_chip rst _ runtimeFlags c⟩ <;> unfold testDmaFifo <;> split
  exacts [rfl, (fifoTest_chip rst _ runtimeFlags c).1, rfl, (fifoTest_chip rst _ runtimeFlags c).2]

end A4091
