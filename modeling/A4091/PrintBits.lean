import A4091.Ncr53c710

/-!
# A4091 — `print_bits` and the naming vectors it reads

`print_bits(bits, value)` prints `bits[bit]` for every set bit of `value`; it has no
length for `bits`, so a set bit past the end of the vector is a read past it. The
callers pass their masks with their vectors: `decode_registers` the value of each
register that has a `bits_*` vector (eight names, one-byte registers only),
`test_register_access` its 32-bit masks with the 32 `data_pins`, and the two walks of
`test_scsi_pins` their masks with the 9 `scsi_data_pins` and the 8
`scsi_control_pins`.

Both walks of `test_scsi_pins` start at `bit = -1` and drive `BIT(bit)`, so their first
step evaluates `1 << -1`, a shift by a negative count, which C leaves undefined. The
model takes the value the compiled code gives it as a parameter `neg`. The data walk
keeps `dout` in a 32-bit `uint`: what `neg` sets above bit 8 survives into `diff`
whenever the byte read back matches, and `print_bits` then reads `scsi_data_pins`
past its nine names.

What the reads return is the board's business: every read is a free parameter.

## Results

* `printBits_eq_none_iff` — `print_bits` reads past its vector exactly when `value` has
  a set bit at or past the vector's length.
* `decodeRegisters_isSome` — `decode_registers` stays in its vectors for every read.
* `pinLoop_inv` — the run lemma both walks share: a property every step keeps holds
  over the 18 steps.
* `dataPinWalk_isSome`, `controlPinWalk_isSome` — the walks stay in their vectors for
  every read while `neg` has no bit above bit 8; the control walk for every `neg`.
* `dataPinWalk_eq_none` — for a `neg` with a bit above bit 8, a read of SBDL that
  matches the driven byte sends the first step's `print_bits` past `scsi_data_pins`.
* `printBits_in_bounds` — every call site at once: `decode_registers`,
  `test_register_access` and the control walk for every read, and `test_scsi_pins`
  for every read exactly when `neg < 2 ^ 9`.
-/

namespace A4091

-- ---------------------------------------------------------------------------
-- `print_bits`
-- ---------------------------------------------------------------------------

/-- The loop of `print_bits(bits, value)`, `for (bit = 0; value != 0; value >>= 1, bit++)`,
from bit number `bit` on with `fuel` rounds: the names of the set bits, or `none` where
it reads `bits` past its end. -/
def printBitsLoop (bits : List String) : Nat → BitVec 32 → Nat → Option (List String)
  | 0, _, _ => some []
  | fuel + 1, value, bit =>
    if value = 0 then some []
    else
      let here := if value &&& 1 ≠ 0 then bits[bit]?.map fun name => [name] else some []
      here.bind fun names => (printBitsLoop bits fuel (value >>> 1) (bit + 1)).map (names ++ ·)

/-- `print_bits(bits, value)`: 32 rounds of `value >>= 1` leave a `uint` zero. -/
def printBits (bits : List String) (value : BitVec 32) : Option (List String) :=
  printBitsLoop bits 32 value 0

-- ---------------------------------------------------------------------------
-- `decode_registers`
-- ---------------------------------------------------------------------------

def bitsScntl0 : List String := ["TRG", "AAP", "EPG", "EPC", "WATN/", "START", "ARB0", "ARB1"]
def bitsScntl1 : List String := ["RES0", "RES1", "AESP", "RST", "CON", "FSR", "ADB", "EXC"]
def bitsSien : List String := ["PAR", "RST/", "UDC", "SGE", "SEL", "STO", "FCMP", "M/A"]
def bitsSbcl : List String := ["I/O", "C/D", "MSG", "ATN", "SEL", "BSY", "ACK", "REQ"]
def bitsDstat : List String := ["IID", "WTD", "SIR", "SSI", "ABRT", "RF", "RES6", "DFE"]
def bitsSstat0 : List String := ["PAR", "RST/", "UDC", "SGE", "SEL", "STO", "FCMP", "M/A"]
def bitsSstat1 : List String := ["SDP/", "RST/", "WOA", "LOA", "AIP", "OLF", "ORF", "ILF"]
def bitsSstat2 : List String := ["I/O", "C/D", "MSG", "SDP", "FF0", "FF1", "FF2", "FF3"]
def bitsCtest0 : List String := ["DDIR", "RES1", "ERF", "HSC", "EAN", "GRP", "BTD", "RES7"]
def bitsCtest2 : List String := ["DACK", "DREQ", "TEOP", "DFP", "SFP", "SOFF", "SIGP", "RES7"]
def bitsCtest4 : List String := ["FBL0", "FBL1", "FBL2", "SFWR", "SLBE", "SZM", "ZMOD", "MUX"]
def bitsCtest5 : List String := ["DACK", "DREQ", "EOP", "DDIR", "MASR", "ROFF", "BBCK", "ADCK"]
def bitsCtest7 : List String := ["DIFF", "TT1", "EVP", "DFP", "NOTIME", "SC0", "SC1", "CDIS"]
def bitsIstat : List String := ["DIP", "SIP", "RSV2", "CON", "RSV4", "SIOP", "RST", "ABRT"]
def bitsCtest8 : List String := ["SM", "FM", "CLF", "FLF", "V0", "V1", "V2", "V3"]
def bitsDmode : List String := ["MAN", "U0", "FAM", "PD", "FC1", "FC2", "BL0", "BL1"]
def bitsDien : List String := ["HD", "WTD", "SIR", "SSI", "ABRT", "BF", "RES6", "RES7"]
def bitsDcntl : List String := ["COM", "FA", "STD", "LLM", "SSM", "EA", "CF0", "CF1"]

/-- An entry of `ncr_regdefs[]`; `regShow` is its `show` field, `regBits` its
`reg_bits` (`none` for NULL). -/
structure NcrRegdef where
  regLoc : Nat
  regSize : Nat
  regShow : Bool
  regName : String
  regDesc : String
  regBits : Option (List String)
  deriving DecidableEq, Repr

/-- `ncr_regdefs[]`. -/
def ncrRegdefs : List NcrRegdef := [
  ⟨0x03, 1, true, "SCNTL0", "SCSI control 0", some bitsScntl0⟩,
  ⟨0x02, 1, true, "SCNTL1", "SCSI control 1", some bitsScntl1⟩,
  ⟨0x01, 1, true, "SDID", "SCSI destination ID", none⟩,
  ⟨0x00, 1, true, "SIEN", "SCSI IRQ enable", some bitsSien⟩,
  ⟨0x07, 1, true, "SCID", "SCSI chip ID", none⟩,
  ⟨0x06, 1, true, "SXFER", "SCSI transfer", none⟩,
  ⟨0x05, 1, true, "SODL", "SCSI output data latch", none⟩,
  ⟨0x04, 1, true, "SOCL", "SCSI output control latch", some bitsSbcl⟩,
  ⟨0x0b, 1, true, "SFBR", "SCSI first byte received", none⟩,
  ⟨0x0a, 1, true, "SIDL", "SCSI input data latch", none⟩,
  ⟨0x09, 1, true, "SBDL", "SCSI bus data lines", none⟩,
  ⟨0x08, 1, true, "SBCL", "SCSI bus contol lines", some bitsSbcl⟩,
  ⟨0x0f, 1, true, "DSTAT", "DMA status", some bitsDstat⟩,
  ⟨0x0e, 1, true, "SSTAT0", "SCSI status 0", some bitsSstat0⟩,
  ⟨0x0d, 1, true, "SSTAT1", "SCSI status 1", some bitsSstat1⟩,
  ⟨0x0c, 1, true, "SSTAT2", "SCSI status 2", some bitsSstat2⟩,
  ⟨0x10, 4, true, "DSA", "Data structure address", none⟩,
  ⟨0x17, 1, true, "CTEST0", "Chip test 0", some bitsCtest0⟩,
  ⟨0x16, 1, true, "CTEST1", "Chip test 1 7-4=FIFO_Empty 3-0=FIFO_Full", none⟩,
  ⟨0x15, 1, true, "CTEST2", "Chip test 2", some bitsCtest2⟩,
  ⟨0x14, 1, false, "CTEST3", "Chip test 3 SCSI FIFO", none⟩,
  ⟨0x1b, 1, true, "CTEST4", "Chip test 4", some bitsCtest4⟩,
  ⟨0x1a, 1, true, "CTEST5", "Chip test 5", some bitsCtest5⟩,
  ⟨0x19, 1, false, "CTEST6", "Chip test 6 DMA FIFO", none⟩,
  ⟨0x18, 1, true, "CTEST7", "Chip test 7", some bitsCtest7⟩,
  ⟨0x1c, 4, true, "TEMP", "Temporary Stack", none⟩,
  ⟨0x23, 1, true, "DFIFO", "DMA FIFO", none⟩,
  ⟨0x22, 1, true, "ISTAT", "Interrupt Status", some bitsIstat⟩,
  ⟨0x21, 1, true, "CTEST8", "Chip test 8", some bitsCtest8⟩,
  ⟨0x20, 1, true, "LCRC", "Longitudinal parity", none⟩,
  ⟨0x25, 3, true, "DBC", "DMA byte counter", none⟩,
  ⟨0x24, 1, true, "DCMD", "DMA command", none⟩,
  ⟨0x28, 4, true, "DNAD", "DMA next address for data", none⟩,
  ⟨0x2c, 4, true, "DSP", "DMA SCRIPTS pointer", none⟩,
  ⟨0x30, 4, true, "DSPS", "DMA SCRIPTS pointer save", none⟩,
  ⟨0x34, 4, true, "SCRATCH", "General purpose scratch pad", none⟩,
  ⟨0x3b, 1, true, "DMODE", "DMA mode", some bitsDmode⟩,
  ⟨0x3a, 1, true, "DIEN", "DMA interrupt enable", some bitsDien⟩,
  ⟨0x39, 1, true, "DWT", "DMA watchdog timer", none⟩,
  ⟨0x38, 1, true, "DCNTL", "DMA control", some bitsDcntl⟩,
  ⟨0x3c, 4, true, "ADDER", "Sum output of internal adder", none⟩]

/-- The value `decode_registers` shows for a register: `get_ncrreg8(reg_loc)` for a
one-byte register, otherwise `get_ncrreg32(reg_loc & ~3)` with the bytes before the
register masked off, `& (0xffffffff >> ((reg_loc & 3) * 8))`. -/
def regValue (read8 : Nat → BitVec 8) (read32 : Nat → BitVec 32) (r : NcrRegdef) : BitVec 32 :=
  if r.regSize = 1 then (read8 r.regLoc).setWidth 32
  else read32 (r.regLoc - r.regLoc % 4) &&& 0xffffffff >>> (r.regLoc % 4 * 8)

/-- A row `decode_registers` prints: the register's location, the value read, its name
and description, and the names of the value's set bits. -/
structure RegRow where
  regLoc : Nat
  value : BitVec 32
  regName : String
  regDesc : String
  bitNames : List String
  deriving DecidableEq, Repr

/-- The row of one register, with `print_bits` when it has a `bits_*` vector. -/
def decodeRegister (read8 : Nat → BitVec 8) (read32 : Nat → BitVec 32) (r : NcrRegdef) :
    Option RegRow :=
  let value := regValue read8 read32 r
  let bitNames := match r.regBits with
    | some bits => printBits bits value
    | none => some []
  bitNames.map fun names => ⟨r.regLoc, value, r.regName, r.regDesc, names⟩

/-- `decode_registers()`: a row for every register whose `show` is set. -/
def decodeRegisters (read8 : Nat → BitVec 8) (read32 : Nat → BitVec 32) : Option (List RegRow) :=
  (ncrRegdefs.filter (·.regShow)).mapM (decodeRegister read8 read32)

-- ---------------------------------------------------------------------------
-- The naming vectors of the tests
-- ---------------------------------------------------------------------------

/-- `data_pins[]`, the 32 data lines `test_register_access` names. -/
def dataPins : List String := [
  "D0", "D1", "D2", "D3", "D4", "D5", "D6", "D7",
  "D8", "D9", "D10", "D11", "D12", "D13", "D14", "D15",
  "D16", "D17", "D18", "D19", "D20", "D21", "D22", "D23",
  "D24", "D25", "D26", "D27", "D28", "D29", "D30", "D31"]

/-- `scsi_data_pins[]`: the eight SCSI data lines and parity. -/
def scsiDataPins : List String := [
  "SCDAT0", "SCDAT1", "SCDAT2", "SCDAT3",
  "SCDAT4", "SCDAT5", "SCDAT6", "SCDAT7",
  "SCDATP"]

/-- `scsi_control_pins[]`. -/
def scsiControlPins : List String := [
  "SCTRL_IO", "SCTRL_CD", "SCTRL_MSG", "SCTRL_ATN",
  "SCTRL_SEL", "SCTRL_BSY", "SCTRL_ACK", "SCTRL_REQ"]

-- ---------------------------------------------------------------------------
-- The pin walks of `test_scsi_pins`
-- ---------------------------------------------------------------------------

/-- `calc_parity(data)`: 1 when `data` has an even number of set bits. -/
def calcParity (data : BitVec 8) : BitVec 8 :=
  let data := data ^^^ data >>> 4
  let data := data ^^^ data >>> 2
  let data := data ^^^ data >>> 1
  if data &&& 1 = 0 then 1 else 0

/-- `BIT(bit)` as the walks evaluate it for `bit` from `-1` to `7`. `BIT(-1)` is
`1 << -1`, a shift by a negative count, which C leaves undefined; `neg` is the value
the compiled walk gives it. -/
def walkBit (neg : BitVec 32) (bit : Int) : BitVec 32 :=
  if bit < 0 then neg else (1 : BitVec 32) <<< bit.toNat

/-- The steps of `for (pass = 0; pass < 2; pass++) for (bit = -1; bit < 8; bit++)`. -/
def walkSteps : List (Nat × Int) :=
  [0, 1].flatMap fun pass => [-1, 0, 1, 2, 3, 4, 5, 6, 7].map fun bit => (pass, bit)

/-- The variables of a pin walk, `w` bits wide, with the names `print_bits` has
printed so far. -/
structure PinWalk (w : Nat) where
  stuckHigh : BitVec w
  stuckLow : BitVec w
  pinsDiff : BitVec w
  rc : Nat
  printed : List (List String)
  deriving DecidableEq, Repr

/-- The end of a step that read `din` against `dout` with difference `diff`: the
masks take the read in, and a wrong read counts in `rc` and has its pins printed
while `rc <= 8`. -/
def pinRecord {w : Nat} (pins : List String) (din diff : BitVec w) (s : PinWalk w) :
    Option (PinWalk w) :=
  let stuckHigh := s.stuckHigh &&& din
  let stuckLow := s.stuckLow &&& ~~~din
  if diff ≠ 0 then
    let rc := s.rc + 1
    if rc ≤ 8 then
      (printBits pins (diff.setWidth 32)).map fun names =>
        ⟨stuckHigh, stuckLow, s.pinsDiff ||| diff, rc, s.printed ++ [names]⟩
    else some ⟨stuckHigh, stuckLow, s.pinsDiff ||| diff, rc, s.printed⟩
  else some ⟨stuckHigh, stuckLow, s.pinsDiff, s.rc, s.printed⟩

/-- The pattern the data walk expects back: `BIT(bit)`, complemented to a byte in
pass 1, with the expected parity `calc_parity(dout)` in bit 8; a `uint`. -/
def dataPinDout (neg : BitVec 32) (pass : Nat) (bit : Int) : BitVec 32 :=
  let dout := walkBit neg bit
  let dout := if pass = 1 then ((~~~dout).setWidth 8).setWidth 32 else dout
  dout ||| (calcParity (dout.setWidth 8)).setWidth 32 <<< 8

/-- What the data walk reads back: SBDL, with the PAR bit of SSTAT1 in bit 8. -/
def dataPinDin (sbdl sstat1 : BitVec 8) : BitVec 32 :=
  sbdl.setWidth 32 ||| (sstat1 &&& regSstat1Par).setWidth 32 <<< 8

/-- `diff = din ^ dout`, with parity ignored when another bit differs. -/
def dataPinDiff (din dout : BitVec 32) : BitVec 32 :=
  let diff := din ^^^ dout
  if diff &&& 0xff ≠ 0 then diff &&& 0xff else diff

/-- One step of the data walk: drive `dout` on SODL, read SBDL (`sbdl`) and SSTAT1
(`sstat1`), and record the read. -/
def dataPinStep (neg : BitVec 32) (sbdl sstat1 : BitVec 8) (pass : Nat) (bit : Int)
    (s : PinWalk 32) : Option (PinWalk 32) :=
  let din := dataPinDin sbdl sstat1
  pinRecord scsiDataPins din (dataPinDiff din (dataPinDout neg pass bit)) s

/-- The pattern the control walk drives: `BIT(bit)` as a `uint8_t`, complemented in
pass 1. -/
def controlPinDout (neg : BitVec 32) (pass : Nat) (bit : Int) : BitVec 8 :=
  let dout : BitVec 8 := (walkBit neg bit).setWidth 8
  if pass = 1 then ~~~dout else dout

/-- One step of the control walk: drive `dout` on SOCL and read SBCL (`sbcl`); the
patterns `0x80`, `0x40`, `0xf7` and those with SCTRL_SEL are skipped. -/
def controlPinStep (neg : BitVec 32) (sbcl : BitVec 8) (pass : Nat) (bit : Int)
    (s : PinWalk 8) : Option (PinWalk 8) :=
  let dout := controlPinDout neg pass bit
  if dout = 0x80 ∨ dout = 0x40 ∨ dout = 0xf7 ∨ dout &&& 8 ≠ 0 then some s
  else pinRecord scsiControlPins sbcl (sbcl ^^^ dout) s

/-- The walk's loops over its steps from step number `k` on; `step k pass bit` is
step `k`, with the reads it makes. -/
def pinLoop {w : Nat} (step : Nat → Nat → Int → PinWalk w → Option (PinWalk w)) :
    Nat → List (Nat × Int) → PinWalk w → Option (PinWalk w)
  | _, [], s => some s
  | k, (pass, bit) :: steps, s => (step k pass bit s).bind (pinLoop step (k + 1) steps)

/-- A mask reported after a walk, with its pin names, when it is not zero. -/
def reportMask (pins : List String) (mask : BitVec 32) : Option (List (List String)) :=
  if mask ≠ 0 then (printBits pins mask).map fun names => [names] else some []

/-- The reports after a walk: stuck pins of each kind, then the floating or bridged
ones. -/
def pinReport (pins : List String) (stuckHigh stuckLow pinsDiff : BitVec 32) :
    Option (List (List String)) := do
  let high ← reportMask pins stuckHigh
  let low ← reportMask pins stuckLow
  let diff ← reportMask pins pinsDiff
  return high ++ low ++ diff

/-- The data walk of `test_scsi_pins` from the `rc` of the checks before it, with the
reads of SBDL and SSTAT1 at each step; then `pins_diff &= ~(stuck_high | stuck_low)`
and the reports. -/
def dataPinWalk (neg : BitVec 32) (sbdl sstat1 : Nat → BitVec 8) (rc : Nat) :
    Option (PinWalk 32) := do
  let s ← pinLoop (fun k => dataPinStep neg (sbdl k) (sstat1 k)) 0 walkSteps
    ⟨0x1ff, 0x1ff, 0, rc, []⟩
  let pinsDiff := s.pinsDiff &&& ~~~(s.stuckHigh ||| s.stuckLow)
  let report ← pinReport scsiDataPins s.stuckHigh s.stuckLow pinsDiff
  return { s with pinsDiff, printed := s.printed ++ report }

/-- The control walk of `test_scsi_pins`, with the reads of SBCL at each step; then
`stuck_low &= ~(BIT(3) | BIT(6) | BIT(7))`, `pins_diff &= ~(stuck_high | stuck_low)`
and the reports. -/
def controlPinWalk (neg : BitVec 32) (sbcl : Nat → BitVec 8) (rc : Nat) : Option (PinWalk 8) := do
  let s ← pinLoop (fun k => controlPinStep neg (sbcl k)) 0 walkSteps ⟨0xff, 0xff, 0, rc, []⟩
  let stuckLow := s.stuckLow &&& ~~~(8 ||| 0x40 ||| 0x80)
  let pinsDiff := s.pinsDiff &&& ~~~(s.stuckHigh ||| stuckLow)
  let report ← pinReport scsiControlPins (s.stuckHigh.setWidth 32) (stuckLow.setWidth 32)
    (pinsDiff.setWidth 32)
  return { s with stuckLow, pinsDiff, printed := s.printed ++ report }

/-- What `test_scsi_pins` reads: SBDL and SBCL for the termination-power check, SSTAT1
before and after asserting SCSI reset, and the reads of each walk step. -/
structure ScsiPinReads where
  sbdl : BitVec 8
  sbcl : BitVec 8
  sstat1 : BitVec 8
  sstat1Reset : BitVec 8
  dataSbdl : Nat → BitVec 8
  dataSstat1 : Nat → BitVec 8
  controlSbcl : Nat → BitVec 8

/-- `test_scsi_pins()`: its `rc` and the names `print_bits` printed, or `none` where
`print_bits` reads past a vector. It returns early when all pins read low or the bus
is stuck in reset. -/
def testScsiPins (neg : BitVec 32) (r : ScsiPinReads) : Option (Nat × List (List String)) :=
  if (r.sbcl ||| 0x20) = 0xff ∧ r.sbdl = 0xff then some (1, [])
  else if r.sstat1 &&& regSstat1Rst ≠ 0 then some (1, [])
  else do
    let rc := if r.sstat1Reset &&& regSstat1Rst = 0 then 1 else 0
    let d ← dataPinWalk neg r.dataSbdl r.dataSstat1 rc
    let c ← controlPinWalk neg r.controlSbcl d.rc
    return (c.rc, d.printed ++ c.printed)

-- ---------------------------------------------------------------------------
-- What `print_bits` reads
-- ---------------------------------------------------------------------------

/-- `value & 1` tests bit 0. -/
theorem and_one_ne_zero_iff (value : BitVec 32) : value &&& 1 ≠ 0 ↔ value.getLsbD 0 = true := by
  rw [Ne, BitVec.toNat_eq, BitVec.toNat_and, ← BitVec.testBit_toNat, Nat.testBit_zero]
  simp [Nat.and_one_is_mod]

/-- A step that goes on only when both its parts do. -/
theorem bind_map_eq_none {α β γ : Type} {A : Option α} {B : Option β} {f : α → β → γ} :
    (A.bind fun a => B.map (f a)) = none ↔ A = none ∨ B = none := by
  cases A <;> cases B <;> simp

theorem bind_isSome {α β : Type} {x : Option α} {f : α → Option β} (hx : x.isSome)
    (hf : ∀ a, (f a).isSome) : (x >>= f).isSome := by
  obtain ⟨a, rfl⟩ := Option.isSome_iff_exists.mp hx
  exact hf a

theorem bind_isSome_of_eq {α β : Type} {x : Option α} {f : α → Option β} {a : α}
    (hx : x = some a) (hf : (f a).isSome) : (x >>= f).isSome := by
  rw [hx]
  exact hf

/-- The loop reads past `bits` exactly when one of the `fuel` bits it looks at is set
and numbered at or past the end of `bits`. -/
theorem printBitsLoop_eq_none_iff (bits : List String) :
    ∀ (fuel : Nat) (value : BitVec 32) (bit : Nat),
      printBitsLoop bits fuel value bit = none ↔
        ∃ i, i < fuel ∧ value.getLsbD i = true ∧ bits.length ≤ bit + i
  | 0, _, _ => by simp [printBitsLoop]
  | fuel + 1, value, bit => by
    rw [printBitsLoop, Nat.exists_lt_succ_left]
    by_cases hv : value = 0
    · simp [hv]
    · have hhere : (if value &&& 1 ≠ 0 then bits[bit]?.map fun name => [name] else some []) = none ↔
          value.getLsbD 0 = true ∧ bits.length ≤ bit + 0 := by
        rw [← and_one_ne_zero_iff, Nat.add_zero]
        by_cases h : value &&& 1 ≠ 0
        · rw [if_pos h, Option.map_eq_none', List.getElem?_eq_none_iff]
          exact ⟨fun hl => ⟨h, hl⟩, And.right⟩
        · rw [if_neg h]
          exact ⟨nofun, fun hc => absurd hc.1 h⟩
      have hrest := printBitsLoop_eq_none_iff bits fuel (value >>> 1) (bit + 1)
      simp only [BitVec.getLsbD_ushiftRight, Nat.add_comm 1, Nat.add_assoc] at hrest
      rw [if_neg hv]
      exact bind_map_eq_none.trans (or_congr hhere hrest)

/-- `print_bits(bits, value)` reads past `bits` exactly when `value` has a set bit
numbered at or past the length of `bits`. -/
theorem printBits_eq_none_iff (bits : List String) (value : BitVec 32) :
    printBits bits value = none ↔ ∃ i, value.getLsbD i = true ∧ bits.length ≤ i := by
  rw [printBits, printBitsLoop_eq_none_iff]
  simp only [Nat.zero_add]
  exact ⟨fun ⟨i, _, h⟩ => ⟨i, h⟩, fun ⟨i, h⟩ => ⟨i, BitVec.lt_of_getLsbD h.1, h⟩⟩

/-- A value below `2 ^ bits.length` is printed within `bits`. -/
theorem printBits_isSome_of_lt (bits : List String) {value : BitVec 32}
    (h : value.toNat < 2 ^ bits.length) : (printBits bits value).isSome := by
  refine Option.ne_none_iff_isSome.mp fun hn => ?_
  obtain ⟨i, hi, hl⟩ := (printBits_eq_none_iff bits value).mp hn
  rw [← BitVec.testBit_toNat, Nat.testBit_lt_two_pow
    (lt_of_lt_of_le h (Nat.pow_le_pow_right Nat.two_pos hl))] at hi
  cases hi

-- ---------------------------------------------------------------------------
-- `decode_registers` and `test_register_access`
-- ---------------------------------------------------------------------------

/-- Every register of `ncr_regdefs[]` with a `bits_*` vector is a one-byte register,
and every such vector names eight bits. -/
theorem ncrRegdefs_bits_byte :
    ∀ r ∈ ncrRegdefs, ∀ bits ∈ r.regBits, r.regSize = 1 ∧ bits.length = 8 := by
  decide

theorem mapM_isSome {α β : Type} {f : α → Option β} :
    ∀ {l : List α}, (∀ a ∈ l, (f a).isSome) → (l.mapM f).isSome
  | [], _ => rfl
  | a :: l, h => by
    rw [List.mapM_cons]
    exact bind_isSome (h a (List.mem_cons_self _ _)) fun _ =>
      bind_isSome (mapM_isSome fun x hx => h x (List.mem_cons_of_mem _ hx)) fun _ => rfl

/-- The row of a register of the table stays in its vector: a register with one is
read with `get_ncrreg8`. -/
theorem decodeRegister_isSome (read8 : Nat → BitVec 8) (read32 : Nat → BitVec 32)
    {r : NcrRegdef} (hr : r ∈ ncrRegdefs) : (decodeRegister read8 read32 r).isSome := by
  unfold decodeRegister
  rw [Option.isSome_map']
  split
  case h_1 bits hbits =>
    obtain ⟨hsize, hlen⟩ := ncrRegdefs_bits_byte r hr bits hbits
    apply printBits_isSome_of_lt
    rw [hlen, regValue, if_pos hsize, BitVec.toNat_setWidth]
    exact lt_of_le_of_lt (Nat.mod_le _ _) (read8 r.regLoc).isLt
  case h_2 => rfl

/-- `decode_registers` never reads a `bits_*` vector past its end, whatever the
registers read. -/
theorem decodeRegisters_isSome (read8 : Nat → BitVec 8) (read32 : Nat → BitVec 32) :
    (decodeRegisters read8 read32).isSome :=
  mapM_isSome fun _ hr => decodeRegister_isSome read8 read32 (List.mem_filter.mp hr).1

-- ---------------------------------------------------------------------------
-- Both walks
-- ---------------------------------------------------------------------------

/-- The masks of a walk stay within its first `n` pins. -/
structure PinWalk.Within {w : Nat} (n : Nat) (s : PinWalk w) : Prop where
  stuckHigh : s.stuckHigh.toNat < 2 ^ n
  stuckLow : s.stuckLow.toNat < 2 ^ n
  pinsDiff : s.pinsDiff.toNat < 2 ^ n

/-- Recording a read goes through when the difference it may print lies within the
pins, and folds the read into the masks. -/
theorem pinRecord_spec {w : Nat} (pins : List String) (din diff : BitVec w) (s : PinWalk w)
    (hdiff : (diff.setWidth 32).toNat < 2 ^ pins.length) :
    ∃ s', pinRecord pins din diff s = some s' ∧ s'.stuckHigh = s.stuckHigh &&& din ∧
      s'.stuckLow = s.stuckLow &&& ~~~din ∧ s'.pinsDiff = s.pinsDiff ||| diff := by
  obtain ⟨names, hnames⟩ := Option.isSome_iff_exists.mp (printBits_isSome_of_lt pins hdiff)
  unfold pinRecord
  dsimp only
  split_ifs with hd hrc
  · exact ⟨_, by rw [hnames]; rfl, rfl, rfl, rfl⟩
  · exact ⟨_, rfl, rfl, rfl, rfl⟩
  · refine ⟨_, rfl, rfl, rfl, ?_⟩
    rw [not_not.mp hd]
    exact BitVec.or_zero.symm

/-- A read recorded with `rc` below 8 whose difference has a pin past `pins` sends
`print_bits` past `pins`. -/
theorem pinRecord_eq_none {w : Nat} (pins : List String) (din diff : BitVec w) {s : PinWalk w}
    (hd : diff ≠ 0) (hrc : s.rc < 8) (hp : printBits pins (diff.setWidth 32) = none) :
    pinRecord pins din diff s = none := by
  unfold pinRecord
  dsimp only
  rw [if_pos hd, if_pos (by omega), hp]
  rfl

/-- The run lemma of the walks: when every step of the list keeps a property and goes
through, the loop goes through and keeps it. -/
theorem pinLoop_inv {w : Nat} {step : Nat → Nat → Int → PinWalk w → Option (PinWalk w)}
    (P : PinWalk w → Prop) :
    ∀ (steps : List (Nat × Int)),
      (∀ k, ∀ x ∈ steps, ∀ s, P s → ∃ s', step k x.1 x.2 s = some s' ∧ P s') →
      ∀ (k : Nat) (s : PinWalk w), P s → ∃ s', pinLoop step k steps s = some s' ∧ P s'
  | [], _, _, s, hs => ⟨s, rfl, hs⟩
  | (pass, bit) :: steps, hstep, k, s, hs => by
    obtain ⟨s₁, h₁, hs₁⟩ := hstep k _ (List.mem_cons_self _ _) s hs
    obtain ⟨s', h', hs'⟩ :=
      pinLoop_inv P steps (fun k x hx => hstep k x (List.mem_cons_of_mem _ hx)) (k + 1) s₁ hs₁
    refine ⟨s', ?_, hs'⟩
    rw [pinLoop, h₁]
    exact h'

/-- A report stays in `pins` when its masks do. -/
theorem pinReport_isSome (pins : List String) {high low diff : BitVec 32}
    (hh : high.toNat < 2 ^ pins.length) (hl : low.toNat < 2 ^ pins.length)
    (hd : diff.toNat < 2 ^ pins.length) : (pinReport pins high low diff).isSome := by
  have hmask : ∀ {m : BitVec 32}, m.toNat < 2 ^ pins.length → (reportMask pins m).isSome :=
    fun hm => by
      unfold reportMask
      split
      · rw [Option.isSome_map']; exact printBits_isSome_of_lt pins hm
      · rfl
  exact bind_isSome (hmask hh) fun _ => bind_isSome (hmask hl) fun _ =>
    bind_isSome (hmask hd) fun _ => rfl

/-- A byte, widened to a `uint`, lies within eight pins. -/
theorem setWidth_byte_lt (x : BitVec 8) : (x.setWidth 32).toNat < 2 ^ 8 := by
  rw [BitVec.toNat_setWidth]
  exact lt_of_le_of_lt (Nat.mod_le _ _) x.isLt

/-- The control walk stays in `scsi_control_pins` for every read and every `BIT(-1)`:
it works in `uint8_t`. -/
theorem controlPinWalk_isSome (neg : BitVec 32) (sbcl : Nat → BitVec 8) (rc : Nat) :
    (controlPinWalk neg sbcl rc).isSome := by
  have hstep : ∀ k, ∀ x ∈ walkSteps, ∀ s : PinWalk 8, True →
      ∃ s', controlPinStep neg (sbcl k) x.1 x.2 s = some s' ∧ True := fun k x _ s _ => by
    unfold controlPinStep
    dsimp only
    split
    · exact ⟨s, rfl, trivial⟩
    · obtain ⟨s', h, -⟩ := pinRecord_spec scsiControlPins _ _ s (setWidth_byte_lt _)
      exact ⟨s', h, trivial⟩
  obtain ⟨s, hs, -⟩ := pinLoop_inv (fun _ => True) walkSteps hstep 0 ⟨0xff, 0xff, 0, rc, []⟩ trivial
  rw [controlPinWalk]
  exact bind_isSome_of_eq hs (bind_isSome (pinReport_isSome scsiControlPins (setWidth_byte_lt _)
    (setWidth_byte_lt _) (setWidth_byte_lt _)) fun _ => rfl)

-- ---------------------------------------------------------------------------
-- The data walk
-- ---------------------------------------------------------------------------

/-- A value of at most 1 has no bit above bit 0. -/
theorem getLsbD_of_toNat_le_one {w : Nat} {x : BitVec w} (h : x.toNat ≤ 1) {k : Nat}
    (hk : 1 ≤ k) : x.getLsbD k = false := by
  rw [← BitVec.testBit_toNat]
  exact Nat.testBit_lt_two_pow (lt_of_le_of_lt h (Nat.one_lt_two_pow (by omega)))

theorem calcParity_toNat_le (data : BitVec 8) : (calcParity data).toNat ≤ 1 := by
  simp only [calcParity]
  split <;> decide

/-- A bit of at most 1 moved to bit 8 stays within nine pins. -/
theorem bit8_lt {p : BitVec 8} (hp : p.toNat ≤ 1) : (p.setWidth 32 <<< 8).toNat < 2 ^ 9 := by
  rw [BitVec.toNat_shiftLeft, BitVec.toNat_setWidth, Nat.shiftLeft_eq]
  have : p.toNat % 2 ^ 32 ≤ 1 := le_trans (Nat.mod_le _ _) hp
  omega

/-- The walks drive bits `-1` to `7`. -/
theorem walkSteps_bit_lt : ∀ x ∈ walkSteps, x.2 < 8 := by
  decide

/-- `BIT(bit)` for a bit below 8, and `BIT(-1)` as `neg`, lie within nine pins while
`neg` does. -/
theorem walkBit_lt {neg : BitVec 32} (hneg : neg.toNat < 2 ^ 9) {bit : Int} (hbit : bit < 8) :
    (walkBit neg bit).toNat < 2 ^ 9 := by
  unfold walkBit
  split
  · exact hneg
  · rw [BitVec.toNat_shiftLeft, Nat.shiftLeft_eq]
    have hb : bit.toNat < 8 := by omega
    calc 1 % 2 ^ 32 * 2 ^ bit.toNat % 2 ^ 32 ≤ 1 % 2 ^ 32 * 2 ^ bit.toNat := Nat.mod_le _ _
      _ < 2 ^ 9 := by
        rw [Nat.one_mod_eq_one.mpr (by norm_num), Nat.one_mul]
        exact Nat.pow_lt_pow_right (by norm_num) (by omega)

theorem dataPinDout_lt {neg : BitVec 32} (hneg : neg.toNat < 2 ^ 9) (pass : Nat) {bit : Int}
    (hbit : bit < 8) : (dataPinDout neg pass bit).toNat < 2 ^ 9 := by
  unfold dataPinDout
  dsimp only
  rw [BitVec.toNat_or]
  refine Nat.or_lt_two_pow ?_ (bit8_lt (calcParity_toNat_le _))
  split
  · exact lt_trans (setWidth_byte_lt _) (by norm_num)
  · exact walkBit_lt hneg hbit

theorem dataPinDin_lt (sbdl sstat1 : BitVec 8) : (dataPinDin sbdl sstat1).toNat < 2 ^ 9 := by
  rw [dataPinDin, BitVec.toNat_or]
  refine Nat.or_lt_two_pow (lt_trans (setWidth_byte_lt _) (by norm_num)) (bit8_lt ?_)
  rw [BitVec.toNat_and]
  exact Nat.and_le_right

theorem dataPinDiff_lt {din dout : BitVec 32} (hdin : din.toNat < 2 ^ 9)
    (hdout : dout.toNat < 2 ^ 9) : (dataPinDiff din dout).toNat < 2 ^ 9 := by
  have hx : (din ^^^ dout).toNat < 2 ^ 9 := by
    rw [BitVec.toNat_xor]
    exact Nat.xor_lt_two_pow hdin hdout
  unfold dataPinDiff
  dsimp only
  split
  · rw [BitVec.toNat_and]
    exact lt_of_le_of_lt Nat.and_le_left hx
  · exact hx

/-- A data-walk step keeps the masks within the nine pins while `BIT(-1)` lies within
them, whatever it reads. -/
theorem dataPinStep_within {neg : BitVec 32} (hneg : neg.toNat < 2 ^ 9) (sbdl sstat1 : BitVec 8)
    (pass : Nat) {bit : Int} (hbit : bit < 8) {s : PinWalk 32} (hs : s.Within 9) :
    ∃ s', dataPinStep neg sbdl sstat1 pass bit s = some s' ∧ s'.Within 9 := by
  have hdiff := dataPinDiff_lt (dataPinDin_lt sbdl sstat1) (dataPinDout_lt hneg pass hbit)
  obtain ⟨s', h, hh, hl, hd⟩ := pinRecord_spec scsiDataPins (dataPinDin sbdl sstat1) _ s
    (show _ < 2 ^ 9 by rw [BitVec.toNat_setWidth]; exact lt_of_le_of_lt (Nat.mod_le _ _) hdiff)
  refine ⟨s', h, ⟨?_, ?_, ?_⟩⟩
  · rw [hh, BitVec.toNat_and]
    exact lt_of_le_of_lt Nat.and_le_left hs.stuckHigh
  · rw [hl, BitVec.toNat_and]
    exact lt_of_le_of_lt Nat.and_le_left hs.stuckLow
  · rw [hd, BitVec.toNat_or]
    exact Nat.or_lt_two_pow hs.pinsDiff hdiff

/-- The data walk stays in `scsi_data_pins` for every read while `BIT(-1)` has no bit
above bit 8. -/
theorem dataPinWalk_isSome {neg : BitVec 32} (hneg : neg.toNat < 2 ^ 9)
    (sbdl sstat1 : Nat → BitVec 8) (rc : Nat) : (dataPinWalk neg sbdl sstat1 rc).isSome := by
  obtain ⟨s, hs, hw⟩ := pinLoop_inv (PinWalk.Within 9) walkSteps
    (fun k x hx _ hs => dataPinStep_within hneg (sbdl k) (sstat1 k) x.1 (walkSteps_bit_lt x hx) hs)
    0 ⟨0x1ff, 0x1ff, 0, rc, []⟩
    ⟨show (0x1ff : BitVec 32).toNat < 2 ^ 9 by decide, show (0x1ff : BitVec 32).toNat < 2 ^ 9 by decide,
      show (0 : BitVec 32).toNat < 2 ^ 9 by decide⟩
  have hpd : (s.pinsDiff &&& ~~~(s.stuckHigh ||| s.stuckLow)).toNat < 2 ^ 9 := by
    rw [BitVec.toNat_and]
    exact lt_of_le_of_lt Nat.and_le_left hw.pinsDiff
  rw [dataPinWalk]
  exact bind_isSome_of_eq hs
    (bind_isSome (pinReport_isSome scsiDataPins hw.stuckHigh hw.stuckLow hpd) fun _ => rfl)

/-- `0xff` as a `uint` mask: bits 0 to 7. -/
theorem getLsbD_255 (j : Nat) : (255#32).getLsbD j = decide (j < 8) := by
  rw [← BitVec.testBit_toNat]
  exact Nat.testBit_two_pow_sub_one 8 j

/-- At the first step, a read of SBDL that returns the low byte of `BIT(-1)` leaves no
difference in bits 0 to 7, so `diff` is not cut to its low byte. -/
theorem dataPinDiff_first_low (neg : BitVec 32) (sstat1 : BitVec 8) :
    (dataPinDin (neg.setWidth 8) sstat1 ^^^ dataPinDout neg 0 (-1)) &&& 0xff = 0 := by
  apply BitVec.eq_of_getLsbD_eq
  intro j
  rcases Nat.lt_or_ge j 8 with hj | hj <;>
    simp [dataPinDin, dataPinDout, walkBit, getLsbD_255, hj]

/-- At the first step, with that read of SBDL, every bit of `BIT(-1)` above bit 8 stays
in `diff`. -/
theorem dataPinDiff_first_high (neg : BitVec 32) (sstat1 : BitVec 8) {i : Nat} (hi : 9 ≤ i) :
    (dataPinDiff (dataPinDin (neg.setWidth 8) sstat1) (dataPinDout neg 0 (-1))).getLsbD i =
      neg.getLsbD i := by
  have h1 := getLsbD_of_toNat_le_one (calcParity_toNat_le (neg.setWidth 8)) (k := i - 8) (by omega)
  have h2 := getLsbD_of_toNat_le_one (x := regSstat1Par) (by decide) (k := i - 8) (by omega)
  rw [dataPinDiff, if_neg (not_not.mpr (dataPinDiff_first_low neg sstat1))]
  simp [dataPinDin, dataPinDout, walkBit, h1, h2, show ¬ i < 8 by omega]

/-- For a `BIT(-1)` with a bit above bit 8, a read of SBDL that returns the byte the
first step drove sends that step's `print_bits` past `scsi_data_pins`, whatever
SSTAT1 reads, while fewer than eight wrong reads have been counted. -/
theorem dataPinWalk_eq_none {neg : BitVec 32} (hneg : 2 ^ 9 ≤ neg.toNat)
    (sstat1 : Nat → BitVec 8) {rc : Nat} (hrc : rc < 8) :
    dataPinWalk neg (fun _ => neg.setWidth 8) sstat1 rc = none := by
  obtain ⟨i, hi, hbit⟩ : ∃ i, 9 ≤ i ∧ neg.getLsbD i = true := by
    by_contra hn
    push_neg at hn
    exact absurd (Nat.lt_pow_two_of_testBit neg.toNat fun i hi => by
      simpa [BitVec.testBit_toNat] using hn i hi) (Nat.not_lt.mpr hneg)
  have hdiff := dataPinDiff_first_high neg (sstat1 0) hi
  rw [hbit] at hdiff
  have hstep : dataPinStep neg (neg.setWidth 8) (sstat1 0) 0 (-1) ⟨0x1ff, 0x1ff, 0, rc, []⟩ = none :=
    pinRecord_eq_none scsiDataPins _ _ (fun h0 => by rw [h0] at hdiff; simp at hdiff) hrc
      ((printBits_eq_none_iff _ _).mpr ⟨i, by simpa using hdiff, hi⟩)
  rw [dataPinWalk, show walkSteps = (0, -1) :: walkSteps.tail from rfl, pinLoop, hstep]
  rfl

-- ---------------------------------------------------------------------------
-- `test_scsi_pins`
-- ---------------------------------------------------------------------------

/-- `test_scsi_pins` stays in its vectors for every read while `BIT(-1)` has no bit
above bit 8. -/
theorem testScsiPins_isSome {neg : BitVec 32} (hneg : neg.toNat < 2 ^ 9) (r : ScsiPinReads) :
    (testScsiPins neg r).isSome := by
  unfold testScsiPins
  split
  · rfl
  split
  · rfl
  exact bind_isSome (dataPinWalk_isSome hneg _ _ _) fun _ =>
    bind_isSome (controlPinWalk_isSome _ _ _) fun _ => rfl

/-- For a `BIT(-1)` with a bit above bit 8, a card that passes the termination and
reset checks and reads back the first driven byte sends `test_scsi_pins` past
`scsi_data_pins`. -/
theorem testScsiPins_eq_none {neg : BitVec 32} (hneg : 2 ^ 9 ≤ neg.toNat) :
    testScsiPins neg ⟨0, 0, 0, regSstat1Rst, fun _ => neg.setWidth 8, fun _ => 0, fun _ => 0⟩ =
      none := by
  dsimp only [testScsiPins]
  rw [if_neg (by decide), if_neg (by decide), if_neg (by decide),
    dataPinWalk_eq_none hneg _ (by decide)]
  rfl

/-- Every call of `print_bits`, for every value the SIOP's registers read: those of
`decode_registers`, of `test_register_access` (any `uint32_t` mask with `data_pins`)
and of the control walk stay in their vectors, and those of `test_scsi_pins` do for
every read exactly when `BIT(-1)` has no bit above bit 8. -/
theorem printBits_in_bounds (neg : BitVec 32) :
    (∀ read8 read32, (decodeRegisters read8 read32).isSome) ∧
      (∀ value : BitVec 32, (printBits dataPins value).isSome) ∧
      (∀ sbcl rc, (controlPinWalk neg sbcl rc).isSome) ∧
      ((∀ r : ScsiPinReads, (testScsiPins neg r).isSome) ↔ neg.toNat < 2 ^ 9) :=
  ⟨decodeRegisters_isSome, fun value => printBits_isSome_of_lt dataPins value.isLt,
    controlPinWalk_isSome neg,
    fun h => Nat.lt_of_not_le fun hn => absurd
      (h ⟨0, 0, 0, regSstat1Rst, fun _ => neg.setWidth 8, fun _ => 0, fun _ => 0⟩)
      (by rw [testScsiPins_eq_none hn]; exact Bool.false_ne_true),
    fun hneg r => testScsiPins_isSome hneg r⟩

/-- `BIT(-1)` evaluated as bit 31, as a shift count taken modulo 32 gives it, on a card
whose first data-walk step reads back the driven byte `0x00` with its parity bit set:
`print_bits(scsi_data_pins, 0x80000000)` reads `scsi_data_pins[31]`. -/
theorem testScsiPins_bit31 :
    testScsiPins 0x80000000 ⟨0, 0, 0, regSstat1Rst, fun _ => 0, fun _ => 1, fun _ => 0⟩ = none := by
  decide

end A4091
