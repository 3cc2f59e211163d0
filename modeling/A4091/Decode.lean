import A4091.DeviceAccess
import Mathlib.Tactic.IntervalCases

/-!
# A4091 — `decode_autoconfig` and `decode_switches`: what `-c` and `-s` print

`decode_autoconfig` reads the card's autoconfig registers with `get_creg`, prints
each register with its decoding, and counts in `rc` what is wrong for an A4091: a
reserved register that is not zero, and a board that is not a Zorro III I/O board.
Register 0x0c is checked twice: the first check adds to `rc`, the second sets
`rc = 1` when it fails, so a nonzero 0x0c and a wrong board type count 1 together.
The second loop over reserved registers starts at 0x52 and steps by 4, so it reads
the offsets 0x52, 0x56, ..., 0x7a, each 2 past a register offset.

`decode_switches` reads the rear DIP switches once and prints a line per switch.
Each line starts with `show_dip(switches, bit)`, which prints the switch number and
"On" or "Off"; it tests `BIT(7)` whatever `bit` is, so every line shows the state of
switch 8.

The card is the `Card` of `test_device_access`. What the functions print is kept
as the strings `printf` writes, one per call, with `%02x`-style fields spelled out
by `hexPad`.

## Results

* `decodeAutoconfig_rc` — on a card whose autoconfig bytes read the same every
  time, `decode_autoconfig` returns 1 when register 0x0c is not zero or the board is
  not a Zorro III I/O board, plus one for each nonzero reserved register it reads.
* `decodeSwitchLines_state` — the eight lines name switches 8 down to 1, and a
  line's On/Off is its own switch's state exactly when that switch is set as
  switch 8 is.
-/

namespace A4091

variable {σ : Type}

/-- `%0*x`: `n` in lowercase hexadecimal, padded with zeros to `w` digits. -/
def hexPad (w n : Nat) : String :=
  let ds := Nat.toDigits 16 n
  String.mk (List.replicate (w - ds.length) '0' ++ ds)

example : hexPad 2 0x5 = "05" ∧ hexPad 4 0x202 = "0202" ∧ hexPad 2 0x6f = "6f" := by decide

-- ---------------------------------------------------------------------------
-- `decode_autoconfig`
-- ---------------------------------------------------------------------------

/-- `z2_config_sizes[]`. -/
def z2ConfigSizes : List String :=
  ["8 MB", "64 KB", "128 KB", "256 KB", "512KB", "1MB", "2MB", "4MB"]

/-- `z3_config_sizes[]`. -/
def z3ConfigSizes : List String :=
  ["16 MB", "32 MB", "64 MB", "128 MB", "256 MB", "512 MB", "1 GB", "RSVD"]

/-- `config_subsizes[]`. -/
def configSubsizes : List String :=
  ["Same-as-Physical", "Automatically-sized", "64 KB", "128 KB",
    "256 KB", "512 KB", "1MB", "2MB",
    "4MB", "6MB", "8MB", "10MB", "12MB", "14MB", "Rsvd1", "Rsvd2"]

/-- The card, and the strings printed so far, one per `printf`. -/
structure Decoded (σ : Type) where
  dev : σ
  out : List String

/-- `printf(t)`. -/
def Decoded.print (d : Decoded σ) (t : String) : Decoded σ := ⟨d.dev, d.out ++ [t]⟩

/-- `show_creg_value(reg, value)`: "   %02x   %02x". -/
def showCregValue (reg : Nat) (value : BitVec 8) : String :=
  "   " ++ hexPad 2 reg ++ "   " ++ hexPad 2 value.toNat

/-- `show_creg(reg)`: read the register, print it, return it. -/
def showCreg (c : Card σ) (reg : Nat) (d : Decoded σ) : BitVec 8 × Decoded σ :=
  let r := getCreg c reg d.dev
  (r.1, ⟨r.2, d.out ++ [showCregValue reg r.1]⟩)

/-- `autoconfig_reserved(reg)`: 1, with the register and " Reserved: should be
0x00", when it does not read zero. -/
def autoconfigReserved (c : Card σ) (reg : Nat) (d : Decoded σ) : Nat × Decoded σ :=
  let r := getCreg c reg d.dev
  if r.1 ≠ 0 then (1, ⟨r.2, d.out ++ [showCregValue reg r.1, " Reserved: should be 0x00\n"]⟩)
  else (0, ⟨r.2, d.out⟩)

/-- `rc += autoconfig_reserved(byte)` for each `byte` of `regs`. -/
def autoconfigReservedAll (c : Card σ) (regs : List Nat) (p : Nat × Decoded σ) : Nat × Decoded σ :=
  regs.foldl (fun p reg => let r := autoconfigReserved c reg p.2; (p.1 + r.1, r.2)) p

/-- `for (byte = 0x30; byte <= 0x3c; byte += 4)`. -/
def autoconfigReservedLow : List Nat := List.range' 0x30 4 4

/-- `for (byte = 0x52; byte <= 0x7c; byte += 4)`: 0x52 to 0x7a. -/
def autoconfigReservedHigh : List Nat := List.range' 0x52 11 4

/-- The `switch (value >> 6)` of the first line. -/
def zorroTypeName (value : BitVec 8) : String :=
  match (value >>> 6).toNat with
  | 2 => " ZorroIII"
  | 3 => " ZorroII"
  | _ => " Zorro_Reserved"

/-- From `value = ~show_creg(0x00)` to the `printf("\n")` that ends the first line,
with `is_z3` and `is_autoboot`. Register 0x08 is read for the size table only on a
Zorro III board (`is_z3 && (get_creg(0x08) & BIT(5))`). -/
def decodeZorroType (c : Card σ) (d : Decoded σ) : (Bool × Bool) × Decoded σ :=
  let v := showCreg c 0x00 d
  let value := ~~~v.1
  let isZ3 := (value >>> 6).toNat == 2
  let d := v.2.print (zorroTypeName value)
  let d := if value &&& 0x20 ≠ 0 then d.print " Memory" else d
  let r := if isZ3 then getCreg c 0x08 d.dev else (0, d.dev)
  let sizes := if isZ3 ∧ r.1 &&& 0x20 ≠ 0 then z3ConfigSizes else z2ConfigSizes
  let d : Decoded σ := ⟨r.2, d.out ++ [" Size=" ++ sizes.getD (value &&& 0x7).toNat ""]⟩
  let isAutoboot := value &&& 0x10 ≠ 0
  let d := if isAutoboot then d.print " Autoboot" else d
  let d := if value &&& 0x08 ≠ 0 then d.print " Link-to-next" else d
  ((isZ3, isAutoboot), d.print "\n")

/-- From `value = show_creg(0x08)` to the subsize: one more in `rc` for a Zorro III
board that asks for memory space, and for any board that is not Zorro III. -/
def decodeDeviceType (c : Card σ) (isZ3 : Bool) (p : Nat × Decoded σ) : Nat × Decoded σ :=
  let v := showCreg c 0x08 p.2
  let value := v.1
  let r : Nat × Decoded σ :=
    if isZ3 then
      if value &&& 0x80 ≠ 0 then (p.1 + 1, v.2.print " Device-Memory")
      else (p.1, v.2.print " Device-IO")
    else (p.1 + 1, v.2.print (if value &&& 0x80 ≠ 0 then " Fit-ZorroII" else " Fit-anywhere"))
  let d := if value &&& 0x20 ≠ 0 then r.2.print " NoShutup" else r.2
  let d := if isZ3 ∧ value &&& 0x10 = 0 then d.print " Invalid_RSVD" else d
  let d := if value &&& 0x20 ≠ 0 then d.print " SizeExt" else d
  (r.1, d.print (" " ++ configSubsizes.getD (value &&& 0x0f).toNat "" ++ "\n"))

/-- Two registers printed as one 16-bit number: `value32 = show_creg(hi) << 8;
value32 |= show_creg(lo);`. -/
def showCregPair (c : Card σ) (hi lo : Nat) (hiText lowText : String) (d : Decoded σ) :
    Decoded σ :=
  let h := showCreg c hi d
  let l := showCreg c lo (h.2.print hiText)
  let value32 : BitVec 32 := (h.1.setWidth 32 <<< 8) ||| l.1.setWidth 32
  l.2.print (lowText ++ hexPad 4 value32.toNat ++ "\n")

/-- One byte of the serial number loop. -/
def serialByte (c : Card σ) (p : BitVec 32 × Decoded σ) (byte : Nat) : BitVec 32 × Decoded σ :=
  let v := showCreg c (0x18 + byte * 4) p.2
  let value32 := (p.1 <<< 8) ||| v.1.setWidth 32
  let d := v.2.print (" Serial number byte " ++ toString byte)
  let d := if byte = 3 then d.print ("   Serial=0x" ++ hexPad 8 value32.toNat) else d
  (value32, d.print "\n")

/-- `decode_autoconfig()`. -/
def decodeAutoconfig (c : Card σ) (d : Decoded σ) : Nat × Decoded σ :=
  let h := decodeZorroType c (d.print "A4091 Autoconfig area\n  Reg Data Decode\n")
  let p := showCreg c 0x04 h.2
  let d := p.2.print (" Product=0x" ++ hexPad 2 (p.1 &&& 0xff).toNat ++ "\n")
  let t := decodeDeviceType c h.1.1 (autoconfigReserved c 0x0c d)
  let r := autoconfigReserved c 0x0c t.2
  let rc := if r.1 ≠ 0 then 1 else t.1
  let d := showCregPair c 0x10 0x14 " Mfg Number high byte\n"
    " Mfg Number low byte    Manufacturer=0x" r.2
  let d := ((List.range 4).foldl (serialByte c) (0, d)).2
  let d := if h.1.2 then
    showCregPair c 0x28 0x2c " Option ROM vector high\n" " Option ROM vector low  Offset=0x" d
    else d
  autoconfigReservedAll c autoconfigReservedHigh (autoconfigReservedAll c autoconfigReservedLow (rc, d))

-- ---------------------------------------------------------------------------
-- `rc` on a card that reads the same every time
-- ---------------------------------------------------------------------------

/-- The register `get_creg(reg)` reads from a card whose bytes are `img`. -/
def cregOf (img : Nat → BitVec 8) (reg : Nat) : BitVec 8 :=
  cregValue (img (a4091OffsetAutoconfig + reg)) (img (a4091OffsetAutoconfig + reg + 0x100))

/-- Register 0x00 says Zorro III and register 0x08 asks for I/O space: the board
`decode_autoconfig` expects. -/
def zorroIIIIo (img : Nat → BitVec 8) : Bool :=
  ((~~~cregOf img 0x00) >>> 6).toNat == 2 && cregOf img 0x08 &&& 0x80 == 0

section Stable

variable (img : Nat → BitVec 8) (c : Card σ) (hc : ∀ a s, (c.read8 a s).1 = img a)

include hc

theorem getCreg_stable (reg : Nat) (s : σ) : (getCreg c reg s).1 = cregOf img reg := by
  simp only [getCreg, hc, cregOf]

theorem autoconfigReserved_rc (reg : Nat) (d : Decoded σ) :
    (autoconfigReserved c reg d).1 = if cregOf img reg ≠ 0 then 1 else 0 := by
  rw [← getCreg_stable img c hc reg d.dev]
  dsimp only [autoconfigReserved]
  split <;> rfl

theorem autoconfigReservedAll_rc (regs : List Nat) :
    ∀ p : Nat × Decoded σ,
      (autoconfigReservedAll c regs p).1 = p.1 + (regs.filter (cregOf img · ≠ 0)).length := by
  induction regs with
  | nil => intro p; rfl
  | cons reg regs ih =>
    intro p
    rw [autoconfigReservedAll, List.foldl_cons, ← autoconfigReservedAll, ih]
    dsimp only
    rw [autoconfigReserved_rc img c hc, List.filter_cons]
    split_ifs <;> simp_all
    omega

theorem decodeZorroType_isZ3 (d : Decoded σ) :
    (decodeZorroType c d).1.1 = (((~~~cregOf img 0x00) >>> 6).toNat == 2) := by
  simp only [decodeZorroType, showCreg, getCreg_stable img c hc]

theorem decodeDeviceType_rc (isZ3 : Bool) (p : Nat × Decoded σ) :
    (decodeDeviceType c isZ3 p).1 =
      p.1 + if isZ3 && cregOf img 0x08 &&& 0x80 == 0 then 0 else 1 := by
  dsimp only [decodeDeviceType, showCreg]
  rw [getCreg_stable img c hc]
  cases isZ3 <;> split_ifs <;> simp_all

/-- On a card whose autoconfig bytes read the same every time, `decode_autoconfig`
returns 1 when register 0x0c is not zero or the board is not a Zorro III I/O board
(the two count 1 together: the second check of 0x0c sets `rc = 1`), plus one for
each reserved register, of 0x30 to 0x3c and 0x52 to 0x7a, that is not zero. -/
theorem decodeAutoconfig_rc (d : Decoded σ) :
    (decodeAutoconfig c d).1 =
      (if cregOf img 0x0c ≠ 0 ∨ zorroIIIIo img = false then 1 else 0) +
        ((autoconfigReservedLow ++ autoconfigReservedHigh).filter (cregOf img · ≠ 0)).length := by
  simp only [decodeAutoconfig, autoconfigReservedAll_rc img c hc, autoconfigReserved_rc img c hc,
    decodeDeviceType_rc img c hc, decodeZorroType_isZ3 img c hc, List.filter_append,
    List.length_append, ← Nat.add_assoc, zorroIIIIo]
  congr 2
  split_ifs <;> simp_all

end Stable

/-- A card that reads 0xff everywhere: every register reads 0, register 0x00 says
Zorro II, and only the board type counts. -/
theorem decodeAutoconfig_rc_blank :
    (∀ a (u : Unit), ((⟨fun _ u => (0xff, u), fun _ u => u, fun u => (0, u)⟩ : Card Unit).read8
        a u).1 = (fun _ => 0xff : Nat → BitVec 8) a) ∧
      (decodeAutoconfig (⟨fun _ u => (0xff, u), fun _ u => u, fun u => (0, u)⟩ : Card Unit)
          ⟨(), []⟩).1 =
        (if cregOf (fun _ => 0xff) 0x0c ≠ 0 ∨ zorroIIIIo (fun _ => 0xff) = false then 1 else 0) +
          ((autoconfigReservedLow ++ autoconfigReservedHigh).filter
            (cregOf (fun _ => 0xff) · ≠ 0)).length :=
  ⟨fun _ _ => rfl, decodeAutoconfig_rc (fun _ => 0xff) _ (fun _ _ => rfl) ⟨(), []⟩⟩

/-- Every offset the second reserved loop reads lies 2 past a register offset. -/
example : ∀ reg ∈ autoconfigReservedHigh, reg % 4 = 2 := by decide

-- ---------------------------------------------------------------------------
-- `decode_switches`
-- ---------------------------------------------------------------------------

/-- `A4091_OFFSET_SWITCHES`. -/
def a4091OffsetSwitches : Nat := 0x008c0003

/-- What `show_dip(switches, bit)` prints, "  SW %d %s  ": the switch number
`bit + 1`, and "Off" or "On" from `switches & BIT(7)`, whatever `bit` is. -/
structure DipField where
  sw : Nat
  state : String
  deriving DecidableEq, Repr

/-- `show_dip(switches, bit)`. -/
def showDip (switches : BitVec 8) (bit : Nat) : DipField :=
  ⟨bit + 1, if switches &&& 0x80 ≠ 0 then "Off" else "On"⟩

/-- The state of switch `bit + 1` from its own bit, `switches & BIT(bit)`, as the
other half of each line reads it. -/
def dipState (switches : BitVec 8) (bit : Nat) : String :=
  if switches &&& (1 : BitVec 8) <<< bit ≠ 0 then "Off" else "On"

/-- The eight lines of `decode_switches`: `show_dip`, then the line's own text. -/
def decodeSwitchLines (switches : BitVec 8) : List (DipField × String) :=
  [(showDip switches 7, "SCSI LUNs " ++ (if switches &&& 0x80 ≠ 0 then "Enabled" else "Disabled") ++ "\n"),
    (showDip switches 6,
      if switches &&& 0x40 ≠ 0 then "Internal Termination On\n" else "External Termination Only\n"),
    (showDip switches 5,
      (if switches &&& 0x20 ≠ 0 then "Synchronous" else "Asynchronous") ++ " SCSI Mode\n"),
    (showDip switches 4, (if switches &&& 0x10 ≠ 0 then "Short" else "Long") ++ " Spinup\n"),
    (showDip switches 3,
      "SCSI" ++ (if switches &&& 0x08 ≠ 0 then "-2 Fast" else "-1 Standard") ++ " Bus Mode\n"),
    (showDip switches 2, "ADR2=" ++ toString (if switches &&& 4 ≠ 0 then 1 else 0 : Nat) ++ "\n"),
    (showDip switches 1, "ADR1=" ++ toString (if switches &&& 2 ≠ 0 then 1 else 0 : Nat) ++ "\n"),
    (showDip switches 0, "ADR0=" ++ toString (switches &&& 1).toNat ++ "  Controller Host ID=" ++
      hexPad 1 (switches &&& 7).toNat ++ "\n")]

/-- `decode_switches()`: one read of the switches, the title and the eight lines;
it returns 0. -/
def decodeSwitches (c : Card σ) (s : σ) : Nat × List String × σ :=
  let r := c.read8 a4091OffsetSwitches s
  (0, "A4091 Rear-access DIP switches\n" :: (decodeSwitchLines r.1).map
    (fun l => "  SW " ++ toString l.1.sw ++ " " ++ l.1.state ++ "  " ++ l.2), r.2)

theorem and_shiftLeft_ne_zero (switches : BitVec 8) {bit : Nat} (h : bit < 8) :
    switches &&& (1 : BitVec 8) <<< bit ≠ 0 ↔ switches.getLsbD bit = true := by
  have hne : BitVec.twoPow 8 bit ≠ 0 := by interval_cases bit <;> decide
  rw [show (1 : BitVec 8) <<< bit = BitVec.twoPow 8 bit from rfl, BitVec.and_twoPow]
  cases switches.getLsbD bit
  · simp
  · simpa using hne

theorem off_on_eq_iff {p q : Prop} [Decidable p] [Decidable q] :
    ((if p then "Off" else "On") = if q then "Off" else "On") ↔ (p ↔ q) := by
  by_cases hp : p <;> by_cases hq : q <;> simp [hp, hq]

theorem showDip_state_eq_iff (switches : BitVec 8) {bit : Nat} (h : bit < 8) :
    (showDip switches bit).state = dipState switches bit ↔
      switches.getLsbD bit = switches.getLsbD 7 := by
  rw [showDip, dipState, off_on_eq_iff, show (0x80 : BitVec 8) = (1 : BitVec 8) <<< 7 from rfl,
    and_shiftLeft_ne_zero switches (by decide : 7 < 8), and_shiftLeft_ne_zero switches h]
  exact Iff.comm.trans Bool.eq_iff_iff.symm

/-- The lines name switches 8 down to 1, and the On/Off of a line is its own
switch's state exactly when that switch is set as switch 8 is: `show_dip` reads
`BIT(7)` for every switch. -/
theorem decodeSwitchLines_state (switches : BitVec 8) :
    (decodeSwitchLines switches).map (·.1.sw) = [8, 7, 6, 5, 4, 3, 2, 1] ∧
      ∀ l ∈ decodeSwitchLines switches, (l.1.state = dipState switches (l.1.sw - 1) ↔
        switches.getLsbD (l.1.sw - 1) = switches.getLsbD 7) := by
  refine ⟨rfl, fun l hl => ?_⟩
  obtain ⟨bit, hbit, e⟩ : ∃ bit < 8, l.1 = showDip switches bit := by
    simp only [decodeSwitchLines, List.mem_cons, List.mem_nil_iff, or_false] at hl
    rcases hl with rfl | rfl | rfl | rfl | rfl | rfl | rfl | rfl <;> refine ⟨_, ?_, rfl⟩ <;> decide
  rw [e]
  exact showDip_state_eq_iff switches hbit

end A4091
