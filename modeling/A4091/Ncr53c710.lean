import Mathlib.Tactic.Linarith

/-!
# A4091 — the NCR 53C710 register map and the register access layer

The SIOP's registers sit at `A4091_OFFSET_REGISTERS` in the card's window. A
register at offset `R` is read at `R`; it is written at the shadow offset
`R + 0x40`, which keeps the 68030's write-allocate from touching the read
window. Offsets are the code's big-endian byte offsets: a 32-bit access at `R`
covers `R .. R + 3`, the byte at `R` the most significant.

The offsets and bits are the ones the modelled functions use, with the code's
names.
-/

namespace A4091

/-- `A4091_OFFSET_REGISTERS`. -/
def a4091OffsetRegisters : Nat := 0x00800000

/-! ## Register offsets -/

def regScntl0  : Nat := 0x03
def regScntl1  : Nat := 0x02
def regSdid    : Nat := 0x01
def regSien    : Nat := 0x00
def regScid    : Nat := 0x07
def regSxfer   : Nat := 0x06
def regSodl    : Nat := 0x05
def regSocl    : Nat := 0x04
def regSbdl    : Nat := 0x09
def regSbcl    : Nat := 0x08
def regDstat   : Nat := 0x0f
def regSstat0  : Nat := 0x0e
def regSstat1  : Nat := 0x0d
def regSstat2  : Nat := 0x0c
def regDsa     : Nat := 0x10
def regCtest0  : Nat := 0x17
def regCtest1  : Nat := 0x16
def regCtest2  : Nat := 0x15
def regCtest3  : Nat := 0x14
def regCtest4  : Nat := 0x1b
def regCtest6  : Nat := 0x19
def regCtest7  : Nat := 0x18
def regTemp    : Nat := 0x1c
def regIstat   : Nat := 0x22
def regDsp     : Nat := 0x2c
def regScratch : Nat := 0x34
def regDmode   : Nat := 0x3b
def regDien    : Nat := 0x3a
def regDwt     : Nat := 0x39
def regDcntl   : Nat := 0x38

/-! ## Register bits -/

def regIstatDip  : BitVec 8 := 0x01
def regIstatSip  : BitVec 8 := 0x02
def regIstatRst  : BitVec 8 := 0x40
def regIstatAbrt : BitVec 8 := 0x80
def regDstatAbrt : BitVec 8 := 0x10
def regDstatDfe  : BitVec 8 := 0x80
def regDcntlCom  : BitVec 8 := 0x01
def regDcntlEa   : BitVec 8 := 0x20
def regDcntlCfd2 : BitVec 8 := 0x00
def regDmodeFc2  : BitVec 8 := 0x20
def regDmodeBle3 : BitVec 8 := 0xc0
def regCtest4Fbl2 : BitVec 8 := 0x04
def regCtest4Cdis : BitVec 8 := 0x80
def regSstat1Par : BitVec 8 := 0x01
def regSstat1Rst : BitVec 8 := 0x02

/-! ## The register access layer -/

/-- The bus address `get_ncrreg8` and `get_ncrreg32` read register `reg` at. -/
def getNcrregAddr (base reg : Nat) : Nat := base + a4091OffsetRegisters + reg

end A4091
