import A4091.Ncr53c710

/-!
# A4091 — the 53C710's register interface, and a recorder on it

The tests reach the 53C710 through `get_ncrreg8` and `set_ncrreg8`. A device behind
that interface is anything that answers a read with a byte and may change on a read
or a write (`Bus`): reading CTEST6 pops the DMA FIFO, and a status register may
clear when read. `a4091_reset` is a program over any such device (`a4091ResetOn`).

A recorder on the bus (`Bus.logged`) answers as the device does and appends each
access, with the byte it carried, to a log (`RegAccess`). What a test read and wrote
is then read off the log, for any device.
-/

namespace A4091

variable {σ : Type}

/-- The register interface the tests drive, on a device whose state is `σ`:
`get_ncrreg8(reg)` answers a byte and may change the device (reading CTEST6 pops
the DMA FIFO), `set_ncrreg8(reg, v)` changes it. -/
structure Bus (σ : Type) where
  read8 : Nat → σ → BitVec 8 × σ
  write8 : Nat → BitVec 8 → σ → σ

/-- `a4091_reset` on the bus: the stores of `A4091.a4091ResetWrites`, with the two
reads of ISTAT that push them out. -/
def a4091ResetOn (b : Bus σ) (s : σ) : σ :=
  let s := b.write8 regIstat regIstatRst (b.write8 regDcntl regDcntlEa s)
  let s := b.write8 regIstat 0 (b.read8 regIstat s).2
  let s := (b.read8 regIstat s).2
  b.write8 regDwt 0xff (b.write8 regDcntl regDcntlEa (b.write8 regScid 0x80 s))

/-- One access of the register interface, with the byte it carried. -/
inductive RegAccess
  | read (reg : Nat) (v : BitVec 8)
  | write (reg : Nat) (v : BitVec 8)
  deriving DecidableEq, Repr

namespace RegAccess

/-- The register an access reaches. -/
def reg : RegAccess → Nat
  | read r _ => r
  | write r _ => r

/-- The byte a read of register `r` answered. -/
def readOf (r : Nat) : RegAccess → Option (BitVec 8)
  | read r' v => if r' = r then some v else none
  | write _ _ => none

/-- The byte a write stored into register `r`. -/
def writeOf (r : Nat) : RegAccess → Option (BitVec 8)
  | write r' v => if r' = r then some v else none
  | read _ _ => none

@[simp] theorem readOf_read_self (r : Nat) (v : BitVec 8) : (read r v).readOf r = some v := by
  simp [readOf]

theorem readOf_read_ne {r r' : Nat} (v : BitVec 8) (h : r' ≠ r) : (read r' v).readOf r = none := by
  simp [readOf, h]

@[simp] theorem readOf_write (r r' : Nat) (v : BitVec 8) : (write r' v).readOf r = none := rfl

@[simp] theorem writeOf_write_self (r : Nat) (v : BitVec 8) : (write r v).writeOf r = some v := by
  simp [writeOf]

theorem writeOf_write_ne {r r' : Nat} (v : BitVec 8) (h : r' ≠ r) : (write r' v).writeOf r = none := by
  simp [writeOf, h]

@[simp] theorem writeOf_read (r r' : Nat) (v : BitVec 8) : (read r' v).writeOf r = none := rfl

end RegAccess

/-- `b` with a recorder on the bus: the device answers as `b` does, and every access
is appended to the log. -/
def Bus.logged (b : Bus σ) : Bus (σ × List RegAccess) where
  read8 r p := ((b.read8 r p.1).1, (b.read8 r p.1).2, p.2 ++ [.read r (b.read8 r p.1).1])
  write8 r v p := (b.write8 r v p.1, p.2 ++ [.write r v])

namespace Bus

@[simp] theorem logged_read8 (b : Bus σ) (r : Nat) (p : σ × List RegAccess) :
    b.logged.read8 r p = ((b.read8 r p.1).1, (b.read8 r p.1).2, p.2 ++ [.read r (b.read8 r p.1).1]) :=
  rfl

@[simp] theorem logged_write8 (b : Bus σ) (r : Nat) (v : BitVec 8) (p : σ × List RegAccess) :
    b.logged.write8 r v p = (b.write8 r v p.1, p.2 ++ [.write r v]) := rfl

end Bus

end A4091
