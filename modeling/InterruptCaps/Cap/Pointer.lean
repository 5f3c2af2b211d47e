import InterruptCaps.Text.Hex

/-! Capability pointers. A pointer is a word whose low `depth` bits address a slot: they are read
    from the most significant end, some bits at each level of the capability tree, and `Depth`
    counts those that are left. -/

namespace InterruptCaps

/-- An address in a tree of capability nodes. -/
structure CapPtr where
  raw : UInt64
  deriving DecidableEq

namespace CapPtr

def isNull (p : CapPtr) : Bool := p.raw == 0

/-- The first `width` of the low `remaining` bits, as a number. Bits above the word are zero. -/
def bitsAt (p : CapPtr) (remaining width : Nat) : Nat :=
  (p.raw.toNat >>> (remaining - width)) % (1 <<< width)

def text (p : CapPtr) : String := if p.isNull then "null" else Text.hex p.raw.toNat

def debugText (p : CapPtr) : String := s!"CPtr({Text.hex p.raw.toNat})"

theorem bitsAt_lt (p : CapPtr) (remaining width : Nat) :
    p.bitsAt remaining width < 1 <<< width :=
  Nat.mod_lt _ (by rw [Nat.one_shiftLeft]; exact Nat.two_pow_pos width)

end CapPtr

/-- How many low bits of a pointer are still to be read. -/
structure Depth where
  remaining : Nat
  deriving DecidableEq

namespace Depth

/-- A pointer has this many bits. -/
def maxBits : Nat := 64

/-- The depth a caller asks for, from one bit to the whole word. -/
def ofWord? (bits : UInt64) : Option Depth :=
  if 1 ≤ bits.toNat ∧ bits.toNat ≤ maxBits then some ⟨bits.toNat⟩ else none

/-- Nothing is left to read. -/
def isComplete (d : Depth) : Bool := d.remaining == 0

/-- Whether a level of `guardBits` and then `radix` bits can still be read. -/
def hasRoom (d : Depth) (guardBits radix : Nat) : Bool := guardBits + radix ≤ d.remaining

/-- What is left after such a level; nothing, if the level asks for more than there is. -/
def consume (d : Depth) (guardBits radix : Nat) : Depth := ⟨d.remaining - (guardBits + radix)⟩

end Depth

end InterruptCaps
