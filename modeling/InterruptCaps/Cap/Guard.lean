import InterruptCaps.Cap.Pointer

/-! Guards of capability nodes. A guard is a run of bits that a pointer must show before the node's
    index is read, so that one node can stand for several levels of the tree. -/

namespace InterruptCaps

/-- The bits that a pointer must show: the low `bits` bits of `value`. A guard of no bits asks for
    nothing, whatever its value. -/
structure Guard where
  value : UInt64
  bits : Nat
  deriving DecidableEq

namespace Guard

/-- A guard made by `ofBits?` has at most this many bits. -/
def maxBits : Nat := 58

/-- The guard that asks for nothing. -/
def none : Guard := ⟨0, 0⟩

/-- The guard of the low `bits` bits of `value`, if it is not too wide. -/
def ofBits? (value : UInt64) (bits : Nat) : Option Guard :=
  if bits ≤ maxBits then some ⟨UInt64.ofNat (value.toNat % (1 <<< bits)), bits⟩ else Option.none

def isEmpty (g : Guard) : Bool := g.bits == 0

/-- Whether the first of the low `remaining` bits of `p` are the guard. A guard with bits above its
    own width matches no pointer. -/
def admits (g : Guard) (p : CapPtr) (remaining : Nat) : Bool :=
  g.isEmpty || (g.bits ≤ remaining && p.bitsAt remaining g.bits == g.value.toNat)

def text (g : Guard) : String :=
  if g.isEmpty then "no guard" else s!"guard({Text.hex g.value.toNat}, {g.bits} bits)"

end Guard

end InterruptCaps
