import InterruptCaps.Text.Hex

/-! Target masks: the set of CPU interfaces that an interrupt is sent to, one bit for each of
    eight. -/

namespace InterruptCaps

/-- A set of CPU interfaces. -/
structure TargetMask where
  bits : UInt8
  deriving DecidableEq

namespace TargetMask

/-- No interface. -/
def empty : TargetMask := ⟨0⟩

def isEmpty (m : TargetMask) : Bool := m.bits == 0

/-- The mask of one interface, if it is one of the eight. -/
def single? (interface : Nat) : Option TargetMask :=
  if interface < 8 then some ⟨UInt8.ofNat (1 <<< interface)⟩ else none

/-- Whether the mask names this interface. -/
def contains (m : TargetMask) (interface : Nat) : Bool := m.bits.toNat.testBit interface

def text (m : TargetMask) : String := Text.hexWide 2 m.bits.toNat

/-- A mask names none but the first eight interfaces. -/
theorem contains_lt {m : TargetMask} {i : Nat} (h : m.contains i = true) : i < 8 := by
  refine Nat.lt_of_not_le fun hi => ?_
  have hlt : m.bits.toNat < 2 ^ i :=
    Nat.lt_of_lt_of_le m.bits.toNat_lt (Nat.pow_le_pow_right (by decide) hi)
  simp [contains, Nat.testBit_lt_two_pow hlt] at h

end TargetMask

end InterruptCaps
