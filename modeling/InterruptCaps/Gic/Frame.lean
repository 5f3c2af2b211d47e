/-! The register frame of an interrupt distributor: 4096 bytes, read and written as bytes, as
    little-endian 32-bit words, or bit by bit. Bit `n` of the frame is bit `n % 8` of byte `n /
    8`, so that the bits of a word are adjacent, the least significant first. -/

namespace InterruptCaps

/-- How many bytes the frame has. -/
def frameSize : Nat := 4096

/-- The content of the frame. -/
structure Frame where
  bytes : Vector UInt8 frameSize
  deriving DecidableEq

namespace Frame

/-- All bytes zero. -/
def zero : Frame := ⟨Vector.replicate frameSize 0⟩

/-- The byte at an offset; zero outside the frame. -/
def byte (f : Frame) (offset : Nat) : UInt8 := f.bytes[offset]?.getD 0

/-- The frame with `value` at an offset. -/
def setByte (offset : Nat) (value : UInt8) (f : Frame) : Frame :=
  ⟨f.bytes.setIfInBounds offset value⟩

/-- The word at an offset, least significant byte first. -/
def word (f : Frame) (offset : Nat) : Nat :=
  (f.byte offset).toNat + (f.byte (offset + 1)).toNat * 0x100
    + (f.byte (offset + 2)).toNat * 0x10000 + (f.byte (offset + 3)).toNat * 0x1000000

/-- The frame with the low 32 bits of `value` at an offset. -/
def setWord (offset value : Nat) (f : Frame) : Frame :=
  f.setByte offset (UInt8.ofNat value)
    |>.setByte (offset + 1) (UInt8.ofNat (value / 0x100))
    |>.setByte (offset + 2) (UInt8.ofNat (value / 0x10000))
    |>.setByte (offset + 3) (UInt8.ofNat (value / 0x1000000))

/-- Bit `n` of the frame. -/
def bit (f : Frame) (n : Nat) : Bool := (f.byte (n / 8)).toBitVec.getLsbD (n % 8)

/-- The frame with bit `n` set or cleared. -/
def setBit (n : Nat) (value : Bool) (f : Frame) : Frame :=
  let old := (f.byte (n / 8)).toBitVec
  let new := if value then old ||| BitVec.twoPow 8 (n % 8) else old &&& ~~~BitVec.twoPow 8 (n % 8)
  f.setByte (n / 8) ⟨new⟩

theorem byte_setByte (f : Frame) (i j : Nat) (v : UInt8) :
    (f.setByte i v).byte j = if i = j ∧ j < frameSize then v else f.byte j := by
  simp only [byte, setByte, Vector.getElem?_setIfInBounds]
  by_cases h : i = j
  · subst h
    by_cases hi : i < frameSize <;> simp [hi]
  · simp [h]

/-- Setting a bit of the frame sets that bit alone. -/
theorem bit_setBit (f : Frame) (n m : Nat) (v : Bool) (hn : n < 8 * frameSize) :
    (f.setBit n v).bit m = if n = m then v else f.bit m := by
  have hb : n / 8 < frameSize := by omega
  have hm : m % 8 < 8 := Nat.mod_lt _ (by decide)
  simp only [setBit, bit, byte_setByte]
  by_cases hq : n / 8 = m / 8
  · have hlt : m / 8 < frameSize := hq ▸ hb
    simp only [hq, hlt, and_self, if_true]
    by_cases hnm : n = m
    · subst hnm
      cases v <;> simp [hm]
    · have hr : n % 8 ≠ m % 8 := fun hr => hnm (by omega)
      cases v <;> simp [hm, hnm, Ne.symm hr]
  · have hnm : n ≠ m := fun h => hq (by rw [h])
    simp [hq, hnm]

end Frame

end InterruptCaps
