import InterruptCaps.Irq.Registry

/-! The registry as it lies in memory: words of 64 bits, one bit for each line, beside a count. Line
    `n` has bit `n % 64` of word `n / 64`; the last word has more bits than there are lines left. An
    operation has no result if it asks for a word that is not there or counts below zero. -/

namespace InterruptCaps

/-- How many words have room for all lines. -/
def wordCount : Nat := (lineCount + 63) / 64

/-- The words with a bit for each line, and how many of the bits are set. -/
structure Bitmap where
  words : Vector UInt64 wordCount
  count : Nat
  deriving DecidableEq

namespace Bitmap

/-- No bit is set. -/
def empty : Bitmap := ⟨Vector.replicate wordCount 0, 0⟩

/-- The bit of line `n` in its word. -/
def mask (n : Nat) : UInt64 := 1 <<< UInt64.ofNat (n % 64)

/-- Whether the bit of line `n` is set. -/
def get? (b : Bitmap) (n : Nat) : Option Bool :=
  b.words[n / 64]?.map fun word => word &&& mask n != 0

/-- Sets or clears the bit of line `n` in its word. -/
def write? (n : Nat) (value : Bool) (b : Bitmap) : Option Bitmap :=
  b.words[n / 64]?.map fun word =>
    let word := if value then word ||| mask n else word &&& ~~~mask n
    { b with words := b.words.setIfInBounds (n / 64) word }

/-- Sets the bit of line `n`. Says no if it is set already. -/
def set? (n : Nat) (b : Bitmap) : Option (Bool × Bitmap) := do
  if ← b.get? n then return (false, b)
  let b ← b.write? n true
  return (true, { b with count := b.count + 1 })

/-- Clears the bit of line `n`. Says no if it is not set. -/
def clear? (n : Nat) (b : Bitmap) : Option (Bool × Bitmap) := do
  if !(← b.get? n) then return (false, b)
  let b ← b.write? n false
  if b.count = 0 then none
  return (true, { b with count := b.count - 1 })

/-- Whether the line of `id` has a handler. -/
def isActive? (b : Bitmap) (id : IrqId) : Option Bool :=
  match id.line? with
  | none => some false
  | some n => b.get? n

/-- Gives the line of `id` a handler. -/
def activate? (id : IrqId) (b : Bitmap) : Option (Bool × Bitmap) :=
  match id.line? with
  | none => some (false, b)
  | some n => b.set? n

/-- Takes the handler of `id` away. -/
def deactivate? (id : IrqId) (b : Bitmap) : Option (Bool × Bitmap) :=
  match id.line? with
  | none => some (false, b)
  | some n => b.clear? n

end Bitmap

end InterruptCaps
