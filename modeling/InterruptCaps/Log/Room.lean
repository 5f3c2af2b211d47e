import InterruptCaps.Log.Writer
import InterruptCaps.Text.Boundary

/-! Text written into rooms of 240 bytes, byte by byte. An entry has one room for two texts, the
    message having what the target leaves. Fragments of a message are written one behind the other
    into a room of their own, each as far as it fits. Lengths are kept in one byte for targets and
    in two for messages. An operation on bytes has no result where it would leave its range. -/

namespace InterruptCaps.Log

/-- A room with nothing in it. -/
def emptyRoom : List UInt8 := List.replicate entrySize 0

/-- The room that is left behind `used` bytes. -/
def roomLeft? (used : Nat) : Option Nat :=
  if used ≤ entrySize then some (entrySize - used) else none

/-- Copies the first `n` bytes of `text` into the room from `start` on. -/
def copyFront? (room : List UInt8) (start : Nat) (text : List UInt8) (n : Nat) :
    Option (List UInt8) := do
  copyAt? room start (← Text.front? text n)

/-- The entry of a record, written into an empty room. -/
def Entry.write? (sequence : Nat) (level : Level) (target message : String) : Option Entry := do
  let target := Text.bytesOf target
  let message := Text.bytesOf message
  let targetLength ← Text.floorBoundary? (min entrySize 255) target
  let room ← copyFront? emptyRoom 0 target targetLength
  let messageLength ← Text.floorBoundary? (← roomLeft? targetLength) message
  let room ← copyFront? room targetLength message messageLength
  return { sequence, level := level.rank
           targetLength := (UInt8.ofNat targetLength).toNat
           messageLength := (UInt16.ofNat messageLength).toNat
           content := fill room }

/-- A message in the making: the room, and how many bytes at its front are written. -/
structure Draft where
  room : List UInt8
  length : Nat

namespace Draft

def empty : Draft := ⟨emptyRoom, 0⟩

/-- Writes as much of the fragment as there is room for. -/
def write? (fragment : String) (d : Draft) : Option Draft := do
  let fragment := Text.bytesOf fragment
  let n ← Text.boundaryBelow? fragment (min fragment.length (← roomLeft? d.length))
  return ⟨← copyFront? d.room d.length fragment n, d.length + n⟩

/-- Writes the fragments one after another. -/
def writeAll? (fragments : List String) (d : Draft) : Option Draft :=
  fragments.foldlM (fun d fragment => d.write? fragment) d

/-- The message as far as it is written. Bytes that are no text read as a fixed word. -/
def text? (d : Draft) : Option String := do
  return (Text.ofBytes? (← Text.front? d.room d.length)).getD Entry.invalidText

end Draft

end InterruptCaps.Log
