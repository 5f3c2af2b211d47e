import InterruptCaps.Text.Clip

/-! Where text can be cut. Text in memory is bytes, and a cut is a number of bytes from the front.
    Each character begins with a byte that shows it, and goes on with up to three that do not; so
    a cut is looked for byte by byte from a limit downwards. An operation has no result where it
    would leave its range. -/

namespace InterruptCaps.Text

/-- Whether a byte of text begins a character: all do but those from 0x80 to 0xbf. -/
def beginsChar (b : UInt8) : Bool := b < 0x80 || 0xc0 ≤ b

/-- Whether text can be cut in front of byte `n`, or behind the last byte. -/
def isBoundary (bytes : List UInt8) (n : Nat) : Bool :=
  n == 0 || match bytes[n]? with
    | some b => beginsChar b
    | none => n == bytes.length

/-- The first place from `n` downwards where text can be cut, unless that is below zero. -/
def boundaryBelow? (bytes : List UInt8) : Nat → Option Nat
  | 0 => if isBoundary bytes 0 then some 0 else none
  | n + 1 => if isBoundary bytes (n + 1) then some (n + 1) else boundaryBelow? bytes n

/-- How many bytes of whole characters there are within `limit`. -/
def floorBoundary? (limit : Nat) (bytes : List UInt8) : Option Nat :=
  if bytes.length ≤ limit then some bytes.length else boundaryBelow? bytes limit

/-- The first `n` bytes, if there are as many. -/
def front? (bytes : List UInt8) (n : Nat) : Option (List UInt8) :=
  if n ≤ bytes.length then some (bytes.take n) else none

end InterruptCaps.Text
