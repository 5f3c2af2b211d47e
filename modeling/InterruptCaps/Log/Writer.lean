import InterruptCaps.Log.Ring

/-! Lines written byte by byte. A reader's buffer has a fixed size; a line is copied into it part by
    part, once it has been found that all parts fit. Each line has the bytes behind the line before
    it as its buffer. An operation on bytes has no result where it would pass the end. -/

namespace InterruptCaps.Log

/-- Copies `part` over the bytes of `out` from `start` on. -/
def copyAt? (out : List UInt8) (start : Nat) (part : List UInt8) : Option (List UInt8) :=
  if start + part.length ≤ out.length then
    some (out.take start ++ part ++ out.drop (start + part.length))
  else none

/-- Copies the parts one behind the other from `start` on; gives the end of the last one, too. -/
def copyParts? (out : List UInt8) (start : Nat) : List (List UInt8) → Option (List UInt8 × Nat)
  | [] => some (out, start)
  | part :: parts => do
    let out ← copyAt? out start part
    copyParts? out (start + part.length) parts

/-- How many bytes a line takes. -/
def lineSize (tag target message : String) : Nat :=
  tag.utf8ByteSize + 1 + target.utf8ByteSize + 2 + message.utf8ByteSize + 1

/-- The parts of a line, in order. -/
def lineParts (tag target message : String) : List (List UInt8) :=
  [tag, " ", target, ": ", message, "\n"].map Text.bytesOf

/-- Writes the line of the entry to the front of `out`, if it fits, and says how long it is. -/
def Entry.writeTo? (e : Entry) (out : List UInt8) : Option (List UInt8 × Option Nat) := do
  let target ← e.target?
  let message ← e.message?
  if out.length < lineSize e.severity.tag target message then return (out, none)
  let (out, written) ← copyParts? out 0 (lineParts e.severity.tag target message)
  return (out, some written)

/-- Takes entries from the queue and writes their lines from `written` on, until one of them does
    not fit. There is no buffer if an entry cannot be read. -/
def writeLines? (out : List UInt8) (written : Nat) : List Entry → Option Drained × List Entry
  | [] => (some ⟨out, written⟩, [])
  | e :: rest =>
    if written ≤ out.length then
      match e.writeTo? (out.drop written) with
      | none => (none, rest)
      | some (tail, none) => (some ⟨out.take written ++ tail, written⟩, rest)
      | some (tail, some n) => writeLines? (out.take written ++ tail) (written + n) rest
    else (none, rest)

/-- Writes the lines of the oldest entries to the front of `out`. -/
def Ring.drainInto (out : List UInt8) (r : Ring) : Option Drained × Ring :=
  if r.enabled then
    let (drained, queue) := writeLines? out 0 r.queue
    (drained, { r with queue })
  else (some ⟨out, 0⟩, r)

end InterruptCaps.Log
