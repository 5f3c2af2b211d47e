import InterruptCaps.Log.Entry

/-! The log buffer: a queue of at most 256 entries that is off until it is enabled. While it is off,
    nothing goes in or comes out. Once it is on, an entry that finds the queue full is dropped and
    counted, by a counter of 64 bits that wraps. Draining turns entries into lines from the oldest
    on, as long as they fit into the reader's buffer; the first that does not fit has left the queue
    and is lost. -/

namespace InterruptCaps.Log

/-- The queue holds at most this many entries. -/
def ringCapacity : Nat := 256

/-- The log buffer, the oldest entry first. -/
structure Ring where
  enabled : Bool
  queue : List Entry
  dropped : UInt64
  deriving DecidableEq

/-- A reader's buffer after draining, and how many bytes at its front are new. -/
structure Drained where
  out : List UInt8
  written : Nat

/-- The lines of the front entries that fit into `room` bytes, and the entries left in the queue.
    There is no text if an entry cannot be read; it has left the queue all the same. -/
def takeLines (room : Nat) : List Entry → Option String × List Entry
  | [] => (some "", [])
  | e :: rest =>
    match e.line? with
    | none => (none, rest)
    | some line =>
      match Text.fit? room line with
      | none => (some "", rest)
      | some line =>
        let (text, left) := takeLines (room - line.utf8ByteSize) rest
        (text.map (line ++ ·), left)

namespace Ring

/-- Off and empty. -/
def initial : Ring := ⟨false, [], 0⟩

def enable (r : Ring) : Ring := { r with enabled := true }

/-- Adds an entry at the end; says whether it was taken. -/
def push (e : Entry) (r : Ring) : Bool × Ring :=
  if !r.enabled then (false, r)
  else if r.queue.length < ringCapacity then (true, { r with queue := r.queue ++ [e] })
  else (false, { r with dropped := r.dropped + 1 })

/-- Takes the oldest entry. -/
def pop (r : Ring) : Option Entry × Ring :=
  if r.enabled then (r.queue.head?, { r with queue := r.queue.tail }) else (none, r)

/-- Writes the lines of the oldest entries to the front of `out`. Nothing is written if an entry
    cannot be read. -/
def drain (out : List UInt8) (r : Ring) : Option Drained × Ring :=
  if r.enabled then
    let (text, queue) := takeLines out.length r.queue
    (text.map fun text => ⟨Text.bytesOf text ++ out.drop text.utf8ByteSize, text.utf8ByteSize⟩,
      { r with queue })
  else (some ⟨out, 0⟩, r)

/-- Throws away everything in the queue. -/
def discard (r : Ring) : Ring := if r.enabled then { r with queue := [] } else r

end Ring

end InterruptCaps.Log
