import InterruptCaps.Log.Ring
import InterruptCaps.Text.Hex

/-! The logger. A record up to the ceiling, once the logger is installed, and no finer than debug,
    takes the next sequence number, goes into the buffer, and is written to the console if there
    is one. The number is taken whether or not the buffer takes the entry; numbers have 64 bits and
    start again after the last one. Message and console line are put together from fragments in
    rooms of 240 bytes each. -/

namespace InterruptCaps.Log

/-- The logging state; consoles are named by values of `Console`. -/
structure Logger (Console : Type) where
  ring : Ring
  /-- The number of the next record. -/
  nextSequence : UInt64
  /-- Records reach the logger at all. -/
  installed : Bool
  /-- The finest level that is let through; none lets nothing through. -/
  ceiling : Option Level
  console : Option Console

namespace Logger

variable {Console : Type}

/-- Nothing is enabled or installed. -/
def initial : Logger Console := ⟨.initial, 0, false, none, none⟩

/-- Enables the buffer and installs the logger. Only the first time the ceiling is set to debug. -/
def install (l : Logger Console) : Logger Console :=
  { l with
    ring := l.ring.enable
    installed := true
    ceiling := if l.installed then l.ceiling else some .debug }

/-- The number of a new record. -/
def takeSequence (l : Logger Console) : UInt64 × Logger Console :=
  (l.nextSequence, { l with nextSequence := l.nextSequence + 1 })

/-- The line that the console shows. -/
def consoleLine (sequence : UInt64) (level : Level) (target message : String) : String :=
  Text.gather entrySize
    ["[", Text.decimalWide 6 sequence.toNat, "] ", level.consoleName, " ", target, ": ", message,
      "\n"]

/-- Takes a record that was let through; gives what the console shows. The message comes in
    fragments. Records finer than debug are ignored. -/
def accept (level : Level) (target : String) (fragments : List String) (l : Logger Console) :
    Option (Console × String) × Logger Console :=
  if level = .trace then (none, l)
  else
    let (sequence, l) := l.takeSequence
    let message := Text.gather entrySize fragments
    let ring := (l.ring.push (.ofText sequence.toNat level target message)).2
    (l.console.map fun console => (console, consoleLine sequence level target message),
      { l with ring })

/-- Whether records of this level reach the logger. -/
def passes (l : Logger Console) (level : Level) : Bool :=
  l.installed && l.ceiling.any fun ceiling => level.rank ≤ ceiling.rank

/-- Logs a record. -/
def record (level : Level) (target : String) (fragments : List String) (l : Logger Console) :
    Option (Console × String) × Logger Console :=
  if l.passes level then l.accept level target fragments else (none, l)

end Logger

end InterruptCaps.Log
