import InterruptCaps.Text.Clip
import InterruptCaps.Log.Level

/-! Entries of the log buffer. An entry has room for 240 bytes: the target's text, then the
    message's, then zeros. Text that does not fit is cut at a character boundary, the message
    having what the target leaves. An entry that was not made from text may state lengths beyond
    its room, which cannot be read, or bytes that are no text, which read as a fixed word. -/

namespace InterruptCaps.Log

/-- How many bytes of text an entry holds. -/
def entrySize : Nat := 240

/-- One record as the buffer keeps it. -/
structure Entry where
  /-- The place in the order of records. -/
  sequence : Nat
  /-- The rank of the level; every number past the last rank counts as the last. -/
  level : Nat
  targetLength : Nat
  messageLength : Nat
  content : Vector UInt8 entrySize
  deriving DecidableEq

namespace Entry

/-- The bytes at the front of an entry's room, zeros after them. -/
def fill (bytes : List UInt8) : Vector UInt8 entrySize :=
  let bytes := bytes.toArray
  Vector.ofFn fun i => bytes.getD i 0

/-- The entry without any text. -/
def blank : Entry := ⟨0, 0, 0, 0, fill []⟩

/-- The entry of a record. -/
def ofText (sequence : Nat) (level : Level) (target message : String) : Entry :=
  let target := Text.clip entrySize target
  let message := Text.clip (entrySize - target.utf8ByteSize) message
  { sequence, level := level.rank
    targetLength := target.utf8ByteSize
    messageLength := message.utf8ByteSize
    content := fill (Text.bytesOf target ++ Text.bytesOf message) }

/-- What bytes that are no text read as. -/
def invalidText : String := "<invalid>"

/-- The text of `length` bytes from `start` on, unless they pass the end of the room. -/
def text? (e : Entry) (start length : Nat) : Option String :=
  if start + length ≤ entrySize then
    some ((Text.ofBytes? ((e.content.toList.drop start).take length)).getD invalidText)
  else none

def target? (e : Entry) : Option String := e.text? 0 e.targetLength

def message? (e : Entry) : Option String := e.text? e.targetLength e.messageLength

def severity (e : Entry) : Level := .ofRank e.level

/-- The entry as a line of the log, if its texts can be read. -/
def line? (e : Entry) : Option String :=
  match e.target?, e.message? with
  | some target, some message => some s!"{e.severity.tag} {target}: {message}\n"
  | _, _ => none

end Entry

end InterruptCaps.Log
