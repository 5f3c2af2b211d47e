import InterruptCaps.Log.Entry

/-! Entries that are made from text. Such an entry has its target at the front of its room, the
    message behind it, each cut to what it finds room for, and zeros to the end:

    ```
      0           t               t + m          240
      │  target   │    message    │  0  0  …  0  │
    ```

    So both texts are read back as they were written, and the entry has a line. That is not so for
    every entry: one that was put together otherwise may state lengths beyond its room. -/

namespace InterruptCaps.Log

/-- What is written to the log. -/
structure Record where
  sequence : Nat
  level : Level
  target : String
  message : String
  deriving DecidableEq

namespace Record

/-- As much of the target as an entry holds. -/
def keptTarget (r : Record) : String := Text.clip entrySize r.target

/-- As much of the message as goes behind the target. -/
def keptMessage (r : Record) : String :=
  Text.clip (entrySize - r.keptTarget.utf8ByteSize) r.message

/-- The entry that the buffer is given. -/
def entry (r : Record) : Entry := .ofText r.sequence r.level r.target r.message

/-- The line that a reader is given. -/
def line (r : Record) : String := s!"{r.level.tag} {r.keptTarget}: {r.keptMessage}\n"

end Record

/-- No line is longer: seven bytes for the level, four that separate, and what an entry holds. -/
def maxLineSize : Nat := 11 + entrySize

/-- Bytes that an entry has room for are followed by zeros. -/
theorem Entry.toList_fill {bytes : List UInt8} (h : bytes.length ≤ entrySize) :
    (fill bytes).toList = bytes ++ List.replicate (entrySize - bytes.length) 0 := by
  refine List.ext_getElem ?_ fun i hi _ => ?_
  · simp only [Vector.length_toList, List.length_append, List.length_replicate]
    omega
  · simp only [Vector.getElem_toList, fill, Vector.getElem_ofFn, List.getElem_append]
    by_cases hbytes : i < bytes.length <;> simp [hbytes]

namespace Record

variable (r : Record)

/-- Target and message find room together. -/
theorem kept_le : r.keptTarget.utf8ByteSize + r.keptMessage.utf8ByteSize ≤ entrySize := by
  have htarget := Text.utf8ByteSize_clip_le entrySize r.target
  have hmessage := Text.utf8ByteSize_clip_le (entrySize - r.keptTarget.utf8ByteSize) r.message
  rw [← keptTarget] at htarget
  rw [← keptMessage] at hmessage
  omega

/-- The room of the entry, from its first byte to its last. -/
theorem toList_content : r.entry.content.toList
    = Text.bytesOf r.keptTarget ++ (Text.bytesOf r.keptMessage ++ List.replicate
      (entrySize - (r.keptTarget.utf8ByteSize + r.keptMessage.utf8ByteSize)) 0) := by
  have hroom : (Text.bytesOf r.keptTarget ++ Text.bytesOf r.keptMessage).length ≤ entrySize := by
    rw [List.length_append]
    exact r.kept_le
  rw [← List.append_assoc]
  exact (Entry.toList_fill hroom).trans (by rw [List.length_append]; rfl)

theorem targetLength_entry : r.entry.targetLength = (Text.bytesOf r.keptTarget).length := rfl

theorem messageLength_entry : r.entry.messageLength = (Text.bytesOf r.keptMessage).length := rfl

theorem take_content :
    r.entry.content.toList.take r.entry.targetLength = Text.bytesOf r.keptTarget := by
  rw [toList_content, targetLength_entry, List.take_left]

theorem take_drop_content :
    (r.entry.content.toList.drop r.entry.targetLength).take r.entry.messageLength
      = Text.bytesOf r.keptMessage := by
  rw [toList_content, targetLength_entry, messageLength_entry, List.drop_left, List.take_left]

/-- The lengths of an entry do not pass its room. -/
theorem lengths_entry_le : r.entry.targetLength + r.entry.messageLength ≤ entrySize := r.kept_le

theorem target?_entry : r.entry.target? = some r.keptTarget := by
  have hroom := r.lengths_entry_le
  rw [Entry.target?, Entry.text?, if_pos (by omega), List.drop_zero, take_content,
    Text.ofBytes?_bytesOf]
  rfl

theorem message?_entry : r.entry.message? = some r.keptMessage := by
  rw [Entry.message?, Entry.text?, if_pos r.lengths_entry_le, take_drop_content,
    Text.ofBytes?_bytesOf]
  rfl

theorem severity_entry : r.entry.severity = r.level := Level.ofRank_rank r.level

/-- The entry of a record has the record's line. -/
theorem line?_entry : r.entry.line? = some r.line := by
  rw [Entry.line?, target?_entry, message?_entry, severity_entry]
  rfl

theorem utf8ByteSize_line_le : r.line.utf8ByteSize ≤ maxLineSize := by
  have hroom := r.kept_le
  have htag : r.level.tag.utf8ByteSize = 7 := by cases r.level <;> rfl
  have hline : r.line.utf8ByteSize = r.level.tag.utf8ByteSize + 1 + r.keptTarget.utf8ByteSize + 2
      + r.keptMessage.utf8ByteSize + 1 := by
    simp only [line, String.utf8ByteSize_append]
    rfl
  rw [hline, htag, maxLineSize]
  omega

end Record

end InterruptCaps.Log
