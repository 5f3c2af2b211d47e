import InterruptCaps.Log.Room
import InterruptCaps.Proofs.Log.Entries
import InterruptCaps.Proofs.Log.Writer
import InterruptCaps.Proofs.Text.Boundary

/-! A record written into an entry byte by byte. Each text is cut where a search downwards from the
    room that it finds stops, which is the longest beginning that fits; so no copy leaves the room,
    both lengths fit their fields, and the bytes of either text are text. Nothing is lost when what
    was read is written once more. -/

namespace InterruptCaps.Log

open Text

theorem length_emptyRoom : emptyRoom.length = entrySize := List.length_replicate

theorem roomLeft?_of_le {used : Nat} (h : used ≤ entrySize) :
    roomLeft? used = some (entrySize - used) := if_pos h

/-- The longest beginning of a text goes behind what is written, if it finds room. -/
theorem copyFront?_after {limit : Nat} {s : String} (done rest : List UInt8)
    (h : (clip limit s).utf8ByteSize ≤ rest.length) :
    copyFront? (done ++ rest) done.length (bytesOf s) (clip limit s).utf8ByteSize
      = some (done ++ bytesOf (clip limit s) ++ rest.drop (clip limit s).utf8ByteSize) := by
  rw [← length_bytesOf] at h ⊢
  rw [copyFront?, length_bytesOf, front?_clip, Option.bind_eq_bind, Option.bind_some]
  exact copyAt?_after done h

/-- Zeros behind the bytes are what there would be without them. -/
theorem Entry.fill_zeros (bytes : List UInt8) (n : Nat) :
    fill (bytes ++ List.replicate n 0) = fill bytes := by
  refine Vector.ext fun i _ => ?_
  have hzeros : ∀ l : List UInt8, l.toArray.getD i 0 = l[i]?.getD 0 := fun l => by simp
  simp only [fill, Vector.getElem_ofFn, hzeros, List.getElem?_append]
  split
  · rfl
  · rename_i hbytes
    rw [List.getElem?_eq_none (Nat.le_of_not_lt hbytes), List.getElem?_replicate]
    split <;> rfl

namespace Record

/-- Writing a record gives its entry. -/
theorem write?_eq (r : Record) :
    Entry.write? r.sequence r.level r.target r.message = some r.entry := by
  have hroom := r.kept_le
  have hsize : entrySize = 240 := rfl
  have hcutTarget : floorBoundary? (min entrySize 255) (bytesOf r.target)
      = some r.keptTarget.utf8ByteSize := floorBoundary?_bytesOf entrySize r.target
  have hcutMessage : floorBoundary? (entrySize - r.keptTarget.utf8ByteSize) (bytesOf r.message)
      = some r.keptMessage.utf8ByteSize := floorBoundary?_bytesOf _ r.message
  have htarget : copyFront? emptyRoom 0 (bytesOf r.target) r.keptTarget.utf8ByteSize
      = some (bytesOf r.keptTarget ++ emptyRoom.drop r.keptTarget.utf8ByteSize) := by
    refine copyFront?_after [] emptyRoom ?_
    rw [length_emptyRoom]
    exact utf8ByteSize_clip_le _ _
  have hmessage : copyFront? (bytesOf r.keptTarget ++ emptyRoom.drop r.keptTarget.utf8ByteSize)
      r.keptTarget.utf8ByteSize (bytesOf r.message) r.keptMessage.utf8ByteSize
      = some (bytesOf r.keptTarget ++ bytesOf r.keptMessage
        ++ (emptyRoom.drop r.keptTarget.utf8ByteSize).drop r.keptMessage.utf8ByteSize) := by
    refine copyFront?_after (bytesOf r.keptTarget) (emptyRoom.drop r.keptTarget.utf8ByteSize) ?_
    rw [List.length_drop, length_emptyRoom]
    exact utf8ByteSize_clip_le _ _
  have hcontent : Entry.fill (bytesOf r.keptTarget ++ bytesOf r.keptMessage
      ++ (emptyRoom.drop r.keptTarget.utf8ByteSize).drop r.keptMessage.utf8ByteSize)
      = Entry.fill (bytesOf r.keptTarget ++ bytesOf r.keptMessage) := by
    rw [emptyRoom, List.drop_replicate, List.drop_replicate, Entry.fill_zeros]
  have htargetLength : (UInt8.ofNat r.keptTarget.utf8ByteSize).toNat = r.keptTarget.utf8ByteSize :=
    UInt8.toNat_ofNat_of_lt (by rw [UInt8.size]; omega)
  have hmessageLength :
      (UInt16.ofNat r.keptMessage.utf8ByteSize).toNat = r.keptMessage.utf8ByteSize :=
    UInt16.toNat_ofNat_of_lt (by rw [UInt16.size]; omega)
  rw [Entry.write?]
  simp only [hcutTarget, htarget, roomLeft?_of_le (Nat.le_of_add_right_le hroom), hcutMessage,
    hmessage, hcontent, htargetLength, hmessageLength, Option.bind_eq_bind, Option.bind_some]
  rfl

/-- The entry holds the record: both texts as far as they fit, whole characters only, and nothing
    behind them. -/
structure StoredAs (r : Record) (e : Entry) (target message : String) : Prop where
  sequence : e.sequence = r.sequence
  severity : e.severity = r.level
  readTarget : e.target? = some target
  targetLongest : Longest entrySize r.target target
  /-- The bytes of the target are text, so what is read does not stand for bytes that are none. -/
  targetText : ofBytes? (e.content.toList.take e.targetLength) = some target
  readMessage : e.message? = some message
  messageLongest : Longest (entrySize - e.targetLength) r.message message
  messageText :
    ofBytes? ((e.content.toList.drop e.targetLength).take e.messageLength) = some message
  zeros : ∀ i (h : i < entrySize), e.targetLength + e.messageLength ≤ i → e.content[i] = 0

/-- The byte at a place behind both texts is zero. -/
theorem content_eq_zero (r : Record) {i : Nat} (h : i < entrySize)
    (hbehind : r.entry.targetLength + r.entry.messageLength ≤ i) : r.entry.content[i] = 0 := by
  have hlist := r.toList_content
  rw [← List.append_assoc] at hlist
  have hlength : (bytesOf r.keptTarget ++ bytesOf r.keptMessage).length ≤ i := by
    rwa [List.length_append, ← targetLength_entry, ← messageLength_entry]
  rw [← Vector.getElem_toList (by simpa using h), List.getElem_of_eq hlist,
    List.getElem_append_right hlength, List.getElem_replicate]

theorem storedAs_entry (r : Record) : r.StoredAs r.entry r.keptTarget r.keptMessage where
  sequence := rfl
  severity := r.severity_entry
  readTarget := r.target?_entry
  targetLongest := longest_clip entrySize r.target
  targetText := by rw [take_content, ofBytes?_bytesOf]
  readMessage := r.message?_entry
  messageLongest := longest_clip _ r.message
  messageText := by rw [take_drop_content, ofBytes?_bytesOf]
  zeros _ h hbehind := r.content_eq_zero h hbehind

/-- The record of what an entry has kept has the same entry. -/
theorem entry_kept (r : Record) :
    Record.entry ⟨r.sequence, r.level, r.keptTarget, r.keptMessage⟩ = r.entry := by
  have htarget : clip entrySize r.keptTarget = r.keptTarget :=
    clip_of_le (utf8ByteSize_clip_le _ _)
  have hmessage : clip (entrySize - r.keptTarget.utf8ByteSize) r.keptMessage = r.keptMessage :=
    clip_of_le (utf8ByteSize_clip_le _ _)
  rw [entry, Entry.ofText, htarget, hmessage]
  rfl

/-- Every record can be written. The entry holds it, and writing what was read from the entry gives
    the same entry. -/
theorem every_record_stored (r : Record) :
    ∃ e target message, Entry.write? r.sequence r.level r.target r.message = some e
      ∧ r.StoredAs e target message
      ∧ Entry.write? e.sequence e.severity target message = some e := by
  refine ⟨r.entry, r.keptTarget, r.keptMessage, r.write?_eq, r.storedAs_entry, ?_⟩
  have hagain := write?_eq ⟨r.sequence, r.level, r.keptTarget, r.keptMessage⟩
  rw [entry_kept] at hagain
  rw [severity_entry]
  exact hagain

end Record

end InterruptCaps.Log
