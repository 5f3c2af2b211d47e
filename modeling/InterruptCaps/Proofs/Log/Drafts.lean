import InterruptCaps.Proofs.Log.Stored
import InterruptCaps.Proofs.Text.Fragments

/-! Messages written fragment by fragment. A draft always holds a text at the front of its room, so
    the next fragment is cut at a character and copied behind it; no write fails, and the message
    read at the end is `gather` of the fragments. That is not always a beginning of what was
    written: a cut is not remembered, and later text may still fit. -/

namespace InterruptCaps.Log

open Text

namespace Draft

/-- The draft holds the text. -/
structure Holds (d : Draft) (text : String) : Prop where
  room : ∃ rest, d.room = bytesOf text ++ rest
  size : d.room.length = entrySize
  length : d.length = text.utf8ByteSize

variable {d : Draft} {text : String}

theorem holds_empty : empty.Holds "" := ⟨⟨emptyRoom, rfl⟩, length_emptyRoom, rfl⟩

/-- As much of a fragment as fits goes behind the text. -/
theorem Holds.write? (h : d.Holds text) (fragment : String) :
    ∃ d', d.write? fragment = some d' ∧ d'.Holds (appendClipped entrySize text fragment) := by
  obtain ⟨⟨rest, hroom⟩, hsize, hlength⟩ := h
  rw [hroom, List.length_append, length_bytesOf] at hsize
  have hkept := utf8ByteSize_clip_le (entrySize - text.utf8ByteSize) fragment
  have hcut : boundaryBelow? (bytesOf fragment)
      (min (bytesOf fragment).length (entrySize - text.utf8ByteSize))
      = some (clip (entrySize - text.utf8ByteSize) fragment).utf8ByteSize := by
    rw [boundaryBelow?_bytesOf, length_bytesOf, clip_min]
  have hcopy := copyFront?_after (bytesOf text) rest
    (Nat.le_trans hkept (Nat.sub_le_of_le_add (by omega)))
  rw [length_bytesOf] at hcopy
  rw [appendClipped]
  generalize clip (entrySize - text.utf8ByteSize) fragment = kept at hkept hcut hcopy
  refine ⟨⟨bytesOf text ++ bytesOf kept ++ rest.drop kept.utf8ByteSize,
    text.utf8ByteSize + kept.utf8ByteSize⟩, ?_, ⟨rest.drop kept.utf8ByteSize, ?_⟩, ?_, ?_⟩
  · rw [Draft.write?, hroom, hlength, roomLeft?_of_le (by omega), Option.bind_eq_bind,
      Option.bind_some, hcut, Option.bind_some, hcopy]
    rfl
  · rw [bytesOf_append]
  · simp only [List.length_append, List.length_drop, length_bytesOf]
    omega
  · rw [String.utf8ByteSize_append]

/-- Fragments go one behind the other. -/
theorem Holds.writeAll? (h : d.Holds text) (fragments : List String) :
    ∃ d', d.writeAll? fragments = some d'
      ∧ d'.Holds (fragments.foldl (appendClipped entrySize) text) := by
  induction fragments generalizing d text with
  | nil => exact ⟨d, rfl, h⟩
  | cons f fs ih =>
    obtain ⟨d₁, hd₁, h₁⟩ := h.write? f
    obtain ⟨d₂, hd₂, h₂⟩ := ih h₁
    refine ⟨d₂, ?_, h₂⟩
    rw [Draft.writeAll?, List.foldlM_cons, hd₁, Option.bind_eq_bind, Option.bind_some]
    exact hd₂

/-- The text that a draft holds is read. -/
theorem Holds.text? (h : d.Holds text) : d.text? = some text := by
  obtain ⟨rest, hroom⟩ := h.room
  rw [Draft.text?, h.length, hroom, front?, ← length_bytesOf, if_pos (by simp), List.take_left]
  simp [ofBytes?_bytesOf]

/-- Fragments can always be written, and the message is read as gathered. -/
theorem writeAll?_empty (fragments : List String) :
    ∃ d, empty.writeAll? fragments = some d ∧ d.text? = some (gather entrySize fragments) := by
  obtain ⟨d, hd, holds⟩ := holds_empty.writeAll? fragments
  exact ⟨d, hd, holds.text?⟩

/-- Fragments can always be written. The message is the longest beginning of them all that fits,
    with at most three bytes of fragments behind the cut; it is a beginning of them, and then the
    longest, if and only if each of those fragments is empty or begins with a character for which
    there is no place. -/
theorem drafted_longest_iff (fragments : List String) :
    ∃ d text kept later, empty.writeAll? fragments = some d ∧ d.text? = some text
      ∧ text = gather entrySize fragments
      ∧ Longest entrySize (String.join fragments) kept
      ∧ text = kept ++ later ∧ later.utf8ByteSize ≤ 3
      ∧ ((∃ rest, String.join fragments = text ++ rest)
        ↔ Longest entrySize (String.join fragments) text)
      ∧ (Longest entrySize (String.join fragments) text
        ↔ ∀ f ∈ behindCut entrySize fragments, ∀ c rest, f = String.singleton c ++ rest →
          entrySize < kept.utf8ByteSize + c.utf8Size) := by
  obtain ⟨d, hd, hread⟩ := writeAll?_empty fragments
  have hkept := utf8ByteSize_clip_le entrySize (String.join fragments)
  have hspare : ∀ n, spare entrySize (String.join fragments) < n
      ↔ entrySize < (clip entrySize (String.join fragments)).utf8ByteSize + n := by
    intro n
    rw [spare]
    omega
  refine ⟨d, _, clip entrySize (String.join fragments), _, hd, hread, rfl, longest_clip _ _,
    gather_eq _ _, utf8ByteSize_behindCut_le _ _, begins_gather_iff, ?_⟩
  simp only [longest_gather_iff, hspare]

/-- A text that leaves one byte free. -/
def nearlyFull : String := String.ofList (List.replicate 239 'x')

/-- A character of two bytes does not fit into the last byte, but the letter behind it does: what is
    read is no beginning of what was written. -/
theorem letter_kept_behind_cut :
    ((empty.writeAll? [nearlyFull, "é", "y"]).bind text?) = some (nearlyFull ++ "y")
      ∧ (¬ ∃ rest, String.join [nearlyFull, "é", "y"] = nearlyFull ++ "y" ++ rest)
      ∧ ¬ Longest entrySize (String.join [nearlyFull, "é", "y"]) (nearlyFull ++ "y") := by
  have hsize : nearlyFull.utf8ByteSize = 239 := by decide +kernel
  have hfits : nearlyFull.utf8ByteSize ≤ entrySize := by rw [hsize]; decide
  have hleft : entrySize - nearlyFull.utf8ByteSize = 1 := by rw [hsize]; rfl
  have hgather : gather entrySize [nearlyFull, "é", "y"] = nearlyFull ++ "y" := by
    rw [gather_cons, clip_of_le hfits, hleft]
    rfl
  have hclip : clip entrySize (String.join [nearlyFull, "é", "y"]) = nearlyFull := by
    rw [String.join_cons, clip_append, if_pos hfits, hleft]
    exact String.append_empty
  have hnot : ¬ Longest entrySize (String.join [nearlyFull, "é", "y"]) (nearlyFull ++ "y") := by
    rw [longest_iff, hclip]
    intro h
    have happend := congrArg String.utf8ByteSize h
    rw [String.utf8ByteSize_append] at happend
    exact absurd (Nat.add_eq_left.1 happend) (by decide)
  obtain ⟨d, hd, hread⟩ := writeAll?_empty [nearlyFull, "é", "y"]
  refine ⟨?_, fun h => hnot ?_, hnot⟩
  · rw [hd, Option.bind_some, hread, hgather]
  · rw [← hgather] at h ⊢
    exact begins_gather_iff.1 h

end Draft

end InterruptCaps.Log
