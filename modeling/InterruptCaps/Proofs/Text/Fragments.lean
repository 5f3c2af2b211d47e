import InterruptCaps.Proofs.Text.Boundary

/-! Fragments written one after another into a room. As long as they fit they are kept whole. The
    first that does not fit is cut, and with it the longest beginning of the whole text is reached;
    it leaves less room than the next character needs, so at most three bytes. Fragments behind the
    cut are still tried, and one that begins with a small enough character is kept.

    ```
      │ fragments that fit │ cut │ spare │
                                 └ may hold what stands behind the cut
    ``` -/

namespace InterruptCaps.Text

/-- The fragments behind the first one that does not fit as a whole. -/
def behindCut (room : Nat) : List String → List String
  | [] => []
  | f :: fs => if f.utf8ByteSize ≤ room then behindCut (room - f.utf8ByteSize) fs else fs

/-- The bytes that the longest beginning of `s` leaves free. -/
def spare (room : Nat) (s : String) : Nat := room - (clip room s).utf8ByteSize

variable {room : Nat} {text : String} {fs : List String}

@[simp] theorem gather_nil (room : Nat) : gather room [] = "" := rfl

/-- Behind a text that fits, fragments have the room that it leaves. -/
theorem foldl_appendClipped (h : text.utf8ByteSize ≤ room) :
    fs.foldl (appendClipped room) text = text ++ gather (room - text.utf8ByteSize) fs := by
  induction fs generalizing room text with
  | nil => rw [List.foldl_nil, gather_nil, String.append_empty]
  | cons f fs ih =>
    have hf := utf8ByteSize_clip_le (room - text.utf8ByteSize) f
    have hfirst : appendClipped (room - text.utf8ByteSize) "" f
        = clip (room - text.utf8ByteSize) f := String.empty_append
    rw [gather, List.foldl_cons, List.foldl_cons, hfirst, ih hf, appendClipped, ih,
      String.utf8ByteSize_append, String.append_assoc, Nat.sub_add_eq]
    rw [String.utf8ByteSize_append]
    omega

theorem gather_cons (room : Nat) (f : String) (fs : List String) :
    gather room (f :: fs)
      = clip room f ++ gather (room - (clip room f).utf8ByteSize) fs := by
  have hfirst : appendClipped room "" f = clip room f := String.empty_append
  rw [gather, List.foldl_cons, hfirst]
  exact foldl_appendClipped (utf8ByteSize_clip_le room f)

theorem utf8ByteSize_gather_le (room : Nat) (fs : List String) :
    (gather room fs).utf8ByteSize ≤ room := by
  induction fs generalizing room with
  | nil => exact Nat.zero_le room
  | cons f fs ih =>
    have hf := utf8ByteSize_clip_le room f
    have hfs := ih (room - (clip room f).utf8ByteSize)
    rw [gather_cons, String.utf8ByteSize_append]
    omega

/-- What is kept is the longest beginning of the whole text, and whatever of the fragments behind
    the cut finds place in the bytes that it leaves free. -/
theorem gather_eq (room : Nat) (fs : List String) :
    gather room fs = clip room (String.join fs)
      ++ gather (spare room (String.join fs)) (behindCut room fs) := by
  induction fs generalizing room with
  | nil => rfl
  | cons f fs ih =>
    rw [gather_cons, String.join_cons, spare, clip_append, behindCut]
    split
    · rename_i hf
      rw [clip_of_le hf, ih, spare, String.utf8ByteSize_append, String.append_assoc,
        Nat.sub_add_eq]
    · rfl

/-- A text that fits as a whole has no fragment behind a cut. -/
theorem behindCut_of_le (h : (String.join fs).utf8ByteSize ≤ room) : behindCut room fs = [] := by
  induction fs generalizing room with
  | nil => rfl
  | cons f fs ih =>
    rw [String.join_cons, String.utf8ByteSize_append] at h
    rw [behindCut, if_pos (by omega), ih (by omega)]

/-- At most three bytes of later fragments are kept. -/
theorem utf8ByteSize_behindCut_le (room : Nat) (fs : List String) :
    (gather (spare room (String.join fs)) (behindCut room fs)).utf8ByteSize ≤ 3 := by
  rcases clip_or room (String.join fs) with hall | ⟨c, rest, -, hc⟩
  · have hfits := utf8ByteSize_clip_le room (String.join fs)
    rw [hall] at hfits
    rw [behindCut_of_le hfits, gather_nil]
    exact Nat.zero_le 3
  · have hle := utf8ByteSize_gather_le (spare room (String.join fs)) (behindCut room fs)
    have hfour := c.utf8Size_le_four
    rw [spare] at hle ⊢
    omega

/-- Nothing is kept of a text that is empty or begins with a character that does not fit. -/
theorem clip_eq_empty_iff {s : String} :
    clip room s = "" ↔ ∀ c rest, s = String.singleton c ++ rest → room < c.utf8Size := by
  constructor
  · rintro h c rest rfl
    refine Nat.lt_of_not_le fun hc => ?_
    rw [clip_front, if_pos hc] at h
    have hsize := congrArg String.utf8ByteSize h
    rw [String.utf8ByteSize_append, String.utf8ByteSize_singleton] at hsize
    exact Nat.ne_of_gt (Nat.add_pos_left c.utf8Size_pos _) hsize
  · intro h
    induction s using frontInduction with
    | empty => rfl
    | front c s => rw [clip_front, if_neg (Nat.not_le.2 (h c s rfl))]

theorem gather_eq_empty_iff : gather room fs = "" ↔ ∀ f ∈ fs, clip room f = "" := by
  induction fs with
  | nil => simp
  | cons f fs ih =>
    rw [gather_cons, List.forall_mem_cons]
    by_cases hf : clip room f = ""
    · simp only [hf, String.empty_append, String.utf8ByteSize_empty, Nat.sub_zero, true_and, ih]
    · simp [hf]

/-- What is kept is a beginning of the whole text only if it is the longest that fits. -/
theorem begins_gather_iff : (∃ rest, String.join fs = gather room fs ++ rest)
    ↔ Longest room (String.join fs) (gather room fs) := by
  refine ⟨fun ⟨rest, hs⟩ => ⟨⟨rest, hs⟩, utf8ByteSize_gather_le room fs, fun q rest' hq hle => ?_⟩,
    Longest.begins⟩
  have hclip := (longest_clip room (String.join fs)).greatest q rest' hq hle
  rw [gather_eq, String.utf8ByteSize_append]
  exact Nat.le_add_right_of_le hclip

/-- The longest beginning is all that is kept if and only if every fragment behind the cut is empty
    or begins with a character that the free bytes do not hold. -/
theorem longest_gather_iff : Longest room (String.join fs) (gather room fs)
    ↔ ∀ f ∈ behindCut room fs, ∀ c rest, f = String.singleton c ++ rest →
      spare room (String.join fs) < c.utf8Size := by
  simp only [longest_iff, ← clip_eq_empty_iff, ← gather_eq_empty_iff]
  rw [gather_eq]
  constructor
  · intro h
    have hsize := congrArg String.utf8ByteSize h
    rw [String.utf8ByteSize_append] at hsize
    exact String.utf8ByteSize_eq_zero_iff.1 (by omega)
  · intro h
    rw [h, String.append_empty]

end InterruptCaps.Text
