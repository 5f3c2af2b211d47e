import InterruptCaps.Text.Boundary

/-! The longest beginning of a text that fits. `clip` finds it from the front, character by
    character; `floorBoundary?` finds it on the bytes, from the limit downwards. Both are right,
    hence equal: a text can be cut in front of a byte exactly if the bytes before it are a
    beginning of the text.

    ```
      a      é         │  y           limit 2
      61     c3     a9 │  79
      yes    yes    no    yes         may a cut be in front?
    ``` -/

namespace InterruptCaps.Text

/-- A property of texts, from the empty one on by one more character at the front. -/
theorem frontInduction {P : String → Prop} (empty : P "")
    (front : ∀ c s, P s → P (String.singleton c ++ s)) (s : String) : P s := by
  rw [← String.ofList_toList (s := s)]
  induction s.toList with
  | nil => exact empty
  | cons c cs ih =>
    rw [String.ofList_cons]
    exact front c _ ih

/-! ### The longest beginning -/

/-- `p` is the longest beginning of `s` that takes at most `limit` bytes. -/
structure Longest (limit : Nat) (s p : String) : Prop where
  begins : ∃ rest, s = p ++ rest
  fits : p.utf8ByteSize ≤ limit
  greatest : ∀ q rest, s = q ++ rest → q.utf8ByteSize ≤ limit → q.utf8ByteSize ≤ p.utf8ByteSize

@[simp] theorem clip_empty (limit : Nat) : clip limit "" = "" := rfl

theorem clip_front (limit : Nat) (c : Char) (s : String) :
    clip limit (String.singleton c ++ s)
      = if c.utf8Size ≤ limit then String.singleton c ++ clip (limit - c.utf8Size) s else "" := by
  have hlist : (String.singleton c ++ s).toList = c :: s.toList := by simp
  rw [clip, hlist, clipChars]
  split
  · rw [String.ofList_cons]
    rfl
  · rfl

/-- What fits is kept, and what follows has the room that it leaves. -/
theorem clip_append (limit : Nat) (s t : String) :
    clip limit (s ++ t)
      = if s.utf8ByteSize ≤ limit then s ++ clip (limit - s.utf8ByteSize) t else clip limit s := by
  induction s using frontInduction generalizing limit with
  | empty => simp
  | front c s ih =>
    rw [String.append_assoc, clip_front, clip_front, ih, String.utf8ByteSize_append,
      String.utf8ByteSize_singleton]
    by_cases hc : c.utf8Size ≤ limit
    · by_cases hs : s.utf8ByteSize ≤ limit - c.utf8Size
      · rw [if_pos hc, if_pos hs, if_pos (by omega), String.append_assoc, Nat.sub_sub]
      · rw [if_pos hc, if_neg hs, if_neg (by omega), if_pos hc]
    · rw [if_neg hc, if_neg (by omega), if_neg hc]

theorem clip_of_le {limit : Nat} {s : String} (h : s.utf8ByteSize ≤ limit) : clip limit s = s := by
  have happend := clip_append limit s ""
  rwa [String.append_empty, if_pos h, clip_empty, String.append_empty] at happend

/-- A limit beyond the end of the text does not count. -/
theorem clip_min (limit : Nat) (s : String) : clip (min s.utf8ByteSize limit) s = clip limit s := by
  rcases Nat.le_total s.utf8ByteSize limit with h | h
  · rw [Nat.min_eq_left h, clip_of_le (Nat.le_refl _), clip_of_le h]
  · rw [Nat.min_eq_right h]

/-- A text is what is kept of it and, if something is not, a character that does not fit. -/
theorem clip_or (limit : Nat) (s : String) :
    clip limit s = s ∨ ∃ c rest, s = clip limit s ++ (String.singleton c ++ rest)
      ∧ limit < (clip limit s).utf8ByteSize + c.utf8Size := by
  induction s using frontInduction generalizing limit with
  | empty => exact .inl rfl
  | front c s ih =>
    rw [clip_front]
    split
    · rcases ih (limit - c.utf8Size) with hall | ⟨d, rest, hs, hd⟩
      · exact .inl (by rw [hall])
      · refine .inr ⟨d, rest, ?_, ?_⟩
        · rw [String.append_assoc, ← hs]
        · rw [String.utf8ByteSize_append, String.utf8ByteSize_singleton]
          omega
    · rename_i hc
      exact .inr ⟨c, s, String.empty_append.symm, by simpa using Nat.lt_of_not_le hc⟩

theorem longest_clip (limit : Nat) (s : String) : Longest limit s (clip limit s) where
  begins := by
    rcases clip_or limit s with hall | ⟨c, rest, hs, -⟩
    · exact ⟨"", by rw [hall, String.append_empty]⟩
    · exact ⟨_, hs⟩
  fits := utf8ByteSize_clip_le limit s
  greatest := by
    rintro q rest rfl hq
    rw [clip_append, if_pos hq, String.utf8ByteSize_append]
    exact Nat.le_add_right _ _

/-- There is one longest beginning. -/
theorem longest_iff {limit : Nat} {s p : String} : Longest limit s p ↔ p = clip limit s := by
  constructor
  · rintro ⟨⟨rest, rfl⟩, fits, greatest⟩
    obtain ⟨rest', hs⟩ := (longest_clip limit (p ++ rest)).begins
    have hsize := greatest _ rest' hs (utf8ByteSize_clip_le limit _)
    rw [clip_append, if_pos fits] at hsize ⊢
    rw [String.utf8ByteSize_append] at hsize
    have hnone : clip (limit - p.utf8ByteSize) rest = "" :=
      String.utf8ByteSize_eq_zero_iff.1 (by omega)
    rw [hnone, String.append_empty]
  · rintro rfl
    exact longest_clip limit s

/-! ### Bytes -/

theorem bytesOf_singleton (c : Char) : bytesOf (String.singleton c) = String.utf8EncodeChar c := by
  simp [bytesOf, List.utf8Encode_singleton]

theorem beginsChar_ofNat {n : Nat} (h : n < 256) :
    beginsChar (UInt8.ofNat n) = true ↔ n < 128 ∨ 192 ≤ n := by
  have hn : (UInt8.ofNat n).toNat = n := UInt8.toNat_ofNat_of_lt h
  rw [beginsChar, Bool.or_eq_true, decide_eq_true_iff, decide_eq_true_iff, UInt8.lt_iff_toNat_lt,
    UInt8.le_iff_toNat_le, hn]
  rfl

/-- Of several bytes the first has its upper two bits set; the others carry six bits each. -/
theorem beginsChar_of_several {first i : Nat} {b : UInt8} (tail : List Nat) (hlow : 192 ≤ first)
    (hhigh : first < 256)
    (h : (UInt8.ofNat first :: tail.map fun n => UInt8.ofNat (n % 64 + 128))[i]? = some b) :
    beginsChar b = true ↔ i = 0 := by
  cases i with
  | zero =>
    cases h
    exact iff_of_true ((beginsChar_ofNat hhigh).2 (.inr hlow)) rfl
  | succ i =>
    obtain ⟨n, -, rfl⟩ := List.mem_map.1 (List.mem_of_getElem? h)
    rw [beginsChar_ofNat (by omega)]
    omega

/-- A character shows that it begins in its first byte and in no other. -/
theorem beginsChar_of_encoded {c : Char} {i : Nat} {b : UInt8}
    (h : (String.utf8EncodeChar c)[i]? = some b) : beginsChar b = true ↔ i = 0 := by
  rw [String.utf8EncodeChar] at h
  generalize c.val.toNat = v at h
  -- one case for each length, from one byte to four
  split at h
  · cases i with
    | zero =>
      cases h
      rw [beginsChar_ofNat (by omega)]
      omega
    | succ i => cases h
  split at h
  · exact beginsChar_of_several [v] (by omega) (by omega) h
  split at h
  · exact beginsChar_of_several [v / 64, v] (by omega) (by omega) h
  · exact beginsChar_of_several [v / 4096, v / 64, v] (by omega) (by omega) h

theorem bytesOf_front (c : Char) (s : String) :
    bytesOf (String.singleton c ++ s) = String.utf8EncodeChar c ++ bytesOf s := by
  rw [bytesOf_append, bytesOf_singleton]

/-- Text begins with a character. -/
theorem beginsChar_of_head {s : String} {b : UInt8} (h : (bytesOf s)[0]? = some b) :
    beginsChar b = true := by
  induction s using frontInduction with
  | empty => cases h
  | front c s =>
    have hpos : 0 < (String.utf8EncodeChar c).length :=
      List.length_pos_iff.2 String.utf8EncodeChar_ne_nil
    rw [bytesOf_front, List.getElem?_append_left hpos] at h
    exact (beginsChar_of_encoded h).2 rfl

/-- Text can be cut where a beginning of it ends. -/
theorem isBoundary_append (p rest : String) :
    isBoundary (bytesOf (p ++ rest)) p.utf8ByteSize = true := by
  rw [isBoundary, bytesOf_append, ← length_bytesOf p, List.getElem?_append_right (Nat.le_refl _),
    Nat.sub_self, Bool.or_eq_true]
  refine .inr ?_
  cases hb : (bytesOf rest)[0]? with
  | some b => exact beginsChar_of_head hb
  | none =>
    have hnil : bytesOf rest = [] := by simpa using hb
    simp [hnil]

/-- Nowhere within its first character can text be cut. -/
theorem isBoundary_of_front {c : Char} {s : String} {n : Nat} (hpos : 0 < n)
    (h : isBoundary (bytesOf (String.singleton c ++ s)) n = true) :
    c.utf8Size ≤ n ∧ isBoundary (bytesOf s) (n - c.utf8Size) = true := by
  have hlength : (String.utf8EncodeChar c).length = c.utf8Size := String.length_utf8EncodeChar c
  rw [isBoundary, bytesOf_front, beq_false_of_ne (Nat.ne_of_gt hpos), Bool.false_or] at h
  rcases Nat.lt_or_ge n c.utf8Size with hin | hout
  · have hb := List.getElem?_eq_getElem (hlength.symm ▸ hin)
    rw [List.getElem?_append_left (hlength.symm ▸ hin), hb] at h
    exact absurd ((beginsChar_of_encoded hb).1 h) (Nat.ne_of_gt hpos)
  · refine ⟨hout, ?_⟩
    rw [List.getElem?_append_right (hlength.symm ▸ hout), List.length_append, hlength] at h
    rw [isBoundary, Bool.or_eq_true]
    refine .inr ?_
    split at h
    · exact h
    · simp only [beq_iff_eq] at h ⊢
      omega

/-- The bytes in front of a place where text can be cut are a beginning of the text. -/
theorem isBoundary_iff {s : String} {n : Nat} : isBoundary (bytesOf s) n = true
    ↔ ∃ p rest, s = p ++ rest ∧ p.utf8ByteSize = n := by
  constructor
  · intro h
    induction s using frontInduction generalizing n with
    | empty =>
      have hn : n = 0 := by simpa [isBoundary, bytesOf] using h
      exact ⟨"", "", rfl, hn.symm⟩
    | front c s ih =>
      rcases Nat.eq_zero_or_pos n with rfl | hpos
      · exact ⟨"", _, String.empty_append.symm, rfl⟩
      · obtain ⟨hc, hcut⟩ := isBoundary_of_front hpos h
        obtain ⟨p, rest, rfl, hp⟩ := ih hcut
        refine ⟨String.singleton c ++ p, rest, String.append_assoc.symm, ?_⟩
        rw [String.utf8ByteSize_append, String.utf8ByteSize_singleton]
        omega
  · rintro ⟨p, rest, rfl, rfl⟩
    exact isBoundary_append p rest

/-- The search stops at the first place that it can stop at. -/
theorem boundaryBelow?_eq_some {bytes : List UInt8} {m n : Nat} (hm : m ≤ n)
    (hcut : isBoundary bytes m = true) (hnone : ∀ i, m < i → i ≤ n → isBoundary bytes i = false) :
    boundaryBelow? bytes n = some m := by
  induction n with
  | zero =>
    obtain rfl := Nat.le_zero.1 hm
    rw [boundaryBelow?, if_pos hcut]
  | succ n ih =>
    rw [boundaryBelow?]
    rcases Nat.lt_or_eq_of_le hm with hlt | rfl
    · have hle := Nat.le_of_lt_succ hlt
      rw [hnone (n + 1) hlt (Nat.le_refl _), if_neg Bool.false_ne_true,
        ih hle fun i hi hin => hnone i hi (Nat.le_succ_of_le hin)]
    · rw [if_pos hcut]

/-- Searching downwards finds the longest beginning. -/
theorem boundaryBelow?_bytesOf (limit : Nat) (s : String) :
    boundaryBelow? (bytesOf s) limit = some (clip limit s).utf8ByteSize := by
  obtain ⟨begins, fits, greatest⟩ := longest_clip limit s
  obtain ⟨rest, hs⟩ := begins
  refine boundaryBelow?_eq_some fits (isBoundary_iff.2 ⟨_, rest, hs, rfl⟩) fun i hi hlimit => ?_
  refine Bool.eq_false_iff.2 fun hcut => ?_
  obtain ⟨q, rest, hq, rfl⟩ := isBoundary_iff.1 hcut
  exact Nat.not_le.2 hi (greatest q rest hq hlimit)

theorem floorBoundary?_bytesOf (limit : Nat) (s : String) :
    floorBoundary? limit (bytesOf s) = some (clip limit s).utf8ByteSize := by
  rw [floorBoundary?]
  split
  · rename_i hall
    rw [clip_of_le hall]
    rfl
  · exact boundaryBelow?_bytesOf limit s

/-- The bytes in front of the cut are those of the longest beginning. -/
theorem front?_clip (limit : Nat) (s : String) :
    front? (bytesOf s) (clip limit s).utf8ByteSize = some (bytesOf (clip limit s)) := by
  obtain ⟨rest, hs⟩ := (longest_clip limit s).begins
  have hbytes : bytesOf s = bytesOf (clip limit s) ++ bytesOf rest := by
    rw [← bytesOf_append, ← hs]
  rw [front?, hbytes, ← length_bytesOf, if_pos (by simp), List.take_left]

end InterruptCaps.Text
