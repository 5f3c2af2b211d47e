/-! Cutting text to a number of bytes. Text is measured in the bytes of its UTF-8 form, and a cut
    never splits a character: `clip limit s` is the longest beginning of `s` that takes at most
    `limit` bytes. `appendClipped` adds a fragment to text that has a fixed room; a fragment that
    does not fit is cut, and a later, shorter one may still find room. -/

namespace InterruptCaps.Text

/-- The characters from the front of `cs` while they fit into `room` bytes. -/
def clipChars : Nat → List Char → List Char
  | _, [] => []
  | room, c :: cs => if c.utf8Size ≤ room then c :: clipChars (room - c.utf8Size) cs else []

/-- The longest beginning of `s` of at most `limit` bytes. -/
def clip (limit : Nat) (s : String) : String := String.ofList (clipChars limit s.toList)

/-- `text` followed by as much of `fragment` as keeps the whole within `limit` bytes. -/
def appendClipped (limit : Nat) (text fragment : String) : String :=
  text ++ clip (limit - text.utf8ByteSize) fragment

/-- Fragments written one after another into an empty room of `limit` bytes. -/
def gather (limit : Nat) (fragments : List String) : String :=
  fragments.foldl (appendClipped limit) ""

/-- The text as a whole, if it takes at most `room` bytes. -/
def fit? (room : Nat) (s : String) : Option String :=
  if s.utf8ByteSize ≤ room then some s else none

/-- The bytes of `s` in UTF-8. -/
def bytesOf (s : String) : List UInt8 := s.toUTF8.data.toList

/-- The text that `bytes` are the UTF-8 form of, if they are one. -/
def ofBytes? (bytes : List UInt8) : Option String := String.fromUTF8? ⟨bytes.toArray⟩

theorem utf8ByteSize_clip_le (limit : Nat) (s : String) : (clip limit s).utf8ByteSize ≤ limit := by
  simp only [clip]
  generalize s.toList = cs
  induction cs generalizing limit with
  | nil => simp [clipChars]
  | cons c cs ih =>
    simp only [clipChars]
    split
    · have := ih (limit - c.utf8Size)
      rw [String.ofList_cons, String.utf8ByteSize_append, String.utf8ByteSize_singleton]
      omega
    · simp

theorem length_bytesOf (s : String) : (bytesOf s).length = s.utf8ByteSize := rfl

theorem bytesOf_append (s t : String) : bytesOf (s ++ t) = bytesOf s ++ bytesOf t := by
  simp [bytesOf]

theorem ofBytes?_bytesOf (s : String) : ofBytes? (bytesOf s) = some s := by
  have h : s.toByteArray.IsValidUTF8 := s.isValidUTF8
  simp [ofBytes?, bytesOf, String.fromUTF8?, h]
  rfl

end InterruptCaps.Text
