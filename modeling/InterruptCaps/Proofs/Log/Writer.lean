import InterruptCaps.Log.Writer

/-! Writing byte by byte comes to writing whole lines. While lines are written, the buffer is always
    what has been written before, followed by what was there from that place on. Copying the next
    part moves the border between the two, and a line that does not fit leaves it where it is.

    ```
      │  written before  │  line  │  as it was  │
                         ↑        ↑
                      written  written + n
    ``` -/

namespace InterruptCaps.Log

/-- A part that finds room goes behind what is written. -/
theorem copyAt?_after {part rest : List UInt8} (done : List UInt8)
    (h : part.length ≤ rest.length) :
    copyAt? (done ++ rest) done.length part
      = some (done ++ part ++ rest.drop part.length) := by
  rw [copyAt?, if_pos (by rw [List.length_append]; omega), List.take_left,
    List.drop_length_add_append]

/-- Parts that find room together are copied one behind the other. -/
theorem copyParts?_after {parts : List (List UInt8)} {done rest : List UInt8}
    (h : parts.flatten.length ≤ rest.length) :
    copyParts? (done ++ rest) done.length parts
      = some (done ++ parts.flatten ++ rest.drop parts.flatten.length,
        done.length + parts.flatten.length) := by
  induction parts generalizing done rest with
  | nil => simp [copyParts?]
  | cons part parts ih =>
    rw [List.flatten_cons, List.length_append] at h
    have hnext := @ih (done ++ part) (rest.drop part.length) (by rw [List.length_drop]; omega)
    rw [List.length_append] at hnext
    rw [copyParts?, copyAt?_after done (by omega), Option.bind_eq_bind, Option.bind_some, hnext,
      List.flatten_cons, List.drop_drop, List.length_append, List.append_assoc done, Nat.add_assoc]

/-- The parts are those of the line. -/
theorem flatten_lineParts (tag target message : String) :
    (lineParts tag target message).flatten = Text.bytesOf s!"{tag} {target}: {message}\n" := by
  simp only [lineParts, List.map_cons, List.map_nil, List.flatten_cons, List.flatten_nil,
    Text.bytesOf_append, List.append_assoc, List.append_nil]
  rfl

/-- The size is that of the line. -/
theorem lineSize_eq (tag target message : String) :
    lineSize tag target message = (s!"{tag} {target}: {message}\n").utf8ByteSize := by
  simp only [String.utf8ByteSize_append]
  rfl

/-- A line is written as a whole or not at all. -/
theorem Entry.writeTo?_eq (e : Entry) (out : List UInt8) :
    e.writeTo? out = e.line?.map fun line =>
      if line.utf8ByteSize ≤ out.length
      then (Text.bytesOf line ++ out.drop line.utf8ByteSize, some line.utf8ByteSize)
      else (out, none) := by
  rw [writeTo?, line?]
  cases e.target? with
  | none => rfl
  | some target =>
    cases e.message? with
    | none => rfl
    | some message =>
      have hparts := flatten_lineParts e.severity.tag target message
      have hsize := lineSize_eq e.severity.tag target message
      simp only [Option.bind_eq_bind, Option.bind_some, Option.map_some, hsize]
      generalize s!"{e.severity.tag} {target}: {message}\n" = line at hparts ⊢
      by_cases hfits : line.utf8ByteSize ≤ out.length
      · have hcopied := @copyParts?_after (lineParts e.severity.tag target message) [] out
          (by rwa [hparts])
        rw [hparts, Text.length_bytesOf, List.nil_append, List.nil_append, List.length_nil,
          Nat.zero_add] at hcopied
        rw [if_neg (Nat.not_lt.2 hfits), if_pos hfits, hcopied]
        rfl
      · rw [if_pos (Nat.lt_of_not_le hfits), if_neg hfits]
        rfl

/-- What is written behind the first bytes are the lines that fit there. -/
theorem writeLines?_after (done rest : List UInt8) (queue : List Entry) :
    writeLines? (done ++ rest) done.length queue
      = ((takeLines rest.length queue).1.map fun text =>
          ⟨done ++ Text.bytesOf text ++ rest.drop text.utf8ByteSize,
            done.length + text.utf8ByteSize⟩,
        (takeLines rest.length queue).2) := by
  induction queue generalizing done rest with
  | nil =>
    rw [writeLines?, takeLines]
    simp [Text.bytesOf]
  | cons e queue ih =>
    have hroom : done.length ≤ (done ++ rest).length := by
      rw [List.length_append]
      omega
    rw [writeLines?, takeLines, if_pos hroom, List.drop_left, e.writeTo?_eq]
    cases e.line? with
    | none => rfl
    | some line =>
      by_cases hfits : line.utf8ByteSize ≤ rest.length
      · have hnext := ih (done ++ Text.bytesOf line) (rest.drop line.utf8ByteSize)
        rw [List.length_append, Text.length_bytesOf, List.length_drop] at hnext
        simp only [Option.map_some, hfits, if_true, List.take_left, Text.fit?]
        rw [← List.append_assoc, hnext, Option.map_map]
        congr 2
        funext text
        simp only [Function.comp_apply, Text.bytesOf_append, String.utf8ByteSize_append,
          List.drop_drop, List.append_assoc, Nat.add_assoc]
      · simp only [Option.map_some, hfits, if_false, List.take_left, Text.fit?]
        simp [Text.bytesOf]

/-- The bytes are those that a drain gives. -/
theorem Ring.drainInto_eq (r : Ring) (out : List UInt8) : r.drainInto out = r.drain out := by
  have h := writeLines?_after [] out r.queue
  rw [List.nil_append, List.length_nil] at h
  rw [drainInto, drain, h]
  simp only [List.nil_append, Nat.zero_add]

end InterruptCaps.Log
