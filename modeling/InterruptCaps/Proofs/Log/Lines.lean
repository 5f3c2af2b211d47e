import InterruptCaps.Log.Ring
import Mathlib.Data.Nat.Find

/-! Draining splits the queue in three. The lines of as many entries as fit into the reader's buffer
    together are written, the next entry has left the queue and is lost, and all others stay. An
    entry that cannot be read has no line, so it fits nowhere; reaching it leaves the drain
    without a result.

        e₁  e₂  …  eₖ  │  eₖ₊₁  │  eₖ₊₂  …
           written     │  lost  │   left

    Here `k` is `fitting`, the greatest number of entries that fit; `takeLines` walks along the
    queue and never counts. -/

namespace InterruptCaps.Log

/-- The lines of the entries one after another, if all of them can be read. -/
def lines? : List Entry → Option String
  | [] => some ""
  | e :: es =>
    match e.line?, lines? es with
    | some line, some text => some (line ++ text)
    | _, _ => none

/-- Whether the lines of the entries fit into `room` bytes together. -/
def fits (room : Nat) (es : List Entry) : Bool := (lines? es).any (·.utf8ByteSize ≤ room)

/-- The greatest number of entries from the front whose lines fit into `room` bytes together. -/
def fitting (room : Nat) (queue : List Entry) : Nat :=
  Nat.findGreatest (fun n => fits room (queue.take n) = true) queue.length

variable {room : Nat} {e : Entry} {es queue : List Entry}

theorem fits_iff : fits room es = true
    ↔ ∃ text, lines? es = some text ∧ text.utf8ByteSize ≤ room := by
  rw [fits, Option.any_eq_true]
  simp only [decide_eq_true_iff]

theorem fits_nil (room : Nat) : fits room [] = true :=
  fits_iff.2 ⟨"", rfl, Nat.zero_le room⟩

/-- A first line takes its bytes from the room of the others. -/
theorem fits_cons : fits room (e :: es) = true ↔ ∃ line, e.line? = some line
    ∧ line.utf8ByteSize ≤ room ∧ fits (room - line.utf8ByteSize) es = true := by
  simp only [fits_iff, lines?]
  cases e.line? with
  | none => simp
  | some line =>
    cases lines? es with
    | none => simp
    | some text =>
      simp only [Option.some.injEq, exists_eq_left', String.utf8ByteSize_append]
      omega

theorem fitting_le_length (room : Nat) (queue : List Entry) : fitting room queue ≤ queue.length :=
  Nat.findGreatest_le _

/-- What is counted fits. -/
theorem fits_take_fitting (room : Nat) (queue : List Entry) :
    fits room (queue.take (fitting room queue)) = true :=
  Nat.findGreatest_spec (P := fun n => fits room (queue.take n) = true) (Nat.zero_le _)
    (fits_nil room)

@[simp] theorem fitting_nil (room : Nat) : fitting room [] = 0 := rfl

/-- If not even the first line fits, none is counted. -/
theorem fitting_cons_of_not (h : ∀ line, e.line? = some line → room < line.utf8ByteSize) :
    fitting room (e :: es) = 0 := by
  refine Nat.findGreatest_eq_zero_iff.2 fun n hn _ hfits => ?_
  obtain ⟨m, rfl⟩ := Nat.exists_eq_add_of_lt hn
  rw [Nat.zero_add, List.take_succ_cons, fits_cons] at hfits
  obtain ⟨line, hline, hroom, -⟩ := hfits
  exact Nat.not_lt.2 hroom (h line hline)

/-- A first line that fits is counted, and the others have the room that it leaves. -/
theorem fitting_cons {line : String} (hline : e.line? = some line)
    (hroom : line.utf8ByteSize ≤ room) :
    fitting room (e :: es) = fitting (room - line.utf8ByteSize) es + 1 := by
  have hcons : ∀ n, fits room ((e :: es).take (n + 1)) = true
      ↔ fits (room - line.utf8ByteSize) (es.take n) = true := by
    intro n
    rw [List.take_succ_cons, fits_cons]
    constructor
    · rintro ⟨line', hline', -, hfits⟩
      rw [hline] at hline'
      cases hline'
      exact hfits
    · intro hfits
      exact ⟨line, hline, hroom, hfits⟩
  refine Nat.findGreatest_eq_iff.2 ⟨?_, fun _ => ?_, fun n hn hlength hfits => ?_⟩
  · exact Nat.succ_le_succ (fitting_le_length _ es)
  · exact (hcons _).2 (fits_take_fitting _ es)
  · obtain ⟨m, rfl⟩ := Nat.exists_eq_succ_of_ne_zero (Nat.ne_of_gt (Nat.zero_lt_of_lt hn))
    exact Nat.findGreatest_is_greatest (Nat.lt_of_succ_lt_succ hn) (Nat.le_of_succ_le_succ hlength)
      ((hcons m).1 hfits)

/-- The lines of the entries that fit are written, unless the next one cannot be read; it has left
    the queue, and all others stay. -/
theorem takeLines_eq (room : Nat) (queue : List Entry) :
    takeLines room queue
      = (if (queue[fitting room queue]?).all (·.line?.isSome)
          then lines? (queue.take (fitting room queue)) else none,
        queue.drop (fitting room queue + 1)) := by
  induction queue generalizing room with
  | nil => rfl
  | cons e rest ih =>
    rw [takeLines]
    cases hline : e.line? with
    | none =>
      rw [fitting_cons_of_not (by rw [hline]; exact fun _ h => nomatch h)]
      simp [hline]
    | some line =>
      simp only [Text.fit?]
      by_cases hroom : line.utf8ByteSize ≤ room
      · rw [fitting_cons hline hroom, List.getElem?_cons_succ, List.take_succ_cons, lines?, hline,
          List.drop_succ_cons]
        simp only [hroom, if_true, ih]
        split
        · cases lines? (rest.take (fitting (room - line.utf8ByteSize) rest)) <;> rfl
        · rfl
      · rw [fitting_cons_of_not fun line' hline' => ?_]
        · simp [hroom, hline, lines?]
        · cases hline.symm.trans hline'
          exact Nat.lt_of_not_le hroom

end InterruptCaps.Log
