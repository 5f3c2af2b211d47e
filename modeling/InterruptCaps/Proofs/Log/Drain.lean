import InterruptCaps.Proofs.Log.Entries
import InterruptCaps.Proofs.Log.Lines
import InterruptCaps.Proofs.Log.Writer
import Mathlib.Order.Bounds.Defs

/-! What a reader gets from a buffer whose entries were made from text. Each of them has a line, so
    a drain always has a result: as many whole lines as fit, in order, and behind them the reader's
    buffer as it was. The entry after them is the only one that is lost.

    ```
      records   r₁  r₂  …  rₖ │ rₖ₊₁ │ rₖ₊₂  …
      out       line₁ line₂ … lineₖ │ old bytes
    ```

    With room for the longest line, a drain always writes one. -/

namespace InterruptCaps.Log

/-- The lines of the records one after another. -/
def linesOf : List Record → String
  | [] => ""
  | r :: rs => r.line ++ linesOf rs

/-- The entries of records can all be read. -/
theorem lines?_entries (records : List Record) :
    lines? (records.map Record.entry) = some (linesOf records) := by
  induction records with
  | nil => rfl
  | cons r rs ih => rw [List.map_cons, lines?, r.line?_entry, ih, linesOf]

theorem fits_entries {room : Nat} {records : List Record} :
    fits room (records.map Record.entry) = true ↔ (linesOf records).utf8ByteSize ≤ room := by
  simp only [fits_iff, lines?_entries, Option.some.injEq, exists_eq_left']

/-- All `n` such that the lines of the first `n` records fit into `room` bytes together. -/
def fittingNumbers (room : Nat) (records : List Record) : Set Nat :=
  {n | n ≤ records.length ∧ (linesOf (records.take n)).utf8ByteSize ≤ room}

theorem isGreatest_fitting (room : Nat) (records : List Record) :
    IsGreatest (fittingNumbers room records) (fitting room (records.map Record.entry)) := by
  have hfits : ∀ n, fits room ((records.map Record.entry).take n) = true
      ↔ (linesOf (records.take n)).utf8ByteSize ≤ room := fun n => by
    rw [← List.map_take, fits_entries]
  constructor
  · refine ⟨?_, (hfits _).1 (fits_take_fitting room _)⟩
    simpa only [List.length_map] using fitting_le_length room (records.map Record.entry)
  · rintro n ⟨hlength, hroom⟩
    rw [← List.length_map Record.entry] at hlength
    exact Nat.le_findGreatest hlength ((hfits n).2 hroom)

theorem takeLines_entries (room : Nat) (records : List Record) :
    takeLines room (records.map Record.entry)
      = (some (linesOf (records.take (fitting room (records.map Record.entry)))),
        (records.drop (fitting room (records.map Record.entry) + 1)).map Record.entry) := by
  have hread : ((records.map Record.entry)[fitting room (records.map Record.entry)]?).all
      (·.line?.isSome) = true := by
    rw [List.getElem?_map]
    cases records[fitting room (records.map Record.entry)]? with
    | none => rfl
    | some r => exact congrArg Option.isSome r.line?_entry
  rw [takeLines_eq, if_pos hread, ← List.map_take, lines?_entries, ← List.map_drop]

/-- What the reader of `out` has been given is `text`: it stands at the front, its size is what is
    returned, and behind it the buffer is as it was. -/
structure Drained.Gives (d : Drained) (text : String) (out : List UInt8) : Prop where
  written_eq : d.written = text.utf8ByteSize
  length_eq : d.out.length = out.length
  front : d.out.take d.written = Text.bytesOf text
  rest : d.out.drop d.written = out.drop d.written

theorem Drained.gives_of_le {text : String} {out : List UInt8}
    (h : text.utf8ByteSize ≤ out.length) :
    Gives ⟨Text.bytesOf text ++ out.drop text.utf8ByteSize, text.utf8ByteSize⟩ text out where
  written_eq := rfl
  length_eq := by
    rw [List.length_append, List.length_drop, Text.length_bytesOf]
    omega
  front := List.take_left' (Text.length_bytesOf text)
  rest := List.drop_left' (Text.length_bytesOf text)

/-- A drain writes as many whole lines as fit, in order, and nothing behind them. It loses the entry
    that comes next, if there is one, and keeps all others. So nothing is lost where all lines fit,
    and where the longest line fits, a line is written if there is any. -/
theorem drain_writes_whole_lines {r : Ring} {records : List Record} (enabled : r.enabled = true)
    (hqueue : r.queue = records.map Record.entry) (out : List UInt8) :
    ∃ k, IsGreatest (fittingNumbers out.length records) k
      ∧ (∃ d, (r.drainInto out).1 = some d ∧ d.Gives (linesOf (records.take k)) out)
      ∧ (r.drainInto out).2 = { r with queue := (records.drop (k + 1)).map Record.entry }
      ∧ ((linesOf records).utf8ByteSize ≤ out.length → k = records.length)
      ∧ (maxLineSize ≤ out.length → records ≠ [] → 0 < k) := by
  have greatest := isGreatest_fitting out.length records
  have hlines := takeLines_entries out.length records
  generalize fitting out.length (records.map Record.entry) = k at greatest hlines
  rw [Ring.drainInto_eq]
  refine ⟨k, greatest, ⟨_, ?_, Drained.gives_of_le greatest.1.2⟩, ?_, fun hall => ?_,
    fun hroom hne => ?_⟩
  · rw [Ring.drain, if_pos enabled, hqueue, hlines]
    rfl
  · rw [Ring.drain, if_pos enabled, hqueue, hlines]
  · have hmem : records.length ∈ fittingNumbers out.length records :=
      ⟨Nat.le_refl _, by rwa [List.take_length]⟩
    exact Nat.le_antisymm greatest.1.1 (greatest.2 hmem)
  · obtain ⟨first, rest, rfl⟩ := List.exists_cons_of_ne_nil hne
    have hline := Nat.le_trans first.utf8ByteSize_line_le hroom
    have hmem : 1 ∈ fittingNumbers out.length (first :: rest) :=
      ⟨Nat.succ_le_succ (Nat.zero_le _), by simpa [linesOf] using hline⟩
    exact greatest.2 hmem

/-- Three entries, and room for one line and a part of the next: the first is written, the second
    is lost, and the third stays. -/
theorem second_entry_lost :
    ∃ r : Ring, r.enabled = true
      ∧ r.queue = [⟨0, .warn, "irq", "a"⟩, ⟨1, .info, "irq", "b"⟩, ⟨2, .warn, "irq", "c"⟩].map
        Record.entry
      ∧ (∃ d, (r.drainInto (List.replicate 20 7)).1 = some d
        ∧ d.Gives "[WARN ] irq: a\n" (List.replicate 20 7))
      ∧ (r.drainInto (List.replicate 20 7)).2.queue = [Record.entry ⟨2, .warn, "irq", "c"⟩] := by
  let records : List Record :=
    [⟨0, .warn, "irq", "a"⟩, ⟨1, .info, "irq", "b"⟩, ⟨2, .warn, "irq", "c"⟩]
  let r : Ring := ⟨true, records.map Record.entry, 0⟩
  have hqueue : r.queue = records.map Record.entry := rfl
  obtain ⟨k, greatest, hgiven, hleft, -⟩ :=
    drain_writes_whole_lines rfl hqueue (List.replicate 20 7)
  have hle : k ≤ 3 := greatest.1.1
  have hfirst : 1 ≤ k := greatest.2 ⟨by decide, by decide⟩
  obtain rfl : k = 1 := by
    obtain h | rfl | rfl : k = 1 ∨ k = 2 ∨ k = 3 := by omega
    · exact h
    · exact absurd greatest.1.2 (by decide)
    · exact absurd greatest.1.2 (by decide)
  exact ⟨r, rfl, rfl, hgiven, congrArg Ring.queue hleft⟩

end InterruptCaps.Log
