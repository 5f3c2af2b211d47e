import InterruptCaps.Irq.Bitmap
import InterruptCaps.Proofs.Irq.Lines

/-! The registry in words is the registry. Each line has a bit of its own in a word that is there,
    so setting and clearing bits is inserting and erasing lines; and a bit that is cleared has been
    counted, so the count never has to go below zero.

    Main statement: on words that show a registry every operation has a result, it is that of the
    registry, and the words show the registry after it. -/

namespace InterruptCaps

/-- Every line has its bit in one of the words. -/
theorem IrqId.line?_word_lt {id : IrqId} {n : Nat} (h : id.line? = some n) :
    n / 64 < wordCount := by
  have hn := line?_lt h
  rw [wordCount]
  omega

namespace Bitmap

/-! ### Bits of a word -/

theorem toBitVec_mask (n : Nat) : (mask n).toBitVec = BitVec.twoPow 64 (n % 64) := by
  refine BitVec.eq_of_toNat_eq ?_
  simp [mask, BitVec.toNat_twoPow, Nat.shiftLeft_eq]

/-- What is left under the mask is the bit of the line. -/
theorem and_mask_ne_zero (word : UInt64) (n : Nat) :
    (word &&& mask n != 0) = word.toBitVec.getLsbD (n % 64) := by
  have hn : n % 64 < 64 := Nat.mod_lt _ (by decide)
  have hzero : word &&& mask n = 0 ↔ word.toBitVec.getLsbD (n % 64) = false := by
    rw [← UInt64.toBitVec_inj, UInt64.toBitVec_and, toBitVec_mask, BitVec.and_twoPow]
    cases word.toBitVec.getLsbD (n % 64) with
    | false => simp
    | true =>
      simp only [if_true, reduceCtorEq, iff_false]
      intro h
      have hbit := congrArg (BitVec.getLsbD · (n % 64)) h
      simp [hn] at hbit
  rw [Bool.eq_iff_iff, bne_iff_ne, Ne, hzero, Bool.not_eq_false]

/-- A word that is written has a new bit for the line, and its other bits are as before. -/
theorem getLsbD_write (word : UInt64) (n m : Nat) (value : Bool) :
    (if value then word ||| mask n else word &&& ~~~mask n).toBitVec.getLsbD (m % 64)
      = if n % 64 = m % 64 then value else word.toBitVec.getLsbD (m % 64) := by
  have hm : m % 64 < 64 := Nat.mod_lt _ (by decide)
  by_cases h : n % 64 = m % 64
  · cases value <;> simp [toBitVec_mask, h, hm]
  · cases value <;> simp [toBitVec_mask, h, Ne.symm h, hm]

/-! ### Bits of the bitmap -/

variable {b : Bitmap} {n : Nat}

theorem get?_eq (h : n / 64 < wordCount) :
    b.get? n = some (b.words[n / 64].toBitVec.getLsbD (n % 64)) := by
  rw [get?, Vector.getElem?_eq_getElem h, Option.map_some, and_mask_ne_zero]

/-- Writing the bit of a line writes no other, be it in another word or at another place. -/
theorem write?_eq_some (h : n / 64 < wordCount) (value : Bool) :
    ∃ b', b.write? n value = some b' ∧ b'.count = b.count
      ∧ ∀ m, m / 64 < wordCount → b'.get? m = if n = m then some value else b.get? m := by
  rw [write?, Vector.getElem?_eq_getElem h]
  refine ⟨_, rfl, rfl, fun m hm => ?_⟩
  rw [get?_eq hm, get?_eq hm]
  by_cases hword : n / 64 = m / 64
  · have hbit := getLsbD_write b.words[n / 64] n m value
    have hplace : n % 64 = m % 64 ↔ n = m := by omega
    simp only [Vector.getElem_setIfInBounds, hword, if_true] at hbit ⊢
    rw [hbit]
    simp only [hplace]
    split <;> rfl
  · have hne : n ≠ m := by
      rintro rfl
      exact hword rfl
    simp only [Vector.getElem_setIfInBounds, hword, if_false, hne]

/-! ### Words that show a registry -/

/-- Every bit of the words is set exactly if it is a line's with a handler, and as many are counted
    as there are. -/
structure Shows (b : Bitmap) (r : Registry) : Prop where
  bits : ∀ n, n / 64 < wordCount → b.get? n = some (r.holds n)
  count : b.count = r.count

theorem shows_empty : Bitmap.empty.Shows .empty where
  bits n hn := by
    rw [get?_eq hn]
    simp [empty, Registry.holds, Registry.empty]
  count := rfl

variable {r : Registry}

theorem Shows.isActive? (h : b.Shows r) (id : IrqId) : b.isActive? id = some (r.isActive id) := by
  rw [Bitmap.isActive?, Registry.isActive]
  cases hline : id.line? with
  | none => rfl
  | some n => exact h.bits n (IrqId.line?_word_lt hline)

/-- A line is registered in the words as it is in the registry. -/
theorem Shows.activate? (h : b.Shows r) (id : IrqId) :
    ∃ b', b.activate? id = some ((r.activate id).1, b') ∧ b'.Shows (r.activate id).2 := by
  rw [Bitmap.activate?]
  cases hline : id.line? with
  | none => exact ⟨b, by simp [Registry.activate, hline], by simpa [Registry.activate, hline]⟩
  | some n =>
    have hn := IrqId.line?_word_lt hline
    cases hheld : r.holds n with
    | true =>
      refine ⟨b, ?_, by simpa [Registry.activate, hline, hheld]⟩
      simp [set?, h.bits n hn, Registry.activate, hline, hheld]
    | false =>
      obtain ⟨b', hwrite, hcount, hbits⟩ := write?_eq_some (b := b) hn true
      refine ⟨{ b' with count := b'.count + 1 }, ?_, fun m hm => ?_, ?_⟩
      · simp [set?, h.bits n hn, hwrite, Registry.activate, hline, hheld]
      · show b'.get? m = _
        rw [hbits m hm, Registry.holds_activate hline, h.bits m hm]
        by_cases hnm : n = m <;> simp [hnm]
      · simp [Registry.activate, hline, hheld, hcount, h.count]

/-- A line is set free in the words as it is in the registry. It was counted, so the count can go
    down by one. -/
theorem Shows.deactivate? (h : b.Shows r) (hr : r.Counted) (id : IrqId) :
    ∃ b', b.deactivate? id = some ((r.deactivate id).1, b') ∧ b'.Shows (r.deactivate id).2 := by
  rw [Bitmap.deactivate?]
  cases hline : id.line? with
  | none => exact ⟨b, by simp [Registry.deactivate, hline], by simpa [Registry.deactivate, hline]⟩
  | some n =>
    have hn := IrqId.line?_word_lt hline
    cases hheld : r.holds n with
    | false =>
      refine ⟨b, ?_, by simpa [Registry.deactivate, hline, hheld]⟩
      simp [clear?, h.bits n hn, Registry.deactivate, hline, hheld]
    | true =>
      obtain ⟨b', hwrite, hcount, hbits⟩ := write?_eq_some (b := b) hn false
      have hcounted : b'.count ≠ 0 := by
        rw [hcount, h.count, hr]
        exact Finset.card_ne_zero_of_mem (Registry.mem_lines.2 hheld)
      refine ⟨{ b' with count := b'.count - 1 }, ?_, fun m hm => ?_, ?_⟩
      · simp [clear?, h.bits n hn, hwrite, hcounted, Registry.deactivate, hline, hheld]
      · show b'.get? m = _
        rw [hbits m hm, Registry.holds_deactivate hline, h.bits m hm]
        by_cases hnm : n = m <;> simp [hnm]
      · simp [Registry.deactivate, hline, hheld, hcount, h.count]

end Bitmap

end InterruptCaps
