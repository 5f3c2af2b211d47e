import InterruptCaps.Irq.Registry
import Mathlib.Data.Finset.Card

/-! The registry as a finite set of line numbers. Activating an interrupt inserts its line,
    deactivating it erases the line, and the count beside the bitmap is the size of the set. Two
    interrupts have the same line exactly if they have the same number and, where every core has
    its own line, the same core. -/

namespace InterruptCaps

/-- An interrupt has a line if its number is known and, where cores are told apart, its core is. -/
theorem IrqId.isSome_line? (id : IrqId) :
    id.line?.isSome ↔ id.irq ≤ maxLine ∧ (id.irq < privateCount → id.core < maxNodes) := by
  rw [← id.isPrivate_iff, line?]
  by_cases hmax : maxLine < id.irq
  · simp [hmax]
  · by_cases hp : id.isPrivate = true
    · by_cases hc : id.core < maxNodes <;> simp [hmax, hp, hc, Nat.le_of_not_lt hmax]
    · simp [hmax, hp, Nat.le_of_not_lt hmax]

theorem IrqId.irq_le_of_line? {id : IrqId} {n : Nat} (h : id.line? = some n) : id.irq ≤ maxLine :=
  (id.isSome_line?.1 (Option.isSome_of_eq_some h)).1

/-- Private lines are numbered by core and interrupt, the shared ones after them all. -/
theorem IrqId.line?_eq_some {id : IrqId} {n : Nat} (h : id.line? = some n) :
    (id.irq < privateCount ∧ id.core < maxNodes ∧ n = id.core * privateCount + id.irq)
      ∨ (sharedBase ≤ id.irq ∧ n = privateLines + (id.irq - sharedBase)) := by
  obtain ⟨hmax, hcore⟩ := id.isSome_line?.1 (Option.isSome_of_eq_some h)
  simp only [line?, Nat.not_lt.2 hmax, if_false, isPrivate_iff] at h
  split at h <;> rename_i hp
  · simp only [hcore hp, if_true, Option.some.injEq] at h
    exact Or.inl ⟨hp, hcore hp, h.symm⟩
  · simp only [Option.some.injEq] at h
    exact Or.inr ⟨Nat.le_of_not_lt hp, h.symm⟩

/-- Interrupts of one line have one number, and one core unless the line is shared. -/
theorem IrqId.line?_inj {id id' : IrqId} {n : Nat} (h : id.line? = some n)
    (h' : id'.line? = some n) :
    id.irq = id'.irq ∧ (id.isPrivate = true → id.core = id'.core) := by
  have hline := line?_eq_some h
  have hline' := line?_eq_some h'
  rw [isPrivate_iff]
  simp only [privateLines, sharedBase, privateCount, maxNodes] at hline hline' ⊢
  rcases hline with ⟨hi, hc, hn⟩ | ⟨hi, hn⟩
  · rcases hline' with ⟨hi', hc', hn'⟩ | ⟨hi', hn'⟩ <;> omega
  · rcases hline' with ⟨hi', hc', hn'⟩ | ⟨hi', hn'⟩ <;> omega

/-- The line depends on the number, and on the core of a private interrupt alone. -/
theorem IrqId.line?_congr {id id' : IrqId} (hirq : id.irq = id'.irq)
    (hcore : id.isPrivate = true → id.core = id'.core) : id.line? = id'.line? := by
  obtain ⟨irq, core⟩ := id
  obtain ⟨irq', core'⟩ := id'
  obtain rfl : irq = irq' := hirq
  by_cases hp : (IrqId.mk irq core).isPrivate = true
  · obtain rfl : core = core' := hcore hp
    rfl
  · have hp' : (IrqId.mk irq core').isPrivate = false := by simpa [isPrivate, irqClass] using hp
    simp [line?, hp, hp']

namespace Registry

/-- The numbers of the lines that have a handler. -/
def lines (r : Registry) : Finset Nat := (Finset.range lineCount).filter fun n => r.holds n = true

/-- The count is the number of lines that have a handler. -/
def Counted (r : Registry) : Prop := r.count = r.lines.card

theorem mem_lines {r : Registry} {n : Nat} : n ∈ r.lines ↔ r.holds n = true := by
  rw [lines, Finset.mem_filter, Finset.mem_range, and_iff_right_iff_imp]
  exact BitVec.lt_of_getLsbD

theorem lines_empty : Registry.empty.lines = ∅ := by
  ext n
  simp [mem_lines, holds, empty]

/-- An interrupt is active if its line is in the set. -/
theorem isActive_eq_true {r : Registry} {id : IrqId} :
    r.isActive id = true ↔ ∃ n, id.line? = some n ∧ n ∈ r.lines := by
  simp [isActive, Option.any_eq_true, mem_lines]

theorem isActive_empty (id : IrqId) : Registry.empty.isActive id = false := by
  rw [Bool.eq_false_iff, Ne, isActive_eq_true, lines_empty]
  rintro ⟨n, -, hn⟩
  exact absurd hn (Finset.notMem_empty n)

theorem lines_activate {id : IrqId} {n : Nat} (h : id.line? = some n) (r : Registry) :
    (r.activate id).2.lines = insert n r.lines := by
  ext m
  rw [mem_lines, holds_activate h, Finset.mem_insert, mem_lines, Bool.or_eq_true,
    decide_eq_true_iff, @eq_comm _ n]

theorem lines_deactivate {id : IrqId} {n : Nat} (h : id.line? = some n) (r : Registry) :
    (r.deactivate id).2.lines = r.lines.erase n := by
  ext m
  rw [mem_lines, holds_deactivate h, Finset.mem_erase, mem_lines, Bool.and_eq_true,
    decide_eq_true_iff, ne_comm]

/-- An interrupt without a line adds none. -/
theorem mem_lines_activate {r : Registry} {id : IrqId} {n : Nat} :
    n ∈ (r.activate id).2.lines ↔ id.line? = some n ∨ n ∈ r.lines := by
  cases hline : id.line? with
  | none => simp [activate, hline]
  | some m => rw [lines_activate hline, Finset.mem_insert, Option.some.injEq, eq_comm]

theorem mem_lines_deactivate {r : Registry} {id : IrqId} {n : Nat} :
    n ∈ (r.deactivate id).2.lines ↔ id.line? ≠ some n ∧ n ∈ r.lines := by
  cases hline : id.line? with
  | none => simp [deactivate, hline]
  | some m => rw [lines_deactivate hline, Finset.mem_erase, Ne, Ne, Option.some.injEq, eq_comm]

theorem Counted.activate {r : Registry} (hr : r.Counted) (id : IrqId) :
    (r.activate id).2.Counted := by
  cases hline : id.line? with
  | none =>
    have hsame : (r.activate id).2 = r := by simp [Registry.activate, hline]
    rwa [hsame]
  | some n =>
    rw [Counted, lines_activate hline]
    by_cases hn : n ∈ r.lines
    · rw [Finset.insert_eq_of_mem hn, ← hr]
      simp [Registry.activate, hline, mem_lines.1 hn]
    · rw [Finset.card_insert_of_notMem hn, ← hr]
      simp [Registry.activate, hline, mt mem_lines.2 hn]

theorem Counted.deactivate {r : Registry} (hr : r.Counted) (id : IrqId) :
    (r.deactivate id).2.Counted := by
  cases hline : id.line? with
  | none =>
    have hsame : (r.deactivate id).2 = r := by simp [Registry.deactivate, hline]
    rwa [hsame]
  | some n =>
    rw [Counted, lines_deactivate hline]
    by_cases hn : n ∈ r.lines
    · rw [Finset.card_erase_of_mem hn, ← hr]
      simp [Registry.deactivate, hline, mem_lines.1 hn]
    · rw [Finset.erase_eq_of_notMem hn, ← hr]
      simp [Registry.deactivate, hline, mt mem_lines.2 hn]

end Registry

end InterruptCaps
