import InterruptCaps.Proofs.Irq.Words

/-! The registry as a set of lines. An interrupt that is private has a line for each core that there
    can be, a shared one has a line whichever core receives it, and any other names none. Seen so,
    without numbers for lines and without bits, activating inserts a line, deactivating erases it,
    and what both answer is whether that made a difference.

    | interrupt                | line               | number of the line         |
    | ------------------------ | ------------------ | -------------------------- |
    | below 32, core below 8   | `own irq core`     | 32 for each core before it |
    | 32 to 1019, any core     | `shared irq`       | after all own ones         |
    | any other                | none               | none                       |

    Main statement: from the empty registry on, every series of operations is answered as on a set
    of lines, by the registry and by its words alike, and the registry shows that set. -/

namespace InterruptCaps

/-- What can have a handler: an interrupt of one core, or one that the cores share. -/
inductive Line where
  | own (irq : Fin privateCount) (core : Fin maxNodes)
  | shared (irq : Nat) (least : sharedBase ≤ irq) (greatest : irq ≤ maxLine)
  deriving DecidableEq

namespace Line

/-- The line that an interrupt names, if it names one. -/
def ofId? (id : IrqId) : Option Line :=
  if own : id.irq < privateCount then
    if core : id.core < maxNodes then some (.own ⟨id.irq, own⟩ ⟨id.core, core⟩) else none
  else
    if greatest : id.irq ≤ maxLine then some (.shared id.irq (Nat.le_of_not_lt own) greatest)
    else none

/-- The number that the registry gives a line. -/
def number : Line → Nat
  | .own irq core => core * privateCount + irq
  | .shared irq _ _ => privateLines + (irq - sharedBase)

theorem number_inj : Function.Injective number := by
  intro l l' h
  cases l with
  | own irq core =>
    cases l' with
    | own irq' core' =>
      obtain ⟨irq, hirq⟩ := irq
      obtain ⟨irq', hirq'⟩ := irq'
      obtain ⟨core, hcore⟩ := core
      obtain ⟨core', hcore'⟩ := core'
      simp only [number, privateCount] at h hirq hirq'
      obtain ⟨rfl, rfl⟩ : irq = irq' ∧ core = core' := by omega
      rfl
    | shared irq' least' greatest' =>
      have := irq.isLt
      have := core.isLt
      simp only [number, privateLines, maxNodes, privateCount, sharedBase] at *
      omega
  | shared irq least greatest =>
    cases l' with
    | own irq' core' =>
      have := irq'.isLt
      have := core'.isLt
      simp only [number, privateLines, maxNodes, privateCount, sharedBase] at *
      omega
    | shared irq' least' greatest' =>
      simp only [number] at h
      obtain rfl : irq = irq' := by omega
      rfl

/-- Lines by their numbers. -/
def numbering : Line ↪ Nat := ⟨number, number_inj⟩

/-- The registry numbers the lines that interrupts name. -/
theorem line?_eq (id : IrqId) : id.line? = (ofId? id).map number := by
  by_cases own : id.irq < privateCount
  · have hmax : ¬ maxLine < id.irq := by
      simp only [privateCount, maxLine] at *
      omega
    have hprivate : id.isPrivate = true := id.isPrivate_iff.2 own
    by_cases core : id.core < maxNodes <;>
      simp [IrqId.line?, ofId?, own, hmax, hprivate, core, number]
  · have hprivate : id.isPrivate = false := Bool.eq_false_iff.2 (mt id.isPrivate_iff.1 own)
    by_cases greatest : id.irq ≤ maxLine
    · simp [IrqId.line?, ofId?, own, greatest, Nat.not_lt.2 greatest, hprivate, number]
    · simp [IrqId.line?, ofId?, own, greatest, Nat.lt_of_not_le greatest]

/-- Two interrupts have one number exactly if they have one line. -/
theorem same_number_iff (id id' : IrqId) :
    (∃ n, id.line? = some n ∧ id'.line? = some n)
      ↔ ∃ l, ofId? id = some l ∧ ofId? id' = some l := by
  simp only [line?_eq, Option.map_eq_some_iff]
  constructor
  · rintro ⟨n, ⟨l, hl, hn⟩, l', hl', hn'⟩
    obtain rfl := number_inj (hn.trans hn'.symm)
    exact ⟨l, hl, hl'⟩
  · rintro ⟨l, hl, hl'⟩
    exact ⟨l.number, ⟨l, hl, rfl⟩, l, hl', rfl⟩

end Line

/-! ### Histories -/

/-- A change of the registry. -/
inductive RegistryOp where
  | activate (id : IrqId)
  | deactivate (id : IrqId)
  deriving DecidableEq

namespace RegistryOp

/-- The registry after the operation. -/
def onRegistry : RegistryOp → Registry → Registry
  | activate id, r => (r.activate id).2
  | deactivate id, r => (r.deactivate id).2

/-- Its words after the operation, if no access is out of bounds and nothing is counted below
    zero. -/
def onWords? : RegistryOp → Bitmap → Option Bitmap
  | activate id, b => (b.activate? id).map Prod.snd
  | deactivate id, b => (b.deactivate? id).map Prod.snd

/-- A set of lines after the operation. -/
def onLines (op : RegistryOp) (s : Finset Line) : Finset Line :=
  match op with
  | activate id => (Line.ofId? id).elim s (insert · s)
  | deactivate id => (Line.ofId? id).elim s s.erase

end RegistryOp

/-- The registry after a history that began with no line. -/
def Registry.after (ops : List RegistryOp) : Registry :=
  ops.foldl (fun r op => op.onRegistry r) .empty

/-- The words after the history. -/
def Bitmap.after? (ops : List RegistryOp) : Option Bitmap :=
  ops.foldlM (fun b op => op.onWords? b) .empty

/-- The set of lines after the history. -/
def Line.setAfter (ops : List RegistryOp) : Finset Line :=
  ops.foldl (fun s op => op.onLines s) ∅

namespace Registry

/-- The registry holds the numbers of the lines in the set, and has counted them. -/
structure Shows (r : Registry) (s : Finset Line) : Prop where
  lines : r.lines = s.map Line.numbering
  counted : r.Counted

variable {r : Registry} {s : Finset Line} {id : IrqId}

theorem shows_empty : Registry.empty.Shows ∅ where
  lines := by rw [lines_empty, Finset.map_empty]
  counted := by
    rw [Counted, lines_empty]
    rfl

theorem Shows.count (h : r.Shows s) : r.count = s.card := by
  rw [h.counted, h.lines, Finset.card_map]

theorem Shows.holds_iff (h : r.Shows s) (l : Line) : r.holds l.number = true ↔ l ∈ s := by
  rw [← mem_lines, h.lines]
  exact Finset.mem_map' Line.numbering

theorem Shows.isActive_iff (h : r.Shows s) (id : IrqId) :
    r.isActive id = true ↔ ∃ l, Line.ofId? id = some l ∧ l ∈ s := by
  rw [isActive, Line.line?_eq]
  cases Line.ofId? id with
  | none => simp
  | some l => simp [h.holds_iff]

/-- Activating says whether there is a line and it was not in the set. -/
theorem Shows.activate_iff (h : r.Shows s) (id : IrqId) :
    (r.activate id).1 = true ↔ ∃ l, Line.ofId? id = some l ∧ l ∉ s := by
  rw [activate, Line.line?_eq]
  cases Line.ofId? id with
  | none => simp
  | some l => cases hheld : r.holds l.number <;> simp [hheld, ← h.holds_iff]

/-- Deactivating says whether there is a line and it was in the set. -/
theorem Shows.deactivate_iff (h : r.Shows s) (id : IrqId) :
    (r.deactivate id).1 = true ↔ ∃ l, Line.ofId? id = some l ∧ l ∈ s := by
  rw [deactivate, Line.line?_eq]
  cases Line.ofId? id with
  | none => simp
  | some l => cases hheld : r.holds l.number <;> simp [hheld, ← h.holds_iff]

/-- An interrupt that names no line changes nothing. -/
theorem unchanged_of_no_line (h : Line.ofId? id = none) (r : Registry) :
    r.activate id = (false, r) ∧ r.deactivate id = (false, r) := by
  rw [activate, deactivate, Line.line?_eq, h]
  exact ⟨rfl, rfl⟩

/-- One operation on a registry is one on the set that it shows. -/
theorem Shows.after (h : r.Shows s) (op : RegistryOp) : (op.onRegistry r).Shows (op.onLines s) := by
  cases op with
  | activate id =>
    refine ⟨?_, h.counted.activate id⟩
    cases hline : Line.ofId? id with
    | none =>
      simp only [RegistryOp.onRegistry, RegistryOp.onLines, (unchanged_of_no_line hline r).1, hline]
      exact h.lines
    | some l =>
      have hnumber : id.line? = some l.number := by rw [Line.line?_eq, hline, Option.map_some]
      simp only [RegistryOp.onRegistry, RegistryOp.onLines, hline, Option.elim_some]
      rw [lines_activate hnumber, h.lines, Finset.map_insert]
      rfl
  | deactivate id =>
    refine ⟨?_, h.counted.deactivate id⟩
    cases hline : Line.ofId? id with
    | none =>
      simp only [RegistryOp.onRegistry, RegistryOp.onLines, (unchanged_of_no_line hline r).2, hline]
      exact h.lines
    | some l =>
      have hnumber : id.line? = some l.number := by rw [Line.line?_eq, hline, Option.map_some]
      simp only [RegistryOp.onRegistry, RegistryOp.onLines, hline, Option.elim_some]
      rw [lines_deactivate hnumber, h.lines, Finset.map_erase]
      rfl

/-- So the registry shows the set of lines after every history. -/
theorem shows_after (ops : List RegistryOp) : (Registry.after ops).Shows (Line.setAfter ops) := by
  induction ops using List.reverseRecOn with
  | nil => exact shows_empty
  | append_singleton ops op ih =>
    simp only [Registry.after, Line.setAfter, List.foldl_append] at ih ⊢
    exact ih.after op

/-- One operation on words is one on the registry that they show. -/
theorem words_step {b : Bitmap} (h : b.Shows r) (hr : r.Counted) (op : RegistryOp) :
    ∃ b', op.onWords? b = some b' ∧ b'.Shows (op.onRegistry r) := by
  cases op with
  | activate id =>
    obtain ⟨b', hb', hshows⟩ := h.activate? id
    exact ⟨b', by rw [RegistryOp.onWords?, hb', Option.map_some], hshows⟩
  | deactivate id =>
    obtain ⟨b', hb', hshows⟩ := h.deactivate? hr id
    exact ⟨b', by rw [RegistryOp.onWords?, hb', Option.map_some], hshows⟩

/-- And its words show the registry: no access on the way was out of bounds. -/
theorem words_after (ops : List RegistryOp) :
    ∃ b, Bitmap.after? ops = some b ∧ b.Shows (Registry.after ops) := by
  induction ops using List.reverseRecOn with
  | nil => exact ⟨.empty, rfl, Bitmap.shows_empty⟩
  | append_singleton ops op ih =>
    obtain ⟨b, hb, hshows⟩ := ih
    obtain ⟨b', hb', hshows'⟩ := words_step hshows (shows_after ops).counted op
    refine ⟨b', ?_, ?_⟩
    · rw [Bitmap.after?] at hb ⊢
      simp [List.foldlM_append, hb, hb']
    · rw [Registry.after, List.foldl_append]
      exact hshows'

/-- After any history of activating and deactivating interrupts of any number and core, the registry
    is the set of lines that the history leaves: activating says whether the interrupt has a line
    that was not in the set, deactivating whether its line was, an interrupt is active exactly if
    its line is in the set, and the count is the number of lines. An interrupt without a line is
    never active and changes nothing, and two interrupts have one entry exactly if they have one
    line. The words in memory give the same answers and count, and no access is out of bounds and
    nothing is counted below zero on the way. -/
theorem refines_line_set (ops : List RegistryOp) :
    let r := Registry.after ops
    let s := Line.setAfter ops
    (∀ id, (r.activate id).1 = true ↔ ∃ l, Line.ofId? id = some l ∧ l ∉ s)
      ∧ (∀ id, (r.deactivate id).1 = true ↔ ∃ l, Line.ofId? id = some l ∧ l ∈ s)
      ∧ (∀ id, r.isActive id = true ↔ ∃ l, Line.ofId? id = some l ∧ l ∈ s)
      ∧ (∀ id, r.state id = .active ↔ ∃ l, Line.ofId? id = some l ∧ l ∈ s)
      ∧ r.count = s.card
      ∧ (∀ id, Line.ofId? id = none → r.isActive id = false
        ∧ r.activate id = (false, r) ∧ r.deactivate id = (false, r))
      ∧ (∀ id id', (∃ n, id.line? = some n ∧ id'.line? = some n)
        ↔ ∃ l, Line.ofId? id = some l ∧ Line.ofId? id' = some l)
      ∧ ∃ b, Bitmap.after? ops = some b ∧ b.count = s.card
        ∧ ∀ id, b.isActive? id = some (r.isActive id)
          ∧ (b.activate? id).map Prod.fst = some (r.activate id).1
          ∧ (b.deactivate? id).map Prod.fst = some (r.deactivate id).1 := by
  intro r s
  have h : r.Shows s := shows_after ops
  obtain ⟨b, hb, hwords⟩ := words_after ops
  refine ⟨h.activate_iff, h.deactivate_iff, h.isActive_iff, fun id => ?_, h.count,
    fun id hnone => ?_, Line.same_number_iff, b, hb, hwords.count.trans h.count,
    fun id => ⟨hwords.isActive? id, ?_, ?_⟩⟩
  · rw [← h.isActive_iff, state]
    cases r.isActive id <;> simp
  · have hinactive : r.isActive id = false := by rw [isActive, Line.line?_eq, hnone]; rfl
    exact ⟨hinactive, unchanged_of_no_line hnone r⟩
  · obtain ⟨b', hb', -⟩ := hwords.activate? id
    rw [hb', Option.map_some]
  · obtain ⟨b', hb', -⟩ := hwords.deactivate? h.counted id
    rw [hb', Option.map_some]

/-- Interrupt 27 of core 0 and interrupt 42 are activated, 42 once more for another core, then two
    interrupts that have no line; 1019 comes and goes. Two lines are left, and 42 is active for
    every core. -/
theorem two_lines_left :
    ∃ ops : List RegistryOp,
      Line.setAfter ops = {.own ⟨27, by decide⟩ ⟨0, by decide⟩, .shared 42 (by decide) (by decide)}
        ∧ (Registry.after ops).count = 2 ∧ (Registry.after ops).isActive ⟨42, 7⟩ = true
        ∧ (Registry.after ops).isActive ⟨27, 1⟩ = false
        ∧ ((Registry.after ops).activate ⟨1019, 4⟩).1 = true
        ∧ ∃ b, Bitmap.after? ops = some b ∧ b.count = 2 := by
  let ops : List RegistryOp := [.activate ⟨27, 0⟩, .activate ⟨42, 1⟩, .activate ⟨42, 3⟩,
    .activate ⟨1020, 0⟩, .activate ⟨16, 8⟩, .deactivate ⟨27, 1⟩, .activate ⟨1019, 2⟩,
    .deactivate ⟨1019, 5⟩]
  have hset : Line.setAfter ops
      = {.own ⟨27, by decide⟩ ⟨0, by decide⟩, .shared 42 (by decide) (by decide)} := by decide
  obtain ⟨hactivate, -, hactive, -, hcount, -, -, b, hb, hwords, -⟩ := refines_line_set ops
  rw [hset] at hactivate hactive hcount hwords
  refine ⟨ops, hset, hcount, ?_, ?_, ?_, b, hb, hwords⟩
  · rw [hactive]
    exact ⟨_, rfl, by decide⟩
  · rw [Bool.eq_false_iff, Ne, hactive]
    rintro ⟨l, ⟨⟩, hl⟩
    exact absurd hl (by decide)
  · rw [hactivate]
    exact ⟨_, rfl, by decide⟩

end Registry

end InterruptCaps
