import InterruptCaps.Irq.Basic

/-! The registry of interrupt lines that have a handler. A private interrupt has one line for each
    core, a shared one a single line whichever core receives it, and an interrupt outside the known
    numbers or cores has none. Lines are numbered: the private lines of core 0, those of core 1 and
    so on, then the shared lines; a bitmap holds one bit for each, beside a count of the set bits.

        0 … maxNodes*32             core * 32 + irq           private
        maxNodes*32 … lineCount     maxNodes * 32 + irq - 32  shared -/

namespace InterruptCaps

/-- How many private lines there are. -/
def privateLines : Nat := maxNodes * privateCount

/-- How many lines there are. -/
def lineCount : Nat := privateLines + (maxLine + 1 - sharedBase)

/-- The number of the line that `id` names, if it names one. -/
def IrqId.line? (id : IrqId) : Option Nat :=
  if maxLine < id.irq then none
  else if id.isPrivate then
    if id.core < maxNodes then some (id.core * privateCount + id.irq) else none
  else some (privateLines + (id.irq - sharedBase))

/-- Whether an interrupt has a handler. -/
inductive LineState where | inactive | active
  deriving DecidableEq

def LineState.name : LineState → String
  | inactive => "Inactive"
  | active => "Active"

/-- The set of lines that have a handler. -/
structure Registry where
  bits : BitVec lineCount
  count : Nat
  deriving DecidableEq

namespace Registry

/-- No line has a handler. -/
def empty : Registry := ⟨0, 0⟩

/-- Whether the line numbered `n` has a handler. -/
def holds (r : Registry) (n : Nat) : Bool := r.bits.getLsbD n

/-- Whether the line of `id` has a handler; an interrupt without a line never has one. -/
def isActive (r : Registry) (id : IrqId) : Bool := id.line?.any r.holds

/-- The state of the line of `id`; inactive, if there is no such line. -/
def state (r : Registry) (id : IrqId) : LineState :=
  if r.isActive id then .active else .inactive

/-- Gives the line of `id` a handler. Says no, and changes nothing, if it has one already or if
    there is no such line. -/
def activate (id : IrqId) (r : Registry) : Bool × Registry :=
  match id.line? with
  | none => (false, r)
  | some n =>
    if r.holds n then (false, r)
    else (true, ⟨r.bits ||| BitVec.twoPow lineCount n, r.count + 1⟩)

/-- Takes the handler of `id` away. Says no, and changes nothing, if there was none. -/
def deactivate (id : IrqId) (r : Registry) : Bool × Registry :=
  match id.line? with
  | none => (false, r)
  | some n =>
    if r.holds n then (true, ⟨r.bits &&& ~~~BitVec.twoPow lineCount n, r.count - 1⟩)
    else (false, r)

end Registry

/-- Every line number is within the bitmap. -/
theorem IrqId.line?_lt {id : IrqId} {n : Nat} (h : id.line? = some n) : n < lineCount := by
  simp only [IrqId.line?] at h
  split at h
  · simp at h
  · split at h
    · rename_i hp
      have := (IrqId.isPrivate_iff id).1 hp
      split at h
      · simp only [Option.some.injEq] at h
        simp only [lineCount, privateLines, maxNodes, privateCount, maxLine, sharedBase] at *
        omega
      · simp at h
    · simp only [Option.some.injEq] at h
      simp only [lineCount, privateLines, maxNodes, privateCount, maxLine, sharedBase] at *
      omega

namespace Registry

/-- Activating an interrupt adds its line and no other. -/
theorem holds_activate {id : IrqId} {n : Nat} (h : id.line? = some n) (r : Registry) (m : Nat) :
    (r.activate id).2.holds m = (decide (n = m) || r.holds m) := by
  have hn := IrqId.line?_lt h
  rcases Decidable.em (n = m) with rfl | hm
  · cases hr : r.holds n <;> simp_all [activate, holds]
  · cases hr : r.holds n <;> simp [activate, h, hr, hm]
    simp [holds, hm]

/-- Deactivating an interrupt takes its line away and no other. -/
theorem holds_deactivate {id : IrqId} {n : Nat} (h : id.line? = some n) (r : Registry) (m : Nat) :
    (r.deactivate id).2.holds m = (decide (n ≠ m) && r.holds m) := by
  have hn := IrqId.line?_lt h
  rcases Decidable.em (n = m) with rfl | hm
  · cases hr : r.holds n <;> simp_all [deactivate, holds]
  · cases hr : r.holds n <;> simp [deactivate, h, hr, hm]
    by_cases hl : m < lineCount
    · simp [holds, hl, Ne.symm hm]
    · simp [holds, BitVec.getLsbD_of_ge _ _ (Nat.le_of_not_lt hl)]

end Registry

end InterruptCaps
