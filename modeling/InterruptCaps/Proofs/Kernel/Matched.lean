import InterruptCaps.Proofs.Kernel.Failure
import InterruptCaps.Proofs.Kernel.Run
import Mathlib.Data.Set.Card

/-! Lines and handlers match, whatever happens to a kernel. A line is registered exactly while one
    slot holds a handler for it, no two slots hold handlers for one line, and the counter of the
    registry is the number of live handlers. Issuing adds a pair, finalising takes one away.

    That no line has two handlers (`Distinct`) holds for callers on any core, also where a handler
    is issued for an interrupt without a line. The rest of it (`Matched`) needs callers on cores
    that have lines. -/

namespace InterruptCaps

/-- The line of the handler at `ref`, if there is one. -/
def Space.line? (s : Space) (ref : SlotRef) : Option Nat := (s.handler? ref).bind (·.1.line?)

theorem Space.line?_eq_some {s : Space} {ref : SlotRef} {n : Nat} :
    s.line? ref = some n ↔ ∃ id trigger, s.handler? ref = some (id, trigger)
      ∧ id.line? = some n := by
  rw [line?, Option.bind_eq_some_iff]
  exact Prod.exists

/-- Where one slot is given another handler or none, the other slots keep their lines. -/
theorem Space.line?_of_handler? {s s' : Space} {ref : SlotRef}
    {held : Option (IrqId × Option Trigger)}
    (hs : ∀ ref', s'.handler? ref' = if ref = ref' then held else s.handler? ref')
    (ref' : SlotRef) :
    s'.line? ref' = if ref = ref' then held.bind (·.1.line?) else s.line? ref' := by
  rw [line?, hs]
  split <;> rfl

theorem Space.line?_congr {s s' : Space} (hs : s'.handler? = s.handler?) : s'.line? = s.line? := by
  funext ref
  rw [line?, hs, line?]

/-! ### No line with two handlers -/

/-- Handlers with a line are registered, and no two of them have the same line. A handler may have
    no line, but its number is known. -/
structure Distinct (s : Space) (r : Registry) : Prop where
  known : ∀ ref id trigger, s.handler? ref = some (id, trigger) → id.irq ≤ maxLine
  registered : ∀ ref n, s.line? ref = some n → n ∈ r.lines
  apart : ∀ ref ref' n, s.line? ref = some n → s.line? ref' = some n → ref = ref'

namespace Distinct

variable {s s' : Space} {r : Registry} {id : IrqId} {trigger : Option Trigger} {ref : SlotRef}

theorem empty (h : ∀ ref, s.handler? ref = none) : Distinct s .empty := by
  have hline : ∀ ref, s.line? ref = none := by
    intro ref
    rw [Space.line?, h ref, Option.bind_none]
  refine ⟨fun ref id trigger href => ?_, fun ref n href => ?_, fun ref ref' n href => ?_⟩
  · rw [h ref] at href
    cases href
  · rw [hline ref] at href
    cases href
  · rw [hline ref] at href
    cases href

theorem congr (h : Distinct s r) (hs : s'.handler? = s.handler?) : Distinct s' r := by
  obtain ⟨hknown, hregistered, hapart⟩ := h
  rw [← hs] at hknown
  rw [← Space.line?_congr hs] at hregistered hapart
  exact ⟨hknown, hregistered, hapart⟩

/-- A handler for an interrupt that is not active, be it for want of a line. -/
theorem issue (h : Distinct s r) (hknown : id.irq ≤ maxLine) (hinactive : r.isActive id = false)
    (hs : ∀ ref', s'.handler? ref' = if ref = ref' then some (id, trigger) else s.handler? ref') :
    Distinct s' (r.activate id).2 := by
  have hline := Space.line?_of_handler? hs
  have hnew : ∀ ref' n, id.line? = some n → s.line? ref' ≠ some n := by
    intro ref' n hn href'
    rw [Registry.isActive_eq_true.2 ⟨n, hn, h.registered ref' n href'⟩] at hinactive
    cases hinactive
  refine ⟨fun ref' id' trigger' href' => ?_, fun ref' n href' => ?_, fun ref₁ ref₂ n h₁ h₂ => ?_⟩
  · rw [hs] at href'
    split at href'
    · cases href'
      exact hknown
    · exact h.known ref' id' trigger' href'
  · rw [hline] at href'
    split at href'
    · exact Registry.mem_lines_activate.2 (.inl href')
    · exact Registry.mem_lines_activate.2 (.inr (h.registered ref' n href'))
  · rw [hline] at h₁ h₂
    split at h₁ <;> split at h₂
    · exact ‹ref = ref₁›.symm.trans ‹ref = ref₂›
    · exact absurd h₂ (hnew ref₂ n h₁)
    · exact absurd h₁ (hnew ref₁ n h₂)
    · exact h.apart ref₁ ref₂ n h₁ h₂

/-- A handler goes, and its line, if it has one, is set free. -/
theorem release (h : Distinct s r) (hheld : s.handler? ref = some (id, trigger))
    (hs : ∀ ref', s'.handler? ref' = if ref = ref' then none else s.handler? ref') :
    Distinct s' (r.deactivate id).2 := by
  have hline : ∀ ref', s'.line? ref' = if ref = ref' then none else s.line? ref' :=
    Space.line?_of_handler? hs
  refine ⟨fun ref' id' trigger' href' => ?_, fun ref' n href' => ?_, fun ref₁ ref₂ n h₁ h₂ => ?_⟩
  · rw [hs, Option.ite_none_left_eq_some] at href'
    exact h.known ref' id' trigger' href'.2
  · rw [hline, Option.ite_none_left_eq_some] at href'
    obtain ⟨hne, href'⟩ := href'
    refine Registry.mem_lines_deactivate.2 ⟨fun hn => hne ?_, h.registered ref' n href'⟩
    exact h.apart ref ref' n (Space.line?_eq_some.2 ⟨id, trigger, hheld, hn⟩) href'
  · rw [hline, Option.ite_none_left_eq_some] at h₁ h₂
    exact h.apart ref₁ ref₂ n h₁.2 h₂.2

end Distinct

/-! ### Handlers and lines in pairs -/

/-- Each handler has a registered line, and each registered line one handler. -/
structure Matched (s : Space) (r : Registry) : Prop where
  registered : ∀ ref, (s.handler? ref).isSome → ∃ n ∈ r.lines, s.line? ref = some n
  handled : ∀ n ∈ r.lines, ∃ ref, s.line? ref = some n
  apart : ∀ ref ref' n, s.line? ref = some n → s.line? ref' = some n → ref = ref'
  counted : r.Counted

namespace Matched

variable {s s' : Space} {r : Registry} {id : IrqId} {trigger : Option Trigger} {ref : SlotRef}
variable {n : Nat}

/-- The line of a slot is registered. -/
theorem mem_lines (h : Matched s r) (hn : s.line? ref = some n) : n ∈ r.lines := by
  obtain ⟨_, _, hheld, -⟩ := Space.line?_eq_some.1 hn
  obtain ⟨m, hm, hline⟩ := h.registered ref (Option.isSome_of_eq_some hheld)
  rw [hn] at hline
  cases hline
  exact hm

/-- Where handlers and lines match, no line has two handlers. -/
theorem distinct (h : Matched s r) : Distinct s r where
  known ref id trigger href := by
    obtain ⟨n, -, hn⟩ := h.registered ref (Option.isSome_of_eq_some href)
    rw [Space.line?, href, Option.bind_some] at hn
    exact IrqId.irq_le_of_line? hn
  registered ref n hn := h.mem_lines hn
  apart := h.apart

/-- With no handler and no line there is nothing to match. -/
theorem empty (h : ∀ ref, s.handler? ref = none) : Matched s .empty where
  registered ref href := by
    rw [h ref] at href
    exact absurd href Bool.false_ne_true
  handled n hn := by
    rw [Registry.lines_empty] at hn
    exact absurd hn (Finset.notMem_empty n)
  apart ref ref' n href := by
    rw [Space.line?, h ref] at href
    exact absurd href.symm (Option.some_ne_none n)
  counted := by
    rw [Registry.Counted, Registry.lines_empty]
    rfl

/-- The line of a live handler is active, whatever the core of a shared one. -/
theorem isActive (h : Matched s r) (hheld : s.handler? ref = some (id, trigger)) {id' : IrqId}
    (hirq : id.irq = id'.irq) (hcore : id.isPrivate = true → id.core = id'.core) :
    r.isActive id' = true := by
  obtain ⟨n, hn, hat⟩ := h.registered ref (Option.isSome_of_eq_some hheld)
  rw [Space.line?, hheld, Option.bind_some, IrqId.line?_congr hirq hcore] at hat
  exact Registry.isActive_eq_true.2 ⟨n, hat, hn⟩

/-- Handlers and lines are all that is matched. -/
theorem congr (h : Matched s r) (hs : s'.handler? = s.handler?) : Matched s' r := by
  have hline := Space.line?_congr hs
  obtain ⟨hregistered, hhandled, hapart, hcounted⟩ := h
  rw [← hs, ← hline] at hregistered
  rw [← hline] at hhandled hapart
  exact ⟨hregistered, hhandled, hapart, hcounted⟩

/-- A handler in a free slot, for a line that has none. -/
theorem issue (h : Matched s r) (hn : id.line? = some n) (hinactive : r.isActive id = false)
    (hfree : s.handler? ref = none)
    (hs : ∀ ref', s'.handler? ref' = if ref = ref' then some (id, trigger) else s.handler? ref') :
    Matched s' (r.activate id).2 := by
  have hdistinct := h.distinct.issue (IrqId.irq_le_of_line? hn) hinactive hs
  have hline : ∀ ref', s'.line? ref' = if ref = ref' then some n else s.line? ref' := by
    intro ref'
    rw [Space.line?_of_handler? hs, Option.bind_some, hn]
  refine ⟨?_, ?_, hdistinct.apart, h.counted.activate id⟩
  · intro ref' href'
    rw [Registry.lines_activate hn, hline]
    rcases eq_or_ne ref ref' with rfl | hne
    · exact ⟨n, Finset.mem_insert_self n _, if_pos rfl⟩
    · rw [hs, if_neg hne] at href'
      obtain ⟨m, hm, hat⟩ := h.registered ref' href'
      exact ⟨m, Finset.mem_insert_of_mem hm, by rw [if_neg hne, hat]⟩
  · intro m hm
    rw [Registry.lines_activate hn, Finset.mem_insert] at hm
    rcases hm with rfl | hm
    · exact ⟨ref, by rw [hline, if_pos rfl]⟩
    · obtain ⟨ref', hat⟩ := h.handled m hm
      have hne : ref ≠ ref' := by
        rintro rfl
        rw [Space.line?, hfree] at hat
        cases hat
      exact ⟨ref', by rw [hline, if_neg hne, hat]⟩

/-- A handler goes, and its line is set free. -/
theorem release (h : Matched s r) (hheld : s.handler? ref = some (id, trigger))
    (hs : ∀ ref', s'.handler? ref' = if ref = ref' then none else s.handler? ref') :
    Matched s' (r.deactivate id).2 := by
  obtain ⟨n, -, hat⟩ := h.registered ref (Option.isSome_of_eq_some hheld)
  have hn : id.line? = some n := by rwa [Space.line?, hheld] at hat
  have hline : ∀ ref', s'.line? ref' = if ref = ref' then none else s.line? ref' :=
    Space.line?_of_handler? hs
  refine ⟨?_, ?_, (h.distinct.release hheld hs).apart, h.counted.deactivate id⟩
  · intro ref' href'
    rw [hs] at href'
    rcases eq_or_ne ref ref' with rfl | hne
    · rw [if_pos rfl] at href'
      cases href'
    · rw [if_neg hne] at href'
      obtain ⟨m, hm, hat'⟩ := h.registered ref' href'
      have hmn : m ≠ n := by
        rintro rfl
        exact hne (h.apart ref ref' m hat hat')
      rw [Registry.lines_deactivate hn, hline, if_neg hne]
      exact ⟨m, Finset.mem_erase.2 ⟨hmn, hm⟩, hat'⟩
  · intro m hm
    rw [Registry.lines_deactivate hn, Finset.mem_erase] at hm
    obtain ⟨hmn, hm⟩ := hm
    obtain ⟨ref', hat'⟩ := h.handled m hm
    have hne : ref ≠ ref' := by
      rintro rfl
      exact hmn (Option.some.inj (hat'.symm.trans hat))
    exact ⟨ref', by rw [hline, if_neg hne, hat']⟩

/-- There are as many live handlers as the counter says. -/
theorem encard_handlers (h : Matched s r) :
    {ref | (s.handler? ref).isSome}.encard = r.count := by
  have hat : ∀ ref, (s.handler? ref).isSome → s.line? ref = some ((s.line? ref).getD 0)
      ∧ (s.line? ref).getD 0 ∈ r.lines := by
    intro ref href
    obtain ⟨n, hn, hline⟩ := h.registered ref href
    rw [hline]
    exact ⟨rfl, hn⟩
  have hinj : Set.InjOn (fun ref => (s.line? ref).getD 0) {ref | (s.handler? ref).isSome} := by
    intro ref href ref' href' heq
    refine h.apart ref ref' _ (hat ref href).1 ?_
    rw [show (s.line? ref).getD 0 = (s.line? ref').getD 0 from heq]
    exact (hat ref' href').1
  have himage : (fun ref => (s.line? ref).getD 0) '' {ref | (s.handler? ref).isSome} = r.lines := by
    ext n
    constructor
    · rintro ⟨ref, href, rfl⟩
      exact (hat ref href).2
    · intro hn
      obtain ⟨ref, hline⟩ := h.handled n hn
      obtain ⟨_, _, hheld, -⟩ := Space.line?_eq_some.1 hline
      exact ⟨ref, Option.isSome_of_eq_some hheld, by simp only [hline, Option.getD_some]⟩
  rw [← hinj.encard_image, himage, Set.encard_coe_eq_coe_finsetCard, h.counted]

end Matched

namespace Kernel

variable {C : Type} [Controller C]

/-- One event keeps handlers and lines matched, where every number of the platform has a line. -/
theorem matched_after {k : Kernel C Space} {e : Event} (he : e.Admissible)
    (hm : k.platform.maxIrq ≤ maxLine) (h : Matched k.space k.registry) :
    Matched (k.after e).space (k.after e).registry := by
  have change := change_after k he
  generalize k.after e = k' at change
  cases change with
  | kept handlers registry => rw [registry]; exact h.congr handlers
  | issued asks inactive free program handlers registry =>
    obtain ⟨n, hn⟩ := asks.line hm he
    rw [registry]
    exact h.issue hn inactive free handlers
  | released held handlers registry =>
    rw [registry]
    exact h.release held handlers

variable [SteadyController C] {k : Kernel C Space} {es : List Event}

/-- Handlers and lines match in every state that a fresh kernel can get to. -/
theorem matched_run (hk : k.Fresh) (hm : k.platform.maxIrq ≤ maxLine)
    (hes : ∀ e ∈ es, e.Admissible) : Matched (k.run es).space (k.run es).registry := by
  refine run_induction (P := fun k => Matched k.space k.registry) hes ?_ fun es e _ he h => ?_
  · rw [hk.registry]
    exact .empty hk.handler?
  · exact matched_after he (by rwa [platform_run]) h

/-- In every state that a fresh kernel can get to, the line of every handler is registered, every
    registered line has exactly one handler, and the counter is the number of registered lines and
    of live handlers. In particular no two slots hold handlers for one interrupt, whatever the core
    of a shared one. -/
theorem lines_match_handlers (hk : k.Fresh) (hm : k.platform.maxIrq ≤ maxLine)
    (hes : ∀ e ∈ es, e.Admissible) :
    (∀ ref id trigger, (k.run es).space.handler? ref = some (id, trigger) →
        ∃ n, id.line? = some n ∧ (k.run es).registry.holds n = true)
      ∧ (∀ n, (k.run es).registry.holds n = true →
        ∃! ref, ∃ id trigger, (k.run es).space.handler? ref = some (id, trigger)
          ∧ id.line? = some n)
      ∧ (∀ ref ref' id id' trigger trigger', (k.run es).space.handler? ref = some (id, trigger) →
        (k.run es).space.handler? ref' = some (id', trigger') → id.irq = id'.irq →
        (id.isPrivate = true → id.core = id'.core) → ref = ref')
      ∧ (k.run es).registry.count
          = ((Finset.range lineCount).filter fun n => (k.run es).registry.holds n = true).card
      ∧ {ref | ((k.run es).space.handler? ref).isSome}.encard = (k.run es).registry.count := by
  have h := matched_run hk hm hes
  refine ⟨?_, ?_, ?_, h.counted, h.encard_handlers⟩
  · intro ref id trigger href
    obtain ⟨n, hreg, hn⟩ := h.registered ref (Option.isSome_of_eq_some href)
    rw [Space.line?, href] at hn
    exact ⟨n, hn, Registry.mem_lines.1 hreg⟩
  · intro n hn
    obtain ⟨ref, href⟩ := h.handled n (Registry.mem_lines.2 hn)
    refine ⟨ref, Space.line?_eq_some.1 href, fun ref' href' => ?_⟩
    exact h.apart ref' ref n (Space.line?_eq_some.2 href') href
  · intro ref ref' id id' trigger trigger' href href' hirq hcore
    obtain ⟨n, -, hn⟩ := h.registered ref (Option.isSome_of_eq_some href)
    refine h.apart ref ref' n hn ?_
    rw [Space.line?, href] at hn
    rw [Space.line?, href', Option.bind_some, ← IrqId.line?_congr hirq hcore]
    exact hn

/-- A caller on core 3 asks twice for a private interrupt: one handler, and the line of that core. -/
theorem private_line_matches_handler :
    ∃ (k : Kernel Distributor Space) (es : List Event),
      k.Fresh ∧ k.platform.maxIrq ≤ maxLine ∧ (∀ e ∈ es, e.Admissible) ∧ es.length = 2
        ∧ (k.run es).space.handler? ⟨0, 1⟩ = some (⟨20, 3⟩, none)
        ∧ (k.run es).registry.holds 116 = true
        ∧ {ref | ((k.run es).space.handler? ref).isSome}.encard = (k.run es).registry.count := by
  let root : CNode := ⟨0, 2, .none⟩
  let k : Kernel Distributor Space := ⟨.uniprocessor, ⟨.zero, .full⟩, .empty,
    ⟨#[#[⟨.cnode root, none⟩, .empty, .empty, ⟨.irqControl .none, none⟩]]⟩, .runningOn 0⟩
  let inv : Invocation := ⟨.ofCounts 1 1 3, [20, 1, 2], [.cnode root], ⟨0, 3⟩⟩
  let req : HandlerRequest := ⟨⟨20, 3⟩, none, none, ⟨.cnode root, 1, 2⟩⟩
  let issue : Event := .invoke (.runningOn 3) (.irqControl .none) inv
  have hfresh : k.Fresh := ⟨⟨2, .none, root, rfl⟩, rfl⟩
  have hes : ∀ e ∈ [issue, issue], e.Admissible := by decide
  have hlookup : k.space.lookup (.cnode root) 1 2 = .ok ⟨0, 1⟩ := by cbv
  have hslot : { k with caller := .runningOn 3 }.handlerSlot req = .ok ⟨0, 1⟩ :=
    handlerSlot_eq_ok.2 ⟨Registry.isActive_empty req.id, hlookup, rfl⟩
  have hfirst : (k.after issue).space.handler? ⟨0, 1⟩ = some (⟨20, 3⟩, none) := by
    have asks : { k with caller := .runningOn 3 }.Asks inv req := .plain rfl rfl
    obtain ⟨d, hd, -, -⟩ := asks.invoke_succeeds (by decide) (by decide) hslot .none
    exact congrArg (·.2.space.handler? ⟨0, 1⟩) hd
  have hheld : (k.run [issue, issue]).space.handler? ⟨0, 1⟩ = some (⟨20, 3⟩, none) :=
    handler?_invoke hfirst
  obtain ⟨hregistered, -, -, -, hcount⟩ := lines_match_handlers hfresh (by decide) hes
  obtain ⟨n, hn, hholds⟩ := hregistered ⟨0, 1⟩ ⟨20, 3⟩ none hheld
  cases hn
  exact ⟨k, [issue, issue], hfresh, by decide, hes, rfl, hheld, hholds, hcount⟩

end Kernel

end InterruptCaps
