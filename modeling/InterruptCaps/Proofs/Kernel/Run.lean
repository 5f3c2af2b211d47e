import InterruptCaps.Proofs.Gic.Programming
import InterruptCaps.Proofs.Kernel.Effect

/-! Runs of a kernel from its start-up. Threads invoke capabilities, and between the invocations
    nodes are made, capabilities are put into slots and slots are finalised. Whatever the event,
    the handlers change in one of three ways: nothing, one more, one less. -/

namespace InterruptCaps.Kernel

/-- Something that happens to a kernel. -/
inductive Event where
  /-- A thread invokes a capability. -/
  | invoke (caller : Thread) (cap : Cap) (inv : Invocation)
  | createNode (radix : Nat) (guard : Guard)
  | insert (cap : Cap) (source dest : SlotRef)
  | finalise (ref : SlotRef)

/-- What callers keep to: they run on a core that has lines, handlers come from invocations alone,
    and every node that is stored reads an index. -/
def Event.Admissible : Event → Prop
  | .invoke caller _ _ => caller.core < maxNodes
  | .insert cap _ _ => cap.handler? = none ∧ cap.Indexed
  | .createNode .. | .finalise _ => True

instance : DecidablePred Event.Admissible
  | .invoke caller _ _ => inferInstanceAs (Decidable (caller.core < maxNodes))
  | .insert cap _ _ => inferInstanceAs (Decidable (cap.handler? = none ∧ cap.Indexed))
  | .createNode .. | .finalise _ => instDecidableTrue

/-- Handlers come from invocations alone; callers and nodes may be any. -/
def Event.HandlerFree : Event → Prop
  | .insert cap _ _ => cap.handler? = none
  | .invoke .. | .createNode .. | .finalise _ => True

theorem Event.Admissible.handlerFree {e : Event} (h : e.Admissible) : e.HandlerFree := by
  cases e with
  | insert cap source dest => exact h.1
  | invoke | createNode | finalise => trivial

/-- A kernel as it starts up: one node in the capability space, no line registered. -/
structure Fresh {C : Type} [Controller C] (k : Kernel C Space) : Prop where
  space : ∃ radix guard root, Space.boot radix guard = .ok (root, k.space)
  start : start k.config k.controller k.space = .ok k

variable {C : Type} [Controller C]

/-- The kernel after an event. An operation on slots that fails leaves it as it is. -/
def after (k : Kernel C Space) : Event → Kernel C Space
  | .invoke caller cap inv => ({ k with caller }.invoke cap inv).2
  | .createNode radix guard =>
    match k.space.createNode radix guard with
    | .ok (_, space) => { k with space }
    | .error _ => k
  | .insert cap source dest =>
    match k.space.insert cap source dest with
    | .ok space => { k with space }
    | .error _ => k
  | .finalise ref =>
    match k.finalise ref with
    | .ok (_, k') => k'
    | .error _ => k

/-- The kernel after a series of events. -/
def run (k : Kernel C Space) (es : List Event) : Kernel C Space := es.foldl after k

@[simp] theorem run_nil (k : Kernel C Space) : k.run [] = k := rfl

theorem run_append (k : Kernel C Space) (es es' : List Event) :
    k.run (es ++ es') = (k.run es).run es' := List.foldl_append

theorem run_concat (k : Kernel C Space) (es : List Event) (e : Event) :
    k.run (es ++ [e]) = (k.run es).after e := by
  rw [run_append]
  rfl

variable {k : Kernel C Space}

theorem Fresh.registry (h : k.Fresh) : k.registry = .empty := by
  have hstart := h.start
  rw [Kernel.start] at hstart
  split at hstart
  · simp at hstart
  · exact (congrArg Kernel.registry (Except.ok.inj hstart)).symm

theorem Fresh.handler? (h : k.Fresh) (ref : SlotRef) : k.space.handler? ref = none := by
  obtain ⟨radix, guard, root, hboot⟩ := h.space
  exact Space.handler?_boot hboot ref

/-- What holds at first, and is kept by each event of a run, holds after the run. -/
theorem run_induction {P : Kernel C Space → Prop} {A : Event → Prop} {es : List Event}
    (hes : ∀ e ∈ es, A e) (base : P k)
    (step : ∀ before e, (∀ e' ∈ before, A e') → A e →
      P (k.run before) → P ((k.run before).after e)) : P (k.run es) := by
  induction es using List.reverseRecOn with
  | nil => exact base
  | append_singleton es e ih =>
    obtain ⟨hes, he⟩ := List.forall_mem_append.1 hes
    rw [run_concat]
    exact step es e hes (he e List.mem_cons_self) (ih hes)

/-! ### Handlers and lines -/

/-- What an event does to the handlers and the registered lines. -/
inductive Change (k : Kernel C Space) : Event → Kernel C Space → Prop where
  | kept {e : Event} {k' : Kernel C Space} (handlers : k'.space.handler? = k.space.handler?)
      (registry : k'.registry = k.registry) : Change k e k'
  | issued {caller : Thread} {badge : Badge} {inv : Invocation} {req : HandlerRequest}
      {dest : SlotRef} {k' : Kernel C Space}
      (asks : { k with caller }.Asks inv req) (inactive : k.registry.isActive req.id = false)
      (free : k.space.handler? dest = none)
      (program : Controller.program req.id.irq req.trigger req.route k.controller
        = (.ok (), k'.controller))
      (handlers : ∀ ref, k'.space.handler? ref
        = if dest = ref then some (req.id, req.trigger) else k.space.handler? ref)
      (registry : k'.registry = (k.registry.activate req.id).2) :
      Change k (.invoke caller (.irqControl badge) inv) k'
  | released {ref : SlotRef} {id : IrqId} {trigger : Option Trigger} {k' : Kernel C Space}
      (held : k.space.handler? ref = some (id, trigger))
      (handlers : ∀ ref', k'.space.handler? ref'
        = if ref = ref' then none else k.space.handler? ref')
      (registry : k'.registry = (k.registry.deactivate id).2) :
      Change k (.finalise ref) k'

/-- An invocation issues at most one handler; any other effect leaves handlers and lines alone. -/
theorem change_invoke (k : Kernel C Space) (caller : Thread) (cap : Cap) (inv : Invocation) :
    k.Change (.invoke caller cap inv) (k.after (.invoke caller cap inv)) := by
  rw [after]
  have effect := invoke_effect { k with caller } cap inv
  generalize { k with caller }.invoke cap inv = out at effect
  cases effect with
  | issued asks slot program insert =>
    obtain ⟨hinactive, -, hempty⟩ := handlerSlot_eq_ok.1 slot
    exact .issued asks hinactive (Space.handler?_of_ensureEmpty hempty) program
      (Space.handler?_insert insert) rfl
  | signalIssued single asks slot insert => exact .kept (Space.handler?_insert_other insert rfl) rfl
  | _ => exact .kept rfl rfl

/-- A slot that is finalised loses its handler, if it has one, and the handler its line. -/
theorem change_finalise (k : Kernel C Space) (ref : SlotRef) :
    k.Change (.finalise ref) (k.after (.finalise ref)) := by
  rw [after, Kernel.finalise]
  cases hdelete : k.space.delete ref with
  | error e => exact .kept rfl rfl
  | ok deleted =>
    obtain ⟨cap, space⟩ := deleted
    obtain ⟨hheld, hhandlers⟩ := Space.handler?_delete hdelete
    simp only [Cap.handled?_eq]
    cases hcap : cap.handler? with
    | none =>
      refine .kept ?_ rfl
      funext ref'
      show space.handler? ref' = _
      rw [hhandlers]
      split
      · rename_i hr
        rw [← hr, hheld, hcap]
      · rfl
    | some h =>
      obtain ⟨id, trigger⟩ := h
      exact .released (hheld.trans hcap) hhandlers rfl

/-- Whoever the caller is, an event changes handlers and lines in one of the three ways. -/
theorem change_of_handlerFree (k : Kernel C Space) {e : Event} (he : e.HandlerFree) :
    k.Change e (k.after e) := by
  cases e with
  | invoke caller cap inv => exact change_invoke k caller cap inv
  | createNode radix guard =>
    rw [after]
    cases hmade : k.space.createNode radix guard with
    | error e => exact .kept rfl rfl
    | ok made => exact .kept (Space.handler?_createNode hmade) rfl
  | insert cap source dest =>
    rw [after]
    cases hinsert : k.space.insert cap source dest with
    | error e => exact .kept rfl rfl
    | ok space => exact .kept (Space.handler?_insert_other hinsert he) rfl
  | finalise ref => exact change_finalise k ref

/-- Every admissible event changes handlers and lines in one of the three ways. -/
theorem change_after (k : Kernel C Space) {e : Event} (he : e.Admissible) :
    k.Change e (k.after e) :=
  change_of_handlerFree k he.handlerFree

/-- A handler stays what it is for as long as its slot holds one. -/
theorem Change.handler?_eq {k k' : Kernel C Space} {e : Event} (h : k.Change e k') {ref : SlotRef}
    {held : IrqId × Option Trigger} (before : k.space.handler? ref = some held)
    (after : k'.space.handler? ref ≠ none) : k'.space.handler? ref = some held := by
  cases h with
  | kept handlers registry => rw [handlers, before]
  | issued asks inactive free program handlers registry =>
    rw [handlers, if_neg, before]
    rintro rfl
    rw [free] at before
    exact absurd before (Option.some_ne_none held).symm
  | released _ handlers registry =>
    rw [handlers] at after ⊢
    split at after
    · exact absurd rfl after
    · rw [if_neg ‹_›, before]

/-- No invocation takes a handler away. -/
theorem handler?_invoke {caller : Thread} {cap : Cap} {inv : Invocation} {ref : SlotRef}
    {held : IrqId × Option Trigger} (before : k.space.handler? ref = some held) :
    (k.after (.invoke caller cap inv)).space.handler? ref = some held := by
  refine (change_invoke k caller cap inv).handler?_eq before ?_
  have change := change_invoke k caller cap inv
  generalize k.after (.invoke caller cap inv) = k' at change
  cases change with
  | kept handlers registry =>
    rw [handlers, before]
    exact Option.some_ne_none held
  | issued asks inactive free program handlers registry =>
    rw [handlers]
    split
    · exact Option.some_ne_none _
    · rw [before]
      exact Option.some_ne_none held

/-! ### Who issued a handler -/

/-- The handler at `ref` after a run is the one that `inv` put there: the slot held none before, and
    it has held one ever since. -/
inductive IssuedBy (k : Kernel C Space) (inv : Invocation) (ref : SlotRef) : List Event → Prop where
  | issue {before : List Event} {caller : Thread} {cap : Cap}
      (free : (k.run before).space.handler? ref = none)
      (held : (k.run (before ++ [.invoke caller cap inv])).space.handler? ref ≠ none) :
      IssuedBy k inv ref (before ++ [.invoke caller cap inv])
  | keep {es : List Event} {e : Event} (issued : IssuedBy k inv ref es)
      (held : (k.run (es ++ [e])).space.handler? ref ≠ none) : IssuedBy k inv ref (es ++ [e])

/-- Every handler that a fresh kernel gets to hold was issued by an invocation. -/
theorem exists_issuedBy (hk : k.Fresh) {es : List Event} (hes : ∀ e ∈ es, e.Admissible)
    {ref : SlotRef} (held : (k.run es).space.handler? ref ≠ none) :
    ∃ inv, k.IssuedBy inv ref es := by
  induction es using List.reverseRecOn with
  | nil => exact absurd (hk.handler? ref) held
  | append_singleton es e ih =>
    obtain ⟨hes, he⟩ := List.forall_mem_append.1 hes
    by_cases hbefore : (k.run es).space.handler? ref = none
    · have hnow := held
      rw [run_concat] at hnow
      have change := change_after (k.run es) (he e List.mem_cons_self)
      generalize (k.run es).after e = k' at change hnow
      cases change with
      | kept handlers registry =>
        rw [handlers] at hnow
        exact absurd hbefore hnow
      | issued => exact ⟨_, .issue hbefore held⟩
      | released _ handlers registry =>
        rw [handlers] at hnow
        split at hnow
        · exact absurd rfl hnow
        · exact absurd hbefore hnow
    · obtain ⟨inv, hissued⟩ := ih hes hbefore
      exact ⟨inv, hissued.keep held⟩

/-! ### What never changes -/

/-- Only invocations reach the controller, and they do not come with a new configuration either. -/
theorem after_invoke_or (k : Kernel C Space) (e : Event) :
    (∃ caller cap inv, e = .invoke caller cap inv)
      ∨ ((k.after e).config = k.config ∧ (k.after e).controller = k.controller) := by
  cases e with
  | invoke caller cap inv => exact Or.inl ⟨caller, cap, inv, rfl⟩
  | createNode radix guard =>
    rw [after]
    split <;> exact Or.inr ⟨rfl, rfl⟩
  | insert cap source dest =>
    rw [after]
    split <;> exact Or.inr ⟨rfl, rfl⟩
  | finalise ref =>
    rw [after, Kernel.finalise]
    cases k.space.delete ref with
    | error e => exact Or.inr ⟨rfl, rfl⟩
    | ok deleted =>
      obtain ⟨cap, space⟩ := deleted
      cases cap <;> exact Or.inr ⟨rfl, rfl⟩

theorem Effect.config {inv : Invocation} {cap : Cap} {out : Outcome C Space}
    (h : k.Effect inv cap out) : out.2.config = k.config := by
  cases h <;> rfl

theorem config_after (k : Kernel C Space) (e : Event) : (k.after e).config = k.config := by
  rcases after_invoke_or k e with ⟨caller, cap, inv, rfl⟩ | ⟨hconfig, -⟩
  · exact (invoke_effect { k with caller } cap inv).config
  · exact hconfig

theorem config_run (k : Kernel C Space) (es : List Event) : (k.run es).config = k.config := by
  induction es using List.reverseRecOn with
  | nil => rfl
  | append_singleton es e ih => rw [run_concat, config_after, ih]

variable [SteadyController C]

theorem Effect.platform {inv : Invocation} {cap : Cap} {out : Outcome C Space}
    (h : k.Effect inv cap out) : out.2.platform = k.platform := by
  cases h with
  | rejected | signalUnstored | signalIssued => rfl
  | unprogrammed asks slot program | unstored asks slot program | issued asks slot program =>
    have hsame := congrArg (Controller.platform ·.2) program
    exact hsame.symm.trans (Controller.platform_program _ _ _ _)
  | unowned multikernel asks owns =>
    have hsame := congrArg (Controller.platform ·.2) owns
    exact hsame.symm.trans (Controller.platform_owns _ _)
  | unrouted multikernel asks owns interface set | retargeted multikernel asks owns interface set =>
    have howns := congrArg (Controller.platform ·.2) owns
    have hset := congrArg (Controller.platform ·.2) set
    calc _ = _ := hset.symm.trans (SteadyController.platform_setTarget _ _ _)
      _ = _ := howns.symm.trans (Controller.platform_owns _ _)
  | sent sgi target => exact SteadyController.platform_sendSgi sgi target k.controller

theorem platform_after (k : Kernel C Space) (e : Event) : (k.after e).platform = k.platform := by
  rcases after_invoke_or k e with ⟨caller, cap, inv, rfl⟩ | ⟨-, hcontroller⟩
  · exact (invoke_effect { k with caller } cap inv).platform
  · exact congrArg Controller.platform hcontroller

theorem platform_run (k : Kernel C Space) (es : List Event) : (k.run es).platform = k.platform := by
  induction es using List.reverseRecOn with
  | nil => rfl
  | append_singleton es e ih => rw [run_concat, platform_after, ih]

end InterruptCaps.Kernel
