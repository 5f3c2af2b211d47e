import InterruptCaps.Proofs.Kernel.Matched

/-! Handlers where a kernel has its core to itself, on a uniprocessor or as one instance of a
    multikernel. Cores are not told apart there, and an interrupt with a trigger is issued on core
    0; but a plain handler goes by the core that its caller reports. So a private interrupt can have
    one handler for each core that callers report, and any number of them for a core without lines.

    Main statement: every handler is on core 0 or on the core of a caller who asked plainly, two
    handlers of one number are private ones of different cores or of a core without lines, and
    where all who ask plainly are on core 0 every handler is on core 0 and the only one of its
    number. -/

namespace InterruptCaps

/-- Two handlers of one number are private, and of different cores or of a core without lines. -/
theorem Distinct.private_of_ne {s : Space} {r : Registry} (h : Distinct s r) {id id' : IrqId}
    {trigger trigger' : Option Trigger} {ref ref' : SlotRef}
    (hheld : s.handler? ref = some (id, trigger)) (hheld' : s.handler? ref' = some (id', trigger'))
    (hirq : id.irq = id'.irq) (hne : ref ≠ ref') :
    id.isPrivate = true ∧ (id.core ≠ id'.core ∨ maxNodes ≤ id.core) := by
  by_contra hnot
  have hcore : id.isPrivate = true → id.core = id'.core ∧ id.core < maxNodes := by
    intro hprivate
    simpa [hprivate] using hnot
  have hline : id.line?.isSome := by
    rw [IrqId.isSome_line?, ← IrqId.isPrivate_iff]
    exact ⟨h.known ref id trigger hheld, fun hprivate => (hcore hprivate).2⟩
  obtain ⟨n, hn⟩ := Option.isSome_iff_exists.1 hline
  have hn' : id'.line? = some n := by
    rw [← IrqId.line?_congr hirq fun hprivate => (hcore hprivate).1, hn]
  exact hne (h.apart ref ref' n (Space.line?_eq_some.2 ⟨id, trigger, hheld, hn⟩)
    (Space.line?_eq_some.2 ⟨id', trigger', hheld', hn'⟩))

namespace Kernel

/-- Where a kernel has its core to itself, a handler is on core 0, or on the caller's core if it was
    asked for plainly. -/
theorem Asks.core_of_single {C S : Type} [Controller C] {k : Kernel C S} {inv : Invocation}
    {req : HandlerRequest} (h : k.Asks inv req) (single : k.config.isSmp = false) :
    req.id.core = 0
      ∨ inv.label = Label.issueHandler.toWord ∧ req.id.core = k.caller.core := by
  cases h with
  | plain label checked =>
    obtain ⟨root, -, -, -, rfl⟩ := HandlerRequest.plain_eq_ok.1 checked
    exact .inr ⟨Label.ofWord?_eq_some.1 label, rfl⟩
  | withTrigger label checked =>
    obtain ⟨root, -, -, -, -, rfl⟩ := HandlerRequest.withTrigger_eq_ok.1 checked
    exact .inl rfl
  | forCore label smp checked =>
    rw [single] at smp
    cases smp

/-- Among the events, a caller on this core asks for a plain handler. -/
def AskedFrom (core : Nat) (es : List Event) : Prop :=
  ∃ caller cap inv, Event.invoke caller cap inv ∈ es ∧ inv.label = Label.issueHandler.toWord
    ∧ caller.core = core

variable {C : Type} [Controller C]

theorem distinct_after {k : Kernel C Space} {e : Event} (he : e.HandlerFree)
    (hm : k.platform.maxIrq ≤ maxLine) (h : Distinct k.space k.registry) :
    Distinct (k.after e).space (k.after e).registry := by
  have change := change_of_handlerFree k he
  generalize k.after e = k' at change
  cases change with
  | kept handlers registry => rw [registry]; exact h.congr handlers
  | issued asks inactive free program handlers registry =>
    rw [registry]
    exact h.issue (Nat.le_trans asks.irq_le hm) inactive handlers
  | released held handlers registry =>
    rw [registry]
    exact h.release held handlers

/-- The cores of the handlers after a run are 0 and those that callers asked from. -/
theorem core_run {k : Kernel C Space} {es : List Event} (hk : k.Fresh)
    (hsingle : k.config.isSmp = false) (hes : ∀ e ∈ es, e.HandlerFree) {ref : SlotRef} {id : IrqId}
    {trigger : Option Trigger} (held : (k.run es).space.handler? ref = some (id, trigger)) :
    id.core = 0 ∨ AskedFrom id.core es := by
  induction es using List.reverseRecOn generalizing ref id trigger with
  | nil =>
    rw [run_nil, hk.handler?] at held
    cases held
  | append_singleton es e ih =>
    obtain ⟨hes, he⟩ := List.forall_mem_append.1 hes
    have hbefore : ∀ {ref id trigger}, (k.run es).space.handler? ref = some (id, trigger) →
        id.core = 0 ∨ AskedFrom id.core (es ++ [e]) := by
      intro ref id trigger held
      refine (ih hes held).imp_right fun ⟨caller, cap, inv, hmem, hasked⟩ => ?_
      exact ⟨caller, cap, inv, List.mem_append_left _ hmem, hasked⟩
    have change := change_of_handlerFree (k.run es) (he e List.mem_cons_self)
    rw [run_concat] at held
    generalize (k.run es).after e = k' at change held
    cases change with
    | kept handlers registry =>
      rw [handlers] at held
      exact hbefore held
    | issued asks inactive free program handlers registry =>
      rw [handlers] at held
      split at held
      · cases held
        refine (asks.core_of_single ((congrArg _ (k.config_run es)).trans hsingle)).imp_right ?_
        rintro ⟨hlabel, hcore⟩
        exact ⟨_, _, _, List.mem_append_right _ List.mem_cons_self, hlabel, hcore.symm⟩
      · exact hbefore held
    | released gone handlers registry =>
      rw [handlers, Option.ite_none_left_eq_some] at held
      exact hbefore held.2

variable [SteadyController C] {k : Kernel C Space} {es : List Event}

theorem distinct_run (hk : k.Fresh) (hm : k.platform.maxIrq ≤ maxLine)
    (hes : ∀ e ∈ es, e.HandlerFree) : Distinct (k.run es).space (k.run es).registry := by
  refine run_induction (P := fun k => Distinct k.space k.registry) hes ?_ fun es e _ he h => ?_
  · rw [hk.registry]
    exact .empty hk.handler?
  · exact distinct_after he (by rwa [platform_run]) h

/-- Whatever happens to a kernel that has its core to itself: a handler is on core 0 or on the core
    of a caller who asked plainly, and two handlers of one number are private ones, of different
    cores or of a core without lines. So where all who ask plainly are on core 0, each handler is on
    core 0 and the only one of its number. -/
theorem handlers_of_one_number (hk : k.Fresh) (hm : k.platform.maxIrq ≤ maxLine)
    (hsingle : k.config.isSmp = false) (hes : ∀ e ∈ es, e.HandlerFree) :
    (∀ ref id trigger, (k.run es).space.handler? ref = some (id, trigger) →
        id.core = 0 ∨ AskedFrom id.core es)
      ∧ (∀ ref ref' id id' trigger trigger', (k.run es).space.handler? ref = some (id, trigger) →
        (k.run es).space.handler? ref' = some (id', trigger') → id.irq = id'.irq → ref ≠ ref' →
        id.isPrivate = true ∧ (id.core ≠ id'.core ∨ maxNodes ≤ id.core))
      ∧ ((∀ core, AskedFrom core es → core = 0) →
        ∀ ref id trigger, (k.run es).space.handler? ref = some (id, trigger) →
          id.core = 0 ∧ ∀ ref' id' trigger', (k.run es).space.handler? ref' = some (id', trigger') →
            id'.irq = id.irq → ref' = ref) := by
  have hdistinct := distinct_run hk hm hes
  refine ⟨fun _ _ _ held => core_run hk hsingle hes held,
    fun _ _ _ _ _ _ held held' => hdistinct.private_of_ne held held', fun hboot => ?_⟩
  have hcore : ∀ {ref id trigger}, (k.run es).space.handler? ref = some (id, trigger) →
      id.core = 0 := fun held => (core_run hk hsingle hes held).elim (fun h => h) (hboot _)
  intro ref id trigger held
  refine ⟨hcore held, fun ref' id' trigger' held' hirq => ?_⟩
  by_contra hne
  obtain ⟨-, hcores | hcores⟩ := hdistinct.private_of_ne held' held hirq hne
  · exact hcores ((hcore held').trans (hcore held).symm)
  · rw [hcore held'] at hcores
    exact absurd hcores (by decide)

/-- A caller on core 0 asks plainly for interrupt 27 and a caller on core 5 asks for it with a
    trigger: the first handler is the only one. -/
theorem boot_core_handler_alone :
    ∃ (k : Kernel Distributor Space) (es : List Event),
      k.Fresh ∧ k.platform.maxIrq ≤ maxLine ∧ k.config.isSmp = false ∧ (∀ e ∈ es, e.HandlerFree)
        ∧ (∀ core, AskedFrom core es → core = 0) ∧ es.length = 2
        ∧ (k.run es).space.handler? ⟨0, 1⟩ = some (⟨27, 0⟩, none)
        ∧ ∀ ref id trigger, (k.run es).space.handler? ref = some (id, trigger) → id.irq = 27 →
          ref = ⟨0, 1⟩ := by
  let root : CNode := ⟨0, 2, .none⟩
  let k : Kernel Distributor Space := ⟨.multikernel, ⟨.zero, .full⟩, .empty,
    ⟨#[#[⟨.cnode root, none⟩, .empty, .empty, ⟨.irqControl .none, none⟩]]⟩, .runningOn 0⟩
  let inv : Invocation := ⟨.ofCounts 1 1 3, [27, 1, 2], [.cnode root], ⟨0, 3⟩⟩
  let inv' : Invocation := ⟨.ofCounts 2 1 4, [27, 1, 2, 2], [.cnode root], ⟨0, 3⟩⟩
  let req : HandlerRequest := ⟨⟨27, 0⟩, none, none, ⟨.cnode root, 1, 2⟩⟩
  let es : List Event := [.invoke (.runningOn 0) (.irqControl .none) inv,
    .invoke (.runningOn 5) (.irqControl .none) inv']
  have hfresh : k.Fresh := ⟨⟨2, .none, root, rfl⟩, rfl⟩
  have hes : ∀ e ∈ es, e.HandlerFree := by simp [es, Event.HandlerFree]
  have hboot : ∀ core, AskedFrom core es → core = 0 := by
    rintro core ⟨caller, cap, asked, hmem, hlabel, rfl⟩
    rcases List.mem_pair.1 hmem with h | h <;> cases h
    · rfl
    · exact absurd hlabel (by decide)
  have hheld : (k.run es).space.handler? ⟨0, 1⟩ = some (⟨27, 0⟩, none) := by
    have hlookup : k.space.lookup (.cnode root) 1 2 = .ok ⟨0, 1⟩ := by cbv
    have hslot : k.handlerSlot req = .ok ⟨0, 1⟩ :=
      handlerSlot_eq_ok.2 ⟨Registry.isActive_empty req.id, hlookup, rfl⟩
    have asks : k.Asks inv req := .plain (by decide) rfl
    have hfirst := asks.invoke_unwired rfl rfl (by decide) hslot .none
    exact handler?_invoke (congrArg (·.2.space.handler? ⟨0, 1⟩) hfirst)
  obtain ⟨-, -, halone⟩ := handlers_of_one_number hfresh (by decide) rfl hes
  obtain ⟨-, honly⟩ := halone hboot ⟨0, 1⟩ ⟨27, 0⟩ none hheld
  exact ⟨k, es, hfresh, by decide, rfl, hes, hboot, rfl, hheld, honly⟩

/-- A caller that reports core 3 asks for interrupt 27 plainly and then with a trigger: there are
    two handlers of the number, the first of them on core 3. -/
theorem two_handlers_of_one_number :
    ∃ (k : Kernel Distributor Space) (es : List Event),
      k.Fresh ∧ k.platform.maxIrq ≤ maxLine ∧ k.config = .multikernel
        ∧ (∀ e ∈ es, ∃ inv, e = .invoke (.runningOn 3) (.irqControl .none) inv)
        ∧ (k.run es).space.handler? ⟨0, 1⟩ = some (⟨27, 3⟩, none)
        ∧ (k.run es).space.handler? ⟨0, 2⟩ = some (⟨27, 0⟩, some .edge) := by
  let root : CNode := ⟨0, 2, .none⟩
  let k : Kernel Distributor Space := ⟨.multikernel, ⟨.zero, .full⟩, .empty,
    ⟨#[#[⟨.cnode root, none⟩, .empty, .empty, ⟨.irqControl .none, none⟩]]⟩, .runningOn 0⟩
  let inv : Invocation := ⟨.ofCounts 1 1 3, [27, 1, 2], [.cnode root], ⟨0, 3⟩⟩
  let inv' : Invocation := ⟨.ofCounts 2 1 4, [27, 1, 2, 2], [.cnode root], ⟨0, 3⟩⟩
  let req : HandlerRequest := ⟨⟨27, 3⟩, none, none, ⟨.cnode root, 1, 2⟩⟩
  let req' : HandlerRequest := ⟨⟨27, 0⟩, some .edge, none, ⟨.cnode root, 2, 2⟩⟩
  let caller : Thread := .runningOn 3
  let k' : Kernel Distributor Space := { k with
    space := ⟨#[#[⟨.cnode root, none⟩, ⟨.irqHandler ⟨27, 3⟩ none, some ⟨0, 3⟩⟩, .empty,
      ⟨.irqControl .none, none⟩]]⟩
    registry := (k.registry.activate ⟨27, 3⟩).2
    caller := ⟨3, .restart⟩ }
  have hfirst : { k with caller }.invoke (.irqControl .none) inv = (.ok 0, k') := by
    have hlookup : k.space.lookup (.cnode root) 1 2 = .ok ⟨0, 1⟩ := by cbv
    have hslot : { k with caller }.handlerSlot req = .ok ⟨0, 1⟩ :=
      handlerSlot_eq_ok.2 ⟨Registry.isActive_empty req.id, hlookup, rfl⟩
    have asks : { k with caller }.Asks inv req := .plain (by decide) rfl
    exact asks.invoke_unwired rfl rfl (by decide) hslot .none
  have hslot' : { k' with caller }.handlerSlot req' = .ok ⟨0, 2⟩ := by
    have hinactive : k'.registry.isActive req'.id = false := by
      rw [Bool.eq_false_iff, Ne, Registry.isActive_eq_true]
      rintro ⟨n, hn, hmem⟩
      rcases Registry.mem_lines_activate.1 hmem with hn' | hold
      · exact absurd (hn.trans hn'.symm) (by decide)
      · rw [show k.registry.lines = ∅ from Registry.lines_empty] at hold
        exact Finset.notMem_empty n hold
    have hlookup : k'.space.lookup (.cnode root) 2 2 = .ok ⟨0, 2⟩ := by cbv
    exact handlerSlot_eq_ok.2 ⟨hinactive, hlookup, rfl⟩
  have asks' : { k' with caller }.Asks inv' req' := .withTrigger (by decide) rfl
  obtain ⟨d, hsecond, -, -⟩ := asks'.invoke_succeeds (by decide) (by decide) hslot' .none
  let es : List Event :=
    [.invoke caller (.irqControl .none) inv, .invoke caller (.irqControl .none) inv']
  have hrun : k.run es = ({ k' with caller }.invoke (.irqControl .none) inv').2 := by
    show ({ ({ k with caller }.invoke _ inv).2 with caller }.invoke _ inv').2 = _
    rw [hfirst]
  refine ⟨k, es, ⟨⟨2, .none, root, rfl⟩, rfl⟩, by decide, rfl, ?_, ?_, ?_⟩
  · intro e he
    rcases List.mem_pair.1 he with rfl | rfl
    · exact ⟨inv, rfl⟩
    · exact ⟨inv', rfl⟩
  · rw [hrun, hsecond]
    rfl
  · rw [hrun, hsecond]
    rfl

end Kernel

end InterruptCaps
