import InterruptCaps.Proofs.Kernel.Matched

/-! The wiring of live handlers. While a shared line has a handler, no request for it gets as far
    as the distributor, and a request for another line does not reach its bits. So the line keeps
    the trigger and, where nobody may hand it over, the target that its handler was issued with. -/

namespace InterruptCaps.Kernel

variable {k : Kernel Distributor Space} {cap : Cap} {inv : Invocation} {req : HandlerRequest}
variable {irq : Nat}

/-! ### Lines with a handler -/

/-- Programming a line wires it as asked for, and keeps the wiring of any other. -/
theorem Asks.wiring {d : Distributor} {result : Except CallFailure Unit} (asks : k.Asks inv req)
    (hm : k.platform.maxIrq ≤ maxLine)
    (program : Controller.program req.id.irq req.trigger req.route k.controller = (result, d)) :
    (∀ irq, d.trigger irq = if req.id.irq = irq then
        req.trigger.getD (k.controller.trigger irq) else k.controller.trigger irq)
      ∧ ∀ irq, irq ≤ maxLine → d.target irq = if req.id.irq = irq then
          (req.route.map Distributor.single).getD (k.controller.target irq)
        else k.controller.target irq := by
  obtain ⟨d', hd, htrigger, htarget⟩ :=
    Distributor.program_eq_ok asks.irq_le hm req.trigger fun _ => asks.routable
  rw [hd] at program
  cases program
  exact ⟨htrigger, htarget⟩

/-- A request for an active line finds no slot. -/
theorem ne_of_handlerSlot {dest : SlotRef} (slot : k.handlerSlot req = .ok dest)
    (hactive : ∀ core, k.registry.isActive ⟨irq, core⟩ = true) : req.id.irq ≠ irq := by
  obtain ⟨hinactive, -, -⟩ := handlerSlot_eq_ok.1 slot
  rintro rfl
  rw [hactive req.id.core] at hinactive
  cases hinactive

/-- No invocation changes the trigger of an active line, nor, unless lines can be handed to other
    kernels, its target. -/
theorem wiring_invoke (cap : Cap) (inv : Invocation) (hm : k.platform.maxIrq ≤ maxLine)
    (hirq : irq ≤ maxLine) (hactive : ∀ core, k.registry.isActive ⟨irq, core⟩ = true) :
    (k.invoke cap inv).2.controller.trigger irq = k.controller.trigger irq
      ∧ (k.config.topology ≠ .multikernel →
        (k.invoke cap inv).2.controller.target irq = k.controller.target irq) := by
  have effect := invoke_effect k cap inv
  generalize k.invoke cap inv = out at effect
  cases effect with
  | rejected | signalUnstored | signalIssued => exact ⟨rfl, fun _ => rfl⟩
  | unprogrammed asks slot program | unstored asks slot program | issued asks slot program =>
    have hne := ne_of_handlerSlot slot hactive
    obtain ⟨htrigger, htarget⟩ := asks.wiring hm program
    exact ⟨(htrigger irq).trans (if_neg hne), fun _ => (htarget irq hirq).trans (if_neg hne)⟩
  | unowned multikernel asks owns =>
    rw [Distributor.owns_state owns]
    exact ⟨rfl, fun _ => rfl⟩
  | unrouted multikernel asks owns interface setTarget =>
    rw [Distributor.setTarget_error setTarget, Distributor.owns_state owns]
    exact ⟨rfl, fun _ => rfl⟩
  | retargeted multikernel asks owns interface setTarget =>
    obtain rfl := Distributor.owns_state owns
    have hset := congrArg (Distributor.trigger ·.2 irq) setTarget
    exact ⟨hset.symm.trans (Distributor.trigger_setTarget _ _ _ irq), (absurd multikernel ·)⟩
  | sent sgi target =>
    obtain ⟨htrigger, htarget⟩ :=
      k.controller.wiring_sendSgi sgi target (Distributor.lt_irqCapacity hirq)
    exact ⟨htrigger, fun _ => htarget⟩

/-- No event changes the wiring of a line that has a handler. -/
theorem wiring_after (e : Event) (hm : k.platform.maxIrq ≤ maxLine)
    (h : Matched k.space k.registry) {ref : SlotRef} {id : IrqId} {trigger : Option Trigger}
    (held : k.space.handler? ref = some (id, trigger)) (shared : sharedBase ≤ id.irq) :
    (k.after e).controller.trigger id.irq = k.controller.trigger id.irq
      ∧ (k.config.topology ≠ .multikernel →
        (k.after e).controller.target id.irq = k.controller.target id.irq) := by
  rcases after_invoke_or k e with ⟨caller, cap, inv, rfl⟩ | ⟨-, hcontroller⟩
  · obtain ⟨n, -, hn⟩ := h.registered ref (Option.isSome_of_eq_some held)
    rw [Space.line?, held] at hn
    refine wiring_invoke cap inv hm (IrqId.irq_le_of_line? hn) fun core => ?_
    refine h.isActive held rfl fun hprivate => ?_
    exact absurd (id.isPrivate_iff.1 hprivate) (Nat.not_lt.2 shared)
  · rw [hcontroller]
    exact ⟨rfl, fun _ => rfl⟩

/-! ### Triggers -/

/-- The line of each shared handler with a trigger has that trigger. -/
def Triggered (k : Kernel Distributor Space) : Prop :=
  ∀ ref id t, k.space.handler? ref = some (id, some t) → sharedBase ≤ id.irq →
    k.controller.trigger id.irq = t

theorem triggered_after {e : Event} (he : e.Admissible) (hm : k.platform.maxIrq ≤ maxLine)
    (h : Matched k.space k.registry) (ht : k.Triggered) : (k.after e).Triggered := by
  intro ref id t held shared
  have old : k.space.handler? ref = some (id, some t) →
      (k.after e).controller.trigger id.irq = t := by
    intro held
    rw [(wiring_after e hm h held shared).1]
    exact ht ref id t held shared
  have change := change_after k he
  generalize k.after e = k' at held old change
  cases change with
  | kept handlers registry =>
    rw [handlers] at held
    exact old held
  | issued asks inactive free program handlers registry =>
    rw [handlers] at held
    split at held
    · obtain ⟨rfl, hasked⟩ := Prod.mk.inj (Option.some.inj held)
      obtain ⟨htrigger, -⟩ := asks.wiring hm program
      rw [htrigger, if_pos rfl, hasked, Option.getD_some]
    · exact old held
  | released _ handlers registry =>
    rw [handlers] at held
    split at held
    · cases held
    · exact old held

theorem triggered_run {es : List Event} (hk : k.Fresh) (hm : k.platform.maxIrq ≤ maxLine)
    (hes : ∀ e ∈ es, e.Admissible) : (k.run es).Triggered := by
  refine run_induction hes ?_ fun before e hbefore he ht => ?_
  · intro ref id t held
    rw [hk.handler? ref] at held
    cases held
  · exact triggered_after he (by rwa [platform_run]) (matched_run hk hm hbefore) ht

/-! ### Targets -/

/-- There is a handler at `ref`, and a shared line of it goes to the core in the message. -/
def Targeted (inv : Invocation) (ref : SlotRef) (k : Kernel Distributor Space) : Prop :=
  ∃ id trigger, k.space.handler? ref = some (id, trigger) ∧ (sharedBase ≤ id.irq →
    (k.controller.target id.irq).bits.toNat = 2 ^ (inv.arg 4).toNat)

/-- A message with a core that puts a handler into a slot has sent the handler's line there. -/
theorem targeted_issue {caller : Thread} (hm : k.platform.maxIrq ≤ maxLine) {ref : SlotRef}
    (hlabel : Label.ofWord? inv.label = some .issueCoreHandler)
    (free : k.space.handler? ref = none)
    (held : (k.after (.invoke caller cap inv)).space.handler? ref ≠ none) :
    k.config.isSmp = true ∧ Targeted inv ref (k.after (.invoke caller cap inv)) := by
  have change := change_invoke k caller cap inv
  generalize k.after (.invoke caller cap inv) = k' at held change
  cases change with
  | kept handlers registry =>
    rw [handlers] at held
    exact absurd free held
  | @issued _ _ _ req _ _ asks inactive _ program handlers registry =>
    rw [handlers] at held
    split at held
    · obtain ⟨-, htarget⟩ := asks.wiring hm program
      obtain ⟨hsmp, hnode, hroute⟩ := asks.forCore_route hlabel
      refine ⟨hsmp, req.id, req.trigger, by rw [handlers, if_pos ‹_›], fun shared => ?_⟩
      rw [htarget _ (Nat.le_trans asks.irq_le hm), if_pos rfl, hroute shared]
      exact Distributor.toNat_single (Nat.lt_of_lt_of_le hnode k.config.nodes_le)
    · exact absurd free held

theorem targeted_after {e : Event} (he : e.Admissible) (hm : k.platform.maxIrq ≤ maxLine)
    (hsmp : k.config.isSmp = true) (h : Matched k.space k.registry) {ref : SlotRef}
    (held : (k.after e).space.handler? ref ≠ none) (ht : Targeted inv ref k) :
    Targeted inv ref (k.after e) := by
  obtain ⟨id, trigger, hheld, htarget⟩ := ht
  refine ⟨id, trigger, (change_after k he).handler?_eq hheld held, fun shared => ?_⟩
  have hsingle : k.config.topology ≠ .multikernel := by
    intro hmulti
    rw [Config.isSmp, hmulti] at hsmp
    cases hsmp
  rw [(wiring_after e hm h hheld shared).2 hsingle]
  exact htarget shared

theorem targeted_run {es : List Event} (hk : k.Fresh) (hm : k.platform.maxIrq ≤ maxLine)
    (hes : ∀ e ∈ es, e.Admissible) (hlabel : Label.ofWord? inv.label = some .issueCoreHandler)
    {ref : SlotRef} (hissued : k.IssuedBy inv ref es) :
    k.config.isSmp = true ∧ Targeted inv ref (k.run es) := by
  induction hissued with
  | issue free held =>
    rw [run_concat] at held ⊢
    rw [← config_run k _]
    exact targeted_issue (by rwa [platform_run]) hlabel free held
  | keep issued held ih =>
    obtain ⟨hes, he⟩ := List.forall_mem_append.1 hes
    obtain ⟨hsmp, ht⟩ := ih hes
    rw [run_concat] at held ⊢
    refine ⟨hsmp, targeted_after (he _ List.mem_cons_self) (by rwa [platform_run])
      (by rwa [config_run]) (matched_run hk hm hes) held ht⟩

/-- In every state that a fresh kernel can get to, a live handler of a shared interrupt finds its
    line as it was issued: the edge bit in the configuration word says whether the trigger is edge,
    and if a message with a core issued the handler, the target byte names that core alone. -/
theorem live_handler_keeps_wiring {es : List Event} (hk : k.Fresh)
    (hm : k.platform.maxIrq ≤ maxLine) (hes : ∀ e ∈ es, e.Admissible) {ref : SlotRef} {id : IrqId}
    {t : Trigger} (held : (k.run es).space.handler? ref = some (id, some t))
    (shared : sharedBase ≤ id.irq) :
    ((k.run es).controller.frame.word (Distributor.triggersOffset + 4 * (id.irq / 16))).testBit
        (2 * (id.irq % 16) + 1) = t.isEdge
      ∧ ∀ inv, k.IssuedBy inv ref es → inv.label = Label.issueCoreHandler.toWord →
        ((k.run es).controller.frame.byte (Distributor.targetsOffset + id.irq)).toNat
          = 2 ^ (inv.arg 4).toNat := by
  constructor
  · rw [Distributor.testBit_configuration, triggered_run hk hm hes ref id t held shared]
  · intro inv hissued hlabel
    obtain ⟨-, id', trigger, hheld, htarget⟩ :=
      targeted_run hk hm hes (Label.ofWord?_eq_some.2 hlabel) hissued
    obtain ⟨rfl, -⟩ := Prod.mk.inj (Option.some.inj (hheld.symm.trans held))
    exact htarget shared

/-- Core 0 asks for a line that core 1 has a handler for; the handler keeps trigger and target. -/
theorem second_request_keeps_wiring :
    ∃ (k : Kernel Distributor Space) (es : List Event) (inv : Invocation),
      k.Fresh ∧ k.platform.maxIrq ≤ maxLine ∧ (∀ e ∈ es, e.Admissible) ∧ es.length = 2
        ∧ (k.run es).space.handler? ⟨0, 1⟩ = some (⟨40, 1⟩, some .edge)
        ∧ k.IssuedBy inv ⟨0, 1⟩ es ∧ inv.label = Label.issueCoreHandler.toWord
        ∧ ((k.run es).controller.frame.word (Distributor.triggersOffset + 4 * 2)).testBit 17 = true
        ∧ ((k.run es).controller.frame.byte (Distributor.targetsOffset + 40)).toNat = 2 := by
  let root : CNode := ⟨0, 2, .none⟩
  let k : Kernel Distributor Space := ⟨⟨.smp, 2, by decide, by decide, fun _ => rfl⟩,
    ⟨.zero, .full⟩, .empty, ⟨#[#[⟨.cnode root, none⟩, .empty, .empty, ⟨.irqControl .none, none⟩]]⟩,
    .runningOn 0⟩
  let inv : Invocation := ⟨.ofCounts 3 1 5, [40, 1, 1, 2, 1], [.cnode root], ⟨0, 3⟩⟩
  let again : Invocation := ⟨.ofCounts 3 1 5, [40, 0, 2, 2, 0], [.cnode root], ⟨0, 3⟩⟩
  let req : HandlerRequest := ⟨⟨40, 1⟩, some .edge, some 1, ⟨.cnode root, 1, 2⟩⟩
  let issue : Event := .invoke (.runningOn 1) (.irqControl .none) inv
  let retry : Event := .invoke (.runningOn 0) (.irqControl .none) again
  have hfresh : k.Fresh := ⟨⟨2, .none, root, rfl⟩, rfl⟩
  have hes : ∀ e ∈ [issue, retry], e.Admissible := by decide
  have hlookup : k.space.lookup (.cnode root) 1 2 = .ok ⟨0, 1⟩ := by cbv
  have hslot : { k with caller := .runningOn 1 }.handlerSlot req = .ok ⟨0, 1⟩ :=
    handlerSlot_eq_ok.2 ⟨Registry.isActive_empty req.id, hlookup, rfl⟩
  have hfirst : (k.after issue).space.handler? ⟨0, 1⟩ = some (⟨40, 1⟩, some .edge) := by
    have asks : { k with caller := .runningOn 1 }.Asks inv req := .forCore (by decide) rfl rfl
    obtain ⟨d, hd, -, -⟩ := asks.invoke_succeeds (by decide) (by decide) hslot .none
    exact congrArg (·.2.space.handler? ⟨0, 1⟩) hd
  have hheld : (k.run ([issue] ++ [retry])).space.handler? ⟨0, 1⟩ = some (⟨40, 1⟩, some .edge) :=
    handler?_invoke hfirst
  have hissued : k.IssuedBy inv ⟨0, 1⟩ ([] ++ [issue]) :=
    .issue rfl (by rw [run_concat, run_nil, hfirst]; exact Option.some_ne_none _)
  have hkept : k.IssuedBy inv ⟨0, 1⟩ ([issue] ++ [retry]) :=
    hissued.keep (by rw [List.nil_append, hheld]; exact Option.some_ne_none _)
  obtain ⟨hword, hbyte⟩ := live_handler_keeps_wiring hfresh (by decide) hes hheld (by decide)
  exact ⟨k, [issue, retry], inv, hfresh, by decide, hes, rfl, hheld, hkept, by decide, hword,
    hbyte inv hkept (by decide)⟩

end InterruptCaps.Kernel
