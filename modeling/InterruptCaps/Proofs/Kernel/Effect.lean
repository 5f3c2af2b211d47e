import InterruptCaps.Kernel.Invoke
import InterruptCaps.Proofs.Irq.Lines
import InterruptCaps.Proofs.Space.Slots

/-! What one invocation can do. A message *asks* for a handler if it passes the checks of its
    label; `Effect` lists every way in which an invocation ends, each with what has been checked by
    then and the calls that were made. All that holds of single invocations follows from the list.

    | effect                         | controller        | slots    | registry |
    | ------------------------------ | ----------------- | -------- | -------- |
    | `rejected`                     |                   |          |          |
    | `unprogrammed`                 | calls up to fail  |          |          |
    | `unstored`                     | line programmed   |          |          |
    | `issued`                       | line programmed   | one more | one more |
    | `signalUnstored`               |                   |          |          |
    | `signalIssued`                 |                   | one more |          |
    | `unowned`, `unrouted`          | calls up to fail  |          |          |
    | `retargeted`                   | target set        |          |          |
    | `sent`                         | signal raised     |          |          | -/

namespace InterruptCaps

/-! ### Checks -/

theorem Label.ofWord?_eq_some {word : UInt64} {l : Label} :
    ofWord? word = some l ↔ word = l.toWord := by
  constructor
  · intro h
    have hl := List.find?_some h
    exact (beq_iff_eq.1 hl).symm
  · rintro rfl
    exact ofWord?_toWord l

theorem Invocation.irqArg_eq_ok {inv : Invocation} {p : Platform} {irq : Nat} :
    inv.irqArg p = .ok irq ↔ (inv.arg 0).toNat ≤ p.maxIrq ∧ irq = (inv.arg 0).toNat := by
  rw [irqArg, Platform.checkIrq]
  by_cases h : p.maxIrq < (inv.arg 0).toNat
  · simp only [h, if_true, reduceCtorEq, Nat.not_le.2 h, false_and]
  · simp [h, Nat.le_of_not_lt h, eq_comm]

theorem Platform.needTrigger_eq_ok {p : Platform} {u : Unit} :
    p.needTrigger = .ok u ↔ p.triggerSupport = true := by
  rw [needTrigger]
  split <;> simp_all

theorem Config.allowWithoutCore_eq_ok {c : Config} {irq : Nat} {u : Unit} :
    c.allowWithoutCore irq = .ok u ↔ (c.isSmp = true → privateCount ≤ irq) := by
  have hprivate : (IrqId.onBootCore irq).isPrivate = true ↔ irq < privateCount :=
    IrqId.isPrivate_iff _
  simp only [allowWithoutCore, Bool.and_eq_true, hprivate]
  split
  · rename_i h
    simp [h.1, h.2]
  · rename_i h
    simpa using h

theorem Config.coreOf_eq_ok {c : Config} {p : Platform} {word : UInt64} {core : Nat} :
    c.coreOf p word = .ok core
      ↔ word.toNat < c.nodes ∧ word.toNat < p.cpuInterfaces ∧ core = word.toNat := by
  rw [coreOf]
  by_cases h : word.toNat < min c.nodes p.cpuInterfaces
  · simp [h, Nat.lt_min.1 h, eq_comm]
  · simp only [h, if_false, reduceCtorEq, false_iff]
    rintro ⟨hn, hi, -⟩
    exact h (Nat.lt_min.2 ⟨hn, hi⟩)

namespace HandlerRequest

theorem plain_eq_ok {c : Config} {p : Platform} {core : Nat} {inv : Invocation}
    {req : HandlerRequest} :
    plain c p core inv = .ok req ↔ ∃ root, inv.destRoot 3 = .ok root
      ∧ (inv.arg 0).toNat ≤ p.maxIrq ∧ (c.isSmp = true → privateCount ≤ (inv.arg 0).toNat)
      ∧ req = ⟨⟨(inv.arg 0).toNat, core⟩, none, none, ⟨root, inv.arg 1, inv.arg 2⟩⟩ := by
  simp only [plain, bind_eq_ok, Invocation.irqArg_eq_ok, Config.allowWithoutCore_eq_ok]
  constructor
  · rintro ⟨root, hroot, irq, ⟨hirq, rfl⟩, -, hp, h⟩
    cases h
    exact ⟨root, hroot, hirq, hp, rfl⟩
  · rintro ⟨root, hroot, hirq, hp, rfl⟩
    exact ⟨root, hroot, _, ⟨hirq, rfl⟩, (), hp, rfl⟩

theorem withTrigger_eq_ok {c : Config} {p : Platform} {inv : Invocation} {req : HandlerRequest} :
    withTrigger c p inv = .ok req ↔ ∃ root, inv.destRoot 4 = .ok root ∧ p.triggerSupport = true
      ∧ (inv.arg 0).toNat ≤ p.maxIrq ∧ (c.isSmp = true → privateCount ≤ (inv.arg 0).toNat)
      ∧ req = ⟨.onBootCore (inv.arg 0).toNat, some (.ofWord (inv.arg 1)), none,
        ⟨root, inv.arg 2, inv.arg 3⟩⟩ := by
  simp only [withTrigger, bind_eq_ok, Platform.needTrigger_eq_ok, Invocation.irqArg_eq_ok,
    Config.allowWithoutCore_eq_ok]
  constructor
  · rintro ⟨root, hroot, -, ht, irq, ⟨hirq, rfl⟩, -, hp, h⟩
    cases h
    exact ⟨root, hroot, ht, hirq, hp, rfl⟩
  · rintro ⟨root, hroot, ht, hirq, hp, rfl⟩
    exact ⟨root, hroot, (), ht, _, ⟨hirq, rfl⟩, (), hp, rfl⟩

theorem forCore_eq_ok {c : Config} {p : Platform} {inv : Invocation} {req : HandlerRequest} :
    forCore c p inv = .ok req ↔ ∃ root, inv.destRoot 5 = .ok root ∧ p.triggerSupport = true
      ∧ (inv.arg 0).toNat ≤ p.maxIrq
      ∧ (inv.arg 4).toNat < c.nodes ∧ (inv.arg 4).toNat < p.cpuInterfaces
      ∧ req = ⟨⟨(inv.arg 0).toNat, (inv.arg 4).toNat⟩, some (.ofWord (inv.arg 1)),
        if (inv.arg 0).toNat < privateCount then none else some (inv.arg 4).toNat,
        ⟨root, inv.arg 2, inv.arg 3 % 256⟩⟩ := by
  simp only [forCore, bind_eq_ok, Platform.needTrigger_eq_ok, Invocation.irqArg_eq_ok,
    Config.coreOf_eq_ok, IrqId.isPrivate_iff]
  constructor
  · rintro ⟨root, hroot, -, ht, irq, ⟨hirq, rfl⟩, core, ⟨hn, hi, rfl⟩, h⟩
    cases h
    exact ⟨root, hroot, ht, hirq, hn, hi, rfl⟩
  · rintro ⟨root, hroot, ht, hirq, hn, hi, rfl⟩
    exact ⟨root, hroot, (), ht, _, ⟨hirq, rfl⟩, _, ⟨hn, hi, rfl⟩, rfl⟩

end HandlerRequest

/-- A sender is asked for with a software-generated number and an interface of the platform. -/
theorem SignalRequest.ofInvocation_eq_ok {p : Platform} {inv : Invocation} {req : SignalRequest} :
    ofInvocation p inv = .ok req ↔ ∃ root, inv.destRoot 4 = .ok root
      ∧ (inv.arg 0).toNat < sgiCount ∧ p.hasInterface (inv.arg 1) = true
      ∧ req = ⟨(inv.arg 0).toNat, inv.arg 1, ⟨root, inv.arg 2, inv.arg 3⟩⟩ := by
  simp only [ofInvocation, bind_eq_ok]
  constructor
  · rintro ⟨root, hroot, h⟩
    split at h
    · cases h
    · rename_i hsgi
      split at h <;> cases h
      rename_i hinterface
      exact ⟨root, hroot, Nat.lt_of_not_le hsgi, by simpa using hinterface, rfl⟩
  · rintro ⟨root, hroot, hsgi, hinterface, rfl⟩
    refine ⟨root, hroot, ?_⟩
    rw [if_neg (Nat.not_le.2 hsgi), hinterface]
    rfl

theorem Invocation.retargetIrq_eq_ok {inv : Invocation} {p : Platform} {irq : Nat} :
    inv.retargetIrq p = .ok irq ↔ 2 ≤ inv.length ∧ (inv.arg 0).toNat ≤ p.maxIrq
      ∧ sharedBase ≤ irq ∧ irq = (inv.arg 0).toNat := by
  simp only [retargetIrq]
  by_cases hlength : inv.length < 2
  · simp only [hlength, if_true, Nat.not_le.2 hlength, false_and, iff_false]
    rintro ⟨⟩
  · simp only [hlength, if_false, bind_eq_ok, irqArg_eq_ok, Nat.le_of_not_lt hlength, true_and]
    constructor
    · rintro ⟨irq', ⟨hirq, rfl⟩, h⟩
      split at h <;> cases h
      exact ⟨hirq, Nat.le_of_not_lt ‹_›, rfl⟩
    · rintro ⟨hirq, hshared, rfl⟩
      refine ⟨_, ⟨hirq, rfl⟩, ?_⟩
      rw [if_neg (Nat.not_lt.2 hshared)]
      rfl

/-- What an invocation can put into a slot. -/
inductive Cap.Issued : Cap → Prop where
  | handler (id : IrqId) (trigger : Option Trigger) : Issued (.irqHandler id trigger)
  | sender (sgi : Nat) (target : UInt64) : Issued (.sgiSignal sgi target)

theorem Cap.Issued.ne_null {cap : Cap} (h : cap.Issued) : cap ≠ .null := by
  rintro rfl
  cases h

theorem Cap.Issued.ne_cnode {cap : Cap} (h : cap.Issued) (node : CNode) : cap ≠ .cnode node := by
  rintro rfl
  cases h

namespace Kernel

variable {C S : Type}

/-- A destination is fit if the lookup finds it and it can be filled. -/
theorem emptySlot_eq_ok [SlotStore S] {space : S} {dest : Destination}
    {missing unfit : SlotError → Rejection} {ref : SlotRef} :
    emptySlot space dest missing unfit = .ok ref
      ↔ SlotStore.lookup space dest.root dest.index dest.depth = .ok ref
        ∧ SlotStore.ensureEmpty space ref = .ok () := by
  simp only [emptySlot]
  constructor
  · intro h
    split at h
    · simp at h
    · rename_i hfound
      split at h
      · simp at h
      · rename_i hempty
        cases h
        exact ⟨hfound, hempty⟩
  · rintro ⟨hfound, hempty⟩
    simp only [hfound, hempty]

/-- A handler goes into a fit destination, and only if its line has none. -/
theorem handlerSlot_eq_ok [SlotStore S] {k : Kernel C S} {req : HandlerRequest} {ref : SlotRef} :
    k.handlerSlot req = .ok ref ↔ k.registry.isActive req.id = false
      ∧ SlotStore.lookup k.space req.dest.root req.dest.index req.dest.depth = .ok ref
      ∧ SlotStore.ensureEmpty k.space ref = .ok () := by
  rw [handlerSlot]
  split
  · simp [*]
  · simp [*, emptySlot_eq_ok]

variable [Controller C]

/-- The message asks for this handler: the checks of its label let it pass. -/
inductive Asks (k : Kernel C S) (inv : Invocation) (req : HandlerRequest) : Prop where
  | plain (label : Label.ofWord? inv.label = some .issueHandler)
      (checked : HandlerRequest.plain k.config k.platform k.caller.core inv = .ok req)
  | withTrigger (label : Label.ofWord? inv.label = some .issueTriggerHandler)
      (checked : HandlerRequest.withTrigger k.config k.platform inv = .ok req)
  | forCore (label : Label.ofWord? inv.label = some .issueCoreHandler)
      (smp : k.config.isSmp = true)
      (checked : HandlerRequest.forCore k.config k.platform inv = .ok req)

variable {k : Kernel C S} {inv : Invocation} {req : HandlerRequest}

/-- Whoever asks for a handler asks for an interrupt of the platform. -/
theorem Asks.irq_le (h : k.Asks inv req) : req.id.irq ≤ k.platform.maxIrq := by
  cases h with
  | plain label checked =>
    obtain ⟨root, -, hirq, -, rfl⟩ := HandlerRequest.plain_eq_ok.1 checked
    exact hirq
  | withTrigger label checked =>
    obtain ⟨root, -, -, hirq, -, rfl⟩ := HandlerRequest.withTrigger_eq_ok.1 checked
    exact hirq
  | forCore label smp checked =>
    obtain ⟨root, -, -, hirq, -, -, rfl⟩ := HandlerRequest.forCore_eq_ok.1 checked
    exact hirq

/-- The core of the request is the caller's, the boot core or a node of the kernel. -/
theorem Asks.core_lt (h : k.Asks inv req) (hcaller : k.caller.core < maxNodes) :
    req.id.core < maxNodes := by
  cases h with
  | plain label checked =>
    obtain ⟨root, -, -, -, rfl⟩ := HandlerRequest.plain_eq_ok.1 checked
    exact hcaller
  | withTrigger label checked =>
    obtain ⟨root, -, -, -, -, rfl⟩ := HandlerRequest.withTrigger_eq_ok.1 checked
    exact (by decide : 0 < maxNodes)
  | forCore label smp checked =>
    obtain ⟨root, -, -, -, hnode, -, rfl⟩ := HandlerRequest.forCore_eq_ok.1 checked
    exact Nat.lt_of_lt_of_le hnode k.config.nodes_le

/-- A target is asked for only for a shared line, and then it is a node with an interface. -/
theorem Asks.route (h : k.Asks inv req) {core : Nat} (hr : req.route = some core) :
    sharedBase ≤ req.id.irq ∧ core < k.config.nodes ∧ core < k.platform.cpuInterfaces := by
  cases h with
  | plain label checked =>
    obtain ⟨root, -, -, -, rfl⟩ := HandlerRequest.plain_eq_ok.1 checked
    simp at hr
  | withTrigger label checked =>
    obtain ⟨root, -, -, -, -, rfl⟩ := HandlerRequest.withTrigger_eq_ok.1 checked
    simp at hr
  | forCore label smp checked =>
    obtain ⟨root, -, -, -, hnode, hinterface, rfl⟩ := HandlerRequest.forCore_eq_ok.1 checked
    simp only [Option.ite_none_left_eq_some, Option.some.injEq] at hr
    obtain ⟨hshared, rfl⟩ := hr
    exact ⟨Nat.le_of_not_lt hshared, hnode, hinterface⟩

/-- Where a kernel has its core to itself, no target is asked for. -/
theorem Asks.route_eq_none (h : k.Asks inv req) (single : k.config.isSmp = false) :
    req.route = none := by
  cases h with
  | plain label checked =>
    obtain ⟨root, -, -, -, rfl⟩ := HandlerRequest.plain_eq_ok.1 checked
    rfl
  | withTrigger label checked =>
    obtain ⟨root, -, -, -, -, rfl⟩ := HandlerRequest.withTrigger_eq_ok.1 checked
    rfl
  | forCore label smp checked =>
    rw [single] at smp
    cases smp

/-- A message with a core asks an SMP kernel for a handler on one of its nodes, and sends the line
    there if it is shared. -/
theorem Asks.forCore_route (h : k.Asks inv req)
    (hlabel : Label.ofWord? inv.label = some .issueCoreHandler) :
    k.config.isSmp = true ∧ (inv.arg 4).toNat < k.config.nodes
      ∧ (sharedBase ≤ req.id.irq → req.route = some (inv.arg 4).toNat) := by
  cases h with
  | plain label | withTrigger label =>
    rw [hlabel] at label
    cases label
  | forCore label smp checked =>
    obtain ⟨root, -, -, -, hnode, -, rfl⟩ := HandlerRequest.forCore_eq_ok.1 checked
    exact ⟨smp, hnode, fun shared => if_neg (Nat.not_lt.2 shared)⟩

/-- Where all numbers of the platform have lines, the interrupt asked for has one. -/
theorem Asks.line (h : k.Asks inv req) (hm : k.platform.maxIrq ≤ maxLine)
    (hcaller : k.caller.core < maxNodes) : ∃ n, req.id.line? = some n := by
  rw [← Option.isSome_iff_exists, IrqId.isSome_line?]
  exact ⟨Nat.le_trans h.irq_le hm, fun _ => h.core_lt hcaller⟩

variable [SlotStore S]

/-- Whoever asks is considered: only the registry and the destination can still be in the way. -/
theorem Asks.invoke_eq (h : k.Asks inv req) (badge : Badge) :
    k.invoke (.irqControl badge) inv = k.issueHandler (.ok req) inv.source := by
  rw [invoke, control]
  cases h with
  | plain label checked => rw [label, Option.filter_some, Config.enables, if_pos rfl, checked]
  | withTrigger label checked => rw [label, Option.filter_some, Config.enables, if_pos rfl, checked]
  | forCore label smp checked => rw [label, Option.filter_some, Config.enables, if_pos smp, checked]

/-- Where a kernel has its core to itself, a request for a sender is considered. -/
theorem control_eq_issueSignal (single : k.config.isSmp = false)
    (hlabel : inv.label = Label.issueSgiSignal.toWord) :
    k.control inv = k.issueSignal (SignalRequest.ofInvocation k.platform inv) inv.source := by
  rw [control, hlabel, Label.ofWord?_toWord, Option.filter_some, Config.enables, single]
  rfl

/-- In a multikernel, a request to hand an interrupt over is considered. -/
theorem control_eq_retarget (multikernel : k.config.topology = .multikernel)
    (hlabel : inv.label = Label.setTargetCore.toWord) : k.control inv = k.retarget inv := by
  rw [control, hlabel, Label.ofWord?_toWord, Option.filter_some, Config.enables, multikernel]
  rfl

/-- How an invocation ends, and the kernel after it. -/
inductive Effect (k : Kernel C S) (inv : Invocation) : Cap → Outcome C S → Prop where
  | rejected (cap : Cap) (r : Rejection) : Effect k inv cap (k.reject r)
  | unprogrammed {badge : Badge} {req : HandlerRequest} {dest : SlotRef} {e : CallFailure} {c : C}
      (asks : k.Asks inv req) (slot : k.handlerSlot req = .ok dest)
      (program : Controller.program req.id.irq req.trigger req.route k.controller = (.error e, c)) :
      Effect k inv (.irqControl badge) (.error (.ofCall e), { k with controller := c })
  | unstored {badge : Badge} {req : HandlerRequest} {dest : SlotRef} {e : SlotError} {c : C}
      (asks : k.Asks inv req) (slot : k.handlerSlot req = .ok dest)
      (program : Controller.program req.id.irq req.trigger req.route k.controller = (.ok (), c))
      (insert : SlotStore.insert k.space (.irqHandler req.id req.trigger) inv.source dest
        = .error e) :
      Effect k inv (.irqControl badge) (.error (.store e), { k with controller := c })
  | issued {badge : Badge} {req : HandlerRequest} {dest : SlotRef} {c : C} {space : S}
      (asks : k.Asks inv req) (slot : k.handlerSlot req = .ok dest)
      (program : Controller.program req.id.irq req.trigger req.route k.controller = (.ok (), c))
      (insert : SlotStore.insert k.space (.irqHandler req.id req.trigger) inv.source dest
        = .ok space) :
      Effect k inv (.irqControl badge)
        (succeed { k with
          controller := c, space, registry := (k.registry.activate req.id).2 })
  | signalUnstored {badge : Badge} {req : SignalRequest} {dest : SlotRef} {e : SlotError}
      (single : k.config.isSmp = false)
      (asks : SignalRequest.ofInvocation k.platform inv = .ok req)
      (slot : emptySlot k.space req.dest .noSignalSlot .signalSlotUnfit = .ok dest)
      (insert : SlotStore.insert k.space (.sgiSignal req.sgi req.target) inv.source dest
        = .error e)
      (label : Label.ofWord? inv.label = some .issueSgiSignal) :
      Effect k inv (.irqControl badge) (.error (.store e), k)
  | signalIssued {badge : Badge} {req : SignalRequest} {dest : SlotRef} {space : S}
      (single : k.config.isSmp = false)
      (asks : SignalRequest.ofInvocation k.platform inv = .ok req)
      (slot : emptySlot k.space req.dest .noSignalSlot .signalSlotUnfit = .ok dest)
      (insert : SlotStore.insert k.space (.sgiSignal req.sgi req.target) inv.source dest
        = .ok space)
      (label : Label.ofWord? inv.label = some .issueSgiSignal) :
      Effect k inv (.irqControl badge) (succeed { k with space })
  | unowned {badge : Badge} {irq : Nat} {f : Failure} {owned : Except CallFailure Bool} {c : C}
      (multikernel : k.config.topology = .multikernel)
      (asks : inv.retargetIrq k.platform = .ok irq)
      (owns : Controller.owns irq k.controller = (owned, c))
      (label : Label.ofWord? inv.label = some .setTargetCore) :
      Effect k inv (.irqControl badge) (.error f, { k with controller := c })
  | unrouted {badge : Badge} {irq : Nat} {e : CallFailure} {c c' : C}
      (multikernel : k.config.topology = .multikernel)
      (asks : inv.retargetIrq k.platform = .ok irq)
      (owns : Controller.owns irq k.controller = (.ok true, c))
      (interface : k.platform.hasInterface (inv.arg 1) = true)
      (setTarget : Controller.setTarget irq (inv.arg 1).toNat c = (.error e, c'))
      (label : Label.ofWord? inv.label = some .setTargetCore) :
      Effect k inv (.irqControl badge) (.error (.ofCall e), { k with controller := c' })
  | retargeted {badge : Badge} {irq : Nat} {c c' : C}
      (multikernel : k.config.topology = .multikernel)
      (asks : inv.retargetIrq k.platform = .ok irq)
      (owns : Controller.owns irq k.controller = (.ok true, c))
      (interface : k.platform.hasInterface (inv.arg 1) = true)
      (setTarget : Controller.setTarget irq (inv.arg 1).toNat c = (.ok (), c'))
      (label : Label.ofWord? inv.label = some .setTargetCore) :
      Effect k inv (.irqControl badge) (succeed { k with controller := c' })
  | sent (sgi : Nat) (target : UInt64) :
      Effect k inv (.sgiSignal sgi target)
        (succeed { k with controller := Controller.sendSgi sgi target k.controller })

theorem issueHandler_effect (badge : Badge) {req : Except Rejection HandlerRequest}
    (hreq : ∀ r, req = .ok r → k.Asks inv r) :
    k.Effect inv (.irqControl badge) (k.issueHandler req inv.source) := by
  simp only [issueHandler]
  split
  · exact .rejected _ _
  · rename_i req
    have hasks := hreq req rfl
    split
    · exact .rejected _ _
    · rename_i dest hslot
      simp only [grantHandler]
      split
      · exact .unprogrammed hasks hslot ‹_›
      · split
        · exact .unstored hasks hslot ‹_› ‹_›
        · exact .issued hasks hslot ‹_› ‹_›

theorem issueSignal_effect (badge : Badge) (hsingle : k.config.isSmp = false)
    (hlabel : Label.ofWord? inv.label = some .issueSgiSignal) :
    k.Effect inv (.irqControl badge)
      (k.issueSignal (SignalRequest.ofInvocation k.platform inv) inv.source) := by
  simp only [issueSignal]
  split
  · exact .rejected _ _
  · split
    · exact .rejected _ _
    · split
      · exact .signalUnstored hsingle ‹_› ‹_› ‹_› hlabel
      · exact .signalIssued hsingle ‹_› ‹_› ‹_› hlabel

theorem retarget_effect (badge : Badge) (hmulti : k.config.topology = .multikernel)
    (hlabel : Label.ofWord? inv.label = some .setTargetCore) :
    k.Effect inv (.irqControl badge) (k.retarget inv) := by
  simp only [retarget]
  split
  · exact .rejected _ _
  · split
    · exact .unowned hmulti ‹_› ‹_› hlabel
    · exact .unowned hmulti ‹_› ‹_› hlabel
    · exact .unowned hmulti ‹_› ‹_› hlabel
    · split
      · split
        · exact .unrouted hmulti ‹_› ‹_› ‹_› ‹_› hlabel
        · exact .retargeted hmulti ‹_› ‹_› ‹_› ‹_› hlabel
      · exact .unowned hmulti ‹_› ‹_› hlabel

/-- Every invocation has one of the effects. -/
theorem invoke_effect (k : Kernel C S) (cap : Cap) (inv : Invocation) :
    k.Effect inv cap (k.invoke cap inv) := by
  cases cap with
  | null => exact .rejected _ _
  | cnode node => exact .rejected _ _
  | irqHandler id trigger => exact .rejected _ _
  | sgiSignal sgi target => exact .sent sgi target
  | irqControl badge =>
    simp only [invoke, control]
    split <;> rename_i hlabel
    · obtain ⟨hword, -⟩ := Option.filter_eq_some_iff.1 hlabel
      exact issueHandler_effect badge fun r hr => .plain hword hr
    · obtain ⟨hword, -⟩ := Option.filter_eq_some_iff.1 hlabel
      exact issueHandler_effect badge fun r hr => .withTrigger hword hr
    · obtain ⟨hword, henabled⟩ := Option.filter_eq_some_iff.1 hlabel
      exact issueHandler_effect badge fun r hr => .forCore hword henabled hr
    · obtain ⟨hword, henabled⟩ := Option.filter_eq_some_iff.1 hlabel
      exact issueSignal_effect badge (by simpa [Config.enables] using henabled) hword
    · obtain ⟨hword, henabled⟩ := Option.filter_eq_some_iff.1 hlabel
      exact retarget_effect badge (by simpa [Config.enables] using henabled) hword
    · exact .rejected _ _
    · exact .rejected _ _

/-- An invocation leaves the slots as they are, or puts into one of them what it has issued. -/
theorem space_invoke (k : Kernel C S) (cap : Cap) (inv : Invocation) :
    (k.invoke cap inv).2.space = k.space
      ∨ ∃ issued dest, issued.Issued
        ∧ SlotStore.insert k.space issued inv.source dest = .ok (k.invoke cap inv).2.space := by
  have effect := invoke_effect k cap inv
  generalize k.invoke cap inv = out at effect
  cases effect with
  | issued asks slot program insert => exact .inr ⟨_, _, .handler _ _, insert⟩
  | signalIssued single asks slot insert => exact .inr ⟨_, _, .sender _ _, insert⟩
  | _ => exact .inl rfl

end Kernel

end InterruptCaps
