import InterruptCaps.Kernel.Audit
import InterruptCaps.Proofs.Kernel.Failure
import InterruptCaps.Proofs.Kernel.Ownership

/-! What an invocation writes to the log. Step by step it does what it would do without a log, and
    beside traces it writes the warnings of the failure that it ends with, of which there is one if
    the kernel turned it down and none otherwise (`Accords`). Over a distributor with eight
    interfaces at most there is no other failure: nothing that could go up in silence is reached. -/

namespace InterruptCaps

/-- A controller that tells the log nothing but traces. -/
class Discreet (C : Type) [Narrator C] : Prop where
  severe_notices (deed : Deed) : severe (Narrator.notices C deed) = []

instance : Discreet Distributor where
  severe_notices _ := rfl

namespace Act

variable {C S α β : Type} {k k₁ : Kernel C S} {out : Except Failure β × Kernel C S}

/-- How an act ends: the error that goes up does not say whether it has been logged. -/
def ending (result : Except Failure α) (l : Logged C S) :
    EStateM.Result (Option InvocationError) (Logged C S) α :=
  match result with
  | .ok a => .ok a l
  | .error f => .error f.error? l

/-- The act takes the kernel to this end, and writes to the log what is told of it. -/
def Accords (x : Act C S α) (k : Kernel C S) (out : Except Failure α × Kernel C S) : Prop :=
  ∀ log, ∃ records, x ⟨k, log⟩ = ending out.1 ⟨out.2, log ++ records⟩
    ∧ severe records = noticesOf out.1

/-- A check only looks. -/
def checked (k : Kernel C S) (result : Except Rejection α) : Except Failure α × Kernel C S :=
  (result.mapError .rejected, k)

/-- A call changes the controller, whatever becomes of it. -/
def called (k : Kernel C S) (out : Except CallFailure α × C) : Except Failure α × Kernel C S :=
  (out.1.mapError .ofCall, { k with controller := out.2 })

/-! ### Acts one after another -/

theorem severe_append (l m : List Notice) : severe (l ++ m) = severe l ++ severe m :=
  List.filter_append l m

/-- An act that only looks at the kernel or changes it says nothing. -/
theorem accords_of_quiet {x : Act C S α} {a : α} (h : ∀ log, x ⟨k, log⟩ = .ok a ⟨k₁, log⟩) :
    Accords x k (.ok a, k₁) := fun log => ⟨[], by rw [List.append_nil]; exact h log, rfl⟩

theorem accords_pure (a : α) : Accords (pure a) k (.ok a, k) := accords_of_quiet fun _ => rfl

theorem accords_kernel : Accords kernel k (.ok k, k) := accords_of_quiet fun _ => rfl

theorem accords_modifyKernel (f : Kernel C S → Kernel C S) :
    Accords (modifyKernel f) k (.ok (), f k) := accords_of_quiet fun _ => rfl

theorem accords_write {records : List Notice} (h : severe records = []) :
    Accords (write records) k (.ok (), k) := fun _ => ⟨records, rfl, h⟩

theorem accords_trace (component : Component) (text : String) :
    Accords (trace component text) k (.ok (), k) := accords_write rfl

theorem accords_refuse (r : Rejection) :
    Accords (α := α) (refuse r) k (.error (.rejected r), k) := fun _ => ⟨[r.notice], rfl, rfl⟩

/-- A failure that is not logged goes up in silence. -/
theorem accords_throw (f : Failure) (h : f.notices = []) :
    Accords (α := α) (throw f.error?) k (.error f, k) :=
  fun log => ⟨[], by rw [List.append_nil]; rfl, h.symm⟩

theorem Accords.bind {x : Act C S α} {f : α → Act C S β} {a : α}
    (hx : Accords x k (.ok a, k₁)) (hf : Accords (f a) k₁ out) : Accords (x >>= f) k out := by
  intro log
  obtain ⟨r₁, h₁, hsevere₁⟩ := hx log
  obtain ⟨r₂, h₂, hsevere₂⟩ := hf (log ++ r₁)
  refine ⟨r₁ ++ r₂, ?_, ?_⟩
  · show EStateM.bind x f ⟨k, log⟩ = _
    rw [EStateM.bind, h₁, ← List.append_assoc]
    exact h₂
  · rw [severe_append, hsevere₁, hsevere₂]
    rfl

theorem Accords.bind_error {x : Act C S α} {e : Failure} (hx : Accords x k (.error e, k₁))
    (f : α → Act C S β) : Accords (x >>= f) k (.error e, k₁) := by
  intro log
  obtain ⟨r, hr, hsevere⟩ := hx log
  refine ⟨r, ?_, hsevere⟩
  show EStateM.bind x f ⟨k, log⟩ = _
  rw [EStateM.bind, hr]
  rfl

/-! ### Checks -/

theorem accords_check (x : Except Rejection α) : Accords (check x) k (checked k x) := by
  cases x with
  | ok a => exact accords_pure a
  | error r => exact accords_refuse r

/-- Checks one after another write the warning of the first that fails. -/
theorem accords_check_bind (x : Except Rejection α) {f : α → Act C S β}
    {g : α → Except Rejection β} (hf : ∀ a, Accords (f a) k (checked k (g a))) :
    Accords (check x >>= f) k (checked k (x >>= g)) := by
  cases x with
  | ok a => exact (accords_check (.ok a)).bind (hf a)
  | error r => exact (accords_check (.error r)).bind_error f

theorem accords_emptySlot [SlotStore S] (dest : Destination)
    (missing unfit : SlotError → Rejection) :
    Accords (emptySlot dest missing unfit) k
      (checked k (Kernel.emptySlot k.space dest missing unfit)) := by
  have guards : Kernel.emptySlot k.space dest missing unfit = (do
      let ref ← (SlotStore.lookup k.space dest.root dest.index dest.depth).mapError missing
      (SlotStore.ensureEmpty k.space ref).mapError unfit
      return ref) := by
    rw [Kernel.emptySlot]
    cases SlotStore.lookup k.space dest.root dest.index dest.depth with
    | error e => rfl
    | ok ref =>
      show _ = (SlotStore.ensureEmpty k.space ref).mapError unfit >>= fun _ => pure ref
      dsimp only
      cases SlotStore.ensureEmpty k.space ref <;> rfl
  rw [guards]
  exact accords_kernel.bind <| accords_check_bind _ fun ref =>
    accords_check_bind _ fun _ => accords_pure ref

theorem accords_handlerSlot [SlotStore S] (req : HandlerRequest) :
    Accords (handlerSlot req) k (checked k (k.handlerSlot req)) := by
  have guards : k.handlerSlot req = (do
      Rejection.when (.alreadyActive req.id) (k.registry.isActive req.id)
      Kernel.emptySlot k.space req.dest (.noHandlerSlot req.id) (.handlerSlotUnfit req.id)) := by
    rw [Rejection.when_bind]
    rfl
  rw [guards]
  exact accords_kernel.bind <| accords_check_bind _ fun _ => accords_emptySlot _ _ _

/-! ### What a message asks for -/

section Requests

variable [Controller C] (k) (inv : Invocation)

theorem accords_askPlain : Accords (askPlain inv) k
    (checked k (HandlerRequest.plain k.config k.platform k.caller.core inv)) :=
  accords_kernel.bind <| accords_check_bind _ fun _ => accords_check_bind _ fun _ =>
    accords_check_bind _ fun _ => accords_pure _

theorem accords_askWithTrigger : Accords (askWithTrigger inv) k
    (checked k (HandlerRequest.withTrigger k.config k.platform inv)) :=
  accords_kernel.bind <| accords_check_bind _ fun _ => accords_check_bind _ fun _ =>
    accords_check_bind _ fun _ => accords_check_bind _ fun _ => accords_pure _

theorem accords_askForCore : Accords (askForCore inv) k
    (checked k (HandlerRequest.forCore k.config k.platform inv)) :=
  accords_kernel.bind <| accords_check_bind _ fun _ => accords_check_bind _ fun _ =>
    accords_check_bind _ fun _ => accords_check_bind _ fun _ => accords_pure _

theorem accords_askSignal : Accords (askSignal inv) k
    (checked k (SignalRequest.ofInvocation k.platform inv)) := by
  have guards : SignalRequest.ofInvocation k.platform inv = (do
      let root ← inv.destRoot 4
      Rejection.when (.noSuchSgi (inv.arg 0)) (sgiCount ≤ (inv.arg 0).toNat)
      Rejection.when (.noSuchSgiTarget (inv.arg 1)) (!k.platform.hasInterface (inv.arg 1))
      return ⟨(inv.arg 0).toNat, inv.arg 1, ⟨root, inv.arg 2, inv.arg 3⟩⟩) := by
    simp only [Rejection.when_bind]
    rfl
  rw [guards]
  exact accords_kernel.bind <| accords_check_bind _ fun _ => accords_check_bind _ fun _ =>
    accords_check_bind _ fun _ => accords_pure _

theorem accords_askRetarget : Accords (askRetarget inv) k
    (checked k (inv.retargetIrq k.platform)) := by
  have guards : inv.retargetIrq k.platform = (do
      Rejection.when .retargetTruncated (inv.length < 2)
      let irq ← inv.irqArg k.platform
      Rejection.when (.retargetPrivate irq k.platform.maxIrq) (irq < sharedBase)
      return irq) := by
    simp only [Rejection.when_bind]
    rfl
  rw [guards]
  exact accords_kernel.bind <| accords_check_bind _ fun _ => accords_check_bind _ fun irq =>
    accords_check_bind _ fun _ => accords_pure irq

end Requests

/-! ### Calls to the controller -/

/-- A refusal is an answer, too; only a call that does not come back has none. -/
def answer : Except CallFailure α → Except Failure (Except ControllerError α)
  | .ok a => .ok (.ok a)
  | .error (.refused e) => .ok (.error e)
  | .error .unmapped => .error .unmapped

theorem accords_call (f : C → Except CallFailure α × C) :
    Accords (call f) k
      (answer (f k.controller).1, { k with controller := (f k.controller).2 }) := by
  refine accords_kernel.bind ?_
  dsimp only
  refine (accords_modifyKernel _).bind ?_
  rcases (f k.controller).1 with (e | _) | a
  · exact accords_pure _
  · exact accords_throw .unmapped rfl
  · exact accords_pure _

section Controllers

variable [Narrator C] [Discreet C]

theorem accords_command (f : C → Except CallFailure Unit × C) (deed : Deed) :
    Accords (command f deed) k (called k (f k.controller)) := by
  have hcall := accords_call (k := k) f
  rw [called]
  rcases hf : (f k.controller).1 with (e | _) | a <;> rw [hf] at hcall
  · exact hcall.bind (accords_throw (.controller e) rfl)
  · exact hcall.bind_error _
  · exact hcall.bind (accords_write (Discreet.severe_notices deed))

variable [Controller C]

theorem accords_setTrigger (irq : Nat) (trigger : Option Trigger) :
    Accords (setTrigger irq trigger) k (called k
      (trigger.elim (.ok (), k.controller) (Controller.setTrigger irq · k.controller))) := by
  cases trigger with
  | none => exact accords_pure ()
  | some t => exact accords_command _ _

theorem accords_setTarget (irq : Nat) (route : Option Nat) :
    Accords (setTarget irq route) k (called k
      (route.elim (.ok (), k.controller) (Controller.setTarget irq · k.controller))) := by
  cases route with
  | none => exact accords_pure ()
  | some core => exact accords_command _ _

theorem accords_program (irq : Nat) (trigger : Option Trigger) (route : Option Nat) :
    Accords (program irq trigger route) k
      (called k (Controller.program irq trigger route k.controller)) := by
  have htrigger := accords_setTrigger (k := k) irq trigger
  rw [Controller.program]
  split <;> rename_i c h <;> rw [h] at htrigger
  · exact htrigger.bind_error _
  · exact htrigger.bind (accords_setTarget irq route)

theorem accords_sendSgi (sgi : Nat) (target : UInt64) :
    Accords (sendSgi sgi target) k
      (.ok (), { k with controller := Controller.sendSgi sgi target k.controller }) :=
  (accords_modifyKernel _).bind (accords_write (Discreet.severe_notices _))

end Controllers

/-! ### Invocations -/

/-- The last steps of whatever is issued or handed over. -/
theorem accords_done (text : String) :
    Accords (do wake; trace .irqControl text; return 0) k (Kernel.succeed k) :=
  (accords_modifyKernel _).bind <| (accords_trace _ _).bind <| accords_pure 0

theorem accords_retarget [Controller C] [Narrator C] [Discreet C] (inv : Invocation) :
    Accords (askRetarget inv >>= (retarget · inv)) k (k.retarget inv) := by
  have hask := accords_askRetarget k inv
  simp only [Kernel.retarget]
  split <;> rename_i h <;> rw [h] at hask
  · exact hask.bind_error _
  · rename_i irq
    refine hask.bind (accords_kernel.bind ?_)
    have howns := accords_call (k := k) (Controller.owns irq)
    split <;> rename_i c h <;> rw [h] at howns
    · exact (howns.bind (accords_refuse _)).bind_error _
    · exact (howns.bind_error _).bind_error _
    · exact (howns.bind (accords_refuse _)).bind_error _
    · refine (howns.bind (accords_pure ())).bind ?_
      rw [Rejection.when]
      cases k.platform.hasInterface (inv.arg 1) with
      | false => exact (accords_check (.error _)).bind_error _
      | true =>
        refine (accords_check (.ok ())).bind ?_
        rw [if_pos rfl]
        have hset := accords_setTarget (k := { k with controller := c }) irq (inv.arg 1).toNat
        rw [Option.elim_some] at hset
        split <;> rename_i h <;> rw [h] at hset
        · exact hset.bind_error _
        · exact hset.bind (accords_done _)

section Invocations

variable [SlotStore S]

/-- What comes of putting a capability into a slot. -/
def stored (k : Kernel C S) : Except SlotError S → Except Failure Unit × Kernel C S
  | .error e => (.error (.store e), k)
  | .ok space => (.ok (), { k with space })

theorem accords_insert (k : Kernel C S) (cap : Cap) (source dest : SlotRef) :
    Accords (insert cap source dest) k (stored k (SlotStore.insert k.space cap source dest)) := by
  refine accords_kernel.bind ?_
  cases SlotStore.insert k.space cap source dest with
  | error e => exact accords_throw (.store e) rfl
  | ok space => exact accords_modifyKernel _

theorem accords_issueSignal {ask : Act C S SignalRequest} {req : Except Rejection SignalRequest}
    (hask : Accords ask k (checked k req)) (source : SlotRef) :
    Accords (ask >>= (issueSignal · source)) k (k.issueSignal req source) := by
  cases req with
  | error r => exact hask.bind_error _
  | ok req =>
    refine hask.bind ?_
    have hslot := accords_emptySlot (k := k) req.dest .noSignalSlot .signalSlotUnfit
    simp only [Kernel.issueSignal]
    split <;> rename_i h <;> rw [h] at hslot
    · exact hslot.bind_error _
    · rename_i dest
      have hinsert := accords_insert k (.sgiSignal req.sgi req.target) source dest
      split <;> rename_i h <;> rw [h] at hinsert
      · exact hslot.bind (hinsert.bind_error _)
      · exact hslot.bind (hinsert.bind (accords_done _))

variable [Controller C] [Narrator C] [Discreet C]

theorem accords_issueHandler {ask : Act C S HandlerRequest} {req : Except Rejection HandlerRequest}
    (hask : Accords ask k (checked k req)) (source : SlotRef) :
    Accords (ask >>= (issueHandler · source)) k (k.issueHandler req source) := by
  cases req with
  | error r => exact hask.bind_error _
  | ok req =>
    refine hask.bind ?_
    have hslot := accords_handlerSlot (k := k) req
    simp only [Kernel.issueHandler]
    split <;> rename_i h <;> rw [h] at hslot
    · exact hslot.bind_error _
    · rename_i dest
      refine hslot.bind ?_
      have hprogram := accords_program (k := k) req.id.irq req.trigger req.route
      rw [Kernel.grantHandler]
      split <;> rename_i h <;> rw [h] at hprogram
      · exact hprogram.bind_error _
      · rename_i c
        have hinsert := accords_insert { k with controller := c } (.irqHandler req.id req.trigger)
          source dest
        split <;> rename_i h <;> rw [h] at hinsert
        · exact hprogram.bind (hinsert.bind_error _)
        · exact hprogram.bind (hinsert.bind ((accords_modifyKernel _).bind (accords_done _)))

theorem accords_control (inv : Invocation) : Accords (control inv) k (k.control inv) := by
  refine accords_kernel.bind ?_
  rw [Kernel.control]
  cases h : (Label.ofWord? inv.label).filter k.config.enables with
  | none => exact accords_refuse _
  | some label =>
    obtain ⟨-, henabled⟩ := Option.filter_eq_some_iff.1 h
    refine (accords_trace _ _).bind ?_
    cases label with
    | issueHandler => exact accords_issueHandler (accords_askPlain k inv) _
    | issueTriggerHandler => exact accords_issueHandler (accords_askWithTrigger k inv) _
    | issueCoreHandler => exact accords_issueHandler (accords_askForCore k inv) _
    | issueSgiSignal => exact accords_issueSignal (accords_askSignal k inv) _
    | setTargetCore => exact accords_retarget inv
    -- the last arm of the dispatch would be silent, but no configuration lets it be reached
    | generateSgi => cases henabled

/-- With its log an invocation does what it does without one, and the log has the warnings of the
    failure that it ends with. -/
theorem accords_invoke (k : Kernel C S) (cap : Cap) (inv : Invocation) :
    Accords (invoke cap inv) k (k.invoke cap inv) := by
  cases cap with
  | null => exact accords_refuse _
  | cnode node => exact accords_refuse _
  | irqHandler id trigger => exact accords_refuse _
  | irqControl badge => exact accords_control inv
  | sgiSignal sgi target =>
    exact (accords_trace _ _).bind <| (accords_modifyKernel _).bind <|
      (accords_sendSgi sgi target).bind <| accords_pure 0

end Invocations

end Act

/-! ### Over a distributor -/

namespace Kernel

variable {k : Kernel Distributor Space} {cap : Cap} {inv : Invocation} {f : Failure}

/-- An interrupt of the platform can be read, and it can be sent to any of eight interfaces. -/
theorem retarget_error_rejected (hm : k.platform.maxIrq ≤ maxLine)
    (hi : k.platform.cpuInterfaces ≤ maxInterfaces) (h : (k.retarget inv).1 = .error f) :
    ∃ r, f = .rejected r := by
  simp only [retarget] at h
  split at h
  · cases h
    exact ⟨_, rfl⟩
  · rename_i irq hask
    obtain ⟨-, hirq, hshared, rfl⟩ := Invocation.retargetIrq_eq_ok.1 hask
    rw [Distributor.owns_eq (Distributor.checkRegister_eq_ok hirq hm)] at h
    cases howned : decide (k.controller.target (inv.arg 0).toNat = k.controller.target 0) with
    | false =>
      simp only [howned] at h
      cases h
      exact ⟨_, rfl⟩
    | true =>
      simp only [howned] at h
      split at h
      · rename_i hinterface
        have hlt : (inv.arg 1).toNat < k.platform.cpuInterfaces := of_decide_eq_true hinterface
        have hroute : k.controller.Routable (inv.arg 0).toNat (inv.arg 1).toNat :=
          ⟨hshared, Nat.lt_of_lt_of_le hlt hi, hlt⟩
        have hset := Distributor.setTarget_eq_ok hirq hm hroute
        simp only [Controller.setTarget, hset, succeed] at h
        cases h
      · cases h
        exact ⟨_, rfl⟩

/-- Whatever fails is turned down by the kernel itself: the controller programs whatever passes the
    checks, and the store takes whatever has a fit destination. -/
theorem invoke_error_rejected (hm : k.platform.maxIrq ≤ maxLine)
    (hi : k.platform.cpuInterfaces ≤ maxInterfaces) (hsource : (k.space.slot? inv.source).isSome)
    (h : (k.invoke cap inv).1 = .error f) : ∃ r, f = .rejected r := by
  have effect := invoke_effect k cap inv
  generalize hout : k.invoke cap inv = out at effect h
  cases effect with
  | rejected cap r =>
    cases h
    exact ⟨r, rfl⟩
  | unprogrammed asks slot program =>
    obtain ⟨d, hd, -, -⟩ := Distributor.program_eq_ok asks.irq_le hm _ fun _ => asks.routable
    rw [hd] at program
    cases program
  | unstored asks slot program insert =>
    obtain ⟨-, -, hdest⟩ := handlerSlot_eq_ok.1 slot
    obtain ⟨s, hs⟩ := Space.exists_insert (.irqHandler _ _) hsource hdest
    cases hs.symm.trans insert
  | signalUnstored single asks slot insert =>
    obtain ⟨-, hdest⟩ := emptySlot_eq_ok.1 slot
    obtain ⟨s, hs⟩ := Space.exists_insert (.sgiSignal _ _) hsource hdest
    cases hs.symm.trans insert
  | unowned multikernel asks owns label
  | unrouted multikernel asks owns interface setTarget label =>
    rw [← hout, invoke, control_eq_retarget multikernel (Label.ofWord?_eq_some.1 label)] at h
    exact retarget_error_rejected hm hi h
  | issued | signalIssued | retargeted | sent => cases h

/-- An invocation that fails leaves exactly one record more severe than a trace in the log, a
    warning; one that succeeds leaves none. -/
theorem every_failure_audited_once (k : Kernel Distributor Space) (cap : Cap) (inv : Invocation)
    (log : List Notice) (hm : k.platform.maxIrq ≤ maxLine)
    (hi : k.platform.cpuInterfaces ≤ maxInterfaces)
    (hsource : (k.space.slot? inv.source).isSome) :
    ∃ records, (∃ value, Act.invoke cap inv ⟨k, log⟩
          = .ok value ⟨(k.invoke cap inv).2, log ++ records⟩ ∧ severe records = [])
      ∨ ∃ e warning, Act.invoke cap inv ⟨k, log⟩
          = .error (some e) ⟨(k.invoke cap inv).2, log ++ records⟩
        ∧ severe records = [warning] ∧ warning.level = .warn := by
  obtain ⟨records, hend, hsevere⟩ := Act.accords_invoke k cap inv log
  refine ⟨records, ?_⟩
  cases hresult : (k.invoke cap inv).1 with
  | ok value =>
    rw [hresult] at hend hsevere
    exact .inl ⟨value, hend, hsevere⟩
  | error f =>
    obtain ⟨r, rfl⟩ := invoke_error_rejected hm hi hsource hresult
    rw [hresult] at hend hsevere
    exact .inr ⟨r.error, r.notice, hend, hsevere, rfl⟩

/-- A message that is too short: the error comes with one warning, behind what the log had. -/
theorem truncated_message_audited :
    ∃ (k : Kernel Distributor Space) (inv : Invocation) (before : Notice),
      k.platform.maxIrq ≤ maxLine ∧ k.platform.cpuInterfaces ≤ maxInterfaces
        ∧ (k.space.slot? inv.source).isSome
        ∧ ∃ records warning, Act.invoke (.irqControl .none) inv ⟨k, [before]⟩
            = .error (some .truncatedMessage) ⟨k, before :: records⟩
          ∧ severe records = [warning] ∧ warning.level = .warn := by
  let root : CNode := ⟨0, 1, .none⟩
  let k : Kernel Distributor Space := ⟨⟨.smp, 2, by decide, by decide, fun _ => rfl⟩,
    ⟨.zero, .full⟩, .empty, ⟨#[#[⟨.cnode root, none⟩, .empty]]⟩, .runningOn 0⟩
  let inv : Invocation := ⟨.ofCounts 3 1 4, [40, 1, 0, 1], [.cnode root], ⟨0, 0⟩⟩
  let before : Notice := ⟨.error, .interrupts, "irq: 2 nodes"⟩
  obtain ⟨after, hrun⟩ : ∃ after, Act.invoke (.irqControl .none) inv ⟨k, [before]⟩
      = .error (some .truncatedMessage) ⟨k, after⟩ := ⟨_, rfl⟩
  refine ⟨k, inv, before, by decide, by decide, by decide, ?_⟩
  obtain ⟨records, ⟨value, hend, -⟩ | ⟨e, warning, hend, hone⟩⟩ :=
    every_failure_audited_once k (.irqControl .none) inv [before] (by decide) (by decide)
      (by decide)
  · cases hrun.symm.trans hend
  · cases hrun.symm.trans hend
    exact ⟨records, warning, hrun, hone⟩

end Kernel

end InterruptCaps
