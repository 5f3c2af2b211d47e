import InterruptCaps.Proofs.Kernel.Confinement
import InterruptCaps.Proofs.Kernel.Recorded
import InterruptCaps.Proofs.Kernel.Success

/-! Who may hand an interrupt over. A request is decided by a list of checks, the first that is not
    passed giving the error. They look at the configuration, the platform, two argument words and
    two target bytes of the distributor, and at nothing else.

    | check                               | error                   |
    | ----------------------------------- | ----------------------- |
    | the instance is one of several      | `illegalOperation`      |
    | two words                           | `truncatedMessage`      |
    | interrupt within limit              | `rangeError 0 …`        |
    | interrupt shared                    | `rangeError 32 …`       |
    | interrupt owned                     | `illegalOperation`      |
    | interface of the platform           | `invalidArgument 1`     |

    An interrupt is owned if its target byte is that of the instance's own interrupts. That does not
    say that the instance receives it: while no interface is named in its own byte, it owns the
    interrupts that nobody receives. -/

namespace InterruptCaps

namespace Invocation

/-- What the words of a request to hand an interrupt over have to meet. -/
def retargetMessageChecks (p : Platform) (inv : Invocation) : List Check :=
  let irq := (inv.arg 0).toNat
  [⟨2 ≤ inv.length, .truncatedMessage⟩,
    ⟨irq ≤ p.maxIrq, .rangeError 0 p.maxIrq⟩,
    ⟨sharedBase ≤ irq, .rangeError sharedBase p.maxIrq⟩]

/-- What is checked of a request whose words have passed, by an instance that owns the interrupt or
    does not. -/
def ownerChecks (p : Platform) (owned : Bool) (inv : Invocation) : List Check :=
  [⟨owned, .illegalOperation⟩, ⟨(inv.arg 1).toNat < p.cpuInterfaces, .invalidArgument 1⟩]

/-- All that a request to hand an interrupt over has to meet, in order. -/
def retargetChecks (c : Config) (p : Platform) (owned : Bool) (inv : Invocation) : List Check :=
  ⟨c.topology = .multikernel, .illegalOperation⟩
    :: (inv.retargetMessageChecks p ++ inv.ownerChecks p owned)

/-- The words of the message are decided by their checks. -/
theorem mapError_retargetIrq (inv : Invocation) (p : Platform) :
    (inv.retargetIrq p).mapError Rejection.error
      = verdict (inv.retargetMessageChecks p) (inv.arg 0).toNat := by
  rw [retargetMessageChecks, verdict_cons, retargetIrq]
  by_cases hlength : inv.length < 2
  · simp only [hlength, Nat.not_le.2 hlength]
    rfl
  · simp only [hlength, Nat.le_of_not_lt hlength, if_false, decide_true, if_true]
    refine mapError_bind (inv.irqArg_eq p) rfl ?_
    rw [verdict_cons, verdict_nil]
    by_cases hshared : (inv.arg 0).toNat < sharedBase
    · simp only [hshared, Nat.not_le.2 hshared]
      rfl
    · simp only [hshared, Nat.le_of_not_lt hshared]
      rfl

end Invocation

/-- One of the two masks that ownership compares cannot be read: the controller refuses to say. -/
def Controller.Unreadable {C : Type} [Controller C] (irq : Nat) (c : C) : Prop :=
  (∃ e, (selfTarget c).1 = .error (.refused e))
    ∨ ∃ own c' e, selfTarget c = (.ok own, c') ∧ (getTarget irq c').1 = .error (.refused e)

theorem Controller.Unreadable.owns {C : Type} [Controller C] {irq : Nat} {c : C}
    (h : Unreadable irq c) : ∃ e, (Controller.owns irq c).1 = .error (.refused e) := by
  rw [Controller.owns]
  rcases h with ⟨e, hself⟩ | ⟨own, c', e, hself, hget⟩
  · cases hown : selfTarget c with | mk own c' =>
    rw [hown] at hself
    cases hself
    exact ⟨e, rfl⟩
  · simp only [hself]
    cases hcurrent : getTarget irq c' with | mk current c'' =>
    rw [hcurrent] at hget
    cases hget
    exact ⟨e, rfl⟩

/-- In an empty frame all bytes are zero. -/
theorem Frame.byte_zero (offset : Nat) : Frame.zero.byte offset = 0 := by
  rw [byte, zero]
  by_cases h : offset < frameSize <;> simp [h]

/-- A distributor always says who owns an interrupt that has a register. -/
theorem Distributor.owns_eq {d : Distributor} {irq : Nat} (h : d.checkRegister irq = .ok ()) :
    Controller.owns irq d = (.ok (decide (d.target irq = d.target 0)), d) := by
  simp only [Controller.owns, Controller.selfTarget, Controller.getTarget, getTarget, h]
  have howned : (d.target 0 == d.target irq) = decide (d.target irq = d.target 0) := by
    rw [Bool.eq_iff_iff, beq_iff_eq, decide_eq_true_iff, eq_comm]
  exact congrArg (fun owned => ((.ok owned : Except CallFailure Bool), d)) howned

/-- A mask that is not empty names some interface. -/
theorem TargetMask.exists_contains {m : TargetMask} :
    (∃ i, m.contains i = true) ↔ m.isEmpty = false := by
  rw [← not_iff_not, not_exists, Bool.not_eq_false, isEmpty, beq_iff_eq]
  simp only [contains, Bool.not_eq_true]
  constructor
  · intro h
    exact UInt8.toNat_inj.1 (Nat.eq_of_testBit_eq fun i => (h i).trans (Nat.zero_testBit i).symm)
  · intro h i
    rw [h]
    exact Nat.zero_testBit i

namespace Kernel

variable {C S : Type} [Controller C] {inv : Invocation}

section

variable {k : Kernel C S}

/-- A request is answered by its checks if it is by those that stand after the words. -/
theorem mapError_retarget {owned : Bool}
    (rest : ∀ irq, inv.retargetIrq k.platform = .ok irq →
      (k.retarget inv).1.mapError Failure.error?
        = (verdict (inv.ownerChecks k.platform owned) 0).mapError some) :
    (k.retarget inv).1.mapError Failure.error?
      = (verdict (inv.retargetMessageChecks k.platform ++ inv.ownerChecks k.platform owned)
        0).mapError some := by
  rw [verdict_append _ _ (inv.arg 0).toNat, ← inv.mapError_retargetIrq k.platform]
  cases hirq : inv.retargetIrq k.platform with
  | error r =>
    simp only [retarget, hirq]
    rfl
  | ok irq => exact rest irq hirq

/-- The answer to a request depends on controller and words only. -/
theorem retarget_fst_congr {S' : Type} {k' : Kernel C S'} {inv' : Invocation}
    (hcontroller : k'.controller = k.controller) (hlength : inv'.length = inv.length)
    (hirq : inv'.arg 0 = inv.arg 0) (htarget : inv'.arg 1 = inv.arg 1) :
    (k'.retarget inv').1 = (k.retarget inv).1 := by
  have hplatform : k'.platform = k.platform := congrArg Controller.platform hcontroller
  have hmessage : inv'.retargetIrq k.platform = inv.retargetIrq k.platform := by
    simp only [Invocation.retargetIrq, Invocation.irqArg, hlength, hirq]
  simp only [retarget, hplatform, hmessage, hcontroller, htarget]
  cases inv.retargetIrq k.platform with
  | error r => rfl
  | ok irq =>
    simp only
    cases Controller.owns irq k.controller with | mk owned c =>
    cases owned with
    | error e => cases e <;> rfl
    | ok owned =>
      cases owned with
      | false => rfl
      | true =>
        simp only
        split
        · cases Controller.setTarget irq (inv.arg 1).toNat c with | mk result c' =>
          cases result <;> rfl
        · rfl

/-- Where the masks cannot be read, a request is turned down, after the reads at the latest. -/
theorem retarget_of_unreadable {e : ControllerError} {c : C}
    (h : Controller.owns (inv.arg 0).toNat k.controller = (.error (.refused e), c)) :
    (k.retarget inv).1.mapError Failure.error?
        = (verdict (inv.retargetMessageChecks k.platform ++ inv.ownerChecks k.platform false)
          0).mapError some
      ∧ ((k.retarget inv).2 = k ∨ (k.retarget inv).2 = { k with controller := c }) := by
  refine ⟨mapError_retarget fun irq hirq => ?_, ?_⟩
  · obtain ⟨-, -, -, rfl⟩ := Invocation.retargetIrq_eq_ok.1 hirq
    simp only [retarget, hirq, h]
    rfl
  · cases hirq : inv.retargetIrq k.platform with
    | error r =>
      simp only [retarget, hirq]
      exact .inl rfl
    | ok irq =>
      obtain ⟨-, -, -, rfl⟩ := Invocation.retargetIrq_eq_ok.1 hirq
      simp only [retarget, hirq, h]
      exact .inr rfl

variable [SlotStore S]

/-- A request to hand an interrupt over is considered in a multikernel. -/
theorem invoke_eq_retarget (hlabel : inv.label = Label.setTargetCore.toWord) (badge : Badge) :
    k.invoke (.irqControl badge) inv = if k.config.topology = .multikernel then k.retarget inv
      else k.reject (.noSuchOperation inv.label k.config.topology) := by
  by_cases hmulti : k.config.topology = .multikernel
  · rw [if_pos hmulti, invoke, control_eq_retarget hmulti hlabel]
  · have hdisabled : k.config.enables .setTargetCore = false := by
      simpa [Config.enables] using hmulti
    rw [if_neg hmulti, invoke, control]
    simp only [hlabel, Label.ofWord?_toWord, Option.filter_some, hdisabled]
    rfl

/-- The topology is the first check. -/
theorem mapError_invoke {owned : Bool} (hlabel : inv.label = Label.setTargetCore.toWord)
    (badge : Badge) (rest : (k.retarget inv).1.mapError Failure.error?
      = (verdict (inv.retargetMessageChecks k.platform ++ inv.ownerChecks k.platform owned)
        0).mapError some) :
    (k.invoke (.irqControl badge) inv).1.mapError Failure.error?
      = (verdict (inv.retargetChecks k.config k.platform owned) 0).mapError some := by
  rw [invoke_eq_retarget hlabel, Invocation.retargetChecks, verdict_cons]
  by_cases hmulti : k.config.topology = .multikernel
  · simpa only [hmulti, if_true, decide_true] using rest
  · simp only [hmulti, if_false, decide_false]
    rfl

end

/-- Where the masks cannot be read, no call changes hardware. -/
theorem calls_of_unreadable [SlotStore S] {k : Kernel C S}
    (hlabel : inv.label = Label.setTargetCore.toWord)
    (h : Controller.Unreadable (inv.arg 0).toNat k.controller) (badge : Badge) :
    k.calls (.irqControl badge) inv = [] := by
  obtain ⟨e, howns⟩ := h.owns
  have hrecorded := Recorder.simulation.owns (inv.arg 0).toNat (Recorder.fresh k.controller)
  cases hfresh : Controller.owns (inv.arg 0).toNat (Recorder.fresh k.controller) with
  | mk owned r =>
  rw [hfresh] at hrecorded
  obtain rfl : owned = .error (.refused e) := (congrArg (·.1) hrecorded).symm.trans howns
  have hcalls : r.calls = [] := Recorder.calls_owns hfresh
  rw [calls, invoke_eq_retarget hlabel]
  split
  · obtain ⟨-, hstate⟩ := retarget_of_unreadable (k := k.map Recorder.fresh) hfresh
    rcases hstate with hstate | hstate <;> rw [hstate]
    · rfl
    · exact hcalls
  · rfl

variable {k : Kernel Distributor S}

/-- All that a request has to meet before a distributor: the target byte of an owned interrupt is
    the first one, that of the instance itself. -/
def retargetChecks (k : Kernel Distributor S) (inv : Invocation) : List Check :=
  inv.retargetChecks k.config k.platform
    (k.controller.target (inv.arg 0).toNat = k.controller.target 0)

/-- Once its words have passed, a request to a distributor is decided by owner and interface. -/
theorem retarget_of_words (hm : k.platform.maxIrq ≤ maxLine)
    (hinterfaces : k.platform.cpuInterfaces ≤ maxInterfaces) {irq : Nat}
    (hirq : inv.retargetIrq k.platform = .ok irq) :
    (k.retarget inv).1.mapError Failure.error? = (verdict (inv.ownerChecks k.platform
      (k.controller.target (inv.arg 0).toNat = k.controller.target 0)) 0).mapError some := by
  obtain ⟨-, hle, hshared, rfl⟩ := Invocation.retargetIrq_eq_ok.1 hirq
  have howns := Distributor.owns_eq (Distributor.checkRegister_eq_ok hle hm)
  rw [Invocation.ownerChecks, verdict_cons, verdict_cons, verdict_nil]
  by_cases howned : k.controller.target (inv.arg 0).toNat = k.controller.target 0
  · rw [decide_eq_true howned] at howns
    simp only [retarget, hirq, howns, howned, Platform.hasInterface]
    by_cases hinterface : (inv.arg 1).toNat < k.platform.cpuInterfaces
    · have route : k.controller.Routable (inv.arg 0).toNat (inv.arg 1).toNat :=
        ⟨hshared, Nat.lt_of_lt_of_le hinterface hinterfaces, hinterface⟩
      have hset := Distributor.setTarget_eq_ok hle hm route
      simp only [hinterface, Controller.setTarget, hset]
      rfl
    · simp only [hinterface]
      rfl
  · rw [decide_eq_false howned] at howns
    simp only [retarget, hirq, howns, howned]
    rfl

variable [SlotStore S]

/-- A request to hand an interrupt over is answered by its checks: the first that it does not pass
    gives the error, and it succeeds exactly if it passes all of them. No other part of message or
    kernel matters. Over any controller, an interrupt counts as not owned if one of the masks
    cannot be read, and then no call changes hardware. -/
theorem retarget_request_decided (hm : k.platform.maxIrq ≤ maxLine)
    (hinterfaces : k.platform.cpuInterfaces ≤ maxInterfaces)
    (hlabel : inv.label = Label.setTargetCore.toWord) (badge : Badge) :
    (k.invoke (.irqControl badge) inv).1.mapError Failure.error?
        = (verdict (k.retargetChecks inv) 0).mapError some
      ∧ ((k.invoke (.irqControl badge) inv).1 = .ok 0
        ↔ ∀ check ∈ k.retargetChecks inv, check.passed = true)
      ∧ (∀ (S' : Type) [SlotStore S'] (k' : Kernel Distributor S') badge' inv',
        k'.config = k.config → k'.controller = k.controller → inv'.label = inv.label →
          inv'.length = inv.length → inv'.arg 0 = inv.arg 0 → inv'.arg 1 = inv.arg 1 →
            (k'.invoke (.irqControl badge') inv').1 = (k.invoke (.irqControl badge) inv).1)
      ∧ ∀ (C : Type) [Controller C] (k' : Kernel C S) badge' inv',
        inv'.label = Label.setTargetCore.toWord →
          Controller.Unreadable (inv'.arg 0).toNat k'.controller →
            (k'.invoke (.irqControl badge') inv').1.mapError Failure.error?
                = (verdict (inv'.retargetChecks k'.config k'.platform false) 0).mapError some
              ∧ k'.calls (.irqControl badge') inv' = [] := by
  have decided : (k.invoke (.irqControl badge) inv).1.mapError Failure.error?
      = (verdict (k.retargetChecks inv) 0).mapError some :=
    mapError_invoke hlabel badge
      (mapError_retarget fun irq hirq => retarget_of_words hm hinterfaces hirq)
  refine ⟨decided, ?_, ?_, ?_⟩
  · rw [← mapError_eq_ok (f := Failure.error?), decided, mapError_eq_ok, verdict_eq_ok]
    simp
  · intro S' _ k' badge' inv' hconfig hcontroller hlabel' hlength hirq htarget
    rw [invoke_eq_retarget hlabel, invoke_eq_retarget (hlabel'.trans hlabel), hconfig, hlabel']
    split
    · exact retarget_fst_congr hcontroller hlength hirq htarget
    · rfl
  · intro C _ k' badge' inv' hlabel' hunread
    refine ⟨mapError_invoke hlabel' badge' ?_, calls_of_unreadable hlabel' hunread badge'⟩
    obtain ⟨e, howns⟩ := hunread.owns
    cases hread : Controller.owns (inv'.arg 0).toNat k'.controller with | mk owned c =>
    rw [hread] at howns
    cases howns
    exact (retarget_of_unreadable hread).1

/-- An instance of a multikernel with a full distributor; its first task has the authority over
    interrupts. -/
def firstInstance (frame : Frame) : Kernel Distributor Space :=
  ⟨.multikernel, ⟨frame, .full⟩, .empty,
    ⟨#[#[⟨.cnode ⟨0, 2, .none⟩, none⟩, .empty, .empty, ⟨.irqControl .none, none⟩]]⟩, .runningOn 0⟩

/-- Hands interrupt 40 to interface 1. -/
def handOver : Invocation := ⟨.ofCounts 5 0 2, [40, 1], [], ⟨0, 3⟩⟩

/-- Interface 0 asks, and interrupt 40 is sent there. -/
def ownFrame : Frame :=
  Frame.zero.setByte Distributor.targetsOffset 1 |>.setByte (Distributor.targetsOffset + 40) 1

theorem target_ownFrame : (firstInstance ownFrame).controller.target 40 = ⟨1⟩
    ∧ (firstInstance ownFrame).controller.target 0 = ⟨1⟩ := by
  constructor
  · rw [Distributor.target, firstInstance, ownFrame, Frame.byte_setByte, if_pos (by decide)]
  · rw [Distributor.target, firstInstance, ownFrame, Frame.byte_setByte, if_neg (by decide),
      Frame.byte_setByte, if_pos (by decide)]

theorem label_handOver : handOver.label = Label.setTargetCore.toWord := by decide

/-- An instance hands an interrupt of its own over: all checks are passed. -/
theorem own_line_handed_over :
    ((firstInstance ownFrame).invoke (.irqControl .none) handOver).1 = .ok 0 := by
  obtain ⟨hline, hself⟩ := target_ownFrame
  have howned : (firstInstance ownFrame).controller.target (handOver.arg 0).toNat
      = (firstInstance ownFrame).controller.target 0 := hline.trans hself.symm
  have hpassed : ∀ check ∈ (firstInstance ownFrame).retargetChecks handOver,
      check.passed = true := by
    rw [retargetChecks, decide_eq_true howned]
    decide
  obtain ⟨-, hok, -⟩ := retarget_request_decided (k := firstInstance ownFrame) (by decide)
    (by decide) label_handOver .none
  exact hok.2 hpassed

/-! ### Interrupts that nobody receives -/

/-- What is handed over had the target byte of the instance itself. So it was sent to interfaces of
    the instance's own only, and to some interface exactly if the instance had one. -/
theorem handed_over_named_iff {badge : Badge} {v : Int}
    (hlabel : inv.label = Label.setTargetCore.toWord)
    (h : (k.invoke (.irqControl badge) inv).1 = .ok v) :
    k.config.topology = .multikernel
      ∧ k.controller.target (inv.arg 0).toNat = k.controller.selfTarget
      ∧ (∀ i, (k.controller.target (inv.arg 0).toNat).contains i = true →
        k.controller.selfTarget.contains i = true)
      ∧ ((∃ i, (k.controller.target (inv.arg 0).toNat).contains i = true)
        ↔ k.controller.selfTarget.isEmpty = false) := by
  have effect := invoke_effect k (.irqControl badge) inv
  generalize k.invoke (.irqControl badge) inv = out at effect h
  cases effect with
  | rejected | unprogrammed | unstored | signalUnstored | unowned | unrouted => cases h
  | issued asks =>
    obtain ⟨form, hform, -⟩ := asks.form
    rw [hlabel] at hform
    cases form <;> cases hform
  | signalIssued single asks slot insert label =>
    rw [hlabel] at label
    cases label
  | retargeted multikernel asks owns =>
    obtain ⟨-, -, -, rfl⟩ := Invocation.retargetIrq_eq_ok.1 asks
    obtain ⟨-, hown, -⟩ := Distributor.owns_eq_true.1 owns
    refine ⟨multikernel, hown, fun i hi => hown ▸ hi, ?_⟩
    rw [hown, TargetMask.exists_contains]

/-- The first task can hand interrupt 40 over wherever its target byte is that of the instance. -/
theorem firstInstance_hands_over {frame : Frame}
    (hown : (firstInstance frame).controller.target 40
      = (firstInstance frame).controller.selfTarget) :
    ((firstInstance frame).invoke (.irqControl .none) handOver).1 = .ok 0 := by
  have hinterface : (handOver.arg 1).toNat < Platform.full.cpuInterfaces := by decide
  have hroute : (firstInstance frame).controller.Routable 40 (handOver.arg 1).toNat :=
    ⟨by decide, by decide, hinterface⟩
  have hasks : handOver.retargetIrq (firstInstance frame).platform = .ok 40 := rfl
  have hm : (firstInstance frame).platform.maxIrq ≤ maxLine := Nat.le_refl maxLine
  obtain ⟨d, hinvoke, -⟩ := invoke_retarget hm rfl label_handOver hasks hown hroute .none
  rw [hinvoke]
  rfl

/-- Interrupt 40 was sent to interface 0, one of the instance's own, when it was handed over. -/
theorem handed_over_line_was_received :
    ∃ i, ((firstInstance ownFrame).controller.target 40).contains i = true
      ∧ (firstInstance ownFrame).controller.selfTarget.contains i = true := by
  obtain ⟨hline, hself⟩ := target_ownFrame
  have hok := firstInstance_hands_over (hline.trans hself.symm)
  obtain ⟨-, -, hnamed, hsome⟩ := handed_over_named_iff label_handOver hok
  have hmask : (firstInstance ownFrame).controller.selfTarget.isEmpty = false := by
    rw [Distributor.selfTarget, hself]
    rfl
  obtain ⟨i, hi⟩ := hsome.2 hmask
  exact ⟨i, hi, hnamed i hi⟩

/-- No target byte has been written yet. The instance has no interface that it knows of, interrupt
    40 is sent nowhere, and the first task hands it over all the same. -/
theorem unreceived_line_handed_over :
    ∃ k : Kernel Distributor Space, k.config = .multikernel ∧ k.platform = .full
      ∧ start k.config k.controller k.space = .ok k
      ∧ (∃ root, Space.boot 2 .none = .ok (root, k.space))
      ∧ handOver.label = Label.setTargetCore.toWord ∧ (handOver.arg 0).toNat = 40
      ∧ (k.invoke (.irqControl .none) handOver).1 = .ok 0
      ∧ (∀ i, (k.controller.target 40).contains i = false)
      ∧ k.controller.selfTarget.isEmpty = true := by
  have hzero : ∀ irq, (firstInstance .zero).controller.target irq = .empty := by
    intro irq
    rw [Distributor.target, TargetMask.empty, firstInstance, Frame.byte_zero]
  refine ⟨firstInstance .zero, rfl, rfl, rfl, ⟨_, rfl⟩, label_handOver, by decide, ?_,
    fun i => ?_, ?_⟩
  · exact firstInstance_hands_over ((hzero 40).trans (hzero 0).symm)
  · rw [hzero, TargetMask.contains]
    exact Nat.zero_testBit i
  · rw [Distributor.selfTarget, hzero]
    rfl

end Kernel

end InterruptCaps
