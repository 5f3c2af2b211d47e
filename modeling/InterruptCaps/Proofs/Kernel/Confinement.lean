import InterruptCaps.Proofs.Gic.Rewiring
import InterruptCaps.Proofs.Kernel.Failure
import InterruptCaps.Proofs.Kernel.Provenance

/-! How far a kernel's arm reaches. Whatever callers invoke, a bit of the frame changes for one of
    four causes, and the topology decides which of them there are.

    | cause        | bits                       | uniprocessor | smp | multikernel      |
    | ------------ | -------------------------- | ------------ | --- | ---------------- |
    | `edge`       | edge bit of a line         | yes          | yes | yes              |
    | `routed`     | target byte, shared line   |              | yes |                  |
    | `handedOver` | target byte, shared line   |              |     | of its own lines |
    | `raised`     | the word that raises       | yes          |     | yes              |

    A step without a cause leaves the bit as it is, so a run of them does; and no run makes a cause
    where the topology has none, since senders are issued only where a kernel has its core to
    itself. -/

namespace InterruptCaps

namespace Distributor

/-- The bits of the frame that invocations write: the edge bits of the platform's interrupts, the
    target bytes of those that are shared, and the word that raises software-generated ones. -/
inductive Writable (p : Platform) (n : Nat) : Prop where
  | edge {irq : Nat} (le : irq ≤ p.maxIrq) (bit : n = edgeBit irq)
  | target {irq : Nat} (shared : sharedBase ≤ irq) (le : irq ≤ p.maxIrq)
      (byte : n / 8 = targetsOffset + irq)
  | sgi (least : sgiOffset ≤ n / 8) (most : n / 8 < sgiOffset + 4)

/-- Why an invocation of `cap` may change bit `n` of the frame. -/
inductive Cause (c : Config) (d : Distributor) (cap : Cap) (n : Nat) : Prop where
  | edge {irq : Nat} (le : irq ≤ d.info.maxIrq) (bit : n = edgeBit irq)
  | routed {irq : Nat} (smp : c.isSmp = true) (shared : sharedBase ≤ irq)
      (le : irq ≤ d.info.maxIrq) (byte : n / 8 = targetsOffset + irq)
  | handedOver {irq : Nat} (multikernel : c.topology = .multikernel) (shared : sharedBase ≤ irq)
      (le : irq ≤ d.info.maxIrq) (byte : n / 8 = targetsOffset + irq)
      (own : d.target irq = d.selfTarget)
  | raised (sender : cap.isSignal = true) (least : sgiOffset ≤ n / 8)
      (most : n / 8 < sgiOffset + 4)

theorem Cause.writable {c : Config} {d : Distributor} {cap : Cap} {n : Nat}
    (h : Cause c d cap n) : Writable d.info n := by
  cases h with
  | edge le bit => exact .edge le bit
  | routed smp shared le byte => exact .target shared le byte
  | handedOver multikernel shared le byte => exact .target shared le byte
  | raised sender least most => exact .sgi least most

variable {d d' : Distributor} {irq n : Nat}

/-- The banked target bytes are not written. -/
theorem not_writable_of_private {p : Platform} (hirq : irq < privateCount)
    (hn : n / 8 = targetsOffset + irq) : ¬ Writable p n := by
  rintro (⟨le, rfl⟩ | ⟨shared, le, byte⟩ | ⟨least, most⟩)
  · exact edgeBit_div_ne _ (Nat.lt_trans hirq (by decide)) hn
  · simp only [privateCount, sharedBase] at *
    omega
  · simp only [privateCount, targetsOffset, sgiOffset] at *
    omega

/-- The lower one of an interrupt's two configuration bits is not written. -/
theorem not_writable_lower {p : Platform} (hm : p.maxIrq ≤ maxLine) (hirq : irq < irqCapacity) :
    ¬ Writable p (8 * triggersOffset + 2 * irq) := by
  rintro (⟨le, bit⟩ | ⟨shared, le, byte⟩ | ⟨least, most⟩)
  · simp only [edgeBit] at bit
    omega
  · simp only [triggersOffset, targetsOffset, maxLine] at *
    omega
  · simp only [triggersOffset, irqCapacity, sgiOffset] at *
    omega

/-- A target byte changes on SMP, or if it belongs to an instance of a multikernel. -/
theorem Cause.of_target {c : Config} {cap : Cap} (h : Cause c d cap n) (hirq : irq < irqCapacity)
    (hn : n / 8 = targetsOffset + irq) :
    c.isSmp = true ∨ c.topology = .multikernel ∧ d.target irq = d.selfTarget := by
  cases h with
  | edge le bit =>
    subst bit
    exact absurd hn (edgeBit_div_ne _ hirq)
  | routed smp => exact .inl smp
  | handedOver multikernel shared le byte own =>
    obtain rfl := Nat.add_left_cancel (hn.symm.trans byte)
    exact .inr ⟨multikernel, own⟩
  | raised sender least most =>
    simp only [targetsOffset, irqCapacity, sgiOffset] at *
    omega

/-- The word that raises software-generated interrupts changes when a sender is invoked. -/
theorem Cause.of_sgi {c : Config} {cap : Cap} (h : Cause c d cap n) (hm : d.info.maxIrq ≤ maxLine)
    (hn : sgiOffset ≤ n / 8) : cap.isSignal = true := by
  cases h with
  | edge le bit =>
    simp only [edgeBit, triggersOffset, sgiOffset, maxLine] at *
    omega
  | routed smp shared le byte | handedOver multikernel shared le byte own =>
    simp only [targetsOffset, sgiOffset, maxLine] at *
    omega
  | raised sender => exact sender

theorem target_eq_of_bit (h : ∀ n, n / 8 = targetsOffset + irq → d'.frame.bit n = d.frame.bit n) :
    d'.target irq = d.target irq := by
  rw [target, target, Frame.byte_eq_of_bit h]

/-- What rewiring a line changes is its edge bit or its target byte, if they are asked for. -/
theorem Rewired.changed {trigger : Option Trigger} {target : Option Nat}
    (h : d.Rewired d' irq trigger target) (hn : d'.frame.bit n ≠ d.frame.bit n) :
    trigger.isSome ∧ n = edgeBit irq ∨ target.isSome ∧ n / 8 = targetsOffset + irq := by
  by_contra hnot
  obtain ⟨hedge, hbyte⟩ := not_or.1 hnot
  exact hn (h.others n (fun hsome heq => hedge ⟨hsome, heq⟩) fun hsome heq => hbyte ⟨hsome, heq⟩)

/-- An instance owns the interrupts with a register that have the target byte of its own ones. -/
theorem owns_eq_true :
    Controller.owns irq d = (.ok true, d')
      ↔ d.checkRegister irq = .ok () ∧ d.target irq = d.selfTarget ∧ d' = d := by
  simp only [Controller.owns, Controller.selfTarget, Controller.getTarget, getTarget]
  cases d.checkRegister irq with
  | error e => simp [Except.map]
  | ok u =>
    constructor
    · intro h
      obtain ⟨hown, rfl⟩ := Prod.mk.inj h
      exact ⟨rfl, (eq_of_beq (Except.ok.inj hown)).symm, rfl⟩
    · rintro ⟨-, hown, rfl⟩
      simp only [Except.map, hown, beq_self_eq_true]

end Distributor

namespace Kernel

open Distributor (Cause)

variable {k k' : Kernel Distributor Space} {n : Nat}

/-- An invocation changes a bit of the frame for a cause only. -/
theorem cause_of_invoke {cap : Cap} {inv : Invocation} (hm : k.platform.maxIrq ≤ maxLine)
    (hn : (k.invoke cap inv).2.controller.frame.bit n ≠ k.controller.frame.bit n) :
    Cause k.config k.controller cap n := by
  -- a handler that was considered has its line programmed as the message asks
  have programmed : ∀ {req : HandlerRequest} {d : Distributor}, k.Asks inv req →
      Controller.program req.id.irq req.trigger req.route k.controller = (.ok (), d) →
        d.frame.bit n ≠ k.controller.frame.bit n → Cause k.config k.controller cap n := by
    intro req d asks program hn
    rcases (Distributor.program_rewired program).changed hn with ⟨-, hedge⟩ | ⟨hroute, hbyte⟩
    · exact .edge asks.irq_le hedge
    · obtain ⟨core, hcore⟩ := Option.isSome_iff_exists.1 hroute
      refine .routed ?_ (asks.route hcore).1 asks.irq_le hbyte
      refine Bool.eq_true_of_not_eq_false fun single => ?_
      rw [asks.route_eq_none single] at hcore
      cases hcore
  have effect := invoke_effect k cap inv
  generalize k.invoke cap inv = out at effect hn
  cases effect with
  | rejected | signalUnstored | signalIssued => exact absurd rfl hn
  | unprogrammed asks slot program =>
    obtain ⟨d, hd, -, -⟩ := Distributor.program_eq_ok asks.irq_le hm _ fun _ => asks.routable
    rw [hd] at program
    cases program
  | unstored asks slot program | issued asks slot program => exact programmed asks program hn
  | unowned multikernel asks owns =>
    obtain rfl := Distributor.owns_state owns
    exact absurd rfl hn
  | unrouted multikernel asks owns interface setTarget =>
    obtain rfl := Distributor.owns_state owns
    obtain rfl := Distributor.setTarget_error setTarget
    exact absurd rfl hn
  | retargeted multikernel asks owns interface setTarget =>
    obtain rfl := Distributor.owns_state owns
    obtain ⟨-, hirq, hshared, rfl⟩ := Invocation.retargetIrq_eq_ok.1 asks
    rcases (Distributor.setTarget_rewired setTarget).changed hn with ⟨hsome, -⟩ | ⟨-, hbyte⟩
    · cases hsome
    · obtain ⟨-, hown, -⟩ := Distributor.owns_eq_true.1 owns
      exact .handedOver multikernel hshared hirq hbyte hown
  | sent sgi target =>
    have raised : k.controller.Raised (Controller.sendSgi sgi target k.controller) sgi target :=
      k.controller.sendSgi_raised sgi target
    by_contra hcause
    refine hn ?_
    show (Controller.sendSgi sgi target k.controller).frame.bit n = _
    rw [Frame.bit, raised.others, Frame.bit]
    by_contra hword
    exact hcause (.raised rfl (by omega) (by omega))

/-- A step changes a bit of the frame only if some slot holds the cause. -/
theorem Step.cause (step : Step k k') (hm : k.platform.maxIrq ≤ maxLine)
    (hn : k'.controller.frame.bit n ≠ k.controller.frame.bit n) :
    ∃ ref slot, k.space.slot? ref = some slot ∧ Cause k.config k.controller slot.cap n := by
  cases step with
  | @event e genuine =>
    rcases after_invoke_or k e with ⟨caller, cap, inv, rfl⟩ | ⟨-, hcontroller⟩
    · obtain ⟨slot, hslot, rfl⟩ := genuine
      exact ⟨inv.source, slot, hslot, cause_of_invoke (k := { k with caller }) hm hn⟩
    · rw [hcontroller] at hn
      exact absurd rfl hn
  | delete deleted => exact absurd rfl hn

/-- A bit that nothing on the way has a cause to change is as it was. -/
theorem bit_steps (hm : k.platform.maxIrq ≤ maxLine) (run : Relation.ReflTransGen Step k k')
    (never : ∀ k₁, Relation.ReflTransGen Step k k₁ → ∀ ref slot,
      k₁.space.slot? ref = some slot → ¬ Cause k₁.config k₁.controller slot.cap n) :
    k'.controller.frame.bit n = k.controller.frame.bit n := by
  induction run with
  | refl => rfl
  | tail before step ih =>
    rw [← ih]
    by_contra hn
    obtain ⟨ref, slot, hslot, hcause⟩ := step.cause (by rwa [platform_steps before]) hn
    exact never _ before ref slot hslot hcause

/-- Where cores share the kernel, no slot ever holds a sender. -/
theorem not_signal_of_smp {radix : Nat} {guard : Guard} {root : CNode}
    (booted : Space.boot radix guard = .ok (root, k.space)) (smp : k.config.isSmp = true)
    (run : Relation.ReflTransGen Step k k') {ref : SlotRef} {slot : Slot}
    (hslot : k'.space.slot? ref = some slot) : slot.cap.isSignal = false := by
  have hchecked := checked_steps booted run ref slot hslot
  cases hcap : slot.cap with
  | sgiSignal sgi target =>
    rw [hcap, config_steps run] at hchecked
    rw [hchecked.1] at smp
    cases smp
  | null | cnode | irqControl | irqHandler => rfl

/-- On a uniprocessor, no target ever changes. -/
theorem target_steps_of_uniprocessor (hm : k.platform.maxIrq ≤ maxLine)
    (uniprocessor : k.config.topology = .uniprocessor) (run : Relation.ReflTransGen Step k k')
    {irq : Nat} (hirq : irq < Distributor.irqCapacity) :
    k'.controller.target irq = k.controller.target irq := by
  refine Distributor.target_eq_of_bit fun n hn => ?_
  refine bit_steps hm run fun k₁ before ref slot hslot hcause => ?_
  have htopology := (congrArg Config.topology (config_steps before)).trans uniprocessor
  rcases hcause.of_target hirq hn with hsmp | ⟨hmulti, -⟩
  · rw [Config.isSmp, htopology] at hsmp
    cases hsmp
  · rw [htopology] at hmulti
    cases hmulti

/-- Where cores share the kernel, no software-generated interrupt is ever raised. -/
theorem word_steps_of_smp {radix : Nat} {guard : Guard} {root : CNode}
    (booted : Space.boot radix guard = .ok (root, k.space)) (hm : k.platform.maxIrq ≤ maxLine)
    (smp : k.config.isSmp = true) (run : Relation.ReflTransGen Step k k') :
    k'.controller.frame.word Distributor.sgiOffset
      = k.controller.frame.word Distributor.sgiOffset := by
  refine Frame.word_eq_of_bit fun n hn _ => ?_
  refine bit_steps hm run fun k₁ before ref slot hslot hcause => ?_
  have hsender := hcause.of_sgi (by rwa [← platform_steps before] at hm) hn
  rw [not_signal_of_smp booted smp before hslot] at hsender
  cases hsender

/-- A step of a multikernel's instance changes targets of its own lines only. -/
theorem Step.own_of_target_ne (step : Step k k') (hm : k.platform.maxIrq ≤ maxLine)
    (multikernel : k.config.topology = .multikernel) {irq : Nat}
    (hirq : irq < Distributor.irqCapacity)
    (changed : k'.controller.target irq ≠ k.controller.target irq) :
    k.controller.target irq = k.controller.selfTarget := by
  by_contra hown
  refine changed (Distributor.target_eq_of_bit fun n hn => ?_)
  -- a bit of the byte would have changed, and the only cause for that is a hand-over by its owner
  by_contra hbit
  obtain ⟨ref, slot, -, hcause⟩ := step.cause hm hbit
  rcases hcause.of_target hirq hn with hsmp | ⟨-, htarget⟩
  · rw [Config.isSmp, multikernel] at hsmp
    cases hsmp
  · exact hown htarget

/-- An instance of a multikernel can hand any shared line of its own to an interface. -/
theorem invoke_retarget {inv : Invocation} {irq : Nat} (hm : k.platform.maxIrq ≤ maxLine)
    (multikernel : k.config.topology = .multikernel)
    (hlabel : inv.label = Label.setTargetCore.toWord)
    (asks : inv.retargetIrq k.platform = .ok irq)
    (own : k.controller.target irq = k.controller.selfTarget)
    (route : k.controller.Routable irq (inv.arg 1).toNat) (badge : Badge) :
    ∃ d, k.invoke (.irqControl badge) inv = succeed { k with controller := d }
      ∧ d.target irq = Distributor.single (inv.arg 1).toNat := by
  obtain ⟨-, hirq, -, rfl⟩ := Invocation.retargetIrq_eq_ok.1 asks
  have howns : Controller.owns (inv.arg 0).toNat k.controller = (.ok true, k.controller) :=
    Distributor.owns_eq_true.2 ⟨Distributor.checkRegister_eq_ok hirq hm, own, rfl⟩
  have hinterface : k.platform.hasInterface (inv.arg 1) = true :=
    decide_eq_true route.lt_interfaces
  have hset := Distributor.setTarget_eq_ok hirq hm route
  refine ⟨_, ?_, (Distributor.target_of_setTarget_ok hset _).trans (if_pos rfl)⟩
  rw [invoke, control_eq_retarget multikernel hlabel]
  simp only [retarget, asks, howns, hinterface, if_true, Controller.setTarget, hset]

/-- From start-up on, invocations change nothing of the frame but edge bits of the platform's
    interrupts, target bytes of shared ones and the word that raises software-generated ones; so
    the banked bytes and the lower bits of the configuration stay. On a uniprocessor no target
    changes, on SMP no slot gets to hold a sender and the word stays, and on a multikernel a target
    changes only in a step before which it was the instance's own. -/
theorem frame_confined {radix : Nat} {guard : Guard} {root : CNode}
    (booted : Space.boot radix guard = .ok (root, k.space)) (hm : k.platform.maxIrq ≤ maxLine)
    (run : Relation.ReflTransGen Step k k') :
    (∀ n, ¬ Distributor.Writable k.platform n →
        k'.controller.frame.bit n = k.controller.frame.bit n)
      ∧ (∀ irq, irq < privateCount → k'.controller.target irq = k.controller.target irq)
      ∧ (∀ irq, irq < Distributor.irqCapacity →
        k'.controller.frame.bit (8 * Distributor.triggersOffset + 2 * irq)
          = k.controller.frame.bit (8 * Distributor.triggersOffset + 2 * irq))
      ∧ (k.config.topology = .uniprocessor → ∀ irq, irq < Distributor.irqCapacity →
        k'.controller.target irq = k.controller.target irq)
      ∧ (k.config.topology = .smp →
        (∀ ref slot, k'.space.slot? ref = some slot → slot.cap.isSignal = false)
          ∧ k'.controller.frame.word Distributor.sgiOffset
            = k.controller.frame.word Distributor.sgiOffset)
      ∧ (k.config.topology = .multikernel → ∀ k'', Step k' k'' →
        ∀ irq, irq < Distributor.irqCapacity →
          k''.controller.target irq ≠ k'.controller.target irq →
            k'.controller.target irq = k'.controller.selfTarget) := by
  have confined : ∀ n, ¬ Distributor.Writable k.platform n →
      k'.controller.frame.bit n = k.controller.frame.bit n := by
    intro n hn
    refine bit_steps hm run fun k₁ before ref slot hslot hcause => hn ?_
    rw [← platform_steps before]
    exact hcause.writable
  refine ⟨confined, fun irq hirq => ?_, fun irq hirq => ?_, fun uniprocessor irq hirq => ?_,
    fun smp => ?_, fun multikernel k'' step irq hirq changed => ?_⟩
  · refine Distributor.target_eq_of_bit fun n hn => confined n ?_
    exact Distributor.not_writable_of_private hirq hn
  · exact confined _ (Distributor.not_writable_lower hm hirq)
  · exact target_steps_of_uniprocessor hm uniprocessor run hirq
  · have hsmp : k.config.isSmp = true := beq_iff_eq.2 smp
    exact ⟨fun ref slot => not_signal_of_smp booted hsmp run, word_steps_of_smp booted hm hsmp run⟩
  · rw [← platform_steps run] at hm
    rw [← config_steps run] at multikernel
    exact step.own_of_target_ne hm multikernel hirq changed

/-- An instance hands interrupt 40 to interface 2: it was its own, and the banked bytes stay. -/
theorem line_handed_over_was_own :
    ∃ k k' : Kernel Distributor Space, (∃ root, Space.boot 2 .none = .ok (root, k.space))
      ∧ k.platform.maxIrq ≤ maxLine ∧ k.config.topology = .multikernel ∧ Step k k'
      ∧ k'.controller.target 40 = Distributor.single 2
      ∧ k.controller.target 40 = k.controller.selfTarget
      ∧ ∀ irq, irq < privateCount → k'.controller.target irq = k.controller.target irq := by
  let frame : Frame := Frame.zero.setByte Distributor.targetsOffset 1
    |>.setByte (Distributor.targetsOffset + 40) 1
  let k : Kernel Distributor Space := ⟨.multikernel, ⟨frame, .full⟩, .empty,
    ⟨#[#[⟨.cnode ⟨0, 2, .none⟩, none⟩, .empty, .empty, ⟨.irqControl .none, none⟩]]⟩, .runningOn 0⟩
  let inv : Invocation := ⟨.ofCounts 5 0 2, [40, 2], [], ⟨0, 3⟩⟩
  let handOver : Event := .invoke (.runningOn 0) (.irqControl .none) inv
  have hself : k.controller.selfTarget = ⟨1⟩ := by
    rw [Distributor.selfTarget, Distributor.target, Frame.byte_setByte, if_neg (by decide),
      Frame.byte_setByte, if_pos (by decide)]
  have hown : k.controller.target 40 = k.controller.selfTarget := by
    rw [hself, Distributor.target, Frame.byte_setByte, if_pos (by decide)]
  have hroute : k.controller.Routable 40 (inv.arg 1).toNat := ⟨by decide, by decide, by decide⟩
  obtain ⟨d, hinvoke, htarget⟩ :=
    invoke_retarget (k := k) (by decide) rfl (by decide) rfl hown hroute .none
  have hstep : Step k (k.after handOver) := .event ⟨_, rfl, rfl⟩
  have hafter : k.after handOver = (k.invoke (.irqControl .none) inv).2 := rfl
  rw [hinvoke] at hafter
  have hd : (k.after handOver).controller = d := by rw [hafter]; rfl
  rw [← hd] at htarget
  have hchanged : (k.after handOver).controller.target 40 ≠ k.controller.target 40 := by
    rw [htarget, hown, hself]
    exact (by decide : Distributor.single 2 ≠ ⟨1⟩)
  have hboot : Space.boot 2 .none = .ok (⟨0, 2, .none⟩, k.space) := rfl
  obtain ⟨-, -, -, -, -, howner⟩ := frame_confined hboot (by decide) .refl
  obtain ⟨-, hbanked, -⟩ := frame_confined hboot (by decide) (.single hstep)
  exact ⟨k, k.after handOver, ⟨_, hboot⟩, by decide, rfl, hstep, htarget,
    howner rfl _ hstep 40 (by decide) hchanged, hbanked⟩

end Kernel

end InterruptCaps
