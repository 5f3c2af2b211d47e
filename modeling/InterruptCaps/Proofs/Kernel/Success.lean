import InterruptCaps.Proofs.Gic.Rewiring
import InterruptCaps.Proofs.Kernel.Checks

/-! What an invocation that succeeds has done, and that it has done nothing else. There are four
    ways to succeed; each changes what the table says, and of slots, lines and frame all other parts
    are as before.

    | way          | slot       | line       | frame                             |
    | ------------ | ---------- | ---------- | --------------------------------- |
    | `issued`     | handler    | registered | edge bit, target byte, as asked   |
    | `signal`     | sender     |            |                                   |
    | `retargeted` |            |            | target byte                       |
    | `sent`       |            |            | word that raises it               | -/

namespace InterruptCaps

/-- One slot, empty before, holds `slot`; no other slot changes. -/
structure Space.Filled (s s' : Space) (dest : SlotRef) (slot : Slot) : Prop where
  empty : ∃ old, s.slot? dest = some old ∧ old.cap = .null
  filled : s'.slot? dest = some slot
  others : ∀ ref, ref ≠ dest → s'.slot? ref = s.slot? ref

theorem Space.filled_of_insert {s s' : Space} {cap : Cap} {source dest : SlotRef}
    (h : s.insert cap source dest = .ok s') : s.Filled s' dest ⟨cap, some source⟩ := by
  obtain ⟨-, hempty, rfl⟩ := insert_eq_ok.1 h
  obtain ⟨old, hold, hnull⟩ := ensureEmpty_eq_ok.1 hempty
  refine ⟨⟨old, hold, hnull⟩, slot?_put_self (Option.isSome_of_eq_some hold) _, fun ref href => ?_⟩
  exact slot?_put_of_ne s href.symm _

/-- The line of `id`, free before, is registered; no other line changes. -/
structure Registry.Entered (r r' : Registry) (id : IrqId) : Prop where
  line : ∃ n, id.line? = some n ∧ r.holds n = false ∧ r'.holds n = true
    ∧ ∀ m, m ≠ n → r'.holds m = r.holds m
  count : r'.count = r.count + 1

theorem Registry.activate_entered {r : Registry} {id : IrqId} {n : Nat} (hn : id.line? = some n)
    (h : r.isActive id = false) : r.Entered (r.activate id).2 id := by
  have hfree : r.holds n = false := by rwa [isActive, hn, Option.any_some] at h
  refine ⟨⟨n, hn, hfree, ?_, fun m hm => ?_⟩, ?_⟩
  · rw [holds_activate hn, decide_eq_true rfl, Bool.true_or]
  · rw [holds_activate hn, decide_eq_false hm.symm, Bool.false_or]
  · rw [activate, hn]
    simp [hfree]

theorem Invocation.destRoot_eq_ok {inv : Invocation} {least : Nat} {root : Cap}
    (h : inv.destRoot least = .ok root) : (inv.extraCap? 0).getD .null = root := by
  rw [destRoot_eq] at h
  split at h
  · exact Except.ok.inj h
  · cases h

namespace Kernel

/-- Whoever asks for a handler asks in one of the three forms. -/
theorem Asks.form {C S : Type} [Controller C] {k : Kernel C S} {inv : Invocation}
    {req : HandlerRequest} (h : k.Asks inv req) :
    ∃ form : HandlerForm, inv.label = form.label.toWord
      ∧ req = form.request k.caller.core inv := by
  cases h with
  | plain label checked =>
    obtain ⟨root, hroot, -, -, rfl⟩ := HandlerRequest.plain_eq_ok.1 checked
    refine ⟨.plain, Label.ofWord?_eq_some.1 label, ?_⟩
    rw [HandlerForm.request, Invocation.destRoot_eq_ok hroot]
  | withTrigger label checked =>
    obtain ⟨root, hroot, -, -, -, rfl⟩ := HandlerRequest.withTrigger_eq_ok.1 checked
    refine ⟨.withTrigger, Label.ofWord?_eq_some.1 label, ?_⟩
    rw [HandlerForm.request, Invocation.destRoot_eq_ok hroot]
    rfl
  | forCore label smp checked =>
    obtain ⟨root, hroot, -, -, -, -, rfl⟩ := HandlerRequest.forCore_eq_ok.1 checked
    refine ⟨.forCore, Label.ofWord?_eq_some.1 label, ?_⟩
    rw [HandlerForm.request, Invocation.destRoot_eq_ok hroot]

/-- The ways for an invocation to succeed, each with all that it changes. -/
inductive Done (k : Kernel Distributor Space) (inv : Invocation) :
    Cap → Kernel Distributor Space → Prop where
  | issued {badge : Badge} {form : HandlerForm} {req : HandlerRequest} {dest : SlotRef}
      {k' : Kernel Distributor Space} (label : inv.label = form.label.toWord)
      (request : req = form.request k.caller.core inv)
      (lookup : k.space.lookup req.dest.root req.dest.index req.dest.depth = .ok dest)
      (space : k.space.Filled k'.space dest ⟨.irqHandler req.id req.trigger, some inv.source⟩)
      (registry : k.registry.Entered k'.registry req.id)
      (controller : k.controller.Rewired k'.controller req.id.irq req.trigger req.route) :
      Done k inv (.irqControl badge) k'
  | signal {badge : Badge} {dest : SlotRef} {k' : Kernel Distributor Space}
      (label : inv.label = Label.issueSgiSignal.toWord)
      (lookup : k.space.lookup ((inv.extraCap? 0).getD .null) (inv.arg 2) (inv.arg 3) = .ok dest)
      (space : k.space.Filled k'.space dest
        ⟨.sgiSignal (inv.arg 0).toNat (inv.arg 1), some inv.source⟩)
      (registry : k'.registry = k.registry) (controller : k'.controller = k.controller) :
      Done k inv (.irqControl badge) k'
  | retargeted {badge : Badge} {k' : Kernel Distributor Space}
      (label : inv.label = Label.setTargetCore.toWord)
      (shared : sharedBase ≤ (inv.arg 0).toNat)
      (space : k'.space = k.space) (registry : k'.registry = k.registry)
      (controller : k.controller.Rewired k'.controller (inv.arg 0).toNat none
        (some (inv.arg 1).toNat)) :
      Done k inv (.irqControl badge) k'
  | sent {sgi : Nat} {target : UInt64} {k' : Kernel Distributor Space}
      (space : k'.space = k.space) (registry : k'.registry = k.registry)
      (controller : k.controller.Raised k'.controller sgi target) :
      Done k inv (.sgiSignal sgi target) k'

variable {k : Kernel Distributor Space} {cap : Cap} {inv : Invocation}

/-- An invocation that succeeds returns zero, lets its caller go on, and has done what one of the
    four ways says and nothing else. -/
theorem invoke_ok_done (hm : k.platform.maxIrq ≤ maxLine) (hcaller : k.caller.core < maxNodes)
    {v : Int} (h : (k.invoke cap inv).1 = .ok v) :
    v = 0 ∧ (k.invoke cap inv).2.caller = ⟨k.caller.core, .restart⟩
      ∧ (k.invoke cap inv).2.config = k.config ∧ k.Done inv cap (k.invoke cap inv).2 := by
  have effect := invoke_effect k cap inv
  generalize k.invoke cap inv = out at effect h
  cases effect with
  | rejected | unprogrammed | unstored | signalUnstored | unowned | unrouted => cases h
  | issued asks slot program insert =>
    cases h
    refine ⟨rfl, rfl, rfl, ?_⟩
    obtain ⟨form, hlabel, hreq⟩ := asks.form
    obtain ⟨hinactive, hlookup, -⟩ := handlerSlot_eq_ok.1 slot
    obtain ⟨n, hn⟩ := asks.line hm hcaller
    exact .issued hlabel hreq hlookup (Space.filled_of_insert insert)
      (Registry.activate_entered hn hinactive) (Distributor.program_rewired program)
  | signalIssued single asks slot insert label =>
    cases h
    refine ⟨rfl, rfl, rfl, ?_⟩
    obtain ⟨root, hroot, -, -, rfl⟩ := SignalRequest.ofInvocation_eq_ok.1 asks
    obtain ⟨hlookup, -⟩ := emptySlot_eq_ok.1 slot
    rw [← Invocation.destRoot_eq_ok hroot] at hlookup
    exact .signal (Label.ofWord?_eq_some.1 label) hlookup (Space.filled_of_insert insert) rfl rfl
  | retargeted multikernel asks owns interface setTarget label =>
    cases h
    refine ⟨rfl, rfl, rfl, ?_⟩
    obtain rfl := Distributor.owns_state owns
    obtain ⟨-, -, hshared, rfl⟩ := Invocation.retargetIrq_eq_ok.1 asks
    exact .retargeted (Label.ofWord?_eq_some.1 label) hshared rfl rfl
      (Distributor.setTarget_rewired setTarget)
  | sent sgi target =>
    cases h
    have raised : k.controller.Raised (Controller.sendSgi sgi target k.controller) sgi target :=
      k.controller.sendSgi_raised sgi target
    -- nothing below looks into the frame that was written
    generalize Controller.sendSgi sgi target k.controller = d at raised ⊢
    exact ⟨rfl, rfl, rfl, .sent rfl rfl raised⟩

/-- Core 0 asks for interrupt 40 on core 1: the handler is issued, and that is all that happens. -/
theorem handler_for_core_done :
    ∃ (k : Kernel Distributor Space) (inv : Invocation),
      k.platform.maxIrq ≤ maxLine ∧ k.caller.core < maxNodes
        ∧ inv.label = HandlerForm.forCore.label.toWord
        ∧ (k.invoke (.irqControl .none) inv).1 = .ok 0
        ∧ (k.invoke (.irqControl .none) inv).2.caller = ⟨0, .restart⟩
        ∧ k.Done inv (.irqControl .none) (k.invoke (.irqControl .none) inv).2 := by
  let root : CNode := ⟨0, 2, .none⟩
  let k : Kernel Distributor Space := ⟨⟨.smp, 2, by decide, by decide, fun _ => rfl⟩,
    ⟨.zero, .full⟩, .empty, ⟨#[#[⟨.cnode root, none⟩, .empty, .empty, ⟨.irqControl .none, none⟩]]⟩,
    .runningOn 0⟩
  let inv : Invocation := ⟨.ofCounts 3 1 5, [40, 1, 1, 2, 1], [.cnode root], ⟨0, 3⟩⟩
  let req : HandlerRequest := ⟨⟨40, 1⟩, some .edge, some 1, ⟨.cnode root, 1, 2⟩⟩
  have hlookup : k.space.lookup (.cnode root) 1 2 = .ok ⟨0, 1⟩ := by cbv
  have hslot : k.handlerSlot req = .ok ⟨0, 1⟩ :=
    handlerSlot_eq_ok.2 ⟨Registry.isActive_empty req.id, hlookup, rfl⟩
  have asks : k.Asks inv req := .forCore (by decide) rfl rfl
  obtain ⟨d, hd, -, -⟩ := asks.invoke_succeeds (by decide) (by decide) hslot .none
  have hok : (k.invoke (.irqControl .none) inv).1 = .ok 0 := congrArg (·.1) hd
  obtain ⟨-, hcaller, -, hdone⟩ := invoke_ok_done (by decide) (by decide) hok
  exact ⟨k, inv, by decide, by decide, by decide, hok, hcaller, hdone⟩

end Kernel

end InterruptCaps
