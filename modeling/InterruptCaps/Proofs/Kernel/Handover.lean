import InterruptCaps.Proofs.Gic.Recorder
import InterruptCaps.Proofs.Kernel.Effect

/-! Handing an interrupt over, one call of the controller after another. Between two calls other
    instances may come in, so each place between calls is a state of its own.

        asked ── own mask ──▶ named ── target ──▶ owned ── write ──▶ ended
          │                     │ other target      │ no such interface
          └──── call failed ────┴─────────▶ ended ◀─┘

    Main statement: without interruption, these calls are the invocation. -/

namespace InterruptCaps

/-- Where the hand-over of an interrupt stands. -/
inductive Handover where
  /-- The own mask is read next. -/
  | asked (irq : Nat) (target : UInt64)
  /-- The own mask is known, and the target of the interrupt is read next. -/
  | named (irq : Nat) (target : UInt64) (own : TargetMask)
  /-- The two are the same: the ownership check is passed, and the new target is written next. -/
  | owned (irq : Nat) (target : UInt64)
  | ended (result : Except Failure Int)
  deriving DecidableEq

namespace Handover

/-- What becomes of a hand-over if a mask cannot be read. -/
def unread (irq : Nat) : CallFailure → Handover
  | .refused e => ended (.error (.rejected (.retargetUnreadable irq e)))
  | .unmapped => ended (.error .unmapped)

/-- The hand-over that a message asks for, before the first call. -/
def ofInvocation (p : Platform) (inv : Invocation) : Handover :=
  match inv.retargetIrq p with
  | .error r => ended (.error (.rejected r))
  | .ok irq => asked irq (inv.arg 1)

/-- Makes the next call. -/
def call {C : Type} [Controller C] (p : Platform) : Handover → C → Handover × C
  | asked irq target, c =>
    match Controller.selfTarget c with
    | (.error e, c) => (unread irq e, c)
    | (.ok own, c) => (named irq target own, c)
  | named irq target own, c =>
    match Controller.getTarget irq c with
    | (.error e, c) => (unread irq e, c)
    | (.ok current, c) =>
      (if own == current then owned irq target
        else ended (.error (.rejected (.retargetForeign irq))), c)
  | owned irq target, c =>
    if p.hasInterface target then
      match Controller.setTarget irq target.toNat c with
      | (.error e, c) => (ended (.error (.ofCall e)), c)
      | (.ok _, c) => (ended (.ok 0), c)
    else (ended (.error (.rejected (.noSuchInterface target))), c)
  | ended result, c => (ended result, c)

/-- Makes all three calls, with nobody in between. -/
def uninterrupted {C : Type} [Controller C] (p : Platform) (h : Handover) (c : C) : Handover × C :=
  let (h, c) := h.call p c
  let (h, c) := h.call p c
  h.call p c

/-- The calls cannot tell controllers apart that simulate each other. -/
theorem call_map {D C : Type} [Controller D] [Controller C] {f : D → C} (hf : Simulation f)
    (p : Platform) (h : Handover) (d : D) : h.call p (f d) = (h.call p d).map id f := by
  cases h with
  | asked irq target =>
    simp only [call, hf.selfTarget]
    cases Controller.selfTarget d with | mk own d =>
    cases own <;> rfl
  | named irq target own =>
    simp only [call, hf.getTarget]
    cases Controller.getTarget irq d with | mk current d =>
    cases current <;> rfl
  | owned irq target =>
    simp only [call, hf.setTarget]
    split
    · cases Controller.setTarget irq target.toNat d with | mk result d =>
      cases result <;> rfl
    · rfl
  | ended result => rfl

/-- A call is made as if nobody wrote it down. -/
theorem call_eq_recorded {C : Type} [Controller C] (p : Platform) (h : Handover) (c : C) :
    h.call p c = (h.call p (Recorder.fresh c)).map id Recorder.controller :=
  call_map Recorder.simulation p h (Recorder.fresh c)

/-- Only a hand-over that has passed its check changes hardware, and then it writes the target. -/
theorem calls_call {C : Type} [Controller C] {p : Platform} {h : Handover} {c : C} {call : Call}
    (made : call ∈ (h.call p (Recorder.fresh c)).2.calls) :
    ∃ irq target result, h = owned irq target ∧ call = .setTarget irq target.toNat result := by
  cases h with
  | asked irq target =>
    simp only [Handover.call] at made
    split at made <;> rename_i hself <;> rw [Recorder.calls_selfTarget hself] at made <;> cases made
  | named irq target own =>
    simp only [Handover.call] at made
    split at made <;> rename_i hget <;> rw [Recorder.calls_getTarget hget] at made <;> cases made
  | owned irq target =>
    simp only [Handover.call] at made
    split at made
    · cases hset : Controller.setTarget irq target.toNat (Recorder.fresh c) with | mk result r =>
      have hcalls : r.calls = [.setTarget irq target.toNat result] := Recorder.calls_setTarget hset
      refine ⟨irq, target, result, rfl, ?_⟩
      rw [hset] at made
      cases result <;> simp only [hcalls] at made <;> exact List.mem_singleton.1 made
    · cases made
  | ended result => cases made

end Handover

namespace Kernel

variable {C S : Type}

/-- How an invocation ends whose hand-over has ended: the controller is what the calls made of it,
    and the caller goes on after a success. -/
def handedOver (k : Kernel C S) (result : Except Failure Int) (c : C) : Outcome C S :=
  match result with
  | .ok _ => succeed { k with controller := c }
  | .error f => (.error f, { k with controller := c })

theorem retarget_eq_uninterrupted [Controller C] (k : Kernel C S) (inv : Invocation) :
    ∃ result c, (Handover.ofInvocation k.platform inv).uninterrupted k.platform k.controller
        = (.ended result, c) ∧ k.retarget inv = k.handedOver result c := by
  rw [Handover.uninterrupted, Handover.ofInvocation, retarget]
  cases inv.retargetIrq k.platform with
  | error r => exact ⟨_, _, rfl, rfl⟩
  | ok irq =>
    simp only [Handover.call, Controller.owns]
    cases Controller.selfTarget k.controller with | mk own c₁ =>
    cases own with
    | error e => cases e <;> exact ⟨_, _, rfl, rfl⟩
    | ok own =>
      simp only
      cases Controller.getTarget irq c₁ with | mk current c₂ =>
      cases current with
      | error e => cases e <;> exact ⟨_, _, rfl, rfl⟩
      | ok current =>
        simp only
        cases own == current with
        | false => exact ⟨_, _, rfl, rfl⟩
        | true =>
          simp only [if_true]
          split
          · cases Controller.setTarget irq (inv.arg 1).toNat c₂ with | mk result c₃ =>
            cases result <;> exact ⟨_, _, rfl, rfl⟩
          · exact ⟨_, _, rfl, rfl⟩

/-- In a multikernel, an invocation to hand an interrupt over is the calls of its hand-over. -/
theorem invoke_eq_uninterrupted [Controller C] [SlotStore S] {k : Kernel C S} {inv : Invocation}
    (hmulti : k.config.topology = .multikernel) (hlabel : inv.label = Label.setTargetCore.toWord)
    (badge : Badge) :
    ∃ result c, (Handover.ofInvocation k.platform inv).uninterrupted k.platform k.controller
        = (.ended result, c) ∧ k.invoke (.irqControl badge) inv = k.handedOver result c := by
  rw [invoke, control_eq_retarget hmulti hlabel]
  exact retarget_eq_uninterrupted k inv

end Kernel

end InterruptCaps
