import InterruptCaps.Gic.Controller

/-! Which calls are made to a controller. A recorder stands in front of any controller, hands every
    call on to it and writes down those that change hardware, with their results. Whoever uses the
    controller cannot tell: forgetting the calls is a simulation, it commutes with each call and
    so with all that is made of calls. -/

namespace InterruptCaps

/-- A map of controllers that commutes with their description and with every call. -/
structure Simulation {D C : Type} [Controller D] [Controller C] (f : D → C) : Prop where
  platform : ∀ d, Controller.platform (f d) = Controller.platform d
  setTrigger : ∀ irq t d,
    Controller.setTrigger irq t (f d) = (Controller.setTrigger irq t d).map id f
  setTarget : ∀ irq core d,
    Controller.setTarget irq core (f d) = (Controller.setTarget irq core d).map id f
  sendSgi : ∀ sgi target d,
    Controller.sendSgi sgi target (f d) = f (Controller.sendSgi sgi target d)
  getTarget : ∀ irq d, Controller.getTarget irq (f d) = (Controller.getTarget irq d).map id f
  selfTarget : ∀ d, Controller.selfTarget (f d) = (Controller.selfTarget d).map id f

namespace Simulation

variable {D C : Type} [Controller D] [Controller C] {f : D → C}

theorem owns (hf : Simulation f) (irq : Nat) (d : D) :
    Controller.owns irq (f d) = (Controller.owns irq d).map id f := by
  rw [Controller.owns, Controller.owns, hf.selfTarget]
  obtain ⟨own, d₁⟩ := Controller.selfTarget d
  cases own with
  | error e => rfl
  | ok own =>
    simp only [Prod.map, id, hf.getTarget]
    obtain ⟨current, d₂⟩ := Controller.getTarget irq d₁
    cases current <;> rfl

theorem program (hf : Simulation f) (irq : Nat) (trigger : Option Trigger) (route : Option Nat)
    (d : D) : Controller.program irq trigger route (f d)
      = (Controller.program irq trigger route d).map id f := by
  have hset : trigger.elim (.ok (), f d) (Controller.setTrigger irq · (f d))
      = (trigger.elim (.ok (), d) (Controller.setTrigger irq · d)).map id f := by
    cases trigger with
    | none => rfl
    | some t => exact hf.setTrigger irq t d
  rw [Controller.program, Controller.program, hset]
  cases trigger.elim (.ok (), d) (Controller.setTrigger irq · d) with | mk result d₁ =>
  cases result with
  | error e => rfl
  | ok _ =>
    cases route with
    | none => rfl
    | some core => exact hf.setTarget irq core d₁

end Simulation

/-- A call that changes hardware, and how it ended. -/
inductive Call where
  | setTrigger (irq : Nat) (t : Trigger) (result : Except CallFailure Unit)
  | setTarget (irq core : Nat) (result : Except CallFailure Unit)
  | sendSgi (sgi : Nat) (target : UInt64)

namespace Call

/-- Raising a software-generated interrupt cannot fail. -/
def Succeeded : Call → Prop
  | setTrigger _ _ result | setTarget _ _ result => result = .ok ()
  | sendSgi .. => True

/-- The interrupt whose line is programmed, if one is. -/
def line? : Call → Option Nat
  | setTrigger irq .. | setTarget irq .. => some irq
  | sendSgi .. => none

end Call

/-- A controller and the calls that were made to it so far. -/
structure Recorder (C : Type) where
  controller : C
  calls : List Call

namespace Recorder

variable {C : Type} [Controller C]

instance : Controller (Recorder C) where
  platform r := Controller.platform r.controller
  setTrigger irq t r :=
    let (result, controller) := Controller.setTrigger irq t r.controller
    (result, ⟨controller, r.calls ++ [.setTrigger irq t result]⟩)
  setTarget irq core r :=
    let (result, controller) := Controller.setTarget irq core r.controller
    (result, ⟨controller, r.calls ++ [.setTarget irq core result]⟩)
  sendSgi sgi target r :=
    ⟨Controller.sendSgi sgi target r.controller, r.calls ++ [.sendSgi sgi target]⟩
  getTarget irq r := (Controller.getTarget irq r.controller).map id ({ r with controller := · })
  selfTarget r := (Controller.selfTarget r.controller).map id ({ r with controller := · })

/-- Forgetting the calls is a simulation. -/
theorem simulation : Simulation (controller : Recorder C → C) where
  platform _ := rfl
  setTrigger _ _ _ := rfl
  setTarget _ _ _ := rfl
  sendSgi _ _ _ := rfl
  getTarget _ _ := rfl
  selfTarget _ := rfl

/-- A controller that nobody has called yet. -/
def fresh (c : C) : Recorder C := ⟨c, []⟩

variable {irq core : Nat} {r r' : Recorder C}

theorem calls_setTrigger {t : Trigger} {result : Except CallFailure Unit}
    (h : Controller.setTrigger irq t r = (result, r')) :
    r'.calls = r.calls ++ [.setTrigger irq t result] := by
  cases h
  rfl

theorem calls_setTarget {result : Except CallFailure Unit}
    (h : Controller.setTarget irq core r = (result, r')) :
    r'.calls = r.calls ++ [.setTarget irq core result] := by
  cases h
  rfl

theorem calls_getTarget {mask : Except CallFailure TargetMask}
    (h : Controller.getTarget irq r = (mask, r')) : r'.calls = r.calls := by
  cases h
  rfl

theorem calls_selfTarget {mask : Except CallFailure TargetMask}
    (h : Controller.selfTarget r = (mask, r')) : r'.calls = r.calls := by
  cases h
  rfl

/-- Asking who owns an interrupt changes no hardware. -/
theorem calls_owns {owned : Except CallFailure Bool}
    (h : Controller.owns irq r = (owned, r')) : r'.calls = r.calls := by
  rw [Controller.owns] at h
  split at h <;> rename_i hself
  · cases h
    exact calls_selfTarget hself
  · split at h <;> rename_i hget <;> cases h
    all_goals exact (calls_getTarget hget).trans (calls_selfTarget hself)

/-- All calls of programming are for its line, and if it fails although a call succeeded, then the
    target was refused. -/
theorem calls_program {trigger : Option Trigger} {route : Option Nat} {c : C}
    {result : Except CallFailure Unit}
    (h : Controller.program irq trigger route (fresh c) = (result, r)) {call : Call}
    (made : call ∈ r.calls) :
    call.line? = some irq ∧ ∀ e, result = .error e → call.Succeeded →
      ∃ core, .setTarget irq core (.error e) ∈ r.calls := by
  rw [Controller.program] at h
  split at h
  · rename_i e r₁ hset
    cases h
    cases trigger with
    | none => cases hset
    | some t =>
      rw [calls_setTrigger hset] at made
      obtain rfl := List.mem_singleton.1 made
      exact ⟨rfl, fun _ _ succeeded => by cases succeeded⟩
  · rename_i r₁ hset
    have first : ∀ call ∈ r₁.calls, call.line? = some irq := by
      cases trigger with
      | none =>
        cases hset
        exact fun _ hcall => by cases hcall
      | some t =>
        rw [calls_setTrigger hset]
        rintro call hcall
        obtain rfl := List.mem_singleton.1 hcall
        rfl
    cases route with
    | none =>
      cases h
      exact ⟨first call made, fun e he => by cases he⟩
    | some core =>
      have hcalls := calls_setTarget h
      refine ⟨?_, fun e he _ => ⟨core, ?_⟩⟩
      · rw [hcalls] at made
        rcases List.mem_append.1 made with hcall | hcall
        · exact first call hcall
        · obtain rfl := List.mem_singleton.1 hcall
          rfl
      · rw [hcalls, he]
        exact List.mem_append_right _ (List.mem_singleton_self _)

end Recorder

end InterruptCaps
