import InterruptCaps.Gic.Platform
import InterruptCaps.Gic.TargetMask

/-! What the kernel asks of an interrupt controller. A controller is a state of some type; every
    call gives a result and the state after it, also a call that only reads. Each call but the
    sending of a software-generated interrupt may fail, for whatever reason and at any time.

    An instance of the kernel *owns* a shared interrupt while the controller sends it exactly where
    it sends the instance's own interrupts. -/

namespace InterruptCaps

/-- An interrupt controller with states in `C`. -/
class Controller (C : Type) where
  /-- What the controller is like. -/
  platform : C → Platform
  /-- Makes an interrupt level or edge sensitive. A controller that cannot says so. -/
  setTrigger : Nat → Trigger → C → Except CallFailure Unit × C :=
    fun _ _ c => (.error (.refused .triggerUnsupported), c)
  /-- Sends a shared interrupt to one CPU interface from now on. -/
  setTarget : Nat → Nat → C → Except CallFailure Unit × C
  /-- Raises a software-generated interrupt at one CPU interface. -/
  sendSgi : Nat → UInt64 → C → C
  /-- Where an interrupt is sent now. -/
  getTarget : Nat → C → Except CallFailure TargetMask × C
  /-- The CPU interface that asks, as a mask. -/
  selfTarget : C → Except CallFailure TargetMask × C

namespace Controller

variable {C : Type} [Controller C]

/-- Whether `irq` is sent exactly where the asking instance receives its own interrupts. The own
    mask is read first. -/
def owns (irq : Nat) (c : C) : Except CallFailure Bool × C :=
  match selfTarget c with
  | (.error e, c) => (.error e, c)
  | (.ok own, c) =>
    match getTarget irq c with
    | (.error e, c) => (.error e, c)
    | (.ok current, c) => (.ok (own == current), c)

/-- Programs a line for a new handler: its trigger, where one is asked for, then its target. The
    first call that fails ends it. -/
def program (irq : Nat) (trigger : Option Trigger) (route : Option Nat) (c : C) :
    Except CallFailure Unit × C :=
  match trigger.elim (.ok (), c) (setTrigger irq · c) with
  | (.error e, c) => (.error e, c)
  | (.ok _, c) => route.elim (.ok (), c) (setTarget irq · c)

end Controller

end InterruptCaps
