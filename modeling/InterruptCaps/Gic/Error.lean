/-! Why an interrupt controller refuses a call, and why a call may not come back at all. -/

namespace InterruptCaps

/-- What an interrupt controller answers to a call that it refuses. -/
inductive ControllerError where
  | irqOutOfRange (least greatest : Nat)
  | triggerUnsupported
  | notShared (irq : Nat)
  | targetOutOfRange (target : Nat)
  deriving DecidableEq

namespace ControllerError

def name : ControllerError → String
  | irqOutOfRange .. => "IrqOutOfRange"
  | triggerUnsupported => "TriggerUnsupported"
  | notShared _ => "NotShared"
  | targetOutOfRange _ => "TargetOutOfRange"

/-- What is wrong, without the numbers. -/
def reason : ControllerError → String
  | irqOutOfRange .. => "interrupt number out of range"
  | triggerUnsupported => "trigger configuration not supported"
  | notShared _ => "interrupt is not a shared peripheral interrupt"
  | targetOutOfRange _ => "no such CPU interface"

def message (e : ControllerError) : String :=
  match e with
  | irqOutOfRange least greatest => s!"{e.reason} ({least}..={greatest})"
  | triggerUnsupported => e.reason
  | notShared irq => s!"{e.reason} (IRQ {irq})"
  | targetOutOfRange target => s!"{e.reason} ({target})"

end ControllerError

/-- How a call to the controller ends without a result. -/
inductive CallFailure where
  /-- The controller refuses the call. -/
  | refused (e : ControllerError)
  /-- The interrupt has no register: its number passes the limit that the platform states, but not
      the register array. -/
  | unmapped
  deriving DecidableEq

end InterruptCaps
