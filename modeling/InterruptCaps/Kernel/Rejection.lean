import InterruptCaps.Kernel.Notice
import InterruptCaps.Message.Invocation
import InterruptCaps.Message.Error

/-! Rejections: every reason for which the kernel itself turns an invocation down, each with the
    error that the caller gets and the warning that goes to the log. All are found before anything
    is changed. -/

namespace InterruptCaps

/-- Why an invocation is turned down. -/
inductive Rejection where
  | nullCapability
  | noInvocations (cap : Cap) (label : UInt64)
  | noSuchOperation (label : UInt64) (topology : Topology)
  | truncated (length extraCaps : Nat)
  | noTriggerSupport
  | irqRefused (raw : UInt64) (e : ControllerError)
  | privateOnSmp (irq : Nat)
  | noSuchCore (target : UInt64)
  | alreadyActive (id : IrqId)
  | noHandlerSlot (id : IrqId) (e : SlotError)
  | handlerSlotUnfit (id : IrqId) (e : SlotError)
  | noSuchSgi (sgi : UInt64)
  | noSuchSgiTarget (target : UInt64)
  | noSignalSlot (e : SlotError)
  | signalSlotUnfit (e : SlotError)
  | retargetTruncated
  | retargetPrivate (irq maxIrq : Nat)
  | retargetForeign (irq : Nat)
  | retargetUnreadable (irq : Nat) (e : ControllerError)
  | noSuchInterface (target : UInt64)
  deriving DecidableEq

namespace Rejection

/-- The error that the caller gets. -/
def error : Rejection → InvocationError
  | nullCapability => .invalidCapability 0
  | noInvocations .. | noSuchOperation .. => .illegalOperation
  | truncated .. => .truncatedMessage
  | noTriggerSupport => .illegalOperation
  | irqRefused _ e => .ofController e
  | privateOnSmp _ => .illegalOperation
  | noSuchCore _ => .invalidArgument 4
  | alreadyActive _ => .revokeFirst
  | noHandlerSlot _ e | handlerSlotUnfit _ e => .ofSlot e
  | noSuchSgi _ => .rangeError 0 (sgiCount - 1)
  | noSuchSgiTarget _ => .invalidArgument 1
  | noSignalSlot e | signalSlotUnfit e => .ofSlot e
  | retargetTruncated => .truncatedMessage
  | retargetPrivate _ maxIrq => .rangeError sharedBase maxIrq
  | retargetForeign _ | retargetUnreadable .. => .illegalOperation
  | noSuchInterface _ => .invalidArgument 1

/-- The part of the kernel that found it. -/
def component : Rejection → Component
  | nullCapability | noInvocations .. => .invocations
  | _ => .irqControl

/-- The warning in words. -/
def message : Rejection → String
  | nullCapability => "invoke: attempted to invoke a null capability"
  | noInvocations cap label => s!"invoke: {cap.name} has no invocations here (label {label})"
  | noSuchOperation label topology =>
    s!"IRQControl: illegal operation (label {label}, {topology.name} build)"
  | truncated length extraCaps =>
    s!"IRQControl: truncated message (length {length}, {extraCaps} extra caps)"
  | noTriggerSupport => "IRQControl: this platform does not support setting the IRQ trigger"
  | irqRefused raw e => s!"IRQControl: rejecting IRQ {raw}: {e.message}"
  | privateOnSmp irq =>
    s!"IRQControl: trying to get a handler on private IRQ {irq}: use IssueIrqHandlerTriggerCore"
  | noSuchCore target => s!"IRQControl: target core {target} is invalid"
  | alreadyActive id => s!"IRQControl: rejecting request for {id.text}: already active"
  | noHandlerSlot id e =>
    s!"IRQControl: target slot for new IRQHandler invalid ({id.text}): {e.message}"
  | handlerSlotUnfit id _ =>
    s!"IRQControl: target slot for new IRQHandler not empty ({id.text})"
  | noSuchSgi sgi => s!"IRQControl: IssueSgiSignal: invalid SGI {Text.hex sgi.toNat}"
  | noSuchSgiTarget target =>
    s!"IRQControl: IssueSgiSignal: invalid SGI target {Text.hex target.toNat}"
  | noSignalSlot e => s!"IRQControl: IssueSgiSignal: target slot invalid: {e.message}"
  | signalSlotUnfit _ => "IRQControl: IssueSgiSignal: target slot not empty"
  | retargetTruncated => "IRQControl: SetIrqTargetCore: truncated message"
  | retargetPrivate irq _ => s!"IRQControl: SetIrqTargetCore: IRQ {irq} is not shared"
  | retargetForeign irq => s!"IRQControl: SetIrqTargetCore: IRQ {irq} is not routed to us"
  | retargetUnreadable irq e =>
    s!"IRQControl: SetIrqTargetCore: cannot read target of IRQ {irq}: {e.message}"
  | noSuchInterface target =>
    s!"IRQControl: SetIrqTargetCore: target interface {target} is invalid"

/-- The record for the log. -/
def notice (r : Rejection) : Notice := ⟨.warn, r.component, r.message⟩

end Rejection

/-- How an invocation ends without success. -/
inductive Failure where
  /-- The kernel turns it down. -/
  | rejected (r : Rejection)
  /-- The interrupt controller refuses to be programmed. -/
  | controller (e : ControllerError)
  /-- The destination refuses the new capability. -/
  | store (e : SlotError)
  /-- A call to the controller does not come back; the invocation has no answer. -/
  | unmapped
  deriving DecidableEq

namespace Failure

def ofCall : CallFailure → Failure
  | .refused e => controller e
  | .unmapped => unmapped

/-- The error that the caller gets, if the invocation has an answer. -/
def error? : Failure → Option InvocationError
  | rejected r => some r.error
  | controller e => some (.ofController e)
  | store e => some (.ofSlot e)
  | unmapped => none

/-- What is logged: rejections only. -/
def notices : Failure → List Notice
  | rejected r => [r.notice]
  | _ => []

end Failure

/-- What has been logged with this result: one warning if an invocation was turned down, else
    nothing. -/
def noticesOf {α : Type} : Except Failure α → List Notice
  | .ok _ => []
  | .error failure => failure.notices

end InterruptCaps
