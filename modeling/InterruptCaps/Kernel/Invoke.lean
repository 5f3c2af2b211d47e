import InterruptCaps.Kernel.Request
import InterruptCaps.Kernel.State

/-! Performing an invocation. What the message asks for is checked first, then the registry and the
    destination; only then is the line programmed, the capability put into its slot, the line
    registered and the caller let go on, in this order. So a line is registered only if its handler
    is in a slot, and an invocation that is turned down has changed nothing. -/

namespace InterruptCaps.Kernel

variable {C S : Type} [Controller C] [SlotStore S]

/-- The empty slot at a destination; what is wrong with it becomes a rejection. -/
def emptySlot (space : S) (dest : Destination) (missing unfit : SlotError → Rejection) :
    Except Rejection SlotRef :=
  match SlotStore.lookup space dest.root dest.index dest.depth with
  | .error e => .error (missing e)
  | .ok ref =>
    match SlotStore.ensureEmpty space ref with
    | .error e => .error (unfit e)
    | .ok _ => .ok ref

/-- Where the new handler goes, if its line has none yet. -/
def handlerSlot (req : HandlerRequest) (k : Kernel C S) : Except Rejection SlotRef :=
  if k.registry.isActive req.id then .error (.alreadyActive req.id)
  else emptySlot k.space req.dest (.noHandlerSlot req.id) (.handlerSlotUnfit req.id)

/-- Programs the line of a handler, puts the handler into its slot and registers the line. -/
def grantHandler (req : HandlerRequest) (source dest : SlotRef) (k : Kernel C S) : Outcome C S :=
  match Controller.program req.id.irq req.trigger req.route k.controller with
  | (.error e, controller) => (.error (.ofCall e), { k with controller })
  | (.ok _, controller) =>
    match SlotStore.insert k.space (.irqHandler req.id req.trigger) source dest with
    | .error e => (.error (.store e), { k with controller })
    | .ok space =>
      succeed { k with controller, space, registry := (k.registry.activate req.id).2 }

/-- Issues a handler. -/
def issueHandler (req : Except Rejection HandlerRequest) (source : SlotRef) (k : Kernel C S) :
    Outcome C S :=
  match req with
  | .error r => k.reject r
  | .ok req =>
    match k.handlerSlot req with
    | .error r => k.reject r
    | .ok dest => k.grantHandler req source dest

/-- Issues a sender of a software-generated interrupt. -/
def issueSignal (req : Except Rejection SignalRequest) (source : SlotRef) (k : Kernel C S) :
    Outcome C S :=
  match req with
  | .error r => k.reject r
  | .ok req =>
    match emptySlot k.space req.dest .noSignalSlot .signalSlotUnfit with
    | .error r => k.reject r
    | .ok dest =>
      match SlotStore.insert k.space (.sgiSignal req.sgi req.target) source dest with
      | .error e => (.error (.store e), k)
      | .ok space => succeed { k with space }

/-- Hands a shared interrupt to the interface in the second argument. Only the instance that owns
    the interrupt may do so; other instances can come in between the check and the write. -/
def retarget (inv : Invocation) (k : Kernel C S) : Outcome C S :=
  match inv.retargetIrq k.platform with
  | .error r => k.reject r
  | .ok irq =>
    match Controller.owns irq k.controller with
    | (.error (.refused e), controller) => reject { k with controller } (.retargetUnreadable irq e)
    | (.error .unmapped, controller) => (.error .unmapped, { k with controller })
    | (.ok false, controller) => reject { k with controller } (.retargetForeign irq)
    | (.ok true, controller) =>
      if k.platform.hasInterface (inv.arg 1) then
        match Controller.setTarget irq (inv.arg 1).toNat controller with
        | (.error e, controller) => (.error (.ofCall e), { k with controller })
        | (.ok _, controller) => succeed { k with controller }
      else reject { k with controller } (.noSuchInterface (inv.arg 1))

/-- Performs an operation of the authority over interrupts. -/
def control (inv : Invocation) (k : Kernel C S) : Outcome C S :=
  match (Label.ofWord? inv.label).filter k.config.enables with
  | some .issueHandler =>
    k.issueHandler (HandlerRequest.plain k.config k.platform k.caller.core inv) inv.source
  | some .issueTriggerHandler =>
    k.issueHandler (HandlerRequest.withTrigger k.config k.platform inv) inv.source
  | some .issueCoreHandler =>
    k.issueHandler (HandlerRequest.forCore k.config k.platform inv) inv.source
  | some .issueSgiSignal =>
    k.issueSignal (SignalRequest.ofInvocation k.platform inv) inv.source
  | some .setTargetCore => k.retarget inv
  | some .generateSgi | none => k.reject (.noSuchOperation inv.label k.config.topology)

/-- Performs an invocation of `cap`. -/
def invoke (cap : Cap) (inv : Invocation) (k : Kernel C S) : Outcome C S :=
  match cap with
  | .irqControl _ => k.control inv
  | .sgiSignal sgi target =>
    succeed { k with controller := Controller.sendSgi sgi target k.controller }
  | .irqHandler .. | .cnode _ => k.reject (.noInvocations cap inv.label)
  | .null => k.reject .nullCapability

/-- The raw value of a result: zero or more for success, a negative code for an error. -/
def returnValue : Except InvocationError Int → Int
  | .ok value => value
  | .error e => e.code.toInt

/-- Performs an invocation and gives the raw return value and the caller's message buffer after it,
    with the detail words of an error at its front. There is no answer if a call to the controller
    does not come back. -/
def handle (cap : Cap) (inv : Invocation) (reply : List UInt64) (k : Kernel C S) :
    Option (Int × List UInt64) × Kernel C S :=
  let (result, k) := k.invoke cap inv
  match result with
  | .ok value => (some (returnValue (.ok value), reply), k)
  | .error failure =>
    (failure.error?.map fun e => (returnValue (.error e), e.writeDetail reply), k)

end InterruptCaps.Kernel
