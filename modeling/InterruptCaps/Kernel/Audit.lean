import InterruptCaps.Gic.Distributor
import InterruptCaps.Kernel.Invoke

/-! Invocations with the records that they write to the log on the way. A check that turns an
    invocation down writes its warning where it stands, and the error goes up without another word.
    What the controller refuses and what the store refuses goes up in silence. Traces tell of
    progress. The error that goes up does not show whether it has been logged. -/

namespace InterruptCaps

/-- What a controller has done on request. -/
inductive Deed where
  | triggerSet (irq : Nat) (trigger : Trigger)
  | targetSet (irq core : Nat)
  | signalSent (sgi : Nat) (target : UInt64)

/-- A controller that tells the log of what it has done. -/
class Narrator (C : Type) where
  notices : Deed → List Notice

/-- What the driver of a distributor tells. -/
def Distributor.trace : Deed → String
  | .triggerSet irq trigger => s!"GICv2: IRQ {irq} trigger {trigger.name}"
  | .targetSet irq core =>
    let mask := (TargetMask.single? core).getD .empty
    s!"GICv2: IRQ {irq} routed to {mask.text}"
  | .signalSent sgi target => s!"GICv2: SGI {sgi} -> interface {target}"

instance : Narrator Distributor where
  notices deed := [⟨.trace, .distributor, Distributor.trace deed⟩]

/-- Turns down whatever `p` holds of. -/
def Rejection.when (r : Rejection) (p : Prop) [Decidable p] : Except Rejection Unit :=
  if p then .error r else .ok ()

theorem Rejection.when_bind {α : Type} (r : Rejection) (p : Prop) [Decidable p]
    (f : Unit → Except Rejection α) : r.when p >>= f = if p then .error r else f () := by
  rw [when]
  split <;> rfl

/-- The records that are more severe than traces. -/
def severe (records : List Notice) : List Notice :=
  records.filter fun n => n.level.rank < Log.Level.trace.rank

/-- A kernel, and what has been written to the log. -/
structure Logged (C S : Type) where
  kernel : Kernel C S
  log : List Notice

/-- What is done to a kernel and its log. It ends with a value, with the error that the caller gets,
    or, where there is none, in a call that does not come back. -/
abbrev Act (C S : Type) : Type → Type := EStateM (Option InvocationError) (Logged C S)

namespace Act

variable {C S α : Type}

def kernel : Act C S (Kernel C S) := return (← get).kernel

def modifyKernel (f : Kernel C S → Kernel C S) : Act C S Unit :=
  modify fun l => { l with kernel := f l.kernel }

def write (records : List Notice) : Act C S Unit :=
  modify fun l => { l with log := l.log ++ records }

def trace (component : Component) (text : String) : Act C S Unit :=
  write [⟨.trace, component, text⟩]

/-- Ends with an error, and the log does not say why. -/
def fail (e : InvocationError) : Act C S α := throw (some e)

/-- Ends with an error, and a warning says why. -/
def refuse (r : Rejection) : Act C S α := do
  write [r.notice]
  fail r.error

def check : Except Rejection α → Act C S α
  | .ok a => return a
  | .error r => refuse r

/-- Lets the caller go on. -/
def wake : Act C S Unit := modifyKernel fun k => { k with caller := k.caller.markRunnable }

section Controllers

variable [Controller C] [Narrator C]

/-- Calls the controller. What to do about a refusal is left to whoever asks. -/
def call (f : C → Except CallFailure α × C) : Act C S (Except ControllerError α) := do
  let k ← kernel
  let (result, controller) := f k.controller
  modifyKernel fun k => { k with controller }
  match result with
  | .ok a => return .ok a
  | .error (.refused e) => return .error e
  | .error .unmapped => throw none

/-- Calls the controller to do something. A refusal goes up as it is. -/
def command (f : C → Except CallFailure Unit × C) (deed : Deed) : Act C S Unit := do
  match ← call f with
  | .ok _ => write (Narrator.notices C deed)
  | .error e => fail (.ofController e)

def setTrigger (irq : Nat) : Option Trigger → Act C S Unit
  | none => return
  | some trigger => command (Controller.setTrigger irq trigger) (.triggerSet irq trigger)

def setTarget (irq : Nat) : Option Nat → Act C S Unit
  | none => return
  | some core => command (Controller.setTarget irq core) (.targetSet irq core)

/-- Programs a line for a new handler. -/
def program (irq : Nat) (trigger : Option Trigger) (route : Option Nat) : Act C S Unit := do
  setTrigger irq trigger
  setTarget irq route

def sendSgi (sgi : Nat) (target : UInt64) : Act C S Unit := do
  modifyKernel fun k => { k with controller := Controller.sendSgi sgi target k.controller }
  write (Narrator.notices C (.signalSent sgi target))

end Controllers

section Stores

variable [SlotStore S]

/-- The empty slot at a destination. -/
def emptySlot (dest : Destination) (missing unfit : SlotError → Rejection) : Act C S SlotRef := do
  let k ← kernel
  let ref ← check ((SlotStore.lookup k.space dest.root dest.index dest.depth).mapError missing)
  check ((SlotStore.ensureEmpty k.space ref).mapError unfit)
  return ref

/-- Puts a capability into a slot. A refusal goes up as it is. -/
def insert (cap : Cap) (source dest : SlotRef) : Act C S Unit := do
  let k ← kernel
  match SlotStore.insert k.space cap source dest with
  | .error e => fail (.ofSlot e)
  | .ok space => modifyKernel fun k => { k with space }

/-- Where a new handler goes, if its line has none yet. -/
def handlerSlot (req : HandlerRequest) : Act C S SlotRef := do
  let k ← kernel
  check (Rejection.when (.alreadyActive req.id) (k.registry.isActive req.id))
  emptySlot req.dest (.noHandlerSlot req.id) (.handlerSlotUnfit req.id)

end Stores

section Requests

variable [Controller C]

/-- What a message asks for: a handler on the caller's core. -/
def askPlain (inv : Invocation) : Act C S HandlerRequest := do
  let k ← kernel
  let root ← check (inv.destRoot 3)
  let irq ← check (inv.irqArg k.platform)
  check (k.config.allowWithoutCore irq)
  return ⟨⟨irq, k.caller.core⟩, none, none, ⟨root, inv.arg 1, inv.arg 2⟩⟩

/-- What a message asks for: a handler with a trigger. -/
def askWithTrigger (inv : Invocation) : Act C S HandlerRequest := do
  let k ← kernel
  let root ← check (inv.destRoot 4)
  check k.platform.needTrigger
  let irq ← check (inv.irqArg k.platform)
  check (k.config.allowWithoutCore irq)
  return ⟨.onBootCore irq, some (.ofWord (inv.arg 1)), none, ⟨root, inv.arg 2, inv.arg 3⟩⟩

/-- What a message asks for: a handler on a given core. -/
def askForCore (inv : Invocation) : Act C S HandlerRequest := do
  let k ← kernel
  let root ← check (inv.destRoot 5)
  check k.platform.needTrigger
  let irq ← check (inv.irqArg k.platform)
  let core ← check (k.config.coreOf k.platform (inv.arg 4))
  let id : IrqId := ⟨irq, core⟩
  let route := if id.isPrivate then none else some core
  return ⟨id, some (.ofWord (inv.arg 1)), route, ⟨root, inv.arg 2, inv.arg 3 % 256⟩⟩

/-- What a message asks for: a sender. -/
def askSignal (inv : Invocation) : Act C S SignalRequest := do
  let k ← kernel
  let root ← check (inv.destRoot 4)
  check (Rejection.when (.noSuchSgi (inv.arg 0)) (sgiCount ≤ (inv.arg 0).toNat))
  check (Rejection.when (.noSuchSgiTarget (inv.arg 1)) (!k.platform.hasInterface (inv.arg 1)))
  return ⟨(inv.arg 0).toNat, inv.arg 1, ⟨root, inv.arg 2, inv.arg 3⟩⟩

/-- What a message asks for: to hand over a shared interrupt. -/
def askRetarget (inv : Invocation) : Act C S Nat := do
  let k ← kernel
  check (Rejection.when .retargetTruncated (inv.length < 2))
  let irq ← check (inv.irqArg k.platform)
  check (Rejection.when (.retargetPrivate irq k.platform.maxIrq) (irq < sharedBase))
  return irq

end Requests

variable [Controller C] [Narrator C] [SlotStore S]

/-- Issues a handler. -/
def issueHandler (req : HandlerRequest) (source : SlotRef) : Act C S Int := do
  let dest ← handlerSlot req
  program req.id.irq req.trigger req.route
  insert (.irqHandler req.id req.trigger) source dest
  modifyKernel fun k => { k with registry := (k.registry.activate req.id).2 }
  wake
  trace .irqControl s!"IRQControl: issued handler for {req.id.text} into slot {dest.index}"
  return 0

/-- Issues a sender. -/
def issueSignal (req : SignalRequest) (source : SlotRef) : Act C S Int := do
  let dest ← emptySlot req.dest .noSignalSlot .signalSlotUnfit
  insert (.sgiSignal req.sgi req.target) source dest
  wake
  trace .irqControl s!"IRQControl: issued SGI {req.sgi} -> {req.target} into slot {dest.index}"
  return 0

/-- Sees to it that the interrupt is the kernel's own. -/
def checkOwned (irq : Nat) : Act C S Unit := do
  match ← call (Controller.owns irq) with
  | .ok true => return
  | .ok false => refuse (.retargetForeign irq)
  | .error e => refuse (.retargetUnreadable irq e)

/-- Hands an interrupt to the interface in the second argument. -/
def retarget (irq : Nat) (inv : Invocation) : Act C S Int := do
  let k ← kernel
  checkOwned irq
  check (Rejection.when (.noSuchInterface (inv.arg 1)) (!k.platform.hasInterface (inv.arg 1)))
  setTarget irq (some (inv.arg 1).toNat)
  wake
  let target := inv.arg 1
  trace .irqControl s!"IRQControl: IRQ {irq} handed to interface {target}"
  return 0

/-- Performs an operation of the authority over interrupts. An operation on senders is none of them,
    even if a configuration should let it pass. -/
def control (inv : Invocation) : Act C S Int := do
  let k ← kernel
  match (Label.ofWord? inv.label).filter k.config.enables with
  | none => refuse (.noSuchOperation inv.label k.config.topology)
  | some label =>
    trace .irqControl s!"IRQControl: {label.name} length={inv.length}"
    match label with
    | .issueHandler => issueHandler (← askPlain inv) inv.source
    | .issueTriggerHandler => issueHandler (← askWithTrigger inv) inv.source
    | .issueCoreHandler => issueHandler (← askForCore inv) inv.source
    | .issueSgiSignal => issueSignal (← askSignal inv) inv.source
    | .setTargetCore => retarget (← askRetarget inv) inv
    | .generateSgi => fail .illegalOperation

/-- Performs an invocation of `cap`. -/
def invoke (cap : Cap) (inv : Invocation) : Act C S Int := do
  match cap with
  | .irqControl _ => control inv
  | .sgiSignal sgi target =>
    trace .signals s!"SGISignal: SGI {sgi} -> {target} (label {inv.label})"
    wake
    sendSgi sgi target
    return 0
  | .irqHandler .. | .cnode _ => refuse (.noInvocations cap inv.label)
  | .null => refuse .nullCapability

end Act

end InterruptCaps
