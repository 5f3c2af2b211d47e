import InterruptCaps.Kernel.Rejection
import InterruptCaps.Gic.Platform

/-! What a message asks for, once its words have passed their checks. The checks stand in the
    order in which the first one that fails decides; none of them looks at registry, slots or
    hardware.

    | argument | plain handler | with trigger | per core          | signal    | retarget  |
    | -------- | ------------- | ------------ | ----------------- | --------- | --------- |
    | 0        | interrupt     | interrupt    | interrupt         | number    | interrupt |
    | 1        | slot          | trigger      | trigger           | interface | interface |
    | 2        | depth         | slot         | slot              | slot      |           |
    | 3        |               | depth        | depth, low 8 bits | depth     |           |
    | 4        |               |              | core              |           |           | -/

namespace InterruptCaps

/-- A slot that does not hold a capability yet, as the caller addresses it. -/
structure Destination where
  root : Cap
  index : UInt64
  depth : UInt64
  deriving DecidableEq

/-- A handler for an interrupt: its trigger and its target are programmed where they are given. -/
structure HandlerRequest where
  id : IrqId
  trigger : Option Trigger
  route : Option Nat
  dest : Destination
  deriving DecidableEq

/-- A sender of a software-generated interrupt. -/
structure SignalRequest where
  sgi : Nat
  target : UInt64
  dest : Destination
  deriving DecidableEq

namespace Invocation

/-- The node that destinations are looked up from, in a message of at least `least` words. -/
def destRoot (inv : Invocation) (least : Nat) : Except Rejection Cap :=
  match inv.extraCap? 0 with
  | some root =>
    if least ≤ inv.length then .ok root
    else .error (.truncated inv.length inv.info.extraCaps.toNat)
  | none => .error (.truncated inv.length inv.info.extraCaps.toNat)

/-- The interrupt number in the first argument. -/
def irqArg (inv : Invocation) (p : Platform) : Except Rejection Nat :=
  match p.checkIrq (inv.arg 0) with
  | .ok irq => .ok irq
  | .error e => .error (.irqRefused (inv.arg 0) e)

end Invocation

/-- Triggers can only be asked for where the controller can set them. -/
def Platform.needTrigger (p : Platform) : Except Rejection Unit :=
  if p.triggerSupport then .ok () else .error .noTriggerSupport

/-- Where several cores share the kernel, a private interrupt must be asked for by core. -/
def Config.allowWithoutCore (c : Config) (irq : Nat) : Except Rejection Unit :=
  if c.isSmp && (IrqId.onBootCore irq).isPrivate then .error (.privateOnSmp irq) else .ok ()

/-- The core in an argument word: a node of this kernel with a CPU interface behind it. -/
def Config.coreOf (c : Config) (p : Platform) (word : UInt64) : Except Rejection Nat :=
  if word.toNat < min c.nodes p.cpuInterfaces then .ok word.toNat else .error (.noSuchCore word)

namespace HandlerRequest

/-- A handler on the caller's core, its line as it is. -/
def plain (c : Config) (p : Platform) (core : Nat) (inv : Invocation) :
    Except Rejection HandlerRequest := do
  let root ← inv.destRoot 3
  let irq ← inv.irqArg p
  c.allowWithoutCore irq
  return ⟨⟨irq, core⟩, none, none, ⟨root, inv.arg 1, inv.arg 2⟩⟩

/-- A handler that sets the trigger of its line. -/
def withTrigger (c : Config) (p : Platform) (inv : Invocation) :
    Except Rejection HandlerRequest := do
  let root ← inv.destRoot 4
  p.needTrigger
  let irq ← inv.irqArg p
  c.allowWithoutCore irq
  return ⟨.onBootCore irq, some (.ofWord (inv.arg 1)), none, ⟨root, inv.arg 2, inv.arg 3⟩⟩

/-- A handler on a given core: a shared interrupt is sent there, a private one is there already. -/
def forCore (c : Config) (p : Platform) (inv : Invocation) :
    Except Rejection HandlerRequest := do
  let root ← inv.destRoot 5
  p.needTrigger
  let irq ← inv.irqArg p
  let core ← c.coreOf p (inv.arg 4)
  let id : IrqId := ⟨irq, core⟩
  let route := if id.isPrivate then none else some core
  return ⟨id, some (.ofWord (inv.arg 1)), route, ⟨root, inv.arg 2, inv.arg 3 % 256⟩⟩

end HandlerRequest

/-- A sender of the software-generated interrupt in the first argument to the interface in the
    second. -/
def SignalRequest.ofInvocation (p : Platform) (inv : Invocation) :
    Except Rejection SignalRequest := do
  let root ← inv.destRoot 4
  if sgiCount ≤ (inv.arg 0).toNat then throw (.noSuchSgi (inv.arg 0))
  if !p.hasInterface (inv.arg 1) then throw (.noSuchSgiTarget (inv.arg 1))
  return ⟨(inv.arg 0).toNat, inv.arg 1, ⟨root, inv.arg 2, inv.arg 3⟩⟩

/-- The shared interrupt that the caller wants to hand to another kernel instance. -/
def Invocation.retargetIrq (inv : Invocation) (p : Platform) : Except Rejection Nat := do
  if inv.length < 2 then throw .retargetTruncated
  let irq ← inv.irqArg p
  if irq < sharedBase then throw (.retargetPrivate irq p.maxIrq)
  return irq

end InterruptCaps
