import InterruptCaps.Irq.Basic
import InterruptCaps.Cap.Badge
import InterruptCaps.Cap.Guard

/-! Capabilities. A capability names a kernel object and carries the authority to use it:

    | capability   | authority                                                           |
    | ------------ | ------------------------------------------------------------------- |
    | `cnode`      | address the slots of a node                                         |
    | `irqControl` | issue handlers and software-interrupt senders, retarget interrupts  |
    | `irqHandler` | receive one interrupt                                               |
    | `sgiSignal`  | send one software-generated interrupt to one interface              | -/

namespace InterruptCaps

/-- A table of `2 ^ radix` slots as a capability addresses it: behind a guard. -/
structure CNode where
  id : Nat
  radix : Nat
  guard : Guard
  deriving DecidableEq

/-- A node may have `2 ^ minRadix` to `2 ^ maxRadix` slots. -/
def CNode.minRadix : Nat := 1

/-- A node may have `2 ^ minRadix` to `2 ^ maxRadix` slots. -/
def CNode.maxRadix : Nat := 12

/-- Numbers of nodes have 32 bits, so there are this many. -/
def CNode.idCount : Nat := UInt32.size

/-- How many bits of a pointer are read at this node. -/
def CNode.width (node : CNode) : Nat := node.guard.bits + node.radix

/-- An unforgeable right, or none. -/
inductive Cap where
  | null
  | cnode (node : CNode)
  | irqControl (badge : Badge)
  | irqHandler (id : IrqId) (trigger : Option Trigger)
  | sgiSignal (sgi : Nat) (target : UInt64)
  deriving DecidableEq

namespace Cap

def isNull : Cap → Bool
  | null => true
  | _ => false

/-- The kind of object. -/
def name : Cap → String
  | null => "Null"
  | cnode _ => "CNode"
  | irqControl _ => "IRQControl"
  | irqHandler _ _ => "IRQHandler"
  | sgiSignal _ _ => "SGISignal"

/-- The interrupt that a handler receives. -/
def handled? : Cap → Option IrqId
  | irqHandler id _ => some id
  | _ => none

/-- The capability in words. -/
def text : Cap → String
  | null => "null"
  | cnode node => s!"CNode({node.id}, radix {node.radix}, {node.guard.text})"
  | irqControl badge => s!"IRQControl(badge {badge.text})"
  | irqHandler id (some trigger) => s!"IRQHandler({id.text}, {trigger.name})"
  | irqHandler id Option.none => s!"IRQHandler({id.text})"
  | sgiSignal sgi target => s!"SGISignal(SGI {sgi}, target {Text.hex target.toNat})"

theorem isNull_iff {c : Cap} : c.isNull = true ↔ c = null := by cases c <;> simp [isNull]

end Cap

end InterruptCaps
