/-! Interrupts by number. Numbers below 16 are software generated, those up to 31 belong to one
    processor core's own peripherals, and all others are shared between the cores. The first two
    classes are private: every core has its own line of that number. -/

namespace InterruptCaps

/-- How many interrupt numbers are software generated. -/
def sgiCount : Nat := 16

/-- How many interrupt numbers are private to a core. -/
def privateCount : Nat := 32

/-- The first interrupt number that is shared between the cores. -/
def sharedBase : Nat := privateCount

/-- The greatest interrupt number that can have a line. -/
def maxLine : Nat := 1019

/-- The greatest number of cores that have private lines of their own. -/
def maxNodes : Nat := 8

/-- Where an interrupt comes from. -/
inductive IrqClass where | softwareGenerated | privatePeripheral | sharedPeripheral
  deriving DecidableEq

/-- The class of interrupt number `irq`. -/
def IrqClass.of (irq : Nat) : IrqClass :=
  if irq < sgiCount then .softwareGenerated
  else if irq < privateCount then .privatePeripheral
  else .sharedPeripheral

def IrqClass.name : IrqClass → String
  | softwareGenerated => "SoftwareGenerated"
  | privatePeripheral => "PrivatePeripheral"
  | sharedPeripheral => "SharedPeripheral"

/-- Whether each core has its own line. -/
def IrqClass.isPrivate : IrqClass → Bool
  | .softwareGenerated | .privatePeripheral => true
  | .sharedPeripheral => false

/-- An interrupt as a handler names it: its number and the core that receives it. -/
structure IrqId where
  irq : Nat
  core : Nat
  deriving DecidableEq

namespace IrqId

/-- The interrupt `irq` of core 0, where cores are not told apart. -/
def onBootCore (irq : Nat) : IrqId := ⟨irq, 0⟩

/-- The class of the interrupt's number. -/
def irqClass (id : IrqId) : IrqClass := .of id.irq

/-- Whether each core has its own line of this number. -/
def isPrivate (id : IrqId) : Bool := id.irqClass.isPrivate

theorem isPrivate_iff (id : IrqId) : id.isPrivate = true ↔ id.irq < privateCount := by
  simp only [isPrivate, irqClass, IrqClass.of]
  split
  · have : sgiCount < privateCount := by decide
    simp only [IrqClass.isPrivate, true_iff]; omega
  · split <;> simp_all [IrqClass.isPrivate]

/-- The interrupt in words. -/
def text (id : IrqId) : String := s!"IRQ {id.irq} (core {id.core})"

end IrqId

/-- What makes a line's interrupt pending: its level or a change of it. -/
inductive Trigger where | level | edge
  deriving DecidableEq

namespace Trigger

/-- The trigger a caller asks for: zero is level, every other word is edge. -/
def ofWord (word : UInt64) : Trigger := if word = 0 then .level else .edge

def isEdge : Trigger → Bool
  | .level => false
  | .edge => true

def name : Trigger → String
  | .level => "Level"
  | .edge => "Edge"

end Trigger

end InterruptCaps
