import InterruptCaps.Irq.Basic
import InterruptCaps.Gic.Error

/-! What the kernel knows about its interrupt controller: the greatest interrupt number, whether
    triggers can be set, and how many CPU interfaces interrupts can be sent to. A board states these
    facts, or they are read from the controller's type register. -/

namespace InterruptCaps

/-- A controller has at most this many CPU interfaces. -/
def maxInterfaces : Nat := 8

/-- The description of an interrupt controller. -/
structure Platform where
  maxIrq : Nat
  triggerSupport : Bool
  cpuInterfaces : Nat
  deriving DecidableEq

namespace Platform

/-- A controller with everything that the architecture allows. -/
def full : Platform := ⟨maxLine, true, maxInterfaces⟩

/-- The description in a type register: `itLines` counts blocks of 32 interrupts beyond the first,
    up to the limit of the architecture, and `cpuNumber` CPU interfaces beyond the first. -/
def ofTyper (itLines cpuNumber : Nat) : Platform :=
  ⟨min (32 * (itLines + 1) - 1) maxLine, true, cpuNumber % maxInterfaces + 1⟩

/-- The interrupt number in an argument word. -/
def checkIrq (p : Platform) (raw : UInt64) : Except ControllerError Nat :=
  if p.maxIrq < raw.toNat then .error (.irqOutOfRange 0 p.maxIrq) else .ok raw.toNat

/-- Whether a software-generated interrupt can be sent to this interface. -/
def hasInterface (p : Platform) (target : UInt64) : Bool := target.toNat < p.cpuInterfaces

end Platform

end InterruptCaps
