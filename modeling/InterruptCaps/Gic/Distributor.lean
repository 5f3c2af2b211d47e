import InterruptCaps.Gic.Controller
import InterruptCaps.Gic.Frame

/-! The distributor of a version 2 generic interrupt controller, seen through its register frame.

    | offset | register                                                                       |
    | ------ | ------------------------------------------------------------------------------ |
    | 0x004  | type: blocks of interrupt lines in bits 0 to 4, CPU interfaces in bits 5 to 7   |
    | 0x800  | targets: one byte for each of 1024 interrupts, the first 32 private to a core   |
    | 0xc00  | configuration: two bits for each interrupt, the upper one set for edge          |
    | 0xf00  | software-generated interrupts: number in bits 0 to 3, interfaces in bits 16 on  |

    Each interrupt has an edge bit and a target byte of its own, and no call touches anything
    else. -/

namespace InterruptCaps

/-- A distributor and the description its driver goes by. -/
structure Distributor where
  frame : Frame
  info : Platform
  deriving DecidableEq

namespace Distributor

/-- Where the type register is. -/
def typerOffset : Nat := 0x004

/-- Where the target bytes begin. -/
def targetsOffset : Nat := 0x800

/-- Where the trigger configuration begins. -/
def triggersOffset : Nat := 0xc00

/-- Where software-generated interrupts are raised. -/
def sgiOffset : Nat := 0xf00

/-- The register arrays have room for this many interrupts. -/
def irqCapacity : Nat := 1024

/-- The driver of a distributor that describes itself. -/
def ofTyper (frame : Frame) : Distributor :=
  let typer := frame.word typerOffset
  ⟨frame, .ofTyper (typer % 32) (typer / 32 % 8)⟩

/-- The frame's bit that makes `irq` edge sensitive: the upper one of its two. -/
def edgeBit (irq : Nat) : Nat := 8 * triggersOffset + 2 * irq + 1

/-- The trigger of `irq`. -/
def trigger (d : Distributor) (irq : Nat) : Trigger :=
  if d.frame.bit (edgeBit irq) then .edge else .level

/-- The target byte of `irq`. -/
def target (d : Distributor) (irq : Nat) : TargetMask := ⟨d.frame.byte (targetsOffset + irq)⟩

/-- Whether `irq` can be asked about: within the platform's limit, and in the register arrays. -/
def checkRegister (d : Distributor) (irq : Nat) : Except CallFailure Unit :=
  if d.info.maxIrq < irq then .error (.refused (.irqOutOfRange 0 d.info.maxIrq))
  else if irqCapacity ≤ irq then .error .unmapped
  else .ok ()

def setTrigger (irq : Nat) (trigger : Trigger) (d : Distributor) :
    Except CallFailure Unit × Distributor :=
  match d.checkRegister irq with
  | .error e => (.error e, d)
  | .ok _ => (.ok (), { d with frame := d.frame.setBit (edgeBit irq) trigger.isEdge })

/-- The mask that sends interrupts to one CPU interface, if there is such an interface. -/
def interfaceMask (d : Distributor) (core : Nat) : Except CallFailure TargetMask :=
  match TargetMask.single? core with
  | some mask =>
    if core < d.info.cpuInterfaces then .ok mask else .error (.refused (.targetOutOfRange core))
  | none => .error (.refused (.targetOutOfRange core))

def setTarget (irq core : Nat) (d : Distributor) : Except CallFailure Unit × Distributor :=
  if irq < sharedBase then (.error (.refused (.notShared irq)), d)
  else
    match d.interfaceMask core with
    | .error e => (.error e, d)
    | .ok mask =>
      match d.checkRegister irq with
      | .error e => (.error e, d)
      | .ok _ => (.ok (), { d with frame := d.frame.setByte (targetsOffset + irq) mask.bits })

def getTarget (irq : Nat) (d : Distributor) : Except CallFailure TargetMask :=
  (d.checkRegister irq).map fun _ => d.target irq

/-- The word that raises a software-generated interrupt: the number, and the mask of one of eight
    interfaces. Who calls sees to it that both are in range. -/
def sgiWord (sgi : Nat) (target : UInt64) : Nat :=
  1 <<< (16 + target.toNat % maxInterfaces) + sgi % sgiCount

def sendSgi (sgi : Nat) (target : UInt64) (d : Distributor) : Distributor :=
  { d with frame := d.frame.setWord sgiOffset (sgiWord sgi target) }

/-- An interrupt within a limit that the register arrays allow has its registers. -/
theorem checkRegister_eq_ok {d : Distributor} {irq : Nat} (h : irq ≤ d.info.maxIrq)
    (hm : d.info.maxIrq ≤ maxLine) : d.checkRegister irq = .ok () := by
  have hc : maxLine < irqCapacity := by decide
  have h1 : ¬ d.info.maxIrq < irq := by omega
  have h2 : ¬ irqCapacity ≤ irq := by omega
  simp [checkRegister, h1, h2]

theorem edgeBit_inj {irq irq' : Nat} : edgeBit irq = edgeBit irq' ↔ irq = irq' := by
  simp only [edgeBit]; omega

/-- Setting a trigger sets that of one interrupt alone. -/
theorem trigger_setTrigger {d : Distributor} {irq : Nat} (h : irq ≤ d.info.maxIrq)
    (hm : d.info.maxIrq ≤ maxLine) (t : Trigger) (irq' : Nat) :
    (d.setTrigger irq t).2.trigger irq' = if irq = irq' then t else d.trigger irq' := by
  have hb : edgeBit irq < 8 * frameSize := by
    simp only [edgeBit, triggersOffset, frameSize, maxLine] at *; omega
  simp only [setTrigger, checkRegister_eq_ok h hm, trigger, Frame.bit_setBit _ _ _ _ hb,
    edgeBit_inj]
  by_cases hi : irq = irq'
  · subst hi; cases t <;> simp [Trigger.isEdge]
  · simp [hi]

/-- The first target byte is banked: each CPU interface reads its own mask there. -/
def selfTarget (d : Distributor) : TargetMask := d.target 0

instance : Controller Distributor where
  platform := info
  setTrigger := setTrigger
  setTarget := setTarget
  sendSgi := sendSgi
  getTarget irq d := (d.getTarget irq, d)
  selfTarget d := (.ok d.selfTarget, d)

end Distributor

end InterruptCaps
