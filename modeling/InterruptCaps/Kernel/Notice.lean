import InterruptCaps.Log.Level
import InterruptCaps.Kernel.Config

/-! Notices: what the kernel tells its log, and the part of it that speaks. -/

namespace InterruptCaps

/-- A part of the kernel that writes to the log. -/
inductive Component where
  /-- The object behind the authority over interrupts. -/
  | interrupts
  /-- The dispatch of invocations by capability. -/
  | invocations
  /-- The operations of the authority over interrupts. -/
  | irqControl
  /-- The sending of software-generated interrupts. -/
  | signals
  /-- The driver of the distributor. -/
  | distributor
  deriving DecidableEq

/-- A record for the log. -/
structure Notice where
  level : Log.Level
  component : Component
  text : String
  deriving DecidableEq

/-- What is logged when a kernel of this configuration meets this platform. -/
def Notice.ofStart (c : Config) (p : Platform) : Notice :=
  match c.checkPlatform p with
  | .error e => ⟨.error, .interrupts, s!"irq: {e.message}"⟩
  | .ok _ =>
    let trigger := if p.triggerSupport then "true" else "false"
    ⟨.debug, .interrupts, s!"irq: {c.topology.name} config, {c.nodes} node(s), "
      ++ s!"max IRQ {p.maxIrq}, trigger support {trigger}"⟩

end InterruptCaps
