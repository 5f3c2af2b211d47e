import InterruptCaps.Gic.Platform
import InterruptCaps.Message.Label

/-! The configuration of the interrupt subsystem. The topology decides which operations there are:

    | topology     | handlers | handlers per core | signals | retargeting |
    | ------------ | -------- | ----------------- | ------- | ----------- |
    | uniprocessor | yes      | no                | yes     | no          |
    | smp          | yes      | yes               | no      | no          |
    | multikernel  | yes      | no                | yes     | yes         |

    A multikernel runs one instance on each core; every instance is a uniprocessor of its own. -/

namespace InterruptCaps

/-- How kernels and cores go together. -/
inductive Topology where | uniprocessor | smp | multikernel
  deriving DecidableEq

/-- All topologies. -/
def Topology.all : List Topology := [uniprocessor, smp, multikernel]

def Topology.name : Topology → String
  | uniprocessor => "uniprocessor"
  | smp => "smp"
  | multikernel => "multikernel"

/-- What is wrong with a configuration. -/
inductive ConfigError where
  | noNodes
  | tooManyNodes (nodes : Nat)
  | nodesWithoutSmp (nodes : Nat)
  | nodesExceedInterfaces (nodes interfaces : Nat)
  deriving DecidableEq

def ConfigError.name : ConfigError → String
  | noNodes => "NoNodes"
  | tooManyNodes _ => "TooManyNodes"
  | nodesWithoutSmp _ => "NodesWithoutSmp"
  | nodesExceedInterfaces .. => "NodesExceedInterfaces"

def ConfigError.message : ConfigError → String
  | noNodes => "at least one node is required"
  | tooManyNodes nodes => s!"{nodes} nodes requested, at most {maxNodes} supported"
  | nodesWithoutSmp nodes => s!"{nodes} nodes requested without SMP"
  | nodesExceedInterfaces nodes interfaces =>
    s!"{nodes} nodes requested, controller has {interfaces} CPU interfaces"

/-- A topology and the number of its cores, called nodes: one to eight, and one unless the kernel is
    shared by several. -/
structure Config where
  topology : Topology
  nodes : Nat
  nodes_pos : 0 < nodes
  nodes_le : nodes ≤ maxNodes
  smp_of_many : 1 < nodes → topology = .smp
  deriving DecidableEq

namespace Config

/-- The configuration of so many nodes, or what is wrong with it. -/
def ofNodes (topology : Topology) (nodes : Nat) : Except ConfigError Config :=
  if zero : nodes = 0 then .error .noNodes
  else if many : maxNodes < nodes then .error (.tooManyNodes nodes)
  else if alone : 1 < nodes ∧ topology ≠ .smp then .error (.nodesWithoutSmp nodes)
  else .ok {
    topology, nodes
    nodes_pos := Nat.pos_of_ne_zero zero
    nodes_le := Nat.le_of_not_lt many
    smp_of_many := fun h => Decidable.byContradiction fun ht => alone ⟨h, ht⟩ }

/-- One kernel for several nodes. -/
def smp (nodes : Nat) : Except ConfigError Config := ofNodes .smp nodes

/-- One kernel on one core. -/
def uniprocessor : Config :=
  ⟨.uniprocessor, 1, by decide, by decide, fun h => absurd h (by decide)⟩

/-- One instance among several kernels. -/
def multikernel : Config :=
  ⟨.multikernel, 1, by decide, by decide, fun h => absurd h (by decide)⟩

instance : Inhabited Config := ⟨uniprocessor⟩

def isSmp (c : Config) : Bool := c.topology == .smp

/-- Whether the operation exists in this topology. -/
def enables (c : Config) : Label → Bool
  | .issueHandler | .issueTriggerHandler => true
  | .issueCoreHandler => c.isSmp
  | .issueSgiSignal => !c.isSmp
  | .setTargetCore => c.topology == .multikernel
  | .generateSgi => false

/-- Every node needs a CPU interface of the controller. -/
def checkPlatform (c : Config) (p : Platform) : Except ConfigError Unit :=
  if p.cpuInterfaces < c.nodes then .error (.nodesExceedInterfaces c.nodes p.cpuInterfaces)
  else .ok ()

end Config

end InterruptCaps
