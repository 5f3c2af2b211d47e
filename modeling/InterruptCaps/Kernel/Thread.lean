/-! The thread whose invocation the kernel performs. -/

namespace InterruptCaps

/-- Whether and why a thread can run. -/
inductive ThreadState where
  | inactive
  /-- In the middle of a system call. -/
  | running
  /-- To go on after its system call. -/
  | restart
  deriving DecidableEq

instance : Inhabited ThreadState := ⟨.inactive⟩

def ThreadState.name : ThreadState → String
  | inactive => "Inactive"
  | running => "Running"
  | restart => "Restart"

def ThreadState.isRunnable : ThreadState → Bool
  | inactive => false
  | running | restart => true

/-- A thread and the core it runs on. -/
structure Thread where
  core : Nat
  state : ThreadState
  deriving DecidableEq

namespace Thread

/-- A thread that has just entered the kernel on `core`. -/
def runningOn (core : Nat) : Thread := ⟨core, .running⟩

/-- Lets the thread go on once its invocation is done. -/
def markRunnable (t : Thread) : Thread := { t with state := .restart }

end Thread

end InterruptCaps
