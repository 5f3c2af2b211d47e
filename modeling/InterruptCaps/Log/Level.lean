/-! Severity of log records. -/

namespace InterruptCaps.Log

/-- How severe a record is, the most severe first. -/
inductive Level where | error | warn | info | debug | trace
  deriving DecidableEq

namespace Level

/-- The level's place, zero for the most severe. -/
def rank : Level → Nat
  | error => 0
  | warn => 1
  | info => 2
  | debug => 3
  | trace => 4

/-- The level at a place; all places past the last count as the last. -/
def ofRank : Nat → Level
  | 0 => error
  | 1 => warn
  | 2 => info
  | 3 => debug
  | _ => trace

/-- All levels, the most severe first. -/
def all : List Level := [error, warn, info, debug, trace]

def name : Level → String
  | error => "Error"
  | warn => "Warn"
  | info => "Info"
  | debug => "Debug"
  | trace => "Trace"

/-- How a line of the log begins. -/
def tag : Level → String
  | error => "[ERROR]"
  | warn => "[WARN ]"
  | info => "[INFO ]"
  | debug => "[DEBUG]"
  | trace => "[TRACE]"

/-- How the console writes the level. -/
def consoleName : Level → String
  | error => "ERROR"
  | warn => " WARN"
  | info => " INFO"
  | debug => "DEBUG"
  | trace => "TRACE"

theorem ofRank_rank (l : Level) : ofRank l.rank = l := by cases l <;> rfl

end Level

end InterruptCaps.Log
