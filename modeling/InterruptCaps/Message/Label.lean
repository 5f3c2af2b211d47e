/-! The operations that a message label can name. -/

namespace InterruptCaps

/-- An operation on an interrupt capability. -/
inductive Label where
  | issueHandler
  | issueTriggerHandler
  | issueCoreHandler
  | issueSgiSignal
  | setTargetCore
  | generateSgi
  deriving DecidableEq

namespace Label

/-- The number of the operation in a message. -/
def toWord : Label → UInt64
  | issueHandler => 1
  | issueTriggerHandler => 2
  | issueCoreHandler => 3
  | issueSgiSignal => 4
  | setTargetCore => 5
  | generateSgi => 6

/-- All operations, by their numbers. -/
def all : List Label :=
  [issueHandler, issueTriggerHandler, issueCoreHandler, issueSgiSignal, setTargetCore, generateSgi]

/-- The operation with this number. -/
def ofWord? (word : UInt64) : Option Label := all.find? (·.toWord == word)

/-- The operation's name in the system interface. -/
def name : Label → String
  | issueHandler => "IRQIssueIRQHandler"
  | issueTriggerHandler => "IRQIssueIRQHandlerTrigger"
  | issueCoreHandler => "IRQIssueIRQHandlerTriggerCore"
  | issueSgiSignal => "IRQIssueSGISignal"
  | setTargetCore => "IRQSetIRQTargetCore"
  | generateSgi => "SGISignalGenerate"

theorem ofWord?_toWord (l : Label) : ofWord? l.toWord = some l := by cases l <;> decide

end Label

end InterruptCaps
