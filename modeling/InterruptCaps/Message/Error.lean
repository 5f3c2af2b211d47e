import InterruptCaps.Gic.Error
import InterruptCaps.Space.Error

/-! How an invocation fails towards its caller: a cause, its return code, and up to two detail words
    that are written to the front of the caller's message buffer.

    | cause                                  | detail words        |
    | -------------------------------------- | ------------------- |
    | `invalidArgument`, `invalidCapability` | the index           |
    | `rangeError`                           | the closed range    |
    | `failedLookup`                         | the kind of fault   |
    | all others                             | none                | -/

namespace InterruptCaps

/-- What a return value stands for. -/
inductive ReturnCode where
  | ok
  | invalidArgument
  | invalidCapability
  | illegalOperation
  | rangeError
  | alignmentError
  | failedLookup
  | truncatedMessage
  | deleteFirst
  | revokeFirst
  | notEnoughMemory
  deriving DecidableEq

namespace ReturnCode

/-- The return value: zero for success, a negative number for each failure. -/
def toInt : ReturnCode → Int
  | ok => 0
  | invalidArgument => -1
  | invalidCapability => -2
  | illegalOperation => -3
  | rangeError => -4
  | alignmentError => -5
  | failedLookup => -6
  | truncatedMessage => -7
  | deleteFirst => -8
  | revokeFirst => -9
  | notEnoughMemory => -10

/-- All codes, from success downwards. -/
def all : List ReturnCode :=
  [ok, invalidArgument, invalidCapability, illegalOperation, rangeError, alignmentError,
    failedLookup, truncatedMessage, deleteFirst, revokeFirst, notEnoughMemory]

/-- The code of a return value. -/
def ofInt? (value : Int) : Option ReturnCode := all.find? (·.toInt == value)

def isOk (c : ReturnCode) : Bool := c == ok

def name : ReturnCode → String
  | ok => "Ok"
  | invalidArgument => "InvalidArgument"
  | invalidCapability => "InvalidCapability"
  | illegalOperation => "IllegalOperation"
  | rangeError => "RangeError"
  | alignmentError => "AlignmentError"
  | failedLookup => "FailedLookup"
  | truncatedMessage => "TruncatedMessage"
  | deleteFirst => "DeleteFirst"
  | revokeFirst => "RevokeFirst"
  | notEnoughMemory => "NotEnoughMemory"

theorem ofInt?_toInt (c : ReturnCode) : ofInt? c.toInt = some c := by cases c <;> decide

end ReturnCode

/-- Where the lookup of a capability went wrong. -/
inductive LookupFault where | invalidRoot | missingCapability | depthMismatch | guardMismatch
  deriving DecidableEq

namespace LookupFault

/-- All faults, by their numbers. -/
def all : List LookupFault := [invalidRoot, missingCapability, depthMismatch, guardMismatch]

def toWord : LookupFault → UInt64
  | invalidRoot => 0
  | missingCapability => 1
  | depthMismatch => 2
  | guardMismatch => 3

def name : LookupFault → String
  | invalidRoot => "InvalidRoot"
  | missingCapability => "MissingCapability"
  | depthMismatch => "DepthMismatch"
  | guardMismatch => "GuardMismatch"

end LookupFault

/-- An error has at most this many detail words. -/
def maxDetailWords : Nat := 2

/-- Why an invocation failed, as its caller learns it. -/
inductive InvocationError where
  | invalidArgument (index : Nat)
  | invalidCapability (index : Nat)
  | illegalOperation
  | rangeError (least greatest : Nat)
  | failedLookup (fault : LookupFault)
  | truncatedMessage
  | deleteFirst
  | revokeFirst
  | notEnoughMemory
  deriving DecidableEq

namespace InvocationError

def code : InvocationError → ReturnCode
  | invalidArgument _ => .invalidArgument
  | invalidCapability _ => .invalidCapability
  | illegalOperation => .illegalOperation
  | rangeError .. => .rangeError
  | failedLookup _ => .failedLookup
  | truncatedMessage => .truncatedMessage
  | deleteFirst => .deleteFirst
  | revokeFirst => .revokeFirst
  | notEnoughMemory => .notEnoughMemory

def name (e : InvocationError) : String := e.code.name

/-- The words that explain the error. -/
def detail : InvocationError → List UInt64
  | invalidArgument index | invalidCapability index => [.ofNat index]
  | rangeError least greatest => [.ofNat least, .ofNat greatest]
  | failedLookup fault => [fault.toWord]
  | _ => []

/-- How many detail words go into a buffer with room for so many. -/
def detailWritten (e : InvocationError) (room : Nat) : Nat := min e.detail.length room

/-- The caller's buffer with as many detail words at its front as it has room for. -/
def writeDetail (e : InvocationError) (reply : List UInt64) : List UInt64 :=
  e.detail.take reply.length ++ reply.drop (e.detailWritten reply.length)

def message (e : InvocationError) : String :=
  match e with
  | invalidArgument index => s!"{e.name} (argument {index})"
  | invalidCapability index => s!"{e.name} (cap {index})"
  | rangeError least greatest => s!"{e.name} ({least}..={greatest})"
  | failedLookup fault => s!"{e.name} ({fault.name})"
  | _ => e.name

/-- A slot that cannot be used, as the caller learns it. -/
def ofSlot : SlotError → InvocationError
  | .slotOccupied => deleteFirst
  | .invalidDepth => rangeError 1 64
  | .invalidRoot => failedLookup .invalidRoot
  | .guardMismatch => failedLookup .guardMismatch
  | .depthMismatch => failedLookup .depthMismatch
  | .invalidIndex | .emptySlot | .objectNotFound => failedLookup .missingCapability

/-- A refusal of the interrupt controller, as the caller learns it. -/
def ofController : ControllerError → InvocationError
  | .irqOutOfRange least greatest => rangeError least greatest
  | .triggerUnsupported | .notShared _ | .targetOutOfRange _ => illegalOperation

end InvocationError

end InterruptCaps
