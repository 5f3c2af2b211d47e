/-! What can go wrong with capability slots. -/

namespace InterruptCaps

/-- Why a slot could not be found, read or filled. -/
inductive SlotError where
  | invalidRoot
  | invalidIndex
  | invalidDepth
  | guardMismatch
  | depthMismatch
  | slotOccupied
  | emptySlot
  | objectNotFound
  deriving DecidableEq

namespace SlotError

/-- All errors. -/
def all : List SlotError :=
  [invalidRoot, invalidIndex, invalidDepth, guardMismatch, depthMismatch, slotOccupied, emptySlot,
    objectNotFound]

def name : SlotError → String
  | invalidRoot => "InvalidRoot"
  | invalidIndex => "InvalidIndex"
  | invalidDepth => "InvalidDepth"
  | guardMismatch => "GuardMismatch"
  | depthMismatch => "DepthMismatch"
  | slotOccupied => "SlotOccupied"
  | emptySlot => "EmptySlot"
  | objectNotFound => "ObjectNotFound"

def message : SlotError → String
  | invalidRoot => "CSpace root is not a CNode"
  | invalidIndex => "invalid slot index"
  | invalidDepth => "invalid resolution depth"
  | guardMismatch => "CPtr guard mismatch"
  | depthMismatch => "CPtr resolution depth mismatch"
  | slotOccupied => "destination slot is occupied"
  | emptySlot => "slot is empty"
  | objectNotFound => "object not found"

/-- Whether the address led nowhere, as against a slot in the wrong state or a bad depth. -/
def isLookupFault : SlotError → Bool
  | slotOccupied | emptySlot | invalidDepth => false
  | _ => true

end SlotError

end InterruptCaps
