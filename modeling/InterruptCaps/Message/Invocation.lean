import InterruptCaps.Message.Info
import InterruptCaps.Space.Basic

/-! An invocation as the kernel receives it: the message-info record, the argument words, the extra
    capabilities, already looked up, and the slot of the invoked capability. Only what the record
    declares can be read: words past the declared length are zero, capabilities past the declared
    count are missing. -/

namespace InterruptCaps

/-- The word at `index` of an argument buffer, zero beyond its end. -/
def argWord (args : List UInt64) (index : Nat) : UInt64 := args.getD index 0

/-- A message to a capability. -/
structure Invocation where
  info : MessageInfo
  args : List UInt64
  extraCaps : List Cap
  /-- The slot that holds the invoked capability. -/
  source : SlotRef

namespace Invocation

def label (inv : Invocation) : UInt64 := inv.info.label

/-- How many argument words the caller declares. -/
def length (inv : Invocation) : Nat := inv.info.length.toNat

/-- The argument at `index`, zero beyond the declared length. -/
def arg (inv : Invocation) (index : Nat) : UInt64 :=
  if index < inv.length then argWord inv.args index else 0

/-- The extra capability at `index`, if it is declared, present and not null. -/
def extraCap? (inv : Invocation) (index : Nat) : Option Cap :=
  if index < inv.info.extraCaps.toNat then inv.extraCaps[index]?.filter (!·.isNull) else none

end Invocation

end InterruptCaps
