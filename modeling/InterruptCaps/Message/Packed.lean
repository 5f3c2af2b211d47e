import InterruptCaps.Message.Info

/-! Message-info words by shifts and masks. Each field is shifted to its place, and a mask of its
    width keeps it from reaching into the field above. The label is the last one and has no mask. -/

namespace InterruptCaps.MessageInfo

def lengthBits : UInt64 := 7

def extraCapsShift : UInt64 := 7

def extraCapsBits : UInt64 := 2

def unwrappedShift : UInt64 := 9

def unwrappedBits : UInt64 := 3

def labelShift : UInt64 := 12

/-- The word whose low `bits` bits are set. -/
def fieldMask (bits : UInt64) : UInt64 := (1 <<< bits) - 1

/-- Takes the fields out of the word. -/
def unpack (word : UInt64) : MessageInfo :=
  let length := (word &&& fieldMask lengthBits).toUInt8
  let extraCaps := ((word >>> extraCapsShift) &&& fieldMask extraCapsBits).toUInt8
  { ofCounts (word >>> labelShift) extraCaps length with
    capsUnwrapped := ((word >>> unwrappedShift) &&& fieldMask unwrappedBits).toUInt8 }

/-- Puts the fields into a word. -/
def pack (info : MessageInfo) : UInt64 :=
  (info.label <<< labelShift)
    ||| ((info.capsUnwrapped.toUInt64 &&& fieldMask unwrappedBits) <<< unwrappedShift)
    ||| ((info.extraCaps.toUInt64 &&& fieldMask extraCapsBits) <<< extraCapsShift)
    ||| (info.length.toUInt64 &&& fieldMask lengthBits)

end InterruptCaps.MessageInfo
