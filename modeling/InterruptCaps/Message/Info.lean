/-! The message-info word of an invocation, and the record it stands for. From the least significant
    bit on, the word holds the length in 7 bits, the number of extra capabilities in 2, the
    unwrapped ones in 3, and the label in 52:

        63                    12 11     9 8   7 6        0
        |        label         | unwrap | caps |  length  |

    Reading a word brings the length down to what a message can hold; writing a record drops the
    bits of a field that do not fit. -/

namespace InterruptCaps

/-- A message has at most this many argument words. -/
def maxArgs : Nat := 120

/-- A message has at most this many extra capabilities. -/
def maxExtraCaps : Nat := 3

/-- What a message says about itself. -/
structure MessageInfo where
  label : UInt64
  capsUnwrapped : UInt8
  extraCaps : UInt8
  length : UInt8
  deriving DecidableEq

namespace MessageInfo

/-- A message of this label, with its counts brought down to what a message can hold. -/
def ofCounts (label : UInt64) (extraCaps length : UInt8) : MessageInfo where
  label := label
  capsUnwrapped := 0
  extraCaps := if maxExtraCaps < extraCaps.toNat then 3 else extraCaps
  length := if maxArgs < length.toNat then 120 else length

/-- Reads the word. -/
def ofWord (word : UInt64) : MessageInfo :=
  { ofCounts (word / 4096) (word / 128 % 4).toUInt8 (word % 128).toUInt8 with
    capsUnwrapped := (word / 512 % 8).toUInt8 }

/-- Writes the word; a label of more than 52 bits loses its upper ones. -/
def toWord (info : MessageInfo) : UInt64 :=
  info.label * 4096 + info.capsUnwrapped.toUInt64 % 8 * 512 + info.extraCaps.toUInt64 % 4 * 128
    + info.length.toUInt64 % 128

/-- Each field is a group of the word's digits, the length brought down to what a message holds. -/
theorem toNat_ofWord (word : UInt64) :
    (ofWord word).label.toNat = word.toNat / 4096
      ∧ (ofWord word).capsUnwrapped.toNat = word.toNat / 512 % 8
      ∧ (ofWord word).extraCaps.toNat = word.toNat / 128 % 4
      ∧ (ofWord word).length.toNat = min (word.toNat % 128) 120 := by
  refine ⟨?_, ?_, ?_, ?_⟩
  · simp [ofWord, ofCounts]
  · simp [ofWord, ofCounts]; omega
  · simp only [ofWord, ofCounts]
    split
    · rename_i h; simp [maxExtraCaps] at h; omega
    · simp; omega
  · simp only [ofWord, ofCounts]
    split <;> (rename_i h; simp [maxArgs] at h ⊢; omega)

/-- The word is put together from what of each field fits into its digits. -/
theorem toNat_toWord (info : MessageInfo) :
    info.toWord.toNat = info.label.toNat % 0x10000000000000 * 4096 + info.capsUnwrapped.toNat % 8 * 512
      + info.extraCaps.toNat % 4 * 128 + info.length.toNat % 128 := by
  have := info.label.toNat_lt
  simp only [toWord, UInt64.toNat_add, UInt64.toNat_mul, UInt64.toNat_mod]
  simp; omega

end MessageInfo

end InterruptCaps
