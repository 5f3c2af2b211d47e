import InterruptCaps.Message.Packed
import Mathlib.Algebra.Group.Nat.Defs

/-! Reading and writing message-info words. A word is read as four numbers, the groups of its bits,
    and a record is written as the word with these groups. So a written record is read back with
    each field cut to its group, and the length brought down once more, to what a message holds.
    The records that words stand for are those that come back as they were. Shifts and masks come
    to the same as these groups, since no field reaches into the one above.

    | field           | group     | as read                |
    | --------------- | --------- | ---------------------- |
    | `label`         | 12 to 63  | any                    |
    | `capsUnwrapped` | 9 to 11   | any                    |
    | `extraCaps`     | 7 and 8   | any, so at most three  |
    | `length`        | 0 to 6    | at most 120            | -/

namespace InterruptCaps.MessageInfo

/-! ### Groups of bits -/

/-- Every field is one that a word can state. -/
structure Fits (info : MessageInfo) : Prop where
  label_lt : info.label.toNat < 2 ^ 52
  capsUnwrapped_le : info.capsUnwrapped.toNat ≤ 7
  extraCaps_le : info.extraCaps.toNat ≤ maxExtraCaps
  length_le : info.length.toNat ≤ maxArgs

/-- Every field of `cut` is what a word keeps of the field of `info`. -/
structure KeptOf (cut info : MessageInfo) : Prop where
  label_eq : cut.label.toNat = info.label.toNat % 2 ^ 52
  capsUnwrapped_eq : cut.capsUnwrapped.toNat = info.capsUnwrapped.toNat % 8
  extraCaps_eq : cut.extraCaps.toNat = info.extraCaps.toNat % 4
  length_eq : cut.length.toNat = min (info.length.toNat % 128) maxArgs

/-- A record is its four numbers. -/
theorem eq_iff_toNat {info info' : MessageInfo} : info = info'
    ↔ info.label.toNat = info'.label.toNat
      ∧ info.capsUnwrapped.toNat = info'.capsUnwrapped.toNat
      ∧ info.extraCaps.toNat = info'.extraCaps.toNat ∧ info.length.toNat = info'.length.toNat := by
  obtain ⟨label, capsUnwrapped, extraCaps, length⟩ := info
  obtain ⟨label', capsUnwrapped', extraCaps', length'⟩ := info'
  simp only [mk.injEq, UInt64.toNat_inj, UInt8.toNat_inj]

variable (word : UInt64) (info : MessageInfo)

theorem fits_ofWord : (ofWord word).Fits := by
  obtain ⟨hlabel, hunwrapped, hextra, hlength⟩ := toNat_ofWord word
  have hword := word.toNat_lt
  refine ⟨?_, ?_, ?_, ?_⟩
  · omega
  · omega
  · rw [maxExtraCaps]
    omega
  · rw [maxArgs]
    omega

/-- What is written is read back as far as the word keeps it. -/
theorem ofWord_toWord_kept : (ofWord info.toWord).KeptOf info := by
  obtain ⟨hlabel, hunwrapped, hextra, hlength⟩ := toNat_ofWord info.toWord
  have hword := toNat_toWord info
  refine ⟨?_, ?_, ?_, ?_⟩
  · omega
  · omega
  · omega
  · rw [maxArgs]
    omega

variable {info}

/-- A record is read back as it was exactly if its fields fit. -/
theorem ofWord_toWord_eq_iff : ofWord info.toWord = info ↔ info.Fits := by
  constructor
  · intro h
    rw [← h]
    exact fits_ofWord _
  · intro h
    obtain ⟨hlabel, hunwrapped, hextra, hlength⟩ := ofWord_toWord_kept info
    have hextra_le := h.extraCaps_le
    rw [maxExtraCaps] at hextra_le
    refine eq_iff_toNat.2 ⟨?_, ?_, ?_, ?_⟩
    · rw [hlabel, Nat.mod_eq_of_lt h.label_lt]
    · rw [hunwrapped, Nat.mod_eq_of_lt (Nat.lt_succ_of_le h.capsUnwrapped_le)]
    · rw [hextra, Nat.mod_eq_of_lt (Nat.lt_succ_of_le hextra_le)]
    · have hlength_le := h.length_le
      rw [maxArgs] at hlength hlength_le
      omega

/-- A word that is read and written again differs in its length at most. -/
theorem toNat_toWord_ofWord :
    (ofWord word).toWord.toNat = word.toNat / 128 * 128 + min (word.toNat % 128) maxArgs := by
  obtain ⟨hlabel, hunwrapped, hextra, hlength⟩ := toNat_ofWord word
  have hword := word.toNat_lt
  rw [toNat_toWord, hlabel, hunwrapped, hextra, hlength, maxArgs]
  omega

/-! ### Shifts and masks -/

/-- A masked word is its remainder. -/
theorem toNat_and_mask (word : UInt64) {bits : UInt64} {width : Nat}
    (h : (fieldMask bits).toNat = 2 ^ width - 1) :
    (word &&& fieldMask bits).toNat = word.toNat % 2 ^ width := by
  rw [UInt64.toNat_and, h, Nat.and_two_pow_sub_one_eq_mod]

/-- A field is shifted down, and the mask takes away what stood above it. -/
theorem toNat_shiftRight_and_mask (word : UInt64) {bits shift : UInt64} {width : Nat}
    (h : (fieldMask bits).toNat = 2 ^ width - 1) (hshift : shift.toNat < 64) :
    (word >>> shift &&& fieldMask bits).toNat = word.toNat / 2 ^ shift.toNat % 2 ^ width := by
  rw [toNat_and_mask _ h, UInt64.toNat_shiftRight, Nat.mod_eq_of_lt hshift,
    Nat.shiftRight_eq_div_pow]

/-- Fields are taken out by shifts and masks. -/
theorem unpack_eq (word : UInt64) : unpack word = ofWord word := by
  have hlabel : word >>> labelShift = word / 4096 := by
    rw [← UInt64.toNat_inj, UInt64.toNat_shiftRight, UInt64.toNat_div, Nat.shiftRight_eq_div_pow]
    rfl
  have hunwrapped : word >>> unwrappedShift &&& fieldMask unwrappedBits = word / 512 % 8 :=
    UInt64.toNat_inj.1 (toNat_shiftRight_and_mask word (by decide : _ = 2 ^ 3 - 1) (by decide))
  have hextra : word >>> extraCapsShift &&& fieldMask extraCapsBits = word / 128 % 4 :=
    UInt64.toNat_inj.1 (toNat_shiftRight_and_mask word (by decide : _ = 2 ^ 2 - 1) (by decide))
  have hlength : word &&& fieldMask lengthBits = word % 128 :=
    UInt64.toNat_inj.1 (toNat_and_mask word (by decide : _ = 2 ^ 7 - 1))
  simp only [unpack, hlabel, hunwrapped, hextra, hlength]
  rfl

/-- What lies below a place does not meet what lies above it. -/
theorem or_eq_add {a b : Nat} (i : Nat) (h : b < 2 ^ i) : a * 2 ^ i ||| b = a * 2 ^ i + b := by
  rw [Nat.mul_comm, Nat.two_pow_add_eq_or_of_lt h]

/-- A masked byte that is shifted to its place keeps all bits that the mask has left. -/
theorem toNat_mask_shiftLeft {byte : UInt8} {bits shift : UInt64} {width : Nat}
    (h : (fieldMask bits).toNat = 2 ^ width - 1) (hplace : shift.toNat + width < 64) :
    ((byte.toUInt64 &&& fieldMask bits) <<< shift).toNat
      = byte.toNat % 2 ^ width * 2 ^ shift.toNat := by
  have hlt : byte.toNat % 2 ^ width * 2 ^ shift.toNat < 2 ^ 64 :=
    calc byte.toNat % 2 ^ width * 2 ^ shift.toNat
      _ < 2 ^ width * 2 ^ shift.toNat :=
        Nat.mul_lt_mul_of_pos_right (Nat.mod_lt _ (Nat.two_pow_pos width)) (Nat.two_pow_pos _)
      _ = 2 ^ (width + shift.toNat) := (Nat.pow_add 2 width shift.toNat).symm
      _ ≤ 2 ^ 64 := Nat.pow_le_pow_right (by decide) (by omega)
  rw [UInt64.toNat_shiftLeft, toNat_and_mask _ h, UInt8.toNat_toUInt64, Nat.shiftLeft_eq,
    Nat.mod_eq_of_lt (by omega : shift.toNat < 64)]
  exact Nat.mod_eq_of_lt hlt

/-- Fields are put together by shifts and masks. -/
theorem pack_eq (info : MessageInfo) : info.pack = info.toWord := by
  have hlabel : (info.label <<< labelShift).toNat = info.label.toNat % 2 ^ 52 * 2 ^ 12 := by
    rw [UInt64.toNat_shiftLeft, Nat.shiftLeft_eq]
    show info.label.toNat * 2 ^ 12 % 2 ^ 64 = _
    omega
  have hunwrapped : ((info.capsUnwrapped.toUInt64 &&& fieldMask unwrappedBits)
      <<< unwrappedShift).toNat = info.capsUnwrapped.toNat % 2 ^ 3 * 2 ^ 9 :=
    toNat_mask_shiftLeft (by decide) (by decide)
  have hextra : ((info.extraCaps.toUInt64 &&& fieldMask extraCapsBits)
      <<< extraCapsShift).toNat = info.extraCaps.toNat % 2 ^ 2 * 2 ^ 7 :=
    toNat_mask_shiftLeft (by decide) (by decide)
  have hlength : (info.length.toUInt64 &&& fieldMask lengthBits).toNat
      = info.length.toNat % 2 ^ 7 := by
    rw [toNat_and_mask _ (by decide : _ = 2 ^ 7 - 1), UInt8.toNat_toUInt64]
  rw [← UInt64.toNat_inj, toNat_toWord, pack, UInt64.toNat_or, UInt64.toNat_or, UInt64.toNat_or,
    hlabel, hunwrapped, hextra, hlength]
  -- from the label down, each field lies below the place of those before it
  have hfirst : info.label.toNat % 2 ^ 52 * 2 ^ 12 ||| info.capsUnwrapped.toNat % 2 ^ 3 * 2 ^ 9
      = (info.label.toNat % 2 ^ 52 * 2 ^ 3 + info.capsUnwrapped.toNat % 2 ^ 3) * 2 ^ 9 := by
    rw [or_eq_add 12 (by omega)]
    omega
  have hsecond (upper : Nat) : upper * 2 ^ 9 ||| info.extraCaps.toNat % 2 ^ 2 * 2 ^ 7
      = (upper * 2 ^ 2 + info.extraCaps.toNat % 2 ^ 2) * 2 ^ 7 := by
    rw [or_eq_add 9 (by omega)]
    omega
  rw [hfirst, hsecond, or_eq_add 7 (by omega)]
  omega

/-- Words stand for the records whose fields fit, and these are read back as they were written. Any
    other word differs from the one written for what it stands for in a length that no message
    has; any other record loses what does not fit. -/
theorem codec_exact (info : MessageInfo) :
    (unpack word).Fits
      ∧ (unpack word).pack.toNat = word.toNat / 128 * 128 + min (word.toNat % 128) maxArgs
      ∧ unpack (unpack word).pack = unpack word
      ∧ (unpack info.pack).KeptOf info
      ∧ (unpack info.pack = info ↔ info.Fits)
      ∧ (info.Fits ↔ ∃ word, unpack word = info) := by
  simp only [unpack_eq, pack_eq]
  refine ⟨fits_ofWord word, toNat_toWord_ofWord word, ofWord_toWord_eq_iff.2 (fits_ofWord word),
    ofWord_toWord_kept info, ofWord_toWord_eq_iff, ?_⟩
  constructor
  · intro h
    exact ⟨info.toWord, ofWord_toWord_eq_iff.2 h⟩
  · rintro ⟨word', rfl⟩
    exact fits_ofWord word'

/-- A length of 127 is read as 120, and so is written back as 120. -/
example : unpack 0x307f = ⟨3, 0, 0, 120⟩ ∧ (⟨3, 0, 0, 120⟩ : MessageInfo).pack = 0x3078 := by
  decide

end InterruptCaps.MessageInfo
