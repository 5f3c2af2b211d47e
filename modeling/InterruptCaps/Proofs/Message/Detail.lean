import InterruptCaps.Message.Error
import Mathlib.Algebra.Group.Nat.Defs

/-! An error as its caller gets it: a code, and numbers that explain it, written as words to the
    front of a buffer of any length. A code can be told from its value, and no error has that of
    success. The words are those of the numbers; a buffer too short for them all has the first ones.

    ```
      w₀  w₁  w₂      -->     0  15  w₂       a range from 0 to 15
      w₀              -->     0
    ``` -/

namespace InterruptCaps

/-! ### Codes -/

theorem ReturnCode.ofInt?_eq_some {value : Int} {c : ReturnCode} :
    ofInt? value = some c ↔ value = c.toInt := by
  constructor
  · intro h
    have hfound := List.find?_some h
    exact (beq_iff_eq.1 hfound).symm
  · rintro rfl
    exact ofInt?_toInt c

/-- The values of failure are those from -10 to -1. -/
theorem ReturnCode.toInt_range {c : ReturnCode} (h : c ≠ .ok) :
    -10 ≤ c.toInt ∧ c.toInt ≤ -1 := by
  cases c with
  | ok => exact absurd rfl h
  | _ => decide

/-! ### The numbers of an error -/

/-- Where a fault stands among all faults. -/
def LookupFault.number (fault : LookupFault) : Nat := all.idxOf fault

namespace InvocationError

/-- The numbers that explain an error. -/
def numbers : InvocationError → List Nat
  | invalidArgument index | invalidCapability index => [index]
  | rangeError least greatest => [least, greatest]
  | failedLookup fault => [fault.number]
  | illegalOperation | truncatedMessage | deleteFirst | revokeFirst | notEnoughMemory => []

theorem toNat_detail (e : InvocationError) :
    e.detail.map UInt64.toNat = e.numbers.map (· % 2 ^ 64) := by
  cases e with
  | failedLookup fault => cases fault <;> rfl
  | invalidArgument | invalidCapability | rangeError =>
    simp only [detail, numbers, List.map_cons, List.map_nil, UInt64.toNat_ofNat']
  | _ => rfl

theorem length_detail (e : InvocationError) : e.detail.length = e.numbers.length := by
  simpa only [List.length_map] using congrArg List.length e.toNat_detail

theorem code_ne_ok (e : InvocationError) : e.code ≠ .ok := by
  cases e <;> nofun

theorem numbers_invalidArgument {index : Nat} (h : index < 2 ^ 64) :
    ∀ n ∈ (invalidArgument index).numbers, n < 2 ^ 64 := by
  simpa only [numbers, List.forall_mem_singleton] using h

theorem numbers_rangeError {least greatest : Nat} (hleast : least < 2 ^ 64)
    (hgreatest : greatest < 2 ^ 64) :
    ∀ n ∈ (rangeError least greatest).numbers, n < 2 ^ 64 := by
  simpa [numbers] using ⟨hleast, hgreatest⟩

theorem numbers_ofSlot (e : SlotError) : ∀ n ∈ (ofSlot e).numbers, n < 2 ^ 64 := by
  cases e <;> decide

end InvocationError

/-! ### The caller's buffer -/

/-- The buffer `after` has the words for `numbers` in front, as far as it goes, and is `reply`
    behind them. -/
structure Fronted (numbers : List Nat) (reply after : List UInt64) : Prop where
  length_eq : after.length = reply.length
  front : ∀ (i n : Nat) (word : UInt64),
    numbers[i]? = some n → after[i]? = some word → word.toNat = n % 2 ^ 64
  rest : ∀ i, numbers.length ≤ i → after[i]? = reply[i]?

/-- A word of the buffer is one of the error, if it has one there, else the word before. -/
theorem InvocationError.getElem?_writeDetail (e : InvocationError) {reply : List UInt64} {i : Nat}
    (hi : i < reply.length) :
    (e.writeDetail reply)[i]? = if i < e.detail.length then e.detail[i]? else reply[i]? := by
  rw [writeDetail, detailWritten, List.getElem?_append, List.length_take, Nat.min_comm]
  by_cases h : i < e.detail.length
  · rw [if_pos (Nat.lt_min.2 ⟨h, hi⟩), if_pos h, List.getElem?_take_of_lt hi]
  · rw [if_neg (fun hlt => h (Nat.lt_min.1 hlt).1), if_neg h, List.getElem?_drop]
    congr 1
    omega

theorem InvocationError.length_writeDetail (e : InvocationError) (reply : List UInt64) :
    (e.writeDetail reply).length = reply.length := by
  rw [writeDetail, detailWritten, List.length_append, List.length_take, List.length_drop]
  omega

theorem InvocationError.fronted_writeDetail (e : InvocationError) (reply : List UInt64) :
    Fronted e.numbers reply (e.writeDetail reply) := by
  have hlength := e.length_writeDetail reply
  refine ⟨hlength, fun i n word hn hword => ?_, fun i hi => ?_⟩
  · have hfits : i < reply.length := hlength ▸ (List.getElem?_eq_some_iff.1 hword).1
    have hdetail : i < e.detail.length := e.length_detail ▸ (List.getElem?_eq_some_iff.1 hn).1
    rw [e.getElem?_writeDetail hfits, if_pos hdetail] at hword
    have hnumber := congrArg (·[i]?) e.toNat_detail
    simpa only [List.getElem?_map, hword, hn, Option.map_some, Option.some.injEq] using hnumber
  · by_cases hfits : i < reply.length
    · rw [e.getElem?_writeDetail hfits, if_neg (Nat.not_lt.2 (e.length_detail ▸ hi))]
    · rw [List.getElem?_eq_none (hlength ▸ Nat.le_of_not_lt hfits),
        List.getElem?_eq_none (Nat.le_of_not_lt hfits)]

end InterruptCaps
