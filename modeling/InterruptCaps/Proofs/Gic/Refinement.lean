import InterruptCaps.Proofs.Gic.Rewiring
import Mathlib.Logic.Function.Basic

/-! A distributor is as good as one without a frame, in which each interrupt has a trigger and a
    target of its own. A `Wiring` is such an ideal distributor: an operation changes it at one
    register, or reads one.

    | operation    | register           | refused, in this order                        |
    | ------------ | ------------------ | --------------------------------------------- |
    | `setTrigger` | trigger of `irq`   | number above the limit                        |
    | `setTarget`  | target of `irq`    | private, no such interface, above the limit   |
    | `getTarget`  | target of `irq`    | number above the limit                        |
    | `selfTarget` | target of 0        |                                               |

    Main statement: the distributor answers each series of operations as the wiring does that it
    shows, what a register reads is what the last operation that succeeded has set it to, and
    operations on different registers can change places. -/

namespace InterruptCaps

/-! ### Frames bit by bit -/

namespace Frame

/-- A frame is its bits. -/
theorem ext_bit {f g : Frame} (h : ∀ n, f.bit n = g.bit n) : f = g := by
  have hbyte : ∀ i, f.byte i = g.byte i := fun i => byte_eq_of_bit fun n _ => h n
  obtain ⟨bytes⟩ := f
  obtain ⟨bytes'⟩ := g
  refine congrArg mk (Vector.ext fun i hi => ?_)
  have hi' := hbyte i
  simpa only [byte, Vector.getElem?_eq_getElem hi, Option.getD_some] using hi'

/-- A byte that is written is all that changes. -/
theorem bit_setByte_eq (f : Frame) {offset : Nat} (v : UInt8) (h : offset < frameSize) (n : Nat) :
    (f.setByte offset v).bit n
      = if offset = n / 8 then v.toBitVec.getLsbD (n % 8) else f.bit n := by
  by_cases hn : offset = n / 8
  · subst hn
    rw [bit, byte_setByte, if_pos ⟨rfl, h⟩, if_pos rfl]
  · rw [bit_setByte f offset v hn, if_neg hn]

theorem word_lt (f : Frame) (offset : Nat) : f.word offset < 2 ^ 32 := by
  have h0 := (f.byte offset).toNat_lt
  have h1 := (f.byte (offset + 1)).toNat_lt
  have h2 := (f.byte (offset + 2)).toNat_lt
  have h3 := (f.byte (offset + 3)).toNat_lt
  rw [word]
  omega

/-- A word of 32 bits with bit `i` set or cleared. -/
def wordWith (word i : Nat) (v : Bool) : Nat :=
  if v then word ||| 2 ^ i else word &&& ((2 ^ 32 - 1) ^^^ 2 ^ i)

theorem testBit_wordWith (word : Nat) {i j : Nat} (v : Bool) (hj : j < 32) :
    (wordWith word i v).testBit j = if i = j then v else word.testBit j := by
  rw [wordWith]
  cases v with
  | false =>
    simp only [Bool.false_eq_true, if_false, Nat.testBit_and, Nat.testBit_xor,
      Nat.testBit_two_pow_sub_one, Nat.testBit_two_pow, hj, decide_true]
    by_cases h : i = j <;> simp [h]
  | true =>
    simp only [if_true, Nat.testBit_or, Nat.testBit_two_pow]
    by_cases h : i = j <;> simp [h]

theorem wordWith_lt {word i : Nat} (v : Bool) (hword : word < 2 ^ 32) (hi : i < 32) :
    wordWith word i v < 2 ^ 32 := by
  rw [wordWith]
  split
  · exact Nat.or_lt_two_pow hword (Nat.pow_lt_pow_right (by decide) hi)
  · exact Nat.lt_of_le_of_lt Nat.and_le_left hword

/-- Setting a bit of the frame is to read the word around it and to write it back with the bit. -/
theorem setBit_eq_setWord (f : Frame) {offset i : Nat} (ho : offset + 4 ≤ frameSize) (hi : i < 32)
    (v : Bool) :
    f.setBit (8 * offset + i) v = f.setWord offset (wordWith (f.word offset) i v) := by
  have hread := f.word_setWord ho (wordWith_lt v (f.word_lt offset) hi)
  have hin : 8 * offset + i < 8 * frameSize := by omega
  refine ext_bit fun n => ?_
  rw [bit_setBit _ _ _ _ hin]
  by_cases hn : offset ≤ n / 8 ∧ n / 8 < offset + 4
  · obtain ⟨j, rfl⟩ : ∃ j, n = 8 * offset + j := ⟨n - 8 * offset, by omega⟩
    have hj : j < 32 := by omega
    rw [← testBit_word (f.setWord _ _) offset hj, hread, testBit_wordWith _ _ hj,
      testBit_word f offset hj]
    simp only [Nat.add_left_cancel_iff]
  · rw [bit_setWord _ _ _ (by omega), if_neg (by omega)]

end Frame

/-! ### Operations and the wiring that they work on -/

/-- What a driver can ask of a distributor. -/
inductive Operation where
  | setTrigger (irq : Nat) (t : Trigger)
  | setTarget (irq core : Nat)
  | getTarget (irq : Nat)
  | selfTarget

/-- The answer to an operation: a mask, if it reads one. -/
abbrev Answer : Type := Except CallFailure (Option TargetMask)

/-- The trigger or the target of one interrupt. -/
inductive Register where
  | trigger (irq : Nat)
  | target (irq : Nat)
  deriving DecidableEq

/-- The register that a bit of the frame belongs to, if to any: targets come first. -/
def Register.ofBit (n : Nat) : Register :=
  if n < 8 * Distributor.triggersOffset then .target (n / 8 - Distributor.targetsOffset)
  else .trigger ((n - 8 * Distributor.triggersOffset) / 2)

/-- A distributor without a frame: each interrupt has its trigger and its target. -/
structure Wiring where
  trigger : Nat → Trigger
  target : Nat → TargetMask

namespace Operation

/-- The register that is written or read. -/
def register : Operation → Register
  | setTrigger irq _ => .trigger irq
  | setTarget irq _ | getTarget irq => .target irq
  | selfTarget => .target 0

/-- The interrupt whose register it is. -/
def irq : Operation → Nat
  | setTrigger irq _ | setTarget irq _ | getTarget irq => irq
  | selfTarget => 0

/-- Whether the operation only reads. -/
def Reads : Operation → Prop
  | setTrigger .. | setTarget .. => False
  | getTarget _ | selfTarget => True

/-- Why the controller refuses, if it does: the first objection counts. -/
def refusal? (p : Platform) : Operation → Option ControllerError
  | setTrigger irq _ | getTarget irq =>
    if p.maxIrq < irq then some (.irqOutOfRange 0 p.maxIrq) else none
  | setTarget irq core =>
    if irq < sharedBase then some (.notShared irq)
    else if min maxInterfaces p.cpuInterfaces ≤ core then some (.targetOutOfRange core)
    else if p.maxIrq < irq then some (.irqOutOfRange 0 p.maxIrq)
    else none
  | selfTarget => none

/-- What a wiring replies. -/
def reply (op : Operation) (w : Wiring) : Option TargetMask :=
  match op with
  | setTrigger .. | setTarget .. => none
  | getTarget irq => some (w.target irq)
  | selfTarget => some (w.target 0)

/-- What becomes of a wiring. -/
def rewire (op : Operation) (w : Wiring) : Wiring :=
  match op with
  | setTrigger irq t => { w with trigger := Function.update w.trigger irq t }
  | setTarget irq core =>
    { w with target := Function.update w.target irq (Distributor.single core) }
  | getTarget _ | selfTarget => w

/-- The operation on a wiring. -/
def ideal (p : Platform) (op : Operation) (w : Wiring) : Answer × Wiring :=
  match op.refusal? p with
  | some e => (.error (.refused e), w)
  | none => (.ok (op.reply w), op.rewire w)

/-- The operation on a distributor. -/
def perform (op : Operation) (d : Distributor) : Answer × Distributor :=
  match op with
  | setTrigger irq t => (Controller.setTrigger irq t d).map (·.map fun _ => none) id
  | setTarget irq core => (Controller.setTarget irq core d).map (·.map fun _ => none) id
  | getTarget irq => (Controller.getTarget irq d).map (·.map some) id
  | selfTarget => (Controller.selfTarget d).map (·.map some) id

/-- What becomes of the frame. -/
def write (op : Operation) (f : Frame) : Frame :=
  match op with
  | setTrigger irq t => f.setBit (Distributor.edgeBit irq) t.isEdge
  | setTarget irq core => f.setByte (Distributor.targetsOffset + irq) (Distributor.single core).bits
  | getTarget _ | selfTarget => f

/-- Operations one after another: each with its answer, and the state after them all. -/
def series {S : Type} (step : Operation → S → Answer × S) :
    List Operation → S → List (Operation × Answer) × S
  | [], s => ([], s)
  | op :: ops, s =>
    let (answer, s) := step op s
    let (answers, s) := series step ops s
    ((op, answer) :: answers, s)

/-- The trigger that an operation has set for `irq`, if it has. -/
def trigger? (irq : Nat) : Operation × Answer → Option Trigger
  | (setTrigger irq' t, .ok _) => if irq' = irq then some t else none
  | _ => none

/-- The target that an operation has set for `irq`, if it has. -/
def target? (irq : Nat) : Operation × Answer → Option TargetMask
  | (setTarget irq' core, .ok _) => if irq' = irq then some (Distributor.single core) else none
  | _ => none

end Operation

namespace Distributor

/-- The wiring that can be read off the frame. -/
def wiring (d : Distributor) : Wiring := ⟨d.trigger, d.target⟩

/-- The triggers and targets in the frame are those of a wiring. -/
structure Shows (d : Distributor) (w : Wiring) : Prop where
  trigger : ∀ irq, irq < irqCapacity → d.trigger irq = w.trigger irq
  target : ∀ irq, irq < irqCapacity → d.target irq = w.target irq

theorem shows_wiring (d : Distributor) : d.Shows d.wiring := ⟨fun _ _ => rfl, fun _ _ => rfl⟩

/-! ### Single calls -/

variable {d : Distributor} {irq core : Nat}

/-- Where the limit is within the register arrays, it is all that is checked. -/
theorem checkRegister_eq (hm : d.info.maxIrq ≤ maxLine) (irq : Nat) :
    d.checkRegister irq = if d.info.maxIrq < irq
      then .error (.refused (.irqOutOfRange 0 d.info.maxIrq)) else .ok () := by
  by_cases h : d.info.maxIrq < irq
  · rw [checkRegister, if_pos h, if_pos h]
  · rw [checkRegister_eq_ok (Nat.le_of_not_lt h) hm, if_neg h]

theorem interfaceMask_eq (d : Distributor) (core : Nat) :
    d.interfaceMask core = if min maxInterfaces d.info.cpuInterfaces ≤ core
      then .error (.refused (.targetOutOfRange core)) else .ok (single core) := by
  rw [interfaceMask, TargetMask.single?]
  by_cases hmax : core < 8
  · by_cases hi : core < d.info.cpuInterfaces
    · have hlt : ¬ min maxInterfaces d.info.cpuInterfaces ≤ core := by
        simp only [maxInterfaces]; omega
      simp only [hmax, hi, hlt, if_true, if_false, single]
    · have hle : min maxInterfaces d.info.cpuInterfaces ≤ core := by omega
      simp only [hmax, hi, hle, if_true, if_false]
  · have hle : min maxInterfaces d.info.cpuInterfaces ≤ core := by
      simp only [maxInterfaces]; omega
    simp only [hmax, hle, if_true, if_false]

theorem setTrigger_eq_ok (h : irq ≤ d.info.maxIrq) (hm : d.info.maxIrq ≤ maxLine) (t : Trigger) :
    d.setTrigger irq t
      = (.ok (), { d with frame := d.frame.setBit (edgeBit irq) t.isEdge }) := by
  rw [setTrigger, checkRegister_eq_ok h hm]

/-- A target is refused for the first objection to it, or its byte is written. -/
theorem setTarget_eq (hm : d.info.maxIrq ≤ maxLine) (irq core : Nat) :
    d.setTarget irq core = match (Operation.setTarget irq core).refusal? d.info with
      | some e => (.error (.refused e), d)
      | none => (.ok (), { d with frame := (Operation.setTarget irq core).write d.frame }) := by
  simp only [setTarget, checkRegister_eq hm, interfaceMask_eq, Operation.refusal?]
  by_cases hp : irq < sharedBase
  · simp only [hp, if_true]
  · by_cases hc : min maxInterfaces d.info.cpuInterfaces ≤ core
    · simp only [hp, hc, if_true, if_false]
    · by_cases h : d.info.maxIrq < irq <;> simp only [hp, hc, h, if_true, if_false]
      rfl

theorem getTarget_eq_ok (h : irq ≤ d.info.maxIrq) (hm : d.info.maxIrq ≤ maxLine) :
    d.getTarget irq = .ok (d.target irq) := by
  rw [getTarget, checkRegister_eq_ok h hm]
  rfl

/-- Every interrupt in the register arrays has its edge bit in the frame. -/
theorem edgeBit_lt (h : irq < irqCapacity) : edgeBit irq < 8 * frameSize := by
  simp only [edgeBit, triggersOffset, irqCapacity, frameSize] at *
  omega

end Distributor

namespace Operation

variable {d : Distributor} {w : Wiring} {op op' : Operation}

/-- An operation is refused, or it replies what the wiring does and writes the frame. -/
theorem perform_eq (hm : d.info.maxIrq ≤ maxLine) (op : Operation) :
    op.perform d = match op.refusal? d.info with
      | some e => (.error (.refused e), d)
      | none => (.ok (op.reply d.wiring), { d with frame := op.write d.frame }) := by
  cases op with
  | setTrigger irq t =>
    simp only [perform, Controller.setTrigger, Distributor.setTrigger,
      Distributor.checkRegister_eq hm, refusal?]
    by_cases h : d.info.maxIrq < irq <;> simp only [h, if_true, if_false] <;> rfl
  | setTarget irq core =>
    simp only [perform, Controller.setTarget, Distributor.setTarget_eq hm]
    cases (setTarget irq core).refusal? d.info <;> rfl
  | getTarget irq =>
    simp only [perform, Controller.getTarget, Distributor.getTarget,
      Distributor.checkRegister_eq hm, refusal?]
    by_cases h : d.info.maxIrq < irq <;> simp only [h, if_true, if_false] <;> rfl
  | selfTarget => rfl

theorem perform_of_refused {e : ControllerError} (hm : d.info.maxIrq ≤ maxLine)
    (h : op.refusal? d.info = some e) : op.perform d = (.error (.refused e), d) := by
  rw [perform_eq hm, h]

theorem perform_of_accepted (hm : d.info.maxIrq ≤ maxLine) (h : op.refusal? d.info = none) :
    op.perform d = (.ok (op.reply d.wiring), { d with frame := op.write d.frame }) := by
  rw [perform_eq hm, h]

theorem irq_le_of_accepted {p : Platform} (h : op.refusal? p = none) : op.irq ≤ p.maxIrq := by
  cases op with
  | setTrigger irq t | getTarget irq =>
    rw [refusal?] at h
    split at h
    · cases h
    · exact Nat.le_of_not_lt ‹_›
  | setTarget irq core =>
    rw [refusal?] at h
    split at h
    · cases h
    · split at h
      · cases h
      · split at h
        · cases h
        · exact Nat.le_of_not_lt ‹_›
  | selfTarget => exact Nat.zero_le _

theorem irq_lt_of_accepted {p : Platform} (hm : p.maxIrq ≤ maxLine) (h : op.refusal? p = none) :
    op.irq < Distributor.irqCapacity :=
  Distributor.lt_irqCapacity (Nat.le_trans (irq_le_of_accepted h) hm)

theorem routable_of_accepted {irq core : Nat} (h : (setTarget irq core).refusal? d.info = none) :
    d.Routable irq core := by
  rw [refusal?] at h
  split at h
  · cases h
  · rename_i hshared
    split at h
    · cases h
    · rename_i hcore
      exact ⟨Nat.le_of_not_lt hshared, by omega, by omega⟩

/-! ### The wiring that a distributor shows -/

/-- An operation that is accepted replies alike to distributors and wirings that look alike. -/
theorem reply_of_shows (hm : d.info.maxIrq ≤ maxLine) (h : d.Shows w)
    (accepted : op.refusal? d.info = none) : op.reply d.wiring = op.reply w := by
  have hlt := irq_lt_of_accepted hm accepted
  cases op with
  | setTrigger | setTarget => rfl
  | getTarget irq => exact congrArg some (h.target irq hlt)
  | selfTarget => exact congrArg some (h.target 0 hlt)

/-- What it writes into the frame is what it sets in the wiring. -/
theorem shows_write (hm : d.info.maxIrq ≤ maxLine) (h : d.Shows w)
    (accepted : op.refusal? d.info = none) :
    ({ d with frame := op.write d.frame } : Distributor).Shows (op.rewire w) := by
  cases op with
  | setTrigger irq t =>
    have hirq : irq ≤ d.info.maxIrq := irq_le_of_accepted accepted
    have hset := Distributor.setTrigger_eq_ok hirq hm t
    have htrigger := Distributor.trigger_setTrigger hirq hm t
    have htarget : ∀ irq', irq' < Distributor.irqCapacity →
        (d.setTrigger irq t).2.target irq' = d.target irq' := by
      intro irq' hlt
      exact Distributor.target_setTrigger d irq t hlt
    rw [hset] at htrigger
    rw [hset] at htarget
    refine ⟨fun irq' hlt => ?_, fun irq' hlt => (htarget irq' hlt).trans (h.target irq' hlt)⟩
    refine (htrigger irq').trans ?_
    simp only [rewire, Function.update_apply, h.trigger irq' hlt, eq_comm]
  | setTarget irq core =>
    have hirq : irq ≤ d.info.maxIrq := irq_le_of_accepted accepted
    have hroute := routable_of_accepted accepted
    have hset := Distributor.setTarget_eq_ok hirq hm hroute
    have htrigger := Distributor.trigger_setTarget d irq core
    rw [hset] at htrigger
    refine ⟨fun irq' hlt => (htrigger irq').trans (h.trigger irq' hlt), fun irq' hlt => ?_⟩
    refine (Distributor.target_of_setTarget_ok hset irq').trans ?_
    simp only [rewire, Function.update_apply, h.target irq' hlt, eq_comm]
  | getTarget irq => exact h
  | selfTarget => exact h

/-- One operation: the same answer, the same description, and the wiring is shown still. -/
theorem perform_ideal (hm : d.info.maxIrq ≤ maxLine) (h : d.Shows w) (op : Operation) :
    (op.perform d).1 = (op.ideal d.info w).1 ∧ (op.perform d).2.info = d.info
      ∧ (op.perform d).2.Shows (op.ideal d.info w).2 := by
  cases hr : op.refusal? d.info with
  | some e =>
    rw [perform_of_refused hm hr, ideal, hr]
    exact ⟨rfl, rfl, h⟩
  | none =>
    rw [perform_of_accepted hm hr, ideal, hr]
    exact ⟨congrArg Except.ok (reply_of_shows hm h hr), rfl, shows_write hm h hr⟩

/-- A distributor answers a series of operations as the wiring does that it shows. -/
theorem series_ideal (hm : d.info.maxIrq ≤ maxLine) (h : d.Shows w) (ops : List Operation) :
    (series perform ops d).1 = (series (ideal d.info) ops w).1
      ∧ (series perform ops d).2.info = d.info
      ∧ (series perform ops d).2.Shows (series (ideal d.info) ops w).2 := by
  induction ops generalizing d w with
  | nil => exact ⟨rfl, rfl, h⟩
  | cons op ops ih =>
    obtain ⟨hanswer, hinfo, hshows⟩ := perform_ideal hm h op
    have hrest := ih (hinfo.symm ▸ hm) hshows
    rw [hinfo] at hrest
    obtain ⟨hanswers, hinfo', hshows'⟩ := hrest
    refine ⟨?_, hinfo', hshows'⟩
    show (op, (op.perform d).1) :: (series perform ops (op.perform d).2).1 = _
    rw [hanswer, hanswers]
    rfl

/-! ### What a register reads -/

/-- One operation sets a register of a wiring, or leaves it as it was. -/
theorem ideal_set (p : Platform) (op : Operation) (w : Wiring) (irq : Nat) :
    (op.ideal p w).2.trigger irq = (trigger? irq (op, (op.ideal p w).1)).getD (w.trigger irq)
      ∧ (op.ideal p w).2.target irq = (target? irq (op, (op.ideal p w).1)).getD (w.target irq) := by
  rw [ideal]
  cases op.refusal? p with
  | some e => cases op <;> exact ⟨rfl, rfl⟩
  | none =>
    cases op with
    | setTrigger irq' t =>
      refine ⟨?_, rfl⟩
      simp only [rewire, trigger?, Function.update_apply, eq_comm]
      split <;> rfl
    | setTarget irq' core =>
      refine ⟨rfl, ?_⟩
      simp only [rewire, target?, Function.update_apply, eq_comm]
      split <;> rfl
    | getTarget irq' => exact ⟨rfl, rfl⟩
    | selfTarget => exact ⟨rfl, rfl⟩

/-- Searched from its end, a list that begins with `x` gives the result for `x` last. -/
theorem findSome?_reverse_cons {α β : Type} (f : α → Option β) (x : α) (xs : List α) (b : β) :
    ((x :: xs).reverse.findSome? f).getD b = (xs.reverse.findSome? f).getD ((f x).getD b) := by
  rw [List.reverse_cons, List.findSome?_append, List.findSome?_singleton, Option.getD_or]

/-- A register of a wiring reads what the last operation that succeeded on it has set it to. -/
theorem ideal_lastSet (p : Platform) (ops : List Operation) (w : Wiring) (irq : Nat) :
    (series (ideal p) ops w).2.trigger irq
        = ((series (ideal p) ops w).1.reverse.findSome? (trigger? irq)).getD (w.trigger irq)
      ∧ (series (ideal p) ops w).2.target irq
        = ((series (ideal p) ops w).1.reverse.findSome? (target? irq)).getD (w.target irq) := by
  induction ops generalizing w with
  | nil => exact ⟨rfl, rfl⟩
  | cons op ops ih =>
    obtain ⟨htrigger, htarget⟩ := ih (op.ideal p w).2
    obtain ⟨htrigger₁, htarget₁⟩ := ideal_set p op w irq
    simp only [series, findSome?_reverse_cons]
    rw [htrigger, htarget, htrigger₁, htarget₁]
    exact ⟨rfl, rfl⟩

/-- The same of a distributor, whose registers are read from the frame. -/
theorem series_lastSet (hm : d.info.maxIrq ≤ maxLine) (ops : List Operation) {irq : Nat}
    (hirq : irq < Distributor.irqCapacity) :
    (series perform ops d).2.trigger irq
        = ((series perform ops d).1.reverse.findSome? (trigger? irq)).getD (d.trigger irq)
      ∧ (series perform ops d).2.target irq
        = ((series perform ops d).1.reverse.findSome? (target? irq)).getD (d.target irq) := by
  obtain ⟨hanswers, -, hshows⟩ := series_ideal hm d.shows_wiring ops
  rw [hanswers, hshows.trigger irq hirq, hshows.target irq hirq]
  exact ideal_lastSet d.info ops d.wiring irq

/-! ### Operations that change places -/

/-- The bit that the operation writes at `n`, if it writes there. -/
def bit? (op : Operation) (n : Nat) : Option Bool :=
  match op with
  | setTrigger irq t => if Distributor.edgeBit irq = n then some t.isEdge else none
  | setTarget irq core =>
    if Distributor.targetsOffset + irq = n / 8
      then some ((Distributor.single core).bits.toBitVec.getLsbD (n % 8)) else none
  | getTarget _ | selfTarget => none

theorem bit_write (f : Frame) (h : op.irq < Distributor.irqCapacity) (n : Nat) :
    (op.write f).bit n = (op.bit? n).getD (f.bit n) := by
  cases op with
  | setTrigger irq t =>
    have hin : Distributor.edgeBit irq < 8 * frameSize := Distributor.edgeBit_lt h
    rw [write, Frame.bit_setBit _ _ _ _ hin, bit?]
    split <;> rfl
  | setTarget irq core =>
    have hin : Distributor.targetsOffset + irq < frameSize := Distributor.targetsOffset_add_lt h
    rw [write, Frame.bit_setByte_eq _ _ hin, bit?]
    split <;> rfl
  | getTarget irq => rfl
  | selfTarget => rfl

/-- The bit belongs to the register of the operation. -/
theorem register_of_bit? {n : Nat} (h : op.irq < Distributor.irqCapacity) (hn : op.bit? n ≠ none) :
    op.register = .ofBit n := by
  cases op with
  | setTrigger irq t =>
    obtain rfl : Distributor.edgeBit irq = n := by simpa [bit?] using hn
    rw [register, Register.ofBit, if_neg (by simp only [Distributor.edgeBit]; omega)]
    exact congrArg Register.trigger (by simp only [Distributor.edgeBit]; omega)
  | setTarget irq core =>
    have hbyte : Distributor.targetsOffset + irq = n / 8 := by simpa [bit?] using hn
    have hlt : n < 8 * Distributor.triggersOffset := by
      have hirq : irq < Distributor.irqCapacity := h
      simp only [Distributor.targetsOffset, Distributor.triggersOffset,
        Distributor.irqCapacity] at *
      omega
    rw [register, Register.ofBit, if_pos hlt, ← hbyte, Nat.add_sub_cancel_left]
  | getTarget irq => exact absurd rfl hn
  | selfTarget => exact absurd rfl hn

/-- Writes to different registers can change places. -/
theorem write_comm (h : op.register ≠ op'.register) (hlt : op.irq < Distributor.irqCapacity)
    (hlt' : op'.irq < Distributor.irqCapacity) (f : Frame) :
    op.write (op'.write f) = op'.write (op.write f) := by
  refine Frame.ext_bit fun n => ?_
  rw [bit_write _ hlt, bit_write _ hlt', bit_write _ hlt', bit_write _ hlt]
  by_cases hn : op.bit? n = none
  · rw [hn]
    rfl
  · by_cases hn' : op'.bit? n = none
    · rw [hn']
      rfl
    · exact absurd ((register_of_bit? hlt hn).trans (register_of_bit? hlt' hn').symm) h

/-- A reply is about its own register. -/
theorem reply_rewire (h : op.register ≠ op'.register) (w : Wiring) :
    op'.reply (op.rewire w) = op'.reply w := by
  have hread : ∀ irq, op.register ≠ .target irq → (op.rewire w).target irq = w.target irq := by
    intro irq hne
    cases op with
    | setTarget irq' core =>
      have hirq : irq ≠ irq' := fun he => hne (congrArg Register.target he.symm)
      exact Function.update_of_ne hirq _ _
    | _ => rfl
  cases op' with
  | setTrigger | setTarget => rfl
  | getTarget irq => exact congrArg some (hread irq h)
  | selfTarget => exact congrArg some (hread 0 h)

theorem reply_write (hm : d.info.maxIrq ≤ maxLine) (h : op.register ≠ op'.register)
    (accepted : op.refusal? d.info = none) (accepted' : op'.refusal? d.info = none) :
    op'.reply ({ d with frame := op.write d.frame } : Distributor).wiring = op'.reply d.wiring := by
  have hshows := shows_write hm d.shows_wiring accepted
  rw [← reply_rewire h d.wiring]
  exact reply_of_shows (d := { d with frame := op.write d.frame }) hm hshows accepted'

/-- Operations on different registers can change places: both orders give the same answers and
    leave the same distributor. -/
theorem perform_comm (hm : d.info.maxIrq ≤ maxLine) (h : op.register ≠ op'.register) :
    (op'.perform (op.perform d).2).1 = (op'.perform d).1
      ∧ (op.perform (op'.perform d).2).1 = (op.perform d).1
      ∧ (op'.perform (op.perform d).2).2 = (op.perform (op'.perform d).2).2 := by
  have hinfo := (perform_ideal hm d.shows_wiring op).2.1
  have hinfo' := (perform_ideal hm d.shows_wiring op').2.1
  cases hr : op.refusal? d.info with
  | some e =>
    have late : op.perform (op'.perform d).2 = (.error (.refused e), (op'.perform d).2) :=
      perform_of_refused (hinfo'.symm ▸ hm) (hinfo'.symm ▸ hr)
    rw [perform_of_refused hm hr, late]
    exact ⟨rfl, rfl, rfl⟩
  | none =>
    cases hr' : op'.refusal? d.info with
    | some e =>
      have late : op'.perform (op.perform d).2 = (.error (.refused e), (op.perform d).2) :=
        perform_of_refused (hinfo.symm ▸ hm) (hinfo.symm ▸ hr')
      rw [perform_of_refused hm hr', late]
      exact ⟨rfl, rfl, rfl⟩
    | none =>
      have hlt := irq_lt_of_accepted hm hr
      have hlt' := irq_lt_of_accepted hm hr'
      rw [perform_of_accepted hm hr, perform_of_accepted hm hr',
        perform_of_accepted (d := { d with frame := op.write d.frame }) hm hr',
        perform_of_accepted (d := { d with frame := op'.write d.frame }) hm hr,
        reply_write hm h hr hr', reply_write hm h.symm hr' hr]
      refine ⟨rfl, rfl, ?_⟩
      simp only [write_comm h hlt hlt']

/-- What is refused or only reads changes nothing. -/
theorem perform_unchanged (hm : d.info.maxIrq ≤ maxLine)
    (h : op.Reads ∨ ∃ e, (op.perform d).1 = .error e) : (op.perform d).2 = d := by
  cases hr : op.refusal? d.info with
  | some e => rw [perform_of_refused hm hr]
  | none =>
    rw [perform_of_accepted hm hr] at h ⊢
    rcases h with hreads | ⟨e, he⟩
    · cases op with
      | setTrigger | setTarget => exact hreads.elim
      | getTarget | selfTarget => rfl
    · cases he

end Operation

namespace Distributor

open Operation (series perform ideal trigger? target?)

variable {d : Distributor} {irq : Nat}

/-- A trigger is set by rewriting one configuration word, and one bit of it changes. -/
theorem setTrigger_alone (hirq : irq ≤ d.info.maxIrq) (hm : d.info.maxIrq ≤ maxLine)
    (t : Trigger) :
    ∃ d', d.setTrigger irq t = (.ok (), d') ∧ d'.info = d.info ∧ d'.trigger irq = t
      ∧ (∀ n, n ≠ edgeBit irq → d'.frame.bit n = d.frame.bit n)
      ∧ d'.frame = d.frame.setWord (triggersOffset + 4 * (irq / 16))
        (Frame.wordWith (d.frame.word (triggersOffset + 4 * (irq / 16))) (2 * (irq % 16) + 1)
          t.isEdge) := by
  have hset := setTrigger_eq_ok hirq hm t
  have rewired := setTrigger_rewired hset
  refine ⟨_, hset, rfl, ?_, fun n hn => ?_, ?_⟩
  · have htrigger := trigger_setTrigger hirq hm t irq
    rwa [hset, if_pos rfl] at htrigger
  · exact rewired.others n (fun _ => hn) fun hnone => by cases hnone
  · have hlt : irq < irqCapacity := lt_irqCapacity (Nat.le_trans hirq hm)
    have hword : triggersOffset + 4 * (irq / 16) + 4 ≤ frameSize := by
      simp only [triggersOffset, irqCapacity, frameSize] at *
      omega
    rw [← Frame.setBit_eq_setWord _ hword (by omega)]
    exact congrArg (d.frame.setBit · t.isEdge) (by rw [edgeBit]; omega)

/-- A target is refused for the first objection to it, or its byte names the interface alone. -/
theorem setTarget_decided (hm : d.info.maxIrq ≤ maxLine) (irq core : Nat) :
    match (Operation.setTarget irq core).refusal? d.info with
    | some e => d.setTarget irq core = (.error (.refused e), d)
    | none => ∃ d', d.setTarget irq core = (.ok (), d') ∧ d'.info = d.info
      ∧ (∃ mask, d'.getTarget irq = .ok mask ∧ mask.bits.toNat = 2 ^ core)
      ∧ ∀ offset, offset ≠ targetsOffset + irq → d'.frame.byte offset = d.frame.byte offset := by
  have hset := setTarget_eq hm irq core
  cases hr : (Operation.setTarget irq core).refusal? d.info with
  | some e => rwa [hr] at hset
  | none =>
    rw [hr] at hset
    have hirq : irq ≤ d.info.maxIrq := Operation.irq_le_of_accepted hr
    have hroute := Operation.routable_of_accepted hr
    refine ⟨_, hset, rfl, ⟨single core, ?_, toNat_single hroute.lt_max⟩, fun offset hne => ?_⟩
    · have hread := target_of_setTarget_ok hset irq
      rw [if_pos rfl] at hread
      rw [getTarget_eq_ok (by exact hirq) (by exact hm), hread]
    · exact (Frame.byte_setByte ..).trans (if_neg fun h => hne h.1.symm)

/-- A distributor refines one in which every interrupt has a trigger and a target of its own.
    Setting a trigger sets that bit of the frame alone; setting a target is refused for the first
    objection to it, or sets that byte alone; what is refused or only reads changes nothing. So a
    series of operations is answered as by the wiring that the distributor shows, a register reads
    what the last operation that succeeded has set it to, and operations on different registers,
    be it of two interrupts or the trigger and the target of one, can change places. -/
theorem refines_wiring (hm : d.info.maxIrq ≤ maxLine) :
    (∀ irq t, irq ≤ d.info.maxIrq → ∃ d', d.setTrigger irq t = (.ok (), d') ∧ d'.info = d.info
        ∧ d'.trigger irq = t ∧ (∀ n, n ≠ edgeBit irq → d'.frame.bit n = d.frame.bit n)
        ∧ d'.frame = d.frame.setWord (triggersOffset + 4 * (irq / 16))
          (Frame.wordWith (d.frame.word (triggersOffset + 4 * (irq / 16))) (2 * (irq % 16) + 1)
            t.isEdge))
      ∧ (∀ irq core, match (Operation.setTarget irq core).refusal? d.info with
        | some e => d.setTarget irq core = (.error (.refused e), d)
        | none => ∃ d', d.setTarget irq core = (.ok (), d') ∧ d'.info = d.info
          ∧ (∃ mask, d'.getTarget irq = .ok mask ∧ mask.bits.toNat = 2 ^ core)
          ∧ ∀ offset, offset ≠ targetsOffset + irq → d'.frame.byte offset = d.frame.byte offset)
      ∧ (∀ op : Operation, op.Reads ∨ (∃ e, (op.perform d).1 = .error e) → (op.perform d).2 = d)
      ∧ (∀ ops w, d.Shows w →
        (series perform ops d).1 = (series (ideal d.info) ops w).1
          ∧ (series perform ops d).2.info = d.info
          ∧ (series perform ops d).2.Shows (series (ideal d.info) ops w).2)
      ∧ (∀ ops irq, irq < irqCapacity →
        (series perform ops d).2.trigger irq
            = ((series perform ops d).1.reverse.findSome? (trigger? irq)).getD (d.trigger irq)
          ∧ (series perform ops d).2.target irq
            = ((series perform ops d).1.reverse.findSome? (target? irq)).getD (d.target irq))
      ∧ ∀ op op' : Operation, op.register ≠ op'.register →
        (op'.perform (op.perform d).2).1 = (op'.perform d).1
          ∧ (op.perform (op'.perform d).2).1 = (op.perform d).1
          ∧ (op'.perform (op.perform d).2).2 = (op.perform (op'.perform d).2).2 :=
  ⟨fun _ t hirq => setTrigger_alone hirq hm t, setTarget_decided hm,
    fun _ h => Operation.perform_unchanged hm h, fun ops _ h => Operation.series_ideal hm h ops,
    fun ops _ h => Operation.series_lastSet hm ops h, fun _ _ h => Operation.perform_comm hm h⟩

/-- Interrupts 42 and 43 share a configuration word and their targets share a word too. The target
    of a private interrupt and an interface that is not there are refused on the way. -/
theorem refines_wiring_shared_word :
    let d : Distributor := ⟨.zero, ⟨1019, true, 4⟩⟩
    let ops : List Operation := [.setTrigger 42 .edge, .setTarget 42 3, .setTrigger 43 .edge,
      .setTarget 27 0, .setTrigger 42 .level, .setTarget 42 4]
    let after := (series perform ops d).2
    d.info.maxIrq ≤ maxLine ∧ after.trigger 42 = .level ∧ after.trigger 43 = .edge
      ∧ after.target 42 = single 3 ∧ after.target 43 = d.target 43 := by
  intro d ops after
  have hm : d.info.maxIrq ≤ maxLine := by decide
  obtain ⟨-, -, -, hseries, -⟩ := refines_wiring hm
  obtain ⟨-, -, hshows⟩ := hseries ops d.wiring d.shows_wiring
  exact ⟨hm, hshows.trigger 42 (by decide), hshows.trigger 43 (by decide),
    hshows.target 42 (by decide), hshows.target 43 (by decide)⟩

end Distributor

end InterruptCaps
