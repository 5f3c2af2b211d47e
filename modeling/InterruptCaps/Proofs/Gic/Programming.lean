import InterruptCaps.Gic.Distributor
import Mathlib.Tactic.Ring

/-! What the calls of a distributor do to the triggers and targets of its lines. Two views say
    everything, the trigger and the target of each interrupt up to the last line: a call changes
    one of them for one interrupt, raising a software-generated interrupt changes neither, and a
    call that fails changes nothing. The description never changes. -/

namespace InterruptCaps

/-- A controller whose description no call changes. -/
class SteadyController (C : Type) [Controller C] : Prop where
  platform_setTrigger (irq : Nat) (t : Trigger) (c : C) :
    Controller.platform (Controller.setTrigger irq t c).2 = Controller.platform c
  platform_setTarget (irq core : Nat) (c : C) :
    Controller.platform (Controller.setTarget irq core c).2 = Controller.platform c
  platform_sendSgi (sgi : Nat) (target : UInt64) (c : C) :
    Controller.platform (Controller.sendSgi sgi target c) = Controller.platform c
  platform_getTarget (irq : Nat) (c : C) :
    Controller.platform (Controller.getTarget irq c).2 = Controller.platform c
  platform_selfTarget (c : C) :
    Controller.platform (Controller.selfTarget c).2 = Controller.platform c

namespace Controller

variable {C : Type} [Controller C] [SteadyController C]

theorem platform_owns (irq : Nat) (c : C) : platform (owns irq c).2 = platform c := by
  have hself := SteadyController.platform_selfTarget c
  rw [owns]
  split
  · simpa [*] using hself
  · rename_i own c₁ h₁
    have hget := SteadyController.platform_getTarget irq c₁
    rw [h₁] at hself
    split <;> rename_i h₂ <;> rw [h₂] at hget <;> exact hget.trans hself

theorem platform_program (irq : Nat) (trigger : Option Trigger) (route : Option Nat) (c : C) :
    platform (program irq trigger route c).2 = platform c := by
  have htrigger : platform (trigger.elim (.ok (), c) (setTrigger irq · c)).2 = platform c := by
    cases trigger with
    | none => rfl
    | some t => exact SteadyController.platform_setTrigger irq t c
  rw [program]
  split <;> rename_i c₁ h₁ <;> rw [h₁] at htrigger
  · exact htrigger
  · cases route with
    | none => exact htrigger
    | some core => exact (SteadyController.platform_setTarget irq core c₁).trans htrigger

end Controller

/-! ### Words of the frame -/

namespace Frame

/-- A word's bits are the frame's, from the first bit of its first byte on. -/
theorem testBit_word (f : Frame) (offset : Nat) {i : Nat} (hi : i < 32) :
    (f.word offset).testBit i = f.bit (8 * offset + i) := by
  have hlt : ∀ o, (f.byte o).toNat < 2 ^ 8 := fun o => (f.byte o).toNat_lt
  have hword : f.word offset = 2 ^ 8 * (2 ^ 8 * (2 ^ 8 * (f.byte (offset + 3)).toNat
      + (f.byte (offset + 2)).toNat) + (f.byte (offset + 1)).toNat) + (f.byte offset).toNat := by
    rw [word]; ring
  have hdiv : (8 * offset + i) / 8 = offset + i / 8 := by omega
  have hmod : (8 * offset + i) % 8 = i % 8 := by omega
  rw [hword, bit, hdiv, hmod, BitVec.getLsbD, UInt8.toNat_toBitVec,
    Nat.testBit_two_pow_mul_add _ (hlt _), Nat.testBit_two_pow_mul_add _ (hlt _),
    Nat.testBit_two_pow_mul_add _ (hlt _)]
  -- the bit is in the byte number `i / 8` of the word
  obtain h | h | h | h : i / 8 = 0 ∨ i / 8 = 1 ∨ i / 8 = 2 ∨ i / 8 = 3 := by omega
  · rw [if_pos (by omega), h, show i % 8 = i by omega, Nat.add_zero]
  · rw [if_neg (by omega), if_pos (by omega), h, show i % 8 = i - 8 by omega]
  · rw [if_neg (by omega), if_neg (by omega), if_pos (by omega), h, show i % 8 = i - 8 - 8 by omega]
  · rw [if_neg (by omega), if_neg (by omega), if_neg (by omega), h,
      show i % 8 = i - 8 - 8 - 8 by omega]

/-- A word that is written reaches no byte before or after it. -/
theorem byte_setWord (f : Frame) (offset value : Nat) {j : Nat}
    (h : j < offset ∨ offset + 4 ≤ j) : (f.setWord offset value).byte j = f.byte j := by
  have hne : offset ≠ j ∧ offset + 1 ≠ j ∧ offset + 2 ≠ j ∧ offset + 3 ≠ j := by omega
  simp only [setWord, byte_setByte, hne, false_and, if_false]

theorem bit_setWord (f : Frame) (offset value : Nat) {n : Nat}
    (h : n / 8 < offset ∨ offset + 4 ≤ n / 8) : (f.setWord offset value).bit n = f.bit n := by
  rw [bit, byte_setWord f offset value h, bit]

theorem bit_setByte (f : Frame) (offset : Nat) (v : UInt8) {n : Nat} (h : offset ≠ n / 8) :
    (f.setByte offset v).bit n = f.bit n := by
  simp only [bit, byte_setByte, h, false_and, if_false]

end Frame

/-! ### Triggers and targets -/

namespace Distributor

/-- The target byte that names one interface. -/
def single (core : Nat) : TargetMask := ⟨UInt8.ofNat (1 <<< core)⟩

theorem toNat_single {core : Nat} (h : core < maxInterfaces) :
    (single core).bits.toNat = 2 ^ core := by
  have : 2 ^ core ≤ 2 ^ 7 := Nat.pow_le_pow_right (by decide) (Nat.le_of_lt_succ h)
  simp only [single, Nat.one_shiftLeft, UInt8.toNat_ofNat']
  exact Nat.mod_eq_of_lt (by omega)

/-- The upper bit of an interrupt's two in its configuration word says whether it is edge
    sensitive. -/
theorem testBit_configuration (d : Distributor) (irq : Nat) :
    (d.frame.word (triggersOffset + 4 * (irq / 16))).testBit (2 * (irq % 16) + 1)
      = (d.trigger irq).isEdge := by
  rw [Frame.testBit_word _ _ (by omega),
    show 8 * (triggersOffset + 4 * (irq / 16)) + (2 * (irq % 16) + 1) = edgeBit irq by
      rw [edgeBit]; omega, trigger]
  split <;> simp_all [Trigger.isEdge]

/-- Only an interrupt in the register arrays has registers. -/
theorem lt_of_checkRegister {d : Distributor} {irq : Nat} (h : d.checkRegister irq = .ok ()) :
    irq < irqCapacity := by
  rw [checkRegister] at h
  split at h
  · cases h
  · split at h
    · cases h
    · omega

/-- Interrupts that can have lines are in the register arrays. -/
theorem lt_irqCapacity {irq : Nat} (h : irq ≤ maxLine) : irq < irqCapacity :=
  Nat.lt_of_le_of_lt h (by decide)

/-- Edge bits and target bytes lie apart. -/
theorem edgeBit_div_ne (irq : Nat) {irq' : Nat} (h : irq' < irqCapacity) :
    edgeBit irq / 8 ≠ targetsOffset + irq' := by
  simp only [edgeBit, triggersOffset, targetsOffset, irqCapacity] at *
  omega

theorem target_setTrigger (d : Distributor) (irq : Nat) (t : Trigger) {irq' : Nat}
    (h : irq' < irqCapacity) : (d.setTrigger irq t).2.target irq' = d.target irq' := by
  rw [setTrigger]
  split
  · rfl
  · simp only [target, Frame.setBit, Frame.byte_setByte, edgeBit_div_ne irq h, false_and, if_false]

/-- A call that is refused changes nothing. -/
theorem setTarget_error {d d' : Distributor} {irq core : Nat} {e : CallFailure}
    (h : d.setTarget irq core = (.error e, d')) : d' = d := by
  rw [setTarget] at h
  split at h
  · simp_all
  · split at h
    · simp_all
    · split at h <;> simp_all

/-- A shared line and one of the platform's interfaces: such a route can be programmed. -/
structure Routable (d : Distributor) (irq core : Nat) : Prop where
  shared : sharedBase ≤ irq
  lt_max : core < maxInterfaces
  lt_interfaces : core < d.info.cpuInterfaces

theorem setTarget_eq_ok {d : Distributor} {irq core : Nat} (h : irq ≤ d.info.maxIrq)
    (hm : d.info.maxIrq ≤ maxLine) (hr : d.Routable irq core) :
    d.setTarget irq core
      = (.ok (), { d with frame := d.frame.setByte (targetsOffset + irq) (single core).bits }) := by
  have hmask : d.interfaceMask core = .ok (single core) := by
    have : core < 8 := hr.lt_max
    simp [interfaceMask, TargetMask.single?, this, hr.lt_interfaces, single]
  simp only [setTarget, Nat.not_lt.2 hr.shared, if_false, hmask, checkRegister_eq_ok h hm]

/-- Interrupts are sent to one of the eight interfaces that the platform has, by its mask. -/
theorem interfaceMask_eq_ok {d : Distributor} {core : Nat} {mask : TargetMask}
    (h : d.interfaceMask core = .ok mask) :
    core < maxInterfaces ∧ core < d.info.cpuInterfaces ∧ mask = single core := by
  rw [interfaceMask] at h
  split at h
  · rename_i hmask
    split at h
    · cases h
      rw [TargetMask.single?, Option.ite_none_right_eq_some] at hmask
      exact ⟨hmask.1, ‹_›, (Option.some.inj hmask.2).symm⟩
    · cases h
  · cases h

/-- A target that is set is a possible route, and its byte is all that is written. -/
theorem setTarget_ok {d d' : Distributor} {irq core : Nat}
    (h : d.setTarget irq core = (.ok (), d')) :
    d.Routable irq core ∧ irq < irqCapacity
      ∧ d' = { d with frame := d.frame.setByte (targetsOffset + irq) (single core).bits } := by
  rw [setTarget] at h
  split at h
  · cases h
  · rename_i hshared
    split at h
    · cases h
    · rename_i mask hmask
      obtain ⟨hmax, hinterfaces, rfl⟩ := interfaceMask_eq_ok hmask
      split at h
      · cases h
      · rename_i hcheck
        cases h
        exact ⟨⟨Nat.le_of_not_lt hshared, hmax, hinterfaces⟩, lt_of_checkRegister hcheck, rfl⟩

/-- Every interrupt in the register arrays has its target byte in the frame. -/
theorem targetsOffset_add_lt {irq : Nat} (h : irq < irqCapacity) :
    targetsOffset + irq < frameSize := by
  simp only [targetsOffset, irqCapacity, frameSize] at *
  omega

/-- Whatever becomes of the call, no trigger changes. -/
theorem trigger_setTarget (d : Distributor) (irq core irq' : Nat) :
    (d.setTarget irq core).2.trigger irq' = d.trigger irq' := by
  cases hset : d.setTarget irq core with | mk result d' =>
  cases result with
  | error e => rw [setTarget_error hset]
  | ok _ =>
    obtain ⟨-, hlt, rfl⟩ := setTarget_ok hset
    simp only [trigger, Frame.bit_setByte _ _ _ (edgeBit_div_ne irq' hlt).symm]

/-- A target that is set changes no other target. -/
theorem target_of_setTarget_ok {d d' : Distributor} {irq core : Nat}
    (h : d.setTarget irq core = (.ok (), d')) (irq' : Nat) :
    d'.target irq' = if irq = irq' then single core else d.target irq' := by
  obtain ⟨-, hlt, rfl⟩ := setTarget_ok h
  have hin := targetsOffset_add_lt hlt
  simp only [target, Frame.byte_setByte, Nat.add_left_cancel_iff]
  by_cases hi : irq = irq'
  · subst hi
    simp [hin]
  · simp [hi]

/-- Setting a target sets that of one interrupt alone. -/
theorem target_setTarget {d : Distributor} {irq core : Nat} (h : irq ≤ d.info.maxIrq)
    (hm : d.info.maxIrq ≤ maxLine) (hr : d.Routable irq core) (irq' : Nat) :
    (d.setTarget irq core).2.target irq' = if irq = irq' then single core else d.target irq' := by
  have hset := setTarget_eq_ok h hm hr
  rw [hset]
  exact target_of_setTarget_ok hset irq'

/-- The register that raises software-generated interrupts lies behind all triggers and targets. -/
theorem wiring_sendSgi (d : Distributor) (sgi : Nat) (target : UInt64) {irq : Nat}
    (h : irq < irqCapacity) :
    (d.sendSgi sgi target).trigger irq = d.trigger irq
      ∧ (d.sendSgi sgi target).target irq = d.target irq := by
  have htrigger : edgeBit irq / 8 < sgiOffset := by
    simp only [edgeBit, triggersOffset, sgiOffset, irqCapacity] at *; omega
  have htarget : targetsOffset + irq < sgiOffset := by
    simp only [targetsOffset, sgiOffset, irqCapacity] at *; omega
  constructor
  · rw [Distributor.trigger, sendSgi, Frame.bit_setWord _ _ _ (Or.inl htrigger),
      Distributor.trigger]
  · rw [Distributor.target, sendSgi, Frame.byte_setWord _ _ _ (Or.inl htarget),
      Distributor.target]

/-- Asking who owns an interrupt only reads. -/
theorem owns_state {d d' : Distributor} {irq : Nat} {owned : Except CallFailure Bool}
    (h : Controller.owns irq d = (owned, d')) : d' = d := by
  simp only [Controller.owns, Controller.selfTarget, Controller.getTarget] at h
  cases hget : d.getTarget irq <;> simp only [hget, Prod.mk.injEq] at h <;> exact h.2.symm

instance : SteadyController Distributor where
  platform_setTrigger irq t d := by
    simp only [Controller.setTrigger, Controller.platform, setTrigger]
    split <;> rfl
  platform_setTarget irq core d := by
    simp only [Controller.setTarget, Controller.platform, setTarget]
    split
    · rfl
    · split
      · rfl
      · split <;> rfl
  platform_sendSgi sgi target d := by simp only [Controller.sendSgi, Controller.platform, sendSgi]
  platform_getTarget _ _ := rfl
  platform_selfTarget _ := rfl

/-! ### Programming a line -/

theorem setTrigger_ok {d : Distributor} {irq : Nat} (h : irq ≤ d.info.maxIrq)
    (hm : d.info.maxIrq ≤ maxLine) (t : Trigger) : (d.setTrigger irq t).1 = .ok () := by
  rw [setTrigger, checkRegister_eq_ok h hm]

/-- The first half of programming: the trigger, where one is asked for. -/
theorem setTrigger?_eq_ok {d : Distributor} {irq : Nat} (h : irq ≤ d.info.maxIrq)
    (hm : d.info.maxIrq ≤ maxLine) (trigger : Option Trigger) :
    ∃ d', trigger.elim (.ok (), d) (Controller.setTrigger irq · d) = (.ok (), d')
      ∧ d'.info = d.info
      ∧ (∀ irq', d'.trigger irq'
          = if irq = irq' then trigger.getD (d.trigger irq') else d.trigger irq')
      ∧ ∀ irq', irq' ≤ maxLine → d'.target irq' = d.target irq' := by
  cases trigger with
  | none => exact ⟨d, rfl, rfl, fun irq' => by simp, fun _ _ => rfl⟩
  | some t =>
    refine ⟨(d.setTrigger irq t).2, Prod.ext (setTrigger_ok h hm t) rfl,
      SteadyController.platform_setTrigger irq t d, trigger_setTrigger h hm t, ?_⟩
    exact fun irq' hi => target_setTrigger d irq t (lt_irqCapacity hi)

/-- A line of the platform with a possible route, if any, is programmed without fail: its trigger
    and target become what is asked for, those of all other lines stay. -/
theorem program_eq_ok {d : Distributor} {irq : Nat} (h : irq ≤ d.info.maxIrq)
    (hm : d.info.maxIrq ≤ maxLine) (trigger : Option Trigger) {route : Option Nat}
    (hr : ∀ core, route = some core → d.Routable irq core) :
    ∃ d', Controller.program irq trigger route d = (.ok (), d')
      ∧ (∀ irq', d'.trigger irq'
          = if irq = irq' then trigger.getD (d.trigger irq') else d.trigger irq')
      ∧ ∀ irq', irq' ≤ maxLine → d'.target irq'
          = if irq = irq' then (route.map single).getD (d.target irq') else d.target irq' := by
  obtain ⟨d₁, hset, hinfo, htrigger, htarget⟩ := setTrigger?_eq_ok h hm trigger
  rw [Controller.program, hset]
  cases route with
  | none => exact ⟨d₁, rfl, htrigger, fun irq' hi => by simp [htarget irq' hi]⟩
  | some core =>
    have hr := hr core rfl
    rw [← hinfo] at h hm
    have hr₁ : d₁.Routable irq core := ⟨hr.shared, hr.lt_max, hinfo ▸ hr.lt_interfaces⟩
    refine ⟨(d₁.setTarget irq core).2, Prod.ext ?_ rfl, fun irq' => ?_, fun irq' hi => ?_⟩
    · show (d₁.setTarget irq core).1 = .ok ()
      rw [setTarget_eq_ok h hm hr₁]
    · rw [trigger_setTarget, htrigger]
    · rw [target_setTarget h hm hr₁, htarget irq' hi]
      rfl

end Distributor

end InterruptCaps
