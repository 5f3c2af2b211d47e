import InterruptCaps.Proofs.Gic.Programming

/-! What a call that succeeds leaves in the frame, bit by bit. Programming a line may change its
    edge bit and its target byte, raising a software-generated interrupt one word, and every other
    bit of the 4096 bytes stays, those of lines without a register and the banked ones included. -/

namespace InterruptCaps

namespace Frame

/-- A word that is written can be read back. -/
theorem word_setWord (f : Frame) {offset value : Nat} (h : offset + 4 ≤ frameSize)
    (hv : value < 2 ^ 32) : (f.setWord offset value).word offset = value := by
  have h0 : offset < frameSize := by omega
  have h1 : offset + 1 < frameSize := by omega
  have h2 : offset + 2 < frameSize := by omega
  have h3 : offset + 3 < frameSize := by omega
  simp only [word, setWord, byte_setByte]
  simp [h0, h1, h2, h3]
  omega

/-- A byte is its eight bits. -/
theorem byte_eq_of_bit {f g : Frame} {i : Nat} (h : ∀ n, n / 8 = i → f.bit n = g.bit n) :
    f.byte i = g.byte i := by
  refine UInt8.toBitVec_inj.1 (BitVec.eq_of_getLsbD_eq fun j hj => ?_)
  have hi := h (8 * i + j) (by omega)
  rwa [bit, bit, show (8 * i + j) / 8 = i by omega, show (8 * i + j) % 8 = j by omega] at hi

theorem word_eq_of_bit {f g : Frame} {offset : Nat}
    (h : ∀ n, offset ≤ n / 8 → n / 8 < offset + 4 → f.bit n = g.bit n) :
    f.word offset = g.word offset := by
  have hbyte : ∀ i, offset ≤ i → i < offset + 4 → f.byte i = g.byte i := by
    intro i hleast hmost
    refine byte_eq_of_bit ?_
    rintro n rfl
    exact h n hleast hmost
  rw [word, word, hbyte offset (by omega) (by omega), hbyte (offset + 1) (by omega) (by omega),
    hbyte (offset + 2) (by omega) (by omega), hbyte (offset + 3) (by omega) (by omega)]

end Frame

namespace Distributor

/-- One line is rewired: where a trigger is given its edge bit says whether that is edge, where a
    target is given its target byte names that interface alone, and no other bit changes. -/
structure Rewired (d d' : Distributor) (irq : Nat) (trigger : Option Trigger)
    (target : Option Nat) : Prop where
  info : d'.info = d.info
  edge : ∀ t, trigger = some t → d'.frame.bit (edgeBit irq) = t.isEdge
  byte : ∀ core, target = some core → (d'.frame.byte (targetsOffset + irq)).toNat = 2 ^ core
  others : ∀ n, (trigger.isSome → n ≠ edgeBit irq) →
    (target.isSome → n / 8 ≠ targetsOffset + irq) → d'.frame.bit n = d.frame.bit n

/-- A software-generated interrupt is raised: one word holds its number and its interface, and no
    other byte changes. -/
structure Raised (d d' : Distributor) (sgi : Nat) (target : UInt64) : Prop where
  info : d'.info = d.info
  word : d'.frame.word sgiOffset = 2 ^ (16 + target.toNat % maxInterfaces) + sgi % sgiCount
  others : ∀ offset, offset < sgiOffset ∨ sgiOffset + 4 ≤ offset →
    d'.frame.byte offset = d.frame.byte offset

variable {d d' : Distributor} {irq core : Nat}

theorem setTrigger_rewired {t : Trigger} (h : d.setTrigger irq t = (.ok (), d')) :
    d.Rewired d' irq (some t) none := by
  rw [setTrigger] at h
  split at h
  · cases h
  · rename_i hcheck
    cases h
    have hin : edgeBit irq < 8 * frameSize := by
      have := lt_of_checkRegister hcheck
      simp only [edgeBit, triggersOffset, irqCapacity, frameSize] at *
      omega
    refine ⟨rfl, ?_, fun _ ht => (by cases ht), fun n hn _ => ?_⟩
    · rintro t' ⟨⟩
      rw [Frame.bit_setBit _ _ _ _ hin, if_pos rfl]
    · rw [Frame.bit_setBit _ _ _ _ hin, if_neg (hn rfl).symm]

theorem setTarget_rewired (h : d.setTarget irq core = (.ok (), d')) :
    d.Rewired d' irq none (some core) := by
  obtain ⟨hroute, hlt, rfl⟩ := setTarget_ok h
  refine ⟨rfl, fun _ ht => (by cases ht), ?_, fun n _ hn => ?_⟩
  · rintro core' ⟨⟩
    rw [Frame.byte_setByte, if_pos ⟨rfl, targetsOffset_add_lt hlt⟩, toNat_single hroute.lt_max]
  · exact Frame.bit_setByte _ _ _ (hn rfl).symm

namespace Rewired

theorem refl (d : Distributor) (irq : Nat) : d.Rewired d irq none none :=
  ⟨rfl, fun _ ht => (by cases ht), fun _ hc => (by cases hc), fun _ _ _ => rfl⟩

/-- The trigger is set first, and setting the target leaves it alone. -/
theorem trans {d d₁ d₂ : Distributor} {irq : Nat} {trigger : Option Trigger} {target : Option Nat}
    (h₁ : d.Rewired d₁ irq trigger none) (h₂ : d₁.Rewired d₂ irq none target)
    (hirq : target.isSome → irq < irqCapacity) : d.Rewired d₂ irq trigger target where
  info := h₂.info.trans h₁.info
  edge t ht := by
    rw [h₂.others _ (fun hnone => by cases hnone) fun hc => edgeBit_div_ne irq (hirq hc)]
    exact h₁.edge t ht
  byte := h₂.byte
  others n hedge hbyte := by
    rw [h₂.others n (fun hnone => by cases hnone) hbyte]
    exact h₁.others n hedge fun hnone => by cases hnone

end Rewired

/-- Programming a line rewires it. -/
theorem program_rewired {trigger : Option Trigger} {route : Option Nat}
    (h : Controller.program irq trigger route d = (.ok (), d')) :
    d.Rewired d' irq trigger route := by
  rw [Controller.program] at h
  split at h
  · cases h
  · rename_i d₁ hset
    have first : d.Rewired d₁ irq trigger none := by
      cases trigger with
      | none =>
        cases hset
        exact .refl d irq
      | some t => exact setTrigger_rewired hset
    cases route with
    | none =>
      cases h
      exact first
    | some core =>
      obtain ⟨-, hlt, -⟩ := setTarget_ok h
      exact first.trans (setTarget_rewired h) fun _ => hlt

theorem sendSgi_raised (d : Distributor) (sgi : Nat) (target : UInt64) :
    d.Raised (d.sendSgi sgi target) sgi target := by
  have hword : sgiWord sgi target = 2 ^ (16 + target.toNat % maxInterfaces) + sgi % sgiCount := by
    rw [sgiWord, Nat.one_shiftLeft]
  have hlt : sgiWord sgi target < 2 ^ 32 := by
    have : 2 ^ (16 + target.toNat % maxInterfaces) ≤ 2 ^ 23 :=
      Nat.pow_le_pow_right (by decide) (by simp only [maxInterfaces]; omega)
    rw [hword]
    simp only [sgiCount]
    omega
  constructor
  · rw [sendSgi]
  · rw [sendSgi, Frame.word_setWord _ (by decide) hlt, hword]
  · intro offset h
    rw [sendSgi, Frame.byte_setWord _ _ _ h]

/-! ### Targets -/

/-- Without a route, programming a line changes no target. -/
theorem target_of_program {trigger : Option Trigger} {result : Except CallFailure Unit}
    (h : Controller.program irq trigger none d = (result, d')) {irq' : Nat}
    (hlt : irq' < irqCapacity) : d'.target irq' = d.target irq' := by
  rw [Controller.program] at h
  cases trigger with
  | none =>
    cases h
    rfl
  | some t =>
    have hset := d.target_setTrigger irq t hlt
    split at h <;> rename_i hcall <;> cases h
    all_goals rwa [show d.setTrigger irq t = _ from hcall] at hset

end Distributor

end InterruptCaps
