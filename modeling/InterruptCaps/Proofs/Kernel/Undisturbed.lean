import InterruptCaps.Proofs.Kernel.Run
import InterruptCaps.Proofs.Kernel.Success
import InterruptCaps.Proofs.Space.Filling

/-! What invocations leave alone. An invocation puts at most one capability into a slot, the slot is
    empty before, and the capability is a handler or a sender, which no walk goes through. So one
    task's invocations, whether they succeed or not, are nothing that another task's lookups could
    notice, and nobody loses a capability by them.

    Main statement: after an invocation every lookup ends as before, every capability is still in
    its slot, and what is new in a slot is a handler or a sender. -/

namespace InterruptCaps

/-- Between two spaces no slot has come or gone and no lookup ends elsewhere, what was held is held,
    and what else is held was issued. -/
structure Space.Undisturbed (s s' : Space) : Prop where
  lookups : ∀ root index depth, s'.lookup root index depth = s.lookup root index depth
  slots : ∀ ref, (s'.slot? ref).isSome = (s.slot? ref).isSome
  kept : ∀ ref slot, s.slot? ref = some slot → slot.cap ≠ .null → s'.slot? ref = some slot
  filled : ∀ ref slot, s'.slot? ref = some slot → slot.cap ≠ .null →
    s.slot? ref = some slot ∨ slot.cap.Issued

namespace Space

theorem Undisturbed.refl (s : Space) : s.Undisturbed s :=
  ⟨fun _ _ _ => rfl, fun _ => rfl, fun _ _ h _ => h, fun _ _ h _ => .inl h⟩

theorem Undisturbed.trans {s₁ s₂ s₃ : Space} (h : s₁.Undisturbed s₂) (h' : s₂.Undisturbed s₃) :
    s₁.Undisturbed s₃ where
  lookups root index depth := (h'.lookups root index depth).trans (h.lookups root index depth)
  slots ref := (h'.slots ref).trans (h.slots ref)
  kept ref slot hslot hnull := h'.kept ref slot (h.kept ref slot hslot hnull) hnull
  filled ref slot hslot hnull := by
    rcases h'.filled ref slot hslot hnull with hbetween | hissued
    · exact h.filled ref slot hbetween hnull
    · exact .inr hissued

/-- Putting what was issued into an empty slot disturbs nothing. -/
theorem Undisturbed.of_insert {s s' : Space} {cap : Cap} {source dest : SlotRef}
    (h : s.insert cap source dest = .ok s') (hissued : cap.Issued) : s.Undisturbed s' := by
  obtain ⟨⟨old, hold, hnull⟩, hnow, hothers⟩ := filled_of_insert h
  refine ⟨lookup_insert h hissued.ne_cnode, fun ref => ?_, fun ref slot hslot hcap => ?_,
    fun ref slot hslot hcap => ?_⟩
  · by_cases hr : ref = dest
    · subst hr
      simp [hnow, hold]
    · rw [hothers ref hr]
  · have hr : ref ≠ dest := by
      rintro rfl
      rw [hold] at hslot
      cases hslot
      exact hcap hnull
    rw [hothers ref hr, hslot]
  · by_cases hr : ref = dest
    · subst hr
      rw [hnow] at hslot
      cases hslot
      exact .inr hissued
    · rw [hothers ref hr] at hslot
      exact .inl hslot

end Space

namespace Kernel

variable {C : Type} [Controller C]

theorem undisturbed_invoke (k : Kernel C Space) (cap : Cap) (inv : Invocation) :
    k.space.Undisturbed (k.invoke cap inv).2.space := by
  rcases k.space_invoke cap inv with hsame | ⟨issued, dest, hissued, hinsert⟩
  · rw [hsame]
    exact .refl _
  · exact .of_insert hinsert hissued

/-- Any number of invocations disturbs no more than one does. -/
theorem undisturbed_run (k : Kernel C Space) {es : List Event}
    (hes : ∀ e ∈ es, ∃ caller cap inv, e = .invoke caller cap inv) :
    k.space.Undisturbed (k.run es).space := by
  refine run_induction (P := fun k' => k.space.Undisturbed k'.space) hes (.refl _)
    fun before e _ he hbefore => ?_
  obtain ⟨caller, cap, inv, rfl⟩ := he
  exact hbefore.trans (undisturbed_invoke { k.run before with caller } cap inv)

/-- Whatever is invoked, and whether or not it succeeds: every lookup ends as before, at the same
    slot or with the same error, every capability is in its slot as before, derived from the same
    slot, what a slot holds that it did not hold before is a handler or a sender, and no slot has
    come or gone. -/
theorem invoke_disturbs_nothing (k : Kernel C Space) (cap : Cap) (inv : Invocation) :
    (∀ root index depth, (k.invoke cap inv).2.space.lookup root index depth
        = k.space.lookup root index depth)
      ∧ (∀ ref slot, k.space.slot? ref = some slot → slot.cap ≠ .null →
        (k.invoke cap inv).2.space.slot? ref = some slot)
      ∧ (∀ ref slot, (k.invoke cap inv).2.space.slot? ref = some slot → slot.cap ≠ .null →
        k.space.slot? ref = some slot
          ∨ (∃ id trigger, slot.cap = .irqHandler id trigger)
          ∨ ∃ sgi target, slot.cap = .sgiSignal sgi target)
      ∧ ∀ ref, ((k.invoke cap inv).2.space.slot? ref).isSome = (k.space.slot? ref).isSome := by
  have h := k.undisturbed_invoke cap inv
  refine ⟨h.lookups, h.kept, fun ref slot hslot hnull => ?_, h.slots⟩
  rcases h.filled ref slot hslot hnull with hheld | hissued
  · exact .inl hheld
  · generalize slot.cap = issued at hissued
    cases hissued with
    | handler id trigger => exact .inr (.inl ⟨id, trigger, rfl⟩)
    | sender sgi target => exact .inr (.inr ⟨sgi, target, rfl⟩)

/-- A handler is put into slot 1, which a pointer of four bits goes through: its lookup fails as it
    did when the slot was empty, and the authority over interrupts is where it was. -/
theorem handler_on_the_way_unnoticed :
    ∃ (k : Kernel Distributor Space) (root : Cap) (inv : Invocation),
      k.space.slot? ⟨0, 1⟩ = some .empty
        ∧ (k.invoke (.irqControl .none) inv).2.space.slot? ⟨0, 1⟩
          = some ⟨.irqHandler ⟨40, 0⟩ none, some ⟨0, 3⟩⟩
        ∧ k.space.lookup root 4 4 = .error .depthMismatch
        ∧ (k.invoke (.irqControl .none) inv).2.space.lookup root 4 4 = .error .depthMismatch
        ∧ (k.invoke (.irqControl .none) inv).2.space.slot? ⟨0, 3⟩
          = some ⟨.irqControl .none, none⟩ := by
  let root : CNode := ⟨0, 2, .none⟩
  let k : Kernel Distributor Space := ⟨.uniprocessor, ⟨.zero, .full⟩, .empty,
    ⟨#[#[⟨.cnode root, none⟩, .empty, .empty, ⟨.irqControl .none, none⟩]]⟩, .runningOn 0⟩
  let inv : Invocation := ⟨.ofCounts 1 1 3, [40, 1, 2], [.cnode root], ⟨0, 3⟩⟩
  let req : HandlerRequest := ⟨⟨40, 0⟩, none, none, ⟨.cnode root, 1, 2⟩⟩
  have hslot : k.handlerSlot req = .ok ⟨0, 1⟩ := by
    have hlookup : k.space.lookup (.cnode root) 1 2 = .ok ⟨0, 1⟩ := by cbv
    exact handlerSlot_eq_ok.2 ⟨Registry.isActive_empty req.id, hlookup, rfl⟩
  have asks : k.Asks inv req := .plain (by decide) rfl
  have hissued := asks.invoke_unwired rfl rfl (by decide) hslot .none
  have hbefore : k.space.lookup (.cnode root) 4 4 = .error .depthMismatch := by cbv
  obtain ⟨hlookups, hkept, -, -⟩ := invoke_disturbs_nothing k (.irqControl .none) inv
  refine ⟨k, .cnode root, inv, rfl, ?_, hbefore, ?_, hkept ⟨0, 3⟩ _ rfl (by simp)⟩
  · rw [hissued]
    rfl
  · rw [hlookups, hbefore]

end Kernel

end InterruptCaps
