import InterruptCaps.Proofs.Kernel.Run
import Mathlib.Logic.Relation

/-! Where senders come from. A caller invokes what its slot holds, and a sender gets into a slot by
    being issued, no other way. Between invocations slots may be made, filled, finalised, and also
    deleted behind the kernel's back; whatever happens, nobody changes a capability in its slot.

    So what is checked when a sender is issued holds of every sender that is ever there: the kernel
    has its core to itself, the number is a software-generated one, and the platform has the
    interface. -/

namespace InterruptCaps

/-- Whether the capability sends a software-generated interrupt. -/
def Cap.isSignal : Cap → Bool
  | .sgiSignal .. => true
  | _ => false

/-- A sender is as checked when it is issued by a kernel of this configuration. -/
def Cap.Checked (c : Config) (p : Platform) : Cap → Prop
  | .sgiSignal sgi target => c.isSmp = false ∧ sgi < sgiCount ∧ p.hasInterface target = true
  | _ => True

theorem Cap.checked_of_not_signal {cap : Cap} (h : cap.isSignal = false) (c : Config)
    (p : Platform) : cap.Checked c p := by
  cases cap with
  | sgiSignal sgi target => cases h
  | null | cnode | irqControl | irqHandler => trivial

namespace Space

section

variable {P : Cap → Prop} {s s' : Space}

theorem All.put (h : s.All P) (ref : SlotRef) {slot : Slot} (hslot : P slot.cap) :
    (s.put ref slot).All P := by
  intro ref' slot' hslot'
  rw [slot?_put] at hslot'
  split at hslot'
  · obtain ⟨-, -, rfl⟩ := Option.map_eq_some_iff.1 hslot'
    exact hslot
  · exact h ref' slot' hslot'

theorem All.insert {cap : Cap} {source dest : SlotRef} (h : s.All P)
    (hinsert : s.insert cap source dest = .ok s') (hcap : P cap) : s'.All P := by
  obtain ⟨-, -, rfl⟩ := insert_eq_ok.1 hinsert
  exact h.put dest hcap

theorem All.delete {ref : SlotRef} {cap : Cap} (h : s.All P) (hnull : P .null)
    (hdelete : s.delete ref = .ok (cap, s')) : s'.All P := by
  obtain ⟨-, -, rfl⟩ := delete_eq_ok.1 hdelete
  exact h.put ref hnull

theorem All.createNode {radix : Nat} {guard : Guard} {node : CNode} (h : s.All P) (hnull : P .null)
    (hmade : s.createNode radix guard = .ok (node, s')) : s'.All P := by
  obtain ⟨-, -, -, hslots⟩ := createNode_eq_ok hmade
  intro ref slot hslot
  rw [hslots] at hslot
  split at hslot
  · obtain ⟨-, hempty⟩ := Option.ite_none_right_eq_some.1 hslot
    obtain rfl := Option.some.inj hempty
    exact hnull
  · exact h ref slot hslot

/-- No sender is there at start-up. -/
theorem all_boot {radix : Nat} {guard : Guard} {root : CNode}
    (booted : boot radix guard = .ok (root, s)) (hP : ∀ cap, cap.isSignal = false → P cap) :
    s.All P := by
  obtain ⟨-, -, hslots⟩ := boot_eq_ok booted
  intro ref slot hslot
  rw [hslots] at hslot
  obtain ⟨-, hfirst⟩ := Option.ite_none_right_eq_some.1 hslot
  obtain rfl := Option.some.inj hfirst
  refine hP _ ?_
  simp only [firstCap]
  split
  · rfl
  · split <;> rfl

end

end Space

namespace Kernel

variable {C : Type}

/-- Finalising a slot deletes it. -/
theorem finalise_eq_ok {k k' : Kernel C Space} {ref : SlotRef} {cap : Cap}
    (h : k.finalise ref = .ok (cap, k')) : k.space.delete ref = .ok (cap, k'.space) := by
  rw [finalise] at h
  cases hdelete : k.space.delete ref with
  | error e =>
    rw [hdelete] at h
    cases h
  | ok deleted =>
    obtain ⟨held, space⟩ := deleted
    rw [hdelete] at h
    cases h
    cases cap <;> rfl

variable [Controller C]

/-- The invoked capability is the one in the source slot, and senders come from invocations alone. -/
def Event.Genuine (k : Kernel C Space) : Event → Prop
  | .invoke _ cap inv => ∃ slot, k.space.slot? inv.source = some slot ∧ slot.cap = cap
  | .insert cap _ _ => cap.isSignal = false
  | .createNode .. | .finalise _ => True

/-- Something happens: a genuine event, or a slot is deleted and the kernel does not hear of it. -/
inductive Step (k : Kernel C Space) : Kernel C Space → Prop where
  | event {e : Event} (genuine : e.Genuine k) : Step k (k.after e)
  | delete {ref : SlotRef} {cap : Cap} {space : Space}
      (deleted : k.space.delete ref = .ok (cap, space)) : Step k { k with space }

variable {k k' : Kernel C Space}

/-- An event fills slots with nothing but handlers, checked senders, and what is inserted. -/
theorem checked_after {e : Event} (genuine : e.Genuine k)
    (h : k.space.All (Cap.Checked k.config k.platform)) :
    (k.after e).space.All (Cap.Checked k.config k.platform) := by
  cases e with
  | invoke caller cap inv =>
    rw [after]
    have effect := invoke_effect { k with caller } cap inv
    generalize { k with caller }.invoke cap inv = out at effect
    cases effect with
    | issued asks slot program insert => exact h.insert insert trivial
    | signalIssued single asks slot insert =>
      obtain ⟨root, -, hsgi, hinterface, rfl⟩ := SignalRequest.ofInvocation_eq_ok.1 asks
      exact h.insert insert ⟨single, hsgi, hinterface⟩
    | _ => exact h
  | createNode radix guard =>
    rw [after]
    split
    · exact h.createNode trivial ‹_›
    · exact h
  | insert cap source dest =>
    rw [after]
    split
    · exact h.insert ‹_› (Cap.checked_of_not_signal genuine _ _)
    · exact h
  | finalise ref =>
    rw [after]
    split
    · exact h.delete trivial (finalise_eq_ok ‹_›)
    · exact h

theorem Step.config (h : Step k k') : k'.config = k.config := by
  cases h with
  | event genuine => exact config_after k _
  | delete deleted => rfl

theorem config_steps (h : Relation.ReflTransGen Step k k') : k'.config = k.config := by
  induction h with
  | refl => rfl
  | tail _ step ih => rw [step.config, ih]

variable [SteadyController C]

theorem Step.platform (h : Step k k') : k'.platform = k.platform := by
  cases h with
  | event genuine => exact platform_after k _
  | delete deleted => rfl

theorem platform_steps (h : Relation.ReflTransGen Step k k') : k'.platform = k.platform := by
  induction h with
  | refl => rfl
  | tail _ step ih => rw [step.platform, ih]

/-- A step keeps the senders that are there, or adds one that is checked. -/
theorem Step.checked (h : Step k k') (before : k.space.All (Cap.Checked k.config k.platform)) :
    k'.space.All (Cap.Checked k'.config k'.platform) := by
  rw [h.config, h.platform]
  cases h with
  | event genuine => exact checked_after genuine before
  | delete deleted => exact before.delete trivial deleted

/-- From start-up on, every sender that a slot holds is as it was checked when it was issued. -/
theorem checked_steps {radix : Nat} {guard : Guard} {root : CNode}
    (booted : Space.boot radix guard = .ok (root, k.space)) (h : Relation.ReflTransGen Step k k') :
    k'.space.All (Cap.Checked k'.config k'.platform) := by
  induction h with
  | refl => exact Space.all_boot booted fun cap hcap => Cap.checked_of_not_signal hcap _ _
  | tail _ step ih => exact step.checked ih

end Kernel

end InterruptCaps
