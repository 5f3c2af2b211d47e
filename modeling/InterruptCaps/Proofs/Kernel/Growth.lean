import InterruptCaps.Gic.Distributor
import InterruptCaps.Proofs.Kernel.Effect
import InterruptCaps.Proofs.Space.WellFormed

/-! Capability spaces as they grow: nodes are made, capabilities are put into slots and deleted, and
    kernels perform invocations. A *ledger* is a space with all that its operations have returned,
    so that a capability can be followed that no slot holds any more.

    Main statement: in every space that was reached this way nothing dangles, and a lookup from any
    node that is held or was returned ends at a slot that is there. Numbers of nodes have 32 bits,
    so this is about spaces of at most `2 ^ 32` nodes; parents are slots in all others, too. -/

namespace InterruptCaps

/-- Something that is done to a capability space. An invocation may go through any kernel. -/
inductive SpaceOp (C : Type) where
  | createNode (radix : Nat) (guard : Guard)
  | insert (cap : Cap) (source dest : SlotRef)
  | delete (ref : SlotRef)
  | invoke (k : Kernel C Space) (cap : Cap) (inv : Invocation)

/-- A capability space with the nodes that were made in it, the last one first, and the
    capabilities that were deleted from it. -/
structure Ledger where
  space : Space
  made : List CNode
  deleted : List Cap

namespace Ledger

variable {C : Type} [Controller C]

/-- The ledger after an operation. One that fails changes nothing. -/
def after (l : Ledger) : SpaceOp C → Ledger
  | .createNode radix guard =>
    match l.space.createNode radix guard with
    | .ok (node, space) => { l with space, made := node :: l.made }
    | .error _ => l
  | .insert cap source dest =>
    match l.space.insert cap source dest with
    | .ok space => { l with space }
    | .error _ => l
  | .delete ref =>
    match l.space.delete ref with
    | .ok (cap, space) => { l with space, deleted := cap :: l.deleted }
    | .error _ => l
  | .invoke k cap inv => { l with space := ({ k with space := l.space }.invoke cap inv).2.space }

/-- Only capabilities are put into slots, and only nodes that were made, behind any guard. -/
def Allows (l : Ledger) : SpaceOp C → Prop
  | .insert cap _ _ => cap ≠ .null ∧ ∀ node, cap = .cnode node → node.Among l.made
  | .createNode .. | .delete _ | .invoke .. => True

variable (C) in
/-- From no node at all, or from the space of the first task, by operations that are allowed. -/
inductive Reached : Ledger → Prop where
  | new : Reached ⟨.empty, [], []⟩
  | boot {radix : Nat} {guard : Guard} {root : CNode} {s : Space}
      (booted : Space.boot radix guard = .ok (root, s)) : Reached ⟨s, [root], []⟩
  | step {l : Ledger} {op : SpaceOp C} (reached : Reached l) (allowed : l.Allows op) :
      Reached (l.after op)

/-- A slot holds a capability to the node, or an operation has returned one. -/
def Knows (l : Ledger) (node : CNode) : Prop :=
  node ∈ l.made ∨ .cnode node ∈ l.deleted
    ∨ ∃ ref slot, l.space.slot? ref = some slot ∧ slot.cap = .cnode node

/-- Nothing in the ledger dangles. -/
structure Sound (l : Ledger) : Prop where
  wellFormed : l.space.WellFormed l.made
  deleted : ∀ node, .cnode node ∈ l.deleted → node.Among l.made

variable {l : Ledger}

/-- Whatever is known was made. -/
theorem Sound.among (h : l.Sound) {node : CNode} (hknown : l.Knows node) : node.Among l.made := by
  rcases hknown with hmade | hdeleted | ⟨ref, slot, hslot, hnode⟩
  · exact CNode.among_of_mem hmade
  · exact h.deleted node hdeleted
  · exact h.wellFormed.held ref slot node hslot hnode

/-- One operation keeps the ledger sound. -/
theorem sound_after {op : SpaceOp C} (h : l.Sound) (allowed : l.Allows op) :
    (l.after op).Sound := by
  obtain ⟨hwell, hdeleted⟩ := h
  cases op with
  | createNode radix guard =>
    rw [after]
    cases hmade : l.space.createNode radix guard with
    | error e => exact ⟨hwell, hdeleted⟩
    | ok made =>
      obtain ⟨node, space⟩ := made
      exact ⟨hwell.createNode hmade, fun node' hnode' => (hdeleted node' hnode').cons node⟩
  | insert cap source dest =>
    obtain ⟨hnull, hcap⟩ := allowed
    rw [after]
    cases hinsert : l.space.insert cap source dest with
    | error e => exact ⟨hwell, hdeleted⟩
    | ok space => exact ⟨hwell.insert hinsert hnull hcap, hdeleted⟩
  | delete ref =>
    rw [after]
    cases hdelete : l.space.delete ref with
    | error e => exact ⟨hwell, hdeleted⟩
    | ok result =>
      obtain ⟨cap, space⟩ := result
      obtain ⟨hwell', hcap⟩ := hwell.delete hdelete
      refine ⟨hwell', fun node hnode => ?_⟩
      rcases List.mem_cons.1 hnode with hnew | hold
      · exact hcap node hnew.symm
      · exact hdeleted node hold
  | invoke k cap inv =>
    refine ⟨?_, hdeleted⟩
    rcases Kernel.space_invoke { k with space := l.space } cap inv with
      hsame | ⟨issued, dest, hissued, hinsert⟩
    · rw [after, hsame]
      exact hwell
    · exact hwell.insert hinsert hissued.ne_null fun node h => absurd h (hissued.ne_cnode node)

/-- Every ledger that is reached is sound. -/
theorem sound_of_reached (h : l.Reached C) : l.Sound := by
  induction h with
  | new =>
    refine ⟨.empty, fun node hnode => ?_⟩
    exact absurd hnode List.not_mem_nil
  | boot booted =>
    refine ⟨.boot booted, fun node hnode => ?_⟩
    exact absurd hnode List.not_mem_nil
  | step reached allowed ih => exact sound_after ih allowed

/-- Whatever was done to a capability space: parents are slots, and a slot that holds nothing has no
    parent. As long as there are numbers for all nodes that were made, no two of them have the same
    one, and a node that is held or was returned is there with exactly the slots that its radix
    says. So a lookup from such a node, behind any guard, says that the depth is no depth exactly if
    it is none, and else ends at a slot that is there or says that a guard or the depth does not
    fit. -/
theorem nothing_dangles (h : l.Reached C) :
    (∀ ref slot parent, l.space.slot? ref = some slot → slot.parent = some parent →
        (l.space.slot? parent).isSome)
      ∧ (∀ ref slot, l.space.slot? ref = some slot → slot.cap = .null → slot.parent = none)
      ∧ (l.made.length ≤ 2 ^ 32 →
        (l.made.map CNode.id).Nodup
          ∧ (∀ node, l.Knows node → l.space.size? node.id = some (2 ^ node.radix))
          ∧ ∀ node, l.Knows node → ∀ guard index depth,
            (l.space.lookup (.cnode { node with guard }) index depth = .error .invalidDepth
                ↔ ¬ (1 ≤ depth.toNat ∧ depth.toNat ≤ 64))
              ∧ l.space.Lands (l.space.lookup (.cnode { node with guard }) index depth)) := by
  have hsound := sound_of_reached h
  have hwell := hsound.wellFormed
  rw [hwell.length_made]
  refine ⟨hwell.parents, hwell.bare, fun few => ⟨hwell.nodup_iff.2 few, ?_, ?_⟩⟩
  · intro node hknown
    exact (hwell.sized_of_among few (hsound.among hknown)).2
  · intro node hknown guard index depth
    have hmade := hsound.among hknown
    -- which nodes were made does not depend on their guards
    have hguarded : CNode.Among { node with guard } l.made := hmade
    exact hwell.lookup_lands few hguarded index depth

/-- A second node is made in the first task's space and put into slot 1 behind a guard of its own:
    both nodes are there, and lookups from the second one land. -/
theorem second_node_lands :
    ∃ l : Ledger, l.Reached Distributor ∧ l.made = [⟨1, 3, .none⟩, ⟨0, 2, .none⟩]
      ∧ l.space.slot? ⟨0, 1⟩ = some ⟨.cnode ⟨1, 3, ⟨2, 2⟩⟩, some ⟨0, 0⟩⟩
      ∧ l.space.size? 0 = some 4 ∧ l.space.size? 1 = some 8
      ∧ l.space.lookup (.cnode ⟨1, 3, ⟨2, 2⟩⟩) 0 65 = .error .invalidDepth := by
  let root : CNode := ⟨0, 2, .none⟩
  let second : CNode := ⟨1, 3, .none⟩
  let l₀ : Ledger :=
    ⟨⟨#[#[⟨.cnode root, none⟩, .empty, .empty, ⟨.irqControl .none, none⟩]]⟩, [root], []⟩
  let l₁ : Ledger := l₀.after (.createNode 3 .none : SpaceOp Distributor)
  let l₂ : Ledger :=
    l₁.after (.insert (.cnode { second with guard := ⟨2, 2⟩ }) ⟨0, 0⟩ ⟨0, 1⟩ : SpaceOp Distributor)
  have hboot : Space.boot 2 .none = .ok (root, l₀.space) := rfl
  have h₁ : l₁.Reached Distributor := .step (.boot hboot) trivial
  have hallowed : l₁.Allows
      (.insert (.cnode { second with guard := ⟨2, 2⟩ }) ⟨0, 0⟩ ⟨0, 1⟩ : SpaceOp Distributor) := by
    refine ⟨by simp, fun node hnode => ?_⟩
    cases hnode
    exact ⟨second, List.mem_cons_self, rfl, rfl⟩
  have h₂ : l₂.Reached Distributor := h₁.step hallowed
  have hslot : l₂.space.slot? ⟨0, 1⟩ = some ⟨.cnode ⟨1, 3, ⟨2, 2⟩⟩, some ⟨0, 0⟩⟩ := rfl
  obtain ⟨-, -, hthere⟩ := nothing_dangles h₂
  obtain ⟨-, hsized, hlands⟩ := hthere (by decide : 2 ≤ 2 ^ 32)
  have hroot : l₂.Knows root := .inl (List.mem_cons_of_mem _ List.mem_cons_self)
  have hsecond : l₂.Knows ⟨1, 3, ⟨2, 2⟩⟩ := .inr (.inr ⟨⟨0, 1⟩, _, hslot, rfl⟩)
  refine ⟨l₂, h₂, rfl, hslot, hsized root hroot, hsized _ hsecond, ?_⟩
  exact (hlands _ hsecond ⟨2, 2⟩ 0 65).1.2 (by decide)

end Ledger

end InterruptCaps
