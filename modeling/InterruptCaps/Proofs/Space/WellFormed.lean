import InterruptCaps.Proofs.Space.Slots
import Mathlib.Data.List.Nodup

/-! Capability spaces in which nothing dangles. A space is well formed over the nodes that were made
    in it: each of them is there with all its slots, the nodes that slots hold are among them,
    parents are slots, and a slot that holds nothing was derived from nothing.

    Nodes are numbered as they are made. A number has 32 bits, so after `2 ^ 32` nodes the numbers
    come again, and a capability to a later node addresses an earlier one, which may have another
    radix. So the first fact is about spaces of at most that many nodes; the others are about all.

    Resolution does not look whether the slot that it ends at is there. In a well-formed space it
    always is: each level of the walk is a node that was made, and an index of as many bits as the
    node has stays within its slots. -/

namespace InterruptCaps

/-- The capability addresses a node that was made, behind whatever guard. -/
def CNode.Among (node : CNode) (made : List CNode) : Prop :=
  ∃ m ∈ made, node.id = m.id ∧ node.radix = m.radix

theorem CNode.among_of_mem {node : CNode} {made : List CNode} (h : node ∈ made) :
    node.Among made := ⟨node, h, rfl, rfl⟩

theorem CNode.Among.cons {node : CNode} {made : List CNode} (h : node.Among made) (m : CNode) :
    node.Among (m :: made) := by
  obtain ⟨m', hm', hsame⟩ := h
  exact ⟨m', List.mem_cons_of_mem m hm', hsame⟩

namespace Space

/-! ### How many slots a node has -/

/-- The number of slots of the node numbered `id`, if there is such a node. -/
def size? (s : Space) (id : Nat) : Option Nat := s.nodes[id]?.map Array.size

theorem isSome_slot?_iff {s : Space} {ref : SlotRef} :
    (s.slot? ref).isSome ↔ ∃ n, s.size? ref.node = some n ∧ ref.index < n := by
  rw [slot?, size?]
  cases s.nodes[ref.node]? with
  | none => simp
  | some node => simp

theorem lt_of_size? {s : Space} {id n : Nat} (h : s.size? id = some n) : id < s.nodes.size := by
  rw [size?, Option.map_eq_some_iff] at h
  obtain ⟨node, hnode, -⟩ := h
  exact (Array.getElem?_eq_some_iff.1 hnode).1

/-- No slot comes or goes when one is written. -/
theorem size?_put (s : Space) (ref : SlotRef) (slot : Slot) (id : Nat) :
    (s.put ref slot).size? id = s.size? id := by
  rw [size?, size?, put, Array.getElem?_modify]
  split
  · cases s.nodes[id]? with
    | none => rfl
    | some node => simp
  · rfl

theorem isSome_slot?_put (s : Space) (ref : SlotRef) (slot : Slot) (ref' : SlotRef) :
    ((s.put ref slot).slot? ref').isSome ↔ (s.slot? ref').isSome := by
  rw [isSome_slot?_iff, isSome_slot?_iff, size?_put]

theorem size_nodes_createNode {s s' : Space} {radix : Nat} {guard : Guard} {node : CNode}
    (h : s.createNode radix guard = .ok (node, s')) : s'.nodes.size = s.nodes.size + 1 := by
  obtain ⟨-, -, -, rfl⟩ := createNode_pushes h
  exact Array.size_push _

theorem size?_createNode {s s' : Space} {radix : Nat} {guard : Guard} {node : CNode}
    (h : s.createNode radix guard = .ok (node, s')) (id : Nat) :
    s'.size? id = if id = s.nodes.size then some (2 ^ radix) else s.size? id := by
  obtain ⟨-, -, -, rfl⟩ := createNode_pushes h
  rw [size?, Array.getElem?_push]
  split
  · simp
  · rfl

/-! ### Well-formed spaces -/

/-- Nothing dangles in the space, in which these nodes were made, the last one first. -/
structure WellFormed (s : Space) (made : List CNode) : Prop where
  numbered : made.map CNode.id = ((List.range s.nodes.size).map (· % CNode.idCount)).reverse
  /-- As long as there are numbers for all nodes, each of them is there. -/
  sized : s.nodes.size ≤ CNode.idCount →
    ∀ node ∈ made, 1 ≤ node.radix ∧ s.size? node.id = some (2 ^ node.radix)
  held : ∀ ref slot node, s.slot? ref = some slot → slot.cap = .cnode node → node.Among made
  parents : ∀ ref slot parent, s.slot? ref = some slot → slot.parent = some parent →
    (s.slot? parent).isSome
  bare : ∀ ref slot, s.slot? ref = some slot → slot.cap = .null → slot.parent = none

/-- What a lookup can find where nothing dangles: a slot that is there, or that the depth is none,
    or that a guard or the depth does not fit. -/
def Lands (s : Space) : Except SlotError SlotRef → Prop
  | .ok ref => (s.slot? ref).isSome
  | .error e => e = .invalidDepth ∨ e = .guardMismatch ∨ e = .depthMismatch

namespace WellFormed

variable {s s' : Space} {made : List CNode} {node : CNode} {ref : SlotRef} {slot : Slot}

theorem empty : WellFormed .empty [] := by
  have hnone : ∀ ref, Space.empty.slot? ref = none := by
    intro ref
    simp [slot?, Space.empty]
  refine ⟨rfl, ?_, fun ref slot node h => ?_, fun ref slot parent h => ?_, fun ref slot h => ?_⟩
  · intro _ node hnode
    exact absurd hnode List.not_mem_nil
  all_goals
    rw [hnone] at h
    cases h

theorem length_made (h : s.WellFormed made) : made.length = s.nodes.size := by
  simpa using congrArg List.length h.numbered

/-- No two nodes have the same number exactly as long as there are numbers for all of them. -/
theorem nodup_iff (h : s.WellFormed made) :
    (made.map CNode.id).Nodup ↔ s.nodes.size ≤ CNode.idCount := by
  rw [h.numbered, List.nodup_reverse, List.nodup_map_iff_inj_on List.nodup_range]
  constructor
  · intro hown
    refine Nat.le_of_not_lt fun hmany => ?_
    -- the first node has number zero, and so has the first one without a number of its own
    have hsame : 0 = CNode.idCount := hown 0 (List.mem_range.2 (Nat.zero_lt_of_lt hmany))
      CNode.idCount (List.mem_range.2 hmany) (Nat.mod_self _).symm
    cases hsame
  · intro few i hi j hj hsame
    have hlt : ∀ place ∈ List.range s.nodes.size, place < CNode.idCount :=
      fun place hplace => Nat.lt_of_lt_of_le (List.mem_range.1 hplace) few
    rwa [Nat.mod_eq_of_lt (hlt i hi), Nat.mod_eq_of_lt (hlt j hj)] at hsame

/-- A node that was made is there, and so are its slots, whatever the guard before it. -/
theorem sized_of_among (h : s.WellFormed made) (few : s.nodes.size ≤ CNode.idCount)
    (hnode : node.Among made) : 1 ≤ node.radix ∧ s.size? node.id = some (2 ^ node.radix) := by
  obtain ⟨m, hm, hid, hradix⟩ := hnode
  rw [hid, hradix]
  exact h.sized few m hm

/-- A slot is written: what it holds now does not dangle. -/
theorem put (h : s.WellFormed made) (hheld : ∀ node, slot.cap = .cnode node → node.Among made)
    (hparent : ∀ parent, slot.parent = some parent → (s.slot? parent).isSome)
    (hbare : slot.cap = .null → slot.parent = none) : (s.put ref slot).WellFormed made := by
  -- every slot of the new space is the one written or was there before
  have hslot : ∀ ref' slot', (s.put ref slot).slot? ref' = some slot' →
      slot' = slot ∨ s.slot? ref' = some slot' := by
    intro ref' slot' h'
    rw [slot?_put] at h'
    split at h'
    · obtain ⟨_, -, rfl⟩ := Option.map_eq_some_iff.1 h'
      exact .inl rfl
    · exact .inr h'
  refine ⟨?_, fun few node hnode => ?_, ?_, ?_, ?_⟩
  · rw [size_nodes_put]
    exact h.numbered
  · rw [size_nodes_put] at few
    rw [size?_put]
    exact h.sized few node hnode
  · intro ref' slot' node hslot' hnode
    rcases hslot ref' slot' hslot' with rfl | hold
    · exact hheld node hnode
    · exact h.held ref' slot' node hold hnode
  · intro ref' slot' parent hslot' hparent'
    rw [isSome_slot?_put]
    rcases hslot ref' slot' hslot' with rfl | hold
    · exact hparent parent hparent'
    · exact h.parents ref' slot' parent hold hparent'
  · intro ref' slot' hslot' hnull
    rcases hslot ref' slot' hslot' with rfl | hold
    · exact hbare hnull
    · exact h.bare ref' slot' hold hnull

theorem insert (h : s.WellFormed made) {cap : Cap} {source dest : SlotRef}
    (hinsert : s.insert cap source dest = .ok s') (hnull : cap ≠ .null)
    (hcap : ∀ node, cap = .cnode node → node.Among made) : s'.WellFormed made := by
  obtain ⟨hsource, -, rfl⟩ := insert_eq_ok.1 hinsert
  refine h.put hcap (fun parent hparent => ?_) fun hcap => absurd hcap hnull
  cases hparent
  exact hsource

/-- What is deleted did not dangle, and an empty slot does not either. -/
theorem delete (h : s.WellFormed made) {cap : Cap} (hdelete : s.delete ref = .ok (cap, s')) :
    s'.WellFormed made ∧ ∀ node, cap = .cnode node → node.Among made := by
  obtain ⟨⟨parent, hslot⟩, -, rfl⟩ := delete_eq_ok.1 hdelete
  refine ⟨h.put ?_ ?_ fun _ => rfl, fun node hnode => h.held ref _ node hslot hnode⟩
  · intro node hnode
    cases hnode
  · intro parent hparent
    cases hparent

theorem createNode (h : s.WellFormed made) {radix : Nat} {guard : Guard}
    (hmade : s.createNode radix guard = .ok (node, s')) : s'.WellFormed (node :: made) := by
  have hsize := size?_createNode hmade
  have hnodes := size_nodes_createNode hmade
  obtain ⟨hradix, -, rfl, hslots⟩ := createNode_eq_ok hmade
  -- every slot of the new space is empty or was there before
  have hslot : ∀ ref slot, s'.slot? ref = some slot → slot = .empty ∨ s.slot? ref = some slot := by
    intro ref slot hslot
    rw [hslots] at hslot
    split at hslot
    · split at hslot <;> cases hslot
      exact .inl rfl
    · exact .inr hslot
  refine ⟨?_, ?_, ?_, ?_, ?_⟩
  · rw [hnodes, List.range_succ, List.map_append, List.reverse_append, ← h.numbered]
    rfl
  · intro few node hnode
    have hroom : s.nodes.size < CNode.idCount := by omega
    rcases List.mem_cons.1 hnode with rfl | hold
    · rw [hsize, if_pos (Nat.mod_eq_of_lt hroom)]
      exact ⟨hradix, rfl⟩
    · obtain ⟨hradix, hthere⟩ := h.sized (Nat.le_of_lt hroom) node hold
      rw [hsize, if_neg (Nat.ne_of_lt (lt_of_size? hthere))]
      exact ⟨hradix, hthere⟩
  · intro ref slot node hslot' hnode
    rcases hslot ref slot hslot' with rfl | hold
    · cases hnode
    · exact (h.held ref slot node hold hnode).cons _
  · intro ref slot parent hslot' hparent
    rcases hslot ref slot hslot' with rfl | hold
    · cases hparent
    · obtain ⟨n, hn, hlt⟩ := isSome_slot?_iff.1 (h.parents ref slot parent hold hparent)
      rw [isSome_slot?_iff, hsize, if_neg (Nat.ne_of_lt (lt_of_size? hn))]
      exact ⟨n, hn, hlt⟩
  · intro ref slot hslot' hnull
    rcases hslot ref slot hslot' with rfl | hold
    · rfl
    · exact h.bare ref slot hold hnull

/-- A first capability is laid down. -/
theorem plant (h : s.WellFormed made) {cap : Cap} (hplant : s.plant ref cap = .ok s')
    (hnull : cap ≠ .null) (hcap : ∀ node, cap = .cnode node → node.Among made) :
    s'.WellFormed made := by
  obtain ⟨slot, hslot, rfl⟩ := plant_eq_ok.1 hplant
  exact h.put hcap (fun parent => h.parents ref slot parent hslot) fun hcap => absurd hcap hnull

theorem boot {radix : Nat} {guard : Guard} {root : CNode}
    (hboot : Space.boot radix guard = .ok (root, s)) : s.WellFormed [root] := by
  simp only [Space.boot, bind_eq_ok] at hboot
  obtain ⟨⟨node, s₀⟩, hmade, s₁, hs₁, s₂, hs₂, hroot⟩ := hboot
  cases hroot
  have h₁ := (empty.createNode hmade).plant hs₁ (by simp) fun node hnode => by
    cases hnode
    exact CNode.among_of_mem List.mem_cons_self
  refine h₁.plant hs₂ (by simp) fun node hnode => ?_
  cases hnode

/-! ### Lookups -/

/-- The slot that a pointer selects in a node that was made is there. -/
theorem isSome_of_select (h : s.WellFormed made) (few : s.nodes.size ≤ CNode.idCount)
    (hnode : node.Among made) {p : CapPtr} {remaining left : Nat}
    (hselect : node.select p remaining = .ok (ref, left)) : (s.slot? ref).isSome := by
  obtain ⟨-, -, hid, hindex⟩ := CNode.select_eq_ok hselect
  rw [Nat.one_shiftLeft] at hindex
  exact isSome_slot?_iff.2 ⟨_, by rw [hid]; exact (h.sized_of_among few hnode).2, hindex⟩

theorem select_error {p : CapPtr} {remaining : Nat} {e : SlotError}
    (hselect : node.select p remaining = .error e) : e = .guardMismatch ∨ e = .depthMismatch := by
  rw [CNode.select] at hselect
  split at hselect
  · split at hselect <;> cases hselect
    exact .inr rfl
  · cases hselect
    exact .inl rfl

/-- A walk from a node that was made ends at a slot that is there, or at a level that the pointer
    does not fit. -/
theorem walk_lands (h : s.WellFormed made) (few : s.nodes.size ≤ CNode.idCount)
    (hnode : node.Among made) (p : CapPtr) (remaining idle : Nat) :
    (∃ ref, s.walk p node remaining idle = .ok ref ∧ (s.slot? ref).isSome)
      ∨ s.walk p node remaining idle = .error .guardMismatch
      ∨ s.walk p node remaining idle = .error .depthMismatch := by
  induction remaining using Nat.strongRecOn generalizing node idle with
  | ind remaining ih =>
    have hwidth : 0 < node.width := Nat.add_pos_right _ (h.sized_of_among few hnode).1
    rw [walk_of_width hwidth]
    cases hselect : node.select p remaining with
    | error e =>
      rcases select_error hselect with rfl | rfl
      · exact .inr (.inl rfl)
      · exact .inr (.inr rfl)
    | ok read =>
      obtain ⟨ref, left⟩ := read
      have hslot := h.isSome_of_select few hnode hselect
      obtain ⟨⟨cap, parent⟩, hheld⟩ := Option.isSome_iff_exists.1 hslot
      by_cases hleft : left = 0
      · exact .inl ⟨ref, by simp only [hleft, if_true], hslot⟩
      · simp only [hleft, if_false, slot_eq_ok_iff.2 hheld]
        cases cap with
        | cnode next =>
          -- the level has taken its width from the bits, so fewer are left for the next node
          obtain ⟨hfits, hless, -⟩ := CNode.select_eq_ok hselect
          exact ih left (by omega) (h.held ref _ next hheld rfl) _
        | null | irqControl | irqHandler | sgiSignal => exact .inr (.inr rfl)

/-- A lookup from a node that was made says that the depth is no depth exactly if it is none, and
    it always lands. -/
theorem lookup_lands (h : s.WellFormed made) (few : s.nodes.size ≤ CNode.idCount)
    (hnode : node.Among made) (index depth : UInt64) :
    (s.lookup (.cnode node) index depth = .error .invalidDepth
        ↔ ¬ (1 ≤ depth.toNat ∧ depth.toNat ≤ Depth.maxBits))
      ∧ s.Lands (s.lookup (.cnode node) index depth) := by
  by_cases hdepth : 1 ≤ depth.toNat ∧ depth.toNat ≤ Depth.maxBits
  · have hlookup : s.lookup (.cnode node) index depth
        = s.walk ⟨index⟩ node depth.toNat s.nodes.size := by
      simp only [lookup, Depth.ofWord?, if_pos hdepth, resolve]
    rw [hlookup]
    rcases h.walk_lands few hnode ⟨index⟩ depth.toNat s.nodes.size with
      ⟨ref, hwalk, hslot⟩ | hwalk | hwalk <;> rw [hwalk]
    · exact ⟨by simp [hdepth], hslot⟩
    · exact ⟨by simp [hdepth], .inr (.inl rfl)⟩
    · exact ⟨by simp [hdepth], .inr (.inr rfl)⟩
  · have hlookup : s.lookup (.cnode node) index depth = .error .invalidDepth := by
      simp only [lookup, Depth.ofWord?, if_neg hdepth]
    rw [hlookup]
    exact ⟨⟨fun _ => hdepth, fun _ => rfl⟩, .inl rfl⟩

end WellFormed

end Space

end InterruptCaps
