import InterruptCaps.Proofs.Space.Slots

/-! Filling a slot that held nothing. All that a walk asks of a space is where the slots on its way
    lead. A slot that holds nothing leads nowhere, and neither does one that holds anything but a
    node. So a capability that is no node can be put into an empty slot and no lookup notices, be
    it one whose way ends at that very slot or wants to go through it.

        slot holds         leads to
        a node             that node
        anything else      depth mismatch
        nothing            depth mismatch    -/

namespace InterruptCaps.Space

/-! ### Reading after a write -/

/-- Putting a slot changes what is read at that place alone, errors included. -/
theorem slot_put_of_ne (s : Space) {ref ref' : SlotRef} (h : ref ≠ ref') (slot : Slot) :
    (s.put ref slot).slot ref' = s.slot ref' := by
  obtain ⟨n, i⟩ := ref
  obtain ⟨n', i'⟩ := ref'
  simp only [Space.slot, put, Array.getElem?_modify]
  by_cases hn : n = n'
  · subst hn
    have hi : i ≠ i' := by
      rintro rfl
      exact h rfl
    cases s.nodes[n]? with
    | none => simp
    | some node => simp [hi]
  · simp [hn]

theorem ensureEmpty_put_of_ne (s : Space) {ref ref' : SlotRef} (h : ref ≠ ref') (slot : Slot) :
    (s.put ref slot).ensureEmpty ref' = s.ensureEmpty ref' := by
  rw [ensureEmpty, ensureEmpty, slot_put_of_ne s h]

/-- Writes to different places can change places. -/
theorem put_comm (s : Space) {ref ref' : SlotRef} (h : ref ≠ ref') (slot slot' : Slot) :
    (s.put ref slot).put ref' slot' = (s.put ref' slot').put ref slot := by
  obtain ⟨n, i⟩ := ref
  obtain ⟨n', i'⟩ := ref'
  refine congrArg mk (Array.ext_getElem? fun m => ?_)
  simp only [put, Array.getElem?_modify]
  by_cases hn : n = m
  · subst hn
    by_cases hn' : n' = n
    · subst hn'
      have hi : i ≠ i' := by
        rintro rfl
        exact h rfl
      cases s.nodes[n']? with
      | none => simp
      | some node => simp [Array.setIfInBounds_comm _ _ hi]
    · simp [hn']
  · simp [hn]

/-! ### Where slots lead -/

/-- The node that a slot leads to. -/
def next (s : Space) (ref : SlotRef) : Except SlotError CNode :=
  match s.slot ref with
  | .error e => .error e
  | .ok ⟨.cnode node, _⟩ => .ok node
  | .ok _ => .error .depthMismatch

/-- A slot that holds no node leads nowhere. -/
theorem next_of_slot? {s : Space} {ref : SlotRef} {slot : Slot} (h : s.slot? ref = some slot)
    (hcap : ∀ node, slot.cap ≠ .cnode node) : s.next ref = .error .depthMismatch := by
  obtain ⟨cap, parent⟩ := slot
  rw [next, slot_eq_ok_iff.2 h]
  cases cap with
  | cnode node => exact absurd rfl (hcap node)
  | null | irqControl | irqHandler | sgiSignal => rfl

/-- A slot leads to the node that it holds. -/
theorem next_eq_ok {s : Space} {ref : SlotRef} {node : CNode} :
    s.next ref = .ok node ↔ ∃ parent, s.slot? ref = some ⟨.cnode node, parent⟩ := by
  simp only [next, ← slot_eq_ok_iff]
  cases s.slot ref with
  | error e => simp
  | ok slot =>
    obtain ⟨cap, parent⟩ := slot
    cases cap <;> simp

/-- The walk goes where the slots lead. -/
theorem walk_eq (s : Space) (p : CapPtr) (node : CNode) (remaining idle : Nat) :
    s.walk p node remaining idle =
      match node.select p remaining with
      | .error e => .error e
      | .ok (ref, left) =>
        if left = 0 then .ok ref
        else
          match s.next ref with
          | .error e => .error e
          | .ok next =>
            if left < remaining then s.walk p next left s.nodes.size
            else
              match idle with
              | 0 => .error .depthMismatch
              | idle + 1 => s.walk p next remaining idle := by
  rw [walk]
  cases node.select p remaining with
  | error e => rfl
  | ok read =>
    obtain ⟨ref, left⟩ := read
    by_cases hleft : left = 0
    · simp only [hleft, if_true]
    · simp only [hleft, if_false, next]
      cases s.slot ref with
      | error e => rfl
      | ok slot =>
        obtain ⟨cap, parent⟩ := slot
        cases cap <;> rfl

/-- Spaces whose slots lead to the same nodes have the same walks. -/
theorem walk_of_next {s s' : Space} (hnext : ∀ ref, s'.next ref = s.next ref)
    (hsize : s'.nodes.size = s.nodes.size) (p : CapPtr) (node : CNode) (remaining idle : Nat) :
    s'.walk p node remaining idle = s.walk p node remaining idle := by
  rw [walk_eq, walk_eq s]
  cases node.select p remaining with
  | error e => rfl
  | ok read =>
    obtain ⟨ref, left⟩ := read
    simp only [hnext, hsize]
    cases s.next ref with
    | error e => rfl
    | ok next =>
      -- the walk goes on with fewer bits, or it was idle and has one node less to go
      by_cases hless : left < remaining
      · simp only [hless, if_true, walk_of_next hnext hsize p next left]
      · cases idle with
        | zero => simp only [hless, if_false]
        | succ idle => simp only [hless, if_false, walk_of_next hnext hsize p next remaining idle]
  termination_by (remaining, idle)

/-- So have all lookups the same result. -/
theorem lookup_of_next {s s' : Space} (hnext : ∀ ref, s'.next ref = s.next ref)
    (hsize : s'.nodes.size = s.nodes.size) (root : Cap) (index depth : UInt64) :
    s'.lookup root index depth = s.lookup root index depth := by
  cases root with
  | cnode node =>
    simp only [lookup, resolve, walk_of_next hnext hsize, hsize]
  | null | irqControl | irqHandler | sgiSignal => rfl

/-! ### An empty slot is filled -/

/-- No lookup notices that an empty slot is filled, unless with a node. -/
theorem lookup_insert {s s' : Space} {cap : Cap} {source dest : SlotRef}
    (h : s.insert cap source dest = .ok s') (hcap : ∀ node, cap ≠ .cnode node) (root : Cap)
    (index depth : UInt64) : s'.lookup root index depth = s.lookup root index depth := by
  obtain ⟨-, hempty, rfl⟩ := insert_eq_ok.1 h
  obtain ⟨old, hold, hnull⟩ := ensureEmpty_eq_ok.1 hempty
  refine lookup_of_next (fun ref => ?_) (s.size_nodes_put ..) root index depth
  by_cases hr : dest = ref
  · subst hr
    have hnow := slot?_put_self (Option.isSome_of_eq_some hold) ⟨cap, some source⟩
    rw [next_of_slot? hnow hcap, next_of_slot? hold]
    intro node hnode
    rw [hnull] at hnode
    cases hnode
  · rw [next, next, slot_put_of_ne s hr]

end InterruptCaps.Space
