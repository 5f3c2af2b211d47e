import InterruptCaps.Space.Store
import Mathlib.Algebra.Group.Nat.Defs

/-! Slots after each operation on the capability space. Every operation is seen through `slot?`: an
    operation that succeeds changes one slot, or adds a node of empty ones, and nothing else. -/

namespace InterruptCaps

/-- A chain of checks succeeds if the first does and, on its result, the rest. -/
theorem bind_eq_ok {ε α β : Type} {x : Except ε α} {f : α → Except ε β} {b : β} :
    x >>= f = .ok b ↔ ∃ a, x = .ok a ∧ f a = .ok b := by
  cases x <;> simp [bind, Except.bind]

/-- A capability to a node reads at least one bit as an index; any other may be stored as it is. -/
def Cap.Indexed : Cap → Prop
  | .cnode node => 1 ≤ node.radix
  | _ => True

instance : DecidablePred Cap.Indexed
  | .cnode node => inferInstanceAs (Decidable (1 ≤ node.radix))
  | .null | .irqControl _ | .irqHandler .. | .sgiSignal .. => instDecidableTrue

/-- A handler, as the interrupt that it receives and the trigger that it was issued with. -/
def Cap.handler? : Cap → Option (IrqId × Option Trigger)
  | .irqHandler id trigger => some (id, trigger)
  | _ => none

theorem Cap.handled?_eq (c : Cap) : c.handled? = c.handler?.map Prod.fst := by
  cases c <;> rfl

namespace Space

/-- Every slot holds something with this property. -/
def All (P : Cap → Prop) (s : Space) : Prop := ∀ ref slot, s.slot? ref = some slot → P slot.cap

/-- Every node that a slot holds reads at least one bit as an index. -/
def Indexed (s : Space) : Prop := ∀ ref slot, s.slot? ref = some slot → slot.cap.Indexed

/-- The handler at `ref`, if there is one. -/
def handler? (s : Space) (ref : SlotRef) : Option (IrqId × Option Trigger) :=
  (s.slot? ref).bind (·.cap.handler?)

theorem all_iff {P : Cap → Prop} {s : Space} :
    s.All P ↔ ∀ node ∈ s.nodes, ∀ slot ∈ node, P slot.cap := by
  constructor
  · intro h node hnode slot hslot
    obtain ⟨n, hn⟩ := Array.mem_iff_getElem?.1 hnode
    obtain ⟨i, hi⟩ := Array.mem_iff_getElem?.1 hslot
    exact h ⟨n, i⟩ slot (by rw [slot?, hn, Option.bind_some, hi])
  · intro h ref slot hslot
    obtain ⟨node, hnode, hi⟩ := Option.bind_eq_some_iff.1 hslot
    exact h node (Array.mem_of_getElem? hnode) slot (Array.mem_of_getElem? hi)

instance (P : Cap → Prop) [DecidablePred P] (s : Space) : Decidable (s.All P) :=
  decidable_of_iff' _ all_iff

instance (s : Space) : Decidable s.Indexed := inferInstanceAs (Decidable (s.All Cap.Indexed))

/-! ### Single operations -/

theorem slot?_put_self {s : Space} {ref : SlotRef} (h : (s.slot? ref).isSome) (slot : Slot) :
    (s.put ref slot).slot? ref = some slot := by
  obtain ⟨old, hold⟩ := Option.isSome_iff_exists.1 h
  rw [slot?_put, if_pos rfl, hold, Option.map_some]

theorem slot?_put_of_ne (s : Space) {ref ref' : SlotRef} (h : ref ≠ ref') (slot : Slot) :
    (s.put ref slot).slot? ref' = s.slot? ref' := by
  rw [slot?_put, if_neg h]

/-- No node comes or goes when a slot is written. -/
theorem size_nodes_put (s : Space) (ref : SlotRef) (slot : Slot) :
    (s.put ref slot).nodes.size = s.nodes.size := by
  simp [put]

/-- A slot can be filled if it exists and holds nothing. -/
theorem ensureEmpty_eq_ok {s : Space} {ref : SlotRef} :
    s.ensureEmpty ref = .ok () ↔ ∃ slot, s.slot? ref = some slot ∧ slot.cap = .null := by
  simp only [ensureEmpty, ← slot_eq_ok_iff]
  cases s.slot ref with
  | error e => simp
  | ok slot =>
    by_cases h : slot.cap = .null
    · simp [Slot.isEmpty, h, Cap.isNull]
    · simp [Slot.isEmpty, h, Cap.isNull_iff]

/-- An insertion needs an existing source and an empty destination, and fills that one slot. -/
theorem insert_eq_ok {s s' : Space} {cap : Cap} {source dest : SlotRef} :
    s.insert cap source dest = .ok s' ↔ (s.slot? source).isSome ∧ s.ensureEmpty dest = .ok ()
      ∧ s' = s.put dest ⟨cap, some source⟩ := by
  simp only [insert, Option.isSome_iff_exists, ← slot_eq_ok_iff]
  cases s.slot source with
  | error e => simp
  | ok slot =>
    cases s.ensureEmpty dest with
    | error e => simp
    | ok u => simp [eq_comm]

/-- A deletion gives what the slot held and leaves it empty. -/
theorem delete_eq_ok {s s' : Space} {ref : SlotRef} {cap : Cap} :
    s.delete ref = .ok (cap, s') ↔ (∃ parent, s.slot? ref = some ⟨cap, parent⟩) ∧ cap ≠ .null
      ∧ s' = s.put ref .empty := by
  simp only [delete, ← slot_eq_ok_iff]
  cases s.slot ref with
  | error e => simp
  | ok slot =>
    obtain ⟨held, parent⟩ := slot
    by_cases h : held = .null
    · subst h
      simp [Slot.isEmpty, Cap.isNull]
      rintro rfl
      simp
    · have hnull : held.isNull = false := Bool.eq_false_iff.2 fun hn => h (Cap.isNull_iff.1 hn)
      simp only [Slot.isEmpty, hnull, Bool.false_eq_true, if_false, Except.ok.injEq,
        Prod.mk.injEq, Slot.mk.injEq]
      constructor
      · rintro ⟨rfl, rfl⟩
        exact ⟨⟨parent, rfl, rfl⟩, h, rfl⟩
      · rintro ⟨⟨_, rfl, rfl⟩, -, rfl⟩
        exact ⟨rfl, rfl⟩

/-- A new node comes after all others, and its slots are empty. -/
theorem createNode_pushes {s s' : Space} {radix : Nat} {guard : Guard} {node : CNode}
    (h : s.createNode radix guard = .ok (node, s')) :
    CNode.minRadix ≤ radix ∧ radix ≤ CNode.maxRadix
      ∧ node = ⟨s.nodes.size % CNode.idCount, radix, guard⟩
      ∧ s' = ⟨s.nodes.push (Array.replicate (2 ^ radix) .empty)⟩ := by
  simp only [createNode, Nat.one_shiftLeft] at h
  split at h
  · rename_i hradix
    cases h
    exact ⟨hradix.1, hradix.2, rfl, rfl⟩
  · cases h

/-- A new node in terms of slots: its own are there and empty, and all others are as they were. -/
theorem createNode_eq_ok {s s' : Space} {radix : Nat} {guard : Guard} {node : CNode}
    (h : s.createNode radix guard = .ok (node, s')) :
    CNode.minRadix ≤ radix ∧ radix ≤ CNode.maxRadix
      ∧ node = ⟨s.nodes.size % CNode.idCount, radix, guard⟩
      ∧ ∀ ref, s'.slot? ref =
        if ref.node = s.nodes.size then
          if ref.index < 2 ^ radix then some .empty else none
        else s.slot? ref := by
  obtain ⟨hmin, hmax, rfl, rfl⟩ := createNode_pushes h
  refine ⟨hmin, hmax, rfl, fun ref => ?_⟩
  simp only [slot?, Array.getElem?_push]
  split
  · simp [Array.getElem?_replicate]
  · rfl

/-- A first capability goes into an existing slot, whose parent stays as it was. -/
theorem plant_eq_ok {s s' : Space} {ref : SlotRef} {cap : Cap} :
    s.plant ref cap = .ok s' ↔ ∃ slot, s.slot? ref = some slot ∧ s' = s.put ref { slot with cap } := by
  simp only [plant, ← slot_eq_ok_iff]
  cases s.slot ref with
  | error e => simp [Except.map]
  | ok slot => simp [Except.map, eq_comm]

/-- What the first node's slots hold at start-up: the node itself and the authority over
    interrupts. -/
def firstCap (root : CNode) (index : Nat) : Cap :=
  if index = RootSlot.irqControl.index then .irqControl .none
  else if index = RootSlot.rootNode.index then .cnode root
  else .null

/-- At start-up there is one node, and nothing in it was derived from anything. -/
theorem boot_eq_ok {s : Space} {radix : Nat} {guard : Guard} {root : CNode}
    (h : boot radix guard = .ok (root, s)) :
    CNode.minRadix ≤ radix ∧ root = ⟨0, radix, guard⟩ ∧ ∀ ref, s.slot? ref =
      if ref.node = 0 ∧ ref.index < 2 ^ radix then some ⟨firstCap root ref.index, none⟩
      else none := by
  simp only [boot, bind_eq_ok] at h
  obtain ⟨⟨node, s₀⟩, hmade, s₁, hs₁, s₂, hs₂, h⟩ := h
  obtain ⟨hr, -, rfl, hslots⟩ := createNode_eq_ok hmade
  have hempty : ∀ ref, s₀.slot? ref =
      if ref.node = 0 ∧ ref.index < 2 ^ radix then some .empty else none := by
    intro ref
    rw [hslots, empty]
    by_cases hn : ref.node = 0 <;> simp [hn, slot?]
  simp only [empty, List.size_toArray, List.length_nil, Nat.zero_mod] at hs₁ hs₂ h
  obtain ⟨slot₀, hslot₀, rfl⟩ := plant_eq_ok.1 hs₁
  obtain ⟨slot₁, hslot₁, rfl⟩ := plant_eq_ok.1 hs₂
  cases h
  rw [slot?_put_of_ne _ (by simp [RootSlot.index])] at hslot₁
  simp only [hempty, Option.ite_none_right_eq_some, Option.some.injEq] at hslot₀ hslot₁
  obtain ⟨-, rfl⟩ := hslot₀
  obtain ⟨-, rfl⟩ := hslot₁
  refine ⟨hr, rfl, fun ref => ?_⟩
  obtain ⟨n, i⟩ := ref
  simp only [slot?_put, hempty, SlotRef.mk.injEq, firstCap, Slot.empty]
  by_cases hin : n = 0 ∧ i < 2 ^ radix
  · obtain ⟨rfl, hi⟩ := hin
    have hne : RootSlot.irqControl.index ≠ RootSlot.rootNode.index := by decide
    by_cases h₃ : i = RootSlot.irqControl.index
    · subst h₃
      simp [hi, hne.symm]
    · by_cases h₀ : i = RootSlot.rootNode.index
      · subst h₀
        simp [hi, hne, hne.symm]
      · simp [hi, h₃, h₀, Ne.symm h₃, Ne.symm h₀]
  · simp [hin]

/-! ### Handlers after each operation -/

/-- A free slot holds no handler. -/
theorem handler?_of_ensureEmpty {s : Space} {ref : SlotRef} (h : s.ensureEmpty ref = .ok ()) :
    s.handler? ref = none := by
  obtain ⟨slot, hslot, hnull⟩ := ensureEmpty_eq_ok.1 h
  rw [handler?, hslot, Option.bind_some, hnull]
  rfl

theorem handler?_put {s : Space} {ref : SlotRef} (h : (s.slot? ref).isSome) (slot : Slot)
    (ref' : SlotRef) :
    (s.put ref slot).handler? ref' = if ref = ref' then slot.cap.handler? else s.handler? ref' := by
  rw [handler?]
  by_cases hr : ref = ref'
  · subst hr
    rw [slot?_put_self h, if_pos rfl, Option.bind_some]
  · rw [slot?_put_of_ne s hr, if_neg hr, handler?]

theorem handler?_insert {s s' : Space} {cap : Cap} {source dest : SlotRef}
    (h : s.insert cap source dest = .ok s') (ref : SlotRef) :
    s'.handler? ref = if dest = ref then cap.handler? else s.handler? ref := by
  obtain ⟨-, hempty, rfl⟩ := insert_eq_ok.1 h
  obtain ⟨slot, hslot, -⟩ := ensureEmpty_eq_ok.1 hempty
  exact handler?_put (Option.isSome_of_eq_some hslot) _ ref

/-- Putting anything but a handler into a free slot leaves the handlers as they are. -/
theorem handler?_insert_other {s s' : Space} {cap : Cap} {source dest : SlotRef}
    (h : s.insert cap source dest = .ok s') (hcap : cap.handler? = none) :
    s'.handler? = s.handler? := by
  funext ref
  rw [handler?_insert h, hcap]
  split
  · rename_i hr
    subst hr
    exact (handler?_of_ensureEmpty (insert_eq_ok.1 h).2.1).symm
  · rfl

theorem handler?_delete {s s' : Space} {cap : Cap} {ref : SlotRef}
    (h : s.delete ref = .ok (cap, s')) :
    s.handler? ref = cap.handler?
      ∧ ∀ ref', s'.handler? ref' = if ref = ref' then none else s.handler? ref' := by
  obtain ⟨⟨parent, hslot⟩, -, rfl⟩ := delete_eq_ok.1 h
  refine ⟨by rw [handler?, hslot, Option.bind_some], fun ref' => ?_⟩
  exact handler?_put (Option.isSome_of_eq_some hslot) _ ref'

theorem handler?_createNode {s s' : Space} {radix : Nat} {guard : Guard} {node : CNode}
    (h : s.createNode radix guard = .ok (node, s')) : s'.handler? = s.handler? := by
  obtain ⟨-, -, -, hslots⟩ := createNode_eq_ok h
  funext ref
  rw [handler?, handler?, hslots]
  split
  · rename_i hn
    have hold : s.slot? ref = none := by rw [slot?, hn]; simp
    rw [hold]
    split <;> rfl
  · rfl

theorem handler?_boot {s : Space} {radix : Nat} {guard : Guard} {root : CNode}
    (h : boot radix guard = .ok (root, s)) (ref : SlotRef) : s.handler? ref = none := by
  obtain ⟨-, -, hslots⟩ := boot_eq_ok h
  rw [handler?, hslots]
  split
  · rw [Option.bind_some, firstCap]
    split
    · rfl
    · split <;> rfl
  · rfl

end Space

end InterruptCaps
