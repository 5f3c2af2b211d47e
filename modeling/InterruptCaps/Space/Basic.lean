import InterruptCaps.Cap.Basic
import InterruptCaps.Space.Error

/-! The capability space: all nodes of the kernel with their slots. A slot is addressed by the
    number of its node and its place in it (`SlotRef`), holds one capability or none, and
    remembers the slot that its capability was derived from. `slot?` is the view that everything
    else is said with. -/

namespace InterruptCaps

/-- The place of a slot. -/
structure SlotRef where
  node : Nat
  index : Nat
  deriving DecidableEq

/-- One capability and the slot it was derived from. -/
structure Slot where
  cap : Cap
  parent : Option SlotRef
  deriving DecidableEq

/-- The slot without a capability or a parent. -/
def Slot.empty : Slot := ⟨.null, none⟩

def Slot.isEmpty (s : Slot) : Bool := s.cap.isNull

/-- The places in the first node that are laid down at start-up. -/
inductive RootSlot where | rootNode | rootThread | rootAddressSpace | irqControl | firstFree

/-- Where each of them is. -/
def RootSlot.index : RootSlot → Nat
  | rootNode => 0
  | rootThread => 1
  | rootAddressSpace => 2
  | irqControl => 3
  | firstFree => 4

/-- The nodes in the order of their creation; a number addresses the node at that place. -/
structure Space where
  nodes : Array (Array Slot)
  deriving DecidableEq

namespace Space

/-- No node at all. -/
def empty : Space := ⟨#[]⟩

/-- The slot at `ref`, if there is one. -/
def slot? (s : Space) (ref : SlotRef) : Option Slot := s.nodes[ref.node]?.bind (·[ref.index]?)

/-- The slot at `ref`, or why there is none. -/
def slot (s : Space) (ref : SlotRef) : Except SlotError Slot :=
  match s.nodes[ref.node]? with
  | none => .error .objectNotFound
  | some node =>
    match node[ref.index]? with
    | none => .error .invalidIndex
    | some slot => .ok slot

/-- The space with `slot` at `ref`, where there is a slot. -/
def put (s : Space) (ref : SlotRef) (slot : Slot) : Space :=
  ⟨s.nodes.modify ref.node (·.setIfInBounds ref.index slot)⟩

/-- The capability at `ref`, null if the slot is empty. -/
def capAt (s : Space) (ref : SlotRef) : Except SlotError Cap := (s.slot ref).map Slot.cap

/-- Adds a node of `2 ^ radix` empty slots. The number that is given for it is its place, as long as
    the place has no more bits than a number; beyond that, other nodes have these numbers. -/
def createNode (s : Space) (radix : Nat) (guard : Guard) : Except SlotError (CNode × Space) :=
  if CNode.minRadix ≤ radix ∧ radix ≤ CNode.maxRadix then
    .ok (⟨s.nodes.size % CNode.idCount, radix, guard⟩,
      ⟨s.nodes.push (Array.replicate (1 <<< radix) Slot.empty)⟩)
  else .error .invalidIndex

/-- Lays a first capability into the slot at `ref`, derived from nothing. -/
def plant (s : Space) (ref : SlotRef) (cap : Cap) : Except SlotError Space :=
  (s.slot ref).map fun slot => s.put ref { slot with cap }

/-- The space of the first task: one node that holds a capability to itself and the authority over
    interrupts. -/
def boot (radix : Nat) (guard : Guard) : Except SlotError (CNode × Space) := do
  let (root, s) ← empty.createNode radix guard
  let s ← s.plant ⟨root.id, RootSlot.rootNode.index⟩ (.cnode root)
  let s ← s.plant ⟨root.id, RootSlot.irqControl.index⟩ (.irqControl .none)
  return (root, s)

/-- Empties the slot at `ref` and gives what it held. -/
def delete (s : Space) (ref : SlotRef) : Except SlotError (Cap × Space) :=
  match s.slot ref with
  | .error e => .error e
  | .ok slot => if slot.isEmpty then .error .emptySlot else .ok (slot.cap, s.put ref .empty)

/-- Whether the slot at `ref` can be filled. -/
def ensureEmpty (s : Space) (ref : SlotRef) : Except SlotError Unit :=
  match s.slot ref with
  | .error e => .error e
  | .ok slot => if slot.isEmpty then .ok () else .error .slotOccupied

/-- Puts `cap`, derived from what `source` holds, into the empty slot at `dest`. -/
def insert (s : Space) (cap : Cap) (source dest : SlotRef) : Except SlotError Space :=
  match s.slot source with
  | .error e => .error e
  | .ok _ =>
    match s.ensureEmpty dest with
    | .error e => .error e
    | .ok _ => .ok (s.put dest ⟨cap, some source⟩)

theorem slot_eq_ok_iff {s : Space} {ref : SlotRef} {slot : Slot} :
    s.slot ref = .ok slot ↔ s.slot? ref = some slot := by
  simp only [Space.slot, slot?]
  cases s.nodes[ref.node]? with
  | none => simp
  | some node => cases h : node[ref.index]? <;> simp [h]

/-- Putting a slot changes that place alone, and only if it exists. -/
theorem slot?_put (s : Space) (ref ref' : SlotRef) (slot : Slot) :
    (s.put ref slot).slot? ref' =
      if ref = ref' then (s.slot? ref').map fun _ => slot else s.slot? ref' := by
  obtain ⟨n, i⟩ := ref
  obtain ⟨n', i'⟩ := ref'
  simp only [slot?, put, Array.getElem?_modify, SlotRef.mk.injEq]
  by_cases hn : n = n'
  · subst hn
    cases s.nodes[n]? with
    | none => simp
    | some node =>
      simp only [if_true, Option.map_some, Option.bind_some, Array.getElem?_setIfInBounds, true_and]
      by_cases hi : i = i'
      · subst hi
        by_cases h : i < node.size <;> simp [h]
      · simp [hi]
  · simp [hn]

end Space

end InterruptCaps
