import InterruptCaps.Space.Basic

/-! Resolution of a capability pointer. At each level the pointer must show the node's guard; then
    the node's index bits name a slot. If exactly the bits of this level were left, that slot is
    the result, whether or not it exists. Otherwise it must hold another node, and the walk goes
    on there with the bits that are left.

    Every level that reads bits shortens the walk. A node with neither guard nor index bits reads
    none; such nodes can follow one another at most once for each node of the space without coming
    back to one of them, and a kernel that comes back to one goes round for ever. No node that was
    made is such a node: only a capability that was made up can name one. -/

namespace InterruptCaps

/-- Reads one level: the slot that the pointer selects in `node`, and the bits left after it. -/
def CNode.select (node : CNode) (p : CapPtr) (remaining : Nat) : Except SlotError (SlotRef × Nat) :=
  if node.guard.admits p remaining then
    if node.width ≤ remaining then
      .ok (⟨node.id, p.bitsAt (remaining - node.guard.bits) node.radix⟩, remaining - node.width)
    else .error .depthMismatch
  else .error .guardMismatch

/-- A level that can be read takes its width from the bits, and selects a slot of its node. -/
theorem CNode.select_eq_ok {node : CNode} {p : CapPtr} {remaining left : Nat} {ref : SlotRef}
    (h : node.select p remaining = .ok (ref, left)) :
    node.width ≤ remaining ∧ left = remaining - node.width ∧ ref.node = node.id
      ∧ ref.index < 1 <<< node.radix := by
  simp only [select] at h
  split at h
  · split at h
    · rename_i hw
      simp only [Except.ok.injEq, Prod.mk.injEq] at h
      obtain ⟨rfl, rfl⟩ := h
      exact ⟨hw, rfl, rfl, p.bitsAt_lt _ _⟩
    · simp at h
  · simp at h

namespace Space

/-- Walks from `node` with the low `remaining` bits of `p`; `idle` more nodes may follow one another
    without reading a bit. Once there have been more, the walk goes round and would never end; it
    has `depthMismatch` as its result then, which stands for having none. Where all nodes read bits
    this does not happen (`walk_of_width`). -/
def walk (s : Space) (p : CapPtr) (node : CNode) (remaining idle : Nat) :
    Except SlotError SlotRef :=
  match node.select p remaining with
  | .error e => .error e
  | .ok (ref, left) =>
    if left = 0 then .ok ref
    else
      match s.slot ref with
      | .error e => .error e
      | .ok ⟨.cnode next, _⟩ =>
        if left < remaining then walk s p next left s.nodes.size
        else
          match idle with
          | 0 => .error .depthMismatch
          | idle + 1 => walk s p next remaining idle
      | .ok _ => .error .depthMismatch
  termination_by (remaining, idle)

/-- At a node that reads bits the walk is not idle: it goes on with fewer bits. -/
theorem walk_of_width {s : Space} {p : CapPtr} {node : CNode} {remaining idle : Nat}
    (h : 0 < node.width) :
    s.walk p node remaining idle =
      match node.select p remaining with
      | .error e => .error e
      | .ok (ref, left) =>
        if left = 0 then .ok ref
        else
          match s.slot ref with
          | .error e => .error e
          | .ok ⟨.cnode next, _⟩ => s.walk p next left s.nodes.size
          | .ok _ => .error .depthMismatch := by
  rw [walk]
  cases hsel : node.select p remaining with
  | error e => rfl
  | ok read =>
    obtain ⟨ref, left⟩ := read
    obtain ⟨hw, rfl, -⟩ := CNode.select_eq_ok hsel
    by_cases hl : remaining - node.width = 0
    · simp [hl]
    · have hlt : remaining - node.width < remaining := by omega
      simp [hl, hlt]

/-- The slot that the low `depth` bits of `p` address, from `root` on. -/
def resolve (s : Space) (root : Cap) (p : CapPtr) (depth : Depth) : Except SlotError SlotRef :=
  match root with
  | .cnode node => s.walk p node depth.remaining s.nodes.size
  | _ => .error .invalidRoot

/-- The slot that a caller addresses by two words: a pointer and how many of its bits count. -/
def lookup (s : Space) (root : Cap) (index depth : UInt64) : Except SlotError SlotRef :=
  match root with
  | .cnode _ =>
    match Depth.ofWord? depth with
    | none => .error .invalidDepth
    | some depth => s.resolve root ⟨index⟩ depth
  | _ => .error .invalidRoot

end Space

end InterruptCaps
