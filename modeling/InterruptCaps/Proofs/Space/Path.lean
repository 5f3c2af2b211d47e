import InterruptCaps.Proofs.Space.Slots
import Mathlib.Tactic.Linarith
import Mathlib.Tactic.Ring

/-! Which slot a pointer addresses, said without walking. A *path* is a list of levels, each a node
    and a place in it; it leads from the first node to the last place if every place but the last
    holds the node of the next level. A level is spelled by two bit fields, the guard's and then
    the index's, and a path by the fields of its levels, one after another.

    Main statement: resolution finds a slot exactly if a path that leads there spells the low bits
    of the pointer. -/

namespace InterruptCaps

/-- The value of the field that a pointer must show at the guard; a field of no bits is zero. -/
def Guard.shown (g : Guard) : Nat := if g.isEmpty then 0 else g.value.toNat

/-- The number whose bits are these fields, each a width and a value, most significant first. -/
def concat (fields : List (Nat × Nat)) : Nat :=
  fields.foldl (fun n field => n * 2 ^ field.1 + field.2) 0

/-- One step of a path: a node and a place in it. -/
structure Level where
  node : CNode
  index : Nat

namespace Level

/-- The slot that the level names. -/
def ref (l : Level) : SlotRef := ⟨l.node.id, l.index⟩

/-- How a pointer spells the level: the guard, then the index. -/
def fields (l : Level) : List (Nat × Nat) :=
  [(l.node.guard.bits, l.node.guard.shown), (l.node.radix, l.index)]

/-- Guard and index have no bits beyond the widths of their fields. -/
structure Fits (l : Level) : Prop where
  guard_lt : 0 < l.node.guard.bits → l.node.guard.value.toNat < 2 ^ l.node.guard.bits
  index_lt : l.index < 2 ^ l.node.radix

end Level

/-- How many bits of a pointer the levels take. -/
def pathWidth (path : List Level) : Nat := (path.map (·.node.width)).sum

/-- The number that spells the levels one after another. -/
def spelled (path : List Level) : Nat := concat (path.flatMap Level.fields)

/-- The levels lead from `root` to the slot `ref`: each but the last names a slot that holds the
    node of the next. -/
structure Space.Leads (s : Space) (root : CNode) (path : List Level) (ref : SlotRef) : Prop where
  first : path.head?.map Level.node = some root
  linked : path.IsChain fun l next => ∃ parent, s.slot? l.ref = some ⟨.cnode next.node, parent⟩
  last : path.getLast?.map Level.ref = some ref
  fits : ∀ l ∈ path, l.Fits

/-! ### Bit fields -/

/-- A field is the bits between two positions. -/
theorem CapPtr.bitsAt_eq (p : CapPtr) {remaining width : Nat} (h : width ≤ remaining) :
    p.bitsAt remaining width = p.raw.toNat % 2 ^ remaining / 2 ^ (remaining - width) := by
  obtain ⟨left, rfl⟩ := Nat.exists_eq_add_of_le' h
  rw [bitsAt, Nat.one_shiftLeft, Nat.shiftRight_eq_div_pow, Nat.add_sub_cancel, Nat.pow_add,
    Nat.mod_mul_right_div_self]

theorem CapPtr.bitsAt_lt_two_pow (p : CapPtr) (remaining width : Nat) :
    p.bitsAt remaining width < 2 ^ width := by
  rw [← Nat.one_shiftLeft]
  exact p.bitsAt_lt remaining width

/-- Two fields read one after another are the field of both widths. -/
theorem CapPtr.bitsAt_add (p : CapPtr) {remaining v w : Nat} (h : v + w ≤ remaining) :
    p.bitsAt remaining (v + w) = p.bitsAt remaining v * 2 ^ w + p.bitsAt (remaining - v) w := by
  obtain ⟨left, rfl⟩ := Nat.exists_eq_add_of_le' h
  have hv : left + (v + w) - v = left + w := by omega
  have hw : left + w - w = left := by omega
  have hvw : left + (v + w) - (v + w) = left := by omega
  simp only [bitsAt, hv, hw, hvw, Nat.one_shiftLeft, Nat.shiftRight_eq_div_pow]
  rw [Nat.pow_add 2 left w, ← Nat.div_div_eq_div_mul, Nat.pow_add 2 v w, Nat.mul_comm (2 ^ v),
    Nat.mod_mul, Nat.add_comm, Nat.mul_comm (2 ^ w)]

theorem concat_append (fields rest : List (Nat × Nat)) :
    concat (fields ++ rest) = concat fields * 2 ^ (rest.map Prod.fst).sum + concat rest := by
  have shift : ∀ (rest : List (Nat × Nat)) (n : Nat),
      rest.foldl (fun n field => n * 2 ^ field.1 + field.2) n
        = n * 2 ^ (rest.map Prod.fst).sum + concat rest := by
    intro rest
    induction rest with
    | nil => intro n; simp [concat]
    | cons field rest ih =>
      intro n
      rw [concat, List.foldl_cons, List.foldl_cons, ih, ih (0 * _ + _), List.map_cons,
        List.sum_cons, Nat.pow_add]
      ring
  rw [concat, List.foldl_append, shift]
  rfl

/-! ### Paths -/

theorem Guard.shown_lt {l : Level} (h : l.Fits) :
    l.node.guard.shown < 2 ^ l.node.guard.bits := by
  rw [shown, isEmpty]
  split
  · exact Nat.two_pow_pos _
  · rename_i hb
    exact h.guard_lt (Nat.pos_of_ne_zero (by simpa using hb))

theorem pathWidth_cons (l : Level) (path : List Level) :
    pathWidth (l :: path) = l.node.width + pathWidth path := by
  simp [pathWidth]

theorem pathWidth_eq (path : List Level) :
    pathWidth path = ((path.flatMap Level.fields).map Prod.fst).sum := by
  induction path with
  | nil => rfl
  | cons l path ih =>
    rw [pathWidth_cons, ih, List.flatMap_cons, List.map_append, List.sum_append]
    simp [Level.fields, CNode.width]

/-- The first level stands above the others. -/
theorem spelled_cons (l : Level) (path : List Level) :
    spelled (l :: path)
      = (l.node.guard.shown * 2 ^ l.node.radix + l.index) * 2 ^ pathWidth path + spelled path := by
  rw [spelled, List.flatMap_cons, concat_append, ← pathWidth_eq]
  simp [Level.fields, concat, spelled]

theorem spelled_lt {path : List Level} (h : ∀ l ∈ path, l.Fits) :
    spelled path < 2 ^ pathWidth path := by
  induction path with
  | nil => simp [spelled, concat, pathWidth]
  | cons l path ih =>
    have hl : l.Fits := h l List.mem_cons_self
    have hrest := ih fun l' hl' => h l' (List.mem_cons_of_mem _ hl')
    have hg : l.node.guard.shown + 1 ≤ 2 ^ l.node.guard.bits := Guard.shown_lt hl
    have hlevel : l.node.guard.shown * 2 ^ l.node.radix + l.index + 1 ≤ 2 ^ l.node.width := by
      have := Nat.mul_le_mul_right (2 ^ l.node.radix) hg
      have := hl.index_lt
      rw [CNode.width, Nat.pow_add]
      linarith
    have := Nat.mul_le_mul_right (2 ^ pathWidth path) hlevel
    rw [spelled_cons, pathWidth_cons, Nat.pow_add]
    linarith

/-! ### One level -/

/-- A level with room admits the pointers that show its guard, if the guard fits its own width. -/
theorem Guard.admits_iff {g : Guard} {p : CapPtr} {remaining : Nat} (h : g.bits ≤ remaining) :
    g.admits p remaining = true
      ↔ (0 < g.bits → g.value.toNat < 2 ^ g.bits) ∧ p.bitsAt remaining g.bits = g.shown := by
  rcases Nat.eq_zero_or_pos g.bits with hb | hb
  · simp [admits, shown, isEmpty, hb, CapPtr.bitsAt, Nat.mod_one]
  · have hne : g.bits ≠ 0 := by omega
    simp only [admits, shown, isEmpty, beq_iff_eq, hne, Bool.or_eq_true, false_or, h, decide_true,
      Bool.true_and, if_false, hb, forall_const]
    constructor
    · intro hs
      exact ⟨hs ▸ p.bitsAt_lt_two_pow _ _, hs⟩
    · exact And.right

/-- The bits that a level takes are the guard's field and then the index's. -/
theorem CNode.level_bits {node : CNode} (p : CapPtr) {remaining : Nat}
    (h : node.width ≤ remaining) :
    p.raw.toNat % 2 ^ remaining / 2 ^ (remaining - node.width)
      = p.bitsAt remaining node.guard.bits * 2 ^ node.radix
        + p.bitsAt (remaining - node.guard.bits) node.radix := by
  rw [← p.bitsAt_eq h, ← p.bitsAt_add h, width]

/-- Quotient and remainder of a number are unique. -/
theorem mul_add_inj {n a b c d : Nat} (hb : b < n) (hd : d < n) (h : a * n + b = c * n + d) :
    a = c ∧ b = d := by
  have hmod := congrArg (· % n) h
  simp only [Nat.mul_add_mod_of_lt hb, Nat.mul_add_mod_of_lt hd] at hmod
  subst hmod
  exact ⟨Nat.eq_of_mul_eq_mul_right (Nat.zero_lt_of_lt hb) (Nat.add_right_cancel h), rfl⟩

/-- Reading a level says: its width is left, guard and index fit, and the pointer shows the guard
    and then the index. -/
theorem CNode.select_eq_ok_iff {node : CNode} {p : CapPtr} {remaining left : Nat} {ref : SlotRef} :
    node.select p remaining = .ok (ref, left) ↔
      ∃ l : Level, l.node = node ∧ l.ref = ref ∧ l.Fits ∧ node.width + left = remaining
        ∧ p.raw.toNat % 2 ^ remaining / 2 ^ left
          = node.guard.shown * 2 ^ node.radix + l.index := by
  constructor
  · intro h
    obtain ⟨hw, rfl, -, -⟩ := select_eq_ok h
    have hroom : node.guard.bits ≤ remaining := Nat.le_trans (Nat.le_add_right _ _) hw
    simp only [select, hw, if_true] at h
    split at h <;> rename_i hg
    · simp only [Except.ok.injEq, Prod.mk.injEq, and_true] at h
      obtain ⟨hfit, hshown⟩ := (Guard.admits_iff hroom).1 hg
      refine ⟨⟨node, p.bitsAt (remaining - node.guard.bits) node.radix⟩, rfl, h,
        ⟨hfit, p.bitsAt_lt_two_pow _ _⟩, Nat.add_sub_of_le hw, ?_⟩
      rw [level_bits p hw, hshown]
    · simp at h
  · rintro ⟨l, rfl, rfl, hl, rfl, hbits⟩
    have hw : l.node.width ≤ l.node.width + left := Nat.le_add_right _ _
    have hroom : l.node.guard.bits ≤ l.node.width + left := Nat.le_trans (Nat.le_add_right _ _) hw
    have hread := level_bits p hw
    rw [Nat.add_sub_cancel_left, hbits] at hread
    obtain ⟨hshown, hindex⟩ := mul_add_inj hl.index_lt (p.bitsAt_lt_two_pow _ _) hread
    have hg := (Guard.admits_iff hroom).2 ⟨hl.guard_lt, hshown.symm⟩
    simp only [select, hg, hw, if_true, Nat.add_sub_cancel_left, ← hindex]
    rfl

/-! ### Walks -/

theorem Space.Leads.ne_nil {s : Space} {root : CNode} {path : List Level} {ref : SlotRef}
    (h : s.Leads root path ref) : path ≠ [] := by
  rintro rfl
  simpa using h.first

/-- A path of one level leads to the slot that it names. -/
theorem Space.leads_singleton {s : Space} {root : CNode} {l : Level} {ref : SlotRef} :
    s.Leads root [l] ref ↔ l.node = root ∧ l.ref = ref ∧ l.Fits := by
  constructor
  · intro h
    exact ⟨by simpa using h.first, by simpa using h.last, h.fits l List.mem_cons_self⟩
  · rintro ⟨rfl, rfl, hl⟩
    exact ⟨rfl, .singleton l, rfl, by simpa using hl⟩

/-- A longer path goes through a slot that holds a node, and on from that node. -/
theorem Space.leads_cons_cons {s : Space} {root : CNode} {l next : Level} {path : List Level}
    {ref : SlotRef} :
    s.Leads root (l :: next :: path) ref ↔ l.node = root ∧ l.Fits
      ∧ (∃ parent, s.slot? l.ref = some ⟨.cnode next.node, parent⟩)
      ∧ s.Leads next.node (next :: path) ref := by
  constructor
  · intro h
    obtain ⟨hlink, hrest⟩ := List.isChain_cons_cons.1 h.linked
    exact ⟨by simpa using h.first, h.fits l List.mem_cons_self, hlink, rfl, hrest,
      by simpa using h.last, fun l' hl' => h.fits l' (List.mem_cons_of_mem _ hl')⟩
  · rintro ⟨rfl, hl, hlink, hrest⟩
    refine ⟨rfl, .cons_cons hlink hrest.linked, by simpa using hrest.last, ?_⟩
    intro l' hl'
    rcases List.mem_cons.1 hl' with rfl | hl'
    · exact hl
    · exact hrest.fits l' hl'

/-- The levels of `path` take the low `remaining` bits of the pointer and spell them. -/
structure CapPtr.Spells (p : CapPtr) (path : List Level) (remaining : Nat) : Prop where
  width_eq : pathWidth path = remaining
  bits_eq : p.raw.toNat % 2 ^ remaining = spelled path

/-- A pointer spells a path by the first level's bits and, in the bits after them, the rest. -/
theorem CapPtr.spells_cons {p : CapPtr} {l : Level} {path : List Level} {remaining : Nat}
    (hfits : ∀ l ∈ path, l.Fits) :
    p.Spells (l :: path) remaining ↔ l.node.width + pathWidth path = remaining
      ∧ p.raw.toNat % 2 ^ remaining / 2 ^ pathWidth path
        = l.node.guard.shown * 2 ^ l.node.radix + l.index
      ∧ p.Spells path (pathWidth path) := by
  have hlt := spelled_lt hfits
  constructor
  · rintro ⟨rfl, hbits⟩
    rw [spelled_cons] at hbits
    refine ⟨(pathWidth_cons l path).symm, ?_, rfl, ?_⟩
    · rw [hbits, Nat.mul_comm, Nat.mul_add_div (Nat.two_pow_pos _), Nat.div_eq_of_lt hlt,
        Nat.add_zero]
    · have hdvd : 2 ^ pathWidth path ∣ 2 ^ pathWidth (l :: path) :=
        Nat.pow_dvd_pow 2 (by rw [pathWidth_cons]; omega)
      rw [← Nat.mod_mod_of_dvd _ hdvd, hbits, Nat.mul_add_mod_of_lt hlt]
  · rintro ⟨rfl, hhead, -, hrest⟩
    refine ⟨pathWidth_cons l path, ?_⟩
    have hdvd : 2 ^ pathWidth path ∣ 2 ^ (l.node.width + pathWidth path) :=
      Nat.pow_dvd_pow 2 (Nat.le_add_left _ _)
    rw [spelled_cons, ← hhead, ← hrest, ← Nat.mod_mod_of_dvd p.raw.toNat hdvd, Nat.mul_comm,
      Nat.div_add_mod]

/-- The walk finds a slot exactly if some path to it spells the bits that are left. -/
theorem Space.walk_eq_ok_iff {s : Space} (hs : s.Indexed) {p : CapPtr} {node : CNode}
    {remaining idle : Nat} {ref : SlotRef} (hn : 1 ≤ node.radix) :
    s.walk p node remaining idle = .ok ref
      ↔ ∃ path, s.Leads node path ref ∧ p.Spells path remaining := by
  induction remaining using Nat.strongRecOn generalizing node idle with
  | ind remaining ih =>
  have hwidth : 0 < node.width := by rw [CNode.width]; omega
  rw [walk_of_width hwidth]
  constructor
  · intro h
    split at h
    · simp at h
    · rename_i at' left hsel
      obtain ⟨l, rfl, rfl, hl, hleft, hbits⟩ := CNode.select_eq_ok_iff.1 hsel
      split at h <;> rename_i hzero
      · simp only [Except.ok.injEq] at h
        refine ⟨[l], leads_singleton.2 ⟨rfl, h, hl⟩, (CapPtr.spells_cons (by simp)).2 ?_⟩
        subst hzero
        exact ⟨hleft, hbits, rfl, by simp [pathWidth, spelled, concat, Nat.mod_one]⟩
      · split at h
        · simp at h
        · rename_i next parent hslot
          have hheld := slot_eq_ok_iff.1 hslot
          obtain ⟨path, hpath, hspell⟩ := (ih left (by omega) (hs _ _ hheld)).1 h
          obtain ⟨next', path, rfl⟩ := List.exists_cons_of_ne_nil hpath.ne_nil
          obtain rfl : next'.node = next := by simpa using hpath.first
          refine ⟨l :: next' :: path, leads_cons_cons.2 ⟨rfl, hl, ⟨parent, hheld⟩, hpath⟩,
            (CapPtr.spells_cons hpath.fits).2 ?_⟩
          rw [hspell.width_eq]
          exact ⟨hleft, hbits, hspell⟩
        · simp at h
  · rintro ⟨path, hpath, hspell⟩
    obtain ⟨l, path, rfl⟩ := List.exists_cons_of_ne_nil hpath.ne_nil
    cases path with
    | nil =>
      obtain ⟨rfl, rfl, hl⟩ := leads_singleton.1 hpath
      obtain ⟨hleft, hbits, -⟩ := (CapPtr.spells_cons (by simp)).1 hspell
      rw [CNode.select_eq_ok_iff.2 ⟨l, rfl, rfl, hl, hleft, hbits⟩]
      simp [pathWidth]
    | cons next path =>
      obtain ⟨rfl, hl, ⟨parent, hheld⟩, hrest⟩ := leads_cons_cons.1 hpath
      obtain ⟨hleft, hbits, hspell⟩ := (CapPtr.spells_cons hrest.fits).1 hspell
      have hradix : 1 ≤ next.node.radix := hs _ _ hheld
      have hpos : pathWidth (next :: path) ≠ 0 := by
        rw [pathWidth_cons, CNode.width]; omega
      rw [CNode.select_eq_ok_iff.2 ⟨l, rfl, rfl, hl, hleft, hbits⟩]
      simp only [hpos, if_false, slot_eq_ok_iff.2 hheld]
      exact (ih _ (by omega) hradix).2 ⟨_, hrest, hspell⟩

/-- Resolution of the low `depth` bits finds a slot exactly if there is a path from the root to it
    that spells these bits. -/
theorem Space.resolve_eq_ok_iff {s : Space} (hs : s.Indexed) {root : CNode}
    (hroot : 1 ≤ root.radix) (p : CapPtr) (depth : Depth) (ref : SlotRef) :
    s.resolve (.cnode root) p depth = .ok ref
      ↔ ∃ path, s.Leads root path ref ∧ pathWidth path = depth.remaining
        ∧ p.raw.toNat % 2 ^ depth.remaining = concat (path.flatMap Level.fields) := by
  rw [resolve, walk_eq_ok_iff hs hroot]
  constructor
  · rintro ⟨path, hpath, hwidth, hbits⟩
    exact ⟨path, hpath, hwidth, hbits⟩
  · rintro ⟨path, hpath, hwidth, hbits⟩
    exact ⟨path, hpath, hwidth, hbits⟩

/-- The first node of a new space holds itself, so a pointer can go through it twice. -/
theorem Space.resolve_through_root_twice :
    ∃ s, boot 2 ⟨2, 2⟩ = .ok (⟨0, 2, ⟨2, 2⟩⟩, s) ∧ s.Indexed ∧ 1 ≤ 2
      ∧ s.resolve (.cnode ⟨0, 2, ⟨2, 2⟩⟩) ⟨0b10001011⟩ ⟨8⟩ = .ok ⟨0, 3⟩ := by
  refine ⟨_, rfl, by decide, by decide, ?_⟩
  refine (resolve_eq_ok_iff (by decide) (by decide) ⟨0b10001011⟩ ⟨8⟩ ⟨0, 3⟩).2
    ⟨[⟨⟨0, 2, ⟨2, 2⟩⟩, 0⟩, ⟨⟨0, 2, ⟨2, 2⟩⟩, 3⟩], ?_, by decide, by decide⟩
  rw [leads_cons_cons, leads_singleton]
  exact ⟨rfl, ⟨by decide, by decide⟩, ⟨none, rfl⟩, rfl, rfl, ⟨by decide, by decide⟩⟩

end InterruptCaps
