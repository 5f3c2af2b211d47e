import InterruptCaps.Proofs.Space.Path

/-! Resolution reads a pointer through the window of bits that are left: where they stand in the
    word makes no difference. So a pointer can be cut anywhere. To resolve its upper bits, and then
    to go on with the lower ones from the slot that was found, is to resolve all of it, whatever
    comes of the second part; and bits above the depth are never looked at.

        |  never read  |  leads to a slot  |  goes on from it  |
                       ◀──────── d₁ ──────▶◀──────── d₂ ──────▶  -/

namespace InterruptCaps

/-- Above its lowest `low` bits, `q` continues with the low `remaining` bits of `p`. -/
def CapPtr.Continues (q p : CapPtr) (low remaining : Nat) : Prop :=
  q.raw.toNat / 2 ^ low % 2 ^ remaining = p.raw.toNat % 2 ^ remaining

section

variable {p q : CapPtr} {low remaining : Nat}

theorem CapPtr.Continues.mono (h : q.Continues p low remaining) {left : Nat}
    (hle : left ≤ remaining) : q.Continues p low left := by
  have hdvd : 2 ^ left ∣ 2 ^ remaining := Nat.pow_dvd_pow 2 hle
  rw [Continues, ← Nat.mod_mod_of_dvd _ hdvd, h, Nat.mod_mod_of_dvd _ hdvd]

/-- A field is read in both pointers alike, as far below the window's upper end. -/
theorem CapPtr.Continues.bitsAt (h : q.Continues p low remaining) {width : Nat}
    (hwidth : width ≤ remaining) : q.bitsAt (remaining + low) width = p.bitsAt remaining width := by
  have hbelow : remaining + low - width = low + (remaining - width) := by omega
  rw [bitsAt_eq q (Nat.le_add_right_of_le hwidth), bitsAt_eq p hwidth, ← h, hbelow,
    Nat.pow_add 2 low, ← Nat.div_div_eq_div_mul, Nat.add_comm, Nat.pow_add,
    Nat.mod_mul_right_div_self]

theorem Guard.admits_of_continues {g : Guard} (h : q.Continues p low remaining)
    (hroom : g.bits ≤ remaining) : g.admits q (remaining + low) = g.admits p remaining := by
  rw [admits, admits, h.bitsAt hroom, decide_eq_true hroom,
    decide_eq_true (Nat.le_add_right_of_le hroom)]

/-- A level that is read selects the same slot in both pointers. -/
theorem CNode.select_of_continues {node : CNode} (h : q.Continues p low remaining) {ref : SlotRef}
    {left : Nat} (hselect : node.select p remaining = .ok (ref, left)) :
    node.select q (remaining + low) = .ok (ref, left + low) := by
  obtain ⟨hwidth, rfl, -⟩ := select_eq_ok hselect
  have hroom : node.guard.bits ≤ remaining := Nat.le_trans (Nat.le_add_right _ _) hwidth
  have hindex : node.radix ≤ remaining - node.guard.bits := Nat.le_sub_of_add_le' hwidth
  have hbits := (h.mono (Nat.sub_le _ node.guard.bits)).bitsAt hindex
  rw [select] at hselect ⊢
  rw [Guard.admits_of_continues h hroom, if_pos (Nat.le_add_right_of_le hwidth),
    Nat.sub_add_comm hroom, hbits, Nat.sub_add_comm hwidth]
  split at hselect
  · cases hselect
    rw [if_pos ‹_›]
  · cases hselect

/-- A level is read, or found unreadable, by the bits that are left alone. -/
theorem CNode.select_congr {node : CNode} (h : q.Continues p 0 remaining) :
    node.select q remaining = node.select p remaining := by
  have hadmits : node.guard.admits q remaining = node.guard.admits p remaining := by
    by_cases hroom : node.guard.bits ≤ remaining
    · exact Guard.admits_of_continues h hroom
    · rw [Guard.admits, Guard.admits, decide_eq_false hroom, Bool.false_and, Bool.false_and]
  rw [select, select, hadmits]
  by_cases hwidth : node.width ≤ remaining
  · have hindex : node.radix ≤ remaining - node.guard.bits := Nat.le_sub_of_add_le' hwidth
    have hbits : q.bitsAt (remaining - node.guard.bits) node.radix
        = p.bitsAt (remaining - node.guard.bits) node.radix :=
      (h.mono (Nat.sub_le _ node.guard.bits)).bitsAt hindex
    rw [hbits]
  · rw [if_neg hwidth, if_neg hwidth]

end

namespace Space

/-- Goes on from a slot: it must be there and hold a node, and the walk starts anew from that. -/
def resume (s : Space) (ref : SlotRef) (p : CapPtr) (depth : Depth) : Except SlotError SlotRef :=
  match s.slot ref with
  | .error e => .error e
  | .ok ⟨.cnode next, _⟩ => s.resolve (.cnode next) p depth
  | .ok _ => .error .depthMismatch

variable {s : Space} {p q : CapPtr} {node : CNode} {low remaining idle : Nat} {ref : SlotRef}

/-- A walk that found a slot goes on from there if more bits follow: both walks see the same levels
    until the shorter one ends. -/
theorem walk_of_continues (h : q.Continues p low remaining) (hlow : 0 < low)
    (hremaining : 0 < remaining) (found : s.walk p node remaining idle = .ok ref) :
    s.walk q node (remaining + low) idle = s.resume ref q ⟨low⟩ := by
  fun_induction walk s p node remaining idle with
  | case1 | case3 | case5 | case7 => cases found
  | case2 node remaining idle ref' hselect =>
    -- the shorter walk ends: its last level leaves bits, so the longer one is not idle there
    cases found
    obtain ⟨hwidth, hleft, -⟩ := CNode.select_eq_ok hselect
    have hwide : 0 < node.width := by omega
    rw [walk_of_width hwide, CNode.select_of_continues h hselect, Nat.zero_add]
    simp only [Nat.ne_of_gt hlow, if_false]
    rw [resume]
    rfl
  | case4 node remaining idle ref' left hselect hleft next parent hslot hless ih =>
    have hnext := ih (h.mono (Nat.le_of_lt hless)) (Nat.pos_of_ne_zero hleft) found
    have hmore : left + low ≠ 0 := by omega
    have hless' : left + low < remaining + low := by omega
    rw [walk, CNode.select_of_continues h hselect]
    simp only [hmore, if_false, hslot, hless', if_true]
    exact hnext
  | case6 node remaining ref' left hselect hleft next parent hslot hidle idle ih =>
    have hnext := ih h hremaining found
    have hmore : left + low ≠ 0 := by omega
    have hidle' : ¬ left + low < remaining + low := by omega
    rw [walk, CNode.select_of_continues h hselect]
    simp only [hmore, if_false, hslot, hidle']
    exact hnext

/-- A walk reads nothing above the bits that are left. -/
theorem walk_congr (h : q.Continues p 0 remaining) :
    s.walk q node remaining idle = s.walk p node remaining idle := by
  fun_induction walk s p node remaining idle with
  | case1 node remaining idle e hselect =>
    rw [walk, CNode.select_congr h, hselect]
  | case2 node remaining idle ref hselect =>
    rw [walk, CNode.select_congr h, hselect]
    rfl
  | case3 node remaining idle ref left hselect hleft e hslot =>
    rw [walk, CNode.select_congr h, hselect]
    simp only [hleft, if_false, hslot]
  | case4 node remaining idle ref left hselect hleft next parent hslot hless ih =>
    rw [walk, CNode.select_congr h, hselect]
    simp only [hleft, if_false, hslot, hless, if_true]
    exact ih (h.mono (Nat.le_of_lt hless))
  | case5 node remaining ref left hselect hleft next parent hslot hidle =>
    rw [walk, CNode.select_congr h, hselect]
    simp only [hleft, if_false, hslot, hidle]
  | case6 node remaining ref left hselect hleft next parent hslot hidle idle ih =>
    rw [walk, CNode.select_congr h, hselect]
    simp only [hleft, if_false, hslot, hidle]
    exact ih h
  | case7 node remaining idle ref left hselect hleft slot hother hslot =>
    rw [walk, CNode.select_congr h, hselect]
    simp only [hleft, if_false, hslot]

/-- If the upper of two parts of a pointer leads to a slot, resolving both parts is going on from
    that slot with the lower part, errors included. In any case bits above the depth change neither
    a result nor an error. -/
theorem resolve_in_parts (s : Space) (root : Cap) (x : UInt64) :
    (∀ d₁ d₂ ref, 1 ≤ d₁ → 1 ≤ d₂ → d₁ + d₂ ≤ 64 →
      s.resolve root ⟨x >>> UInt64.ofNat d₂⟩ ⟨d₁⟩ = .ok ref →
        s.resolve root ⟨x⟩ ⟨d₁ + d₂⟩ = s.resume ref ⟨x⟩ ⟨d₂⟩)
      ∧ ∀ y depth, x.toNat % 2 ^ depth.remaining = y.toNat % 2 ^ depth.remaining →
        s.resolve root ⟨x⟩ depth = s.resolve root ⟨y⟩ depth := by
  constructor
  · intro d₁ d₂ ref h₁ h₂ hdepth found
    cases root with
    | cnode node =>
      have hcontinues : CapPtr.Continues ⟨x⟩ ⟨x >>> UInt64.ofNat d₂⟩ d₂ d₁ := by
        have hshift : (UInt64.ofNat d₂).toNat % 64 = d₂ := by
          rw [UInt64.toNat_ofNat']
          omega
        rw [CapPtr.Continues, UInt64.toNat_shiftRight, hshift, Nat.shiftRight_eq_div_pow]
      exact walk_of_continues hcontinues h₂ h₁ found
    | null | irqControl | irqHandler | sgiSignal => cases found
  · intro y depth hlow
    cases root with
    | cnode node =>
      refine walk_congr ?_
      rw [CapPtr.Continues, Nat.pow_zero, Nat.div_one]
      exact hlow
    | null | irqControl | irqHandler | sgiSignal => rfl

/-- The first node of a new space holds itself. Four bits lead to its first slot, so four more are
    resolved from the node again, and a bit above all eight makes no difference. -/
theorem resolve_root_in_parts :
    ∃ s, boot 2 ⟨2, 2⟩ = .ok (⟨0, 2, ⟨2, 2⟩⟩, s)
      ∧ s.resolve (.cnode ⟨0, 2, ⟨2, 2⟩⟩) ⟨0b110001011 >>> UInt64.ofNat 4⟩ ⟨4⟩ = .ok ⟨0, 0⟩
      ∧ s.resolve (.cnode ⟨0, 2, ⟨2, 2⟩⟩) ⟨0b110001011⟩ ⟨4 + 4⟩ = .ok ⟨0, 3⟩
      ∧ s.resolve (.cnode ⟨0, 2, ⟨2, 2⟩⟩) ⟨0b010001011⟩ ⟨4 + 4⟩ = .ok ⟨0, 3⟩ := by
  let root : CNode := ⟨0, 2, ⟨2, 2⟩⟩
  let s : Space := ⟨#[#[⟨.cnode root, none⟩, .empty, .empty, ⟨.irqControl .none, none⟩]]⟩
  have hfirst : s.resolve (.cnode root) ⟨0b110001011 >>> UInt64.ofNat 4⟩ ⟨4⟩ = .ok ⟨0, 0⟩ := by cbv
  obtain ⟨hparts, habove⟩ := s.resolve_in_parts (.cnode root) 0b110001011
  have hboth : s.resolve (.cnode root) ⟨0b110001011⟩ ⟨4 + 4⟩ = .ok ⟨0, 3⟩ := by
    rw [hparts 4 4 ⟨0, 0⟩ (by decide) (by decide) (by decide) hfirst]
    cbv
  refine ⟨s, rfl, hfirst, hboth, ?_⟩
  rw [← habove 0b010001011 ⟨4 + 4⟩ (by decide)]
  exact hboth

end Space

end InterruptCaps
