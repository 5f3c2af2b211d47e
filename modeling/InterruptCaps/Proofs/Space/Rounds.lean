import InterruptCaps.Space.Rounds
import InterruptCaps.Proofs.Space.Filling

/-! The loop over machine words is the walk. Guard and room are checked before anything is read, so
    every operation of a round stays in its range, whatever widths a forged node claims to have.

    | operation                       | range                                          |
    | ------------------------------- | ---------------------------------------------- |
    | bits left minus guard           | the level fits into what is left               |
    | position of a field             | the field lies within what is left             |
    | shift to a field, if it is wide | less than the word, of which 64 bits are left  |
    | shift to a mask                 | a mask of 64 bits is made without one          |
    | guard plus index                | at most what is left                           |

    Each node that is stored takes a bit at least. So the bits that are left bound the rounds, be
    the nodes linked in a circle or not, and only a root of no width can add one.

        root           node           node
        r bits ──────▶ r bits ──────▶ r - 1 bits ──────▶ …
          takes 0        takes ≥ 1      takes ≥ 1          -/

namespace InterruptCaps

/-! ### Exact operations -/

namespace Exact

theorem ofNat_eq_zero {n : Nat} (h : n < 256) : UInt8.ofNat n = 0 ↔ n = 0 := by
  rw [← UInt8.toNat_inj, UInt8.toNat_ofNat', Nat.mod_eq_of_lt h]
  rfl

theorem sub?_ofNat {a b : Nat} (ha : a < 256) (h : b ≤ a) :
    sub? (.ofNat a) (.ofNat b) = some (.ofNat (a - b)) := by
  have hle : UInt8.ofNat b ≤ UInt8.ofNat a :=
    (UInt8.ofNat_le_iff_le (Nat.lt_of_le_of_lt h ha) ha).2 h
  rw [sub?, if_pos hle, UInt8.ofNat_sub h]

theorem add?_ofNat {a b : Nat} (h : a + b < 256) :
    add? (.ofNat a) (.ofNat b) = some (.ofNat (a + b)) := by
  have hrest : UInt8.ofNat (255 - b) = 255 - UInt8.ofNat b := UInt8.ofNat_sub (by omega)
  have hroom : UInt8.ofNat a ≤ UInt8.ofNat (255 - b) :=
    (UInt8.ofNat_le_iff_le (Nat.lt_of_le_of_lt (Nat.le_add_right a b) h)
      (Nat.lt_of_le_of_lt (Nat.sub_le 255 b) (by decide))).2 (by omega)
  rw [add?, ← hrest, if_pos hroom, UInt8.ofNat_add]

theorem shiftRight?_ofNat (w : UInt64) {n : Nat} (h : n < 64) :
    shiftRight? w (.ofNat n) = some (.ofNat (w.toNat >>> n)) := by
  have hsize : n < 256 := by omega
  have hlt : UInt8.ofNat n < 64 := (UInt8.ofNat_lt_iff_lt hsize (by decide)).2 h
  have hword : (w >>> UInt64.ofNat n).toNat = w.toNat >>> n := by
    rw [UInt64.toNat_shiftRight, UInt64.toNat_ofNat', Nat.mod_eq_of_lt (by omega : n < 2 ^ 64),
      Nat.mod_eq_of_lt h]
  rw [shiftRight?, if_pos hlt, UInt8.toUInt64_ofNat' hsize, ← hword, UInt64.ofNat_toNat]

/-- The mask of a field that is no wider than a word. -/
theorem mask?_ofNat {bits : Nat} (h : bits ≤ 64) :
    mask? (.ofNat bits) = some (.ofNat (2 ^ bits - 1)) := by
  have hsize : bits < 256 := by omega
  rw [mask?]
  rcases Nat.lt_or_eq_of_le h with hlt | rfl
  · have hlt' : UInt8.ofNat bits < 64 := (UInt8.ofNat_lt_iff_lt hsize (by decide)).2 hlt
    rw [if_neg (UInt8.not_le.2 hlt'), shiftLeft?, if_pos hlt', Option.map_some,
      UInt8.toUInt64_ofNat' hsize, UInt64.ofNat_sub (Nat.two_pow_pos bits), ← Nat.one_shiftLeft,
      UInt64.ofNat_shiftLeft _ _ hlt]
    rfl
  · rfl

end Exact

/-- A field that is no wider than a word is a word. -/
theorem CapPtr.toNat_bitsAt (p : CapPtr) (remaining : Nat) {width : Nat} (h : width ≤ 64) :
    (UInt64.ofNat (p.bitsAt remaining width)).toNat = p.bitsAt remaining width := by
  have hlt := p.bitsAt_lt remaining width
  rw [Nat.one_shiftLeft] at hlt
  rw [UInt64.toNat_ofNat']
  exact Nat.mod_eq_of_lt (Nat.lt_of_lt_of_le hlt (Nat.pow_le_pow_right (by decide) h))

theorem CapPtr.bitsAt?_ofNat (p : CapPtr) {remaining width : Nat} (hwidth : width ≤ remaining)
    (hremaining : remaining ≤ 64) :
    p.bitsAt? (.ofNat remaining) (.ofNat width) = some (.ofNat (p.bitsAt remaining width)) := by
  have hsize : remaining < 256 := by omega
  rw [bitsAt?, bitsAt]
  by_cases hw : width = 0
  · subst hw
    rw [Nat.shiftLeft_zero, Nat.mod_one]
    rfl
  · have hpos : 0 < UInt8.ofNat width :=
      (UInt8.ofNat_lt_iff_lt (by decide) (Nat.lt_of_le_of_lt hwidth hsize)).2
        (Nat.pos_of_ne_zero hw)
    have hshift : remaining - width < 64 := by omega
    have hsmall : UInt8.ofNat (remaining - width) < 64 :=
      (UInt8.ofNat_lt_iff_lt (Nat.lt_of_le_of_lt (Nat.sub_le ..) hsize) (by decide)).2 hshift
    rw [if_neg (UInt8.ne_of_lt hpos).symm, Exact.sub?_ofNat hsize hwidth]
    simp only [Option.bind_eq_bind, Option.bind_some, if_neg (UInt8.not_le.2 hsmall),
      Exact.shiftRight?_ofNat _ hshift, Exact.mask?_ofNat (Nat.le_trans hwidth hremaining)]
    rw [← UInt64.ofNat_and, Nat.and_two_pow_sub_one_eq_mod, Nat.one_shiftLeft]
    rfl

namespace CNode

/-- Guard and index of the node have widths that a byte holds. -/
structure InBytes (node : CNode) : Prop where
  guard_lt : node.guard.bits < 256
  radix_lt : node.radix < 256

variable {node : CNode} {remaining : Nat}

theorem InBytes.guardByte_eq_zero (h : node.InBytes) :
    node.guardByte = 0 ↔ node.guard.isEmpty = true := by
  rw [guardByte, Guard.isEmpty, beq_iff_eq, Exact.ofNat_eq_zero h.guard_lt]

theorem InBytes.admits?_ofNat (h : node.InBytes) (hremaining : remaining ≤ 64) (p : CapPtr) :
    node.admits? p (.ofNat remaining) = some (node.guard.admits p remaining) := by
  have hshort : UInt8.ofNat remaining < node.guardByte ↔ remaining < node.guard.bits :=
    UInt8.ofNat_lt_iff_lt (Nat.lt_of_le_of_lt hremaining (by decide)) h.guard_lt
  rw [admits?, Guard.admits]
  cases hempty : node.guard.isEmpty with
  | true => rw [if_pos (h.guardByte_eq_zero.2 hempty), Bool.true_or]
  | false =>
    rw [if_neg (by rw [h.guardByte_eq_zero, hempty]; exact Bool.false_ne_true), Bool.false_or]
    by_cases hroom : node.guard.bits ≤ remaining
    · rw [if_neg (mt hshort.1 (Nat.not_lt.2 hroom)), guardByte, p.bitsAt?_ofNat hroom hremaining,
        Option.map_some, decide_eq_true hroom, Bool.true_and, Option.some.injEq, Bool.eq_iff_iff,
        beq_iff_eq, beq_iff_eq, ← UInt64.toNat_inj,
        p.toNat_bitsAt remaining (Nat.le_trans hroom hremaining)]
    · rw [if_pos (hshort.2 (Nat.lt_of_not_le hroom)), decide_eq_false hroom, Bool.false_and]

theorem InBytes.fits_ofNat (h : node.InBytes) (hremaining : remaining ≤ 64) :
    node.fits (.ofNat remaining) = decide (node.width ≤ remaining) := by
  rw [fits, guardByte, radixByte, UInt8.toUInt16_ofNat' h.guard_lt,
    UInt8.toUInt16_ofNat' h.radix_lt,
    UInt8.toUInt16_ofNat' (Nat.lt_of_le_of_lt hremaining (by decide)), ← UInt16.ofNat_add]
  have hsum : node.guard.bits + node.radix < UInt16.size :=
    Nat.lt_trans (Nat.add_lt_add h.guard_lt h.radix_lt) (by decide)
  exact decide_eq_decide.2
    (UInt16.ofNat_le_iff_le hsum (Nat.lt_of_le_of_lt hremaining (by decide)))

/-- A level that fits is taken from the bits in full. -/
theorem consume?_ofNat (hremaining : remaining ≤ 64) (hwidth : node.width ≤ remaining) :
    node.consume? (.ofNat remaining) = some (.ofNat (remaining - node.width)) := by
  have hsize : remaining < 256 := by omega
  rw [consume?, guardByte, radixByte, Exact.add?_ofNat (Nat.lt_of_le_of_lt hwidth hsize),
    Option.bind_some]
  exact Exact.sub?_ofNat hsize hwidth

end CNode

/-- A node can be read if its widths are bytes and not both zero. -/
def Cap.Readable : Cap → Prop
  | .cnode node => node.InBytes ∧ 0 < node.width
  | _ => True

instance : DecidablePred Cap.Readable
  | .cnode node =>
    decidable_of_iff ((node.guard.bits < 256 ∧ node.radix < 256) ∧ 0 < node.width)
      (and_congr_left' ⟨fun h => ⟨h.1, h.2⟩, fun h => ⟨h.guard_lt, h.radix_lt⟩⟩)
  | .null | .irqControl _ | .irqHandler .. | .sgiSignal .. => instDecidableTrue

namespace Space

variable {s : Space} {p : CapPtr} {node : CNode} {remaining : Nat}

/-- A round is exact and reads one level of the walk, whatever the slot there holds. -/
theorem round?_ofNat (h : node.InBytes) (hremaining : remaining ≤ 64) :
    s.round? p node (.ofNat remaining) = some
      (match node.select p remaining with
      | .error e => .done (.error e)
      | .ok (ref, left) =>
        if left = 0 then .done (.ok ref)
        else
          match s.next ref with
          | .error e => .done (.error e)
          | .ok next => .next next (.ofNat left)) := by
  rw [round?, h.admits?_ofNat hremaining, CNode.select]
  simp only [Option.bind_eq_bind, Option.bind_some, h.fits_ofNat hremaining]
  cases node.guard.admits p remaining with
  | false => rfl
  | true =>
    by_cases hwidth : node.width ≤ remaining
    · -- the room that was checked for is what the other operations need
      have hguard : node.guard.bits ≤ remaining := Nat.le_trans (Nat.le_add_right _ _) hwidth
      have hradix : node.radix ≤ remaining - node.guard.bits := Nat.le_sub_of_add_le' hwidth
      have hbelow : remaining - node.guard.bits ≤ 64 := Nat.le_trans (Nat.sub_le ..) hremaining
      simp only [hwidth, CNode.consume?_ofNat hremaining hwidth, CNode.guardByte, CNode.radixByte,
        Exact.sub?_ofNat (Nat.lt_of_le_of_lt hremaining (by decide)) hguard,
        p.bitsAt?_ofNat hradix hbelow, p.toNat_bitsAt _ (Nat.le_trans hradix hbelow),
        Option.bind_some, decide_true, Bool.not_true, Bool.false_eq_true, if_false, if_true]
      have hlast := Exact.ofNat_eq_zero (n := remaining - node.width) (by omega)
      generalize (⟨node.id, p.bitsAt (remaining - node.guard.bits) node.radix⟩ : SlotRef) = ref
      generalize remaining - node.width = left at hlast ⊢
      by_cases hleft : left = 0
      · simp only [hleft, if_true]
        rfl
      · simp only [mt hlast.1 hleft, hleft, if_false, next]
        cases s.slot ref with
        | error e => rfl
        | ok slot =>
          obtain ⟨cap, parent⟩ := slot
          cases cap <;> rfl
    · simp only [hwidth]
      rfl

/-- A space with a slot has a node. -/
theorem exists_size_of_slot? {ref : SlotRef} {slot : Slot} (h : s.slot? ref = some slot) :
    ∃ n, s.nodes.size = n + 1 := by
  obtain ⟨slots, hslots, -⟩ := Option.bind_eq_some_iff.1 h
  obtain ⟨hlt, -⟩ := Array.getElem?_eq_some_iff.1 hslots
  exact Nat.exists_eq_add_of_le' (Nat.zero_lt_of_lt hlt)

/-- A loop that has enough rounds ends as the walk does. -/
theorem rounds?_ofNat (hs : s.All Cap.Readable) {rounds : Nat} (h : node.InBytes)
    (hwidth : 0 < node.width) (hpos : 0 < remaining) (hremaining : remaining ≤ 64)
    (hrounds : remaining ≤ rounds) (idle : Nat) :
    s.rounds? p rounds node (.ofNat remaining) = some (s.walk p node remaining idle) := by
  induction rounds generalizing node remaining idle with
  | zero => omega
  | succ rounds ih =>
    rw [rounds?, round?_ofNat h hremaining, walk_eq]
    cases hselect : node.select p remaining with
    | error e => rfl
    | ok read =>
      obtain ⟨ref, left⟩ := read
      obtain ⟨hfits, hless, -⟩ := CNode.select_eq_ok hselect
      by_cases hleft : left = 0
      · simp only [hleft, if_true]
      · simp only [hleft, if_false]
        cases hnext : s.next ref with
        | error e => rfl
        | ok next =>
          obtain ⟨parent, hheld⟩ := next_eq_ok.1 hnext
          obtain ⟨hbytes, hwide⟩ : next.InBytes ∧ 0 < next.width := hs ref _ hheld
          have hlt : left < remaining := by omega
          simp only [hlt, if_true]
          exact ih hbytes hwide (Nat.pos_of_ne_zero hleft) (by omega) (by omega) _

/-- A first node of no width takes a round of its own, since it takes no bits. -/
theorem rounds?_first (hs : s.All Cap.Readable) {rounds : Nat} (h : node.InBytes)
    (hpos : 0 < remaining) (hremaining : remaining ≤ 64) (hrounds : remaining ≤ rounds) :
    s.rounds? p (rounds + 1) node (.ofNat remaining)
      = some (s.walk p node remaining s.nodes.size) := by
  rcases Nat.eq_zero_or_pos node.width with hwidth | hwidth
  · rw [rounds?, round?_ofNat h hremaining, walk_eq]
    cases hselect : node.select p remaining with
    | error e => rfl
    | ok read =>
      obtain ⟨ref, left⟩ := read
      obtain ⟨-, hless, -⟩ := CNode.select_eq_ok hselect
      obtain rfl : left = remaining := by omega
      simp only [Nat.ne_of_gt hpos, if_false, Nat.lt_irrefl]
      cases hnext : s.next ref with
      | error e => rfl
      | ok next =>
        obtain ⟨parent, hheld⟩ := next_eq_ok.1 hnext
        obtain ⟨hbytes, hwide⟩ : next.InBytes ∧ 0 < next.width := hs ref _ hheld
        obtain ⟨idle, hidle⟩ := exists_size_of_slot? hheld
        simp only [hidle]
        exact rounds?_ofNat hs hbytes hwide hpos hremaining hrounds idle
  · exact rounds?_ofNat hs h hwidth hpos hremaining (Nat.le_succ_of_le hrounds) _

/-- However the nodes are linked, resolution is over after one round more than it has bits at the
    latest, and exact in each of its rounds. -/
theorem resolve_within_rounds (hs : s.All Cap.Readable) {root : Cap}
    (hroot : ∀ node, root = .cnode node → node.InBytes) (p : CapPtr) {depth : Depth}
    (hpos : 1 ≤ depth.remaining) (hdepth : depth.remaining ≤ Depth.maxBits) {rounds : Nat}
    (hrounds : depth.remaining + 1 ≤ rounds) :
    s.resolve? rounds root p depth = some (s.resolve root p depth) := by
  cases root with
  | null | irqControl | irqHandler | sgiSignal => rfl
  | cnode node =>
    obtain ⟨rounds, rfl⟩ := Nat.exists_eq_add_of_le' (Nat.le_trans (Nat.le_add_left 1 _) hrounds)
    exact rounds?_first hs (hroot node rfl) hpos hdepth (Nat.le_of_succ_le_succ hrounds)

/-- A node that holds itself, and beside it one with the widest guard there is, looked at through a
    forged root of no width: two bits take three rounds, and no fewer. -/
theorem forged_root_takes_three_rounds :
    ∃ (s : Space) (root : CNode), s.All Cap.Readable ∧ (∀ node, Cap.cnode root = .cnode node →
        node.InBytes) ∧ root.width = 0
      ∧ s.resolve? 2 (.cnode root) ⟨0b01⟩ ⟨2⟩ = none
      ∧ s.resolve? 3 (.cnode root) ⟨0b01⟩ ⟨2⟩ = some (.ok ⟨0, 1⟩) := by
  let s : Space := ⟨#[#[⟨.cnode ⟨0, 1, .none⟩, none⟩, ⟨.cnode ⟨7, 255, ⟨0xff, 255⟩⟩, none⟩]]⟩
  let root : CNode := ⟨0, 0, .none⟩
  have hs : s.All Cap.Readable := by decide
  have hroot : ∀ node, Cap.cnode root = .cnode node → node.InBytes := by
    rintro node ⟨⟩
    exact ⟨by decide, by decide⟩
  have hresolve : s.resolve (.cnode root) ⟨0b01⟩ ⟨2⟩ = .ok ⟨0, 1⟩ := by cbv
  refine ⟨s, root, hs, hroot, rfl, by decide, ?_⟩
  rw [resolve_within_rounds hs hroot ⟨0b01⟩ (by decide) (by decide) (Nat.le_refl 3), hresolve]

end Space

end InterruptCaps
