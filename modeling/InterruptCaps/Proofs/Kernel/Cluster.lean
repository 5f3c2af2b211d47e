import InterruptCaps.Proofs.Gic.Rewiring
import InterruptCaps.Proofs.Kernel.Handover
import Mathlib.Logic.Relation

/-! Kernel instances that hand interrupts to each other. They share one distributor, each has a mask
    of its own, and between any two calls of one hand-over the others make theirs. The ownership
    check and the write are calls of their own, and yet nothing can go wrong in between: the target
    of an interrupt is changed by its owner alone, so an instance that has passed the check stays
    the owner until it writes.

    | state of a hand-over | what holds of it, whoever else is at work       |
    | -------------------- | ----------------------------------------------- |
    | `asked`              | the interrupt is shared                         |
    | `named`              | and the mask that was read is the own one       |
    | `owned`              | and the interrupt is sent to the own mask alone | -/

namespace InterruptCaps

/-- The mask names one interface, and the platform has it. -/
def TargetMask.NamesOne (m : TargetMask) (interfaces : Nat) : Prop :=
  ∃ core < interfaces, ∀ i, m.contains i = true ↔ i = core

namespace Distributor

theorem namesOne_single {core interfaces : Nat} (h : core < interfaces)
    (hmax : core < maxInterfaces) : (single core).NamesOne interfaces := by
  refine ⟨core, h, fun i => ?_⟩
  rw [TargetMask.contains, toNat_single hmax, Nat.testBit_two_pow, decide_eq_true_iff, eq_comm]

end Distributor

/-- Where each instance has a core to itself, only handing an interrupt over changes targets. -/
theorem Kernel.target_invoke {S : Type} [SlotStore S] {k : Kernel Distributor S}
    (single : k.config.isSmp = false) (cap : Cap) {inv : Invocation}
    (hlabel : inv.label ≠ Label.setTargetCore.toWord) {irq : Nat}
    (hlt : irq < Distributor.irqCapacity) :
    (k.invoke cap inv).2.controller.target irq = k.controller.target irq := by
  have effect := invoke_effect k cap inv
  generalize k.invoke cap inv = out at effect
  cases effect with
  | rejected | signalUnstored | signalIssued => rfl
  | unprogrammed asks slot program | unstored asks slot program | issued asks slot program =>
    rw [asks.route_eq_none single] at program
    exact Distributor.target_of_program program hlt
  | unowned _ _ _ label | unrouted _ _ _ _ _ label | retargeted _ _ _ _ _ label =>
    exact absurd (Label.ofWord?_eq_some.1 label) hlabel
  | sent sgi target => exact (k.controller.wiring_sendSgi sgi target hlt).2

/-! ### One instance -/

namespace Handover

/-- What holds of a hand-over of the instance that is named by `mask`, if interrupts are sent to
    `target`. -/
def Holds (target : Nat → TargetMask) (mask : TargetMask) : Handover → Prop
  | asked irq _ => sharedBase ≤ irq
  | named irq _ own => sharedBase ≤ irq ∧ own = mask
  | owned irq _ => sharedBase ≤ irq ∧ irq < Distributor.irqCapacity ∧ target irq = mask
  | ended _ => True

theorem holds_ofInvocation (p : Platform) (inv : Invocation) (target : Nat → TargetMask)
    (mask : TargetMask) : (ofInvocation p inv).Holds target mask := by
  rw [ofInvocation]
  cases hirq : inv.retargetIrq p with
  | error r => trivial
  | ok irq => exact (Invocation.retargetIrq_eq_ok.1 hirq).2.2.1

theorem Holds.congr {target target' : Nat → TargetMask} {mask : TargetMask} {h : Handover}
    (hh : h.Holds target mask)
    (same : ∀ irq next, h = owned irq next → sharedBase ≤ irq → irq < Distributor.irqCapacity →
      target' irq = target irq) :
    h.Holds target' mask := by
  cases h with
  | owned irq next =>
    obtain ⟨hshared, hlt, howned⟩ := hh
    exact ⟨hshared, hlt, (same irq next rfl hshared hlt).trans howned⟩
  | asked | named | ended => exact hh

variable {p : Platform} {h : Handover} {d : Distributor}

/-- A call leaves the distributor alone, unless it is the write of a new target. -/
theorem call_cases (p : Platform) (h : Handover) (d : Distributor) :
    (h.call p d).2 = d ∨ ∃ irq next d', h = owned irq next
      ∧ d.setTarget irq next.toNat = (.ok (), d') ∧ h.call p d = (ended (.ok 0), d') := by
  cases h with
  | asked irq next | ended result => exact .inl rfl
  | named irq next own =>
    left
    simp only [call, Controller.getTarget]
    cases d.getTarget irq <;> rfl
  | owned irq next =>
    simp only [call]
    split
    · cases hset : Controller.setTarget irq next.toNat d with | mk result d' =>
      cases result with
      | error e => exact .inl (Distributor.setTarget_error hset)
      | ok _ => exact .inr ⟨irq, next, d', rfl, hset, rfl⟩
    · exact .inl rfl

/-- After a call, what has to hold does so of the targets before it. -/
theorem Holds.call (hh : h.Holds d.target d.selfTarget) :
    (h.call p d).1.Holds d.target d.selfTarget := by
  cases h with
  | asked irq next => exact ⟨hh, rfl⟩
  | named irq next own =>
    obtain ⟨hshared, rfl⟩ := hh
    simp only [Handover.call, Controller.getTarget, Distributor.getTarget]
    cases hcheck : d.checkRegister irq with
    | error e => cases e <;> trivial
    | ok _ =>
      simp only [Except.map]
      split
      · rename_i heq
        exact ⟨hshared, Distributor.lt_of_checkRegister hcheck, (beq_iff_eq.1 heq).symm⟩
      · trivial
  | owned irq next =>
    simp only [Handover.call]
    split
    · cases Controller.setTarget irq next.toNat d with | mk result d' =>
      cases result <;> trivial
    · trivial
  | ended result => trivial

end Handover

/-! ### All instances -/

/-- Instances of the kernel on one platform, told apart by their masks. -/
structure Instances (ι : Type) where
  platform : Platform
  own : ι → TargetMask
  distinct : Function.Injective own

/-- The registers that the instances share, and the hand-over that each is at. -/
structure Cluster (ι : Type) where
  frame : Frame
  handover : ι → Handover

/-- Where an interrupt is sent. -/
def Cluster.target {ι : Type} (s : Cluster ι) (irq : Nat) : TargetMask :=
  ⟨s.frame.byte (Distributor.targetsOffset + irq)⟩

namespace Instances

variable {ι : Type} (m : Instances ι)

/-- The distributor as one instance sees it: the banked byte is the mask of the instance. -/
def view (s : Cluster ι) (i : ι) : Distributor :=
  ⟨s.frame.setByte Distributor.targetsOffset (m.own i).bits, m.platform⟩

/-- What holds of all hand-overs in every cluster that the instances can get to. -/
def Sound (s : Cluster ι) : Prop := ∀ i, (s.handover i).Holds s.target (m.own i)

variable {m} {s s' : Cluster ι} {i j : ι} {irq : Nat}

theorem selfTarget_view (s : Cluster ι) (i : ι) : (m.view s i).selfTarget = m.own i := by
  have hin : Distributor.targetsOffset < frameSize := by decide
  rw [Distributor.selfTarget, Distributor.target, view, Frame.byte_setByte, if_pos ⟨rfl, hin⟩]

theorem target_view (s : Cluster ι) (i : ι) (shared : sharedBase ≤ irq) :
    (m.view s i).target irq = s.target irq := by
  have hne : Distributor.targetsOffset ≠ Distributor.targetsOffset + irq := by
    have : 0 < sharedBase := by decide
    omega
  rw [Distributor.target, view, Frame.byte_setByte, if_neg fun h => hne h.1, Cluster.target]

/-- At most one instance is past the ownership check for an interrupt. -/
theorem Sound.exclusive (hs : m.Sound s) {next next' : UInt64}
    (hi : s.handover i = .owned irq next) (hj : s.handover j = .owned irq next') : i = j := by
  have howned := hs i
  have howned' := hs j
  rw [hi] at howned
  rw [hj] at howned'
  exact m.distinct (howned.2.2.symm.trans howned'.2.2)

variable [DecidableEq ι] (m)

/-- An instance makes the next call of its hand-over. -/
def call (s : Cluster ι) (i : ι) : Cluster ι :=
  let (h, d) := (s.handover i).call m.platform (m.view s i)
  ⟨d.frame, Function.update s.handover i h⟩

/-- What that call changes in hardware. -/
def calls (s : Cluster ι) (i : ι) : List Call :=
  ((s.handover i).call m.platform (Recorder.fresh (m.view s i))).2.calls

/-- What can happen next. An instance that is done with one hand-over may begin another, for any
    message; an instance makes the next call of its hand-over; or something else happens, which
    does not touch the target of a shared interrupt. -/
inductive Step : Cluster ι → Cluster ι → Prop where
  | begin {s : Cluster ι} {i : ι} (inv : Invocation)
      (idle : ∃ result, s.handover i = .ended result) : Step s { s with
        handover := Function.update s.handover i (.ofInvocation m.platform inv) }
  | call (s : Cluster ι) (i : ι) : Step s (m.call s i)
  | other {s : Cluster ι} {frame : Frame} (kept : ∀ irq, sharedBase ≤ irq →
      irq < Distributor.irqCapacity → (⟨frame, s.handover⟩ : Cluster ι).target irq = s.target irq) :
      Step s { s with frame }

variable {m}

/-- All that an instance does besides handing interrupts over is such a step. -/
theorem step_invoke {S : Type} [SlotStore S] {k : Kernel Distributor S}
    (hview : k.controller = m.view s i) (single : k.config.isSmp = false) (cap : Cap)
    {inv : Invocation} (hlabel : inv.label ≠ Label.setTargetCore.toWord) :
    m.Step s { s with frame := (k.invoke cap inv).2.controller.frame } := by
  refine .other fun irq shared hlt => ?_
  have htarget := Kernel.target_invoke single cap hlabel hlt
  rw [hview, target_view s i shared] at htarget
  exact htarget

theorem target_call_eq (s : Cluster ι) (i : ι) (irq : Nat) : (m.call s i).target irq
    = ((s.handover i).call m.platform (m.view s i)).2.target irq := rfl

theorem handover_call_of_ne (s : Cluster ι) (h : j ≠ i) :
    (m.call s i).handover j = s.handover j := Function.update_of_ne h _ _

/-- A call leaves the target of an interrupt alone, unless it is the write of an instance that is
    past the check for it. -/
theorem target_call (s : Cluster ι) (i : ι) (shared : sharedBase ≤ irq) :
    (m.call s i).target irq = s.target irq
      ∨ ∃ next, s.handover i = .owned irq next ∧ (m.view s i).Routable irq next.toNat
        ∧ (m.call s i).target irq = Distributor.single next.toNat
        ∧ (m.call s i).handover i = .ended (.ok 0) := by
  rcases (s.handover i).call_cases m.platform (m.view s i)
    with hsame | ⟨irq', next, d', howned, hset, hcall⟩
  · left
    rw [target_call_eq, hsame, target_view s i shared]
  · rw [target_call_eq, hcall, Distributor.target_of_setTarget_ok hset, target_view s i shared]
    by_cases hirq : irq' = irq
    · subst hirq
      obtain ⟨hroute, -, -⟩ := Distributor.setTarget_ok hset
      refine .inr ⟨next, howned, hroute, if_pos rfl, ?_⟩
      simp only [call, hcall, Function.update_self]
    · exact .inl (if_neg hirq)

/-- A call keeps what holds: of the instance that makes it, as it reads targets and does not change
    what it read, and of all others, as it changes no target that another has checked. -/
theorem sound_call (hs : m.Sound s) (i : ι) : m.Sound (m.call s i) := by
  intro j
  by_cases hj : j = i
  · subst hj
    have hview : (s.handover j).Holds (m.view s j).target (m.view s j).selfTarget := by
      rw [selfTarget_view]
      exact (hs j).congr fun irq _ _ shared _ => target_view s j shared
    have hcalled : ((m.call s j).handover j).Holds (m.view s j).target (m.own j) := by
      rw [← selfTarget_view s j]
      simp only [call, Function.update_self]
      exact hview.call
    refine hcalled.congr fun irq next howned shared _ => ?_
    rw [target_view s j shared]
    rcases target_call s j shared with hsame | ⟨_, _, _, _, hended⟩
    · exact hsame
    · -- after its own write the instance is past nothing any more
      rw [hended] at howned
      cases howned
  · rw [handover_call_of_ne s hj]
    refine (hs j).congr fun irq next howned shared _ => ?_
    rcases target_call s i shared with hsame | ⟨next', howned', _, _, _⟩
    · exact hsame
    · exact absurd (hs.exclusive howned howned') hj

theorem sound_step (h : m.Step s s') (hs : m.Sound s) : m.Sound s' := by
  cases h with
  | @begin i inv idle =>
    intro j
    by_cases hj : j = i
    · subst hj
      simp only [Function.update_self]
      exact Handover.holds_ofInvocation m.platform inv _ _
    · simp only [Function.update_of_ne hj]
      exact hs j
  | call i => exact sound_call hs i
  | other kept => exact fun j => (hs j).congr fun irq _ _ shared hlt => kept irq shared hlt

/-- What holds while no hand-over is going on holds for ever. -/
theorem sound_of_reached {s₀ : Cluster ι} (idle : ∀ i, ∃ result, s₀.handover i = .ended result)
    (reached : Relation.ReflTransGen m.Step s₀ s) : m.Sound s := by
  induction reached with
  | refl =>
    intro i
    obtain ⟨result, hi⟩ := idle i
    rw [hi]
    trivial
  | tail _ step ih => exact sound_step step ih

/-- Only an instance that is past the check for an interrupt changes its target. -/
theorem target_step (h : m.Step s s') (shared : sharedBase ≤ irq)
    (hlt : irq < Distributor.irqCapacity) : s'.target irq = s.target irq
      ∨ ∃ i next, s' = m.call s i ∧ s.handover i = .owned irq next
        ∧ (m.view s i).Routable irq next.toNat
        ∧ s'.target irq = Distributor.single next.toNat := by
  cases h with
  | begin inv idle => exact .inl rfl
  | call i =>
    rcases target_call s i shared with hsame | ⟨next, howned, hroute, htarget, _⟩
    · exact .inl hsame
    · exact .inr ⟨i, next, rfl, howned, hroute, htarget⟩
  | other kept => exact .inl (kept irq shared hlt)

theorem namesOne_step (h : m.Step s s') (shared : sharedBase ≤ irq)
    (hlt : irq < Distributor.irqCapacity)
    (hone : (s.target irq).NamesOne m.platform.cpuInterfaces) :
    (s'.target irq).NamesOne m.platform.cpuInterfaces := by
  rcases target_step h shared hlt with hsame | ⟨i, next, -, -, hroute, htarget⟩
  · rwa [hsame]
  · rw [htarget]
    exact Distributor.namesOne_single hroute.lt_interfaces hroute.lt_max

/-! ### An owner that nobody disturbs -/

section

variable {next : UInt64}

/-- Reading the own mask changes no target. -/
theorem call_asked (h : s.handover i = .asked irq next) (shared : sharedBase ≤ irq) :
    (m.call s i).handover i = .named irq next (m.own i)
      ∧ (m.call s i).target irq = s.target irq := by
  have hcall : (s.handover i).call m.platform (m.view s i)
      = (.named irq next (m.own i), m.view s i) := by
    rw [h, ← selfTarget_view s i]
    rfl
  constructor
  · simp only [call, hcall, Function.update_self]
  · rw [target_call_eq, hcall, target_view s i shared]

variable (hle : irq ≤ m.platform.maxIrq) (hm : m.platform.maxIrq ≤ maxLine)

include hle hm

/-- The owner passes the check. -/
theorem call_named (h : s.handover i = .named irq next (m.own i)) (shared : sharedBase ≤ irq)
    (owns : s.target irq = m.own i) : (m.call s i).handover i = .owned irq next := by
  have hget : (m.view s i).getTarget irq = .ok (m.own i) := by
    rw [Distributor.getTarget, Distributor.checkRegister_eq_ok hle hm, Except.map,
      target_view s i shared, owns]
  simp only [call, h, Handover.call, Controller.getTarget, hget, Function.update_self,
    beq_self_eq_true, if_true]

/-- Whoever is past the check writes the new target. -/
theorem call_owned (h : s.handover i = .owned irq next)
    (route : (m.view s i).Routable irq next.toNat) :
    (m.call s i).handover i = .ended (.ok 0)
      ∧ (m.call s i).target irq = Distributor.single next.toNat := by
  have hset := Distributor.setTarget_eq_ok (d := m.view s i) hle hm route
  have hinterface : m.platform.hasInterface next = true := decide_eq_true route.lt_interfaces
  have hcall : (s.handover i).call m.platform (m.view s i)
      = (.ended (.ok 0), ((m.view s i).setTarget irq next.toNat).2) := by
    rw [h, Handover.call, if_pos hinterface]
    simp only [Controller.setTarget, hset]
  constructor
  · simp only [call, hcall, Function.update_self]
  · rw [target_call_eq, hcall, Distributor.target_setTarget hle hm route, if_pos rfl]

/-- The owner hands its interrupt over. -/
theorem owner_hands_over (h : s.handover i = .asked irq next) (owns : s.target irq = m.own i)
    (route : (m.view s i).Routable irq next.toNat) :
    (m.call (m.call (m.call s i) i) i).handover i = .ended (.ok 0)
      ∧ (m.call (m.call (m.call s i) i) i).target irq = Distributor.single next.toNat := by
  obtain ⟨hnamed, htarget⟩ := call_asked (m := m) h route.shared
  exact call_owned hle hm (call_named hle hm hnamed route.shared (htarget.trans owns))
    ⟨route.shared, route.lt_max, route.lt_interfaces⟩

end

/-- However the calls of any number of hand-overs mix, an instance that has passed the ownership
    check for an interrupt owns it until it writes; so no other has passed the check, whatever is
    written to a target is written by the owner at that moment, and a target that names one
    interface of the platform always does. -/
theorem handovers_keep_owner {s₀ : Cluster ι}
    (idle : ∀ i, ∃ result, s₀.handover i = .ended result)
    (reached : Relation.ReflTransGen m.Step s₀ s) :
    (∀ i irq next, s.handover i = .owned irq next → s.target irq = m.own i)
      ∧ (∀ i j irq next next', s.handover i = .owned irq next → s.handover j = .owned irq next' →
        i = j)
      ∧ (∀ i, ∀ call ∈ m.calls s i,
        ∃ irq core result, call = .setTarget irq core result ∧ s.target irq = m.own i)
      ∧ (∀ s' irq, m.Step s s' → sharedBase ≤ irq → irq < Distributor.irqCapacity →
        s'.target irq ≠ s.target irq → ∃ i next, s' = m.call s i ∧ s.handover i = .owned irq next
          ∧ s.target irq = m.own i ∧ s'.target irq = Distributor.single next.toNat)
      ∧ ∀ irq, sharedBase ≤ irq → irq < Distributor.irqCapacity →
        (s₀.target irq).NamesOne m.platform.cpuInterfaces →
          (s.target irq).NamesOne m.platform.cpuInterfaces := by
  have hs := sound_of_reached idle reached
  have owns : ∀ i irq next, s.handover i = .owned irq next → s.target irq = m.own i := by
    intro i irq next howned
    have := hs i
    rw [howned] at this
    exact this.2.2
  refine ⟨owns, fun i j irq next next' => hs.exclusive, fun i call made => ?_,
    fun s' irq step shared hlt changed => ?_, fun irq shared hlt hone => ?_⟩
  · obtain ⟨irq, next, result, howned, rfl⟩ := Handover.calls_call made
    exact ⟨irq, next.toNat, result, rfl, owns i irq next howned⟩
  · obtain ⟨i, next, hcall, howned, -, htarget⟩ :=
      (target_step step shared hlt).resolve_left changed
    exact ⟨i, next, hcall, howned, owns i irq next howned, htarget⟩
  · clear hs owns
    induction reached with
    | refl => exact hone
    | tail _ step ih => exact namesOne_step step shared hlt ih

/-- Two instances are at a hand-over of interrupt 40, which is sent to the first. The second reads
    its own mask before the first writes, and the target after that: it is past the check then,
    and the interrupt is its own. -/
theorem second_owns_after_first :
    ∃ (m : Instances Bool) (s₀ s : Cluster Bool),
      (∀ i, ∃ result, s₀.handover i = .ended result) ∧ Relation.ReflTransGen m.Step s₀ s
        ∧ s₀.target 40 = m.own false ∧ s.handover true = .owned 40 1
        ∧ s.target 40 = m.own true
        ∧ (s.target 40).NamesOne m.platform.cpuInterfaces := by
  let own : Bool → TargetMask := fun i => Distributor.single i.toNat
  let m : Instances Bool := ⟨.full, own, by decide⟩
  let s₀ : Cluster Bool :=
    ⟨Frame.zero.setByte (Distributor.targetsOffset + 40) 1, fun _ => .ended (.ok 0)⟩
  let inv : Invocation := ⟨.ofCounts 5 0 2, [40, 1], [], ⟨0, 3⟩⟩
  let s₁ : Cluster Bool := { s₀ with
    handover := Function.update s₀.handover false (.ofInvocation m.platform inv) }
  let s₂ : Cluster Bool := { s₁ with
    handover := Function.update s₁.handover true (.ofInvocation m.platform inv) }
  let s₃ := m.call s₂ true
  let s₆ := m.call (m.call (m.call s₃ false) false) false
  have idle : ∀ i, ∃ result, s₀.handover i = .ended result := fun _ => ⟨_, rfl⟩
  have started : Relation.ReflTransGen m.Step s₀ s₂ :=
    (Relation.ReflTransGen.single (.begin inv (idle false))).tail (.begin inv ⟨.ok 0, rfl⟩)
  have reached : Relation.ReflTransGen m.Step s₀ (m.call s₆ true) :=
    ((((started.tail (.call s₂ true)).tail (.call s₃ false)).tail (.call _ false)).tail
      (.call _ false)).tail (.call s₆ true)
  have hfirst : s₀.target 40 = m.own false := by
    rw [Cluster.target, Frame.byte_setByte, if_pos ⟨rfl, by decide⟩]
    rfl
  obtain ⟨hnamed, htarget⟩ : s₃.handover true = .named 40 1 (m.own true)
      ∧ s₃.target 40 = s₂.target 40 := call_asked rfl (by decide)
  have hasked : s₃.handover false = .asked 40 1 := handover_call_of_ne s₂ (by decide)
  have hroute : (m.view s₃ false).Routable 40 (1 : UInt64).toNat :=
    ⟨by decide, by decide, by decide⟩
  obtain ⟨-, hwritten⟩ :=
    owner_hands_over (by decide) (by decide) hasked (htarget.trans hfirst) hroute
  have hwaits : s₆.handover true = .named 40 1 (m.own true) := by
    rw [handover_call_of_ne _ (by decide), handover_call_of_ne _ (by decide),
      handover_call_of_ne _ (by decide), hnamed]
  have howned : (m.call s₆ true).handover true = .owned 40 1 :=
    call_named (by decide) (by decide) hwaits (by decide) hwritten
  have hone : (s₀.target 40).NamesOne m.platform.cpuInterfaces := by
    rw [hfirst]
    exact Distributor.namesOne_single (by decide) (by decide)
  obtain ⟨hown, -, -, -, hkeeps⟩ := handovers_keep_owner idle reached
  exact ⟨m, s₀, m.call s₆ true, idle, reached, hfirst, howned, hown true 40 1 howned,
    hkeeps 40 (by decide) (by decide) hone⟩

end Instances

end InterruptCaps
