import InterruptCaps.Proofs.Gic.Refinement
import InterruptCaps.Proofs.Kernel.Success
import InterruptCaps.Proofs.Kernel.Undisturbed

/-! Handlers that can be issued in any order. What a request for a handler reads and what it writes
    are its own line, its own slot and, in the frame, its own edge bit and target byte. Requests
    for different interrupts with different destinations share none of these, though they may share
    words of the bitmap and of the frame.

    | state    | read by another request | written by this one      |
    | -------- | ----------------------- | ------------------------ |
    | registry | whether its line is in  | this line                |
    | slots    | its way, its slot       | this slot, with no node  |
    | frame    | nothing                 | this edge bit, this byte |

    Main statement: each of two such requests gets the answer that it gets alone, and slots,
    registry and frame are the same in the end whichever came first. -/

namespace InterruptCaps

/-! ### Lines of the registry -/

namespace Registry

/-- Interrupts of different numbers have different lines. -/
theorem isActive_activate_of_ne {id id' : IrqId} (h : id.irq ≠ id'.irq) (r : Registry) :
    (r.activate id).2.isActive id' = r.isActive id' := by
  rw [Bool.eq_iff_iff, isActive_eq_true, isActive_eq_true]
  refine exists_congr fun n => and_congr_right fun hline' => ?_
  rw [mem_lines_activate, or_iff_right]
  intro hline
  exact h (IrqId.line?_inj hline hline').1

/-- Lines can be registered in any order. -/
theorem activate_comm (id id' : IrqId) (r : Registry) :
    ((r.activate id).2.activate id').2 = ((r.activate id').2.activate id).2 := by
  cases hline : id.line? with
  | none => simp only [activate, hline]
  | some n =>
    cases hline' : id'.line? with
    | none => simp only [activate, hline']
    | some n' =>
      by_cases hn : n = n'
      · subst hn
        simp only [activate, hline, hline']
      · have hn' : n' ≠ n := Ne.symm hn
        have hlt := IrqId.line?_lt hline
        have hlt' := IrqId.line?_lt hline'
        -- each says no to a line that is there, and neither sees the other's
        by_cases h : r.holds n <;> by_cases h' : r.holds n' <;>
          simp_all [activate, holds, BitVec.or_assoc, BitVec.or_comm (BitVec.twoPow _ n)]
end Registry

/-! ### Lines of the frame -/

namespace Distributor

variable {d d' e e' : Distributor} {irq irq' : Nat} {trigger trigger' : Option Trigger}
  {target target' : Option Nat}

/-- The bits of the frame that programming a line writes. -/
def Written (irq : Nat) (trigger : Option Trigger) (target : Option Nat) (n : Nat) : Prop :=
  (trigger.isSome ∧ n = edgeBit irq) ∨ (target.isSome ∧ n / 8 = targetsOffset + irq)

theorem Written.disjoint {n : Nat} (h : irq ≠ irq') (hlt : irq < irqCapacity)
    (hlt' : irq' < irqCapacity) (hn : Written irq trigger target n) :
    ¬ Written irq' trigger' target' n := by
  rcases hn with ⟨-, rfl⟩ | ⟨-, hn⟩
  · rintro (⟨-, hedge⟩ | ⟨-, hbyte⟩)
    · exact h (edgeBit_inj.1 hedge)
    · exact edgeBit_div_ne irq hlt' hbyte
  · rintro (⟨-, rfl⟩ | ⟨-, hbyte⟩)
    · exact edgeBit_div_ne irq' hlt hn
    · exact h (by omega)

namespace Rewired

/-- What is written does not depend on what was there. -/
theorem bit_of_written (h : d.Rewired d' irq trigger target) (h' : e.Rewired e' irq trigger target)
    {n : Nat} (hn : Written irq trigger target n) : d'.frame.bit n = e'.frame.bit n := by
  rcases hn with ⟨ht, rfl⟩ | ⟨hc, hn⟩
  · obtain ⟨t, rfl⟩ := Option.isSome_iff_exists.1 ht
    rw [h.edge t rfl, h'.edge t rfl]
  · obtain ⟨core, rfl⟩ := Option.isSome_iff_exists.1 hc
    have hbyte := UInt8.toNat_inj.1 ((h.byte core rfl).trans (h'.byte core rfl).symm)
    rw [Frame.bit, Frame.bit, hn, hbyte]

theorem bit_of_not_written (h : d.Rewired d' irq trigger target) {n : Nat}
    (hn : ¬ Written irq trigger target n) : d'.frame.bit n = d.frame.bit n := by
  rw [Written, not_or, not_and, not_and] at hn
  exact h.others n hn.1 hn.2

/-- Different lines can be rewired in any order. -/
theorem comm {d₁ d₁₂ d₂ d₂₁ : Distributor} (hne : irq ≠ irq') (hlt : irq < irqCapacity)
    (hlt' : irq' < irqCapacity) (h₁ : d.Rewired d₁ irq trigger target)
    (h₁₂ : d₁.Rewired d₁₂ irq' trigger' target') (h₂ : d.Rewired d₂ irq' trigger' target')
    (h₂₁ : d₂.Rewired d₂₁ irq trigger target) : d₁₂ = d₂₁ := by
  have hbit : ∀ n, d₁₂.frame.bit n = d₂₁.frame.bit n := by
    intro n
    by_cases hn : Written irq trigger target n
    · rw [h₁₂.bit_of_not_written (hn.disjoint hne hlt hlt'), h₁.bit_of_written h₂₁ hn]
    · by_cases hn' : Written irq' trigger' target' n
      · rw [h₂₁.bit_of_not_written hn, h₁₂.bit_of_written h₂ hn']
      · rw [h₁₂.bit_of_not_written hn', h₁.bit_of_not_written hn, h₂₁.bit_of_not_written hn,
          h₂.bit_of_not_written hn']
  obtain ⟨f, p⟩ := d₁₂
  obtain ⟨f', p'⟩ := d₂₁
  obtain rfl : f = f' := Frame.ext_bit hbit
  obtain rfl : p = p' := (h₁₂.info.trans h₁.info).trans (h₂₁.info.trans h₂.info).symm
  rfl

end Rewired

end Distributor

/-! ### Requests for handlers -/

namespace Kernel

/-- A caller's turn, in which it asks for a handler. -/
structure Turn where
  caller : Thread
  badge : Badge
  form : HandlerForm
  inv : Invocation
  label : inv.label = form.label.toWord

namespace Turn

section

variable {C : Type} [Controller C]

/-- The caller invokes its authority over interrupts. -/
def take (t : Turn) (k : Kernel C Space) : Outcome C Space :=
  { k with caller := t.caller }.invoke (.irqControl t.badge) t.inv

/-- The handler that the message asks for, if its words pass their checks. -/
def ask (t : Turn) (k : Kernel C Space) : Except Rejection HandlerRequest :=
  if t.form ≠ .forCore || k.config.isSmp
    then t.form.ask k.config k.platform t.caller.core t.inv
    else .error (.noSuchOperation t.inv.label k.config.topology)

/-- The slot that the destination of the handler is found to be, if a handler is asked for. -/
def dest? (t : Turn) (k : Kernel C Space) : Option SlotRef :=
  match t.ask k with
  | .error _ => none
  | .ok req => (k.space.lookup req.dest.root req.dest.index req.dest.depth).toOption

/-- What is granted, and the slot that it goes to. -/
def granted (t : Turn) (k : Kernel C Space) : Except Rejection (HandlerRequest × SlotRef) :=
  match t.ask k with
  | .error r => .error r
  | .ok req => (k.handlerSlot req).map fun dest => (req, dest)

/-- The kernel after a handler is granted, over a controller whose line was programmed. -/
def after (t : Turn) (req : HandlerRequest) (dest : SlotRef) (controller : C)
    (k : Kernel C Space) : Kernel C Space where
  config := k.config
  controller := controller
  registry := (k.registry.activate req.id).2
  space := k.space.put dest ⟨.irqHandler req.id req.trigger, some t.inv.source⟩
  caller := t.caller.markRunnable

variable {t : Turn} {k : Kernel C Space} {req : HandlerRequest} {dest : SlotRef}

theorem take_eq (t : Turn) (k : Kernel C Space) :
    t.take k = { k with caller := t.caller }.issueHandler (t.ask k) t.inv.source := by
  rw [take, invoke, control_eq t.label, ask]
  split <;> rfl

theorem granted_eq_ok :
    t.granted k = .ok (req, dest) ↔ t.ask k = .ok req ∧ k.handlerSlot req = .ok dest := by
  rw [granted]
  cases t.ask k with
  | error r => simp
  | ok req' =>
    constructor
    · intro h
      cases hslot : k.handlerSlot req' with
      | error r => simp [hslot, Except.map] at h
      | ok dest' =>
        obtain ⟨rfl, rfl⟩ : req' = req ∧ dest' = dest := by simpa [hslot, Except.map] using h
        exact ⟨rfl, hslot⟩
    · rintro ⟨hreq, hslot⟩
      cases hreq
      simp [hslot, Except.map]

theorem asks (h : t.ask k = .ok req) : { k with caller := t.caller }.Asks t.inv req := by
  rw [ask] at h
  split at h
  · rename_i henabled
    exact asks_of_ask t.label (by rintro hform; simpa [hform] using henabled) h
  · cases h

theorem irq_of_ask (h : t.ask k = .ok req) : req.id.irq = (t.inv.arg 0).toNat := by
  obtain ⟨form, -, rfl⟩ := (asks h).form
  cases form <;> rfl

theorem dest?_of_granted (h : t.granted k = .ok (req, dest)) : t.dest? k = some dest := by
  obtain ⟨hask, hslot⟩ := granted_eq_ok.1 h
  obtain ⟨-, hlookup, -⟩ := handlerSlot_eq_ok.1 hslot
  have hfound : k.space.lookup req.dest.root req.dest.index req.dest.depth = .ok dest := hlookup
  simp only [dest?, hask, hfound]
  rfl

/-- What is granted fits into its slot. -/
theorem insert_of_granted (h : t.granted k = .ok (req, dest))
    (hsource : (k.space.slot? t.inv.source).isSome) :
    k.space.insert (.irqHandler req.id req.trigger) t.inv.source dest
      = .ok (k.space.put dest ⟨.irqHandler req.id req.trigger, some t.inv.source⟩) := by
  obtain ⟨-, hslot⟩ := granted_eq_ok.1 h
  obtain ⟨-, -, hempty⟩ := handlerSlot_eq_ok.1 hslot
  exact Space.insert_eq_ok.2 ⟨hsource, hempty, rfl⟩

/-- A turn in which nothing is granted changes nothing but who is served. -/
theorem take_of_error {r : Rejection} (h : t.granted k = .error r) :
    t.take k = (.error (.rejected r), { k with caller := t.caller }) := by
  rw [granted] at h
  rw [take_eq]
  cases hask : t.ask k with
  | error r' =>
    rw [hask] at h
    cases h
    rfl
  | ok req =>
    simp only [hask] at h
    cases hslot : k.handlerSlot req with
    | error r' =>
      rw [hslot] at h
      cases h
      have hslot' : { k with caller := t.caller }.handlerSlot req = .error r := hslot
      simp only [issueHandler, hslot']
      rfl
    | ok dest =>
      rw [hslot] at h
      cases h

end

/-! ### Turns at a distributor -/

variable {t t' : Turn} {k : Kernel Distributor Space} {req : HandlerRequest} {dest : SlotRef}

/-- What is granted is done: its line is programmed, its slot filled, its line registered. -/
theorem take_of_granted (hm : k.platform.maxIrq ≤ maxLine)
    (hsource : (k.space.slot? t.inv.source).isSome) (h : t.granted k = .ok (req, dest)) :
    ∃ d, Controller.program req.id.irq req.trigger req.route k.controller = (.ok (), d)
      ∧ t.take k = (.ok 0, t.after req dest d k) := by
  obtain ⟨hask, hslot⟩ := granted_eq_ok.1 h
  have asks := asks hask
  obtain ⟨d, hd, -, -⟩ :=
    Distributor.program_eq_ok asks.irq_le hm req.trigger fun _ => asks.routable
  have hslot' : { k with caller := t.caller }.handlerSlot req = .ok dest := hslot
  refine ⟨d, hd, ?_⟩
  rw [take_eq, hask]
  simp only [issueHandler, hslot', grantHandler, hd, SlotStore.insert, insert_of_granted h hsource]
  rfl

/-- The answer to a turn says whether it was granted. -/
theorem answer_take (hm : k.platform.maxIrq ≤ maxLine)
    (hsource : (k.space.slot? t.inv.source).isSome) :
    (t.take k).1 = match t.granted k with
      | .error r => .error (.rejected r)
      | .ok _ => .ok 0 := by
  cases h : t.granted k with
  | error r => rw [take_of_error h]
  | ok grant =>
    obtain ⟨d, -, htake⟩ := take_of_granted hm hsource h
    rw [htake]

/-- A handler that is granted is nothing to a request for another interrupt that does not go to
    its slot. -/
theorem granted_after {d : Distributor} (hinfo : d.info = k.platform)
    (hsource : (k.space.slot? t.inv.source).isSome) (h : t.granted k = .ok (req, dest))
    (hirq : t.inv.arg 0 ≠ t'.inv.arg 0) (hdest : t'.dest? k ≠ some dest) :
    t'.granted (t.after req dest d k) = t'.granted k := by
  obtain ⟨hask, -⟩ := granted_eq_ok.1 h
  have hask' : t'.ask (t.after req dest d k) = t'.ask k := by
    simp only [ask, after, platform, Controller.platform, hinfo]
  rw [granted, granted, hask']
  cases hreq : t'.ask k with
  | error r => rfl
  | ok req' =>
    have hne : req.id.irq ≠ req'.id.irq := by
      rw [irq_of_ask hask, irq_of_ask hreq]
      exact fun hsame => hirq (UInt64.toNat_inj.1 hsame)
    have hactive : (k.registry.activate req.id).2.isActive req'.id = k.registry.isActive req'.id :=
      Registry.isActive_activate_of_ne hne k.registry
    have hlookup := Space.lookup_insert (insert_of_granted h hsource) (by simp) req'.dest.root
      req'.dest.index req'.dest.depth
    simp only [handlerSlot, emptySlot, after, hactive, SlotStore.lookup, hlookup,
      SlotStore.ensureEmpty]
    cases hfound : k.space.lookup req'.dest.root req'.dest.index req'.dest.depth with
    | error e => rfl
    | ok ref =>
      have href : dest ≠ ref := by
        rintro rfl
        simp [dest?, hreq, hfound, Except.toOption] at hdest
      simp only [k.space.ensureEmpty_put_of_ne href]

/-- Two turns that have nothing to do with each other: the handlers that are asked for are of
    different interrupts, and their destinations are not found to be the same slot. -/
structure Apart (t t' : Turn) (k : Kernel Distributor Space) : Prop where
  limit : k.platform.maxIrq ≤ maxLine
  source : (k.space.slot? t.inv.source).isSome
  source' : (k.space.slot? t'.inv.source).isSome
  irq : t.inv.arg 0 ≠ t'.inv.arg 0
  dest : ∀ ref, t.dest? k = some ref → t'.dest? k ≠ some ref

namespace Apart

theorem symm (h : t.Apart t' k) : t'.Apart t k :=
  ⟨h.limit, h.source', h.source, h.irq.symm, fun ref hdest' hdest => h.dest ref hdest hdest'⟩

/-- What is granted does not depend on whether the other turn was taken before. -/
theorem granted_take (h : t.Apart t' k) : t'.granted (t.take k).2 = t'.granted k := by
  cases hgranted : t.granted k with
  | error r =>
    rw [take_of_error hgranted]
    rfl
  | ok grant =>
    obtain ⟨req, dest⟩ := grant
    obtain ⟨d, hd, htake⟩ := take_of_granted h.limit h.source hgranted
    rw [htake]
    exact granted_after (Distributor.program_rewired hd).info h.source hgranted h.irq
      (h.dest dest (dest?_of_granted hgranted))

theorem limit_take (h : t.Apart t' k) : (t.take k).2.platform.maxIrq ≤ maxLine := by
  have hplatform : (t.take k).2.platform = k.platform :=
    (invoke_effect { k with caller := t.caller } (.irqControl t.badge) t.inv).platform
  rw [hplatform]
  exact h.limit

theorem source_take (h : t.Apart t' k) : ((t.take k).2.space.slot? t'.inv.source).isSome := by
  have undisturbed := undisturbed_invoke { k with caller := t.caller } (.irqControl t.badge) t.inv
  exact (undisturbed.slots t'.inv.source).trans h.source'

/-- So the answer is the one that is given without the other turn. -/
theorem answer (h : t.Apart t' k) : (t'.take (t.take k).2).1 = (t'.take k).1 := by
  rw [answer_take h.limit_take h.source_take, h.granted_take, answer_take h.limit h.source']

/-- Where both are granted, both are done. -/
theorem take_take (h : t.Apart t' k) {req' : HandlerRequest} {dest' : SlotRef}
    (hgranted : t.granted k = .ok (req, dest)) (hgranted' : t'.granted k = .ok (req', dest')) :
    ∃ d d', Controller.program req.id.irq req.trigger req.route k.controller = (.ok (), d)
      ∧ Controller.program req'.id.irq req'.trigger req'.route d = (.ok (), d')
      ∧ (t'.take (t.take k).2).2 = t'.after req' dest' d' (t.after req dest d k) := by
  obtain ⟨d, hd, htake⟩ := take_of_granted h.limit h.source hgranted
  obtain ⟨d', hd', htake'⟩ :=
    take_of_granted h.limit_take h.source_take (h.granted_take.trans hgranted')
  rw [htake] at hd' htake'
  exact ⟨d, d', hd, hd', by rw [htake, htake']⟩

/-- Whichever turn comes first, the kernel is the same in the end, up to who was served last. -/
theorem kernel (h : t.Apart t' k) :
    { (t'.take (t.take k).2).2 with caller := k.caller }
      = { (t.take (t'.take k).2).2 with caller := k.caller } := by
  cases hgranted : t.granted k with
  | error r =>
    rw [take_of_error hgranted, take_of_error (h.symm.granted_take.trans hgranted)]
    rfl
  | ok grant =>
    obtain ⟨req, dest⟩ := grant
    cases hgranted' : t'.granted k with
    | error r' =>
      rw [take_of_error hgranted', take_of_error (h.granted_take.trans hgranted')]
      rfl
    | ok grant' =>
      obtain ⟨req', dest'⟩ := grant'
      obtain ⟨hask, -⟩ := granted_eq_ok.1 hgranted
      obtain ⟨hask', -⟩ := granted_eq_ok.1 hgranted'
      obtain ⟨d, d', hd, hd', hlast⟩ := h.take_take hgranted hgranted'
      obtain ⟨e, e', he, he', hlast'⟩ := h.symm.take_take hgranted' hgranted
      have hirq : req.id.irq ≠ req'.id.irq := by
        rw [irq_of_ask hask, irq_of_ask hask']
        exact fun hsame => h.irq (UInt64.toNat_inj.1 hsame)
      have hdest : dest ≠ dest' := by
        rintro rfl
        exact h.dest dest (dest?_of_granted hgranted) (dest?_of_granted hgranted')
      have hcontroller : d' = e' :=
        (Distributor.program_rewired hd).comm hirq
          (Distributor.lt_irqCapacity (Nat.le_trans (asks hask).irq_le h.limit))
          (Distributor.lt_irqCapacity (Nat.le_trans (asks hask').irq_le h.limit))
          (Distributor.program_rewired hd') (Distributor.program_rewired he)
          (Distributor.program_rewired he')
      rw [hlast, hlast']
      simp only [after, hcontroller, k.space.put_comm hdest,
        Registry.activate_comm req.id req'.id k.registry]

/-- The caller is served as without the other turn. -/
theorem caller (h : t.Apart t' k) :
    (t'.take (t.take k).2).2.caller = (t'.take k).2.caller := by
  have hsame := h.granted_take
  cases hgranted : t'.granted k with
  | error r => rw [take_of_error hgranted, take_of_error (hsame.trans hgranted)]
  | ok grant =>
    obtain ⟨req, dest⟩ := grant
    obtain ⟨d, -, htake⟩ := take_of_granted h.limit h.source' hgranted
    obtain ⟨d', -, htake'⟩ :=
      take_of_granted h.limit_take h.source_take (hsame.trans hgranted)
    rw [htake, htake']
    rfl

end Apart

/-- Two callers ask for handlers of different interrupts, in whatever form, and the destinations of
    the two are not found to be the same slot. Then each gets the answer that it gets without the
    other, whoever comes first, and slots, registry and distributor are the same in the end. -/
theorem handlers_issued_in_any_order (hm : k.platform.maxIrq ≤ maxLine)
    (hsource : (k.space.slot? t.inv.source).isSome)
    (hsource' : (k.space.slot? t'.inv.source).isSome) (hirq : t.inv.arg 0 ≠ t'.inv.arg 0)
    (hdest : ∀ ref, t.dest? k = some ref → t'.dest? k ≠ some ref) :
    (t.take (t'.take k).2).1 = (t.take k).1
      ∧ (t'.take (t.take k).2).1 = (t'.take k).1
      ∧ (t'.take (t.take k).2).2.space = (t.take (t'.take k).2).2.space
      ∧ (t'.take (t.take k).2).2.registry = (t.take (t'.take k).2).2.registry
      ∧ (t'.take (t.take k).2).2.controller = (t.take (t'.take k).2).2.controller
      ∧ (t.take (t'.take k).2).2.caller = (t.take k).2.caller
      ∧ (t'.take (t.take k).2).2.caller = (t'.take k).2.caller := by
  have apart : t.Apart t' k := ⟨hm, hsource, hsource', hirq, hdest⟩
  have hkernel := apart.kernel
  simp only [Kernel.mk.injEq] at hkernel
  obtain ⟨-, hcontroller, hregistry, hspace, -⟩ := hkernel
  exact ⟨apart.symm.answer, apart.answer, hspace, hregistry, hcontroller, apart.symm.caller,
    apart.caller⟩

/-- Interrupts 42 and 43 share words of the frame and of the bitmap: handlers for the two, one of
    them on a given core, are granted in either order, with the same kernel in the end. -/
theorem shared_words_in_any_order :
    ∃ (k : Kernel Distributor Space) (t t' : Turn),
      t.form = .forCore ∧ t'.form = .withTrigger ∧ t.dest? k = some ⟨0, 1⟩
        ∧ t'.dest? k = some ⟨0, 2⟩ ∧ (t.take (t'.take k).2).1 = .ok 0
        ∧ (t'.take (t.take k).2).1 = .ok 0
        ∧ (t'.take (t.take k).2).2.space = (t.take (t'.take k).2).2.space
        ∧ (t'.take (t.take k).2).2.registry = (t.take (t'.take k).2).2.registry
        ∧ (t'.take (t.take k).2).2.controller = (t.take (t'.take k).2).2.controller := by
  let root : CNode := ⟨0, 2, .none⟩
  let k : Kernel Distributor Space := ⟨⟨.smp, 2, by decide, by decide, fun _ => rfl⟩,
    ⟨.zero, .full⟩, .empty, ⟨#[#[⟨.cnode root, none⟩, .empty, .empty, ⟨.irqControl .none, none⟩]]⟩,
    .runningOn 0⟩
  let t : Turn := ⟨.runningOn 0, .none, .forCore,
    ⟨.ofCounts 3 1 5, [42, 1, 1, 2, 1], [.cnode root], ⟨0, 3⟩⟩, by decide⟩
  let t' : Turn := ⟨.runningOn 1, .none, .withTrigger,
    ⟨.ofCounts 2 1 4, [43, 1, 2, 2], [.cnode root], ⟨0, 3⟩⟩, by decide⟩
  let req : HandlerRequest := ⟨⟨42, 1⟩, some .edge, some 1, ⟨.cnode root, 1, 2⟩⟩
  let req' : HandlerRequest := ⟨⟨43, 0⟩, some .edge, none, ⟨.cnode root, 2, 2⟩⟩
  have hlookup : k.space.lookup (.cnode root) 1 2 = .ok ⟨0, 1⟩ := by cbv
  have hlookup' : k.space.lookup (.cnode root) 2 2 = .ok ⟨0, 2⟩ := by cbv
  have h : t.granted k = .ok (req, ⟨0, 1⟩) :=
    granted_eq_ok.2 ⟨rfl, handlerSlot_eq_ok.2 ⟨Registry.isActive_empty req.id, hlookup, rfl⟩⟩
  have h' : t'.granted k = .ok (req', ⟨0, 2⟩) :=
    granted_eq_ok.2 ⟨rfl, handlerSlot_eq_ok.2 ⟨Registry.isActive_empty req'.id, hlookup', rfl⟩⟩
  have hok : (t.take k).1 = .ok 0 := by rw [answer_take (by decide) (by decide), h]
  have hok' : (t'.take k).1 = .ok 0 := by rw [answer_take (by decide) (by decide), h']
  have hdest : ∀ ref, t.dest? k = some ref → t'.dest? k ≠ some ref := by
    rw [dest?_of_granted h, dest?_of_granted h']
    rintro ref ⟨⟩
    decide
  obtain ⟨hresult, hresult', hspace, hregistry, hcontroller, -, -⟩ :=
    handlers_issued_in_any_order (by decide) (by decide) (by decide) (by decide) hdest
  exact ⟨k, t, t', rfl, rfl, dest?_of_granted h, dest?_of_granted h', hresult.trans hok,
    hresult'.trans hok', hspace, hregistry, hcontroller⟩

end Turn

end Kernel

end InterruptCaps
