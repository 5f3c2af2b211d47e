import InterruptCaps.Proofs.Gic.Programming
import InterruptCaps.Proofs.Kernel.Effect

/-! An invocation that fails changes nothing. Over a distributor whose interrupts all have lines,
    and with a source slot that exists, nothing fails any more once something may have changed:
    what a message asks for can be programmed, and a fit destination takes the new capability. -/

namespace InterruptCaps

/-- A fit destination takes whatever comes from an existing slot. -/
theorem Space.exists_insert {s : Space} {source dest : SlotRef} (cap : Cap)
    (hsource : (s.slot? source).isSome) (hdest : s.ensureEmpty dest = .ok ()) :
    ∃ s', s.insert cap source dest = .ok s' :=
  ⟨_, insert_eq_ok.2 ⟨hsource, hdest, rfl⟩⟩

namespace Kernel

variable {k : Kernel Distributor Space} {cap : Cap} {inv : Invocation} {req : HandlerRequest}

/-- The line of a handler that is asked for can be programmed. -/
theorem Asks.routable (h : k.Asks inv req) {core : Nat} (hr : req.route = some core) :
    k.controller.Routable req.id.irq core := by
  obtain ⟨hshared, hnode, hinterface⟩ := h.route hr
  exact ⟨hshared, Nat.lt_of_lt_of_le hnode k.config.nodes_le, hinterface⟩

/-- A handler with a slot to go to is issued: its line is wired as asked for, and no other. -/
theorem Asks.invoke_succeeds {dest : SlotRef} (asks : k.Asks inv req)
    (hm : k.platform.maxIrq ≤ maxLine) (hsource : (k.space.slot? inv.source).isSome)
    (slot : k.handlerSlot req = .ok dest) (badge : Badge) :
    ∃ d, k.invoke (.irqControl badge) inv = succeed { k with
        controller := d
        space := k.space.put dest ⟨.irqHandler req.id req.trigger, some inv.source⟩
        registry := (k.registry.activate req.id).2 }
      ∧ (∀ irq, d.trigger irq = if req.id.irq = irq then
          req.trigger.getD (k.controller.trigger irq) else k.controller.trigger irq)
      ∧ ∀ irq, irq ≤ maxLine → d.target irq = if req.id.irq = irq then
          (req.route.map Distributor.single).getD (k.controller.target irq)
        else k.controller.target irq := by
  obtain ⟨d, hd, htrigger, htarget⟩ :=
    Distributor.program_eq_ok asks.irq_le hm req.trigger fun _ => asks.routable
  obtain ⟨-, -, hdest⟩ := handlerSlot_eq_ok.1 slot
  have hinsert : k.space.insert (.irqHandler req.id req.trigger) inv.source dest
      = .ok (k.space.put dest ⟨.irqHandler req.id req.trigger, some inv.source⟩) :=
    Space.insert_eq_ok.2 ⟨hsource, hdest, rfl⟩
  refine ⟨d, ?_, htrigger, htarget⟩
  rw [asks.invoke_eq, issueHandler]
  simp only [slot, grantHandler, hd, SlotStore.insert, hinsert]

/-- A handler that leaves its line as it is needs nothing but a slot to go to. -/
theorem Asks.invoke_unwired {C : Type} [Controller C] {k : Kernel C Space} {dest : SlotRef}
    (asks : k.Asks inv req) (htrigger : req.trigger = none) (hroute : req.route = none)
    (hsource : (k.space.slot? inv.source).isSome) (slot : k.handlerSlot req = .ok dest)
    (badge : Badge) :
    k.invoke (.irqControl badge) inv = succeed { k with
      space := k.space.put dest ⟨.irqHandler req.id none, some inv.source⟩
      registry := (k.registry.activate req.id).2 } := by
  obtain ⟨-, -, hdest⟩ := handlerSlot_eq_ok.1 slot
  have hinsert : k.space.insert (.irqHandler req.id none) inv.source dest
      = .ok (k.space.put dest ⟨.irqHandler req.id none, some inv.source⟩) :=
    Space.insert_eq_ok.2 ⟨hsource, hdest, rfl⟩
  have hprogram : Controller.program req.id.irq none none k.controller = (.ok (), k.controller) :=
    rfl
  rw [asks.invoke_eq, issueHandler]
  simp only [slot, grantHandler, htrigger, hroute, hprogram, SlotStore.insert, hinsert]

/-- An invocation that fails leaves configuration, controller, registry, slots and caller as they
    were. -/
theorem invoke_error_unchanged (hm : k.platform.maxIrq ≤ maxLine)
    (hsource : (k.space.slot? inv.source).isSome) {f : Failure}
    (h : (k.invoke cap inv).1 = .error f) : (k.invoke cap inv).2 = k := by
  have effect := invoke_effect k cap inv
  generalize k.invoke cap inv = out at effect h
  cases effect with
  | rejected => rfl
  | unprogrammed asks slot program =>
    obtain ⟨d, hd, -, -⟩ := Distributor.program_eq_ok asks.irq_le hm _ fun _ => asks.routable
    rw [hd] at program
    simp at program
  | unstored asks slot program insert =>
    obtain ⟨-, -, hdest⟩ := handlerSlot_eq_ok.1 slot
    obtain ⟨s, hs⟩ := Space.exists_insert (.irqHandler _ _) hsource hdest
    have := hs.symm.trans insert
    simp at this
  | issued => simp [succeed] at h
  | signalUnstored => rfl
  | signalIssued => simp [succeed] at h
  | unowned multikernel asks owns =>
    obtain rfl := Distributor.owns_state owns
    rfl
  | unrouted multikernel asks owns interface setTarget =>
    obtain rfl := Distributor.owns_state owns
    obtain rfl := Distributor.setTarget_error setTarget
    rfl
  | retargeted => simp [succeed] at h
  | sent => simp [succeed] at h

/-- A handler for a slot that is taken: the invocation fails, and the kernel is as before. -/
theorem occupied_destination_unchanged :
    ∃ (k : Kernel Distributor Space) (inv : Invocation),
      k.platform.maxIrq ≤ maxLine ∧ (k.space.slot? inv.source).isSome
        ∧ (k.invoke (.irqControl .none) inv).1
          = .error (.rejected (.handlerSlotUnfit ⟨40, 1⟩ .slotOccupied))
        ∧ (k.invoke (.irqControl .none) inv).2 = k := by
  let root : CNode := ⟨0, 1, .none⟩
  let k : Kernel Distributor Space := ⟨⟨.smp, 2, by decide, by decide, fun _ => rfl⟩,
    ⟨.zero, .full⟩, .empty, ⟨#[#[⟨.cnode root, none⟩, .empty]]⟩, .runningOn 0⟩
  let inv : Invocation := ⟨.ofCounts 3 1 5, [40, 1, 0, 1, 1], [.cnode root], ⟨0, 0⟩⟩
  have hslot : k.handlerSlot ⟨⟨40, 1⟩, some .edge, some 1, ⟨.cnode root, 0, 1⟩⟩
      = .error (.handlerSlotUnfit ⟨40, 1⟩ .slotOccupied) := by
    have hlookup : k.space.lookup (.cnode root) 0 1 = .ok ⟨0, 0⟩ := by cbv
    rw [handlerSlot, Registry.isActive_empty, emptySlot]
    simp only [SlotStore.lookup, hlookup]
    rfl
  have hfails : (k.invoke (.irqControl .none) inv).1
      = .error (.rejected (.handlerSlotUnfit ⟨40, 1⟩ .slotOccupied)) := by
    show (k.issueHandler (.ok ⟨⟨40, 1⟩, some .edge, some 1, ⟨.cnode root, 0, 1⟩⟩) inv.source).1 = _
    rw [issueHandler]
    simp only [hslot]
    rfl
  exact ⟨k, inv, by decide, by decide, hfails, invoke_error_unchanged (by decide) (by decide) hfails⟩

end Kernel

end InterruptCaps
