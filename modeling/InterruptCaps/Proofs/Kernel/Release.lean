import InterruptCaps.Proofs.Kernel.Registered
import InterruptCaps.Proofs.Space.Filling
import Mathlib.Logic.Relation

/-! Issuing a handler and finalising it are inverse to each other. Slot and line are each written
    twice, and the second write takes back the first: the slot was empty and had no parent, the line
    was free. In between the line is registered, whatever else happens, so nobody is granted
    another handler for it.

        issue ─────▶ …  other invocations  … ─────▶ finalise ─────▶ issue
             slot filled, line registered, no second handler

    The controller does not go back: a line stays programmed. -/

namespace InterruptCaps

/-! ### Slots and lines -/

namespace Space

/-- Empty slots have no parent. -/
def Bare (s : Space) : Prop :=
  ∀ ref slot, s.slot? ref = some slot → slot.cap = .null → slot.parent = none

/-- Of two writes to one place, the second stands. -/
theorem put_put (s : Space) (ref : SlotRef) (slot slot' : Slot) :
    (s.put ref slot).put ref slot' = s.put ref slot' := by
  refine congrArg mk (Array.ext_getElem? fun m => ?_)
  simp only [put, Array.getElem?_modify]
  split
  · cases s.nodes[m]? with
    | none => rfl
    | some node => simp
  · rfl

/-- To write what is there changes nothing. -/
theorem put_of_slot? {s : Space} {ref : SlotRef} {slot : Slot} (h : s.slot? ref = some slot) :
    s.put ref slot = s := by
  obtain ⟨node, hnode, hslot⟩ := Option.bind_eq_some_iff.1 h
  obtain ⟨hlt, rfl⟩ := Array.getElem?_eq_some_iff.1 hslot
  refine congrArg mk (Array.ext_getElem? fun m => ?_)
  rw [Array.getElem?_modify]
  split
  · subst m
    rw [hnode, Option.map_some, Array.setIfInBounds_def, dif_pos hlt, Array.set_getElem_self]
  · rfl

/-- At start-up nothing has a parent. -/
theorem bare_of_boot {s : Space} {radix : Nat} {guard : Guard} {root : CNode}
    (h : boot radix guard = .ok (root, s)) : s.Bare := by
  obtain ⟨-, -, hslots⟩ := boot_eq_ok h
  intro ref slot hslot _
  rw [hslots, Option.ite_none_right_eq_some, Option.some.injEq] at hslot
  obtain ⟨-, rfl⟩ := hslot
  rfl

/-- Deleting what was put into an empty slot without a parent takes it back. -/
theorem delete_of_insert {s s' : Space} {cap : Cap} {source dest : SlotRef} (hbare : s.Bare)
    (hcap : cap ≠ .null) (h : s.insert cap source dest = .ok s') :
    s'.delete dest = .ok (cap, s) := by
  obtain ⟨-, hempty, rfl⟩ := insert_eq_ok.1 h
  obtain ⟨⟨held, parent⟩, hold, rfl⟩ := ensureEmpty_eq_ok.1 hempty
  obtain rfl : parent = none := hbare dest _ hold rfl
  refine delete_eq_ok.2 ⟨⟨_, slot?_put_self (Option.isSome_of_eq_some hold) _⟩, hcap, ?_⟩
  rw [put_put]
  exact (put_of_slot? hold).symm

end Space

/-- The two name one line: they have the same number and, if each core has its own line, the same
    core. -/
def IrqId.SameLine (id id' : IrqId) : Prop :=
  id.irq = id'.irq ∧ (id.isPrivate = true → id.core = id'.core)

theorem IrqId.sameLine_iff {id id' : IrqId} {n : Nat} (h : id.line? = some n) :
    id.SameLine id' ↔ id'.line? = some n :=
  ⟨fun hsame => (line?_congr hsame.1 hsame.2).symm.trans h, line?_inj h⟩

/-- Deactivating takes back an activation. -/
theorem Registry.deactivate_activate {r : Registry} {id : IrqId} {n : Nat}
    (hn : id.line? = some n) (h : r.isActive id = false) :
    ((r.activate id).2.deactivate id).2 = r := by
  have hfree : r.holds n = false := by rwa [isActive, hn, Option.any_some] at h
  have hholds : ∀ m, ((r.activate id).2.deactivate id).2.holds m = r.holds m := by
    intro m
    rw [holds_deactivate hn, holds_activate hn]
    by_cases hm : n = m
    · subst hm
      simp [hfree]
    · simp [hm]
  have hheld : (r.activate id).2.holds n = true := by
    rw [holds_activate hn, decide_eq_true rfl, Bool.true_or]
  have hcount : ((r.activate id).2.deactivate id).2.count = r.count := by
    have hdown : ((r.activate id).2.deactivate id).2.count = (r.activate id).2.count - 1 := by
      rw [deactivate, hn]
      simp only [hheld, if_true]
    have hup : (r.activate id).2.count = r.count + 1 := by
      rw [activate, hn]
      simp [hfree]
    rw [hdown, hup, Nat.add_sub_cancel]
  obtain ⟨bits, count⟩ := r
  exact congrArg₂ Registry.mk (BitVec.eq_of_getLsbD_eq fun m _ => hholds m) hcount

/-! ### Programming again -/

/-- A controller that has programmed a line does so again, whatever it was asked for. -/
class RepeatableController (C : Type) [Controller C] : Prop extends SteadyController C where
  program_again {irq : Nat} {trigger : Option Trigger} {route : Option Nat} {c c' : C} :
    Controller.program irq trigger route c = (.ok (), c') →
      (Controller.program irq trigger route c').1 = .ok ()

namespace Distributor

/-! The answers of a distributor depend on its description only. -/

theorem setTrigger_fst_congr {d e : Distributor} (h : d.info = e.info) (irq : Nat) (t : Trigger) :
    (d.setTrigger irq t).1 = (e.setTrigger irq t).1 := by
  simp only [setTrigger, checkRegister, h]
  split <;> rfl

theorem setTarget_fst_congr {d e : Distributor} (h : d.info = e.info) (irq core : Nat) :
    (d.setTarget irq core).1 = (e.setTarget irq core).1 := by
  simp only [setTarget, interfaceMask, checkRegister, h]
  split
  · rfl
  · split
    · rfl
    · split <;> rfl

theorem program_fst_congr {d e : Distributor} (h : d.info = e.info) (irq : Nat)
    (trigger : Option Trigger) (route : Option Nat) :
    (Controller.program irq trigger route d).1 = (Controller.program irq trigger route e).1 := by
  have hset : (trigger.elim (.ok (), d) (Controller.setTrigger irq · d)).1
      = (trigger.elim (.ok (), e) (Controller.setTrigger irq · e)).1 := by
    cases trigger with
    | none => rfl
    | some t => exact setTrigger_fst_congr h irq t
  -- the second call finds the description that the first one found
  have hinfo : ∀ d : Distributor,
      (trigger.elim (.ok (), d) (Controller.setTrigger irq · d)).2.info = d.info := by
    intro d
    cases trigger with
    | none => rfl
    | some t => exact SteadyController.platform_setTrigger irq t d
  have hd := hinfo d
  have he := hinfo e
  rw [Controller.program, Controller.program]
  generalize trigger.elim (.ok (), d) (Controller.setTrigger irq · d) = first at hset hd
  generalize trigger.elim (.ok (), e) (Controller.setTrigger irq · e) = second at hset he
  obtain ⟨result, d₁⟩ := first
  obtain ⟨result', e₁⟩ := second
  obtain rfl : result = result' := hset
  cases result with
  | error e => rfl
  | ok _ =>
    cases route with
    | none => rfl
    | some core => exact setTarget_fst_congr (hd.trans (h.trans he.symm)) irq core

instance : RepeatableController Distributor where
  program_again {irq trigger route d d'} h := by
    have hinfo := Controller.platform_program irq trigger route d
    rw [h] at hinfo
    rw [program_fst_congr hinfo, h]

end Distributor

namespace Kernel

variable {C : Type} {k k' : Kernel C Space} {id : IrqId} {n : Nat}

/-! ### There and back -/

/-- Finalising what was issued last leaves slots and registry as they were before. -/
theorem finalise_of_insert (hbare : k.space.Bare) {trigger : Option Trigger}
    {source dest : SlotRef} {space : Space}
    (hinsert : k.space.insert (.irqHandler id trigger) source dest = .ok space)
    (hn : id.line? = some n) (hinactive : k.registry.isActive id = false)
    (hspace : k'.space = space) (hregistry : k'.registry = (k.registry.activate id).2) :
    k'.space.delete dest = .ok (.irqHandler id trigger, k.space)
      ∧ k'.finalise dest = .ok (.irqHandler id trigger,
        { k' with space := k.space, registry := k.registry }) := by
  have hdelete : k'.space.delete dest = .ok (.irqHandler id trigger, k.space) := by
    rw [hspace]
    exact Space.delete_of_insert hbare (by simp) hinsert
  refine ⟨hdelete, ?_⟩
  rw [finalise]
  simp only [hdelete, Cap.handled?, Option.elim_some, handlerDeleted, hregistry,
    Registry.deactivate_activate hn hinactive]

variable [Controller C]

/-! ### Until the line is free again -/

/-- What may happen while the handler of `id` is not finalised: invocations, any change of slots,
    and that the handler of another line is gone. -/
inductive Meanwhile (id : IrqId) : Kernel C Space → Kernel C Space → Prop where
  | invoke (k : Kernel C Space) (caller : Thread) (cap : Cap) (inv : Invocation) :
      Meanwhile id k ({ k with caller }.invoke cap inv).2
  | slots (k : Kernel C Space) (space : Space) : Meanwhile id k { k with space }
  | handlerDeleted (k : Kernel C Space) {id' : IrqId} (other : ¬ id.SameLine id') :
      Meanwhile id k (k.handlerDeleted id')

/-- An invocation registers lines and sets none free. -/
theorem lines_invoke (k : Kernel C Space) (cap : Cap) (inv : Invocation) :
    k.registry.lines ⊆ (k.invoke cap inv).2.registry.lines := by
  have effect := invoke_effect k cap inv
  generalize k.invoke cap inv = out at effect
  cases effect with
  | issued => exact fun n hn => Registry.mem_lines_activate.2 (.inr hn)
  | _ => exact Finset.Subset.refl _

/-- A registered line stays so, for as long as its own handler is not gone. -/
theorem Meanwhile.mem_lines (step : Meanwhile id k k') (hn : id.line? = some n)
    (h : n ∈ k.registry.lines) : n ∈ k'.registry.lines := by
  cases step with
  | invoke caller cap inv => exact lines_invoke { k with caller } cap inv h
  | slots => exact h
  | handlerDeleted other =>
    exact Registry.mem_lines_deactivate.2 ⟨mt (IrqId.sameLine_iff hn).2 other, h⟩

theorem mem_lines_meanwhile (run : Relation.ReflTransGen (Meanwhile id) k k')
    (hn : id.line? = some n) (h : n ∈ k.registry.lines) : n ∈ k'.registry.lines := by
  induction run with
  | refl => exact h
  | tail before step ih => exact step.mem_lines hn ih

/-- Nobody is granted a handler for a line that is registered. -/
theorem invoke_of_mem_lines {inv : Invocation} {form : HandlerForm}
    (hlabel : inv.label = form.label.toWord)
    (hn : (form.request k.caller.core inv).id.line? = some n) (h : n ∈ k.registry.lines)
    (badge : Badge) : ∃ r, k.invoke (.irqControl badge) inv = k.reject r := by
  rw [invoke, control_eq hlabel]
  split
  · rename_i henabled
    cases hask : form.ask k.config k.platform k.caller.core inv with
    | error r => exact ⟨r, rfl⟩
    | ok req =>
      have asks := asks_of_ask hlabel (by rintro rfl; simpa using henabled) hask
      obtain rfl := asks.eq_request hlabel
      have hactive := Registry.isActive_eq_true.2 ⟨n, hn, h⟩
      refine ⟨.alreadyActive (form.request k.caller.core inv).id, ?_⟩
      rw [issueHandler]
      simp only [handlerSlot, hactive, if_true]
  · exact ⟨_, rfl⟩

/-! ### Granted again -/

variable {inv : Invocation} {req : HandlerRequest} {dest : SlotRef}

/-- Who asks for a handler asks for the same one as long as the kernel has the same configuration,
    platform and core. -/
theorem Asks.congr (asks : k.Asks inv req) (hconfig : k'.config = k.config)
    (hplatform : k'.platform = k.platform) (hcore : k'.caller.core = k.caller.core) :
    k'.Asks inv req := by
  cases asks with
  | plain label checked => exact .plain label (by rwa [hconfig, hplatform, hcore])
  | withTrigger label checked => exact .withTrigger label (by rwa [hconfig, hplatform])
  | forCore label smp checked =>
    exact .forCore label (by rwa [hconfig]) (by rwa [hconfig, hplatform])

/-- An invocation in one of the three forms that succeeds has issued the handler of that form. -/
theorem issued_of_ok {badge : Badge} {form : HandlerForm} {v : Int}
    (hlabel : inv.label = form.label.toWord) (h : (k.invoke (.irqControl badge) inv).1 = .ok v) :
    let req := form.request k.caller.core inv
    ∃ dest c space, k.Asks inv req ∧ k.handlerSlot req = .ok dest
      ∧ Controller.program req.id.irq req.trigger req.route k.controller = (.ok (), c)
      ∧ k.space.insert (.irqHandler req.id req.trigger) inv.source dest = .ok space
      ∧ k.invoke (.irqControl badge) inv = succeed { k with
        controller := c, space, registry := (k.registry.activate req.id).2 } := by
  intro req
  have effect := invoke_effect k (.irqControl badge) inv
  have hword := Label.ofWord?_eq_some.2 hlabel
  generalize k.invoke (.irqControl badge) inv = out at effect h
  cases effect with
  | rejected | unprogrammed | unstored | signalUnstored | unowned | unrouted => cases h
  | signalIssued single asks slot insert label
  | retargeted multikernel asks owns interface setTarget label =>
    rw [hword] at label
    cases form <;> cases label
  | issued asks slot program insert =>
    obtain rfl := asks.eq_request hlabel
    exact ⟨_, _, _, asks, slot, program, insert, rfl⟩

/-- What was issued once is issued again to a kernel with the slots and the registry of before. -/
theorem Asks.invoke_again {c c' : C} {space : Space} (asks : k.Asks inv req)
    (slot : k.handlerSlot req = .ok dest)
    (program : Controller.program req.id.irq req.trigger req.route c = (.ok (), c'))
    (insert : k.space.insert (.irqHandler req.id req.trigger) inv.source dest = .ok space)
    (hplatform : Controller.platform c = k.platform) {t : Thread} (hcore : t.core = k.caller.core)
    (badge : Badge) :
    { k with controller := c, caller := t }.invoke (.irqControl badge) inv
      = succeed { k with
        controller := c', space, registry := (k.registry.activate req.id).2, caller := t } := by
  have asks' : { k with controller := c, caller := t }.Asks inv req :=
    asks.congr rfl hplatform hcore
  have slot' : { k with controller := c, caller := t }.handlerSlot req = .ok dest := slot
  rw [asks'.invoke_eq, issueHandler]
  simp only [slot', grantHandler, program, SlotStore.insert, insert]

/-- Finalising a handler right after it was issued gives the handler back, and leaves slots and
    registry as they were before; so the same invocation is granted again what it was granted, if
    the controller programs a line again that it has programmed, as a distributor does. Until the
    handler is gone, whatever else is invoked and whatever happens to the slots, nobody is granted
    a handler for its line. -/
theorem issued_handler_finalised {badge : Badge} {form : HandlerForm} {v : Int}
    (hm : k.platform.maxIrq ≤ maxLine) (hcaller : k.caller.core < maxNodes) (hbare : k.space.Bare)
    (hlabel : inv.label = form.label.toWord) (h : (k.invoke (.irqControl badge) inv).1 = .ok v) :
    let req := form.request k.caller.core inv
    let k' := (k.invoke (.irqControl badge) inv).2
    let undone := { k with controller := k'.controller, caller := k'.caller }
    (∃ dest, k.space.Filled k'.space dest ⟨.irqHandler req.id req.trigger, some inv.source⟩
        ∧ k'.space.delete dest = .ok (.irqHandler req.id req.trigger, k.space)
        ∧ k'.finalise dest = .ok (.irqHandler req.id req.trigger, undone))
      ∧ (RepeatableController C → (undone.invoke (.irqControl badge) inv).1 = .ok 0
        ∧ (undone.invoke (.irqControl badge) inv).2.space = k'.space
        ∧ (undone.invoke (.irqControl badge) inv).2.registry = k'.registry)
      ∧ ∀ k'', Relation.ReflTransGen (Meanwhile req.id) k' k'' →
        ∀ (caller : Thread) (badge' : Badge) (form' : HandlerForm) (inv' : Invocation),
          inv'.label = form'.label.toWord →
            req.id.SameLine (form'.request caller.core inv').id →
              ∃ r, { k'' with caller }.invoke (.irqControl badge') inv'
                = reject { k'' with caller } r := by
  intro req
  obtain ⟨dest, c, space, asks, slot, program, insert, hinvoke⟩ := issued_of_ok hlabel h
  obtain ⟨n, hn⟩ := asks.line hm hcaller
  obtain ⟨hinactive, -, -⟩ := handlerSlot_eq_ok.1 slot
  rw [hinvoke]
  -- back, there again, and what is between
  refine ⟨⟨dest, Space.filled_of_insert insert, ?_⟩, fun _ => ?_, ?_⟩
  · exact finalise_of_insert hbare insert hn hinactive rfl rfl
  · have hplatform := Controller.platform_program req.id.irq req.trigger req.route k.controller
    have hagain := RepeatableController.program_again program
    rw [program] at hplatform
    cases hprogram : Controller.program req.id.irq req.trigger req.route c with | mk result c' =>
    rw [hprogram] at hagain
    cases hagain
    have hrepeated := asks.invoke_again slot hprogram insert hplatform
      (t := k.caller.markRunnable) rfl badge
    refine ⟨congrArg Prod.fst hrepeated, ?_, ?_⟩
    · exact congrArg (·.2.space) hrepeated
    · exact congrArg (·.2.registry) hrepeated
  · intro k'' run caller badge' form' inv' hlabel' hsame
    have hline : n ∈ k''.registry.lines := by
      refine mem_lines_meanwhile run hn ?_
      exact Registry.mem_lines_activate.2 (.inl hn)
    exact invoke_of_mem_lines (k := { k'' with caller }) hlabel'
      ((IrqId.sameLine_iff hn).1 hsame) hline badge'

/-- A handler that is edge triggered is issued, asked for once more in vain, finalised, and issued
    again. -/
theorem edge_handler_issued_again :
    ∃ (k : Kernel Distributor Space) (inv : Invocation) (dest : SlotRef),
      (∃ root, Space.boot 2 .none = .ok (root, k.space)) ∧ k.platform.maxIrq ≤ maxLine
        ∧ k.caller.core < maxNodes ∧ inv.label = HandlerForm.withTrigger.label.toWord
        ∧ (k.invoke (.irqControl .none) inv).1 = .ok 0
        ∧ (∃ r, (k.invoke (.irqControl .none) inv).2.invoke (.irqControl .none) inv
          = (k.invoke (.irqControl .none) inv).2.reject r)
        ∧ ∃ undone, (k.invoke (.irqControl .none) inv).2.finalise dest
            = .ok (.irqHandler ⟨40, 0⟩ (some .edge), undone)
          ∧ undone.space = k.space ∧ undone.registry = k.registry
          ∧ (undone.invoke (.irqControl .none) inv).1 = .ok 0 := by
  let root : CNode := ⟨0, 2, .none⟩
  let k : Kernel Distributor Space := ⟨.uniprocessor, ⟨.zero, .full⟩, .empty,
    ⟨#[#[⟨.cnode root, none⟩, .empty, .empty, ⟨.irqControl .none, none⟩]]⟩, .runningOn 0⟩
  let inv : Invocation := ⟨.ofCounts 2 1 4, [40, 1, 1, 2], [.cnode root], ⟨0, 3⟩⟩
  let req : HandlerRequest := ⟨⟨40, 0⟩, some .edge, none, ⟨.cnode root, 1, 2⟩⟩
  have hlookup : k.space.lookup (.cnode root) 1 2 = .ok ⟨0, 1⟩ := by cbv
  have asks : k.Asks inv req := .withTrigger (by decide) rfl
  have hslot : k.handlerSlot req = .ok ⟨0, 1⟩ :=
    handlerSlot_eq_ok.2 ⟨Registry.isActive_empty req.id, hlookup, rfl⟩
  obtain ⟨d, hgranted, -, -⟩ := asks.invoke_succeeds (by decide) (by decide) hslot .none
  have hok : (k.invoke (.irqControl .none) inv).1 = .ok 0 := congrArg Prod.fst hgranted
  have hboot : Space.boot 2 .none = .ok (root, k.space) := rfl
  have hlabel : inv.label = HandlerForm.withTrigger.label.toWord := by decide
  have hreq : HandlerForm.withTrigger.request k.caller.core inv = req :=
    (asks.eq_request hlabel).symm
  obtain ⟨⟨dest, -, -, hfinalise⟩, hagain, hblocked⟩ :=
    issued_handler_finalised (by decide) (by decide) (Space.bare_of_boot hboot) hlabel hok
  obtain ⟨hrepeated, -, -⟩ := hagain inferInstance
  rw [hreq] at hfinalise
  refine ⟨k, inv, dest, ⟨root, hboot⟩, by decide, by decide, hlabel, hok, ?_, _, hfinalise, rfl,
    rfl, hrepeated⟩
  have hcaller : (k.invoke (.irqControl .none) inv).2.caller = ⟨0, .restart⟩ := by
    rw [hgranted]
    rfl
  obtain ⟨r, hr⟩ := hblocked _ .refl ⟨0, .restart⟩ .none .withTrigger inv hlabel ⟨rfl, fun _ => rfl⟩
  rw [← hcaller] at hr
  exact ⟨r, hr⟩

end Kernel

end InterruptCaps
