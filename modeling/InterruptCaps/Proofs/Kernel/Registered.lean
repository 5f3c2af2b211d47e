import InterruptCaps.Proofs.Kernel.Run
import InterruptCaps.Proofs.Kernel.Success

/-! Whether an issued handler is registered. Messages are checked against the greatest number that
    the platform states, the registry goes by the lines that there are, and issuing a handler does
    not ask whether its line could be registered. Where the platform states a number above the last
    line, as a board may, the numbers between are issued and never registered, as often as they are
    asked for.

    Main statement: the handler that an invocation has issued is registered, and a second request
    for it is turned down, exactly if its number is not above the last line. -/

namespace InterruptCaps

/-- An interrupt that has just been activated is active, if it has a line. -/
theorem Registry.isActive_activate (r : Registry) (id : IrqId) :
    (r.activate id).2.isActive id = id.line?.isSome := by
  cases hline : id.line? with
  | none => rw [isActive, hline, Option.any_none, Option.isSome_none]
  | some n =>
    refine isActive_eq_true.2 ⟨n, hline, ?_⟩
    rw [lines_activate hline]
    exact Finset.mem_insert_self n _

/-- A message for the same handler: operation, interrupt and core are as before and no word is
    missing, but trigger and destination may be others. -/
structure Invocation.Again (inv inv' : Invocation) : Prop where
  label : inv'.label = inv.label
  root : (inv'.extraCap? 0).isSome
  words : inv.length ≤ inv'.length
  irq : inv'.arg 0 = inv.arg 0
  core : inv.label = Label.issueCoreHandler.toWord → inv'.arg 4 = inv.arg 4

theorem Invocation.Again.exists_destRoot {inv inv' : Invocation} (h : inv.Again inv') {least : Nat}
    {root : Cap} (hroot : inv.destRoot least = .ok root) :
    ∃ root', inv'.destRoot least = .ok root' := by
  rw [destRoot_eq] at hroot
  split at hroot
  · rename_i hpassed
    have hwords : least ≤ inv.length := of_decide_eq_true (Bool.and_eq_true_iff.1 hpassed).2
    refine ⟨(inv'.extraCap? 0).getD .null, ?_⟩
    rw [destRoot_eq, h.root, if_pos (by simpa using Nat.le_trans hwords h.words)]
  · cases hroot

namespace Kernel

variable {C S : Type} [Controller C]

/-- A message that asks again asks for the same handler. -/
theorem Asks.again {k k' : Kernel C S} {inv inv' : Invocation} {req : HandlerRequest}
    (asks : k.Asks inv req) (h : inv.Again inv') (hconfig : k'.config = k.config)
    (hplatform : k'.platform = k.platform) (hcore : k'.caller.core = k.caller.core) :
    ∃ req', k'.Asks inv' req' ∧ req'.id = req.id := by
  cases asks with
  | plain label checked =>
    obtain ⟨root, hroot, hirq, hprivate, rfl⟩ := HandlerRequest.plain_eq_ok.1 checked
    obtain ⟨root', hroot'⟩ := h.exists_destRoot hroot
    rw [← h.irq] at hirq hprivate ⊢
    rw [← h.label] at label
    rw [← hconfig] at hprivate
    rw [← hplatform] at hirq
    exact ⟨_, .plain label (HandlerRequest.plain_eq_ok.2 ⟨root', hroot', hirq, hprivate, rfl⟩),
      congrArg (IrqId.mk _) hcore⟩
  | withTrigger label checked =>
    obtain ⟨root, hroot, htrigger, hirq, hprivate, rfl⟩ :=
      HandlerRequest.withTrigger_eq_ok.1 checked
    obtain ⟨root', hroot'⟩ := h.exists_destRoot hroot
    rw [← h.irq] at hirq hprivate ⊢
    rw [← h.label] at label
    rw [← hconfig] at hprivate
    rw [← hplatform] at htrigger hirq
    exact ⟨_, .withTrigger label
      (HandlerRequest.withTrigger_eq_ok.2 ⟨root', hroot', htrigger, hirq, hprivate, rfl⟩), rfl⟩
  | forCore label smp checked =>
    obtain ⟨root, hroot, htrigger, hirq, hnode, hinterface, rfl⟩ :=
      HandlerRequest.forCore_eq_ok.1 checked
    obtain ⟨root', hroot'⟩ := h.exists_destRoot hroot
    rw [← h.irq, ← h.core (Label.ofWord?_eq_some.1 label)] at *
    rw [← h.label] at label
    rw [← hconfig] at hnode smp
    rw [← hplatform] at htrigger hirq hinterface
    exact ⟨_, .forCore label smp (HandlerRequest.forCore_eq_ok.2
      ⟨root', hroot', htrigger, hirq, hnode, hinterface, rfl⟩), rfl⟩

variable {k : Kernel C S} {inv : Invocation} {req : HandlerRequest}

/-- The form of a request is that of its label. -/
theorem Asks.eq_request {form : HandlerForm} (asks : k.Asks inv req)
    (hlabel : inv.label = form.label.toWord) : req = form.request k.caller.core inv := by
  obtain ⟨form', hlabel', rfl⟩ := asks.form
  have hsame : some form'.label = some form.label :=
    (Label.ofWord?_eq_some.2 hlabel').symm.trans (Label.ofWord?_eq_some.2 hlabel)
  cases form' <;> cases form <;> first | rfl | cases hsame

/-- An interrupt that is asked for has a line if its number has. -/
theorem Asks.isSome_line?_iff (asks : k.Asks inv req)
    (hcaller : k.caller.core < k.config.nodes) :
    req.id.line?.isSome = true ↔ req.id.irq ≤ maxLine := by
  rw [IrqId.isSome_line?, and_iff_left_iff_imp]
  exact fun _ _ => asks.core_lt (Nat.lt_of_lt_of_le hcaller k.config.nodes_le)

variable [SlotStore S]

/-- A handler that is asked for is turned down as already active exactly if it is. -/
theorem Asks.invoke_alreadyActive_iff (asks : k.Asks inv req) (badge : Badge) :
    k.invoke (.irqControl badge) inv = k.reject (.alreadyActive req.id)
      ↔ k.registry.isActive req.id = true := by
  rw [asks.invoke_eq, issueHandler, handlerSlot]
  cases k.registry.isActive req.id with
  | true => simp only [if_true]
  | false =>
    simp only [Bool.false_eq_true, if_false, iff_false]
    intro h
    have hresult := congrArg Prod.fst h
    rw [emptySlot] at hresult
    cases hlookup : SlotStore.lookup k.space req.dest.root req.dest.index req.dest.depth with
    | error e => simp [hlookup, reject] at hresult
    | ok dest =>
      cases hempty : SlotStore.ensureEmpty k.space dest with
      | error e => simp [hlookup, hempty, reject] at hresult
      | ok u =>
        simp only [hlookup, hempty, grantHandler] at hresult
        split at hresult
        · rename_i e c _
          cases e <;> cases hresult
        · split at hresult <;> cases hresult

/-- An invocation that issues a handler fills one slot with it. The handler is registered, and
    whoever asks for it again is turned down, exactly if its number is not above the last line,
    whatever number the platform states as its greatest. -/
theorem issued_registered_iff [SteadyController C] {k : Kernel C Space} {inv : Invocation}
    {badge : Badge} {form : HandlerForm} {v : Int} (hcaller : k.caller.core < k.config.nodes)
    (hlabel : inv.label = form.label.toWord) (h : (k.invoke (.irqControl badge) inv).1 = .ok v) :
    let req := form.request k.caller.core inv
    let k' := (k.invoke (.irqControl badge) inv).2
    req.id.irq ≤ k.platform.maxIrq
      ∧ (∃ dest, k.space.Filled k'.space dest ⟨.irqHandler req.id req.trigger, some inv.source⟩)
      ∧ (k'.registry.isActive req.id = true ↔ req.id.irq ≤ maxLine)
      ∧ ∀ badge' inv', inv.Again inv' →
        (k'.invoke (.irqControl badge') inv' = k'.reject (.alreadyActive req.id)
          ↔ req.id.irq ≤ maxLine) := by
  intro req
  have effect := invoke_effect k (.irqControl badge) inv
  have hconfig := effect.config
  have hplatform := effect.platform
  have hword := Label.ofWord?_eq_some.2 hlabel
  dsimp only
  generalize k.invoke (.irqControl badge) inv = out at *
  cases effect with
  | rejected | unprogrammed | unstored | signalUnstored | unowned | unrouted => cases h
  | signalIssued single asks slot insert label
  | retargeted multikernel asks owns interface setTarget label =>
    rw [hword] at label
    cases form <;> cases label
  | issued asks slot program insert =>
    obtain rfl := asks.eq_request hlabel
    have hactive :
        (k.registry.activate req.id).2.isActive req.id = true ↔ req.id.irq ≤ maxLine := by
      rw [Registry.isActive_activate]
      exact asks.isSome_line?_iff hcaller
    refine ⟨asks.irq_le, ⟨_, Space.filled_of_insert insert⟩, hactive, fun badge' inv' again => ?_⟩
    obtain ⟨req', asks', hid⟩ := asks.again again hconfig hplatform rfl
    have hagain := asks'.invoke_alreadyActive_iff badge'
    rw [hid] at hagain
    exact hagain.trans hactive

/-- The board states 1023 as its greatest number. Interrupt 1019 has the last line: its handler is
    registered, and a second request for it is turned down. -/
theorem last_line_registered :
    ∃ (k : Kernel Distributor Space) (inv inv' : Invocation),
      k.platform.maxIrq = 1023 ∧ k.caller.core < k.config.nodes
        ∧ inv.label = HandlerForm.plain.label.toWord ∧ inv.Again inv'
        ∧ (k.invoke (.irqControl .none) inv).1 = .ok 0
        ∧ (k.invoke (.irqControl .none) inv).2.registry.isActive ⟨1019, 0⟩ = true
        ∧ ((k.invoke (.irqControl .none) inv).2.invoke (.irqControl .none) inv').1
          = .error (.rejected (.alreadyActive ⟨1019, 0⟩)) := by
  let root : CNode := ⟨0, 2, .none⟩
  let k : Kernel Distributor Space := ⟨.uniprocessor, ⟨.zero, ⟨1023, true, 1⟩⟩, .empty,
    ⟨#[#[⟨.cnode root, none⟩, .empty, .empty, ⟨.irqControl .none, none⟩]]⟩, .runningOn 0⟩
  let inv : Invocation := ⟨.ofCounts 1 1 3, [1019, 1, 2], [.cnode root], ⟨0, 3⟩⟩
  let inv' : Invocation := ⟨.ofCounts 1 1 3, [1019, 2, 2], [.cnode root], ⟨0, 3⟩⟩
  let req : HandlerRequest := ⟨⟨1019, 0⟩, none, none, ⟨.cnode root, 1, 2⟩⟩
  have hlookup : k.space.lookup (.cnode root) 1 2 = .ok ⟨0, 1⟩ := by cbv
  have hslot : k.handlerSlot req = .ok ⟨0, 1⟩ :=
    handlerSlot_eq_ok.2 ⟨Registry.isActive_empty req.id, hlookup, rfl⟩
  have asks : k.Asks inv req := .plain (by decide) rfl
  have hlabel : inv.label = HandlerForm.plain.label.toWord := by decide
  have hok : (k.invoke (.irqControl .none) inv).1 = .ok 0 :=
    congrArg Prod.fst (asks.invoke_unwired rfl rfl (by decide) hslot .none)
  have again : inv.Again inv' := ⟨rfl, rfl, by decide, rfl, fun _ => rfl⟩
  obtain ⟨-, -, hactive, hagain⟩ := issued_registered_iff (by decide) hlabel hok
  refine ⟨k, inv, inv', rfl, by decide, hlabel, again, hok, hactive.2 (by decide), ?_⟩
  exact congrArg Prod.fst ((hagain .none inv' again).2 (by decide))

/-- On the same board interrupt 1020 has no line: its handler is never registered, and a second
    request for it is granted. -/
theorem number_without_line_issued_twice :
    ∃ (k : Kernel Distributor Space) (inv inv' : Invocation),
      k.Fresh ∧ k.caller.core < k.config.nodes ∧ inv.label = HandlerForm.plain.label.toWord
        ∧ inv.Again inv' ∧ (k.invoke (.irqControl .none) inv).1 = .ok 0
        ∧ (k.invoke (.irqControl .none) inv).2.registry.isActive ⟨1020, 0⟩ = false
        ∧ ((k.invoke (.irqControl .none) inv).2.invoke (.irqControl .none) inv').1 = .ok 0
        ∧ ∀ index, index = 1 ∨ index = 2 →
          ((k.invoke (.irqControl .none) inv).2.invoke (.irqControl .none) inv').2.space.handler?
            ⟨0, index⟩ = some (⟨1020, 0⟩, none) := by
  let root : CNode := ⟨0, 2, .none⟩
  let k : Kernel Distributor Space := ⟨.uniprocessor, ⟨.zero, ⟨1023, true, 1⟩⟩, .empty,
    ⟨#[#[⟨.cnode root, none⟩, .empty, .empty, ⟨.irqControl .none, none⟩]]⟩, .runningOn 0⟩
  let inv : Invocation := ⟨.ofCounts 1 1 3, [1020, 1, 2], [.cnode root], ⟨0, 3⟩⟩
  let inv' : Invocation := ⟨.ofCounts 1 1 3, [1020, 2, 2], [.cnode root], ⟨0, 3⟩⟩
  let req : HandlerRequest := ⟨⟨1020, 0⟩, none, none, ⟨.cnode root, 1, 2⟩⟩
  let req' : HandlerRequest := ⟨⟨1020, 0⟩, none, none, ⟨.cnode root, 2, 2⟩⟩
  let k' : Kernel Distributor Space := { k with
    space := ⟨#[#[⟨.cnode root, none⟩, ⟨.irqHandler ⟨1020, 0⟩ none, some ⟨0, 3⟩⟩, .empty,
      ⟨.irqControl .none, none⟩]]⟩
    caller := ⟨0, .restart⟩ }
  have hfresh : k.Fresh := ⟨⟨2, .none, root, rfl⟩, rfl⟩
  have hslot : k.handlerSlot req = .ok ⟨0, 1⟩ := by
    have hlookup : k.space.lookup (.cnode root) 1 2 = .ok ⟨0, 1⟩ := by cbv
    exact handlerSlot_eq_ok.2 ⟨Registry.isActive_empty req.id, hlookup, rfl⟩
  have hslot' : k'.handlerSlot req' = .ok ⟨0, 2⟩ := by
    have hlookup : k'.space.lookup (.cnode root) 2 2 = .ok ⟨0, 2⟩ := by cbv
    exact handlerSlot_eq_ok.2 ⟨Registry.isActive_empty req'.id, hlookup, rfl⟩
  have asks : k.Asks inv req := .plain (by decide) rfl
  have asks' : k'.Asks inv' req' := .plain (by decide) rfl
  have hfirst : k.invoke (.irqControl .none) inv = (.ok 0, k') :=
    asks.invoke_unwired rfl rfl (by decide) hslot .none
  have hsecond := asks'.invoke_unwired rfl rfl (by decide) hslot' .none
  refine ⟨k, inv, inv', hfresh, by decide, by decide, ⟨rfl, rfl, by decide, rfl, fun _ => rfl⟩, ?_⟩
  rw [hfirst, hsecond]
  refine ⟨rfl, Registry.isActive_empty _, rfl, ?_⟩
  rintro index (rfl | rfl) <;> rfl

end Kernel

end InterruptCaps
