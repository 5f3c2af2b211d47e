import InterruptCaps.Proofs.Kernel.Failure

/-! Which check decides a request for a handler. The checks are written down as a list, each a
    condition on the message, the platform, the registry or the destination with the error of a
    message that does not meet it; the first that is not met decides.

    | check                    | plain | with trigger | per core | error                |
    | ------------------------ | ----- | ------------ | -------- | -------------------- |
    | operation exists         |       |              | SMP only | `illegalOperation`   |
    | words, destination node  | 3     | 4            | 5        | `truncatedMessage`   |
    | triggers can be set      |       | yes          | yes      | `illegalOperation`   |
    | interrupt within limit   | yes   | yes          | yes      | `rangeError`         |
    | not private on SMP       | yes   | yes          |          | `illegalOperation`   |
    | core is a node           |       |              | yes      | `invalidArgument 4`  |
    | line has no handler      | yes   | yes          | yes      | `revokeFirst`        |
    | destination found, empty | yes   | yes          | yes      | that of the slot     |

    Main statement: a request for a handler is answered by that list, for every message. -/

namespace InterruptCaps

/-- A condition that a message has to meet, and the error of one that does not. -/
structure Check where
  passed : Bool
  error : InvocationError
  deriving DecidableEq

/-- Checks made one after another: the first that is not passed gives its error, and `result` stands
    if there is none. -/
def verdict {α : Type} (checks : List Check) (result : α) : Except InvocationError α :=
  match checks.find? (!·.passed) with
  | some check => .error check.error
  | none => .ok result

@[simp] theorem verdict_nil {α : Type} (result : α) : verdict [] result = .ok result := rfl

theorem verdict_cons {α : Type} (check : Check) (checks : List Check) (result : α) :
    verdict (check :: checks) result
      = if check.passed then verdict checks result else .error check.error := by
  rw [verdict, List.find?_cons]
  cases check.passed <;> rfl

theorem verdict_append {α β : Type} (checks rest : List Check) (first : α) (result : β) :
    verdict (checks ++ rest) result = verdict checks first >>= fun _ => verdict rest result := by
  induction checks with
  | nil => rfl
  | cons check checks ih =>
    rw [List.cons_append, verdict_cons, verdict_cons, ih]
    cases check.passed <;> rfl

/-- The result stands exactly if all checks are passed. -/
theorem verdict_eq_ok {α : Type} {checks : List Check} {result a : α} :
    verdict checks result = .ok a ↔ (∀ check ∈ checks, check.passed = true) ∧ a = result := by
  induction checks with
  | nil =>
    rw [verdict_nil, Except.ok.injEq, eq_comm]
    simp
  | cons check checks ih =>
    rw [verdict_cons, List.forall_mem_cons]
    cases check.passed <;> simp [ih]

/-! ### Requests for a handler -/

/-- The three ways to ask for a handler. -/
inductive HandlerForm where | plain | withTrigger | forCore
  deriving DecidableEq

namespace HandlerForm

def label : HandlerForm → Label
  | plain => .issueHandler
  | withTrigger => .issueTriggerHandler
  | forCore => .issueCoreHandler

/-- How many words the message must have. -/
def words : HandlerForm → Nat
  | plain => 3
  | withTrigger => 4
  | forCore => 5

/-- The handler that the words of a message stand for, whether or not they pass their checks; the
    caller runs on `core`. -/
def request (form : HandlerForm) (core : Nat) (inv : Invocation) : HandlerRequest :=
  let irq := (inv.arg 0).toNat
  let root := (inv.extraCap? 0).getD .null
  match form with
  | plain => ⟨⟨irq, core⟩, none, none, ⟨root, inv.arg 1, inv.arg 2⟩⟩
  | withTrigger => ⟨⟨irq, 0⟩, some (.ofWord (inv.arg 1)), none, ⟨root, inv.arg 2, inv.arg 3⟩⟩
  | forCore =>
    ⟨⟨irq, (inv.arg 4).toNat⟩, some (.ofWord (inv.arg 1)),
      if irq < privateCount then none else some (inv.arg 4).toNat,
      ⟨root, inv.arg 2, inv.arg 3 % 256⟩⟩

/-- What the words of the message have to meet. -/
def messageChecks (form : HandlerForm) (c : Config) (p : Platform) (inv : Invocation) :
    List Check :=
  let irq := (inv.arg 0).toNat
  [⟨(inv.extraCap? 0).isSome && form.words ≤ inv.length, .truncatedMessage⟩,
    ⟨form = .plain || p.triggerSupport, .illegalOperation⟩,
    ⟨irq ≤ p.maxIrq, .rangeError 0 p.maxIrq⟩,
    ⟨form = .forCore || !(c.isSmp && irq < privateCount), .illegalOperation⟩,
    ⟨form ≠ .forCore || (inv.arg 4).toNat < c.nodes, .invalidArgument 4⟩]

end HandlerForm

/-- What a destination has to meet: the address leads to a slot, and the slot is empty. -/
def Space.destinationChecks (s : Space) (dest : Destination) : List Check :=
  match s.lookup dest.root dest.index dest.depth with
  | .error e => [⟨false, .ofSlot e⟩]
  | .ok ref =>
    match s.slot ref with
    | .error e => [⟨false, .ofSlot e⟩]
    | .ok slot => [⟨slot.isEmpty, .deleteFirst⟩]

/-- What a handler's line and destination have to meet. -/
def Kernel.lineChecks {C : Type} (k : Kernel C Space) (req : HandlerRequest) : List Check :=
  ⟨!k.registry.isActive req.id, .revokeFirst⟩ :: k.space.destinationChecks req.dest

/-- All that a request for a handler has to meet, in order. -/
def HandlerForm.checks {C : Type} [Controller C] (form : HandlerForm) (k : Kernel C Space)
    (inv : Invocation) : List Check :=
  ⟨form ≠ .forCore || k.config.isSmp, .illegalOperation⟩
    :: (form.messageChecks k.config k.platform inv
      ++ k.lineChecks (form.request k.caller.core inv))

/-! ### The words of the message -/

/-- A chain of checks is decided by its first check and, if that is passed, by the rest. -/
theorem mapError_bind {α β : Type} {x : Except Rejection α} {f : α → Except Rejection β}
    {check : Check} {checks : List Check} {a : α} {r : Rejection} {result : β}
    (first : x = if check.passed then .ok a else .error r) (error : r.error = check.error)
    (rest : (f a).mapError Rejection.error = verdict checks result) :
    (x >>= f).mapError Rejection.error = verdict (check :: checks) result := by
  rw [first, verdict_cons]
  split
  · exact rest
  · exact congrArg Except.error error

theorem verdict_of_passed {α : Type} {check : Check} (h : check.passed = true)
    (checks : List Check) (result : α) :
    verdict (check :: checks) result = verdict checks result := by
  rw [verdict_cons, if_pos h]

theorem Invocation.destRoot_eq (inv : Invocation) (least : Nat) :
    inv.destRoot least = if (inv.extraCap? 0).isSome && least ≤ inv.length
      then .ok ((inv.extraCap? 0).getD .null)
      else .error (.truncated inv.length inv.info.extraCaps.toNat) := by
  rw [destRoot]
  cases inv.extraCap? 0 with
  | none => rfl
  | some root => by_cases h : least ≤ inv.length <;> simp [h]

theorem Invocation.irqArg_eq (inv : Invocation) (p : Platform) :
    inv.irqArg p = if decide ((inv.arg 0).toNat ≤ p.maxIrq) then .ok (inv.arg 0).toNat
      else .error (.irqRefused (inv.arg 0) (.irqOutOfRange 0 p.maxIrq)) := by
  rw [irqArg, Platform.checkIrq]
  by_cases h : p.maxIrq < (inv.arg 0).toNat
  · simp [h, Nat.not_le.2 h]
  · simp [h, Nat.le_of_not_lt h]

theorem Config.allowWithoutCore_eq (c : Config) (irq : Nat) :
    c.allowWithoutCore irq = if !(c.isSmp && irq < privateCount)
      then .ok () else .error (.privateOnSmp irq) := by
  have hprivate : (IrqId.onBootCore irq).isPrivate = decide (irq < privateCount) := by
    rw [Bool.eq_iff_iff, IrqId.isPrivate_iff, decide_eq_true_iff]
    rfl
  rw [allowWithoutCore, hprivate]
  cases c.isSmp && decide (irq < privateCount) <;> rfl

/-- Where every node has an interface, the nodes are all that limits a core. -/
theorem Config.coreOf_eq {c : Config} {p : Platform} (h : c.checkPlatform p = .ok ())
    (word : UInt64) :
    c.coreOf p word = if decide (word.toNat < c.nodes) then .ok word.toNat
      else .error (.noSuchCore word) := by
  have hnodes : min c.nodes p.cpuInterfaces = c.nodes := by
    rw [checkPlatform] at h
    split at h
    · cases h
    · omega
  rw [coreOf, hnodes]
  simp only [decide_eq_true_iff]

namespace HandlerForm

/-- The handler that a message asks for, if its words pass their checks. -/
def ask (form : HandlerForm) (c : Config) (p : Platform) (core : Nat) (inv : Invocation) :
    Except Rejection HandlerRequest :=
  match form with
  | plain => HandlerRequest.plain c p core inv
  | withTrigger => HandlerRequest.withTrigger c p inv
  | forCore => HandlerRequest.forCore c p inv

/-- The words of the message are decided by their checks. -/
theorem mapError_ask (form : HandlerForm) {c : Config} {p : Platform}
    (hconfig : c.checkPlatform p = .ok ()) (core : Nat) (inv : Invocation) :
    (form.ask c p core inv).mapError Rejection.error
      = verdict (form.messageChecks c p inv) (form.request core inv) := by
  cases form with
  | plain =>
    refine mapError_bind (inv.destRoot_eq 3) rfl ?_
    rw [verdict_of_passed rfl]
    refine mapError_bind (inv.irqArg_eq p) rfl ?_
    refine mapError_bind (c.allowWithoutCore_eq _) rfl ?_
    rw [verdict_of_passed rfl]
    rfl
  | withTrigger =>
    refine mapError_bind (inv.destRoot_eq 4) rfl ?_
    refine mapError_bind (r := .noTriggerSupport) (a := ()) rfl rfl ?_
    refine mapError_bind (inv.irqArg_eq p) rfl ?_
    refine mapError_bind (c.allowWithoutCore_eq _) rfl ?_
    rw [verdict_of_passed rfl]
    rfl
  | forCore =>
    refine mapError_bind (inv.destRoot_eq 5) rfl ?_
    refine mapError_bind (r := .noTriggerSupport) (a := ()) rfl rfl ?_
    refine mapError_bind (inv.irqArg_eq p) rfl ?_
    rw [verdict_of_passed rfl]
    refine mapError_bind (Config.coreOf_eq hconfig _) rfl ?_
    simp only [IrqId.isPrivate_iff]
    rfl

end HandlerForm

namespace Kernel

/-! ### Registry and destination -/

theorem mapError_eq_ok {ε ε' α : Type} {f : ε → ε'} {x : Except ε α} {a : α} :
    x.mapError f = .ok a ↔ x = .ok a := by
  cases x <;> simp [Except.mapError]

variable {C : Type}

/-- A destination is decided by its checks, where a slot's error is passed on to the caller. -/
theorem verdict_destinationChecks {α : Type} (s : Space) (dest : Destination)
    (missing unfit : SlotError → Rejection) (hmissing : ∀ e, (missing e).error = .ofSlot e)
    (hunfit : ∀ e, (unfit e).error = .ofSlot e) (result : α) :
    verdict (s.destinationChecks dest) result
      = ((emptySlot s dest missing unfit).mapError Rejection.error).map fun _ => result := by
  simp only [emptySlot, Space.destinationChecks, SlotStore.lookup, SlotStore.ensureEmpty,
    Space.ensureEmpty]
  cases s.lookup dest.root dest.index dest.depth with
  | error e => exact congrArg Except.error (hmissing e).symm
  | ok ref =>
    cases hslot : s.slot ref with
    | error e =>
      simp only [hslot]
      exact congrArg Except.error (hunfit e).symm
    | ok slot =>
      simp only [hslot, verdict_cons]
      cases slot.isEmpty with
      | false => exact congrArg Except.error (hunfit .slotOccupied).symm
      | true => rfl

/-- Line and destination of a handler are decided by their checks. -/
theorem verdict_lineChecks {α : Type} (k : Kernel C Space) (req : HandlerRequest) (result : α) :
    verdict (k.lineChecks req) result
      = ((k.handlerSlot req).mapError Rejection.error).map fun _ => result := by
  rw [lineChecks, verdict_cons, handlerSlot]
  cases k.registry.isActive req.id with
  | true => rfl
  | false =>
    exact verdict_destinationChecks k.space req.dest (.noHandlerSlot req.id)
      (.handlerSlotUnfit req.id) (fun _ => rfl) (fun _ => rfl) result

variable [Controller C] {k : Kernel C Space} {inv : Invocation} {form : HandlerForm}

/-- A request for a handler is considered where its operation exists. -/
theorem control_eq (hlabel : inv.label = form.label.toWord) :
    k.control inv = if form ≠ .forCore || k.config.isSmp
      then k.issueHandler (form.ask k.config k.platform k.caller.core inv) inv.source
      else k.reject (.noSuchOperation inv.label k.config.topology) := by
  rw [control, hlabel, Label.ofWord?_toWord]
  cases form with
  | plain | withTrigger => rfl
  | forCore =>
    rw [HandlerForm.label, Option.filter_some, Config.enables]
    cases k.config.isSmp <;> rfl

theorem asks_of_ask {req : HandlerRequest} (hlabel : inv.label = form.label.toWord)
    (henabled : form = .forCore → k.config.isSmp = true)
    (h : form.ask k.config k.platform k.caller.core inv = .ok req) : k.Asks inv req := by
  have hword := Label.ofWord?_eq_some.2 hlabel
  cases form with
  | plain => exact .plain hword h
  | withTrigger => exact .withTrigger hword h
  | forCore => exact .forCore hword (henabled rfl) h

/-- A request for a handler is answered by its checks: the first that it does not pass gives the
    error, and it succeeds exactly if it passes all of them. -/
theorem handler_request_decided {k : Kernel Distributor Space} (form : HandlerForm)
    (hconfig : k.config.checkPlatform k.platform = .ok ()) (hm : k.platform.maxIrq ≤ maxLine)
    (hsource : (k.space.slot? inv.source).isSome) (hlabel : inv.label = form.label.toWord) :
    (k.control inv).1.mapError Failure.error? = (verdict (form.checks k inv) 0).mapError some
      ∧ ((k.control inv).1 = .ok 0 ↔ ∀ check ∈ form.checks k inv, check.passed = true) := by
  have decided : (k.control inv).1.mapError Failure.error?
      = (verdict (form.checks k inv) 0).mapError some := by
    rw [control_eq hlabel, HandlerForm.checks, verdict_cons]
    split
    · rename_i henabled
      rw [verdict_append _ _ (form.request k.caller.core inv),
        ← form.mapError_ask hconfig k.caller.core inv]
      cases hask : form.ask k.config k.platform k.caller.core inv with
      | error r => rfl
      | ok req =>
        have hreq := form.mapError_ask hconfig k.caller.core inv
        rw [hask] at hreq
        obtain ⟨-, rfl⟩ := verdict_eq_ok.1 hreq.symm
        show _ = (verdict (k.lineChecks _) 0).mapError some
        rw [verdict_lineChecks]
        cases hslot : k.handlerSlot (form.request k.caller.core inv) with
        | error r =>
          simp only [issueHandler, hslot]
          rfl
        | ok dest =>
          have asks := asks_of_ask hlabel (by rintro rfl; simpa using henabled) hask
          obtain ⟨d, hd, -, -⟩ := asks.invoke_succeeds hm hsource hslot .none
          rw [asks.invoke_eq] at hd
          rw [hd]
          rfl
    · rfl
  refine ⟨decided, ?_⟩
  rw [← mapError_eq_ok (f := Failure.error?), decided, mapError_eq_ok, verdict_eq_ok]
  simp

/-- A request with a core whose depth word is two above 256: the depth is two. -/
theorem handler_request_depth_low_bits :
    ∃ (k : Kernel Distributor Space) (inv : Invocation),
      k.config.checkPlatform k.platform = .ok () ∧ k.platform.maxIrq ≤ maxLine
        ∧ (k.space.slot? inv.source).isSome ∧ inv.label = HandlerForm.forCore.label.toWord
        ∧ inv.arg 3 = 258 ∧ (k.control inv).1 = .ok 0 := by
  let root : CNode := ⟨0, 2, .none⟩
  let k : Kernel Distributor Space := ⟨⟨.smp, 2, by decide, by decide, fun _ => rfl⟩,
    ⟨.zero, .full⟩, .empty, ⟨#[#[⟨.cnode root, none⟩, .empty, .empty, ⟨.irqControl .none, none⟩]]⟩,
    .runningOn 0⟩
  let inv : Invocation := ⟨.ofCounts 3 1 5, [40, 1, 1, 258, 1], [.cnode root], ⟨0, 3⟩⟩
  have hpassed : ∀ check ∈ HandlerForm.forCore.checks k inv, check.passed = true := by
    have hlookup : k.space.lookup (.cnode root) 1 2 = .ok ⟨0, 1⟩ := by cbv
    have hline : k.lineChecks (HandlerForm.forCore.request k.caller.core inv)
        = [⟨true, .revokeFirst⟩, ⟨true, .deleteFirst⟩] := by
      rw [lineChecks, Registry.isActive_empty, Space.destinationChecks,
        show (HandlerForm.forCore.request k.caller.core inv).dest = ⟨.cnode root, 1, 2⟩ by decide]
      simp only [hlookup]
      rfl
    rw [HandlerForm.checks, hline]
    decide
  refine ⟨k, inv, rfl, by decide, by decide, by decide, by decide, ?_⟩
  exact (handler_request_decided .forCore rfl (by decide) (by decide) (by decide)).2.2 hpassed

end Kernel

end InterruptCaps
