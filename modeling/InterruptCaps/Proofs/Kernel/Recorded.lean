import InterruptCaps.Gic.Distributor
import InterruptCaps.Proofs.Gic.Recorder
import InterruptCaps.Proofs.Kernel.Effect

/-! Slot before registry, whatever controller and store do. Any call of theirs may fail, also after
    others went well, so an invocation can fail with its line programmed already; it never fails
    with a capability stored or a line registered. To speak of the calls, the invocation is run
    once more over a controller that writes them down, and a simulation says that this is the
    same run. -/

namespace InterruptCaps.Kernel

/-! ### Kernels over related controllers -/

/-- The kernel over the image of its controller. -/
def map {D C S : Type} (f : D → C) (k : Kernel D S) : Kernel C S :=
  ⟨k.config, f k.controller, k.registry, k.space, k.caller⟩

section

variable {D C S : Type} {f : D → C}

theorem issueSignal_map [SlotStore S] (k : Kernel D S) (req : Except Rejection SignalRequest)
    (source : SlotRef) :
    (k.map f).issueSignal req source = (k.issueSignal req source).map id (map f) := by
  cases req with
  | error r => rfl
  | ok req =>
    simp only [issueSignal, show (k.map f).space = k.space from rfl]
    cases emptySlot k.space req.dest .noSignalSlot .signalSlotUnfit with
    | error r => rfl
    | ok dest =>
      simp only
      cases SlotStore.insert k.space (.sgiSignal req.sgi req.target) source dest <;> rfl

variable [Controller D] [Controller C]

theorem platform_map (hf : Simulation f) (k : Kernel D S) : (k.map f).platform = k.platform :=
  hf.platform k.controller

/-- A message asks for the same handler over both controllers. -/
theorem Asks.of_map (hf : Simulation f) {k : Kernel D S} {inv : Invocation} {req : HandlerRequest}
    (h : k.Asks inv req) : (k.map f).Asks inv req := by
  cases h with
  | plain label checked => exact .plain label (by rwa [platform_map hf])
  | withTrigger label checked => exact .withTrigger label (by rwa [platform_map hf])
  | forCore label smp checked => exact .forCore label smp (by rwa [platform_map hf])

theorem retarget_map (hf : Simulation f) (k : Kernel D S) (inv : Invocation) :
    (k.map f).retarget inv = (k.retarget inv).map id (map f) := by
  simp only [retarget, platform_map hf, show (k.map f).controller = f k.controller from rfl,
    hf.owns]
  cases inv.retargetIrq k.platform with
  | error r => rfl
  | ok irq =>
    simp only
    cases Controller.owns irq k.controller with | mk owned d =>
    cases owned with
    | error e => cases e <;> rfl
    | ok owned =>
      cases owned with
      | false => rfl
      | true =>
        simp only [Prod.map, id, hf.setTarget]
        split
        · cases Controller.setTarget irq (inv.arg 1).toNat d with | mk result d =>
          cases result <;> rfl
        · rfl

variable [SlotStore S]

theorem grantHandler_map (hf : Simulation f) (k : Kernel D S) (req : HandlerRequest)
    (source dest : SlotRef) :
    (k.map f).grantHandler req source dest = (k.grantHandler req source dest).map id (map f) := by
  simp only [grantHandler, map, hf.program]
  cases Controller.program req.id.irq req.trigger req.route k.controller with | mk result d =>
  cases result with
  | error e => rfl
  | ok _ =>
    simp only [Prod.map, id]
    cases SlotStore.insert k.space (.irqHandler req.id req.trigger) source dest <;> rfl

theorem issueHandler_map (hf : Simulation f) (k : Kernel D S)
    (req : Except Rejection HandlerRequest) (source : SlotRef) :
    (k.map f).issueHandler req source = (k.issueHandler req source).map id (map f) := by
  cases req with
  | error r => rfl
  | ok req =>
    simp only [issueHandler, show (k.map f).handlerSlot req = k.handlerSlot req from rfl]
    cases k.handlerSlot req with
    | error r => rfl
    | ok dest => exact grantHandler_map hf k req source dest

/-- Controllers that simulate each other cannot be told apart: an invocation has the same result
    over both, and leaves kernels that are related like those it began with. -/
theorem invoke_map (hf : Simulation f) (k : Kernel D S) (cap : Cap) (inv : Invocation) :
    (k.map f).invoke cap inv = (k.invoke cap inv).map id (map f) := by
  cases cap with
  | null | cnode node | irqHandler id trigger => rfl
  | sgiSignal sgi target =>
    simp only [invoke, succeed, map, hf.sendSgi]
    rfl
  | irqControl badge =>
    simp only [invoke, control, platform_map hf, show (k.map f).config = k.config from rfl,
      show (k.map f).caller = k.caller from rfl, issueHandler_map hf, issueSignal_map,
      retarget_map hf]
    split <;> rfl

end

/-! ### Calls of an invocation -/

variable {C S : Type} [Controller C] [SlotStore S]

/-- The calls that an invocation makes to change hardware. -/
def calls (k : Kernel C S) (cap : Cap) (inv : Invocation) : List Call :=
  ((k.map Recorder.fresh).invoke cap inv).2.controller.calls

/-- An invocation runs as if nobody wrote its calls down. -/
theorem invoke_eq_recorded (k : Kernel C S) (cap : Cap) (inv : Invocation) :
    k.invoke cap inv
      = ((k.map Recorder.fresh).invoke cap inv).map id (map Recorder.controller) :=
  invoke_map Recorder.simulation (k.map Recorder.fresh) cap inv

/-- A request for a handler has passed all checks: of its words, its line and its destination. -/
structure Considered (k : Kernel C S) (inv : Invocation) (req : HandlerRequest) (dest : SlotRef) :
    Prop where
  asks : k.Asks inv req
  inactive : k.registry.isActive req.id = false
  lookup : SlotStore.lookup k.space req.dest.root req.dest.index req.dest.depth = .ok dest
  empty : SlotStore.ensureEmpty k.space dest = .ok ()

/-- How an invocation can fail although `call` succeeded: it programmed the line of a handler that
    has passed all checks, and the target or the new capability was refused then. -/
inductive Late (k : Kernel C S) (cap : Cap) (inv : Invocation) (call : Call) : Failure → Prop where
  | target {req : HandlerRequest} {dest : SlotRef} {core : Nat} {e : CallFailure}
      (considered : k.Considered inv req dest) (line : call.line? = some req.id.irq)
      (refused : .setTarget req.id.irq core (.error e) ∈ k.calls cap inv) :
      Late k cap inv call (.ofCall e)
  | store {req : HandlerRequest} {dest : SlotRef} {e : SlotError}
      (considered : k.Considered inv req dest) (line : call.line? = some req.id.irq)
      (refused : SlotStore.insert k.space (.irqHandler req.id req.trigger) inv.source dest
        = .error e) :
      Late k cap inv call (.store e)

variable {k : Kernel C S} {inv : Invocation} {req : HandlerRequest}

/-- What is considered by the kernel that writes its calls down is considered. -/
theorem Asks.considered {dest : SlotRef} (asks : (k.map Recorder.fresh).Asks inv req)
    (slot : (k.map Recorder.fresh).handlerSlot req = .ok dest) : k.Considered inv req dest := by
  obtain ⟨hinactive, hlookup, hempty⟩ := handlerSlot_eq_ok.1 slot
  exact ⟨asks.of_map Recorder.simulation, hinactive, hlookup, hempty⟩

/-- An invocation that fails has called the controller, no more. -/
theorem Effect.unchanged {cap : Cap} {out : Outcome C S} (h : k.Effect inv cap out) {f : Failure}
    (failed : out.1 = .error f) : out.2 = { k with controller := out.2.controller } := by
  cases h with
  | issued | signalIssued | retargeted | sent => cases failed
  | _ => rfl

/-- The registry changes only if the store has taken a handler, and then it is entered. -/
theorem Effect.registered {cap : Cap} {out : Outcome C S} (h : k.Effect inv cap out)
    (changed : out.2.registry ≠ k.registry) : ∃ req dest, k.Considered inv req dest
      ∧ SlotStore.insert k.space (.irqHandler req.id req.trigger) inv.source dest = .ok out.2.space
      ∧ out.2.registry = (k.registry.activate req.id).2 := by
  cases h with
  | issued asks slot program insert =>
    obtain ⟨hinactive, hlookup, hempty⟩ := handlerSlot_eq_ok.1 slot
    exact ⟨_, _, ⟨asks, hinactive, hlookup, hempty⟩, insert, rfl⟩
  | _ => exact absurd rfl changed

/-- A failure after a call that succeeded is late. -/
theorem late_of_succeeded {cap : Cap} {f : Failure} (failed : (k.invoke cap inv).1 = .error f)
    {call : Call} (made : call ∈ k.calls cap inv) (succeeded : call.Succeeded) :
    k.Late cap inv call f := by
  have effect := invoke_effect (k.map Recorder.fresh) cap inv
  have hcalls : ((k.map Recorder.fresh).invoke cap inv).2.controller.calls = k.calls cap inv := rfl
  rw [invoke_eq_recorded] at failed
  generalize (k.map Recorder.fresh).invoke cap inv = out at effect failed hcalls
  rw [← hcalls] at made
  cases effect with
  | issued | signalIssued | retargeted | sent => cases failed
  | rejected | signalUnstored => cases made
  | unprogrammed asks slot program =>
    cases failed
    obtain ⟨hline, htarget⟩ := Recorder.calls_program program made
    obtain ⟨core, hrefused⟩ := htarget _ rfl succeeded
    exact .target (asks.considered slot) hline (hcalls ▸ hrefused)
  | unstored asks slot program insert =>
    cases failed
    obtain ⟨hline, -⟩ := Recorder.calls_program program made
    exact .store (asks.considered slot) hline insert
  | unowned multikernel asks owns =>
    rw [Recorder.calls_owns owns] at made
    cases made
  | unrouted multikernel asks owns interface setTarget =>
    -- the only call is the one that failed
    rw [Recorder.calls_setTarget setTarget, Recorder.calls_owns owns] at made
    obtain rfl := List.mem_singleton.1 made
    cases succeeded

/-- Whatever its controller and its store do, an invocation that fails leaves configuration, store,
    registry and caller as they were, and if one of its calls succeeded, only the target or the
    capability of a handler that had passed all checks can have been refused. The registry changes
    only if the store has taken the handler. -/
theorem invoke_registers_last (k : Kernel C S) (cap : Cap) (inv : Invocation) :
    (∀ f, (k.invoke cap inv).1 = .error f →
      (k.invoke cap inv).2 = { k with controller := (k.invoke cap inv).2.controller }
        ∧ ∀ call ∈ k.calls cap inv, call.Succeeded → k.Late cap inv call f)
      ∧ ((k.invoke cap inv).2.registry ≠ k.registry → ∃ req dest,
        k.Considered inv req dest
          ∧ SlotStore.insert k.space (.irqHandler req.id req.trigger) inv.source dest
            = .ok (k.invoke cap inv).2.space
          ∧ (k.invoke cap inv).2.registry = (k.registry.activate req.id).2) :=
  ⟨fun _ failed => ⟨(invoke_effect k cap inv).unchanged failed,
    fun _ made succeeded => late_of_succeeded failed made succeeded⟩,
    (invoke_effect k cap inv).registered⟩

/-- The source slot is gone: the trigger of the line is set already when the store refuses the
    handler, and nothing is stored or registered. -/
theorem missing_source_fails_late :
    ∃ (k : Kernel Distributor Space) (inv : Invocation) (call : Call),
      k.space.slot? inv.source = none
        ∧ (k.invoke (.irqControl .none) inv).1 = .error (.store .objectNotFound)
        ∧ (k.invoke (.irqControl .none) inv).2.space = k.space
        ∧ (k.invoke (.irqControl .none) inv).2.registry = k.registry
        ∧ call = .setTrigger 40 .edge (.ok ()) ∧ call ∈ k.calls (.irqControl .none) inv
        ∧ k.Late (.irqControl .none) inv call (.store .objectNotFound) := by
  let root : CNode := ⟨0, 2, .none⟩
  let k : Kernel Distributor Space := ⟨.uniprocessor, ⟨.zero, .full⟩, .empty,
    ⟨#[#[⟨.cnode root, none⟩, .empty, .empty, .empty]]⟩, .runningOn 0⟩
  let inv : Invocation := ⟨.ofCounts 2 1 4, [40, 1, 1, 2], [.cnode root], ⟨1, 0⟩⟩
  let req : HandlerRequest := ⟨⟨40, 0⟩, some .edge, none, ⟨.cnode root, 1, 2⟩⟩
  have hlookup : k.space.lookup (.cnode root) 1 2 = .ok ⟨0, 1⟩ := by cbv
  have asks : k.Asks inv req := .withTrigger (by decide) rfl
  have hslot : k.handlerSlot req = .ok ⟨0, 1⟩ :=
    handlerSlot_eq_ok.2 ⟨Registry.isActive_empty req.id, hlookup, rfl⟩
  have hfailed : (k.invoke (.irqControl .none) inv).1 = .error (.store .objectNotFound) := by
    rw [asks.invoke_eq]
    simp only [issueHandler, hslot]
    rfl
  have hmade : .setTrigger 40 .edge (.ok ()) ∈ k.calls (.irqControl .none) inv := by
    have asks : (k.map Recorder.fresh).Asks inv req := .withTrigger (by decide) rfl
    have hslot : (k.map Recorder.fresh).handlerSlot req = .ok ⟨0, 1⟩ := hslot
    rw [calls, asks.invoke_eq]
    simp only [issueHandler, hslot]
    exact List.mem_singleton_self _
  obtain ⟨hunchanged, hlate⟩ := (invoke_registers_last k (.irqControl .none) inv).1 _ hfailed
  exact ⟨k, inv, _, rfl, hfailed, by rw [hunchanged], by rw [hunchanged], rfl, hmade,
    hlate _ hmade rfl⟩

end InterruptCaps.Kernel
