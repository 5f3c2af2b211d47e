import InterruptCaps.Proofs.Kernel.Checks
import InterruptCaps.Proofs.Message.Detail

/-! Failures that the caller is told of. A failure without an error is a call to the controller that
    does not come back. There is none over a distributor whose interrupts all have registers: each
    failure is an error, and the numbers that explain it are words. `Tells` says so of a result, of
    whatever kind its errors are. Its rules follow how results are put together, so each part of an
    invocation has one lemma.

    | part                       | can fail with                                |
    | -------------------------- | -------------------------------------------- |
    | words of the message       | bounds of the platform, indices              |
    | registry and destination   | what is wrong with the slot                  |
    | calls of the distributor   | refusals only, if registers are there        | -/

namespace InterruptCaps

/-! ### Results -/

/-- The caller learns of the failure, and the numbers that explain it are words. -/
def Failure.Told (f : Failure) : Prop := ∃ e, f.error? = some e ∧ ∀ n ∈ e.numbers, n < 2 ^ 64

/-- Whatever `x` can fail with is told; `fail` says how its errors count. -/
def Tells {ε α : Type} (fail : ε → Failure) (x : Except ε α) : Prop :=
  ∀ e, x = .error e → (fail e).Told

namespace Tells

variable {ε α β : Type} {fail : ε → Failure}

theorem ok (a : α) : Tells fail (.ok a) := nofun

theorem error {e : ε} (h : (fail e).Told) : Tells (α := α) fail (.error e) := by
  rintro _ ⟨⟩
  exact h

theorem bind {x : Except ε α} {f : α → Except ε β} (hx : Tells fail x)
    (hf : ∀ a, Tells fail (f a)) : Tells fail (x >>= f) := by
  cases x with
  | error e => exact error (hx e rfl)
  | ok a => exact hf a

theorem ite {p : Prop} [Decidable p] {x y : Except ε α} (hx : Tells fail x) (hy : Tells fail y) :
    Tells fail (if p then x else y) := by
  split
  · exact hx
  · exact hy

end Tells

/-- An error that no numbers explain is told. -/
theorem Failure.told_of_none {f : Failure} {e : InvocationError} (h : f.error? = some e)
    (hnone : e.numbers = []) : f.Told := by
  refine ⟨e, h, fun n hn => ?_⟩
  rw [hnone] at hn
  exact absurd hn List.not_mem_nil

theorem Rejection.told {r : Rejection} (h : ∀ n ∈ r.error.numbers, n < 2 ^ 64) :
    (Failure.rejected r).Told := ⟨_, rfl, h⟩

/-! ### The words of a message -/

section

variable {p : Platform} (hp : p.maxIrq < 2 ^ 64) (inv : Invocation)

include hp in
theorem Invocation.tells_irqArg : Tells .rejected (inv.irqArg p) := by
  rw [irqArg_eq]
  exact .ite (.ok _)
    (.error (Rejection.told (InvocationError.numbers_rangeError (by decide) hp)))

theorem Invocation.tells_destRoot (least : Nat) : Tells .rejected (inv.destRoot least) := by
  rw [destRoot_eq]
  exact .ite (.ok _) (.error (Failure.told_of_none rfl rfl))

theorem Platform.tells_needTrigger (p : Platform) : Tells .rejected p.needTrigger :=
  .ite (.ok _) (.error (Failure.told_of_none rfl rfl))

theorem Config.tells_allowWithoutCore (c : Config) (irq : Nat) :
    Tells .rejected (c.allowWithoutCore irq) :=
  .ite (.error (Failure.told_of_none rfl rfl)) (.ok _)

theorem Config.tells_coreOf (c : Config) (p : Platform) (word : UInt64) :
    Tells .rejected (c.coreOf p word) :=
  .ite (.ok _) (.error (Rejection.told (InvocationError.numbers_invalidArgument (by decide))))

include hp in
theorem HandlerRequest.tells_plain (c : Config) (core : Nat) :
    Tells .rejected (plain c p core inv) :=
  .bind (inv.tells_destRoot 3) fun _ => .bind (inv.tells_irqArg hp) fun irq =>
    .bind (c.tells_allowWithoutCore irq) fun _ => .ok _

include hp in
theorem HandlerRequest.tells_withTrigger (c : Config) :
    Tells .rejected (withTrigger c p inv) :=
  .bind (inv.tells_destRoot 4) fun _ => .bind p.tells_needTrigger fun _ =>
    .bind (inv.tells_irqArg hp) fun irq => .bind (c.tells_allowWithoutCore irq) fun _ => .ok _

include hp in
theorem HandlerRequest.tells_forCore (c : Config) : Tells .rejected (forCore c p inv) :=
  .bind (inv.tells_destRoot 5) fun _ => .bind p.tells_needTrigger fun _ =>
    .bind (inv.tells_irqArg hp) fun _ => .bind (c.tells_coreOf p _) fun _ => .ok _

theorem SignalRequest.tells_ofInvocation (p : Platform) :
    Tells .rejected (ofInvocation p inv) := by
  refine .bind (inv.tells_destRoot 4) fun _ => .ite (.error (Rejection.told ?_)) ?_
  · exact InvocationError.numbers_rangeError (by decide) (by decide)
  · refine .ite (.error (Rejection.told ?_)) (.ok _)
    exact InvocationError.numbers_invalidArgument (by decide)

include hp in
theorem Invocation.tells_retargetIrq : Tells .rejected (inv.retargetIrq p) := by
  refine .ite (.error (Failure.told_of_none rfl rfl)) ?_
  refine .bind (inv.tells_irqArg hp) fun irq => .ite (.error (Rejection.told ?_)) (.ok _)
  exact InvocationError.numbers_rangeError (by decide) hp

end

/-! ### The calls of a distributor -/

namespace Distributor

variable {d : Distributor} (hd : d.info.maxIrq < irqCapacity)

include hd in
theorem limit_lt : d.info.maxIrq < 2 ^ 64 :=
  Nat.lt_trans hd (by decide)

include hd in
theorem tells_checkRegister (irq : Nat) : Tells .ofCall (d.checkRegister irq) := by
  have hword := limit_lt hd
  rw [checkRegister]
  split
  · exact .error ⟨_, rfl, InvocationError.numbers_rangeError (by decide) hword⟩
  · -- the interrupt is within the limit, so it has a register
    rename_i hwithin
    rw [if_neg (by omega)]
    exact .ok _

include hd in
theorem tells_setTrigger (irq : Nat) (t : Trigger) : Tells .ofCall (d.setTrigger irq t).1 := by
  have htold := tells_checkRegister hd irq
  rw [setTrigger]
  cases hcheck : d.checkRegister irq with
  | error e => exact .error (htold e hcheck)
  | ok => exact .ok _

theorem tells_interfaceMask (core : Nat) : Tells .ofCall (d.interfaceMask core) := by
  rw [interfaceMask]
  split
  · exact .ite (.ok _) (.error (Failure.told_of_none rfl rfl))
  · exact .error (Failure.told_of_none rfl rfl)

include hd in
theorem tells_setTarget (irq core : Nat) : Tells .ofCall (d.setTarget irq core).1 := by
  have hmask := d.tells_interfaceMask core
  have hcheck := tells_checkRegister hd irq
  rw [setTarget]
  split
  · exact .error (Failure.told_of_none rfl rfl)
  · split
    · exact .error (hmask _ ‹_›)
    · split
      · exact .error (hcheck _ ‹_›)
      · exact .ok _

include hd in
theorem tells_program (irq : Nat) (trigger : Option Trigger) (route : Option Nat) :
    Tells .ofCall (Controller.program irq trigger route d).1 := by
  have hset : Tells .ofCall (trigger.elim (.ok (), d) (Controller.setTrigger irq · d)).1
      ∧ (trigger.elim (.ok (), d) (Controller.setTrigger irq · d)).2.info = d.info := by
    cases trigger with
    | none => exact ⟨.ok _, rfl⟩
    | some t =>
      exact ⟨tells_setTrigger hd irq t, SteadyController.platform_setTrigger irq t d⟩
  obtain ⟨htold, hinfo⟩ := hset
  rw [Controller.program]
  split <;> rename_i h <;> rw [h] at htold hinfo
  · exact .error (htold _ rfl)
  · cases route with
    | none => exact .ok _
    | some core => exact tells_setTarget (hinfo ▸ hd) irq core

include hd in
theorem tells_owns (irq : Nat) : Tells .ofCall (Controller.owns irq d).1 := by
  have htold := tells_checkRegister hd irq
  simp only [Controller.owns, Controller.selfTarget, Controller.getTarget, getTarget]
  cases hcheck : d.checkRegister irq with
  | error e => exact .error (htold e hcheck)
  | ok => exact .ok _

end Distributor

/-! ### The invocation -/

namespace Kernel

variable {S : Type} [SlotStore S] {k : Kernel Distributor S}
  (hk : k.platform.maxIrq < Distributor.irqCapacity) (inv : Invocation)

/-- A destination that is not fit is told. -/
theorem tells_emptySlot (space : S) (dest : Destination) {missing unfit : SlotError → Rejection}
    (hmissing : ∀ e, (missing e).error = .ofSlot e) (hunfit : ∀ e, (unfit e).error = .ofSlot e) :
    Tells .rejected (emptySlot space dest missing unfit) := by
  rw [emptySlot]
  split
  · exact .error (Rejection.told (hmissing _ ▸ InvocationError.numbers_ofSlot _))
  · split
    · exact .error (Rejection.told (hunfit _ ▸ InvocationError.numbers_ofSlot _))
    · exact .ok _

theorem tells_handlerSlot (k : Kernel Distributor S) (req : HandlerRequest) :
    Tells .rejected (k.handlerSlot req) :=
  .ite (.error (Failure.told_of_none rfl rfl))
    (tells_emptySlot k.space req.dest (fun _ => rfl) fun _ => rfl)

include hk in
theorem tells_issueHandler {req : Except Rejection HandlerRequest} (hreq : Tells .rejected req)
    (source : SlotRef) : Tells id (k.issueHandler req source).1 := by
  cases req with
  | error r => exact .error (hreq r rfl)
  | ok req =>
    have hprogram := Distributor.tells_program hk req.id.irq req.trigger req.route
    simp only [issueHandler]
    split
    · exact .error (k.tells_handlerSlot req _ ‹_›)
    · simp only [grantHandler]
      split <;> rename_i h <;> rw [h] at hprogram
      · exact .error (hprogram _ rfl)
      · split
        · exact .error ⟨_, rfl, InvocationError.numbers_ofSlot _⟩
        · exact .ok _

theorem tells_issueSignal (k : Kernel Distributor S) {req : Except Rejection SignalRequest}
    (hreq : Tells .rejected req) (source : SlotRef) : Tells id (k.issueSignal req source).1 := by
  cases req with
  | error r => exact .error (hreq r rfl)
  | ok req =>
    have hslot : Tells .rejected (emptySlot k.space req.dest .noSignalSlot .signalSlotUnfit) :=
      tells_emptySlot k.space req.dest (fun _ => rfl) fun _ => rfl
    simp only [issueSignal]
    split
    · exact .error (hslot _ ‹_›)
    · split
      · exact .error ⟨_, rfl, InvocationError.numbers_ofSlot _⟩
      · exact .ok _

omit [SlotStore S] in
include hk in
theorem tells_retarget : Tells id (k.retarget inv).1 := by
  have hrequest := inv.tells_retargetIrq (Distributor.limit_lt hk)
  rw [retarget]
  split
  · exact .error (hrequest _ ‹_›)
  · rename_i irq _
    have howns := Distributor.tells_owns hk irq
    split <;> rename_i h <;> obtain rfl := Distributor.owns_state h <;> rw [h] at howns
    · exact .error (Failure.told_of_none rfl rfl)
    · exact .error (howns _ rfl)
    · exact .error (Failure.told_of_none rfl rfl)
    · split
      · have htarget : Tells .ofCall
            (Controller.setTarget irq (inv.arg 1).toNat k.controller).1 :=
          Distributor.tells_setTarget hk irq (inv.arg 1).toNat
        split <;> rename_i hset <;> rw [hset] at htarget
        · exact .error (htarget _ rfl)
        · exact .ok _
      · exact .error (Rejection.told (InvocationError.numbers_invalidArgument (by decide)))

include hk in
/-- Over a distributor whose interrupts all have registers, every failure is told. -/
theorem tells_invoke (cap : Cap) : Tells id (k.invoke cap inv).1 := by
  have hp := Distributor.limit_lt hk
  cases cap with
  | null => exact .error (Rejection.told (by decide))
  | cnode | irqHandler => exact .error (Failure.told_of_none rfl rfl)
  | sgiSignal => exact .ok _
  | irqControl badge =>
    rw [invoke, control]
    split
    · exact tells_issueHandler hk (HandlerRequest.tells_plain hp inv _ _) _
    · exact tells_issueHandler hk (HandlerRequest.tells_withTrigger hp inv _) _
    · exact tells_issueHandler hk (HandlerRequest.tells_forCore hp inv _) _
    · exact k.tells_issueSignal (SignalRequest.tells_ofInvocation inv _) _
    · exact tells_retarget hk inv
    · exact .error (Failure.told_of_none rfl rfl)
    · exact .error (Failure.told_of_none rfl rfl)

end Kernel

end InterruptCaps
