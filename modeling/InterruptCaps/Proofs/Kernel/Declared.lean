import InterruptCaps.Proofs.Kernel.Failure
import InterruptCaps.Proofs.Kernel.Run

/-! What a message says beyond what it declares is never read. A message declares how many words and
    how many extra capabilities it has; buffer and capability list may be shorter or longer. All
    that the kernel reads of a message is listed in `SameReads`, and what lies past the declared
    counts is not among it.

    | read of a message          | by                                    |
    | -------------------------- | ------------------------------------- |
    | label                      | the choice of the operation           |
    | declared counts            | the checks for truncated messages     |
    | words below the length     | all requests                          |
    | capability 0, if declared  | all requests with a destination       |
    | source slot                | all that is issued                    |

    Main statement: messages that agree on what they declare have the same answer and leave the
    same kernel, whatever else they hold. -/

namespace InterruptCaps

/-- Two messages that declare as much, and agree on it: a word that is missing from a buffer is
    zero there, a missing capability is null. -/
structure Invocation.Agrees (inv inv' : Invocation) : Prop where
  label : inv'.label = inv.label
  length : inv'.length = inv.length
  capCount : inv'.info.extraCaps = inv.info.extraCaps
  source : inv'.source = inv.source
  words : ∀ i, i < inv.length → argWord inv'.args i = argWord inv.args i
  caps : ∀ i, i < inv.info.extraCaps.toNat →
    inv'.extraCaps.getD i .null = inv.extraCaps.getD i .null

/-- Two messages of which the same is read. -/
structure Invocation.SameReads (inv inv' : Invocation) : Prop where
  label : inv'.label = inv.label
  length : inv'.length = inv.length
  capCount : inv'.info.extraCaps = inv.info.extraCaps
  source : inv'.source = inv.source
  arg : ∀ i, inv'.arg i = inv.arg i
  extraCap? : ∀ i, inv'.extraCap? i = inv.extraCap? i

/-- A capability that is there is one that is not null. -/
theorem filter_isNull_eq (caps : List Cap) (i : Nat) :
    caps[i]?.filter (!·.isNull)
      = if (caps.getD i .null).isNull then none else some (caps.getD i .null) := by
  rw [List.getD_eq_getElem?_getD]
  cases caps[i]? with
  | none => rfl
  | some cap => cases cap <;> rfl

namespace Invocation

/-- What is declared is all that is read. -/
theorem Agrees.sameReads {inv inv' : Invocation} (h : inv.Agrees inv') : inv.SameReads inv' where
  label := h.label
  length := h.length
  capCount := h.capCount
  source := h.source
  arg i := by
    rw [arg, arg, h.length]
    by_cases hi : i < inv.length
    · simp only [hi, if_true, h.words i hi]
    · simp only [hi, if_false]
  extraCap? i := by
    rw [Invocation.extraCap?, Invocation.extraCap?, h.capCount]
    by_cases hi : i < inv.info.extraCaps.toNat
    · simp only [hi, if_true, filter_isNull_eq, h.caps i hi]
    · simp only [hi, if_false]

namespace SameReads

variable {inv inv' : Invocation} (h : inv.SameReads inv')

include h

theorem destRoot (least : Nat) : inv'.destRoot least = inv.destRoot least := by
  simp only [Invocation.destRoot, h.extraCap?, h.length, h.capCount]

theorem irqArg (p : Platform) : inv'.irqArg p = inv.irqArg p := by
  simp only [Invocation.irqArg, h.arg]

theorem plain (c : Config) (p : Platform) (core : Nat) :
    HandlerRequest.plain c p core inv' = HandlerRequest.plain c p core inv := by
  simp only [HandlerRequest.plain, h.destRoot, h.irqArg, h.arg]

theorem withTrigger (c : Config) (p : Platform) :
    HandlerRequest.withTrigger c p inv' = HandlerRequest.withTrigger c p inv := by
  simp only [HandlerRequest.withTrigger, h.destRoot, h.irqArg, h.arg]

theorem forCore (c : Config) (p : Platform) :
    HandlerRequest.forCore c p inv' = HandlerRequest.forCore c p inv := by
  simp only [HandlerRequest.forCore, h.destRoot, h.irqArg, h.arg]

theorem signal (p : Platform) :
    SignalRequest.ofInvocation p inv' = SignalRequest.ofInvocation p inv := by
  simp only [SignalRequest.ofInvocation, h.destRoot, h.arg]

theorem retargetIrq (p : Platform) : inv'.retargetIrq p = inv.retargetIrq p := by
  simp only [Invocation.retargetIrq, h.length, h.irqArg]

end SameReads

end Invocation

namespace Kernel

section

variable {C S : Type} [Controller C] (k : Kernel C S) (cap : Cap) {inv inv' : Invocation}

theorem retarget_of_sameReads (h : inv.SameReads inv') : k.retarget inv' = k.retarget inv := by
  simp only [retarget, h.retargetIrq, h.arg]

variable [SlotStore S]

theorem control_of_sameReads (h : inv.SameReads inv') : k.control inv' = k.control inv := by
  simp only [control, h.label, h.source, h.plain, h.withTrigger, h.forCore, h.signal,
    k.retarget_of_sameReads h]

/-- An invocation goes by what is read of its message. -/
theorem invoke_of_sameReads (h : inv.SameReads inv') : k.invoke cap inv' = k.invoke cap inv := by
  cases cap with
  | irqControl badge => exact k.control_of_sameReads h
  | null | sgiSignal => rfl
  | cnode | irqHandler => simp only [invoke, h.label]

end

/-- Events that differ at most in what messages hold and do not declare. -/
inductive Event.Agrees : Event → Event → Prop where
  | invoke (caller : Thread) (cap : Cap) {inv inv' : Invocation} (h : inv.Agrees inv') :
      Agrees (.invoke caller cap inv) (.invoke caller cap inv')
  | same (e : Event) : Agrees e e

theorem after_of_agrees {C : Type} [Controller C] (k : Kernel C Space) {e e' : Event}
    (h : e.Agrees e') : k.after e' = k.after e := by
  cases h with
  | invoke caller cap h => rw [after, after, invoke_of_sameReads _ cap h.sameReads]
  | same => rfl

/-- A whole run goes by what messages declare. -/
theorem run_of_agrees {C : Type} [Controller C] (k : Kernel C Space) {es es' : List Event}
    (h : List.Forall₂ Event.Agrees es es') : k.run es' = k.run es := by
  induction h generalizing k with
  | nil => rfl
  | @cons e e' es es' he _ ih =>
    show (k.after e').run es' = (k.after e).run es
    rw [k.after_of_agrees he, ih]

/-- Two messages that declare as much and agree on what they declare get the same answer, whatever
    is in buffer and list past the declared counts and however many capabilities are said to be
    unwrapped; and the kernel is the same after them, caller and controller included. -/
theorem undeclared_content_unread {C S : Type} [Controller C] [SlotStore S] (k : Kernel C S)
    (cap : Cap) {inv inv' : Invocation} (h : inv.Agrees inv') :
    k.invoke cap inv' = k.invoke cap inv
      ∧ ∀ reply, k.handle cap inv' reply = k.handle cap inv reply := by
  have hinvoke := k.invoke_of_sameReads cap h.sameReads
  refine ⟨hinvoke, fun reply => ?_⟩
  rw [handle, handle, hinvoke]

/-- A handler for core 0: one message is a word short of what it declares, the other has a zero
    there, then one word and one capability more than it declares. Both are granted it. -/
theorem short_buffer_as_padded :
    ∃ (k : Kernel Distributor Space) (inv inv' : Invocation),
      inv.Agrees inv' ∧ inv.args.length < inv.length ∧ inv'.length < inv'.args.length
        ∧ inv'.info.extraCaps.toNat < inv'.extraCaps.length ∧ inv'.info.capsUnwrapped = 7
        ∧ (k.invoke (.irqControl .none) inv).1 = .ok 0
        ∧ k.invoke (.irqControl .none) inv' = k.invoke (.irqControl .none) inv := by
  let root : CNode := ⟨0, 2, .none⟩
  let k : Kernel Distributor Space := ⟨⟨.smp, 2, by decide, by decide, fun _ => rfl⟩,
    ⟨.zero, .full⟩, .empty, ⟨#[#[⟨.cnode root, none⟩, .empty, .empty, ⟨.irqControl .none, none⟩]]⟩,
    .runningOn 0⟩
  let inv : Invocation := ⟨⟨3, 0, 1, 5⟩, [40, 1, 1, 2], [.cnode root], ⟨0, 3⟩⟩
  let inv' : Invocation :=
    ⟨⟨3, 7, 1, 5⟩, [40, 1, 1, 2, 0, 99], [.cnode root, .irqControl .none], ⟨0, 3⟩⟩
  let req : HandlerRequest := ⟨⟨40, 0⟩, some .edge, some 0, ⟨.cnode root, 1, 2⟩⟩
  have hlookup : k.space.lookup (.cnode root) 1 2 = .ok ⟨0, 1⟩ := by cbv
  have hslot : k.handlerSlot req = .ok ⟨0, 1⟩ :=
    handlerSlot_eq_ok.2 ⟨Registry.isActive_empty req.id, hlookup, rfl⟩
  have asks : k.Asks inv req := .forCore (by decide) rfl rfl
  obtain ⟨d, hgranted, -, -⟩ := asks.invoke_succeeds (by decide) (by decide) hslot .none
  have agrees : inv.Agrees inv' := ⟨rfl, rfl, rfl, rfl, by decide, by decide⟩
  refine ⟨k, inv, inv', agrees, by decide, by decide, by decide, rfl, ?_,
    (undeclared_content_unread k (.irqControl .none) agrees).1⟩
  rw [hgranted]
  rfl

end Kernel

end InterruptCaps
