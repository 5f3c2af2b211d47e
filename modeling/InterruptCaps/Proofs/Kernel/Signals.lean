import InterruptCaps.Proofs.Kernel.Provenance
import InterruptCaps.Proofs.Kernel.Recorded
import InterruptCaps.Proofs.Kernel.Success

/-! Senders of software-generated interrupts. All checks are made when one is issued, in this order;
    invoking it later checks nothing, and cannot fail.

    | check                     | error               |
    | ------------------------- | ------------------- |
    | four words, a destination | `truncatedMessage`  |
    | number below 16           | `rangeError 0 15`   |
    | interface of the platform | `invalidArgument 1` |
    | destination found, empty  | that of the slot    |

    What is sent is one word. Its list of targets has one bit for each of eight interfaces, while a
    board can state that there are more; a sender for one of those reaches another interface. -/

namespace InterruptCaps

namespace Kernel

/-! ### Issuing a sender -/

/-- The sender that the words of a message stand for, whether or not they pass their checks. -/
def signalRequest (inv : Invocation) : SignalRequest :=
  ⟨(inv.arg 0).toNat, inv.arg 1, ⟨(inv.extraCap? 0).getD .null, inv.arg 2, inv.arg 3⟩⟩

/-- What the words of the message have to meet. -/
def signalMessageChecks (p : Platform) (inv : Invocation) : List Check :=
  [⟨(inv.extraCap? 0).isSome && 4 ≤ inv.length, .truncatedMessage⟩,
    ⟨(inv.arg 0).toNat < sgiCount, .rangeError 0 (sgiCount - 1)⟩,
    ⟨(inv.arg 1).toNat < p.cpuInterfaces, .invalidArgument 1⟩]

/-- All that a request for a sender has to meet, in order. -/
def signalChecks {C : Type} [Controller C] (k : Kernel C Space) (inv : Invocation) : List Check :=
  signalMessageChecks k.platform inv ++ k.space.destinationChecks (signalRequest inv).dest

/-- The words of the message are decided by their checks. -/
theorem mapError_signalRequest (p : Platform) (inv : Invocation) :
    (SignalRequest.ofInvocation p inv).mapError Rejection.error
      = verdict (signalMessageChecks p inv) (signalRequest inv) := by
  refine mapError_bind (inv.destRoot_eq 4) rfl ?_
  rw [verdict_cons, verdict_cons]
  by_cases hsgi : (inv.arg 0).toNat < sgiCount
  · simp only [hsgi, Nat.not_le.2 hsgi, if_false, decide_true, if_true]
    show _ = if p.hasInterface (inv.arg 1) then _ else _
    cases p.hasInterface (inv.arg 1) <;> rfl
  · simp only [hsgi, Nat.le_of_not_lt hsgi, if_true]
    rfl

variable {C : Type} {k : Kernel C Space} {inv : Invocation}

/-- A sender with a slot to go to is issued, and nothing else changes. -/
theorem issueSignal_eq_ok {req : SignalRequest} {dest : SlotRef}
    (slot : emptySlot k.space req.dest .noSignalSlot .signalSlotUnfit = .ok dest)
    (hsource : (k.space.slot? inv.source).isSome) :
    k.issueSignal (.ok req) inv.source = succeed { k with
      space := k.space.put dest ⟨.sgiSignal req.sgi req.target, some inv.source⟩ } := by
  obtain ⟨-, hdest⟩ := emptySlot_eq_ok.1 slot
  have hinsert : k.space.insert (.sgiSignal req.sgi req.target) inv.source dest
      = .ok (k.space.put dest ⟨.sgiSignal req.sgi req.target, some inv.source⟩) :=
    Space.insert_eq_ok.2 ⟨hsource, hdest, rfl⟩
  rw [issueSignal]
  simp only [slot, SlotStore.insert, hinsert]

variable [Controller C]

/-- A request for a sender is answered by its checks. -/
theorem signal_request_answered (single : k.config.isSmp = false)
    (hsource : (k.space.slot? inv.source).isSome)
    (hlabel : inv.label = Label.issueSgiSignal.toWord) :
    (k.control inv).1.mapError Failure.error? = (verdict (k.signalChecks inv) 0).mapError some := by
  rw [control_eq_issueSignal single hlabel, signalChecks, verdict_append _ _ (signalRequest inv),
    ← mapError_signalRequest]
  cases hask : SignalRequest.ofInvocation k.platform inv with
  | error r => rfl
  | ok req =>
    have hreq := mapError_signalRequest k.platform inv
    rw [hask] at hreq
    obtain ⟨-, rfl⟩ := verdict_eq_ok.1 hreq.symm
    -- the words have passed, and the destination is all that is left to decide
    show _ = (verdict (k.space.destinationChecks _) 0).mapError some
    rw [verdict_destinationChecks k.space _ .noSignalSlot .signalSlotUnfit (fun _ => rfl)
      fun _ => rfl]
    cases hslot : emptySlot k.space (signalRequest inv).dest .noSignalSlot .signalSlotUnfit with
    | error r =>
      simp only [issueSignal, hslot]
      rfl
    | ok dest =>
      rw [issueSignal_eq_ok hslot hsource]
      rfl

/-- A space of the first task, with two slots that hold nothing. -/
def firstSpace : Space :=
  ⟨#[#[⟨.cnode ⟨0, 2, .none⟩, none⟩, .empty, .empty, ⟨.irqControl .none, none⟩]]⟩

/-- A uniprocessor as its first task finds it, over a distributor that a board describes. -/
def firstTask (p : Platform) : Kernel Distributor Space :=
  ⟨.uniprocessor, ⟨.zero, p⟩, .empty, firstSpace, .runningOn 0⟩

/-- The first task asks for a sender of number 5 to an interface. -/
def askSender (target : UInt64) : Invocation :=
  ⟨.ofCounts 4 1 4, [5, target, 1, 2], [.cnode ⟨0, 2, .none⟩], ⟨0, 3⟩⟩

theorem firstTask_issues {p : Platform} {target : UInt64} (h : p.hasInterface target = true) :
    (firstTask p).invoke (.irqControl .none) (askSender target) = succeed { firstTask p with
      space := (firstTask p).space.put ⟨0, 1⟩ ⟨.sgiSignal 5 target, some ⟨0, 3⟩⟩ } := by
  have hlookup : firstSpace.lookup (.cnode ⟨0, 2, .none⟩) 1 2 = .ok ⟨0, 1⟩ := by cbv
  have hslot : emptySlot (firstTask p).space (signalRequest (askSender target)).dest .noSignalSlot
      .signalSlotUnfit = .ok ⟨0, 1⟩ := emptySlot_eq_ok.2 ⟨hlookup, rfl⟩
  have hsgi : ((askSender target).arg 0).toNat < sgiCount := (by decide : 5 < sgiCount)
  have hask : SignalRequest.ofInvocation p (askSender target)
      = .ok (signalRequest (askSender target)) :=
    SignalRequest.ofInvocation_eq_ok.2 ⟨_, rfl, hsgi, h, rfl⟩
  rw [invoke, control_eq_issueSignal rfl rfl, show (firstTask p).platform = p from rfl, hask]
  exact issueSignal_eq_ok hslot rfl

/-! ### Invoking a sender -/

/-- A sender raises its interrupt and lets the caller go on where it is, whatever the message
    says. -/
theorem invoke_signal (k : Kernel C Space) (sgi : Nat) (target : UInt64) (inv : Invocation) :
    k.invoke (.sgiSignal sgi target) inv
        = (.ok 0, { k with
          controller := Controller.sendSgi sgi target k.controller
          caller := ⟨k.caller.core, .restart⟩ })
      ∧ k.calls (.sgiSignal sgi target) inv = [.sendSgi sgi target] :=
  ⟨rfl, rfl⟩

/-- Where a kernel has its core to itself, a request for a sender is answered by its checks. From
    start-up on, every sender in a slot has a software-generated number and an interface of the
    platform, and to invoke it is to raise that interrupt there, once, and to let the caller go on
    on the core that it is on; it always succeeds and changes nothing else. -/
theorem senders_checked_once {k : Kernel Distributor Space} (single : k.config.isSmp = false) :
    (∀ badge inv, (k.space.slot? inv.source).isSome →
      inv.label = Label.issueSgiSignal.toWord →
        (k.invoke (.irqControl badge) inv).1.mapError Failure.error?
          = (verdict (k.signalChecks inv) 0).mapError some)
      ∧ ∀ radix guard root k', Space.boot radix guard = .ok (root, k.space) →
        Relation.ReflTransGen Step k k' →
          ∀ ref slot sgi target, k'.space.slot? ref = some slot → slot.cap = .sgiSignal sgi target →
            sgi < sgiCount ∧ target.toNat < k.platform.cpuInterfaces
              ∧ ∀ caller inv, { k' with caller }.invoke (.sgiSignal sgi target) inv
                  = (.ok 0, { k' with
                    controller := Controller.sendSgi sgi target k'.controller
                    caller := ⟨caller.core, .restart⟩ })
                ∧ { k' with caller }.calls (.sgiSignal sgi target) inv
                  = [.sendSgi sgi target] := by
  refine ⟨fun badge inv hsource hlabel => signal_request_answered single hsource hlabel, ?_⟩
  intro radix guard root k' booted run ref slot sgi target hslot hcap
  have hchecked := checked_steps booted run ref slot hslot
  rw [hcap, platform_steps run] at hchecked
  obtain ⟨-, hsgi, hinterface⟩ := hchecked
  exact ⟨hsgi, of_decide_eq_true hinterface,
    fun caller inv => invoke_signal { k' with caller } sgi target inv⟩

/-- The first task issues a sender of number 5 to interface 2 and invokes it from core 3, where it
    can go on afterwards. -/
theorem first_sender_sends :
    ∃ k : Kernel Distributor Space, Relation.ReflTransGen Step (firstTask .full) k
      ∧ k.space.slot? ⟨0, 1⟩ = some ⟨.sgiSignal 5 2, some ⟨0, 3⟩⟩
      ∧ ∀ inv, ({ k with caller := ⟨3, .running⟩ }.invoke (.sgiSignal 5 2) inv).1 = .ok 0
        ∧ ({ k with caller := ⟨3, .running⟩ }.invoke (.sgiSignal 5 2) inv).2.caller = ⟨3, .restart⟩
        ∧ { k with caller := ⟨3, .running⟩ }.calls (.sgiSignal 5 2) inv = [.sendSgi 5 2] := by
  let issue : Event := .invoke (.runningOn 0) (.irqControl .none) (askSender 2)
  have hstep : Step (firstTask .full) ((firstTask .full).after issue) := .event ⟨_, rfl, rfl⟩
  have hheld : ((firstTask .full).after issue).space.slot? ⟨0, 1⟩
      = some ⟨.sgiSignal 5 2, some ⟨0, 3⟩⟩ := by
    show ((firstTask .full).invoke _ _).2.space.slot? ⟨0, 1⟩ = _
    rw [firstTask_issues (by decide)]
    rfl
  obtain ⟨-, hsends⟩ := senders_checked_once (k := firstTask .full) rfl
  obtain ⟨-, -, hsends⟩ := hsends 2 .none _ _ rfl (.single hstep) ⟨0, 1⟩ _ 5 2 hheld rfl
  refine ⟨_, .single hstep, hheld, fun inv => ?_⟩
  obtain ⟨hout, hcalls⟩ := hsends ⟨3, .running⟩ inv
  exact ⟨congrArg (·.1) hout, congrArg (·.2.caller) hout, hcalls⟩

end Kernel

/-! ### The word that is sent -/

/-- The fields of the word that raises a software-generated interrupt: its number, a bit for each
    interface, and how these bits are meant. -/
structure SgiFields where
  number : Nat
  targets : Nat
  filter : Nat
  deriving DecidableEq

namespace SgiFields

/-- The fields of a word: bits 0 to 3, bits 16 to 23 and bits 24 and 25. -/
def ofWord (word : Nat) : SgiFields := ⟨word % 2 ^ 4, word / 2 ^ 16 % 2 ^ 8, word / 2 ^ 24 % 2 ^ 2⟩

/-- The word with these fields and no other bit. -/
def toWord (f : SgiFields) : Nat := f.number + f.targets * 2 ^ 16 + f.filter * 2 ^ 24

theorem ofWord_add {sgi interface : Nat} (hsgi : sgi < sgiCount) (h : interface < maxInterfaces) :
    ofWord (2 ^ (16 + interface) + sgi) = ⟨sgi, 2 ^ interface, 0⟩ := by
  have hle : 2 ^ interface ≤ 2 ^ 7 := Nat.pow_le_pow_right (by decide) (Nat.le_of_lt_succ h)
  have hsgi : sgi < 16 := hsgi
  rw [ofWord, Nat.pow_add]
  generalize 2 ^ interface = mask at hle
  simp only [mk.injEq]
  omega

end SgiFields

/-- A word raises this interrupt at exactly one interface: it has the number, the one bit in its
    list of targets, which means that list and nothing else, and all its other bits are zero. -/
structure Addressed (word sgi interface : Nat) : Prop where
  number : (SgiFields.ofWord word).number = sgi
  targets : ∀ i, (SgiFields.ofWord word).targets.testBit i = decide (i = interface)
  filter : (SgiFields.ofWord word).filter = 0
  others : (SgiFields.ofWord word).toWord = word

theorem addressed_of_lt {sgi interface : Nat} (hsgi : sgi < sgiCount)
    (h : interface < maxInterfaces) :
    Addressed (2 ^ (16 + interface) + sgi) sgi interface := by
  have hfields := SgiFields.ofWord_add hsgi h
  constructor
  · rw [hfields]
  · intro i
    rw [hfields, Nat.testBit_two_pow]
    simp only [eq_comm]
  · rw [hfields]
  · rw [hfields, SgiFields.toWord, Nat.zero_mul, Nat.add_zero, Nat.pow_add, Nat.mul_comm,
      Nat.add_comm]

/-- The list of targets has room for eight interfaces. -/
theorem Addressed.interface_lt {word sgi interface : Nat} (h : Addressed word sgi interface) :
    interface < maxInterfaces := by
  refine Nat.lt_of_not_le fun hle => ?_
  have hlt : (SgiFields.ofWord word).targets < 2 ^ interface :=
    Nat.lt_of_lt_of_le (Nat.mod_lt _ (by decide)) (Nat.pow_le_pow_right (by decide) hle)
  have htargets := h.targets interface
  rw [Nat.testBit_lt_two_pow hlt, decide_eq_true rfl] at htargets
  cases htargets

namespace Kernel

variable {k : Kernel Distributor Space} {inv : Invocation}

/-- A sender reaches the interface that the low three bits of its target name. -/
theorem addressed_signal (k : Kernel Distributor Space) {sgi : Nat} (hsgi : sgi < sgiCount)
    (target : UInt64) (inv : Invocation) :
    Addressed ((k.invoke (.sgiSignal sgi target) inv).2.controller.frame.word
      Distributor.sgiOffset) sgi (target.toNat % maxInterfaces) := by
  have hword := (k.controller.sendSgi_raised sgi target).word
  rw [Nat.mod_eq_of_lt hsgi] at hword
  rw [(invoke_signal k sgi target inv).1]
  show Addressed ((k.controller.sendSgi sgi target).frame.word Distributor.sgiOffset) _ _
  rw [hword]
  exact addressed_of_lt hsgi (Nat.mod_lt _ (by decide))

/-- A request for a sender that succeeds puts one into a slot, for a number and an interface that
    passed their checks. Whenever it is invoked, the word that is sent has its number and one bit
    in the list of targets, and that is the bit of its own interface exactly if the interface is one
    of the eight that the list has room for. -/
theorem sender_reaches_iff {badge : Badge} {v : Int}
    (hlabel : inv.label = Label.issueSgiSignal.toWord)
    (issued : (k.invoke (.irqControl badge) inv).1 = .ok v) :
    ∃ dest sgi target, k.space.Filled (k.invoke (.irqControl badge) inv).2.space dest
        ⟨.sgiSignal sgi target, some inv.source⟩
      ∧ sgi = (inv.arg 0).toNat ∧ sgi < sgiCount
      ∧ target = inv.arg 1 ∧ target.toNat < k.platform.cpuInterfaces
      ∧ ∀ (k' : Kernel Distributor Space) (inv' : Invocation) (word : Nat),
        (k'.invoke (.sgiSignal sgi target) inv').2.controller.frame.word Distributor.sgiOffset
            = word →
          Addressed word sgi (target.toNat % maxInterfaces)
            ∧ (Addressed word sgi target.toNat ↔ target.toNat < maxInterfaces) := by
  have effect := invoke_effect k (.irqControl badge) inv
  generalize k.invoke (.irqControl badge) inv = out at effect issued
  cases effect with
  | rejected | unprogrammed | unstored | signalUnstored | unowned | unrouted => cases issued
  | issued asks =>
    obtain ⟨form, hform, -⟩ := asks.form
    rw [hlabel] at hform
    cases form <;> cases hform
  | retargeted multikernel asks owns interface setTarget label =>
    rw [hlabel] at label
    cases label
  | signalIssued single asks slot insert =>
    obtain ⟨root, -, hsgi, hinterface, rfl⟩ := SignalRequest.ofInvocation_eq_ok.1 asks
    refine ⟨_, _, _, Space.filled_of_insert insert, rfl, hsgi, rfl,
      of_decide_eq_true hinterface, ?_⟩
    rintro k' inv' word rfl
    have haddressed := addressed_signal k' hsgi (inv.arg 1) inv'
    refine ⟨haddressed, Addressed.interface_lt, fun hlt => ?_⟩
    rwa [Nat.mod_eq_of_lt hlt] at haddressed

/-- A sender of number 5 to interface 2 of eight: its word has the one bit of interface 2. -/
theorem sender_reaches_interface_two :
    ∃ dest sgi target, (firstTask .full).space.Filled
        ((firstTask .full).invoke (.irqControl .none) (askSender 2)).2.space dest
        ⟨.sgiSignal sgi target, some ⟨0, 3⟩⟩
      ∧ sgi = 5 ∧ target = 2
      ∧ Addressed (((firstTask .full).invoke (.sgiSignal sgi target) (askSender 2)).2.controller
        |>.frame.word Distributor.sgiOffset) 5 2 := by
  have hissued : ((firstTask .full).invoke (.irqControl .none) (askSender 2)).1 = .ok 0 :=
    congrArg (·.1) (firstTask_issues (by decide))
  obtain ⟨dest, sgi, target, hfilled, hsgi, -, htarget, -, hreaches⟩ :=
    sender_reaches_iff rfl hissued
  refine ⟨dest, sgi, target, hfilled, hsgi, htarget, ?_⟩
  obtain ⟨-, hreaches⟩ := hreaches (firstTask .full) (askSender 2) _ rfl
  rw [hsgi, htarget] at hreaches ⊢
  exact hreaches.2 (by decide)

/-- A board states sixteen interfaces. The first task is given a sender to interface 9, and the word
    that this sends goes to interface 1 instead. -/
theorem interface_nine_reaches_one :
    ∃ k : Kernel Distributor Space, k.config = .uniprocessor ∧ k.platform = ⟨1019, true, 16⟩
      ∧ start k.config k.controller k.space = .ok k
      ∧ (∃ root, Space.boot 2 .none = .ok (root, k.space))
      ∧ (k.invoke (.irqControl .none) (askSender 9)).1 = .ok 0
      ∧ (k.invoke (.irqControl .none) (askSender 9)).2.space.slot? ⟨0, 1⟩
        = some ⟨.sgiSignal 5 9, some ⟨0, 3⟩⟩
      ∧ ∀ (k' : Kernel Distributor Space) (inv : Invocation) (word : Nat),
        (k'.invoke (.sgiSignal 5 9) inv).2.controller.frame.word Distributor.sgiOffset = word →
          Addressed word 5 1 ∧ ¬ Addressed word 5 9 := by
  have hinterface : Platform.hasInterface ⟨1019, true, 16⟩ 9 = true := by decide
  have hissued := firstTask_issues hinterface
  refine ⟨firstTask ⟨1019, true, 16⟩, rfl, rfl, rfl, ⟨_, rfl⟩, congrArg (·.1) hissued, ?_, ?_⟩
  · rw [hissued]
    rfl
  · rintro k' inv word rfl
    refine ⟨addressed_signal k' (by decide) 9 inv, fun h => ?_⟩
    exact absurd h.interface_lt (by decide)

end Kernel

end InterruptCaps
