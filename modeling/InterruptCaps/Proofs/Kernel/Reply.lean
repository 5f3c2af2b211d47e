import InterruptCaps.Proofs.Kernel.Signals
import InterruptCaps.Proofs.Kernel.Told

/-! What the caller of an invocation reads. One value and one buffer say how it ended:

    | result                  | value        | buffer                      |
    | ----------------------- | ------------ | --------------------------- |
    | success                 | 0            | as before                   |
    | failure with an error   | code, -10…-1 | numbers of the error first  |
    | failure without error   | no answer    |                             |

    The value alone tells success from failure, since no invocation succeeds with another value
    than zero. -/

namespace InterruptCaps.Kernel

/-- What value and buffer say of a result, for a buffer that was `reply`. -/
inductive Reports (reply : List UInt64) :
    Except Failure Int → Option (Int × List UInt64) → Prop where
  | done : Reports reply (.ok 0) (some (0, reply))
  | failed {f : Failure} {e : InvocationError} {value : Int} {after : List UInt64}
      (error : f.error? = some e) (range : -10 ≤ value ∧ value ≤ -1)
      (code : ReturnCode.ofInt? value = some e.code) (detail : Fronted e.numbers reply after) :
      Reports reply (.error f) (some (value, after))
  | lost : Reports reply (.error .unmapped) none

/-- Zero is reported of success only. -/
theorem Reports.zero_iff {reply : List UInt64} {result : Except Failure Int}
    {answer : Option (Int × List UInt64)} (h : Reports reply result answer) :
    (∃ after, answer = some (0, after)) ↔ ∃ v, result = .ok v := by
  cases h with
  | done => exact ⟨fun _ => ⟨0, rfl⟩, fun _ => ⟨reply, rfl⟩⟩
  | failed error range =>
    constructor
    · rintro ⟨after, h⟩
      cases h
      omega
    · rintro ⟨v, h⟩
      cases h
  | lost => constructor <;> rintro ⟨_, ⟨⟩⟩

variable {C S : Type} [Controller C] [SlotStore S]

/-- No invocation succeeds with another value than zero. -/
theorem invoke_ok_eq_zero {k : Kernel C S} {cap : Cap} {inv : Invocation} {v : Int}
    (h : (k.invoke cap inv).1 = .ok v) : v = 0 := by
  have effect := invoke_effect k cap inv
  generalize k.invoke cap inv = out at effect h
  cases effect with
  | rejected | unprogrammed | unstored | signalUnstored | unowned | unrouted => cases h
  | issued | signalIssued | retargeted | sent =>
    cases h
    rfl

theorem handle_reported (k : Kernel C S) (cap : Cap) (inv : Invocation) (reply : List UInt64) :
    Reports reply (k.invoke cap inv).1 (k.handle cap inv reply).1
      ∧ (k.handle cap inv reply).2 = (k.invoke cap inv).2 := by
  have hzero := @invoke_ok_eq_zero C S _ _ k cap inv
  rw [handle]
  generalize k.invoke cap inv = out at hzero
  obtain ⟨result, k'⟩ := out
  refine ⟨?_, by cases result <;> rfl⟩
  cases result with
  | ok v =>
    obtain rfl := hzero rfl
    exact .done
  | error f =>
    simp only
    cases herror : f.error? with
    | none =>
      cases f with
      | unmapped => exact .lost
      | rejected | controller | store => cases herror
    | some e =>
      exact .failed herror (ReturnCode.toInt_range e.code_ne_ok) (ReturnCode.ofInt?_toInt _)
        (e.fronted_writeDetail reply)

/-- The caller reads how the invocation ended, and the kernel is as the invocation leaves it: zero
    stands for success and for nothing else, and then the buffer is as before. Over a distributor
    whose interrupts all have registers there is always an answer, and the numbers that explain a
    failure are words. -/
theorem handle_reports (k : Kernel C S) (cap : Cap) (inv : Invocation) (reply : List UInt64) :
    Reports reply (k.invoke cap inv).1 (k.handle cap inv reply).1
      ∧ (k.handle cap inv reply).2 = (k.invoke cap inv).2
      ∧ ((∃ after, (k.handle cap inv reply).1 = some (0, after))
        ↔ ∃ v, (k.invoke cap inv).1 = .ok v)
      ∧ ∀ k' : Kernel Distributor S, k'.platform.maxIrq < Distributor.irqCapacity →
        (k'.handle cap inv reply).1.isSome
          ∧ ∀ f e, (k'.invoke cap inv).1 = .error f → f.error? = some e →
            ∀ n ∈ e.numbers, n < 2 ^ 64 := by
  obtain ⟨reports, hstate⟩ := k.handle_reported cap inv reply
  refine ⟨reports, hstate, reports.zero_iff, fun k' hregisters => ⟨?_, fun f e hf he => ?_⟩⟩
  · obtain ⟨reports', -⟩ := k'.handle_reported cap inv reply
    have told := tells_invoke hregisters inv cap
    generalize (k'.invoke cap inv).1 = result at reports' told
    generalize (k'.handle cap inv reply).1 = answer at reports'
    cases reports' with
    | done | failed => rfl
    | lost =>
      obtain ⟨e, he, -⟩ := told .unmapped rfl
      cases he
  · obtain ⟨e', he', hwords⟩ := tells_invoke hregisters inv cap f hf
    cases he.symm.trans he'
    exact hwords

/-- A sender of number 16 is asked for, with a buffer of one word: the caller reads the code of a
    range error and the lower bound. -/
theorem refused_sender_reported :
    ((firstTask .full).handle (.irqControl .none)
      ⟨.ofCounts 4 1 4, [16, 0, 1, 2], [.cnode ⟨0, 2, .none⟩], ⟨0, 3⟩⟩ [7]).1
        = some (-4, [0]) := by
  let inv : Invocation := ⟨.ofCounts 4 1 4, [16, 0, 1, 2], [.cnode ⟨0, 2, .none⟩], ⟨0, 3⟩⟩
  have hrefused : ((firstTask .full).invoke (.irqControl .none) inv).1
      = .error (.rejected (.noSuchSgi 16)) := by
    rw [invoke, control_eq_issueSignal rfl rfl]
    rfl
  obtain ⟨reports, -, -, answered⟩ := handle_reports (firstTask .full) (.irqControl .none) inv [7]
  obtain ⟨hanswer, -⟩ := answered (firstTask .full) (by decide)
  obtain ⟨answer, hsome⟩ := Option.isSome_iff_exists.1 hanswer
  rw [hrefused, hsome] at reports
  show ((firstTask .full).handle (.irqControl .none) inv [7]).1 = _
  cases reports with
  | failed error range code detail =>
    cases error
    rw [hsome, ReturnCode.ofInt?_eq_some.1 code]
    obtain ⟨word, rfl⟩ := List.length_eq_one_iff.1 detail.length_eq
    have hfront : word.toNat = (0 : UInt64).toNat := detail.front 0 0 word rfl rfl
    rw [UInt64.toNat_inj.1 hfront]
    rfl

end InterruptCaps.Kernel
