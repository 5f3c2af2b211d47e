import InterruptCaps.Log.Logger
import InterruptCaps.Proofs.Log.Lines
import Mathlib.Algebra.Group.Nat.Defs
import Mathlib.Data.List.Induction

/-! The accounts of the log. Whatever is done to it and in whatever order, each entry that its
    buffer has accepted is still queued or has left the queue in one of four ways, in the order in
    which the entries were accepted.

    | fate        | the entry has left by        | handed out   |
    | ----------- | ---------------------------- | ------------ |
    | `popped`    | a pop                        | as it is     |
    | `written`   | a drain, into which it fits  | as its line  |
    | `lost`      | a drain that it ended        |              |
    | `discarded` | a discard                    |              |

    One step keeps the balance `queue ++ accepted = departed ++ queue'`, so a run does. Records
    are numbered as they come, whether or not the buffer accepts them. Numbers and the counter of
    dropped entries have 64 bits: they are exact below `2 ^ 64`, and wrap there. -/

namespace InterruptCaps.Log

/-- Something that is done to the log. -/
inductive Use where
  | enable
  | push (e : Entry)
  | pop
  | drain (out : List UInt8)
  | discard
  /-- A record that is let through to the logger. -/
  | record (level : Level) (target : String) (fragments : List String)
  deriving DecidableEq

/-- Whether it is a record that takes a number. -/
def Use.isNumbered : Use → Bool
  | .record level _ _ => level ≠ .trace
  | _ => false

/-- Who made an entry. -/
inductive Origin where | caller | logger
  deriving DecidableEq

/-- How an entry has left the queue. -/
inductive Fate where | popped | written | lost | discarded
  deriving DecidableEq

/-- Whether somebody has received the entry. -/
def Fate.isHandedOut : Fate → Bool
  | popped | written => true
  | lost | discarded => false

/-! ### The buffer -/

namespace Ring

/-- Whether there is no room for another entry. -/
def isFull (r : Ring) : Bool := ringCapacity ≤ r.queue.length

/-- The entries whose lines a drain into `room` bytes writes. -/
def written (room : Nat) (r : Ring) : List Entry :=
  if r.enabled then r.queue.take (fitting room r.queue) else []

/-- The entry that a drain takes from the queue without writing it, if there is one. -/
def lost (room : Nat) (r : Ring) : List Entry :=
  if r.enabled then (r.queue.drop (fitting room r.queue)).take 1 else []

theorem pop_fst (r : Ring) : r.pop.1 = if r.enabled then r.queue.head? else none := by
  rw [pop]
  split <;> rfl

theorem push_fst (r : Ring) (e : Entry) : (r.push e).1 = (r.enabled && !r.isFull) := by
  rw [push, isFull]
  cases r.enabled with
  | false => rfl
  | true => by_cases h : r.queue.length < ringCapacity <;> simp [h, Nat.not_le.2, Nat.le_of_not_lt]

theorem push_eq (r : Ring) (e : Entry) : (r.push e).2 = { r with
    queue := r.queue ++ if (r.push e).1 then [e] else []
    dropped := r.dropped + if r.enabled && r.isFull then 1 else 0 } := by
  rw [push_fst, push, isFull]
  obtain ⟨enabled, queue, dropped⟩ := r
  cases enabled with
  | false => simp
  | true =>
    by_cases h : queue.length < ringCapacity
    · simp [h, Nat.not_le.2 h]
    · simp [h, Nat.le_of_not_lt h]

/-- A drain takes from the queue what it writes, and then at most one entry more. -/
theorem drain_split (r : Ring) (out : List UInt8) :
    r.queue = r.written out.length ++ r.lost out.length ++ (r.drain out).2.queue := by
  rw [written, lost, drain]
  cases r.enabled with
  | false => rfl
  | true =>
    simp only [if_true, takeLines_eq]
    rw [List.append_assoc, ← List.drop_drop, List.take_append_drop, List.take_append_drop]

/-- A drain writes the lines of some entries to the front of its buffer. It has no result exactly if
    the entry that it loses cannot be read. -/
theorem drain_fst (r : Ring) (out : List UInt8) :
    ∃ text, lines? (r.written out.length) = some text ∧ text.utf8ByteSize ≤ out.length
      ∧ (r.drain out).1 = if (r.lost out.length).all (·.line?.isSome)
        then some ⟨Text.bytesOf text ++ out.drop text.utf8ByteSize, text.utf8ByteSize⟩
        else none := by
  rw [written, lost, drain]
  cases r.enabled with
  | false => exact ⟨"", rfl, Nat.zero_le _, rfl⟩
  | true =>
    obtain ⟨text, htext, hroom⟩ := fits_iff.1 (fits_take_fitting out.length r.queue)
    have hnext : ((r.queue.drop (fitting out.length r.queue)).take 1).all (·.line?.isSome)
        = (r.queue[fitting out.length r.queue]?).all (·.line?.isSome) := by
      rw [← List.head?_drop]
      cases r.queue.drop (fitting out.length r.queue) <;> simp
    refine ⟨text, htext, hroom, ?_⟩
    simp only [if_true, takeLines_eq, htext, hnext]
    split <;> rfl

end Ring

namespace Logger

variable {Console : Type}

/-! ### One use -/

/-- The log after one use. -/
def after (l : Logger Console) : Use → Logger Console
  | .enable => { l with ring := l.ring.enable }
  | .push e => { l with ring := (l.ring.push e).2 }
  | .pop => { l with ring := l.ring.pop.2 }
  | .drain out => { l with ring := (l.ring.drain out).2 }
  | .discard => { l with ring := l.ring.discard }
  | .record level target fragments => (l.accept level target fragments).2

/-- What a use offers to the buffer: an entry of the caller's, or the entry of a record. -/
def offered (l : Logger Console) : Use → List (Origin × Entry)
  | .push e => [(.caller, e)]
  | .record level target fragments =>
    if level = .trace then []
    else [(.logger,
      .ofText l.nextSequence.toNat level target (Text.gather entrySize fragments))]
  | _ => []

/-- What a use offers and the buffer takes. -/
def accepted (l : Logger Console) (u : Use) : List (Origin × Entry) :=
  (l.offered u).filter fun offer => (l.ring.push offer.2).1

/-- What a use offers while the buffer is enabled and full. -/
def refused (l : Logger Console) (u : Use) : List (Origin × Entry) :=
  (l.offered u).filter fun _ => l.ring.enabled && l.ring.isFull

/-- What a use takes from the queue. -/
def departed (l : Logger Console) : Use → List (Fate × Entry)
  | .pop => l.ring.pop.1.toList.map (.popped, ·)
  | .drain out =>
    (l.ring.written out.length).map (.written, ·) ++ (l.ring.lost out.length).map (.lost, ·)
  | .discard => if l.ring.enabled then l.ring.queue.map (.discarded, ·) else []
  | _ => []

/-- A record is pushed with its number, if it takes one. -/
theorem after_record (l : Logger Console) (level : Level) (target : String)
    (fragments : List String) : l.after (.record level target fragments) =
      if level = .trace then l else { l with
        ring := (l.ring.push
          (.ofText l.nextSequence.toNat level target (Text.gather entrySize fragments))).2
        nextSequence := l.nextSequence + 1 } := by
  rw [after, accept]
  split <;> rfl

/-- What is offered is pushed, and nothing else is. -/
theorem ring_of_offered {l : Logger Console} {u : Use} {offer : Origin × Entry}
    (h : l.offered u = [offer]) : (l.after u).ring = (l.ring.push offer.2).2 := by
  cases u with
  | push e =>
    cases h
    rfl
  | record level target fragments =>
    rw [after_record]
    rw [offered] at h
    split at h
    · cases h
    · cases h
      rw [if_neg ‹_›]
  | enable | pop | drain | discard => cases h

/-- A use offers one entry, or it is none that offers any. -/
theorem offered_cases (l : Logger Console) (u : Use) :
    l.offered u = [] ∨ ∃ offer, l.offered u = [offer] := by
  cases u with
  | push e => exact .inr ⟨_, rfl⟩
  | record level target fragments =>
    rw [offered]
    split
    · exact .inl rfl
    · exact .inr ⟨_, rfl⟩
  | enable | pop | drain | discard => exact .inl rfl

/-- An entry is accepted only where the buffer is enabled and has room. -/
theorem accepted_cases (l : Logger Console) (u : Use) : l.accepted u = []
    ∨ ∃ offer, l.accepted u = [offer] ∧ l.ring.enabled = true ∧ l.ring.isFull = false := by
  rw [accepted]
  rcases l.offered_cases u with hnone | ⟨offer, hoffer⟩
  · exact .inl (by rw [hnone, List.filter_nil])
  · rw [hoffer, List.filter_cons, List.filter_nil, Ring.push_fst]
    cases l.ring.enabled with
    | false => exact .inl rfl
    | true =>
      cases l.ring.isFull with
      | true => exact .inl rfl
      | false => exact .inr ⟨offer, rfl, rfl, rfl⟩

/-- What is offered goes to the end of the queue if it is accepted. -/
theorem queue_of_offered {l : Logger Console} {u : Use} {offer : Origin × Entry}
    (h : l.offered u = [offer]) :
    (l.after u).ring.queue = l.ring.queue ++ (l.accepted u).map Prod.snd := by
  rw [ring_of_offered h, Ring.push_eq, accepted, h, List.filter_cons, List.filter_nil]
  cases (l.ring.push offer.2).1 <;> rfl

/-- A use leaves the books balanced: what was queued and what is accepted has departed or is queued
    now, and in the same order. -/
theorem balance_after (l : Logger Console) (u : Use) :
    l.ring.queue ++ (l.accepted u).map Prod.snd
      = (l.departed u).map Prod.snd ++ (l.after u).ring.queue := by
  cases u with
  | enable => exact List.append_nil _
  | push e =>
    rw [queue_of_offered rfl]
    rfl
  | record level target fragments =>
    by_cases htrace : level = .trace
    · rw [after_record, if_pos htrace, accepted, offered, if_pos htrace]
      exact List.append_nil _
    · have hoffer : l.offered (.record level target fragments) = [_] := if_neg htrace
      rw [queue_of_offered hoffer]
      rfl
  -- the other three accept nothing, and what departs stood at the front of the queue
  | pop =>
    refine (List.append_nil _).trans ?_
    rw [departed, after, Ring.pop]
    cases l.ring.enabled with
    | false => rfl
    | true => cases l.ring.queue <;> rfl
  | drain out =>
    refine (List.append_nil _).trans ?_
    rw [departed, after, List.map_append, List.map_map, List.map_map]
    refine (l.ring.drain_split out).trans ?_
    congr 2 <;> exact (List.map_id _).symm
  | discard =>
    refine (List.append_nil _).trans ?_
    rw [departed, after, Ring.discard]
    cases l.ring.enabled with
    | false => rfl
    | true =>
      simp only [if_true, List.map_map, List.append_nil]
      exact (List.map_id _).symm

theorem length_queue_after {l : Logger Console} (h : l.ring.queue.length ≤ ringCapacity) (u : Use) :
    (l.after u).ring.queue.length ≤ ringCapacity := by
  have hlength := congrArg List.length (l.balance_after u)
  rw [List.length_append, List.length_append, List.length_map] at hlength
  rcases l.accepted_cases u with hnone | ⟨offer, hoffer, -, hroom⟩
  · rw [hnone, List.length_nil] at hlength
    omega
  · rw [hoffer, List.length_singleton] at hlength
    have hless : l.ring.queue.length < ringCapacity := by simpa [Ring.isFull] using hroom
    omega

/-- A use that offers nothing changes the queue at most, unless it enables the buffer. -/
theorem ring_of_offers_none {l : Logger Console} {u : Use} (h : l.offered u = []) :
    (l.after u).ring
      = ⟨l.ring.enabled || decide (u = .enable), (l.after u).ring.queue, l.ring.dropped⟩ := by
  obtain ⟨⟨enabled, queue, dropped⟩, next, installed, ceiling, console⟩ := l
  cases u with
  | enable => cases enabled <;> rfl
  | pop => cases enabled <;> rfl
  | drain out => cases enabled <;> rfl
  | discard => cases enabled <;> rfl
  | push e => cases h
  | record level target fragments =>
    rw [offered] at h
    split at h
    · rw [after_record, if_pos ‹_›]
      cases enabled <;> rfl
    · cases h

/-- A dropped entry is counted, and nothing else is. -/
theorem dropped_after (l : Logger Console) (u : Use) :
    (l.after u).ring.dropped = l.ring.dropped + .ofNat (l.refused u).length := by
  rcases l.offered_cases u with hnone | ⟨offer, hoffer⟩
  · rw [ring_of_offers_none hnone, refused, hnone]
    exact (UInt64.add_zero _).symm
  · rw [ring_of_offered hoffer, Ring.push_eq, refused, hoffer, List.filter_cons, List.filter_nil]
    cases l.ring.enabled && l.ring.isFull <;> rfl

/-- Nothing but enabling enables the buffer, and nothing disables it. -/
theorem enabled_after (l : Logger Console) (u : Use) :
    (l.after u).ring.enabled = (l.ring.enabled || decide (u = .enable)) := by
  rcases l.offered_cases u with hnone | ⟨offer, hoffer⟩
  · rw [ring_of_offers_none hnone]
  · have hu : u ≠ .enable := by
      rintro rfl
      cases hoffer
    rw [ring_of_offered hoffer, Ring.push_eq, decide_eq_false hu, Bool.or_false]

/-- While the buffer is off, it stays as it is. -/
theorem ring_after_of_disabled {l : Logger Console} {u : Use}
    (h : (l.after u).ring.enabled = false) : (l.after u).ring = l.ring := by
  rw [enabled_after, Bool.or_eq_false_iff, decide_eq_false_iff_not] at h
  obtain ⟨hoff, hu⟩ := h
  obtain ⟨⟨enabled, queue, dropped⟩, next, installed, ceiling, console⟩ := l
  cases hoff
  cases u with
  | enable => exact absurd rfl hu
  | push | pop | drain | discard => rfl
  | record level target fragments =>
    rw [after_record]
    split <;> rfl

/-- A record takes the next number unless it is finer than debug. -/
theorem nextSequence_after (l : Logger Console) (u : Use) :
    (l.after u).nextSequence = l.nextSequence + .ofNat (if u.isNumbered then 1 else 0) := by
  cases u with
  | record level target fragments =>
    rw [after_record, Use.isNumbered]
    by_cases htrace : level = .trace <;> simp [htrace]
  | enable | push | pop | drain | discard => exact (UInt64.add_zero _).symm

/-- The entry of a record has its number, whether or not it is accepted. -/
theorem sequences_offered (l : Logger Console) (u : Use) :
    ((l.offered u).filter (·.1 = .logger)).map (·.2.sequence)
      = (List.range (if u.isNumbered then 1 else 0)).map
        fun i => (l.nextSequence + .ofNat i).toNat := by
  cases u with
  | record level target fragments =>
    rw [offered, Use.isNumbered]
    by_cases htrace : level = .trace <;> simp [htrace, Entry.ofText]
  | enable | push | pop | drain | discard => rfl

/-! ### Uses one after another -/

/-- The log after some uses, from the first on. -/
def run (l : Logger Console) (us : List Use) : Logger Console := us.foldl after l

/-- What the uses bring about, one after another. -/
def along {α : Type} (f : Logger Console → Use → List α) (l : Logger Console) : List Use → List α
  | [] => []
  | u :: us => f l u ++ along f (l.after u) us

theorem balance_run (l : Logger Console) (us : List Use) :
    l.ring.queue ++ (along accepted l us).map Prod.snd
      = (along departed l us).map Prod.snd ++ (l.run us).ring.queue := by
  induction us generalizing l with
  | nil => exact List.append_nil _
  | cons u us ih =>
    rw [along, along, List.map_append, List.map_append]
    calc l.ring.queue ++ ((l.accepted u).map Prod.snd
          ++ (along accepted (l.after u) us).map Prod.snd)
        = (l.departed u).map Prod.snd ++ ((l.after u).ring.queue
          ++ (along accepted (l.after u) us).map Prod.snd) := by
          rw [← List.append_assoc, balance_after, List.append_assoc]
      _ = (l.departed u).map Prod.snd ++ (along departed (l.after u) us).map Prod.snd
          ++ (l.run (u :: us)).ring.queue := by
          rw [ih, List.append_assoc]
          rfl

theorem length_queue_run {l : Logger Console} (h : l.ring.queue.length ≤ ringCapacity)
    (us : List Use) : (l.run us).ring.queue.length ≤ ringCapacity := by
  induction us generalizing l with
  | nil => exact h
  | cons u us ih => exact ih (length_queue_after h u)

theorem dropped_run (l : Logger Console) (us : List Use) :
    (l.run us).ring.dropped = l.ring.dropped + .ofNat (along refused l us).length := by
  induction us generalizing l with
  | nil => exact (UInt64.add_zero _).symm
  | cons u us ih =>
    rw [along, List.length_append, UInt64.ofNat_add, ← UInt64.add_assoc, ← dropped_after]
    exact ih (l.after u)

theorem enabled_run (l : Logger Console) (us : List Use) :
    (l.run us).ring.enabled = true ↔ l.ring.enabled = true ∨ .enable ∈ us := by
  induction us generalizing l with
  | nil => simp [run]
  | cons u us ih =>
    refine (ih (l.after u)).trans ?_
    rw [enabled_after, Bool.or_eq_true, decide_eq_true_iff, List.mem_cons, or_assoc,
      @eq_comm _ u]

theorem ring_run_of_disabled {l : Logger Console} {us : List Use}
    (h : (l.run us).ring.enabled = false) : (l.run us).ring = l.ring := by
  induction us generalizing l with
  | nil => rfl
  | cons u us ih =>
    have hring : ((l.after u).run us).ring = (l.after u).ring := ih h
    refine hring.trans (ring_after_of_disabled ?_)
    rw [← hring]
    exact h

theorem nextSequence_run (l : Logger Console) (us : List Use) :
    (l.run us).nextSequence = l.nextSequence + .ofNat (us.countP Use.isNumbered) := by
  induction us generalizing l with
  | nil => exact (UInt64.add_zero _).symm
  | cons u us ih =>
    refine (ih (l.after u)).trans ?_
    rw [nextSequence_after, List.countP_cons, Nat.add_comm (us.countP _), UInt64.ofNat_add,
      UInt64.add_assoc]

/-- The records are numbered as they come, from the next number on and without a gap. -/
theorem sequences_offered_along (l : Logger Console) (us : List Use) :
    ((along offered l us).filter (·.1 = .logger)).map (·.2.sequence)
      = (List.range (us.countP Use.isNumbered)).map
        fun i => (l.nextSequence + .ofNat i).toNat := by
  induction us generalizing l with
  | nil => rfl
  | cons u us ih =>
    rw [along, List.filter_append, List.map_append, ih, sequences_offered, nextSequence_after,
      List.countP_cons, Nat.add_comm (us.countP _), List.range_add, List.map_append, List.map_map]
    -- the numbers after this use are those that are left of the numbers from its own on
    congr 2
    funext i
    rw [Function.comp_apply, UInt64.ofNat_add, UInt64.add_assoc]

/-- What is accepted has been offered, and in the same order. -/
theorem accepted_sublist_offered (l : Logger Console) (us : List Use) :
    (along accepted l us).Sublist (along offered l us) := by
  induction us generalizing l with
  | nil => exact .slnil
  | cons u us ih => exact List.filter_sublist.append (ih (l.after u))

/-! ### The books -/

/-- How many departures had this fate. -/
def countFate (fate : Fate) (departures : List (Fate × Entry)) : Nat :=
  departures.countP (·.1 = fate)

/-- The entries that somebody has received. -/
def handedOut (departures : List (Fate × Entry)) : List Entry :=
  (departures.filter (·.1.isHandedOut)).map Prod.snd

/-- The entries of records among them: what is accepted first departs first, so offers and
    departures pair up. -/
def handedOutRecords (offers : List (Origin × Entry)) (departures : List (Fate × Entry)) :
    List Entry :=
  ((offers.zip departures).filter fun p => p.1.1 = .logger ∧ p.2.1.isHandedOut).map (·.2.2)

/-- Every departure has one of the four fates. -/
theorem length_eq_sum_fates (departures : List (Fate × Entry)) : departures.length
    = countFate .popped departures + countFate .written departures + countFate .lost departures
      + countFate .discarded departures := by
  simp only [countFate]
  induction departures with
  | nil => rfl
  | cons departure departures ih =>
    obtain ⟨fate, e⟩ := departure
    cases fate <;> simp [ih] <;> omega

/-- Where departures repeat what was offered, the records that are handed out are among those
    offered, in the same order. -/
theorem handedOutRecords_sublist {offers : List (Origin × Entry)} {departures : List (Fate × Entry)}
    {left : List Entry} (h : offers.map Prod.snd = departures.map Prod.snd ++ left) :
    (handedOutRecords offers departures).Sublist
      ((offers.filter (·.1 = .logger)).map Prod.snd) := by
  induction departures generalizing offers with
  | nil =>
    rw [handedOutRecords, List.zip_nil_right]
    exact List.nil_sublist _
  | cons departure departures ih =>
    cases offers with
    | nil => exact List.nil_sublist _
    | cons offer offers =>
      obtain ⟨origin, e⟩ := offer
      obtain ⟨fate, e'⟩ := departure
      simp only [List.map_cons, List.cons_append, List.cons.injEq] at h
      obtain ⟨rfl, h⟩ := h
      have hrest := ih h
      -- what departs is what was accepted in its place, so one case for each kind of pair
      cases origin with
      | caller => simpa [handedOutRecords] using hrest
      | logger =>
        cases hfate : fate.isHandedOut with
        | true => simpa [handedOutRecords, hfate] using hrest
        | false =>
          have hskip := hrest.cons e
          simpa [handedOutRecords, hfate] using hskip

section

/-! From the beginning on nothing is queued at first, and the first number is zero. -/

variable (Console) (us : List Use)

theorem conserved_initial :
    (along accepted (initial : Logger Console) us).map Prod.snd
      = (along departed (initial : Logger Console) us).map Prod.snd
        ++ (run (initial : Logger Console) us).ring.queue :=
  balance_run initial us

theorem numbered_initial :
    ((along offered (initial : Logger Console) us).filter (·.1 = .logger)).map (·.2.sequence)
      = (List.range (us.countP Use.isNumbered)).map (· % 2 ^ 64) := by
  rw [sequences_offered_along]
  refine List.map_congr_left fun i _ => ?_
  rw [initial, UInt64.zero_add, UInt64.toNat_ofNat']

/-- Records that are handed out have ascending numbers, since all records have. -/
theorem increasing_initial (few : us.countP Use.isNumbered ≤ 2 ^ 64) :
    (handedOutRecords (along accepted (initial : Logger Console) us)
      (along departed (initial : Logger Console) us)).Pairwise (·.sequence < ·.sequence) := by
  have hall : (((along offered (initial : Logger Console) us).filter (·.1 = .logger)).map
      Prod.snd).Pairwise (·.sequence < ·.sequence) := by
    have hown : (List.range (us.countP Use.isNumbered)).map (· % 2 ^ 64)
        = List.range (us.countP Use.isNumbered) := by
      refine (List.map_congr_left fun i hi => ?_).trans (List.map_id _)
      exact Nat.mod_eq_of_lt (Nat.lt_of_lt_of_le (List.mem_range.1 hi) few)
    have hrange := List.pairwise_lt_range (n := us.countP Use.isNumbered)
    rw [← hown, ← numbered_initial Console us, List.pairwise_map] at hrange
    exact List.pairwise_map.2 hrange
  refine hall.sublist ((handedOutRecords_sublist (conserved_initial Console us)).trans ?_)
  exact ((accepted_sublist_offered initial us).filter _).map _

theorem enabled_initial_iff :
    (run (initial : Logger Console) us).ring.enabled = true ↔ .enable ∈ us := by
  rw [enabled_run]
  exact or_iff_right Bool.false_ne_true

/-- A pop gives the entry that was accepted first among those that have not departed. -/
theorem pop_initial : (run (initial : Logger Console) us).ring.pop.1
    = ((along accepted (initial : Logger Console) us).map Prod.snd)[
      (along departed (initial : Logger Console) us).length]? := by
  have hqueue : ((along accepted (initial : Logger Console) us).map Prod.snd)[
      (along departed (initial : Logger Console) us).length]?
        = (run (initial : Logger Console) us).ring.queue.head? := by
    rw [conserved_initial, List.getElem?_append_right (Nat.le_of_eq (List.length_map _)),
      List.length_map, Nat.sub_self, List.head?_eq_getElem?]
  rw [hqueue, Ring.pop_fst]
  split
  · rfl
  · -- nothing is queued before the buffer is enabled
    rw [ring_run_of_disabled (Bool.not_eq_true _ ▸ ‹_›)]
    rfl

end

/-- What the books say of a log that was used from the beginning. -/
structure Accounted (us : List Use) (start l : Logger Console) : Prop where
  bounded : l.ring.queue.length ≤ ringCapacity
  enabled_iff : l.ring.enabled = true ↔ .enable ∈ us
  /-- Before the buffer is enabled nothing is kept and nothing is counted. -/
  untouched : .enable ∉ us → l.ring = .initial
  push_iff (e : Entry) :
    (l.ring.push e).1 = true ↔ l.ring.enabled = true ∧ l.ring.queue.length < ringCapacity
  /-- Every entry that is refused is counted; the counter wraps. -/
  dropped_eq : l.ring.dropped.toNat = (along refused start us).length % 2 ^ 64
  /-- A pop takes the oldest entry of the queue, and nothing before the buffer is enabled. -/
  popped : l.ring.pop = if l.ring.enabled
    then (l.ring.queue.head?, { l.ring with queue := l.ring.queue.tail }) else (none, l.ring)
  /-- So it gives the entry that was accepted first among those that have not departed. -/
  oldest :
    l.ring.pop.1 = ((along accepted start us).map Prod.snd)[(along departed start us).length]?
  /-- What was accepted has left in the order of its acceptance, unaltered, or is queued. -/
  conserved : (along accepted start us).map Prod.snd
    = (along departed start us).map Prod.snd ++ l.ring.queue
  counted : (along accepted start us).length
    = countFate .popped (along departed start us) + countFate .written (along departed start us)
      + countFate .lost (along departed start us) + countFate .discarded (along departed start us)
      + l.ring.queue.length
  handedOut_sublist :
    (handedOut (along departed start us)).Sublist ((along accepted start us).map Prod.snd)
  /-- What a drain hands out are the lines of the entries that it counts as written, and it has a
      result unless the entry that it loses cannot be read. -/
  drained (out : List UInt8) :
    ∃ text, lines? (l.ring.written out.length) = some text ∧ text.utf8ByteSize ≤ out.length
      ∧ (l.ring.drain out).1 = if (l.ring.lost out.length).all (·.line?.isSome)
        then some ⟨Text.bytesOf text ++ out.drop text.utf8ByteSize, text.utf8ByteSize⟩ else none
  /-- Every record that is no finer than debug takes one number, be it accepted or not. -/
  numbered : l.nextSequence.toNat = us.countP Use.isNumbered % 2 ^ 64
    ∧ ((along offered start us).filter (·.1 = .logger)).map (·.2.sequence)
      = (List.range (us.countP Use.isNumbered)).map (· % 2 ^ 64)
  /-- As long as there are numbers for all records, those handed out have ascending ones. -/
  increasing : us.countP Use.isNumbered ≤ 2 ^ 64 →
    (handedOutRecords (along accepted start us) (along departed start us)).Pairwise
      (·.sequence < ·.sequence)

/-- The log accounts for every entry, whatever is done to it. -/
theorem every_entry_accounted (us : List Use) :
    Accounted us (initial : Logger Console) (run initial us) where
  bounded := length_queue_run (Nat.zero_le _) us
  enabled_iff := enabled_initial_iff Console us
  untouched h := ring_run_of_disabled (Bool.not_eq_true _ ▸ mt (enabled_initial_iff Console us).1 h)
  push_iff e := by
    rw [Ring.push_fst, Bool.and_eq_true, Bool.not_eq_true', Ring.isFull, decide_eq_false_iff_not,
      Nat.not_le]
  dropped_eq := by
    rw [dropped_run, initial, Ring.initial, UInt64.zero_add, UInt64.toNat_ofNat']
  popped := rfl
  oldest := pop_initial Console us
  conserved := conserved_initial Console us
  counted := by
    have hlength := congrArg List.length (conserved_initial Console us)
    rw [List.length_append, List.length_map, List.length_map] at hlength
    rw [hlength, length_eq_sum_fates]
  handedOut_sublist := by
    rw [conserved_initial]
    exact (List.filter_sublist.map _).trans (List.sublist_append_left _ _)
  drained := Ring.drain_fst _
  numbered := by
    refine ⟨?_, numbered_initial Console us⟩
    rw [nextSequence_run, initial, UInt64.zero_add, UInt64.toNat_ofNat']
  increasing := increasing_initial Console us

/-- The first record comes too early, and the second one has number 1 all the same. -/
example : (handedOut (along departed (initial : Logger Unit) [.record .info "irq" ["early"],
    .enable, .record .debug "irq" ["kept"], .record .trace "irq" ["ignored"], .pop])).map
      (·.sequence) = [1] := by decide

end Logger

end InterruptCaps.Log
