import StreamRelay.Proofs.Pump.Farewell

set_option autoImplicit false
set_option relaxedAutoImplicit false

namespace StreamRelay.Pump

def Call.writes : Call → Bool
  | .write _ => true
  | _ => false

def Call.sends (call : Call) : Bool := call.writes || call = .flush

/-- The bytes that the destination took in an attempt. -/
def Attempt.taken : Attempt → Bytes
  | ⟨.write data, some (.ok count)⟩ => data.take count
  | _ => []

def Attempt.result? : Attempt → Option (Except IoError Unit)
  | ⟨.write _, some (.ok 0)⟩ => some (.error (.bare .writeZero))
  | ⟨.write _, some (.error error)⟩ => some (.error error)
  | ⟨.flush, answer?⟩ => answer?
  | _ => none

def handed (log : List Attempt) : Bytes := log.flatMap Attempt.taken

def returned (sending : List Attempt) : Option (Except IoError Unit) :=
  sending.getLast?.bind Attempt.result?

inductive Asks (chunk : Bytes) (accepted : Nat) : Call → Prop
  | write : accepted < chunk.length → Asks chunk accepted (.write (chunk.drop accepted))
  | flush : accepted = chunk.length → Asks chunk accepted .flush

/-- Writes of which the destination took something, with the number of bytes that it took. -/
inductive Accepts (chunk : Bytes) : List Attempt → Nat → Prop
  | nothing : Accepts chunk [] 0
  | more {log : List Attempt} {accepted count : Nat} : Accepts chunk log accepted → 0 < count →
      count ≤ (chunk.drop accepted).length →
      Accepts chunk (log ++ [⟨.write (chunk.drop accepted), some (.ok count)⟩]) (accepted + count)

section

variable {chunk : Bytes} {log : List Attempt} {accepted : Nat}

private theorem handed_append (log log' : List Attempt) :
    handed (log ++ log') = handed log ++ handed log' :=
  List.flatMap_append

private theorem handed_singleton (a : Attempt) : handed [a] = a.taken := by simp [handed]

theorem Asks.unique {call call' : Call} (asks : Asks chunk accepted call)
    (asks' : Asks chunk accepted call') : call = call' := by
  cases asks with
  | write below =>
    cases asks' with
    | write _ => rfl
    | flush whole => omega
  | flush whole =>
    cases asks' with
    | write below => omega
    | flush _ => rfl

private theorem Asks.sends {call : Call} (asks : Asks chunk accepted call) : call.sends = true := by
  cases asks <;> rfl

theorem Accepts.le (accepts : Accepts chunk log accepted) : accepted ≤ chunk.length := by
  induction accepts with
  | nothing => exact Nat.zero_le _
  | more _ _ within ih =>
    rw [List.length_drop] at within
    omega

theorem Accepts.handed (accepts : Accepts chunk log accepted) :
    Pump.handed log = chunk.take accepted := by
  induction accepts with
  | nothing => rfl
  | @more log accepted count _ _ _ ih =>
    rw [handed_append, handed_singleton, ih, List.take_add]
    rfl

theorem Accepts.length_handed (accepts : Accepts chunk log accepted) :
    (Pump.handed log).length = accepted := by
  rw [accepts.handed, List.length_take_of_le accepts.le]

private theorem Accepts.length_le (accepts : Accepts chunk log accepted) :
    log.length ≤ accepted := by
  induction accepts with
  | nothing => exact Nat.le_refl 0
  | more _ some _ ih =>
    rw [List.length_append, List.length_singleton]
    omega

theorem Accepts.settled (accepts : Accepts chunk log accepted) :
    ∀ a ∈ log.getLast?, a.answer?.isSome = true := by
  cases accepts <;> simp

private theorem Accepts.sends (accepts : Accepts chunk log accepted) :
    ∀ a ∈ log, a.call.sends = true := by
  induction accepts with
  | nothing => simp
  | more _ _ _ ih => simpa [or_imp, forall_and, Call.sends, Call.writes] using ih

theorem Accepts.returned (accepts : Accepts chunk log accepted) : Pump.returned log = none := by
  cases accepts with
  | nothing => rfl
  | @more log accepted count _ some _ =>
    obtain ⟨count, rfl⟩ := Nat.exists_eq_add_one.mpr some
    simp [Pump.returned, Attempt.result?]

private theorem Accepts.split (accepts : Accepts chunk log accepted) {before later : List Attempt}
    {a : Attempt} (parts : log = before ++ a :: later) :
    ∃ earlier, Accepts chunk before earlier ∧ Asks chunk earlier a.call ∧
      ∃ data count, 0 < count ∧ a = ⟨.write data, some (.ok count)⟩ := by
  induction accepts generalizing later with
  | nothing => simp at parts
  | @more log accepted count accepts some within ih =>
    -- The attempts grow at their end, so the last one is looked at first.
    rcases List.eq_nil_or_concat later with rfl | ⟨later, last, rfl⟩
    · obtain ⟨rfl, same⟩ := List.append_inj' parts rfl
      obtain rfl := List.singleton_inj.mp same
      have below : accepted < chunk.length := by
        rw [List.length_drop] at within
        omega
      exact ⟨accepted, accepts, .write below, _, count, some, rfl⟩
    · rw [List.concat_eq_append, ← List.cons_append, ← List.append_assoc] at parts
      exact ih (List.append_inj' parts rfl).1

end

/-- Writes of which something was taken, and perhaps one more call, of which nothing was. -/
inductive Sends (chunk : Bytes) (accepted : Nat) : List Attempt → Prop
  | going {log : List Attempt} : Accepts chunk log accepted → Sends chunk accepted log
  | last {log : List Attempt} {last : Attempt} : Accepts chunk log accepted →
      Asks chunk accepted last.call → last.taken = [] → Sends chunk accepted (log ++ [last])

theorem returned_concat (front : List Attempt) (last : Attempt) :
    returned (front ++ [last]) = last.result? := by
  simp [returned]

theorem Attempt.answered_of_result? {a : Attempt} {result : Except IoError Unit}
    (why : a.result? = some result) : a.answer?.isSome = true := by
  obtain ⟨call, _ | answer⟩ := a
  · cases call <;> cases why
  · rfl

theorem Attempt.taken_of_result? {a : Attempt} {result : Except IoError Unit}
    (why : a.result? = some result) : a.taken = [] := by
  unfold Attempt.result? at why
  split at why
  · rfl
  · rfl
  · rfl
  · cases why

theorem Attempt.taken_waiting (call : Call) : (⟨call, none⟩ : Attempt).taken = [] := by
  cases call <;> rfl

private theorem Attempt.result?_eq_ok_iff {a : Attempt} :
    a.result? = some (.ok ()) ↔ a = ⟨.flush, some (.ok ())⟩ := by
  constructor
  · intro why
    unfold Attempt.result? at why
    split at why
    · cases why
    · cases why
    · rw [why]
    · cases why
  · rintro rfl
    rfl

section

variable {chunk : Bytes} {accepted : Nat} {sending : List Attempt}

theorem Sends.sends (sends : Sends chunk accepted sending) :
    ∀ a ∈ sending, a.call.sends = true := by
  cases sends with
  | going accepts => exact accepts.sends
  | last accepts asks _ => simpa [or_imp, forall_and] using ⟨accepts.sends, asks.sends⟩

theorem Sends.handed (sends : Sends chunk accepted sending) :
    Pump.handed sending = chunk.take accepted := by
  cases sends with
  | going accepts => exact accepts.handed
  | last accepts _ none =>
    rw [handed_append, handed_singleton, none, List.append_nil, accepts.handed]

theorem Sends.length_handed (sends : Sends chunk accepted sending) :
    (Pump.handed sending).length = accepted := by
  have within : accepted ≤ chunk.length := by
    cases sends with
    | going accepts | last accepts _ _ => exact accepts.le
  rw [sends.handed, List.length_take_of_le within]

/-- There are no more writes than bytes, for each but the last one takes a byte at least. -/
theorem Sends.countP_writes_le (sends : Sends chunk accepted sending) :
    sending.countP (·.call.writes) ≤ chunk.length := by
  have several {log : List Attempt} (accepts : Accepts chunk log accepted) :
      log.countP (·.call.writes) ≤ accepted :=
    Nat.le_trans List.countP_le_length accepts.length_le
  cases sends with
  | going accepts => exact Nat.le_trans (several accepts) accepts.le
  | @last log last accepts asks _ =>
    have before := several accepts
    rw [List.countP_append, List.countP_singleton]
    generalize last.call = call at asks
    cases asks with
    | write below =>
      split <;> omega
    | flush whole =>
      rw [if_neg (by decide)]
      omega

theorem Sends.split (sends : Sends chunk accepted sending) {before later : List Attempt}
    {a : Attempt} (parts : sending = before ++ a :: later) :
    ∃ earlier, Accepts chunk before earlier ∧ Asks chunk earlier a.call ∧
      (later = [] ∨ ∃ data count, 0 < count ∧ a = ⟨.write data, some (.ok count)⟩) := by
  have within {log rest : List Attempt} (accepts : Accepts chunk log accepted)
      (parts : log = before ++ a :: rest) :
      ∃ earlier, Accepts chunk before earlier ∧ Asks chunk earlier a.call ∧
        (later = [] ∨ ∃ data count, 0 < count ∧ a = ⟨.write data, some (.ok count)⟩) := by
    obtain ⟨earlier, accepts, asks, some⟩ := accepts.split parts
    exact ⟨earlier, accepts, asks, .inr some⟩
  cases sends with
  | going accepts => exact within accepts parts
  | last accepts asks _ =>
    rcases List.eq_nil_or_concat later with rfl | ⟨rest, last, rfl⟩
    · obtain ⟨rfl, same⟩ := List.append_inj' parts rfl
      obtain rfl := List.singleton_inj.mp same
      exact ⟨accepted, accepts, asks, .inl rfl⟩
    · rw [List.concat_eq_append, ← List.cons_append, ← List.append_assoc] at parts
      exact within accepts (List.append_inj' parts rfl).1

theorem Sends.returned_eq_ok_iff (sends : Sends chunk accepted sending) :
    returned sending = some (.ok ()) ↔
      Pump.handed sending = chunk ∧ sending.getLast? = some ⟨.flush, some (.ok ())⟩ := by
  constructor
  · intro done
    cases sends with
    | going accepts => cases accepts.returned.symm.trans done
    | last accepts asks _ =>
      rw [returned_concat] at done
      obtain rfl := Attempt.result?_eq_ok_iff.mp done
      cases asks with
      | flush whole =>
        refine ⟨?_, by simp⟩
        rw [handed_append, accepts.handed, whole, List.take_length]
        exact List.append_nil _
  · rintro ⟨-, last⟩
    rw [returned, last]
    rfl

end

private theorem note_concat (front : List Attempt) (last : Attempt) (call : Call)
    (answer? : Option call.Answer) :
    (last.call = call ∧
        Attempt.note (front ++ [last]) call answer? = front ++ [⟨call, answer?⟩]) ∨
      Attempt.note (front ++ [last]) call answer? = front ++ [last, ⟨call, answer?⟩] := by
  obtain ⟨waiting, _ | answer⟩ := last
  · by_cases same : waiting = call
    · subst same
      exact .inl ⟨rfl, note_waiting front waiting answer?⟩
    · exact .inr (by simp [Attempt.note, same])
  · rw [note_settled (by simp), List.append_assoc]
    exact .inr rfl

theorem note_cons (front : List Attempt) (next : Attempt) (later : List Attempt) (call : Call)
    (answer? : Option call.Answer) :
    ∃ next' later', next'.call = next.call ∧
      Attempt.note (front ++ next :: later) call answer? = front ++ next' :: later' := by
  rcases List.eq_nil_or_concat later with rfl | ⟨later, last, rfl⟩
  · rcases note_concat front next call answer? with ⟨same, noted⟩ | noted
    · exact ⟨⟨call, answer?⟩, [], same.symm, noted⟩
    · exact ⟨next, [⟨call, answer?⟩], rfl, noted⟩
  · have parts : front ++ next :: later.concat last = (front ++ next :: later) ++ [last] := by simp
    rw [parts]
    rcases note_concat (front ++ next :: later) last call answer? with ⟨-, noted⟩ | noted
    · exact ⟨next, later ++ [⟨call, answer?⟩], rfl, noted.trans (by simp)⟩
    · exact ⟨next, later ++ [last, ⟨call, answer?⟩], rfl, noted.trans (by simp)⟩

end StreamRelay.Pump
