import StreamRelay.Proofs.Pump.Cancellation
import StreamRelay.Proofs.Pump.Sending

set_option autoImplicit false
set_option relaxedAutoImplicit false

namespace StreamRelay.Pump

/-- Where a pump stands with a chunk; one without bytes is only flushed. -/
def toward (size accepted : Nat) : Phase :=
  if accepted < size then .writing size accepted else .flushing size

def takeUp (pump : Pump) (chunk : Bytes) : Pump :=
  (pump.load chunk).enter (toward chunk.length 0)

def Note.failure? : Note → Option IoError
  | .writeFailed _ error => some error
  | _ => none

def failures (notes : List Note) : List IoError := notes.filterMap Note.failure?

/-- What the writing of a chunk amounts to: the pump then, its failures, and the result so far. -/
inductive Amounts (pump : Pump) (chunk : Bytes) (accepted : Nat) (after : Pump) :
    List IoError → Option (Except IoError Unit) → Prop
  | going : after.total = pump.total →
      (after.phase = toward chunk.length accepted ∨ after.phase = .stopped .cancelled) →
      Amounts pump chunk accepted after [] none
  | through : after.total = pump.total + chunk.length →
      (after.phase = .reading ∨ after.phase = .stopped .cancelled) →
      Amounts pump chunk accepted after [] (some (.ok ()))
  | failed {error : IoError} : after.total = pump.total →
      (after.phase = .endingSource ∨ after.phase = .stopped .writeError) →
      Amounts pump chunk accepted after [error] (some (.error error))

/-- The call that comes behind the result of a chunk: more is read, or the source is let go of. -/
inductive ComesNext (room : Nat) : Option (Except IoError Unit) → Call → Prop
  | reads : ComesNext room (some (.ok ())) (.read room)
  | letsGo {error : IoError} : ComesNext room (some (.error error)) .closeRead

private theorem failures_append (notes notes' : List Note) :
    failures (notes ++ notes') = failures notes ++ failures notes' :=
  List.filterMap_append

private theorem failures_stopped (notes : List Note) (total : Nat) (exit : Exit) :
    failures (notes ++ [.stopped total exit]) = failures notes := by
  rw [failures_append]
  exact List.append_nil _

/-- The attempts to write a chunk, and what comes behind its result. -/
inductive Serves (start : Pump) (chunk : Bytes) : Pump → List Attempt → List IoError → Prop
  | going {log : List Attempt} {accepted : Nat} {phase : Phase} : Accepts chunk log accepted →
      (phase = toward chunk.length accepted ∨ phase = .stopped .cancelled) →
      Serves start chunk (start.enter phase) log []
  | waits {log : List Attempt} {accepted : Nat} {phase : Phase} {call : Call} :
      Accepts chunk log accepted → Asks chunk accepted call →
      (phase = toward chunk.length accepted ∨ phase = .stopped .cancelled) →
      Serves start chunk (start.enter phase) (log ++ [⟨call, none⟩]) []
  | flushed {log : List Attempt} {phase : Phase} : Accepts chunk log chunk.length →
      (phase = .reading ∨ phase = .stopped .cancelled) →
      Serves start chunk { start with total := start.total + chunk.length, phase }
        (log ++ [⟨.flush, some (.ok ())⟩]) []
  | failed {log : List Attempt} {accepted : Nat} {last : Attempt} {error : IoError}
      {phase : Phase} : Accepts chunk log accepted → Asks chunk accepted last.call →
      last.result? = some (.error error) → (phase = .endingSource ∨ phase = .stopped .writeError) →
      Serves start chunk (start.enter phase) (log ++ [last]) [error]
  | afterwards {log later : List Attempt} {accepted : Nat} {last next : Attempt}
      {result : Except IoError Unit} {pump : Pump} {reported : List IoError} :
      Accepts chunk log accepted → Asks chunk accepted last.call → last.result? = some result →
      ComesNext start.buffer.size (some result) next.call →
      Serves start chunk pump (log ++ last :: next :: later) reported

section

variable {start pump : Pump} {chunk : Bytes} {log : List Attempt} {reported : List IoError}
  {accepted : Nat}

private theorem toward_moves (size accepted : Nat) : (toward size accepted).moves = true := by
  unfold toward
  split <;> rfl

private theorem Serves.heed (serves : Serves start chunk pump log reported) (cancelled : Bool) :
    Serves start chunk (pump.heed cancelled) log reported := by
  cases cancelled with
  | false => exact serves
  | true =>
    cases serves with
    | going accepts stage =>
      rcases stage with rfl | rfl
      · rw [heed_moving (toward_moves _ _)]
        exact .going accepts (.inr rfl)
      · exact .going accepts (.inr rfl)
    | waits accepts asks stage =>
      rcases stage with rfl | rfl
      · rw [heed_moving (toward_moves _ _)]
        exact .waits accepts asks (.inr rfl)
      · exact .waits accepts asks (.inr rfl)
    | flushed accepts stage =>
      rcases stage with rfl | rfl <;> exact .flushed accepts (.inr rfl)
    | failed accepts asks why stage =>
      rcases stage with rfl | rfl
      · exact .failed accepts asks why (.inl rfl)
      · exact .failed accepts asks why (.inr rfl)
    | afterwards accepts asks why next => exact .afterwards accepts asks why next

private theorem asks_of_call? (loaded : start.buffer.bytes.take chunk.length = chunk)
    (within : accepted ≤ chunk.length) {call : Call}
    (asked : (start.enter (toward chunk.length accepted)).call? = some call) :
    Asks chunk accepted call := by
  unfold toward at asked
  split at asked
  · rename_i below
    have offered : Call.write (chunk.drop accepted) = call := by
      rw [← loaded]
      simpa only [call?, enter, pending, loaded] using Option.some.inj asked
    exact offered ▸ .write below
  · obtain rfl := Option.some.inj asked
    exact .flush (by omega)

private theorem Accepts.fail (accepts : Accepts chunk log accepted) {last : Attempt}
    {error : IoError}
    (asks : Asks chunk accepted last.call) (why : last.result? = some (.error error))
    (phase : Phase) (cancelled : Bool) :
    Serves start chunk ((start.enter phase).failWrite cancelled error).1 (log ++ [last])
      (failures ((start.enter phase).failWrite cancelled error).2) := by
  rw [Pump.failWrite]
  cases (start.enter phase).sourceControl with
  | true => exact .failed accepts asks why (.inl rfl)
  | false => exact .failed accepts asks why (.inr rfl)

private theorem Accepts.resume (accepts : Accepts chunk log accepted) {call : Call}
    (asks : Asks chunk accepted call) {answer : call.Answer}
    (honest : Exchange.IsHonest ⟨call, answer⟩) (cancelled : Bool) :
    let after := (start.enter (toward chunk.length accepted)).resume cancelled call answer
    Serves start chunk after.1 (log ++ [⟨call, some answer⟩]) (failures after.2) := by
  intro after
  cases asks with
  | write below =>
    have phase : toward chunk.length accepted = .writing chunk.length accepted := if_pos below
    have asks : Asks chunk accepted (.write (chunk.drop accepted)) := .write below
    rcases answer with error | count
    · simp only [after, phase, Pump.resume, enter]
      exact accepts.fail asks rfl _ cancelled
    · by_cases none : count = 0
      · subst none
        simp only [after, phase, Pump.resume, enter, if_true]
        exact accepts.fail asks rfl _ cancelled
      · have more := accepts.more (Nat.pos_of_ne_zero none) honest
        have onward : after = (start.enter (toward chunk.length (accepted + count)), []) := by
          by_cases reached : accepted + count < chunk.length
          · have next : toward chunk.length (accepted + count) =
                .writing chunk.length (accepted + count) := if_pos reached
            simp only [after, phase, next, Pump.resume, enter, if_neg none, if_pos reached]
          · have next : toward chunk.length (accepted + count) = .flushing chunk.length :=
              if_neg reached
            simp only [after, phase, next, Pump.resume, enter, if_neg none, if_neg reached]
        rw [onward]
        exact .going more (.inl rfl)
  | flush whole =>
    subst whole
    have phase : toward chunk.length chunk.length = .flushing chunk.length :=
      if_neg (Nat.lt_irrefl _)
    have asks : Asks chunk chunk.length .flush := .flush rfl
    rcases answer with error | _
    · simp only [after, phase, Pump.resume, enter]
      exact accepts.fail asks rfl _ cancelled
    · simp only [after, phase, Pump.resume, enter]
      exact (Serves.flushed accepts (.inl rfl)).heed cancelled

private theorem Serves.note (serves : Serves start chunk pump log reported)
    (loaded : start.buffer.bytes.take chunk.length = chunk) {call : Call}
    (asked : pump.call? = some call) :
    (∃ finished accepted, Accepts chunk finished accepted ∧ Asks chunk accepted call ∧
        pump = start.enter (toward chunk.length accepted) ∧ reported = [] ∧
        ∀ answer?, Attempt.note log call answer? = finished ++ [⟨call, answer?⟩]) ∨
      ∀ answer? pump' reported',
        Serves start chunk pump' (Attempt.note log call answer?) reported' := by
  cases serves with
  | @going _ accepted _ accepts stage =>
    rcases stage with rfl | rfl
    · exact .inl ⟨log, accepted, accepts, asks_of_call? loaded accepts.le asked, rfl, rfl,
        note_settled accepts.settled call⟩
    · cases asked
  | @waits finished accepted _ waiting accepts asks stage =>
    rcases stage with rfl | rfl
    · -- The pump stands where it stood, so it makes the call again that it waits for.
      have asks' := asks_of_call? loaded accepts.le asked
      obtain rfl := asks.unique asks'
      exact .inl ⟨finished, accepted, accepts, asks, rfl, rfl, note_waiting finished waiting⟩
    · cases asked
  | flushed accepts stage =>
    rcases stage with rfl | rfl
    · obtain rfl := Option.some.inj asked
      refine .inr fun answer? pump' reported' => ?_
      rw [note_settled (by simp), List.append_assoc]
      exact .afterwards accepts (.flush rfl) rfl .reads
    · cases asked
  | failed accepts asks why stage =>
    rcases stage with rfl | rfl
    · obtain rfl := Option.some.inj asked
      refine .inr fun answer? pump' reported' => ?_
      rw [note_settled (by simpa using Attempt.answered_of_result? why), List.append_assoc]
      exact .afterwards accepts asks why .letsGo
    · cases asked
  | @afterwards finished later _ last next _ _ _ accepts asks why behind =>
    -- What is noted from here on is of no account, only that the call behind the result stays.
    refine .inr fun answer? pump' reported' => ?_
    have parts : finished ++ last :: next :: later = (finished ++ [last]) ++ next :: later := by
      simp
    obtain ⟨next', later', same, noted⟩ :=
      note_cons (finished ++ [last]) next later call answer?
    rw [parts, noted, List.append_assoc]
    exact .afterwards accepts asks why (same ▸ behind)

end

section

variable {W : Type} {s : Surroundings W} {start : Pump} {chunk : Bytes}

private theorem kept_serves (honest : s.IsHonest)
    (loaded : start.buffer.bytes.take chunk.length = chunk) :
    KeptTold (s.observed Attempt.note) fun pump w told =>
      Serves start chunk pump w.2 (failures told) where
  waiting := by
    rintro pump ⟨w, log⟩ told call ⟨w', log'⟩ asked reply serves
    obtain ⟨-, rfl⟩ := observed_respond reply
    rcases serves.note loaded asked with
      ⟨finished, accepted, accepts, asks, rfl, none, note⟩ | beyond
    · rw [note, none]
      exact .waits accepts asks (.inl rfl)
    · exact beyond none pump _
  answered := by
    rintro pump ⟨w, log⟩ told call answer ⟨w', log'⟩ asked reply serves
    obtain ⟨responded, rfl⟩ := observed_respond reply
    rcases serves.note loaded asked with
      ⟨finished, accepted, accepts, asks, rfl, none, note⟩ | beyond
    · rw [note, failures_append, none]
      exact accepts.resume asks (honest call w answer w' responded) _
    · exact beyond (some answer) _ _

private theorem run_serves (honest : s.IsHonest) (visits : List (Visit W)) (pump : Pump)
    (chunk : Bytes) (w : W) :
    Serves (pump.takeUp chunk) chunk (run s visits (pump.takeUp chunk) w).1
      (attempts s visits (pump.takeUp chunk) w)
      (failures (run s visits (pump.takeUp chunk) w).2.1) := by
  generalize begun : pump.takeUp chunk = start
  have loaded : start.buffer.bytes.take chunk.length = chunk := by
    simp [← begun, takeUp, load, enter]
  have begins : Serves start chunk start [] (failures []) := by
    have stage : start = start.enter (toward chunk.length 0) := by rw [← begun]; rfl
    rw [stage]
    exact .going .nothing (.inl rfl)
  exact (kept_serves honest loaded).run_observed
    (P := fun pump log told => Serves start chunk pump log (failures told))
    (fun cancelled serves => serves.heed cancelled) (fun _ serves => by rwa [failures_stopped])
    visits w [] begins

end

private theorem Serves.parts {start pump : Pump} {chunk : Bytes} {log : List Attempt}
    {reported : List IoError} (serves : Serves start chunk pump log reported) :
    ∃ sending later accepted, log = sending ++ later ∧ Sends chunk accepted sending ∧
      (later = [] → Amounts start chunk accepted pump reported (returned sending)) ∧
      ∀ next rest, later = next :: rest →
        ComesNext start.buffer.size (returned sending) next.call := by
  have nothing {result : Option (Except IoError Unit)} (next : Attempt) (rest : List Attempt)
      (some : [] = next :: rest) : ComesNext start.buffer.size result next.call := nomatch some
  cases serves with
  | @going _ accepted _ accepts stage =>
    refine ⟨log, [], accepted, (List.append_nil _).symm, .going accepts, fun _ => ?_, nothing⟩
    rw [accepts.returned]
    exact .going rfl stage
  | @waits front accepted _ call accepts asks stage =>
    refine ⟨_, [], accepted, (List.append_nil _).symm,
      .last accepts asks (Attempt.taken_waiting call), fun _ => ?_, nothing⟩
    have unanswered : (⟨call, none⟩ : Attempt).result? = none := by cases call <;> rfl
    rw [returned_concat, unanswered]
    exact .going rfl stage
  | flushed accepts stage =>
    refine ⟨_, [], chunk.length, (List.append_nil _).symm, .last accepts (.flush rfl) rfl,
      fun _ => ?_, nothing⟩
    rw [returned_concat]
    exact .through rfl stage
  | @failed front accepted last error _ accepts asks why stage =>
    refine ⟨_, [], accepted, (List.append_nil _).symm,
      .last accepts asks (Attempt.taken_of_result? why), fun _ => ?_, nothing⟩
    rw [returned_concat, why]
    exact .failed rfl stage
  | @afterwards front later accepted last next result _ _ accepts asks why behind =>
    refine ⟨front ++ [last], next :: later, accepted, by simp,
      .last accepts asks (Attempt.taken_of_result? why), (nomatch ·), ?_⟩
    rintro _ _ ⟨⟩
    rwa [returned_concat, why]

private theorem ComesNext.not_sends {room : Nat} {result : Option (Except IoError Unit)}
    {call : Call} (behind : ComesNext room result call) : call.sends = false := by
  cases behind <;> rfl

private theorem takeWhile_sends {chunk : Bytes} {accepted room : Nat} {sending later : List Attempt}
    (sends : Sends chunk accepted sending)
    (behind : ∀ next rest, later = next :: rest → ComesNext room (returned sending) next.call) :
    (sending ++ later).takeWhile (·.call.sends) = sending := by
  rw [List.takeWhile_append_of_pos sends.sends]
  cases later with
  | nil => exact List.append_nil _
  | cons next rest =>
    have other := (behind next rest rfl).not_sends
    rw [List.takeWhile_cons_of_neg (by simp [other]), List.append_nil]

private theorem resume_takeUp {pump : Pump} (reading : pump.phase = .reading) (cancelled : Bool)
    (room : Nat) {chunk : Bytes} (some : chunk ≠ []) :
    pump.resume cancelled (.read room) (.ok chunk) =
      ((pump.takeUp chunk).heed cancelled, []) := by
  obtain ⟨byte, bytes, rfl⟩ := List.exists_cons_of_ne_nil some
  have begins : toward (byte :: bytes).length 0 = .writing (byte :: bytes).length 0 :=
    if_pos (Nat.succ_pos _)
  rw [takeUp, begins]
  simp only [resume, reading]

/-- Each write offers what is left of the chunk, which succeeds when all is taken and flushed. -/
theorem run_sends_chunk {W : Type} {s : Surroundings W} (honest : s.IsHonest)
    (visits : List (Visit W)) (pump : Pump) (chunk : Bytes) (w : W) :
    let begun := pump.takeUp chunk
    let after := run s visits begun w
    let log := attempts s visits begun w
    let sending := log.takeWhile (·.call.sends)
    (pump.phase = .reading → chunk ≠ [] → ∀ cancelled room,
        pump.resume cancelled (.read room) (.ok chunk) = (begun.heed cancelled, [])) ∧
      sending.countP (·.call.writes) ≤ chunk.length ∧
      (∀ before a later, sending = before ++ a :: later →
        handed before <+: chunk ∧
          ((handed before).length < chunk.length ∧
              a.call = .write (chunk.drop (handed before).length) ∨
            handed before = chunk ∧ a.call = .flush) ∧
          (later = [] ∨ ∃ data count, 0 < count ∧ a = ⟨.write data, some (.ok count)⟩)) ∧
      handed sending <+: chunk ∧
      (returned sending = some (.ok ()) ↔
        handed sending = chunk ∧ sending.getLast? = some ⟨.flush, some (.ok ())⟩) ∧
      (log = sending → Amounts begun chunk (handed sending).length after.1 (failures after.2.1)
        (returned sending)) ∧
      ∀ next later, log = sending ++ next :: later →
        ComesNext begun.buffer.size (returned sending) next.call := by
  intro begun after log sending
  obtain ⟨sent, later, accepted, parts, sends, amounts, behind⟩ :=
    (run_serves honest visits pump chunk w).parts
  have same : sending = sent := by
    have parts : log = sent ++ later := parts
    simp only [sending, parts]
    exact takeWhile_sends sends behind
  have parts : log = sent ++ later := parts
  rw [same]
  refine ⟨fun reading some cancelled room => resume_takeUp reading cancelled room some,
    sends.countP_writes_le, ?_, sends.handed ▸ List.take_prefix _ _, sends.returned_eq_ok_iff,
    ?_, ?_⟩
  · intro before a rest split
    obtain ⟨earlier, accepts, asks, last⟩ := sends.split split
    refine ⟨accepts.handed ▸ List.take_prefix _ _, ?_, last⟩
    rw [accepts.length_handed]
    generalize a.call = call at asks
    cases asks with
    | write below => exact .inl ⟨below, rfl⟩
    | flush whole =>
      refine .inr ⟨?_, rfl⟩
      rw [accepts.handed, whole, List.take_length]
  · intro whole
    have nothing : later = [] := List.self_eq_append_right.mp (whole.symm.trans parts)
    rw [sends.length_handed]
    exact amounts nothing
  · intro next rest more
    exact behind next rest (List.append_cancel_left (parts.symm.trans more))

/-- A destination takes two bytes at a time, then nothing for a while, and then the rest. -/
def trickling : Script where
  writer := [.answer (.ok (.upTo 2)), .pause, .answer (.ok (.upTo 2)), .answer (.ok .all)]

theorem run_sends_chunk_trickling :
    let pump : Pump := ⟨false, false, .zeroed 0 8, 7, .reading⟩
    let visits : List (Visit Stage) := [⟨id, 1⟩, ⟨id, 9⟩, ⟨id, 3⟩]
    let w : Stage := { script := trickling, rootCancelled := false }
    let log := attempts stage visits (pump.takeUp [1, 2, 3, 4, 5]) w
    let sending := log.takeWhile (·.call.sends)
    stage.IsHonest ∧ sending.countP (·.call.writes) ≤ 5 ∧
      log = [⟨.write [1, 2, 3, 4, 5], some (.ok 2)⟩, ⟨.write [3, 4, 5], some (.ok 2)⟩,
        ⟨.write [5], some (.ok 1)⟩, ⟨.flush, some (.ok ())⟩] ∧
      returned sending = some (.ok ()) ∧ handed sending = [1, 2, 3, 4, 5] ∧
      (run stage visits (pump.takeUp [1, 2, 3, 4, 5]) w).1.total = 12 := by
  intro pump visits w log sending
  obtain ⟨-, count, -, -, done, amounts, -⟩ :=
    run_sends_chunk stage_isHonest visits pump [1, 2, 3, 4, 5] w
  have calls : log = [⟨.write [1, 2, 3, 4, 5], some (.ok 2)⟩, ⟨.write [3, 4, 5], some (.ok 2)⟩,
      ⟨.write [5], some (.ok 1)⟩, ⟨.flush, some (.ok ())⟩] := by rfl
  have whole : log = sending := by
    simp only [sending, calls]
    rfl
  have ok : returned sending = some (.ok ()) := by
    rw [← whole, calls]
    rfl
  have counted := amounts whole
  rw [ok] at counted
  generalize failures _ = reported at counted
  cases counted with
  | through total _ => exact ⟨stage_isHonest, count, calls, ok, (done.mp ok).1, total⟩

end StreamRelay.Pump
