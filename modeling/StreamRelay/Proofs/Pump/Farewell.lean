import StreamRelay.Proofs.Pump.Answer
import StreamRelay.Proofs.Pump.Observer

/-!
# How a pump lets go of its connections

A pump first moves bytes and then closes what it has to close. What it attempts after the last read
or write depends only on why it stops: a shutdown of the destination's write half when the source
has nothing more to give, with the destination's control to fall back on, and nothing but the
source's control when the destination takes no more.
-/

set_option autoImplicit false
set_option relaxedAutoImplicit false

namespace StreamRelay.Pump

/-- A call of a pump, and the answer to it once there is one. -/
structure Attempt where
  call : Call
  answer? : Option call.Answer

/-- Attempts after one more call; one made again for want of an answer is the same attempt. -/
def Attempt.note (log : List Attempt) (call : Call) (answer? : Option call.Answer) :
    List Attempt :=
  match log.getLast? with
  | some ⟨waiting, none⟩ =>
    if waiting = call then log.dropLast ++ [⟨call, answer?⟩] else log ++ [⟨call, answer?⟩]
  | _ => log ++ [⟨call, answer?⟩]

def attempts {W : Type} (s : Surroundings W) (visits : List (Visit W)) (pump : Pump) (w : W) :
    List Attempt :=
  (run (s.observed Attempt.note) (visits.map Visit.observed) pump (w, [])).2.2.2

def Call.moves : Call → Bool
  | .read _ => true
  | .write _ => true
  | .flush => true
  | _ => false

def Attempt.exit? : Attempt → Option Exit
  | ⟨.read _, some (.ok [])⟩ => some .eof
  | ⟨.read _, some (.error _)⟩ => some .readError
  | ⟨.write _, some (.ok 0)⟩ => some .writeError
  | ⟨.write _, some (.error _)⟩ => some .writeError
  | ⟨.flush, some (.error _)⟩ => some .writeError
  | _ => none

def Exit.OfSource (exit : Exit) : Prop := exit = .eof ∨ exit = .readError

/-- Attempts to move bytes. -/
def Moves (log : List Attempt) : Prop := ∀ a ∈ log, a.call.moves = true

/-- Attempts to move bytes of which the last one brings about an exit. -/
def Breaks (exit : Exit) (log : List Attempt) : Prop :=
  Moves log ∧ ∃ front last, log = front ++ [last] ∧ last.exit? = some exit

/-- What a pump attempts when it moves no more bytes, for each exit. A shutdown that is not asked
for, or is not answered, was cut off by the cancellation. -/
inductive Farewell (sourceControl destinationControl : Bool) : Exit → List Attempt → Prop
  | cancelled : Farewell sourceControl destinationControl .cancelled []
  | unasked {exit : Exit} : exit.OfSource → Farewell sourceControl destinationControl exit []
  | unanswered {exit : Exit} : exit.OfSource →
      Farewell sourceControl destinationControl exit [⟨.shutdown, none⟩]
  | shut {exit : Exit} : exit.OfSource →
      Farewell sourceControl destinationControl exit [⟨.shutdown, some (.ok ())⟩]
  | unshut {exit : Exit} {error : IoError} : exit.OfSource → destinationControl = false →
      Farewell sourceControl destinationControl exit [⟨.shutdown, some (.error error)⟩]
  | endedDestination {exit : Exit} {error : IoError} : exit.OfSource →
      destinationControl = true → Farewell sourceControl destinationControl exit
        [⟨.shutdown, some (.error error)⟩, ⟨.closeWrite, some (.ok ())⟩]
  | closedDestination {exit : Exit} {error error' : IoError} {answer : Except IoError Unit} :
      exit.OfSource → destinationControl = true →
      Farewell sourceControl destinationControl exit
        [⟨.shutdown, some (.error error)⟩, ⟨.closeWrite, some (.error error')⟩,
          ⟨.closeDestination, some answer⟩]
  | uncontrolled : sourceControl = false →
      Farewell sourceControl destinationControl .writeError []
  | endedSource : sourceControl = true →
      Farewell sourceControl destinationControl .writeError [⟨.closeRead, some (.ok ())⟩]
  | closedSource {error : IoError} {answer : Except IoError Unit} : sourceControl = true →
      Farewell sourceControl destinationControl .writeError
        [⟨.closeRead, some (.error error)⟩, ⟨.closeSource, some answer⟩]

def Phase.moves : Phase → Bool
  | .reading => true
  | .writing _ _ => true
  | .flushing _ => true
  | _ => false

inductive Stands (sourceControl destinationControl : Bool) : Phase → List Attempt → Prop
  | moving {phase : Phase} {log : List Attempt} : phase.moves = true → Moves log →
      Stands sourceControl destinationControl phase log
  | shutting {exit : Exit} {log : List Attempt} : exit.OfSource → Breaks exit log →
      Stands sourceControl destinationControl (.shutting exit) log
  | endingDestination {exit : Exit} {log : List Attempt} {error : IoError} : exit.OfSource →
      Breaks exit log → destinationControl = true →
      Stands sourceControl destinationControl (.endingDestination exit)
        (log ++ [⟨.shutdown, some (.error error)⟩])
  | closingDestination {exit : Exit} {log : List Attempt} {error error' : IoError} :
      exit.OfSource → Breaks exit log → destinationControl = true →
      Stands sourceControl destinationControl (.closingDestination exit)
        (log ++ [⟨.shutdown, some (.error error)⟩, ⟨.closeWrite, some (.error error')⟩])
  | endingSource {log : List Attempt} : Breaks .writeError log → sourceControl = true →
      Stands sourceControl destinationControl .endingSource log
  | closingSource {log : List Attempt} {error : IoError} : Breaks .writeError log →
      sourceControl = true → Stands sourceControl destinationControl .closingSource
        (log ++ [⟨.closeRead, some (.error error)⟩])
  | stopped {exit : Exit} {log closing : List Attempt} : Moves log →
      (exit ≠ .cancelled → Breaks exit log) →
      Farewell sourceControl destinationControl exit closing →
      Stands sourceControl destinationControl (.stopped exit) (log ++ closing)

/-- What a pump has attempted: all of it is answered, or the last call is not answered yet. -/
inductive Shows (sourceControl destinationControl : Bool) (pump : Pump) : List Attempt → Prop
  | rests {log : List Attempt} : Stands sourceControl destinationControl pump.phase log →
      (pump.exit? = none → ∀ a ∈ log.getLast?, a.answer?.isSome = true) →
      Shows sourceControl destinationControl pump log
  | waits {log : List Attempt} {call : Call} : pump.call? = some call →
      Stands sourceControl destinationControl pump.phase log →
      Shows sourceControl destinationControl pump (log ++ [⟨call, none⟩])

theorem note_waiting (log : List Attempt) (call : Call) (answer? : Option call.Answer) :
    Attempt.note (log ++ [⟨call, none⟩]) call answer? = log ++ [⟨call, answer?⟩] := by
  simp [Attempt.note]

theorem note_settled {log : List Attempt} (settled : ∀ a ∈ log.getLast?, a.answer?.isSome = true)
    (call : Call) (answer? : Option call.Answer) :
    Attempt.note log call answer? = log ++ [⟨call, answer?⟩] := by
  unfold Attempt.note
  split
  · rename_i waiting last
    have answered := settled _ last
    cases answered
  · rfl

private theorem Moves.snoc {log : List Attempt} (moves : Moves log) {a : Attempt}
    (this : a.call.moves = true) : Moves (log ++ [a]) := by
  intro b member
  rcases List.mem_append.mp member with member | member
  · exact moves b member
  · rw [List.mem_singleton.mp member]
    exact this

private theorem Moves.breaks {log : List Attempt} (moves : Moves log) {a : Attempt} {exit : Exit}
    (this : a.call.moves = true) (why : a.exit? = some exit) : Breaks exit (log ++ [a]) :=
  ⟨moves.snoc this, log, a, rfl, why⟩

private theorem moves_of_call? {pump : Pump} {call : Call} (moving : pump.phase.moves = true)
    (asked : pump.call? = some call) : call.moves = true := by
  cases phase : pump.phase <;> simp_all [Phase.moves, call?, Call.moves, eq_comm]

private theorem going_of_call? {pump : Pump} {call : Call} (asked : pump.call? = some call) :
    pump.exit? = none := by
  cases phase : pump.phase <;> simp_all [call?, exit?]

section

variable {sourceControl destinationControl : Bool} {pump : Pump} {log : List Attempt}

private theorem Shows.note (shows' : Shows sourceControl destinationControl pump log) {call : Call}
    (asked : pump.call? = some call) :
    ∃ finished, Stands sourceControl destinationControl pump.phase finished ∧
      ∀ answer?, Attempt.note log call answer? = finished ++ [⟨call, answer?⟩] := by
  cases shows' with
  | rests stands settled =>
    exact ⟨log, stands, note_settled (settled (going_of_call? asked)) call⟩
  | @waits finished waiting asked' stands =>
    obtain rfl := Option.some.inj (asked'.symm.trans asked)
    exact ⟨finished, stands, note_waiting finished waiting⟩

private theorem Stands.moves {phase : Phase}
    (stands : Stands sourceControl destinationControl phase log)
    (moving : phase.moves = true) : Moves log := by
  cases stands with
  | moving _ moves => exact moves
  | _ => cases moving

private theorem Shows.moves (shows' : Shows sourceControl destinationControl pump log)
    (moving : pump.phase.moves = true) : Moves log := by
  cases shows' with
  | rests stands _ => exact stands.moves moving
  | waits asked stands => exact (stands.moves moving).snoc (moves_of_call? moving asked)

private theorem Stands.of_shutting {exit : Exit}
    (stands : Stands sourceControl destinationControl (.shutting exit) log) :
    exit.OfSource ∧ Breaks exit log := by
  cases stands with
  | moving moving _ => cases moving
  | shutting source breaks => exact ⟨source, breaks⟩

theorem Shows.of_shutting (shows' : Shows sourceControl destinationControl pump log) {exit : Exit}
    (phase : pump.phase = .shutting exit) :
    exit.OfSource ∧ ∃ transfers, Breaks exit transfers ∧
      (log = transfers ∨ log = transfers ++ [⟨.shutdown, none⟩]) := by
  cases shows' with
  | rests stands _ =>
    rw [phase] at stands
    obtain ⟨source, breaks⟩ := stands.of_shutting
    exact ⟨source, log, breaks, .inl rfl⟩
  | waits asked stands =>
    rw [phase] at stands
    obtain ⟨source, breaks⟩ := stands.of_shutting
    simp only [call?, phase] at asked
    obtain rfl := Option.some.inj asked
    exact ⟨source, _, breaks, .inr rfl⟩

private theorem Breaks.stops {exit : Exit} (breaks : Breaks exit log) {closing : List Attempt}
    (farewell : Farewell sourceControl destinationControl exit closing) (pump : Pump) :
    Shows sourceControl destinationControl (pump.enter (.stopped exit)) (log ++ closing) :=
  .rests (.stopped breaks.1 (fun _ => breaks) farewell) fun going => nomatch going

private theorem Shows.heed (shows' : Shows sourceControl destinationControl pump log)
    (cancelled : Bool) : Shows sourceControl destinationControl (pump.heed cancelled) log := by
  cases cancelled with
  | false => exact shows'
  | true =>
    have still (moving : pump.phase.moves = true) :
        Shows sourceControl destinationControl (pump.enter (.stopped .cancelled)) log := by
      have stands : Stands sourceControl destinationControl (.stopped .cancelled) (log ++ []) :=
        .stopped (shows'.moves moving) (fun other => (other rfl).elim) .cancelled
      rw [List.append_nil] at stands
      exact .rests stands fun going => nomatch going
    -- Behind the phases named here a control is waited for, and the cancellation is not heeded.
    cases phase : pump.phase with
    | reading | writing size accepted | flushing size =>
      have moved := still (by rw [phase]; rfl)
      simpa only [Pump.heed, phase, if_true] using moved
    | shutting exit =>
      have stopped : Shows sourceControl destinationControl (pump.enter (.stopped exit)) log := by
        obtain ⟨source, transfers, breaks, rfl | rfl⟩ := shows'.of_shutting phase
        · have farewell : Farewell sourceControl destinationControl exit [] := .unasked source
          have stops := breaks.stops farewell pump
          rwa [List.append_nil] at stops
        · exact breaks.stops (.unanswered source) pump
      simpa only [Pump.heed, phase, if_true] using stopped
    | _ => simpa only [Pump.heed, phase, if_true] using shows'

private theorem Shows.of_answered {a : Attempt} (answered : a.answer?.isSome = true)
    (stands : Stands sourceControl destinationControl pump.phase (log ++ [a])) :
    Shows sourceControl destinationControl pump (log ++ [a]) := by
  refine .rests stands fun _ b last => ?_
  rw [List.getLast?_concat] at last
  obtain rfl := Option.some.inj last
  exact answered

private theorem Breaks.failWrite {a : Attempt} (breaks : Breaks .writeError (log ++ [a]))
    (answered : a.answer?.isSome = true) (cancelled : Bool) (error : IoError) :
    Shows pump.sourceControl destinationControl (pump.failWrite cancelled error).1
      (log ++ [a]) := by
  rw [Pump.failWrite]
  cases control : pump.sourceControl with
  | true => exact .of_answered answered (.endingSource breaks rfl)
  | false =>
    have farewell : Farewell false destinationControl .writeError [] := .uncontrolled rfl
    have stops := breaks.stops farewell pump
    rwa [List.append_nil] at stops

private theorem Stands.resume
    (stands : Stands pump.sourceControl pump.destinationControl pump.phase log)
    {call : Call} (asked : pump.call? = some call) (cancelled : Bool) (answer : call.Answer) :
    Shows pump.sourceControl pump.destinationControl (pump.resume cancelled call answer).1
      (log ++ [⟨call, some answer⟩]) := by
  have outcome := resume_answered asked cancelled answer
  generalize (pump.resume cancelled call answer).1 = after at outcome ⊢
  generalize (pump.resume cancelled call answer).2 = notes at outcome
  cases outcome with
  | ended phase =>
    rw [phase] at stands
    have breaks := (stands.moves rfl).breaks (a := ⟨.read pump.buffer.size, some (.ok [])⟩) rfl rfl
    exact (Shows.of_answered rfl (.shutting (.inl rfl) breaks)).heed cancelled
  | loaded byte bytes phase =>
    rw [phase] at stands
    have moves := (stands.moves rfl).snoc
      (a := ⟨.read pump.buffer.size, some (.ok (byte :: bytes))⟩) rfl
    exact (Shows.of_answered rfl (.moving rfl moves)).heed cancelled
  | unread error phase =>
    rw [phase] at stands
    have breaks := (stands.moves rfl).breaks
      (a := ⟨.read pump.buffer.size, some (.error error)⟩) rfl rfl
    exact (Shows.of_answered rfl (.shutting (.inr rfl) breaks)).heed cancelled
  | refused size accepted phase =>
    rw [phase] at stands
    exact ((stands.moves rfl).breaks rfl rfl).failWrite rfl cancelled _
  | advanced size accepted count phase some below =>
    rw [phase] at stands
    exact .of_answered rfl (.moving rfl ((stands.moves rfl).snoc rfl))
  | written size accepted count phase some reached =>
    rw [phase] at stands
    exact .of_answered rfl (.moving rfl ((stands.moves rfl).snoc rfl))
  | unwritten size accepted error phase =>
    rw [phase] at stands
    exact ((stands.moves rfl).breaks rfl rfl).failWrite rfl cancelled _
  | flushed size phase =>
    rw [phase] at stands
    have moves := (stands.moves rfl).snoc (a := ⟨.flush, some (.ok ())⟩) rfl
    exact (Shows.of_answered rfl (.moving rfl moves)).heed cancelled
  | unflushed size error phase =>
    rw [phase] at stands
    exact ((stands.moves rfl).breaks rfl rfl).failWrite rfl cancelled _
  | shut exit phase =>
    rw [phase] at stands
    obtain ⟨source, breaks⟩ := stands.of_shutting
    exact breaks.stops (.shut source) pump
  | unshut exit error phase =>
    rw [phase] at stands
    obtain ⟨source, breaks⟩ := stands.of_shutting
    cases control : pump.destinationControl with
    | true => exact .of_answered rfl (.endingDestination source breaks rfl)
    | false => exact breaks.stops (.unshut source rfl) pump
  | endedDestination exit phase =>
    rw [phase] at stands
    cases stands with
    | moving moving _ => cases moving
    | @endingDestination _ log error source breaks control =>
      rw [List.append_assoc]
      exact breaks.stops (.endedDestination source control) pump
  | unendedDestination exit error phase =>
    rw [phase] at stands
    cases stands with
    | moving moving _ => cases moving
    | @endingDestination _ log error' source breaks control =>
      refine .of_answered rfl ?_
      rw [List.append_assoc]
      exact .closingDestination source breaks control
  | closedDestination exit answer phase =>
    rw [phase] at stands
    cases stands with
    | moving moving _ => cases moving
    | @closingDestination _ log error error' source breaks control =>
      rw [List.append_assoc]
      exact breaks.stops (.closedDestination source control) pump
  | endedSource phase =>
    rw [phase] at stands
    cases stands with
    | moving moving _ => cases moving
    | endingSource breaks control => exact breaks.stops (.endedSource control) pump
  | unendedSource error phase =>
    rw [phase] at stands
    cases stands with
    | moving moving _ => cases moving
    | endingSource breaks control => exact .of_answered rfl (.closingSource breaks control)
  | closedSource answer phase =>
    rw [phase] at stands
    cases stands with
    | moving moving _ => cases moving
    | @closingSource log error breaks control =>
      rw [List.append_assoc]
      exact breaks.stops (.closedSource control) pump

end

/-- A pump keeps its controls and its buffer. -/
structure Same (p q : Pump) : Prop where
  source : q.sourceControl = p.sourceControl
  destination : q.destinationControl = p.destinationControl
  buffer : q.buffer.serial = p.buffer.serial

private theorem Same.trans {p q r : Pump} (first : Same p q) (second : Same q r) : Same p r :=
  ⟨second.source.trans first.source, second.destination.trans first.destination,
    second.buffer.trans first.buffer⟩

private theorem same_heed (pump : Pump) (cancelled : Bool) : Same pump (pump.heed cancelled) := by
  fun_cases Pump.heed pump cancelled <;> exact ⟨rfl, rfl, rfl⟩

private theorem same_resume (pump : Pump) (cancelled : Bool) (call : Call) (answer : call.Answer) :
    Same pump (pump.resume cancelled call answer).1 := by
  have heeded {q : Pump} (same : Same pump q) : Same pump (q.heed cancelled) :=
    same.trans (same_heed q cancelled)
  fun_cases Pump.resume pump cancelled call answer
  all_goals first | exact ⟨rfl, rfl, rfl⟩ | exact heeded ⟨rfl, rfl, rfl⟩

/-- A pump that came of `start`, and what it has attempted. -/
structure Attends (start pump : Pump) (log : List Attempt) : Prop where
  same : Same start pump
  shows' : Shows start.sourceControl start.destinationControl pump log

private theorem attends_kept {W : Type} (s : Surroundings W) (start : Pump) :
    Kept (s.observed Attempt.note) fun pump w => Attends start pump w.2 where
  waiting := by
    rintro pump ⟨w, log⟩ call ⟨w', log'⟩ asked reply ⟨same, shows'⟩
    obtain ⟨-, rfl⟩ := observed_respond reply
    obtain ⟨finished, stands, note⟩ := shows'.note asked
    refine ⟨same, ?_⟩
    rw [note]
    exact .waits asked stands
  answered := by
    rintro pump ⟨w, log⟩ call answer ⟨w', log'⟩ asked reply ⟨same, shows'⟩
    obtain ⟨-, rfl⟩ := observed_respond reply
    obtain ⟨finished, stands, note⟩ := shows'.note asked
    refine ⟨same.trans (same_resume pump (s.cancelled w') call answer), ?_⟩
    rw [note, ← same.source, ← same.destination]
    rw [← same.source, ← same.destination] at stands
    exact stands.resume asked (s.cancelled w') answer

private theorem Attends.heed {start pump : Pump} {log : List Attempt}
    (attends : Attends start pump log)
    (cancelled : Bool) : Attends start (pump.heed cancelled) log :=
  ⟨attends.same.trans (same_heed pump cancelled), attends.shows'.heed cancelled⟩

theorem run_attends {W : Type} (s : Surroundings W) (visits : List (Visit W)) {start : Pump}
    (fresh : start.phase = .reading) (w : W) :
    Attends start (run s visits start w).1 (attempts s visits start w) := by
  have begins : Attends start start [] := by
    have stands : Stands start.sourceControl start.destinationControl start.phase [] := by
      rw [fresh]
      exact .moving rfl fun a member => nomatch member
    exact ⟨⟨rfl, rfl, rfl⟩, .rests stands fun _ a last => nomatch last⟩
  exact (attends_kept s start).told.run_observed (P := fun pump log _ => Attends start pump log)
    (fun cancelled attends => attends.heed cancelled) (fun _ attends => attends) visits w [] begins

/-- Attempts to move bytes, and behind them only what the pump's exit asks for. -/
structure Parts (sourceControl destinationControl : Bool) (pump : Pump)
    (log transfers closing : List Attempt) : Prop where
  whole : log = transfers ++ closing
  moves : Moves transfers
  still : ∀ a ∈ closing, a.call.moves = false
  shutdowns : closing.countP (fun a => a.call = .shutdown) ≤ 1
  ended : (∃ a ∈ closing, a.call = .shutdown) → Breaks .eof transfers ∨ Breaks .readError transfers
  exits : ∀ exit, pump.exit? = some exit →
    Farewell sourceControl destinationControl exit closing ∧
      (exit ≠ .cancelled → Breaks exit transfers)

private theorem Exit.OfSource.breaks {exit : Exit} (source : exit.OfSource) {log : List Attempt}
    (breaks : Breaks exit log) : Breaks .eof log ∨ Breaks .readError log := by
  rcases source with rfl | rfl
  · exact .inl breaks
  · exact .inr breaks

section

variable {sourceControl destinationControl : Bool} {pump : Pump}
  {transfers closing log : List Attempt}

private theorem parts_going (going : pump.exit? = none) (moves : Moves transfers)
    (still : ∀ a ∈ closing, a.call.moves = false)
    (shutdowns : closing.countP (fun a => a.call = .shutdown) ≤ 1)
    (ended : (∃ a ∈ closing, a.call = .shutdown) →
      Breaks .eof transfers ∨ Breaks .readError transfers) :
    Parts sourceControl destinationControl pump (transfers ++ closing) transfers closing :=
  ⟨rfl, moves, still, shutdowns, ended, fun _ stopped => nomatch going.symm.trans stopped⟩

private theorem Farewell.parts {exit : Exit}
    (farewell : Farewell sourceControl destinationControl exit closing) (moves : Moves transfers)
    (breaks : exit ≠ .cancelled → Breaks exit transfers) (stopped : pump.exit? = some exit) :
    Parts sourceControl destinationControl pump (transfers ++ closing) transfers closing := by
  have exits : ∀ exit', pump.exit? = some exit' →
      Farewell sourceControl destinationControl exit' closing ∧
        (exit' ≠ .cancelled → Breaks exit' transfers) := by
    intro exit' stopped'
    obtain rfl := Option.some.inj (stopped.symm.trans stopped')
    exact ⟨farewell, breaks⟩
  have ofSource (source : exit.OfSource) : Breaks .eof transfers ∨ Breaks .readError transfers := by
    refine source.breaks (breaks ?_)
    rcases source with rfl | rfl <;> decide
  cases farewell with
  | cancelled | uncontrolled => exact ⟨rfl, moves, by simp, by simp, by simp, exits⟩
  | unasked _ => exact ⟨rfl, moves, by simp, by simp, by simp, exits⟩
  | unanswered source | shut source | unshut source _ | endedDestination source _
  | closedDestination source _ =>
    exact ⟨rfl, moves, by simp [Call.moves], by simp, fun _ => ofSource source, exits⟩
  | endedSource _ | closedSource _ =>
    exact ⟨rfl, moves, by simp [Call.moves], by simp, by simp, exits⟩

theorem Shows.parts (shows' : Shows sourceControl destinationControl pump log) :
    ∃ transfers closing, Parts sourceControl destinationControl pump log transfers closing := by
  have moving (going : pump.exit? = none) (moves : Moves log) :
      ∃ transfers closing, Parts sourceControl destinationControl pump log transfers closing := by
    have parts : Parts sourceControl destinationControl pump (log ++ []) log [] :=
      parts_going going moves (by simp) (by simp) (by simp)
    rw [List.append_nil] at parts
    exact ⟨log, [], parts⟩
  cases shows' with
  | rests stands _ =>
    generalize phase : pump.phase = stage at stands
    cases stands with
    | moving moving' moves =>
      have going : pump.exit? = none := by
        cases stage <;> simp_all [exit?, Phase.moves]
      exact moving going moves
    | shutting source breaks => exact moving (by simp [exit?, phase]) breaks.1
    | endingDestination source breaks _ =>
      exact ⟨_, _, parts_going (by simp [exit?, phase]) breaks.1 (by simp [Call.moves]) (by simp)
        fun _ => source.breaks breaks⟩
    | closingDestination source breaks _ =>
      exact ⟨_, _, parts_going (by simp [exit?, phase]) breaks.1 (by simp [Call.moves]) (by simp)
        fun _ => source.breaks breaks⟩
    | endingSource breaks _ => exact moving (by simp [exit?, phase]) breaks.1
    | closingSource breaks _ =>
      exact ⟨_, _, parts_going (by simp [exit?, phase]) breaks.1 (by simp [Call.moves]) (by simp)
        (by simp)⟩
    | stopped moves breaks farewell =>
      exact ⟨_, _, farewell.parts moves breaks (by simp [exit?, phase])⟩
  | @waits log call asked stands =>
    -- The waiting call belongs to the part that the phase is in: it is known from the phase.
    have going := going_of_call? asked
    generalize phase : pump.phase = stage at stands
    cases stands with
    | moving moving' moves =>
      subst phase
      exact moving going (moves.snoc (moves_of_call? moving' asked))
    | shutting source breaks =>
      obtain rfl : Call.shutdown = call := by simpa [call?, phase] using asked
      exact ⟨_, _, parts_going going breaks.1 (by simp [Call.moves]) (by simp)
        fun _ => source.breaks breaks⟩
    | endingDestination source breaks _ =>
      obtain rfl : Call.closeWrite = call := by simpa [call?, phase] using asked
      rw [List.append_assoc]
      exact ⟨_, _, parts_going going breaks.1 (by simp [Call.moves]) (by simp)
        fun _ => source.breaks breaks⟩
    | closingDestination source breaks _ =>
      obtain rfl : Call.closeDestination = call := by simpa [call?, phase] using asked
      rw [List.append_assoc]
      exact ⟨_, _, parts_going going breaks.1 (by simp [Call.moves]) (by simp)
        fun _ => source.breaks breaks⟩
    | endingSource breaks _ =>
      obtain rfl : Call.closeRead = call := by simpa [call?, phase] using asked
      exact ⟨_, _, parts_going going breaks.1 (by simp [Call.moves]) (by simp) (by simp)⟩
    | closingSource breaks _ =>
      obtain rfl : Call.closeSource = call := by simpa [call?, phase] using asked
      rw [List.append_assoc]
      exact ⟨_, _, parts_going going breaks.1 (by simp [Call.moves]) (by simp) (by simp)⟩
    | stopped _ _ _ => simp [call?, phase] at asked

end

end StreamRelay.Pump
