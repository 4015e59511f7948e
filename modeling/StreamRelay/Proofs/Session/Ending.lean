import StreamRelay.Proofs.Session.Borrowing
import StreamRelay.Proofs.Session.Cancellation
import StreamRelay.Proofs.Session.Waiting

/-!
# What ends a session

The first pump that stops ends a session, and so does the cancellation of its scope from outside,
whichever comes first. Every pump that stops after that stops as cancelled and reports no failure.
-/

set_option autoImplicit false
set_option relaxedAutoImplicit false

namespace StreamRelay

def Pump.Note.isFailure : Pump.Note → Bool
  | .readFailed _ _ => true
  | .writeFailed _ _ => true
  | _ => false

namespace Session

/-- Only the pump that ended a session has stopped for a reason of its own. -/
structure Decided (winner : Option Direction) (s : Session) : Prop where
  cancelled : s.cancelled = true
  own : ∀ direction, winner = some direction →
    ∃ exit total, s.task direction = .finished exit total ∧ exit ≠ .cancelled
  others : ∀ direction exit total, winner ≠ some direction →
    s.task direction = .finished exit total → exit = .cancelled

def Unfailing (notes : List Note) : Prop :=
  ∀ direction note, Note.pump direction note ∈ notes → note.isFailure = false

private theorem Decided.kept {winner : Option Direction} {s t : Session}
    (decided : s.Decided winner) (cancelled : t.cancelled = true)
    (tasks : ∀ direction, t.task direction = s.task direction ∨
      s.task direction = .absent ∧ t.task direction = .spawned) : t.Decided winner := by
  refine ⟨cancelled, ?_, ?_⟩
  · intro direction won
    obtain ⟨exit, total, halted, own⟩ := decided.own direction won
    rcases tasks direction with same | ⟨absent, -⟩
    · exact ⟨exit, total, same.trans halted, own⟩
    · cases absent.symm.trans halted
  · intro direction exit total lost halted
    rcases tasks direction with same | ⟨-, spawned⟩
    · exact decided.others direction exit total lost (same.symm.trans halted)
    · cases spawned.symm.trans halted

private theorem Decided.setTask {winner : Option Direction} {s : Session}
    (decided : s.Decided winner)
    {direction : Direction} (going : (s.task direction).isOver = false) {task : Task}
    (dull : ∀ exit total, task = .finished exit total → exit = .cancelled) :
    (s.setTask direction task).Decided winner := by
  refine ⟨(cancelled_setTask s direction task).trans decided.cancelled, ?_, ?_⟩
  · intro direction' won
    obtain ⟨exit, total, halted, own⟩ := decided.own direction' won
    rcases direction.eq_or_eq_other direction' with rfl | rfl
    · simp [halted, Task.isOver] at going
    · exact ⟨exit, total, (task_setTask_other ..).trans halted, own⟩
  · intro direction' exit total lost halted
    rcases direction.eq_or_eq_other direction' with rfl | rfl
    · rw [task_setTask_self] at halted
      exact dull exit total halted
    · rw [task_setTask_other] at halted
      exact decided.others _ exit total lost halted

private theorem unfailing_nil : Unfailing [] := by simp [Unfailing]

private theorem dial_unfailing (s : Session) (answer : Option (Except IoError Unit)) :
    Unfailing (s.dial answer).2 := by
  rcases answer with _ | error | _ <;> simp [Unfailing, dial, conclude, advance]

private theorem join_unfailing (s : Session) : Unfailing s.join.2 := by
  unfold join
  split
  · intro direction note
    split <;> split <;> simp [conclude, advance]
  · exact unfailing_nil

private theorem poll_unfailing (s : Session) (offer : Offer) : Unfailing (s.poll offer).2 := by
  unfold poll
  cases s.state with
  | dialing =>
    simp only
    split
    · simp [Unfailing, conclude, advance]
    · split
      · exact dial_unfailing s offer.dial
      · split
        · exact unfailing_nil
        · simp [Unfailing, conclude, advance]
        · exact dial_unfailing _ offer.dial
  | relaying =>
    simp only
    split
    · have joined := join_unfailing (s.advance .draining).1
      intro direction note member
      rcases List.mem_append.mp member with member | member
      · simp [advance] at member
      · exact joined direction note member
    · exact unfailing_nil
  | draining => exact join_unfailing s
  | closed => exact unfailing_nil

private theorem Decided.step {winner : Option Direction} {s : Session} (decided : s.Decided winner)
    (poised : s.Poised) (pool : Pool) (move : Move) :
    (s.step pool move).1.Decided winner ∧ Unfailing (s.step pool move).2.2 := by
  have cancelled : (s.step pool move).1.cancelled = true :=
    (step_stilled decided.cancelled pool move).cancelled
  have kept (still : ∀ direction, move ≠ .pump direction) : (s.step pool move).1.Decided winner :=
    decided.kept cancelled (poised.coherent.step_task pool still)
  cases move with
  | befall side event => exact ⟨kept (by simp), unfailing_nil⟩
  | cancel => exact ⟨kept (by simp), unfailing_nil⟩
  | poll offer => exact ⟨kept (by simp), poll_unfailing s offer⟩
  | watch => exact ⟨kept (by simp), unfailing_nil⟩
  | pump direction =>
    have turned := poised.turned direction pool
    simp only [Session.step]
    generalize (s.pollPump direction pool).1 = t at turned ⊢
    generalize (s.pollPump direction pool).2.2 = notes at turned ⊢
    cases turned with
    | idle _ => exact ⟨decided, unfailing_nil⟩
    | lost going => exact ⟨decided.setTask going (by simp), unfailing_nil⟩
    | struck total going _ =>
      have same : s.cancel.Decided winner :=
        decided.kept rfl fun direction => .inl ((Alike.refl s).cancel.task direction)
      refine ⟨same.setTask ?_ (by simp), by simp [Unfailing, Pump.Note.isFailure]⟩
      rwa [(Alike.refl s).cancel.task]
    | stops live _ _ _ _ => simp [decided.cancelled] at live
    | waits live _ _ _ _ _ => simp [decided.cancelled] at live

/-- A session that nothing has ended yet. -/
structure Undecided (s : Session) : Prop where
  live : s.cancelled = false
  going : ∀ direction exit total, s.task direction ≠ .finished exit total

def Move.winner : Move → Option Direction
  | .pump direction => some direction
  | _ => none

private theorem Undecided.step {s : Session} (undecided : s.Undecided) (poised : s.Poised)
    (pool : Pool) (move : Move) :
    (s.step pool move).1.Undecided ∨ (s.step pool move).1.Decided move.winner := by
  by_cases polled : ∃ direction, move = .pump direction
  · obtain ⟨direction, rfl⟩ := polled
    have turned := poised.turned direction pool
    simp only [Session.step, Move.winner]
    generalize (s.pollPump direction pool).1 = t at turned ⊢
    generalize (s.pollPump direction pool).2.2 = notes at turned
    have others {u : Session} (alike : Alike s u) {task : Task} {direction' : Direction}
        {exit : Pump.Exit} {total : Nat} (differ : direction' ≠ direction)
        (halted : (u.setTask direction task).task direction' = .finished exit total) : False := by
      obtain rfl := (direction.eq_or_eq_other direction').resolve_left differ
      rw [task_setTask_other, alike.task] at halted
      exact undecided.going _ exit total halted
    have open_still {u : Session} (alike : Alike s u) {task : Task} (live : u.cancelled = false)
        (going : ∀ exit total, task ≠ .finished exit total) :
        (u.setTask direction task).Undecided := by
      refine ⟨(cancelled_setTask ..).trans live, ?_⟩
      intro direction' exit total halted
      by_cases same : direction' = direction
      · subst same
        exact going exit total ((task_setTask_self ..).symm.trans halted)
      · exact others alike same halted
    cases turned with
    | idle _ => exact .inl undecided
    | lost _ => exact .inl (open_still (.refl s) undecided.live (by simp))
    | struck _ _ scope => simp [undecided.live] at scope
    | waits _ alike _ live _ _ => exact .inl (open_still alike live (by simp))
    | @stops u exit total _ _ alike _ cancelled own =>
      refine .inr ⟨(cancelled_setTask ..).trans cancelled, ?_, ?_⟩
      · rintro direction' ⟨⟩
        exact ⟨exit, total, task_setTask_self .., own⟩
      · intro direction' exit' total' lost halted
        exact (others alike (fun same => lost (by rw [same])) halted).elim
  · have still : ∀ direction, move ≠ .pump direction :=
      fun direction same => polled ⟨direction, same⟩
    have going (direction : Direction) (exit : Pump.Exit) (total : Nat) :
        (s.step pool move).1.task direction ≠ .finished exit total := by
      intro halted
      rcases poised.coherent.step_task pool still direction with same | ⟨-, spawned⟩
      · exact undecided.going direction exit total (same.symm.trans halted)
      · cases spawned.symm.trans halted
    cases scope : (s.step pool move).1.cancelled with
    | false => exact .inl ⟨scope, going⟩
    | true =>
      have nobody : move.winner = none := by
        cases move with
        | pump direction => exact (still direction rfl).elim
        | _ => rfl
      rw [nobody]
      exact .inr ⟨scope, by simp,
        fun direction exit total _ halted => (going direction exit total halted).elim⟩

private theorem plain_cons {move : Move} {moves : List Move}
    (plain : ∀ side, .befall side (.slow true) ∉ move :: moves) :
    (∀ side, move ≠ .befall side (.slow true)) ∧ ∀ side, .befall side (.slow true) ∉ moves :=
  ⟨fun side slow => plain side (slow ▸ List.mem_cons_self ..),
    fun side member => plain side (List.mem_cons_of_mem _ member)⟩

private theorem Poised.run {s : Session} (poised : s.Poised) (pool : Pool) {moves : List Move}
    (plain : ∀ side, .befall side (.slow true) ∉ moves) : (s.run pool moves).1.Poised := by
  induction moves generalizing s pool with
  | nil => exact poised
  | cons move moves ih =>
    obtain ⟨now, later⟩ := plain_cons plain
    exact ih (poised.step pool now) _ later

private theorem Decided.run {winner : Option Direction} {s : Session} (decided : s.Decided winner)
    (poised : s.Poised) (pool : Pool) {moves : List Move}
    (plain : ∀ side, .befall side (.slow true) ∉ moves) :
    (s.run pool moves).1.Decided winner ∧ Unfailing (s.run pool moves).2.2 := by
  induction moves generalizing s pool with
  | nil => exact ⟨decided, unfailing_nil⟩
  | cons move moves ih =>
    obtain ⟨now, later⟩ := plain_cons plain
    obtain ⟨decided', unfailing⟩ := decided.step poised pool move
    obtain ⟨decided'', unfailing'⟩ :=
      ih decided' (poised.step pool now) (s.step pool move).2.1 later
    refine ⟨decided'', ?_⟩
    intro direction note member
    rcases List.mem_append.mp member with member | member
    · exact unfailing direction note member
    · exact unfailing' direction note member

private theorem Undecided.run {s : Session} (undecided : s.Undecided) (poised : s.Poised)
    (pool : Pool) {moves : List Move} (plain : ∀ side, .befall side (.slow true) ∉ moves)
    (live : (s.run pool moves).1.cancelled = false) : (s.run pool moves).1.Undecided := by
  induction moves generalizing s pool with
  | nil => exact undecided
  | cons move moves ih =>
    obtain ⟨now, later⟩ := plain_cons plain
    have poised' := poised.step pool now
    rcases undecided.step poised pool move with undecided' | decided
    · exact ih undecided' poised' (s.step pool move).2.1 later live
    · have cancelled := (decided.run poised' (s.step pool move).2.1 later).1.cancelled
      exact (Bool.eq_false_iff.mp live cancelled).elim

def Task.rank : Task → Nat
  | .absent => 0
  | .spawned => 1
  | .running _ => 2
  | .finished _ _ => 3
  | .lost => 3

private theorem Task.isOver_of_rank {task task' : Task} (further : task.rank ≤ task'.rank)
    (halted : task.isOver = true) : task'.isOver = true := by
  cases task <;> cases task' <;> simp_all [rank, isOver]

private theorem Task.ne_absent_of_rank {task task' : Task} (further : task.rank ≤ task'.rank)
    (there : task ≠ .absent) : task' ≠ .absent := by
  rintro rfl
  cases task <;> simp_all [rank]

private theorem Driven.rank {s t : Session} {direction : Direction} {pool pool' : Pool}
    {pump : Pump}
    (driven : Driven s direction pool pump t pool') : 2 ≤ (t.task direction).rank := by
  cases driven <;> simp [Task.rank]

private theorem Coherent.step_rank {s : Session} (coherent : s.Coherent) (pool : Pool) (move : Move)
    (direction : Direction) :
    (s.task direction).rank ≤ ((s.step pool move).1.task direction).rank := by
  by_cases polled : ∃ direction, move = .pump direction
  · obtain ⟨direction', rfl⟩ := polled
    have pumped := pollPump_pumped s direction' pool
    simp only [Session.step]
    generalize (s.pollPump direction' pool).1 = t at pumped ⊢
    generalize (s.pollPump direction' pool).2.1 = pool' at pumped
    rcases direction'.eq_or_eq_other direction with rfl | rfl
    · cases pumped with
      | idle _ => exact Nat.le_refl _
      | lost spawned _ => simp [spawned, Task.rank]
      | begins spawned _ driven =>
        have running := driven.rank
        rw [spawned]
        exact Nat.le_trans (by decide) running
      | goes running driven =>
        have running' := driven.rank
        rwa [running]
    · rcases pumped.alike with ⟨rfl, -⟩ | ⟨-, -, u, task, alike, -, rfl⟩
      · exact Nat.le_refl _
      · rw [task_setTask_other, alike.task]
  · have still : ∀ direction, move ≠ .pump direction :=
      fun direction same => polled ⟨direction, same⟩
    rcases coherent.step_task pool still direction with same | ⟨absent, spawned⟩
    · rw [same]
    · rw [absent, spawned]
      decide

private theorem Coherent.run_rank {s : Session} (coherent : s.Coherent) (pool : Pool)
    (moves : List Move) (direction : Direction) :
    (s.task direction).rank ≤ ((s.run pool moves).1.task direction).rank := by
  induction moves generalizing s pool with
  | nil => exact Nat.le_refl _
  | cons move moves ih =>
    exact Nat.le_trans (coherent.step_rank pool move direction)
      (ih (coherent.step pool move) (s.step pool move).2.1)

private theorem Coherent.run_isOver {s : Session} (coherent : s.Coherent)
    (cancelled : s.cancelled = true)
    {direction : Direction} (there : s.task direction ≠ .absent) (pool : Pool) {moves : List Move}
    (polled : .pump direction ∈ moves) :
    ((s.run pool moves).1.task direction).isOver = true := by
  induction moves generalizing s pool with
  | nil => simp at polled
  | cons move moves ih =>
    have coherent' := coherent.step pool move
    rcases List.mem_cons.mp polled with rfl | later
    · have halted : ((s.pollPump direction pool).1.task direction).isOver = true := by
        rcases pollPump_finishes cancelled direction pool with
          ⟨absent | halted, same⟩ | ⟨-, u, task, -, -, halted, outcome⟩
        · exact (there absent).elim
        · rwa [same]
        · rwa [outcome, task_setTask_self]
      exact Task.isOver_of_rank (coherent'.run_rank _ moves direction) halted
    · exact ih coherent' (step_stilled cancelled pool move).cancelled
        (Task.ne_absent_of_rank (coherent.step_rank pool move direction) there) _ later

private theorem ends_by {s : Session} (relays : s.state = .relaying) (live : s.cancelled = false)
    {pool : Pool} {move : Move} (ends : (s.step pool move).1.cancelled = true) :
    move = .cancel ∨ ∃ direction, move = .pump direction := by
  cases move with
  | cancel => exact .inl rfl
  | pump direction => exact .inr ⟨direction, rfl⟩
  | befall side event => simp [Session.step, live] at ends
  | poll offer => simp [Session.step, poll, relays, live] at ends
  | watch => simp [Session.step, pollWatcher, live] at ends

private theorem Task.finished_of_isOver {task : Task} (halted : task.isOver = true)
    (found : task ≠ .lost) : ∃ exit total, task = .finished exit total := by
  cases task with
  | finished exit total => exact ⟨exit, total, rfl⟩
  | lost => exact (found rfl).elim
  | _ => simp [isOver] at halted

/-- What cancels the scope of a relaying session decides how both of its pumps stop. -/
theorem run_first_stop_decides (peer target : String) (client backend : Link)
    (prompt : ∀ link ∈ [client, backend], link.slowShutdown = false) (pool : Pool)
    (earlier later : List Move) (move : Move)
    (plain : ∀ side, .befall side (.slow true) ∉ earlier ++ move :: later) :
    let start := newborn peer target false client backend
    let before := (start.run pool earlier).1
    let ended := start.run pool (earlier ++ [move])
    let t := (start.run pool (earlier ++ move :: later)).1
    before.state = .relaying → before.cancelled = false → ended.1.cancelled = true →
      (∀ direction exit total, before.task direction ≠ .finished exit total) ∧
      ((∃ direction exit total, move = .pump direction ∧
          t.task direction = .finished exit total ∧ exit ≠ .cancelled ∧
          ∀ exit' total', t.task direction.other = .finished exit' total' → exit' = .cancelled) ∨
        move = .cancel ∧
          ∀ direction exit total, t.task direction = .finished exit total → exit = .cancelled) ∧
      (pool.size ≤ maxAllocation → ∀ direction, .pump direction ∈ later ∨ t.state = .closed →
        ∃ exit total, t.task direction = .finished exit total) ∧
      ∃ more, (start.run pool (earlier ++ move :: later)).2.2 = ended.2.2 ++ more ∧
        ∀ direction note, .pump direction note ∈ more → note.isFailure = false := by
  intro start before ended t relays live ends
  have plain_first (side : Side) : Move.befall side (.slow true) ∉ earlier :=
    fun member => plain side (List.mem_append_left _ member)
  obtain ⟨plain_now, plain_after⟩ :=
    plain_cons fun side member => plain side (List.mem_append_right _ member)
  have poised_start : start.Poised := by
    refine ⟨coherent_newborn .., ?_, ?_⟩
    · intro side
      cases side
      · exact prompt client (.head _)
      · exact prompt backend (.tail _ (.head _))
    · intro direction pump running
      cases direction <;> cases running
  have undecided_start : start.Undecided := by
    refine ⟨rfl, ?_⟩
    intro direction exit total halted
    cases direction <;> cases halted
  have unlost_start : start.Unlost := by
    intro direction lost
    cases direction <;> cases lost
  have poised : before.Poised := poised_start.run pool plain_first
  have undecided : before.Undecided := undecided_start.run poised_start pool plain_first live
  -- The run is cut at the step that ends the session; what follows starts from its outcome.
  let outcome := before.step (start.run pool earlier).2.1 move
  have ended_eq : ended.1 = outcome.1 := run_append_fst start pool earlier [move]
  have t_eq : t = (outcome.1.run outcome.2.1 later).1 :=
    run_append_fst start pool earlier (move :: later)
  have poised' : outcome.1.Poised := poised.step _ plain_now
  have decided : outcome.1.Decided move.winner := by
    rcases undecided.step poised (start.run pool earlier).2.1 move with undecided' | decided
    · exact (Bool.eq_false_iff.mp undecided'.live (ended_eq ▸ ends)).elim
    · exact decided
  obtain ⟨decided', unfailing⟩ := decided.run poised' outcome.2.1 plain_after
  rw [← t_eq] at decided'
  refine ⟨undecided.going, ?_, ?_, (outcome.1.run outcome.2.1 later).2.2, ?_, unfailing⟩
  · rcases ends_by relays live decided.cancelled with rfl | ⟨direction, rfl⟩
    · refine .inr ⟨rfl, fun direction exit total => ?_⟩
      exact decided'.others direction exit total (by simp [Move.winner])
    · obtain ⟨exit, total, halted, own⟩ := decided'.own direction rfl
      refine .inl ⟨direction, exit, total, rfl, halted, own, ?_⟩
      intro exit' total'
      refine decided'.others direction.other exit' total' ?_
      cases direction <;> simp [Move.winner, Direction.other]
  · intro fits direction last
    have there : outcome.1.task direction ≠ .absent := by
      have further := poised.coherent.step_rank (start.run pool earlier).2.1 move direction
      cases poised.coherent with
      | relaying _ manned _ => exact Task.ne_absent_of_rank further (manned.task direction)
      | _ => simp_all
    have halted : (t.task direction).isOver = true := by
      rw [t_eq]
      rcases last with polled | closed
      · exact poised'.coherent.run_isOver decided.cancelled there _ polled
      · have coherent := (poised'.run outcome.2.1 plain_after).coherent
        rcases coherent.task_closed (t_eq ▸ closed) direction with absent | halted
        · have further := poised'.coherent.run_rank outcome.2.1 later direction
          exact (Task.ne_absent_of_rank further there absent).elim
        · exact halted
    exact Task.finished_of_isOver halted ((run_unlost unlost_start fits _).1 direction)
  · simp only [ended, outcome, before, run_append start, run, List.append_assoc, List.append_nil]

/-- A client ends its stream while the backend waits for more. -/
def clientLeaves : List Move :=
  [.poll ⟨some (.ok ()), some (.ok ())⟩, .pump .up, .pump .down, .befall .client .finish,
    .befall .client .arriveEnd]

def backendBreaks : List Move :=
  [.befall .backend (.breakReads (.system 104)), .pump .down, .watch, .poll ⟨none, none⟩]

theorem run_first_stop_decides_clientLeaves :
    let start := newborn "client" "backend" false { control := true } { control := true }
    let t := (start.run (.ofBytes 8) (clientLeaves ++ .pump .up :: backendBreaks)).1
    t.up = .finished .eof 0 ∧ (∃ total, t.down = .finished .cancelled total) ∧
      t.state = .closed := by
  intro start t
  obtain ⟨-, decided, stops, -⟩ := run_first_stop_decides "client" "backend" { control := true }
    { control := true } (by simp) (.ofBytes 8) clientLeaves backendBreaks (.pump .up)
    (by simp [clientLeaves, backendBreaks]) (by decide) (by decide) (by decide)
  obtain ⟨exit, total, down⟩ := stops (by decide) .down (.inl (by simp [backendBreaks]))
  have cancelled : exit = .cancelled := by
    rcases decided with ⟨direction, _, _, same, -, -, other⟩ | ⟨same, -⟩
    · cases same
      exact other exit total down
    · cases same
  exact ⟨by decide, ⟨total, cancelled ▸ down⟩, by decide⟩

end Session

end StreamRelay
