import StreamRelay.Proofs.Buffer.Borrow
import StreamRelay.Proofs.Session.Coherence

set_option autoImplicit false
set_option relaxedAutoImplicit false

namespace StreamRelay.Session

def Note.stage? : Note → Option State
  | .advanced _ after => some after
  | _ => none

def stages (notes : List Note) : List State := notes.filterMap Note.stage?

/-- The stages that a session has been in. -/
def course (s : Session) : List State :=
  match s.state with
  | .dialing => [.dialing]
  | .relaying => [.dialing, .relaying]
  | .draining => [.dialing, .relaying, .draining]
  | .closed =>
    if s.hasRelayed then [.dialing, .relaying, .draining, .closed] else [.dialing, .closed]

def Task.borrowed : Task → Nat
  | .running _ => 1
  | .finished _ _ => 1
  | _ => 0

def Task.released : Task → Nat
  | .finished _ _ => 1
  | _ => 0

def borrowed (s : Session) : Nat := s.up.borrowed + s.down.borrowed

def released (s : Session) : Nat := s.up.released + s.down.released

private theorem stages_append (notes more : List Note) :
    stages (notes ++ more) = stages notes ++ stages more := by
  simp [stages]

private theorem Quiet.stages {notes : List Note} (quiet : Quiet notes) : stages notes = [] := by
  rw [Session.stages, List.filterMap_eq_nil_iff]
  intro note member
  cases note with
  | advanced before after => exact (quiet before after member).elim
  | _ => rfl

/-- Reports of stages that follow one another as they may, and that tell of all of them. -/
structure Advances (s t : Session) (notes : List Note) : Prop where
  permitted : ∀ before after, Note.advanced before after ∈ notes → before.precedes after = true
  course : t.course = s.course ++ stages notes

private theorem Quiet.advances {s t : Session} {notes : List Note} (quiet : Quiet notes)
    (course : t.course = s.course) : Advances s t notes := by
  refine ⟨fun before after member => (quiet before after member).elim, ?_⟩
  rw [quiet.stages, course, List.append_nil]

private theorem Advances.trans {s t u : Session} {notes more : List Note}
    (first : Advances s t notes) (second : Advances t u more) : Advances s u (notes ++ more) := by
  refine ⟨?_, ?_⟩
  · intro before after member
    rcases List.mem_append.mp member with member | member
    · exact first.permitted before after member
    · exact second.permitted before after member
  · rw [second.course, first.course, stages_append, List.append_assoc]

private theorem advances_once {s t : Session} {before after : State} {some_notes more : List Note}
    (quiet : Quiet some_notes) (quiet' : Quiet more) (permitted : before.precedes after = true)
    (course : t.course = s.course ++ [after]) :
    Advances s t (some_notes ++ [.advanced before after] ++ more) := by
  refine ⟨?_, ?_⟩
  · intro left right member
    simp only [List.append_assoc, List.mem_append, List.mem_singleton] at member
    rcases member with member | member | member
    · exact (quiet left right member).elim
    · cases member
      exact permitted
    · exact (quiet' left right member).elim
  · rw [stages_append, stages_append, quiet.stages, quiet'.stages, course]
    rfl

private theorem Alike.course {s t : Session} (alike : Alike s t) : t.course = s.course := by
  have same : t.hasRelayed = s.hasRelayed := by simp only [hasRelayed, alike.up]
  rw [Session.course, Session.course, alike.state, same]

private theorem Deserted.course {s : Session} (deserted : s.Deserted) (closed : s.state = .closed) :
    s.course = [.dialing, .relaying, .draining, .closed] := by
  simp [Session.course, closed, hasRelayed, deserted.manned.up]

private theorem Unmanned.course {s : Session} (unmanned : s.Unmanned) (closed : s.state = .closed) :
    s.course = [.dialing, .closed] := by
  simp [Session.course, closed, hasRelayed, unmanned.up]

private theorem Pumped.course {s t : Session} {direction : Direction} {pool pool' : Pool}
    (pumped : Pumped s direction pool t pool') : t.course = s.course := by
  rcases pumped.alike with ⟨rfl, -⟩ | ⟨begun, -, u, task, alike, there, rfl⟩
  · rfl
  · rw [← alike.course]
    rw [← alike.task] at begun
    cases direction with
    | up =>
      have begun : u.up ≠ .absent := begun
      simp [Session.course, Session.hasRelayed, setTask, begun, there]
    | down => rfl

private theorem Coherent.advances {s t : Session} {offer : Offer} {notes : List Note}
    (coherent : s.Coherent) (progress : Progress s offer t notes) : Advances s t notes := by
  have after := coherent.progress progress
  cases progress with
  | rest => exact quiet_nil.advances rfl
  | beginDial _ _ _ => exact quiet_nil.advances rfl
  | abandon stage _ quiet =>
    rw [← List.append_nil (_ ++ _)]
    refine advances_once quiet quiet_nil rfl ?_
    cases after with
    | unrelayed closed unmanned _ _ =>
      rw [unmanned.course closed]
      simp [Session.course, stage]
    | relayed _ _ reported _ => simp [conclude, advance] at reported
    | _ => simp_all [conclude, advance]
  | relay stage _ _ =>
    refine advances_once (s := s) quiet_nil quiet_nil rfl ?_
    simp [Session.course, stage]
  | drain stage _ =>
    refine advances_once (s := s) quiet_nil quiet_nil rfl ?_
    simp [Session.course, stage]
  | finish stage _ _ _ quiet quiet' =>
    refine advances_once quiet quiet' rfl ?_
    cases after with
    | unrelayed _ _ reported _ => simp [conclude, advance] at reported
    | relayed closed deserted _ _ =>
      rw [deserted.course closed]
      simp [Session.course, stage]
    | _ => simp_all [conclude, advance]
  | drainAndFinish stage cancelled _ _ _ quiet quiet' =>
    have drained : Advances s { s with state := .draining } [.advanced .relaying .draining] :=
      advances_once (s := s) quiet_nil quiet_nil rfl (by simp [Session.course, stage])
    refine drained.trans (advances_once quiet quiet' rfl ?_)
    cases after with
    | unrelayed _ _ reported _ => simp [conclude, advance] at reported
    | relayed closed deserted _ _ => exact deserted.course closed
    | _ => simp_all [conclude, advance]

private theorem pollPump_quiet (s : Session) (direction : Direction) (pool : Pool) :
    Quiet (s.pollPump direction pool).2.2 := by
  have driven (pool : Pool) (pump : Pump) : Quiet (s.drive direction pool pump).2.2 := by
    intro before after
    simp only [drive]
    split <;> simp
  unfold pollPump
  split
  · split
    · exact quiet_nil
    · exact driven _ _
  · exact driven _ _
  · exact quiet_nil

private theorem watch_course (s : Session) : s.pollWatcher.course = s.course := by
  unfold pollWatcher
  split <;> rfl

private theorem Coherent.step_advances {s : Session} (coherent : s.Coherent) (pool : Pool)
    (move : Move) : Advances s (s.step pool move).1 (s.step pool move).2.2 := by
  cases move with
  | befall side event => exact quiet_nil.advances ((Alike.refl s).setLink side _).course
  | cancel => exact quiet_nil.advances (Alike.refl s).cancel.course
  | poll offer => exact coherent.advances (poll_progress s offer)
  | pump direction =>
    exact (pollPump_quiet s direction pool).advances (pollPump_pumped s direction pool).course
  | watch => exact quiet_nil.advances (watch_course s)

/-- A pool that counts what a session's tasks borrow and give back. -/
structure Accounted (s : Session) (pool : Pool) (t : Session) (pool' : Pool) : Prop where
  borrowed : pool'.borrowed + s.borrowed = pool.borrowed + t.borrowed
  released : pool'.released + s.released = pool.released + t.released
  untouched : t.Unmanned → s.Unmanned ∧ pool' = pool

private theorem Accounted.refl (s : Session) (pool : Pool) : Accounted s pool s pool :=
  ⟨rfl, rfl, fun unmanned => ⟨unmanned, rfl⟩⟩

private theorem Accounted.trans {s t u : Session} {pool pool' pool'' : Pool}
    (first : Accounted s pool t pool') (second : Accounted t pool' u pool'') :
    Accounted s pool u pool'' := by
  have borrowed := first.borrowed
  have borrowed' := second.borrowed
  have released := first.released
  have released' := second.released
  refine ⟨by omega, by omega, ?_⟩
  intro unmanned
  obtain ⟨unmanned', same'⟩ := second.untouched unmanned
  obtain ⟨unmanned'', same⟩ := first.untouched unmanned'
  exact ⟨unmanned'', same'.trans same⟩

private theorem Alike.accounted {s t : Session} (alike : Alike s t) (pool : Pool) :
    Accounted s pool t pool := by
  have borrowed : t.borrowed = s.borrowed := by
    rw [Session.borrowed, Session.borrowed, alike.up, alike.down]
  have released : t.released = s.released := by
    rw [Session.released, Session.released, alike.up, alike.down]
  exact ⟨by rw [borrowed], by rw [released], fun unmanned => ⟨alike.unmanned.mp unmanned, rfl⟩⟩

private theorem counts_setTask (s : Session) (direction : Direction) (task : Task) :
    (s.setTask direction task).borrowed + (s.task direction).borrowed =
        s.borrowed + task.borrowed ∧
      (s.setTask direction task).released + (s.task direction).released =
        s.released + task.released := by
  cases direction <;> simp only [setTask, Session.task, borrowed, released] <;> omega

private theorem accounted_setTask {s : Session} {direction : Direction} {task : Task}
    {pool pool' : Pool} (there : task ≠ .absent)
    (borrowed : pool'.borrowed + (s.task direction).borrowed = pool.borrowed + task.borrowed)
    (released : pool'.released + (s.task direction).released = pool.released + task.released) :
    Accounted s pool (s.setTask direction task) pool' := by
  obtain ⟨more, less⟩ := counts_setTask s direction task
  refine ⟨by omega, by omega, ?_⟩
  intro unmanned
  have absent := unmanned.task direction
  rw [task_setTask_self] at absent
  exact (there absent).elim

private theorem Driven.accounted {s t : Session} {direction : Direction} {pool pool' : Pool}
    {pump : Pump} (driven : Driven s direction pool pump t pool') {before : Pool}
    (borrowed : before.borrowed + 1 = pool.borrowed + (s.task direction).borrowed)
    (released : before.released = pool.released) (unreleased : (s.task direction).released = 0) :
    Accounted s before t pool' := by
  have alike := poll_alike direction (s.workload direction pump) pump s
  cases driven with
  | stopped _ polled _ =>
    rw [polled] at alike
    refine (alike.accounted before).trans (accounted_setTask (by simp) ?_ ?_)
    · rw [alike.task]
      exact borrowed.symm
    · rw [alike.task, unreleased, released]
      rfl
  | running _ polled _ =>
    rw [polled] at alike
    refine (alike.accounted before).trans (accounted_setTask (by simp) ?_ ?_)
    · rw [alike.task]
      exact borrowed.symm
    · rw [alike.task, unreleased, released]
      rfl

private theorem Pumped.accounted {s t : Session} {direction : Direction} {pool pool' : Pool}
    (pumped : Pumped s direction pool t pool') : Accounted s pool t pool' := by
  cases pumped with
  | idle _ => exact .refl s pool
  | lost spawned unlent =>
    obtain ⟨borrowed, released, -, -⟩ := Pool.borrow_none unlent
    exact accounted_setTask (by simp) (by rw [borrowed, spawned]; rfl)
      (by rw [released, spawned]; rfl)
  | begins spawned lent driven =>
    obtain ⟨borrowed, released, -, -⟩ := Pool.borrow_some lent
    exact driven.accounted (by rw [borrowed, spawned]; rfl) released.symm (by rw [spawned]; rfl)
  | goes running driven =>
    exact driven.accounted (by rw [running]; rfl) rfl (by rw [running]; rfl)

private theorem Coherent.accounted {s t : Session} {offer : Offer} {notes : List Note}
    (coherent : s.Coherent) (progress : Progress s offer t notes) (pool : Pool) :
    Accounted s pool t pool := by
  have unchanged {t : Session} (up : t.up = s.up) (down : t.down = s.down)
      (watched : t.watched = s.watched) : Accounted s pool t pool := by
    refine ⟨?_, ?_, ?_⟩
    · rw [borrowed, borrowed, up, down]
    · rw [released, released, up, down]
    · intro unmanned
      exact ⟨⟨up ▸ unmanned.up, down ▸ unmanned.down, watched ▸ unmanned.watched⟩, rfl⟩
  cases progress with
  | relay stage _ _ =>
    cases coherent with
    | dialing _ unmanned _ =>
      refine ⟨?_, ?_, ?_⟩
      · simp [borrowed, unmanned.up, unmanned.down, Task.borrowed]
      · simp [released, unmanned.up, unmanned.down, Task.released]
      · intro manned
        simpa using manned.up
    | _ => simp_all
  | _ => exact unchanged rfl rfl rfl

private theorem watch_accounted (s : Session) (pool : Pool) :
    Accounted s pool s.pollWatcher pool := by
  unfold pollWatcher
  split
  · refine ⟨rfl, rfl, ?_⟩
    intro unmanned
    simpa using unmanned.watched
  · exact .refl s pool

/-- Every step of a coherent session keeps the pool's counts in step with its tasks. -/
theorem Coherent.step_accounted {s : Session} (coherent : s.Coherent) (pool : Pool) (move : Move) :
    Accounted s pool (s.step pool move).1 (s.step pool move).2.1 := by
  cases move with
  | befall side event => exact ((Alike.refl s).setLink side _).accounted pool
  | cancel => exact (Alike.refl s).cancel.accounted pool
  | poll offer => exact coherent.accounted (poll_progress s offer) pool
  | pump direction => exact (pollPump_pumped s direction pool).accounted
  | watch => exact watch_accounted s pool

private theorem Progress.begins {s t : Session} {offer : Offer} {notes : List Note}
    (progress : Progress s offer t notes) (before : s.dialBegun = false)
    (after : t.dialBegun = true) :
    offer.establish = some (.ok ()) ∧ s.cancelled = false ∧ s.state = .dialing := by
  cases progress with
  | rest => simp [before] at after
  | beginDial stage live ready => exact ⟨ready, live, stage⟩
  | abandon stage begun _ =>
    rcases begun with same | ⟨-, live, ready⟩
    · simp [conclude, advance, same, before] at after
    · exact ⟨ready, live, stage⟩
  | relay stage live begun =>
    rcases begun with begun | ready
    · simp [before] at begun
    · exact ⟨ready, live, stage⟩
  | drain _ _ => simp [before] at after
  | finish _ _ _ _ _ _ => simp [conclude, advance, before] at after
  | drainAndFinish _ _ _ _ _ _ _ => simp [conclude, advance, before] at after

private theorem step_begins_dial {s : Session} {pool : Pool} {move : Move}
    (before : s.dialBegun = false) (after : (s.step pool move).1.dialBegun = true) :
    ∃ offer, move = .poll offer ∧ offer.establish = some (.ok ()) ∧ s.cancelled = false ∧
      s.state = .dialing := by
  cases move with
  | befall side event =>
    have same := ((Alike.refl s).setLink side ((s.link side).after event)).dialBegun
    simp [step, same, before] at after
  | cancel => simp [step, cancel, before] at after
  | poll offer => exact ⟨offer, rfl, (poll_progress s offer).begins before after⟩
  | pump direction =>
    have after : (s.pollPump direction pool).1.dialBegun = true := after
    rcases (pollPump_pumped s direction pool).alike with ⟨same, -⟩ | ⟨-, -, u, task, alike, -, same⟩
    · simp [same, before] at after
    · cases direction <;> simp [same, setTask, alike.dialBegun, before] at after
  | watch =>
    have after : s.pollWatcher.dialBegun = true := after
    unfold pollWatcher at after
    split at after <;> simp [before] at after

/-- What every step of a coherent session keeps holds of a whole run. -/
theorem Coherent.run {s : Session} (coherent : s.Coherent) (pool : Pool) (moves : List Move) :
    (s.run pool moves).1.Coherent ∧
      Advances s (s.run pool moves).1 (s.run pool moves).2.2 ∧
      Accounted s pool (s.run pool moves).1 (s.run pool moves).2.1 := by
  induction moves generalizing s pool with
  | nil => exact ⟨coherent, quiet_nil.advances rfl, .refl s pool⟩
  | cons move moves ih =>
    obtain ⟨coherent', advances, accounted⟩ := ih (coherent.step pool move) (s.step pool move).2.1
    exact ⟨coherent', (coherent.step_advances pool move).trans advances,
      (coherent.step_accounted pool move).trans accounted⟩

private theorem run_begins_dial {s : Session} {pool : Pool} (before : s.dialBegun = false)
    {moves : List Move} (after : (s.run pool moves).1.dialBegun = true) :
    ∃ earlier offer later, moves = earlier ++ .poll offer :: later ∧
      offer.establish = some (.ok ()) ∧ (s.run pool earlier).1.cancelled = false ∧
      (s.run pool earlier).1.state = .dialing ∧ (s.run pool earlier).1.dialBegun = false := by
  induction moves generalizing s pool with
  | nil =>
    have after : s.dialBegun = true := after
    simp [before] at after
  | cons move moves ih =>
    cases begun : (s.step pool move).1.dialBegun with
    | true =>
      obtain ⟨offer, rfl, ready, live, stage⟩ := step_begins_dial before begun
      exact ⟨[], offer, moves, rfl, ready, live, stage, before⟩
    | false =>
      obtain ⟨earlier, offer, later, rfl, rest⟩ := ih begun after
      exact ⟨move :: earlier, offer, later, rfl, rest⟩

private theorem Coherent.course_cases {s : Session} (coherent : s.Coherent) :
    (s.course <+: [.dialing, .closed] ∨
        s.course <+: [.dialing, .relaying, .draining, .closed]) ∧
      s.course.getLast? = some s.state ∧
      (.relaying ∈ s.course → s.dialBegun = true) := by
  cases coherent with
  | dialing stage _ _ => simp [course, stage]
  | relaying stage manned _ => simp [course, stage, manned.dialBegun]
  | draining stage manned _ _ => simp [course, stage, manned.dialBegun]
  | unrelayed closed unmanned _ _ => simp [unmanned.course closed, closed]
  | relayed closed deserted _ _ => simp [deserted.course closed, closed, deserted.dialBegun]

theorem Task.released_eq {task : Task} (halted : task.isOver = true) :
    task.released = task.borrowed := by
  cases task with
  | finished exit total => rfl
  | lost => rfl
  | _ => simp [isOver] at halted

/-- A session goes through its stages in order, and is closed only when all its tasks are over. -/
theorem run_keeps_stages (peer target : String) (cancelled : Bool) (client backend : Link)
    (pool : Pool) (moves : List Move) :
    let start := newborn peer target cancelled client backend
    let s := (start.run pool moves).1
    let pool' := (start.run pool moves).2.1
    let notes := (start.run pool moves).2.2
    let path := State.dialing :: stages notes
    (∀ before after, Note.advanced before after ∈ notes → before.precedes after = true) ∧
      (path <+: [.dialing, .closed] ∨ path <+: [.dialing, .relaying, .draining, .closed]) ∧
      path.getLast? = some s.state ∧
      (.relaying ∈ path → s.dialBegun = true) ∧
      (s.dialBegun = true →
        ∃ earlier offer later, moves = earlier ++ .poll offer :: later ∧
          offer.establish = some (.ok ()) ∧
          (start.run pool earlier).1.cancelled = false ∧
          (start.run pool earlier).1.state = .dialing ∧
          (start.run pool earlier).1.dialBegun = false) ∧
      (s.report.isSome = true ↔ s.state = .closed) ∧
      ∀ report, s.report = some report →
        report.state = .closed ∧
          (report.dialed = true ↔ .relaying ∈ path) ∧
          (report.dialed = false →
            path = [.dialing, .closed] ∧ report.up = 0 ∧ report.down = 0 ∧
              s.up = .absent ∧ s.down = .absent ∧ pool' = pool) ∧
          (report.dialed = true →
            path = [.dialing, .relaying, .draining, .closed] ∧
              s.up.isOver = true ∧ s.down.isOver = true ∧ s.watched = true ∧
              pool'.borrowed + pool.released = pool.borrowed + pool'.released) := by
  intro start s pool' notes path
  obtain ⟨coherent, advances, accounted⟩ :=
    (coherent_newborn peer target cancelled client backend).run pool moves
  have whole : path = s.course := advances.course.symm
  obtain ⟨shape, last, dialed⟩ := coherent.course_cases
  rw [whole]
  refine ⟨advances.permitted, shape, last, dialed, run_begins_dial rfl, ?_, ?_⟩
  · cases coherent with
    | dialing stage _ unreported => simp [s, start, stage, unreported]
    | relaying stage _ unreported => simp [s, start, stage, unreported]
    | draining stage _ unreported _ => simp [s, start, stage, unreported]
    | unrelayed closed _ reported _ => simp [s, start, closed, reported]
    | relayed closed _ reported _ => simp [s, start, closed, reported]
  · intro report made
    cases coherent with
    | dialing _ _ unreported => exact absurd (made.symm.trans unreported) (by simp)
    | relaying _ _ unreported => exact absurd (made.symm.trans unreported) (by simp)
    | draining _ _ unreported _ => exact absurd (made.symm.trans unreported) (by simp)
    | unrelayed closed unmanned reported _ =>
      obtain rfl : report = ⟨.closed, false, 0, 0⟩ := Option.some.inj (made.symm.trans reported)
      have path_eq : s.course = _ := unmanned.course closed
      refine ⟨rfl, by simp [path_eq], ?_, by simp⟩
      intro _
      exact ⟨path_eq, rfl, rfl, unmanned.up, unmanned.down, (accounted.untouched unmanned).2⟩
    | relayed closed deserted reported _ =>
      obtain rfl : report = ⟨.closed, true, s.up.total, s.down.total⟩ :=
        Option.some.inj (made.symm.trans reported)
      have path_eq : s.course = _ := deserted.course closed
      refine ⟨rfl, by simp [path_eq], by simp, ?_⟩
      intro _
      refine ⟨path_eq, deserted.up, deserted.down, deserted.watched, ?_⟩
      have returned : s.released = s.borrowed := by
        rw [Session.released, Session.borrowed, Task.released_eq deserted.up,
          Task.released_eq deserted.down]
      have borrowed : pool'.borrowed + 0 = pool.borrowed + s.borrowed := accounted.borrowed
      have released : pool'.released + 0 = pool.released + s.released := accounted.released
      omega

def shortLife : List Move :=
  [.poll ⟨some (.ok ()), none⟩, .poll ⟨none, some (.ok ())⟩, .pump .up, .pump .down,
    .befall .client (.send [1, 2, 3]), .befall .client .finish, .befall .client (.arrive 3),
    .befall .client .arriveEnd, .befall .backend (.makeRoom 8), .pump .up, .watch,
    .poll ⟨none, none⟩, .pump .down, .poll ⟨none, none⟩]

theorem run_keeps_stages_shortLife :
    let start := newborn "client" "backend" false { control := true } { control := true }
    let outcome := start.run (.ofBytes 8) shortLife
    outcome.1.report = some ⟨.closed, true, 3, 0⟩ ∧ outcome.2.1.borrowed = 2 ∧
      State.dialing :: stages outcome.2.2 = [.dialing, .relaying, .draining, .closed] ∧
      outcome.2.1.borrowed + 0 = 0 + outcome.2.1.released := by
  intro start outcome
  have reported : outcome.1.report = some ⟨.closed, true, 3, 0⟩ := by decide
  obtain ⟨-, -, -, -, -, -, ended⟩ :=
    run_keeps_stages "client" "backend" false _ _ (.ofBytes 8) shortLife
  obtain ⟨path, -, -, -, returned⟩ := (ended _ reported).2.2.2 rfl
  exact ⟨reported, by decide, path, returned⟩

end StreamRelay.Session
