import StreamRelay.Proofs.Pump.Run
import StreamRelay.Session.Basic

set_option autoImplicit false
set_option relaxedAutoImplicit false

namespace StreamRelay.Session

def newborn (peer target : String) (cancelled : Bool) (client backend : Link) : Session :=
  { peer, target, cancelled, client, backend }

def Direction.other : Direction → Direction
  | .up => .down
  | .down => .up

@[simp] theorem link_setLink_self (s : Session) (side : Side) (link : Link) :
    (s.setLink side link).link side = link := by
  cases side <;> rfl

theorem link_setLink_of_ne (s : Session) {side side' : Side} (link : Link) (differ : side' ≠ side) :
    (s.setLink side link).link side' = s.link side' := by
  cases side <;> cases side' <;> first | rfl | exact (differ rfl).elim

@[simp] theorem setLink_link (s : Session) (side : Side) : s.setLink side (s.link side) = s := by
  cases side <;> rfl

@[simp] theorem task_setTask_self (s : Session) (direction : Direction) (task : Task) :
    (s.setTask direction task).task direction = task := by
  cases direction <;> rfl

@[simp] theorem task_setTask_other (s : Session) (direction : Direction) (task : Task) :
    (s.setTask direction task).task direction.other = s.task direction.other := by
  cases direction <;> rfl

@[simp] theorem link_setTask (s : Session) (direction : Direction) (task : Task) (side : Side) :
    (s.setTask direction task).link side = s.link side := by
  cases direction <;> cases side <;> rfl

@[simp] theorem cancelled_setTask (s : Session) (direction : Direction) (task : Task) :
    (s.setTask direction task).cancelled = s.cancelled := by
  cases direction <;> rfl

/-- Two sessions that differ in their links alone; the second is cancelled if the first is. -/
structure Alike (s t : Session) : Prop where
  peer : t.peer = s.peer
  target : t.target = s.target
  state : t.state = s.state
  dialBegun : t.dialBegun = s.dialBegun
  up : t.up = s.up
  down : t.down = s.down
  watched : t.watched = s.watched
  report : t.report = s.report
  cancelled : s.cancelled = true → t.cancelled = true

theorem Alike.refl (s : Session) : Alike s s :=
  ⟨rfl, rfl, rfl, rfl, rfl, rfl, rfl, rfl, id⟩

theorem Alike.task {s t : Session} (alike : Alike s t) (direction : Direction) :
    t.task direction = s.task direction := by
  cases direction
  · exact alike.up
  · exact alike.down

theorem Alike.setLink {s t : Session} (alike : Alike s t) (side : Side) (link : Link) :
    Alike s (t.setLink side link) := by
  cases side <;>
    exact ⟨alike.peer, alike.target, alike.state, alike.dialBegun, alike.up, alike.down,
      alike.watched, alike.report, alike.cancelled⟩

theorem Alike.cancel {s t : Session} (alike : Alike s t) : Alike s t.cancel :=
  ⟨alike.peer, alike.target, alike.state, alike.dialBegun, alike.up, alike.down,
    alike.watched, alike.report, fun _ => rfl⟩

private theorem respond_eq_setLink (direction : Direction) (call : Pump.Call) (s : Session) :
    ∃ side link, ((surroundings direction).respond call s).2 = s.setLink side link := by
  cases call with
  | flush => exact ⟨.client, s.client, rfl⟩
  | read room => exact ⟨_, _, rfl⟩
  | write data => exact ⟨_, _, rfl⟩
  | shutdown => exact ⟨_, _, rfl⟩
  | closeWrite => exact ⟨_, _, rfl⟩
  | closeDestination => exact ⟨_, _, rfl⟩
  | closeRead => exact ⟨_, _, rfl⟩
  | closeSource => exact ⟨_, _, rfl⟩

private theorem kept_alike (direction : Direction) (s : Session) :
    Pump.Kept (surroundings direction) fun _ t => Alike s t where
  waiting := by
    intro pump t call t' asked silent alike
    obtain ⟨side, link, changed⟩ := respond_eq_setLink direction call t
    simp only [silent] at changed
    exact changed ▸ alike.setLink side link
  answered := by
    intro pump t call answer t' asked answered alike
    obtain ⟨side, link, changed⟩ := respond_eq_setLink direction call t
    simp only [answered] at changed
    exact changed ▸ alike.setLink side link

theorem poll_alike (direction : Direction) (budget : Nat) (pump : Pump) (s : Session) :
    Alike s (pump.poll (surroundings direction) budget s).2.2 :=
  (kept_alike direction s).poll (fun alike => alike) (fun alike => alike.cancel) budget
    (Alike.refl s)

/-- What a poll of a running pump comes to; when it stops, its buffer is back. -/
inductive Driven (s : Session) (direction : Direction) (pool : Pool) (pump : Pump) :
    Session → Pool → Prop
  | stopped {pump' : Pump} {t : Session} {exit : Pump.Exit} :
      (pump.poll (surroundings direction) (s.workload direction pump) s).1 = pump' →
      (pump.poll (surroundings direction) (s.workload direction pump) s).2.2 = t →
      pump'.exit? = some exit →
      Driven s direction pool pump (t.setTask direction (.finished exit pump'.total))
        (pool.release pump'.buffer)
  | running {pump' : Pump} {t : Session} :
      (pump.poll (surroundings direction) (s.workload direction pump) s).1 = pump' →
      (pump.poll (surroundings direction) (s.workload direction pump) s).2.2 = t →
      pump'.exit? = none →
      Driven s direction pool pump (t.setTask direction (.running pump')) pool

private theorem drive_driven (s : Session) (direction : Direction) (pool : Pool) (pump : Pump) :
    Driven s direction pool pump (s.drive direction pool pump).1
      (s.drive direction pool pump).2.1 := by
  simp only [drive]
  cases halted :
      (pump.poll (surroundings direction) (s.workload direction pump) s).1.exit? with
  | some exit => exact .stopped rfl rfl halted
  | none => exact .running rfl rfl halted

/-- A poll drives a pump that is there and not over, with a buffer from the pool at first. -/
inductive Pumped (s : Session) (direction : Direction) (pool : Pool) : Session → Pool → Prop
  | idle : s.task direction = .absent ∨ (s.task direction).isOver = true →
      Pumped s direction pool s pool
  | lost {pool' : Pool} : s.task direction = .spawned → pool.borrow = (none, pool') →
      Pumped s direction pool (s.setTask direction .lost) pool'
  | begins {buffer : Buffer} {pool₁ : Pool} {t : Session} {pool' : Pool}
      {sourceControl destinationControl : Bool} :
      s.task direction = .spawned → pool.borrow = (some buffer, pool₁) →
      Driven s direction pool₁ { sourceControl, destinationControl, buffer } t pool' →
      Pumped s direction pool t pool'
  | goes {pump : Pump} {t : Session} {pool' : Pool} :
      s.task direction = .running pump → Driven s direction pool pump t pool' →
      Pumped s direction pool t pool'

theorem pollPump_pumped (s : Session) (direction : Direction) (pool : Pool) :
    Pumped s direction pool (s.pollPump direction pool).1 (s.pollPump direction pool).2.1 := by
  simp only [pollPump]
  cases task : s.task direction with
  | absent => exact .idle (.inl task)
  | spawned =>
    rcases borrowed : pool.borrow with ⟨_ | buffer, pool₁⟩
    · simp only [Pump.start, borrowed]
      exact .lost task borrowed
    · simp only [Pump.start, borrowed]
      exact .begins task borrowed (drive_driven ..)
  | running pump => exact .goes task (drive_driven ..)
  | finished exit total => exact .idle (.inr (by simp [task, Task.isOver]))
  | lost => exact .idle (.inr (by simp [task, Task.isOver]))

private theorem Driven.alike {s t : Session} {direction : Direction} {pool pool' : Pool}
    {pump : Pump} (driven : Driven s direction pool pump t pool') :
    ∃ u task, Alike s u ∧ task ≠ .absent ∧ t = u.setTask direction task := by
  have alike := poll_alike direction (s.workload direction pump) pump s
  cases driven with
  | stopped _ polled _ => exact ⟨_, _, polled ▸ alike, by simp, rfl⟩
  | running _ polled _ => exact ⟨_, _, polled ▸ alike, by simp, rfl⟩

theorem Pumped.alike {s t : Session} {direction : Direction} {pool pool' : Pool}
    (pumped : Pumped s direction pool t pool') :
    t = s ∧ pool' = pool ∨
      s.task direction ≠ .absent ∧ (s.task direction).isOver = false ∧
        ∃ u task, Alike s u ∧ task ≠ .absent ∧ t = u.setTask direction task := by
  cases pumped with
  | idle _ => exact .inl ⟨rfl, rfl⟩
  | lost spawned _ =>
    exact .inr ⟨by simp [spawned], by simp [spawned, Task.isOver], s, .lost, .refl s, by simp, rfl⟩
  | begins spawned _ driven =>
    exact .inr ⟨by simp [spawned], by simp [spawned, Task.isOver], driven.alike⟩
  | goes running driven =>
    exact .inr ⟨by simp [running], by simp [running, Task.isOver], driven.alike⟩

/-- Reports that tell of no new stage. -/
def Quiet (notes : List Note) : Prop := ∀ before after, Note.advanced before after ∉ notes

theorem quiet_nil : Quiet [] := fun _ _ => List.not_mem_nil

/-- A dial may be begun in the poll in which it is answered. -/
inductive Progress (s : Session) (offer : Offer) : Session → List Note → Prop
  | rest : Progress s offer s []
  | beginDial : s.state = .dialing → s.cancelled = false → offer.establish = some (.ok ()) →
      Progress s offer { s with dialBegun := true } []
  | abandon {begun : Bool} {complaint : List Note} : s.state = .dialing →
      begun = s.dialBegun ∨
        begun = true ∧ s.cancelled = false ∧ offer.establish = some (.ok ()) →
      Quiet complaint →
      Progress s offer (({ s with dialBegun := begun } : Session).conclude false).1
        (complaint ++ [.advanced .dialing .closed])
  | relay : s.state = .dialing → s.cancelled = false →
      s.dialBegun = true ∨ offer.establish = some (.ok ()) →
      Progress s offer
        { s with dialBegun := true, state := .relaying, up := .spawned, down := .spawned }
        [.advanced .dialing .relaying]
  | drain : s.state = .relaying → s.cancelled = true →
      Progress s offer { s with state := .draining } [.advanced .relaying .draining]
  | finish {before after : List Note} : s.state = .draining →
      s.up.isOver = true → s.down.isOver = true → s.watched = true → Quiet before → Quiet after →
      Progress s offer (s.conclude true).1 (before ++ [.advanced .draining .closed] ++ after)
  | drainAndFinish {before after : List Note} : s.state = .relaying → s.cancelled = true →
      s.up.isOver = true → s.down.isOver = true → s.watched = true → Quiet before → Quiet after →
      Progress s offer (s.conclude true).1
        (.advanced .relaying .draining :: (before ++ [.advanced .draining .closed] ++ after))

theorem Progress.link {s t : Session} {offer : Offer} {notes : List Note}
    (progress : Progress s offer t notes) (side : Side) : t.link side = s.link side := by
  cases progress <;> cases side <;> rfl

private theorem dial_progress {s : Session} {offer : Offer} (dialing : s.state = .dialing)
    (live : s.cancelled = false)
    (begun : s.dialBegun = true ∨ offer.establish = some (.ok ())) :
    Progress s offer (({ s with dialBegun := true } : Session).dial offer.dial).1
      (({ s with dialBegun := true } : Session).dial offer.dial).2 := by
  rcases offer.dial with _ | error | _
  · rcases begun with begun | ready
    · have same : ({ s with dialBegun := true } : Session) = s := by rw [← begun]
      rw [same]
      exact .rest
    · exact .beginDial dialing live ready
  · have quiet : Quiet [.notDialed error] := by simp [Quiet]
    have begun' : true = s.dialBegun ∨
        true = true ∧ s.cancelled = false ∧ offer.establish = some (.ok ()) :=
      begun.imp Eq.symm fun ready => ⟨rfl, live, ready⟩
    have failed := Progress.abandon dialing begun' quiet
    have outcome : ({ s with dialBegun := true } : Session).dial (some (.error error)) =
        ((({ s with dialBegun := true } : Session).conclude false).1,
          [.notDialed error] ++ [.advanced .dialing .closed]) := by
      simp [dial, conclude, advance, dialing]
    rw [outcome]
    exact failed
  · have relayed := Progress.relay dialing live begun
    simpa only [dial, advance, dialing] using relayed

private theorem quiet_lost (s : Session) :
    Quiet ((if s.up = .lost then [.pumpLost .up] else []) ++
      (if s.down = .lost then [Note.pumpLost .down] else [])) := by
  intro before after
  split <;> split <;> simp

private theorem join_outcome (s : Session) :
    s.join = (s, []) ∨
      s.up.isOver = true ∧ s.down.isOver = true ∧ s.watched = true ∧
        ∃ before after, Quiet before ∧ Quiet after ∧
          s.join = ((s.conclude true).1, before ++ [.advanced s.state .closed] ++ after) := by
  unfold join
  split
  · rename_i halted
    obtain ⟨⟨up, down⟩, watched⟩ : (s.up.isOver = true ∧ s.down.isOver = true) ∧
        s.watched = true := by simpa using halted
    exact .inr ⟨up, down, watched, _, [.finished s.up.total s.down.total], quiet_lost s,
      by simp [Quiet], rfl⟩
  · exact .inl rfl

theorem poll_progress (s : Session) (offer : Offer) :
    Progress s offer (s.poll offer).1 (s.poll offer).2 := by
  cases stage : s.state with
  | dialing =>
    have given_up {complaint : List Note} (quiet : Quiet complaint)
        (outcome : s.poll offer =
          ((s.conclude false).1, complaint ++ [.advanced .dialing .closed])) :
        Progress s offer (s.poll offer).1 (s.poll offer).2 := by
      rw [outcome]
      exact .abandon stage (.inl rfl) quiet
    cases live : s.cancelled with
    | true => exact given_up quiet_nil (by simp [poll, stage, live, conclude, advance])
    | false =>
      have dialed (begun : s.dialBegun = true ∨ offer.establish = some (.ok ()))
          (outcome : s.poll offer = ({ s with dialBegun := true } : Session).dial offer.dial) :
          Progress s offer (s.poll offer).1 (s.poll offer).2 := by
        rw [outcome]
        exact dial_progress stage live begun
      cases begun : s.dialBegun with
      | true =>
        have same : ({ s with dialBegun := true } : Session) = s := by rw [← begun]
        exact dialed (.inl begun) (by rw [same]; simp [poll, stage, live, begun])
      | false =>
        rcases ready : offer.establish with _ | error | _
        · have outcome : s.poll offer = (s, []) := by simp [poll, stage, live, begun, ready]
          rw [outcome]
          exact .rest
        · have quiet : Quiet [.notEstablished error] := by simp [Quiet]
          exact given_up quiet (by simp [poll, stage, live, begun, ready, conclude, advance])
        · exact dialed (.inr ready) (by simp [poll, stage, live, begun, ready])
  | relaying =>
    cases live : s.cancelled with
    | false =>
      have outcome : s.poll offer = (s, []) := by simp [poll, stage, live]
      rw [outcome]
      exact .rest
    | true =>
      have outcome : s.poll offer = (({ s with state := .draining } : Session).join.1,
          .advanced .relaying .draining :: ({ s with state := .draining } : Session).join.2) := by
        simp [poll, stage, live, advance]
      rw [outcome]
      rcases join_outcome { s with state := .draining } with
        waits | ⟨up, down, watched, before, after, quiet, quiet', joined⟩
      · rw [waits]
        exact .drain stage live
      · rw [joined]
        exact .drainAndFinish stage live up down watched quiet quiet'
  | draining =>
    have outcome : s.poll offer = s.join := by simp [poll, stage]
    rw [outcome]
    rcases join_outcome s with waits | ⟨up, down, watched, before, after, quiet, quiet', joined⟩
    · rw [waits]
      exact .rest
    · rw [joined, stage]
      exact .finish stage up down watched quiet quiet'
  | closed =>
    have outcome : s.poll offer = (s, []) := by simp [poll, stage]
    rw [outcome]
    exact .rest

theorem run_append (s : Session) (pool : Pool) (moves more : List Move) :
    s.run pool (moves ++ more) =
      (((s.run pool moves).1.run (s.run pool moves).2.1 more).1,
        ((s.run pool moves).1.run (s.run pool moves).2.1 more).2.1,
        (s.run pool moves).2.2 ++ ((s.run pool moves).1.run (s.run pool moves).2.1 more).2.2) := by
  induction moves generalizing s pool with
  | nil => rfl
  | cons move moves ih => simp only [List.cons_append, run, ih, List.append_assoc]

end StreamRelay.Session
