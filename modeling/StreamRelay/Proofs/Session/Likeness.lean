import StreamRelay.Proofs.Buffer.Borrow
import StreamRelay.Proofs.Pump.Likeness
import StreamRelay.Proofs.Session.Conveyance

/-!
# Sessions that behave alike

Two sessions that differ in no more than which buffers their pumps hold do the same whatever happens
to both of them, even over pools that lend different buffers, as long as these are of one size.
-/

set_option autoImplicit false
set_option relaxedAutoImplicit false

namespace StreamRelay

private theorem Pump.Like.refl (pump : Pump) : Pump.Like pump pump :=
  ⟨rfl, rfl, rfl, rfl, rfl, fun _ _ _ => rfl⟩

namespace Session

inductive Task.Like : Task → Task → Prop
  | refl (task : Task) : Task.Like task task
  | running {p q : Pump} : Pump.Like p q → Task.Like (.running p) (.running q)

namespace Task.Like

variable {task task' : Task}

private theorem isOver (like : Task.Like task task') : task'.isOver = task.isOver := by
  cases like <;> rfl

private theorem total (like : Task.Like task task') : task'.total = task.total := by
  cases like <;> rfl

private theorem eq_absent (like : Task.Like task task') : task' = .absent ↔ task = .absent := by
  cases like <;> simp

private theorem eq_lost (like : Task.Like task task') : task' = .lost ↔ task = .lost := by
  cases like <;> simp

end Task.Like

/-- Two sessions that differ in no more than the buffers of their pumps. -/
structure Like (s t : Session) : Prop where
  peer : t.peer = s.peer
  target : t.target = s.target
  cancelled : t.cancelled = s.cancelled
  client : t.client = s.client
  backend : t.backend = s.backend
  state : t.state = s.state
  dialBegun : t.dialBegun = s.dialBegun
  up : s.up.Like t.up
  down : s.down.Like t.down
  watched : t.watched = s.watched
  report : t.report = s.report

/-- Outcomes with like sessions and the same reports. -/
def Agree (outcome outcome' : Session × List Note) : Prop :=
  outcome.1.Like outcome'.1 ∧ outcome'.2 = outcome.2

/-- The session in the poll in which its dial is begun. -/
def beginDial (s : Session) : Session := { s with dialBegun := true }

/-- The session when it stops to relay. -/
def drain (s : Session) : Session := { s with state := .draining }

private theorem poll_dialing {s : Session} (stage : s.state = .dialing) (offer : Offer) :
    s.poll offer =
      if s.cancelled then s.conclude false
      else if s.dialBegun then s.dial offer.dial
      else
        match offer.establish with
        | none => (s, [])
        | some (.error error) =>
          ((s.conclude false).1, .notEstablished error :: (s.conclude false).2)
        | some (.ok ()) => s.beginDial.dial offer.dial := by
  obtain ⟨⟩ := s
  cases stage
  rfl

private theorem poll_relaying {s : Session} (stage : s.state = .relaying) (offer : Offer) :
    s.poll offer =
      if s.cancelled then
        (s.drain.join.1, .advanced .relaying .draining :: s.drain.join.2)
      else (s, []) := by
  simp only [poll, stage, advance, drain, List.singleton_append]

private theorem poll_draining {s : Session} (stage : s.state = .draining) (offer : Offer) :
    s.poll offer = s.join := by
  simp only [poll, stage]

private theorem poll_closed {s : Session} (stage : s.state = .closed) (offer : Offer) :
    s.poll offer = (s, []) := by
  simp only [poll, stage]

namespace Like

variable {s t : Session}

theorem refl (s : Session) : s.Like s :=
  ⟨rfl, rfl, rfl, rfl, rfl, rfl, rfl, .refl _, .refl _, rfl, rfl⟩

theorem link (like : s.Like t) (side : Side) : t.link side = s.link side := by
  cases side
  · exact like.client
  · exact like.backend

private theorem task (like : s.Like t) (direction : Direction) :
    (s.task direction).Like (t.task direction) := by
  cases direction
  · exact like.up
  · exact like.down

private theorem setLink (like : s.Like t) (side : Side) (link : Link) :
    (s.setLink side link).Like (t.setLink side link) := by
  cases side
  · exact { like with client := rfl }
  · exact { like with backend := rfl }

private theorem setTask (like : s.Like t) (direction : Direction) {task task' : Task}
    (alike : task.Like task') : (s.setTask direction task).Like (t.setTask direction task') := by
  cases direction
  · exact { like with up := alike }
  · exact { like with down := alike }

theorem cancel (like : s.Like t) : s.cancel.Like t.cancel := { like with cancelled := rfl }

private theorem beginDial (like : s.Like t) : s.beginDial.Like t.beginDial :=
    { like with dialBegun := rfl }

private theorem drain (like : s.Like t) : s.drain.Like t.drain := { like with state := rfl }

private theorem rest (like : s.Like t) : Agree (s, []) (t, []) := ⟨like, rfl⟩

private theorem conclude (like : s.Like t) (dialed : Bool) :
    Agree (s.conclude dialed) (t.conclude dialed) := by
  simp only [Session.conclude, advance, like.state, like.up.total, like.down.total]
  exact ⟨{ like with cancelled := rfl, state := rfl, report := rfl }, rfl⟩

private theorem dial (like : s.Like t) (answer : Option (Except IoError Unit)) :
    Agree (s.dial answer) (t.dial answer) := by
  rcases answer with _ | error | _
  · exact like.rest
  · obtain ⟨closed, notes⟩ := like.conclude false
    exact ⟨closed, congrArg (Note.notDialed error :: ·) notes⟩
  · simp only [Session.dial, advance, like.state]
    exact ⟨{ like with state := rfl, up := .refl _, down := .refl _ }, rfl⟩

private theorem join (like : s.Like t) : Agree s.join t.join := by
  obtain ⟨closed, notes⟩ := like.conclude true
  simp only [Session.join, like.up.isOver, like.down.isOver, like.watched, like.up.eq_lost,
    like.down.eq_lost]
  split
  · refine ⟨closed, ?_⟩
    simp only [notes, closed.up.total, closed.down.total]
  · exact like.rest

private theorem poll (like : s.Like t) (offer : Offer) : Agree (s.poll offer) (t.poll offer) := by
  cases stage : s.state with
  | dialing =>
    rw [poll_dialing stage, poll_dialing (like.state.trans stage), like.cancelled, like.dialBegun]
    obtain ⟨closed, notes⟩ := like.conclude false
    split
    · exact ⟨closed, notes⟩
    · split
      · exact like.dial offer.dial
      · split
        · exact like.rest
        · exact ⟨closed, congrArg (Note.notEstablished _ :: ·) notes⟩
        · exact like.beginDial.dial offer.dial
  | relaying =>
    rw [poll_relaying stage, poll_relaying (like.state.trans stage), like.cancelled]
    obtain ⟨joined, notes⟩ := like.drain.join
    split
    · exact ⟨joined, congrArg (Note.advanced .relaying .draining :: ·) notes⟩
    · exact like.rest
  | draining =>
    rw [poll_draining stage, poll_draining (like.state.trans stage)]
    exact like.join
  | closed =>
    rw [poll_closed stage, poll_closed (like.state.trans stage)]
    exact like.rest

private theorem watch (like : s.Like t) : s.pollWatcher.Like t.pollWatcher := by
  simp only [pollWatcher, like.cancelled, like.watched, ne_eq, like.up.eq_absent]
  split
  · exact { like with
      cancelled := rfl
      client := congrArg Link.forceClosed like.client
      backend := congrArg Link.forceClosed like.backend
      watched := rfl }
  · exact like

end Like

def withTasks (s t : Session) : Session := { s with up := t.up, down := t.down }

private theorem mirrors_withTasks (direction : Direction) (t : Session) :
    Pump.Mirrors (surroundings direction) (·.withTasks t) (surroundings direction) where
  cancelled _ := rfl
  cancel _ := rfl
  respond call s := by cases call <;> cases direction <;> rfl

namespace Like

variable {s t : Session}

private theorem eq_withTasks (like : s.Like t) : t = s.withTasks t := by
  obtain ⟨peer, target, cancelled, client, backend, state, dialBegun, -, -, watched, report⟩ := like
  cases t
  simp_all [withTasks]

private theorem drive (like : s.Like t) (direction : Direction) (pool pool' : Pool) {p q : Pump}
    (alike : Pump.Like p q) :
    (s.drive direction pool p).1.Like (t.drive direction pool' q).1 ∧
      (t.drive direction pool' q).2.2 = (s.drive direction pool p).2.2 := by
  have workload : t.workload direction q = s.workload direction p := by
    simp only [Session.workload, like.link, alike.phase]
  have kept := poll_alike direction (s.workload direction p) p s
  -- A poll sees the links and the scope only, and in these `t` is `s` with other tasks.
  obtain ⟨alike', notes, same⟩ :=
    (mirrors_withTasks direction t).poll (s.workload direction p) alike s
  rw [← like.eq_withTasks] at alike' notes same
  simp only [Session.drive, workload, notes, alike'.exit?]
  generalize p.poll (surroundings direction) (s.workload direction p) s = outcome at *
  generalize q.poll (surroundings direction) (s.workload direction p) t = outcome' at *
  obtain ⟨p', notes, s'⟩ := outcome
  obtain ⟨q', notes', t'⟩ := outcome'
  simp only at alike' same kept ⊢
  have like' : s'.Like t' := by
    subst same
    refine ⟨rfl, rfl, rfl, rfl, rfl, rfl, rfl, ?_, ?_, rfl, rfl⟩
    · exact kept.up ▸ like.up
    · exact kept.down ▸ like.down
  split
  · exact ⟨like'.setTask direction (alike'.total ▸ .refl _), rfl⟩
  · exact ⟨like'.setTask direction (.running alike'), rfl⟩

private theorem pollPump (like : s.Like t) (direction : Direction) {size : Nat} {pool pool' : Pool}
    (supplies : pool.Supplies size) (supplies' : pool'.Supplies size) :
    (s.pollPump direction pool).1.Like (t.pollPump direction pool').1 ∧
      (t.pollPump direction pool').2.2 = (s.pollPump direction pool).2.2 := by
  have alike := like.task direction
  simp only [Session.pollPump, like.link]
  generalize s.task direction = task at alike ⊢
  generalize t.task direction = task' at alike ⊢
  cases alike with
  | running alike => exact like.drive direction pool pool' alike
  | refl task =>
    cases task with
    | running pump => exact like.drive direction pool pool' (.refl pump)
    | spawned =>
      rcases supplies.borrow with ⟨large, _, unlent, -⟩ | ⟨fits, buffer, _, lent, sized, -⟩
      · rcases supplies'.borrow with ⟨-, _, unlent', -⟩ | ⟨fits, -⟩
        · simp only [Pump.start, unlent, unlent']
          exact ⟨like.setTask direction (.refl .lost), trivial⟩
        · omega
      · rcases supplies'.borrow with ⟨large, -⟩ | ⟨-, buffer', _, lent', sized', -⟩
        · omega
        · simp only [Pump.start, lent, lent']
          exact like.drive direction _ _ (Pump.like_start _ _ (sized'.trans sized.symm))
    | absent => exact ⟨like, rfl⟩
    | finished exit total => exact ⟨like, rfl⟩
    | lost => exact ⟨like, rfl⟩

/-- Whatever happens to two sessions that are alike leaves them alike, with the same reports. -/
theorem step (like : s.Like t) {size : Nat} {pool pool' : Pool} (supplies : pool.Supplies size)
    (supplies' : pool'.Supplies size) (move : Move) :
    (s.step pool move).1.Like (t.step pool' move).1 ∧
      (t.step pool' move).2.2 = (s.step pool move).2.2 := by
  cases move with
  | befall side event =>
    simp only [Session.step, like.link]
    exact ⟨like.setLink side _, trivial⟩
  | cancel => exact ⟨like.cancel, rfl⟩
  | poll offer => exact like.poll offer
  | pump direction => exact like.pollPump direction supplies supplies'
  | watch => exact ⟨like.watch, rfl⟩

end Like

/-- A session whose pumps hold buffers of one size. -/
def Equipped (size : Nat) (s : Session) : Prop :=
  ∀ direction pump, s.task direction = .running pump →
    pump.buffer.size = size ∧ size ≤ maxAllocation

theorem equipped_newborn (size : Nat) (peer target : String) (cancelled : Bool)
    (client backend : Link) : (newborn peer target cancelled client backend).Equipped size := by
  intro direction pump running
  cases direction <;> cases running

theorem Equipped.alike {size : Nat} {s t : Session} (equipped : s.Equipped size)
    (alike : Alike s t) : t.Equipped size := by
  intro direction pump running
  exact equipped direction pump ((alike.task direction).symm.trans running)

private theorem Equipped.setTask {size : Nat} {s : Session} (equipped : s.Equipped size)
    {direction : Direction} {task : Task}
    (sized : ∀ pump, task = .running pump → pump.buffer.size = size ∧ size ≤ maxAllocation) :
    (s.setTask direction task).Equipped size := by
  intro direction' pump running
  rcases direction.eq_or_eq_other direction' with rfl | rfl
  · exact sized pump ((task_setTask_self ..).symm.trans running)
  · exact equipped _ pump ((task_setTask_other ..).symm.trans running)

private theorem kept_buffer_size (direction : Direction) (size : Nat) :
    Pump.Kept (surroundings direction) fun pump _ => pump.buffer.size = size where
  waiting := fun _ _ sized => sized
  answered := fun asked answered sized => (resume_buffer_size asked answered _).trans sized

private theorem poll_buffer_size (direction : Direction) (budget : Nat) (pump : Pump)
    (s : Session) :
    (pump.poll (surroundings direction) budget s).1.buffer.size = pump.buffer.size := by
  refine (kept_buffer_size direction pump.buffer.size).poll ?_ (fun sized => sized) budget rfl
  intro pump' t sized
  rwa [heed_buffer]

private theorem Driven.equipped {size : Nat} {s t : Session} {direction : Direction}
    {pool pool' : Pool}
    {pump : Pump} (driven : Driven s direction pool pump t pool') (equipped : s.Equipped size)
    (supplies : pool.Supplies size) (sized : pump.buffer.size = size)
    (fits : size ≤ maxAllocation) : t.Equipped size ∧ pool'.Supplies size := by
  have alike := poll_alike direction (s.workload direction pump) pump s
  have same := poll_buffer_size direction (s.workload direction pump) pump s
  cases driven with
  | stopped polled outcome _ =>
    rw [outcome] at alike
    rw [polled] at same
    exact ⟨(equipped.alike alike).setTask (by simp), supplies.release fits (same.trans sized)⟩
  | running polled outcome _ =>
    rw [outcome] at alike
    rw [polled] at same
    refine ⟨(equipped.alike alike).setTask ?_, supplies⟩
    rintro pump' ⟨⟩
    exact ⟨same.trans sized, fits⟩

private theorem Progress.equipped {size : Nat} {s t : Session} {offer : Offer} {notes : List Note}
    (progress : Progress s offer t notes) (equipped : s.Equipped size) : t.Equipped size := by
  cases progress with
  | relay _ _ _ =>
    intro direction pump running
    cases direction <;> cases running
  | _ =>
    intro direction pump running
    exact equipped direction pump (by cases direction <;> exact running)

/-- Every step of a session leaves its pool with buffers of one size, and its pumps too. -/
theorem Equipped.step {size : Nat} {s : Session} (equipped : s.Equipped size) {pool : Pool}
    (supplies : pool.Supplies size) (move : Move) :
    (s.step pool move).1.Equipped size ∧ (s.step pool move).2.1.Supplies size := by
  cases move with
  | befall side event => exact ⟨equipped.alike ((Alike.refl s).setLink side _), supplies⟩
  | cancel => exact ⟨equipped.alike (Alike.refl s).cancel, supplies⟩
  | poll offer => exact ⟨(poll_progress s offer).equipped equipped, supplies⟩
  | pump direction =>
    have pumped := pollPump_pumped s direction pool
    simp only [Session.step]
    generalize (s.pollPump direction pool).1 = t at pumped ⊢
    generalize (s.pollPump direction pool).2.1 = pool' at pumped ⊢
    cases pumped with
    | idle _ => exact ⟨equipped, supplies⟩
    | goes running driven =>
      obtain ⟨sized, fits⟩ := equipped direction _ running
      exact driven.equipped equipped supplies sized fits
    | lost _ unlent =>
      refine ⟨equipped.setTask (by simp), ?_⟩
      rcases supplies.borrow with ⟨-, _, unlent', supplies'⟩ | ⟨-, _, _, lent, -⟩
      · exact (Prod.mk.inj (unlent'.symm.trans unlent)).2 ▸ supplies'
      · cases (Prod.mk.inj (lent.symm.trans unlent)).1
    | begins _ lent driven =>
      rcases supplies.borrow with ⟨-, _, unlent, -⟩ | ⟨fits, _, _, lent', sized, supplies'⟩
      · cases (Prod.mk.inj (unlent.symm.trans lent)).1
      · obtain ⟨same, rfl⟩ := Prod.mk.inj (lent'.symm.trans lent)
        obtain rfl := Option.some.inj same
        exact driven.equipped equipped supplies' sized fits
  | watch =>
    refine ⟨?_, supplies⟩
    simp only [Session.step, pollWatcher]
    split
    · intro direction pump running
      exact equipped direction pump (by cases direction <;> exact running)
    · exact equipped

end Session

end StreamRelay
