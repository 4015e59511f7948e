import StreamRelay.Proofs.Session.Step

/-!
# The stages of a session

A session is dialing, relaying, draining or closed. Which tasks it has, whether they are over, and
what its report says follows from its stage.
-/

set_option autoImplicit false
set_option relaxedAutoImplicit false

namespace StreamRelay.Session

structure Unmanned (s : Session) : Prop where
  up : s.up = .absent
  down : s.down = .absent
  watched : s.watched = false

structure Manned (s : Session) : Prop where
  up : s.up ≠ .absent
  down : s.down ≠ .absent
  dialBegun : s.dialBegun = true

/-- A session whose pumps and watcher are over. -/
structure Deserted (s : Session) : Prop where
  up : s.up.isOver = true
  down : s.down.isOver = true
  watched : s.watched = true
  dialBegun : s.dialBegun = true

/-- What holds of a session in each stage. There are two ways to be closed. -/
inductive Coherent (s : Session) : Prop
  | dialing : s.state = .dialing → s.Unmanned → s.report = none → Coherent s
  | relaying : s.state = .relaying → s.Manned → s.report = none → Coherent s
  | draining : s.state = .draining → s.Manned → s.report = none → s.cancelled = true → Coherent s
  | unrelayed : s.state = .closed → s.Unmanned → s.report = some ⟨.closed, false, 0, 0⟩ →
      s.cancelled = true → Coherent s
  | relayed : s.state = .closed → s.Deserted →
      s.report = some ⟨.closed, true, s.up.total, s.down.total⟩ → s.cancelled = true → Coherent s

theorem coherent_newborn (peer target : String) (cancelled : Bool) (client backend : Link) :
    (newborn peer target cancelled client backend).Coherent :=
  .dialing rfl ⟨rfl, rfl, rfl⟩ rfl

theorem Unmanned.task {s : Session} (unmanned : s.Unmanned) (direction : Direction) :
    s.task direction = .absent := by
  cases direction
  · exact unmanned.up
  · exact unmanned.down

theorem Manned.task {s : Session} (manned : s.Manned) (direction : Direction) :
    s.task direction ≠ .absent := by
  cases direction
  · exact manned.up
  · exact manned.down

theorem Deserted.task {s : Session} (deserted : s.Deserted) (direction : Direction) :
    (s.task direction).isOver = true := by
  cases direction
  · exact deserted.up
  · exact deserted.down

theorem Deserted.manned {s : Session} (deserted : s.Deserted) : s.Manned := by
  refine ⟨?_, ?_, deserted.dialBegun⟩
  · intro absent
    simpa [absent, Task.isOver] using deserted.up
  · intro absent
    simpa [absent, Task.isOver] using deserted.down

theorem Alike.unmanned {s t : Session} (alike : Alike s t) : t.Unmanned ↔ s.Unmanned := by
  constructor
  · intro unmanned
    exact ⟨alike.up ▸ unmanned.up, alike.down ▸ unmanned.down, alike.watched ▸ unmanned.watched⟩
  · intro unmanned
    exact ⟨alike.up.trans unmanned.up, alike.down.trans unmanned.down,
      alike.watched.trans unmanned.watched⟩

private theorem Alike.manned {s t : Session} (alike : Alike s t) (manned : s.Manned) : t.Manned :=
  ⟨alike.up ▸ manned.up, alike.down ▸ manned.down, alike.dialBegun.trans manned.dialBegun⟩

private theorem Alike.deserted {s t : Session} (alike : Alike s t) (deserted : s.Deserted) :
    t.Deserted :=
  ⟨alike.up ▸ deserted.up, alike.down ▸ deserted.down, alike.watched.trans deserted.watched,
    alike.dialBegun.trans deserted.dialBegun⟩

theorem Coherent.alike {s t : Session} (coherent : s.Coherent) (alike : Alike s t) :
    t.Coherent := by
  have stage := alike.state
  have report := alike.report
  cases coherent with
  | dialing dialing unmanned unreported =>
    exact .dialing (stage.trans dialing) (alike.unmanned.mpr unmanned) (report.trans unreported)
  | relaying relaying manned unreported =>
    exact .relaying (stage.trans relaying) (alike.manned manned) (report.trans unreported)
  | draining draining manned unreported cancelled =>
    exact .draining (stage.trans draining) (alike.manned manned) (report.trans unreported)
      (alike.cancelled cancelled)
  | unrelayed closed unmanned reported cancelled =>
    exact .unrelayed (stage.trans closed) (alike.unmanned.mpr unmanned) (report.trans reported)
      (alike.cancelled cancelled)
  | relayed closed deserted reported cancelled =>
    refine .relayed (stage.trans closed) (alike.deserted deserted) ?_ (alike.cancelled cancelled)
    rw [report, reported, alike.up, alike.down]

private theorem Manned.setTask {s : Session} (manned : s.Manned) {direction : Direction}
    {task : Task} (there : task ≠ .absent) : (s.setTask direction task).Manned := by
  cases direction
  · exact ⟨there, manned.down, manned.dialBegun⟩
  · exact ⟨manned.up, there, manned.dialBegun⟩

private theorem Coherent.setTask {s : Session} (coherent : s.Coherent) {direction : Direction}
    {task : Task} (begun : s.task direction ≠ .absent) (going : (s.task direction).isOver = false)
    (there : task ≠ .absent) : (s.setTask direction task).Coherent := by
  have kept : (s.setTask direction task).state = s.state ∧
      (s.setTask direction task).report = s.report ∧
      (s.setTask direction task).cancelled = s.cancelled := by
    cases direction <;> exact ⟨rfl, rfl, rfl⟩
  obtain ⟨state, report, scope⟩ := kept
  cases coherent with
  | dialing _ unmanned _ => exact (begun (unmanned.task direction)).elim
  | relaying relaying manned unreported =>
    exact .relaying (state.trans relaying) (manned.setTask there) (report.trans unreported)
  | draining draining manned unreported cancelled =>
    exact .draining (state.trans draining) (manned.setTask there) (report.trans unreported)
      (scope.trans cancelled)
  | unrelayed _ unmanned _ _ => exact (begun (unmanned.task direction)).elim
  | relayed _ deserted _ _ => simp [deserted.task direction] at going

theorem Coherent.task_closed {s : Session} (coherent : s.Coherent) (closed : s.state = .closed)
    (direction : Direction) : s.task direction = .absent ∨ (s.task direction).isOver = true := by
  cases coherent with
  | unrelayed _ unmanned _ _ => exact .inl (unmanned.task direction)
  | relayed _ deserted _ _ => exact .inr (deserted.task direction)
  | _ => simp_all

theorem Coherent.pumped {s t : Session} {direction : Direction} {pool pool' : Pool}
    (coherent : s.Coherent) (pumped : Pumped s direction pool t pool') : t.Coherent := by
  rcases pumped.alike with ⟨rfl, -⟩ | ⟨begun, going, u, task, alike, there, rfl⟩
  · exact coherent
  · have same := alike.task direction
    exact (coherent.alike alike).setTask (same ▸ begun) (same ▸ going) there

theorem Coherent.progress {s t : Session} {offer : Offer} {notes : List Note}
    (coherent : s.Coherent) (progress : Progress s offer t notes) : t.Coherent := by
  cases progress with
  | rest => exact coherent
  | beginDial stage _ _ =>
    cases coherent with
    | dialing _ unmanned unreported =>
      exact .dialing stage ⟨unmanned.up, unmanned.down, unmanned.watched⟩ unreported
    | _ => simp_all
  | abandon stage _ _ =>
    cases coherent with
    | dialing _ unmanned unreported =>
      refine .unrelayed rfl ⟨unmanned.up, unmanned.down, unmanned.watched⟩ ?_ rfl
      simp [conclude, advance, unmanned.up, unmanned.down, Task.total]
    | _ => simp_all
  | relay stage _ _ =>
    cases coherent with
    | dialing _ _ unreported => exact .relaying rfl ⟨by simp, by simp, rfl⟩ unreported
    | _ => simp_all
  | drain stage cancelled =>
    cases coherent with
    | relaying _ manned unreported =>
      exact .draining rfl ⟨manned.up, manned.down, manned.dialBegun⟩ unreported cancelled
    | _ => simp_all
  | finish stage up down watched _ _ =>
    cases coherent with
    | draining _ manned _ _ =>
      exact .relayed rfl ⟨up, down, watched, manned.dialBegun⟩ rfl rfl
    | _ => simp_all
  | drainAndFinish stage _ up down watched _ _ =>
    cases coherent with
    | relaying _ manned _ =>
      exact .relayed rfl ⟨up, down, watched, manned.dialBegun⟩ rfl rfl
    | _ => simp_all

private theorem Coherent.watch {s : Session} (coherent : s.Coherent) : s.pollWatcher.Coherent := by
  unfold pollWatcher
  split
  · rename_i due
    obtain ⟨⟨cancelled, unwatched⟩, relays⟩ :
        (s.cancelled = true ∧ s.watched = false) ∧ s.up ≠ .absent := by simpa using due
    cases coherent with
    | dialing _ unmanned _ => exact (relays unmanned.up).elim
    | relaying stage manned unreported =>
      exact .relaying stage ⟨manned.up, manned.down, manned.dialBegun⟩ unreported
    | draining stage manned unreported _ =>
      exact .draining stage ⟨manned.up, manned.down, manned.dialBegun⟩ unreported cancelled
    | unrelayed _ unmanned _ _ => exact (relays unmanned.up).elim
    | relayed _ deserted _ _ => simp [deserted.watched] at unwatched
  · exact coherent

/-- Every step keeps what holds of a session in its stage. -/
theorem Coherent.step {s : Session} (coherent : s.Coherent) (pool : Pool) (move : Move) :
    (s.step pool move).1.Coherent := by
  cases move with
  | befall side event => exact coherent.alike ((Alike.refl s).setLink side _)
  | cancel => exact coherent.alike (Alike.refl s).cancel
  | poll offer => exact coherent.progress (poll_progress s offer)
  | pump direction => exact coherent.pumped (pollPump_pumped s direction pool)
  | watch => exact coherent.watch

end StreamRelay.Session
