import StreamRelay.Proofs.Session.Coherence
import StreamRelay.Proofs.Session.Exchange

set_option autoImplicit false
set_option relaxedAutoImplicit false

namespace StreamRelay.Session

/-- A cancelled session, compared with what it was: it has moved no byte and begun nothing. -/
structure Stilled (s t : Session) : Prop where
  cancelled : t.cancelled = true
  dialBegun : t.dialBegun = s.dialBegun
  relaying : t.state = .relaying → s.state = .relaying
  unmanned : s.Unmanned → t.Unmanned
  taken : ∀ side, (t.link side).taken = (s.link side).taken
  delivered : ∀ side, (t.link side).delivered = (s.link side).delivered

theorem Stilled.refl {s : Session} (cancelled : s.cancelled = true) : Stilled s s :=
  ⟨cancelled, rfl, id, id, fun _ => rfl, fun _ => rfl⟩

theorem Stilled.trans {s t u : Session} (first : Stilled s t) (second : Stilled t u) :
    Stilled s u where
  cancelled := second.cancelled
  dialBegun := second.dialBegun.trans first.dialBegun
  relaying := first.relaying ∘ second.relaying
  unmanned := second.unmanned ∘ first.unmanned
  taken side := (second.taken side).trans (first.taken side)
  delivered side := (second.delivered side).trans (first.delivered side)

def SameBytes (s t : Session) : Prop :=
  ∀ side, (t.link side).taken = (s.link side).taken ∧
    (t.link side).delivered = (s.link side).delivered

private theorem kept_closing (direction : Direction) (s : Session) :
    Pump.Kept (surroundings direction) fun pump t =>
      pump.IsClosing ∧ t.cancelled = true ∧ SameBytes s t where
  waiting := by
    intro pump t call t' asked silent held
    obtain ⟨rfl, -⟩ := respond_silent silent
    exact held
  answered := by
    intro pump t call answer t' asked answered ⟨closing, cancelled, same⟩
    obtain ⟨transfers, -⟩ := respond_transfers answered
    have idle : Pump.Exchange.read ⟨call, answer⟩ = [] ∧
        Pump.Exchange.accepted ⟨call, answer⟩ = [] := by
      rcases closing.calls asked with rfl | rfl | rfl | rfl <;> exact ⟨rfl, rfl⟩
    rw [idle.1, idle.2] at transfers
    refine ⟨closing.resume _ _ _, transfers.cancelled.trans cancelled, ?_⟩
    intro side
    obtain ⟨taken, delivered⟩ := same side
    rcases side.eq_source_or_destination direction with rfl | rfl
    · have taken' := transfers.source.taken
      have delivered' := transfers.source.delivered
      rw [List.append_nil] at taken' delivered'
      exact ⟨taken'.trans taken, delivered'.trans delivered⟩
    · have taken' := transfers.destination.taken
      have delivered' := transfers.destination.delivered
      rw [List.append_nil] at taken' delivered'
      exact ⟨taken'.trans taken, delivered'.trans delivered⟩

private theorem poll_stops {s : Session} (cancelled : s.cancelled = true) (direction : Direction)
    (pump : Pump) :
    (pump.poll (surroundings direction) (s.workload direction pump) s).1.exit?.isSome = true ∧
      SameBytes s (pump.poll (surroundings direction) (s.workload direction pump) s).2.2 := by
  cases going : pump.exit? with
  | some exit =>
    have outcome : pump.poll (surroundings direction) (s.workload direction pump) s =
        (pump, [], s) := by simp only [Pump.poll, going]
    rw [outcome]
    exact ⟨by simp [going], fun _ => ⟨rfl, rfl⟩⟩
  | none =>
    obtain ⟨pump_eq, session_eq⟩ := Pump.poll_outcome (surroundings direction)
      (s.workload direction pump) (w := s) going
    have scope : (surroundings direction).cancelled s = true := cancelled
    rw [pump_eq, session_eq, scope]
    have kept := kept_closing direction s
    have start : (pump.heed true).IsClosing ∧ s.cancelled = true ∧ SameBytes s s :=
      ⟨pump.heed_isClosing, cancelled, fun _ => ⟨rfl, rfl⟩⟩
    have enough : effort direction (pump.heed true) s < s.workload direction pump :=
      Nat.lt_of_le_of_lt (cost_heed_le _ pump true) (effort_lt_workload direction pump s)
    obtain ⟨closing, -, same⟩ := kept.converse (s.workload direction pump) start
    have rests := Pump.converse_rests kept (effort direction)
      (fun asked answered held => effort_resume_lt asked answered
        (fun _ _ writing => by simp [Pump.IsClosing, writing] at held) _)
      (s.workload direction pump) start enough
    generalize (pump.heed true).converse (surroundings direction) (s.workload direction pump) s =
      spoken at *
    obtain ⟨pump', notes, t⟩ := spoken
    have stopped : pump'.exit?.isSome = true := by
      rcases rests with stopped | ⟨call, t₀, asked, -, silent⟩
      · exact stopped
      · -- None of the calls that a closing pump makes can be left without an answer.
        have waits := (respond_silent silent).2
        rcases closing.calls asked with rfl | rfl | rfl | rfl <;> exact waits.elim
    refine ⟨stopped, ?_⟩
    rw [if_pos stopped]
    intro side
    simpa only [surroundings, link_cancel] using same side

theorem Alike.stilled {s t : Session} (alike : Alike s t) (cancelled : s.cancelled = true)
    (same : SameBytes s t) : Stilled s t where
  cancelled := alike.cancelled cancelled
  dialBegun := alike.dialBegun
  relaying := fun relaying => alike.state.symm.trans relaying
  unmanned := alike.unmanned.mpr
  taken side := (same side).1
  delivered side := (same side).2

private theorem drive_finishes {s : Session} (cancelled : s.cancelled = true)
    (direction : Direction) (pool : Pool) (pump : Pump) :
    ∃ u exit total, Alike s u ∧ SameBytes s u ∧
      (s.drive direction pool pump).1 = u.setTask direction (.finished exit total) := by
  obtain ⟨stopped, same⟩ := poll_stops cancelled direction pump
  have alike := poll_alike direction (s.workload direction pump) pump s
  obtain ⟨exit, halted⟩ := Option.isSome_iff_exists.mp stopped
  refine ⟨_, exit, (pump.poll (surroundings direction) (s.workload direction pump) s).1.total,
    alike, same, ?_⟩
  simp only [drive, halted]

theorem pollPump_finishes {s : Session} (cancelled : s.cancelled = true) (direction : Direction)
    (pool : Pool) :
    ((s.task direction = .absent ∨ (s.task direction).isOver = true) ∧
        (s.pollPump direction pool).1 = s) ∨
      s.task direction ≠ .absent ∧ ∃ u task, Alike s u ∧ SameBytes s u ∧ task.isOver = true ∧
        (s.pollPump direction pool).1 = u.setTask direction task := by
  have driven (pool : Pool) (pump : Pump) : ∃ u task, Alike s u ∧ SameBytes s u ∧
      task.isOver = true ∧ (s.drive direction pool pump).1 = u.setTask direction task := by
    obtain ⟨u, exit, total, alike, same, outcome⟩ := drive_finishes cancelled direction pool pump
    exact ⟨u, .finished exit total, alike, same, rfl, outcome⟩
  simp only [pollPump]
  cases task : s.task direction with
  | absent => exact .inl ⟨.inl rfl, rfl⟩
  | spawned =>
    refine .inr ⟨by simp, ?_⟩
    rcases Pump.start pool (s.link direction.source).control
      (s.link direction.destination).control with ⟨_ | pump, pool'⟩
    · exact ⟨s, .lost, .refl s, fun _ => ⟨rfl, rfl⟩, rfl, rfl⟩
    · exact driven pool' pump
  | running pump => exact .inr ⟨by simp, driven pool pump⟩
  | finished exit total => exact .inl ⟨.inr rfl, rfl⟩
  | lost => exact .inl ⟨.inr rfl, rfl⟩

private theorem Stilled.setTask {s u : Session} (stilled : Stilled s u) {direction : Direction}
    {task : Task} (manned : ¬ s.Unmanned) : Stilled s (u.setTask direction task) where
  cancelled := by
    cases direction <;> exact stilled.cancelled
  dialBegun := by
    cases direction <;> exact stilled.dialBegun
  relaying := by
    cases direction <;> exact stilled.relaying
  unmanned := fun unmanned => (manned unmanned).elim
  taken side := by
    rw [link_setTask]
    exact stilled.taken side
  delivered side := by
    rw [link_setTask]
    exact stilled.delivered side

private theorem Progress.stilled {s t : Session} {offer : Offer} {notes : List Note}
    (progress : Progress s offer t notes) (cancelled : s.cancelled = true) : Stilled s t := by
  have dead : s.cancelled ≠ false := by simp [cancelled]
  have links := progress.link
  have goes_on (scope : t.cancelled = true) (begun : t.dialBegun = s.dialBegun)
      (left : t.state ≠ .relaying) (up : t.up = s.up) (down : t.down = s.down)
      (watched : t.watched = s.watched) : Stilled s t := by
    refine ⟨scope, begun, fun relaying => (left relaying).elim, ?_, ?_, ?_⟩
    · intro unmanned
      exact ⟨up.trans unmanned.up, down.trans unmanned.down, watched.trans unmanned.watched⟩
    · exact fun side => congrArg Link.taken (links side)
    · exact fun side => congrArg Link.delivered (links side)
  cases progress with
  | rest => exact .refl cancelled
  | beginDial _ live _ => exact (dead live).elim
  | relay _ live _ => exact (dead live).elim
  | abandon _ begun _ =>
    have unbegun : _ = s.dialBegun := begun.resolve_right fun ⟨_, live, _⟩ => dead live
    exact goes_on rfl unbegun (by simp [conclude, advance]) rfl rfl rfl
  | drain _ _ => exact goes_on cancelled rfl (by simp) rfl rfl rfl
  | finish _ _ _ _ _ _ => exact goes_on rfl rfl (by simp [conclude, advance]) rfl rfl rfl
  | drainAndFinish _ _ _ _ _ _ _ =>
    exact goes_on rfl rfl (by simp [conclude, advance]) rfl rfl rfl

private theorem watch_stilled {s : Session} (cancelled : s.cancelled = true) :
    Stilled s s.pollWatcher := by
  unfold pollWatcher
  split
  · rename_i due
    obtain ⟨-, relays⟩ : (s.cancelled = true ∧ s.watched = false) ∧ s.up ≠ .absent := by
      simpa using due
    refine ⟨cancelled, rfl, id, fun unmanned => (relays unmanned.up).elim, ?_, ?_⟩
    · intro side
      cases side with
      | client => simpa [link] using s.client.forceClosed_carries.taken
      | backend => simpa [link] using s.backend.forceClosed_carries.taken
    · intro side
      cases side with
      | client => simpa [link] using s.client.forceClosed_carries.delivered
      | backend => simpa [link] using s.backend.forceClosed_carries.delivered
  · exact .refl cancelled

/-- Whatever happens to a cancelled session, it moves no byte and begins nothing. -/
theorem step_stilled {s : Session} (cancelled : s.cancelled = true) (pool : Pool) (move : Move) :
    Stilled s (s.step pool move).1 := by
  cases move with
  | befall side event =>
    refine ((Alike.refl s).setLink side _).stilled cancelled ?_
    intro side'
    obtain ⟨taken, delivered, -⟩ := (s.link side).after_unmoved event
    by_cases same : side' = side
    · subst same
      rw [link_setLink_self]
      exact ⟨taken, delivered⟩
    · rw [link_setLink_of_ne s _ same]
      exact ⟨rfl, rfl⟩
  | cancel =>
    refine (Alike.refl s).cancel.stilled cancelled ?_
    intro side
    rw [link_cancel]
    exact ⟨rfl, rfl⟩
  | poll offer => exact (poll_progress s offer).stilled cancelled
  | pump direction =>
    rcases pollPump_finishes cancelled direction pool with
      ⟨-, same⟩ | ⟨there, u, task, alike, same, -, outcome⟩
    · exact same.symm ▸ .refl cancelled
    · have moved : Stilled s (u.setTask direction task) :=
        (alike.stilled cancelled same).setTask fun unmanned => there (unmanned.task direction)
      exact outcome.symm ▸ moved
  | watch => exact watch_stilled cancelled

theorem Coherent.closed_of_stuck {s : Session} (coherent : s.Coherent)
    (cancelled : s.cancelled = true) (polled : (s.poll ⟨none, none⟩).1 = s)
    (pumped : ∀ direction, ∃ pool, (s.pollPump direction pool).1 = s)
    (watched : s.pollWatcher = s) : s.state = .closed := by
  have settled (manned : s.Manned) : s.up.isOver = true ∧ s.down.isOver = true ∧
      s.watched = true := by
    have halted (direction : Direction) : (s.task direction).isOver = true := by
      obtain ⟨pool, same⟩ := pumped direction
      rcases pollPump_finishes cancelled direction pool with
        ⟨absent | halted, -⟩ | ⟨-, u, task, -, -, halted, outcome⟩
      · exact (manned.task direction absent).elim
      · exact halted
      · rw [← same, outcome, task_setTask_self]
        exact halted
    refine ⟨halted .up, halted .down, ?_⟩
    cases unwatched : s.watched with
    | true => rfl
    | false =>
      have after : s.pollWatcher.watched = true := by
        simp [pollWatcher, cancelled, unwatched, manned.up]
      rw [watched, unwatched] at after
      cases after
  cases coherent with
  | dialing stage _ _ =>
    have after : (s.poll ⟨none, none⟩).1.state = .closed := by
      simp [poll, stage, cancelled, conclude, advance]
    rwa [polled] at after
  | relaying stage _ _ =>
    have after : (s.poll ⟨none, none⟩).1.state ≠ .relaying := by
      simp only [poll, stage, cancelled, ↓reduceIte, advance, join]
      split <;> simp [conclude, advance]
    rw [polled] at after
    exact (after stage).elim
  | draining stage manned _ _ =>
    obtain ⟨up, down, done⟩ := settled manned
    have after : (s.poll ⟨none, none⟩).1.state = .closed := by
      simp [poll, stage, join, up, down, done, conclude, advance]
    rwa [polled] at after
  | unrelayed closed _ _ _ => exact closed
  | relayed closed _ _ _ => exact closed

/-- A session whose scope was cancelled by its own end alone. -/
def EndsItself (s : Session) : Prop :=
  s.cancelled = true →
    s.state = .closed ∨ ∃ direction exit total, s.task direction = .finished exit total

theorem endsItself_newborn (peer target : String) (client backend : Link) :
    (newborn peer target false client backend).EndsItself := by
  intro cancelled
  cases cancelled

private theorem kept_scope (direction : Direction) (s : Session) :
    Pump.Kept (surroundings direction) fun _ t => t.cancelled = s.cancelled where
  waiting := by
    intro pump t call t' asked silent same
    rwa [(respond_silent silent).1]
  answered := by
    intro pump t call answer t' asked answered same
    exact (respond_transfers answered).1.cancelled.trans same

private theorem poll_scope (direction : Direction) (budget : Nat) (pump : Pump) (s : Session)
    (going : (pump.poll (surroundings direction) budget s).1.exit? = none) :
    (pump.poll (surroundings direction) budget s).2.2.cancelled = s.cancelled := by
  cases halted : pump.exit? with
  | some exit => simp only [Pump.poll, halted]
  | none =>
    obtain ⟨pump_eq, session_eq⟩ :=
      Pump.poll_outcome (surroundings direction) budget (w := s) halted
    rw [pump_eq] at going
    rw [session_eq, going]
    exact (kept_scope direction s).converse budget rfl

private theorem EndsItself.setTask {s u : Session} (ends : s.EndsItself) (alike : Alike s u)
    (scope : u.cancelled = s.cancelled) {direction : Direction}
    (going : (s.task direction).isOver = false) (task : Task) :
    (u.setTask direction task).EndsItself := by
  intro cancelled
  rw [cancelled_setTask, scope] at cancelled
  rcases ends cancelled with closed | ⟨direction', exit, total, halted⟩
  · left
    cases direction <;> exact alike.state.trans closed
  · rcases direction.eq_or_eq_other direction' with rfl | rfl
    · simp [halted, Task.isOver] at going
    · exact .inr ⟨_, exit, total, by rw [task_setTask_other, alike.task, halted]⟩

private theorem Driven.endsItself {s t : Session} {direction : Direction} {pool pool' : Pool}
    {pump : Pump} (driven : Driven s direction pool pump t pool') (ends : s.EndsItself)
    (going : (s.task direction).isOver = false) : t.EndsItself := by
  have alike := poll_alike direction (s.workload direction pump) pump s
  cases driven with
  | @stopped _ _ exit _ _ _ => exact fun _ => .inr ⟨direction, exit, _, task_setTask_self ..⟩
  | running polled outcome waits =>
    have scope := poll_scope direction (s.workload direction pump) pump s (polled ▸ waits)
    exact ends.setTask (outcome ▸ alike) (outcome ▸ scope) going _

private theorem Progress.endsItself {s t : Session} {offer : Offer} {notes : List Note}
    (progress : Progress s offer t notes) (ends : s.EndsItself) : t.EndsItself := by
  intro cancelled
  cases progress with
  | rest => exact ends cancelled
  | beginDial _ live _ => exact (Bool.eq_false_iff.mp live cancelled).elim
  | relay _ live _ => exact (Bool.eq_false_iff.mp live cancelled).elim
  | drain stage struck =>
    rcases ends struck with closed | halted
    · cases stage.symm.trans closed
    · exact .inr halted
  | abandon _ _ _ => exact .inl rfl
  | finish _ _ _ _ _ _ => exact .inl rfl
  | drainAndFinish _ _ _ _ _ _ _ => exact .inl rfl

theorem EndsItself.step {s : Session} (ends : s.EndsItself) (pool : Pool) {move : Move}
    (own : move ≠ .cancel) : (s.step pool move).1.EndsItself := by
  cases move with
  | cancel => exact (own rfl).elim
  | befall side event =>
    have alike := (Alike.refl s).setLink side ((s.link side).after event)
    intro cancelled
    rw [Session.step, cancelled_setLink] at cancelled
    rcases ends cancelled with closed | ⟨direction, exit, total, halted⟩
    · exact .inl (alike.state.trans closed)
    · exact .inr ⟨direction, exit, total, (alike.task direction).trans halted⟩
  | poll offer => exact (poll_progress s offer).endsItself ends
  | pump direction =>
    have pumped := pollPump_pumped s direction pool
    simp only [Session.step]
    generalize (s.pollPump direction pool).1 = t at pumped ⊢
    generalize (s.pollPump direction pool).2.1 = pool' at pumped
    cases pumped with
    | idle _ => exact ends
    | lost spawned _ => exact ends.setTask (.refl s) rfl (by simp [spawned, Task.isOver]) .lost
    | begins spawned _ driven => exact driven.endsItself ends (by simp [spawned, Task.isOver])
    | goes running driven => exact driven.endsItself ends (by simp [running, Task.isOver])
  | watch =>
    simp only [Session.step, pollWatcher]
    split
    · intro cancelled
      rcases ends cancelled with closed | ⟨direction, exit, total, halted⟩
      · exact .inl closed
      · exact .inr ⟨direction, exit, total, by cases direction <;> exact halted⟩
    · exact ends

end StreamRelay.Session
