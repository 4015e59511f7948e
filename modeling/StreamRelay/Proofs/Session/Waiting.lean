import StreamRelay.Proofs.Session.Delivery

set_option autoImplicit false
set_option relaxedAutoImplicit false

namespace StreamRelay

namespace Pump

def Phase.goal? : Phase → Option Exit
  | .reading => none
  | .writing _ _ => none
  | .flushing _ => none
  | .shutting exit => some exit
  | .endingDestination exit => some exit
  | .closingDestination exit => some exit
  | .endingSource => some .writeError
  | .closingSource => some .writeError
  | .stopped exit => some exit

/-- A pump that does not stop as cancelled, and that has bytes left of a chunk that it writes. -/
structure IsEarnest (pump : Pump) : Prop where
  willing : pump.phase.goal? ≠ some .cancelled
  behind : ∀ size accepted, pump.phase = .writing size accepted → accepted < size

private theorem isEarnest_start (sourceControl destinationControl : Bool) (buffer : Buffer) :
    IsEarnest { sourceControl, destinationControl, buffer } :=
  ⟨by simp [Phase.goal?], by simp⟩

private theorem IsEarnest.exit? {pump : Pump} (earnest : pump.IsEarnest) :
    pump.exit? ≠ some .cancelled := by
  have willing := earnest.willing
  cases phase : pump.phase <;> simp_all [Pump.exit?, Phase.goal?]

private theorem isEarnest_failWrite (pump : Pump) (error : IoError) :
    (pump.failWrite false error).1.IsEarnest := by
  cases control : pump.sourceControl <;>
    exact ⟨by simp [failWrite, enter, control, Phase.goal?], by simp [failWrite, enter, control]⟩

private theorem IsEarnest.resume {pump : Pump} (earnest : pump.IsEarnest) {call : Call}
    (asked : pump.call? = some call) (answer : call.Answer) :
    (pump.resume false call answer).1.IsEarnest := by
  have willing := earnest.willing
  have entered {exit : Exit} (phase : Phase) (goal : pump.phase.goal? = some exit)
      (same : phase.goal? = some exit) : (pump.enter phase).IsEarnest := by
    refine ⟨?_, ?_⟩
    · show phase.goal? ≠ _
      rwa [same, ← goal]
    · intro size accepted writing
      have writing : phase = .writing size accepted := writing
      simp [writing, Phase.goal?] at same
  have outcome := resume_answered asked false answer
  generalize (pump.resume false call answer).1 = next at outcome ⊢
  generalize (pump.resume false call answer).2 = notes at outcome
  cases outcome with
  | ended _ => exact ⟨by simp [heed, enter, Phase.goal?], by simp [heed, enter]⟩
  | unread _ _ => exact ⟨by simp [heed, enter, Phase.goal?], by simp [heed, enter]⟩
  | loaded byte bytes _ => exact ⟨by simp [heed, enter, Phase.goal?], by simp [heed, enter]⟩
  | advanced size accepted count _ _ below =>
    refine ⟨by simp [enter, Phase.goal?], ?_⟩
    intro size' accepted' writing
    obtain ⟨rfl, rfl⟩ : size = size' ∧ accepted + count = accepted' := by
      simpa [enter] using writing
    exact below
  | written size accepted count _ _ _ =>
    exact ⟨by simp [enter, Phase.goal?], by simp [enter]⟩
  | flushed size _ => exact ⟨by simp [heed, Phase.goal?], by simp [heed]⟩
  | refused _ _ _ => exact isEarnest_failWrite pump _
  | unwritten _ _ error _ => exact isEarnest_failWrite pump error
  | unflushed _ error _ => exact isEarnest_failWrite pump error
  | shut exit phase => exact entered (.stopped exit) (by simp [phase, Phase.goal?]) rfl
  | unshut exit error phase =>
    have goal : pump.phase.goal? = some exit := by simp [phase, Phase.goal?]
    cases control : pump.destinationControl with
    | true => exact entered (.endingDestination exit) goal rfl
    | false => exact entered (.stopped exit) goal rfl
  | endedDestination exit phase =>
    exact entered (.stopped exit) (by simp [phase, Phase.goal?]) rfl
  | unendedDestination exit _ phase =>
    exact entered (.closingDestination exit) (by simp [phase, Phase.goal?]) rfl
  | closedDestination exit _ phase =>
    exact entered (.stopped exit) (by simp [phase, Phase.goal?]) rfl
  | endedSource phase => exact entered (.stopped .writeError) (by simp [phase, Phase.goal?]) rfl
  | unendedSource _ phase => exact entered .closingSource (by simp [phase, Phase.goal?]) rfl
  | closedSource _ phase =>
    exact entered (.stopped .writeError) (by simp [phase, Phase.goal?]) rfl

end Pump

namespace Session

/-- A session none of whose shutdowns has to wait. -/
def IsPrompt (s : Session) : Prop := ∀ side, (s.link side).slowShutdown = false

private theorem kept_earnest (direction : Direction) :
    Pump.Kept (surroundings direction) fun pump t =>
      pump.IsEarnest ∧ t.cancelled = false ∧ t.IsPrompt where
  waiting := by
    intro pump t call t' asked silent held
    obtain ⟨rfl, -⟩ := respond_silent silent
    exact held
  answered := by
    intro pump t call answer t' asked answered ⟨earnest, live, prompt⟩
    obtain ⟨transfers, -⟩ := respond_transfers answered
    have live' : t'.cancelled = false := transfers.cancelled.trans live
    have scope : (surroundings direction).cancelled t' = false := live'
    refine ⟨?_, live', ?_⟩
    · rw [scope]
      exact earnest.resume asked answer
    · intro side
      rcases side.eq_source_or_destination direction with rfl | rfl
      · exact transfers.source.prompt (prompt _)
      · exact transfers.destination.prompt (prompt _)

private theorem poll_live {s : Session} (live : s.cancelled = false) (prompt : s.IsPrompt)
    (direction : Direction) {pump : Pump} (resting : pump.IsResting) (earnest : pump.IsEarnest) :
    let outcome := pump.poll (surroundings direction) (s.workload direction pump) s
    outcome.2.2.IsPrompt ∧
      ((∃ exit, outcome.1.exit? = some exit ∧ exit ≠ .cancelled ∧ outcome.2.2.cancelled = true) ∨
        outcome.1.IsResting ∧ outcome.1.IsEarnest ∧ outcome.2.2.cancelled = false) := by
  intro outcome
  obtain ⟨pump_eq, session_eq⟩ := Pump.poll_outcome (surroundings direction)
    (s.workload direction pump) (w := s) resting.exit?
  have awake : pump.heed ((surroundings direction).cancelled s) = pump := by
    have scope : (surroundings direction).cancelled s = false := live
    simp [Pump.heed, scope]
  rw [awake] at pump_eq session_eq
  have kept := kept_earnest direction
  obtain ⟨earnest', live', prompt'⟩ :=
    kept.converse (s.workload direction pump) ⟨earnest, live, prompt⟩
  have rests := Pump.converse_rests kept (effort direction)
    (fun asked answered held => effort_resume_lt asked answered held.1.behind _)
    (s.workload direction pump) ⟨earnest, live, prompt⟩ (effort_lt_workload direction pump s)
  generalize pump.converse (surroundings direction) (s.workload direction pump) s = spoken at *
  obtain ⟨pump', notes, t⟩ := spoken
  simp only at pump_eq session_eq earnest' live' prompt' rests
  simp only [outcome, pump_eq, session_eq]
  rcases rests with stopped | ⟨call, t₀, asked, ⟨-, -, prompt₀⟩, silent⟩
  · obtain ⟨exit, halted⟩ := Option.isSome_iff_exists.mp stopped
    rw [if_pos stopped]
    refine ⟨fun side => ?_, .inl ⟨exit, halted, ?_, rfl⟩⟩
    · simpa only [surroundings, link_cancel] using prompt' side
    · rintro rfl
      exact earnest'.exit? halted
  · have waits := isResting_of_canWait asked (respond_silent silent).2 (prompt₀ _)
    rw [waits.exit?]
    exact ⟨prompt', .inr ⟨waits, earnest', live'⟩⟩

inductive Turned (s : Session) (direction : Direction) : Session → List Note → Prop
  | idle : s.task direction = .absent ∨ (s.task direction).isOver = true → Turned s direction s []
  | lost : (s.task direction).isOver = false → Turned s direction (s.setTask direction .lost) []
  | struck (total : Nat) : (s.task direction).isOver = false → s.cancelled = true →
      Turned s direction (s.cancel.setTask direction (.finished .cancelled total))
        [.pump direction (.stopped total .cancelled)]
  | stops {t : Session} {exit : Pump.Exit} {total : Nat} {notes : List Note} :
      s.cancelled = false → Alike s t → t.IsPrompt → t.cancelled = true → exit ≠ .cancelled →
      Turned s direction (t.setTask direction (.finished exit total)) notes
  | waits {t : Session} {pump : Pump} {notes : List Note} :
      s.cancelled = false → Alike s t → t.IsPrompt → t.cancelled = false →
      pump.IsResting → pump.IsEarnest →
      Turned s direction (t.setTask direction (.running pump)) notes

private theorem drive_turned {s : Session} (prompt : s.IsPrompt) {direction : Direction}
    (going : (s.task direction).isOver = false) (pool : Pool) {pump : Pump}
    (resting : pump.IsResting) (earnest : pump.IsEarnest) :
    Turned s direction (s.drive direction pool pump).1 (s.drive direction pool pump).2.2 := by
  cases scope : s.cancelled with
  | true =>
    simp only [drive, poll_struck scope direction resting]
    exact .struck pump.total going scope
  | false =>
    have alike := poll_alike direction (s.workload direction pump) pump s
    obtain ⟨prompt', ⟨exit, halted, own, cancelled⟩ | ⟨resting', earnest', live⟩⟩ :=
      poll_live scope prompt direction resting earnest
    · simp only [drive, halted]
      exact .stops scope alike prompt' cancelled own
    · simp only [drive, resting'.exit?]
      exact .waits scope alike prompt' live resting' earnest'

/-- A coherent session whose shutdowns never wait and whose pumps all wait to read or to write. -/
structure Poised (s : Session) : Prop where
  coherent : s.Coherent
  prompt : s.IsPrompt
  waits : ∀ direction pump, s.task direction = .running pump → pump.IsResting ∧ pump.IsEarnest

theorem Poised.turned {s : Session} (poised : s.Poised) (direction : Direction) (pool : Pool) :
    Turned s direction (s.pollPump direction pool).1 (s.pollPump direction pool).2.2 := by
  simp only [pollPump]
  cases task : s.task direction with
  | absent => exact .idle (.inl task)
  | spawned =>
    have going : (s.task direction).isOver = false := by rw [task]; rfl
    rcases borrowed : pool.borrow with ⟨_ | buffer, pool'⟩
    · simp only [Pump.start, borrowed]
      exact .lost going
    · simp only [Pump.start, borrowed]
      exact drive_turned poised.prompt going pool' (.inl rfl) (Pump.isEarnest_start _ _ buffer)
  | running pump =>
    have going : (s.task direction).isOver = false := by rw [task]; rfl
    obtain ⟨resting, earnest⟩ := poised.waits direction pump task
    exact drive_turned poised.prompt going pool resting earnest
  | finished exit total => exact .idle (.inr (by rw [task]; rfl))
  | lost => exact .idle (.inr (by rw [task]; rfl))

theorem Coherent.step_task {s : Session} (coherent : s.Coherent) (pool : Pool) {move : Move}
    (still : ∀ direction, move ≠ .pump direction) (direction : Direction) :
    (s.step pool move).1.task direction = s.task direction ∨
      s.task direction = .absent ∧ (s.step pool move).1.task direction = .spawned := by
  cases move with
  | befall side event => exact .inl (((Alike.refl s).setLink side _).task direction)
  | cancel => exact .inl ((Alike.refl s).cancel.task direction)
  | poll offer => exact coherent.progress_task (poll_progress s offer) direction
  | pump direction => exact (still direction rfl).elim
  | watch =>
    left
    simp only [Session.step, pollWatcher]
    split
    · cases direction <;> rfl
    · rfl

private theorem Poised.step_prompt {s : Session} (poised : s.Poised) (pool : Pool) {move : Move}
    (plain : ∀ side, move ≠ .befall side (.slow true)) : (s.step pool move).1.IsPrompt := by
  intro side
  have prompt := poised.prompt side
  cases move with
  | befall side' event =>
    have carries := (s.link side').after_carries event fun slow => plain side' (by rw [slow])
    by_cases same : side = side'
    · subst same
      simpa [Session.step] using carries.prompt prompt
    · simpa [Session.step, link_setLink_of_ne s _ same] using prompt
  | cancel => simpa [Session.step] using prompt
  | poll offer => exact ((poll_progress s offer).link side).symm ▸ prompt
  | pump direction =>
    have turned := poised.turned direction pool
    simp only [Session.step]
    generalize (s.pollPump direction pool).1 = t at turned ⊢
    generalize (s.pollPump direction pool).2.2 = notes at turned
    cases turned with
    | idle _ => exact prompt
    | lost _ => rwa [link_setTask]
    | struck _ _ _ => rwa [link_setTask, link_cancel]
    | stops _ _ prompt' _ _ =>
      rw [link_setTask]
      exact prompt' side
    | waits _ _ prompt' _ _ _ =>
      rw [link_setTask]
      exact prompt' side
  | watch =>
    simp only [Session.step, pollWatcher]
    split
    · cases side
      · exact s.client.forceClosed_carries.prompt prompt
      · exact s.backend.forceClosed_carries.prompt prompt
    · exact prompt

/-- Every step leaves the pumps waiting that have not stopped. -/
theorem Poised.step {s : Session} (poised : s.Poised) (pool : Pool) {move : Move}
    (plain : ∀ side, move ≠ .befall side (.slow true)) : (s.step pool move).1.Poised := by
  refine ⟨poised.coherent.step pool move, poised.step_prompt pool plain, ?_⟩
  intro direction pump running
  by_cases polled : ∃ direction, move = .pump direction
  · obtain ⟨direction', rfl⟩ := polled
    have turned := poised.turned direction' pool
    have running : (s.pollPump direction' pool).1.task direction = .running pump := running
    generalize (s.pollPump direction' pool).1 = t at turned running
    generalize (s.pollPump direction' pool).2.2 = notes at turned
    have other {u : Session} (alike : Alike s u) {task : Task}
        (differ : direction = direction'.other)
        (running : (u.setTask direction' task).task direction = .running pump) :
        pump.IsResting ∧ pump.IsEarnest := by
      subst differ
      rw [task_setTask_other, alike.task] at running
      exact poised.waits _ pump running
    rcases direction'.eq_or_eq_other direction with rfl | differ
    · cases turned with
      | idle _ => exact poised.waits _ pump running
      | lost _ => simp at running
      | struck _ _ _ => simp at running
      | stops _ _ _ _ _ => simp at running
      | @waits t pump' _ _ _ _ _ resting earnest =>
        obtain rfl : pump' = pump := by simpa using running
        exact ⟨resting, earnest⟩
    · cases turned with
      | idle _ => exact poised.waits _ pump running
      | lost _ => exact other (.refl s) differ running
      | struck _ _ _ => exact other (Alike.refl s).cancel differ running
      | stops _ alike _ _ _ => exact other alike differ running
      | waits _ alike _ _ _ _ => exact other alike differ running
  · have still : ∀ direction, move ≠ .pump direction :=
      fun direction same => polled ⟨direction, same⟩
    rcases poised.coherent.step_task pool still direction with same | ⟨-, begins⟩
    · exact poised.waits direction pump (same.symm.trans running)
    · cases begins.symm.trans running

end Session

end StreamRelay
