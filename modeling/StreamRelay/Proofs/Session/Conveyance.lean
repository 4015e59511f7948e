import StreamRelay.Proofs.Session.Exchange

/-!
# What a pump conveys

A pump of a session conveys the bytes of its source in order. When it stops because its source has
ended, it has conveyed all of them, and it has told the destination that the stream ends, unless
the destination was gone.
-/

set_option autoImplicit false
set_option relaxedAutoImplicit false

namespace StreamRelay

/-- What a phase says about the ends of a pump. -/
def Pump.Phase.Agrees (source destination : Link) : Pump.Phase → Prop
  | .reading => source.readShut = false ∧ destination.readShut = false
  | .writing _ _ => source.readShut = false ∧ destination.readShut = false
  | .flushing _ => source.readShut = false ∧ destination.readShut = false
  | .shutting exit => exit = .eof → source.IsDrained
  | .endingDestination exit => (exit = .eof → source.IsDrained) ∧ destination.writeFault ≠ none
  | .closingDestination exit => (exit = .eof → source.IsDrained) ∧ destination.writeFault ≠ none
  | .endingSource => True
  | .closingSource => True
  | .stopped exit => exit = .eof →
      source.IsDrained ∧ (destination.writeFault = none → destination.HasBidFarewell)

def Pump.IsResting (pump : Pump) : Prop :=
  pump.phase = .reading ∨ ∃ size accepted, pump.phase = .writing size accepted

theorem Pump.IsResting.exit? {pump : Pump} (resting : pump.IsResting) : pump.exit? = none := by
  rcases resting with phase | ⟨total, accepted, phase⟩ <;> simp [Pump.exit?, phase]

namespace Session

/-- A pump's chunks are what was taken from its source, and what the destination accepted of them is
what was delivered. -/
def Conveys (size : Nat) (pump : Pump) (source destination : Link) : Prop :=
  ∃ chunks, Pump.Balanced pump chunks ∧
    source.taken = Pump.gather Pump.Passage.data chunks ∧
    destination.delivered = Pump.gather Pump.Passage.accepted chunks ∧
    ∀ chunk ∈ chunks, chunk.data.length ≤ size

theorem conveys_start {size : Nat} (sourceControl destinationControl : Bool) (buffer : Buffer)
    {source destination : Link} (taken : source.taken = [])
    (delivered : destination.delivered = []) :
    Conveys size { sourceControl, destinationControl, buffer } source destination :=
  ⟨[], Pump.balanced_start sourceControl destinationControl buffer, taken, delivered, by simp⟩

/-- What was delivered is a front part of what was taken; the total lacks a buffer at most. -/
theorem Conveys.bounds {size : Nat} {pump : Pump} {source destination : Link}
    (conveys : Conveys size pump source destination) :
    destination.delivered <+: source.taken ∧
      pump.total ≤ destination.delivered.length ∧
      destination.delivered.length ≤ pump.total + size ∧
      (pump.exit? = some .eof →
        destination.delivered = source.taken ∧ pump.total = source.taken.length) := by
  obtain ⟨chunks, balanced, taken, delivered, small⟩ := conveys
  have conserved := balanced.conserved
  rw [taken, delivered]
  refine ⟨conserved.ordered, conserved.atLeast, ?_, ?_⟩
  · have partly : Pump.inProgress chunks ≤ size := by
      cases chunks with
      | nil => exact Nat.zero_le _
      | cons chunk older =>
        have fits := small chunk (List.mem_cons_self ..)
        simp only [Pump.inProgress]
        split
        · exact Nat.zero_le _
        · exact fits
    exact Nat.le_trans conserved.atMost (Nat.add_le_add_left partly _)
  · intro ended
    have through := conserved.ended (.inl ended)
    refine ⟨Pump.gather_through through, ?_⟩
    rw [Pump.length_gather_data, conserved.counted, List.filter_eq_self.mpr through]

private theorem follow_small {size : Nat} {chunks : List Pump.Passage} {e : Pump.Exchange}
    (small : ∀ chunk ∈ chunks, chunk.data.length ≤ size) (room : e.read.length ≤ size) :
    ∀ chunk ∈ Pump.follow chunks e, chunk.data.length ≤ size := by
  fun_cases Pump.follow chunks e with
  | case1 _ byte bytes =>
    intro chunk member
    rcases List.mem_cons.mp member with rfl | member
    · exact room
    · exact small chunk member
  | case2 newest older =>
    intro chunk member
    rcases List.mem_cons.mp member with rfl | member
    · exact small newest (List.mem_cons_self ..)
    · exact small chunk (List.mem_cons_of_mem _ member)
  | case3 newest older =>
    intro chunk member
    rcases List.mem_cons.mp member with rfl | member
    · exact small newest (List.mem_cons_self ..)
    · exact small chunk (List.mem_cons_of_mem _ member)
  | case4 => exact small

private theorem Conveys.answered {size : Nat} {direction : Direction} {s t : Session} {pump : Pump}
    {call : Pump.Call} {answer : call.Answer}
    (conveys : Conveys size pump (s.link direction.source) (s.link direction.destination))
    (buffer : pump.buffer.size ≤ size) (asked : pump.call? = some call)
    (answered : (surroundings direction).respond call s = (some answer, t)) (cancelled : Bool) :
    Conveys size (pump.resume cancelled call answer).1 (t.link direction.source)
      (t.link direction.destination) := by
  obtain ⟨chunks, balanced, taken, delivered, small⟩ := conveys
  obtain ⟨transfers, honest⟩ := respond_transfers answered
  have room := respond_room asked answered
  refine ⟨Pump.follow chunks ⟨call, answer⟩, balanced.resume asked honest cancelled, ?_, ?_,
    follow_small small (Nat.le_trans room buffer)⟩
  · rw [Pump.gather_data_follow, transfers.source.taken, taken]
  · rw [Pump.gather_accepted_follow (balanced.opened asked), transfers.destination.delivered,
      delivered]

private theorem enter_buffer (pump : Pump) (phase : Pump.Phase) :
    (pump.enter phase).buffer = pump.buffer :=
  rfl

theorem heed_buffer (pump : Pump) (cancelled : Bool) :
    (pump.heed cancelled).buffer = pump.buffer := by
  unfold Pump.heed
  split
  · split <;> rfl
  · rfl

theorem resume_buffer_size {direction : Direction} {s t : Session} {pump : Pump}
    {call : Pump.Call} {answer : call.Answer} (asked : pump.call? = some call)
    (answered : (surroundings direction).respond call s = (some answer, t)) (cancelled : Bool) :
    (pump.resume cancelled call answer).1.buffer.size = pump.buffer.size := by
  have room := respond_room asked answered
  fun_cases Pump.resume pump cancelled call answer with
  | case2 room' phase byte bytes data =>
    have fits : data.length ≤ pump.buffer.bytes.length := room
    rw [heed_buffer]
    simp only [Pump.enter, Pump.load, Buffer.size, List.length_append, List.length_drop]
    omega
  | _ => simp [heed_buffer, enter_buffer, Pump.failWrite]

/-- A pump in a conversation over a session that is not cancelled. -/
structure Flows (size : Nat) (direction : Direction) (pump : Pump) (s : Session) : Prop where
  conveys : Conveys size pump (s.link direction.source) (s.link direction.destination)
  buffer : pump.buffer.size = size
  live : s.cancelled = false
  orderly : (s.link direction.source).IsOrderly
  prompt : (s.link direction.destination).slowShutdown = false
  agrees : pump.phase.Agrees (s.link direction.source) (s.link direction.destination)

private theorem agrees_failWrite (pump : Pump) (cancelled : Bool) (error : IoError)
    (source destination : Link) :
    (pump.failWrite cancelled error).1.phase.Agrees source destination := by
  cases control : pump.sourceControl <;>
    simp [Pump.failWrite, Pump.enter, Pump.Phase.Agrees, control]

private theorem Flows.agrees_resume {size : Nat} (size_pos : 0 < size) {direction : Direction}
    {s t : Session} {pump : Pump} {call : Pump.Call} {answer : call.Answer}
    (flows : Flows size direction pump s) (asked : pump.call? = some call)
    (answered : (surroundings direction).respond call s = (some answer, t)) :
    (pump.resume false call answer).1.phase.Agrees (t.link direction.source)
      (t.link direction.destination) := by
  obtain ⟨transfers, -⟩ := respond_transfers answered
  have agrees := flows.agrees
  have drained := transfers.source.drained
  -- A destination that was gone stays gone, which excuses every promise to tell it the end.
  have gone (fault : (s.link direction.destination).writeFault ≠ none) :
      (t.link direction.destination).writeFault ≠ none :=
    fun none => fault (transfers.destination.writable none)
  have outcome := Pump.resume_answered asked false answer
  generalize (pump.resume false call answer).1 = next at outcome ⊢
  generalize (pump.resume false call answer).2 = notes at outcome
  cases outcome with
  | ended phase =>
    rw [phase] at agrees
    have ended := Link.drained_of_read flows.orderly agrees.1 (flows.buffer ▸ size_pos)
      (respond_read answered).1
    exact fun _ => ended
  | loaded byte bytes phase =>
    rw [phase] at agrees
    obtain ⟨same, same'⟩ := respond_readShut answered (.inl ⟨_, rfl⟩)
    exact ⟨same.trans agrees.1, same'.trans agrees.2⟩
  | unread error phase =>
    intro eof
    cases eof
  | refused size accepted phase => exact agrees_failWrite pump false _ _ _
  | advanced size accepted count phase _ _ =>
    rw [phase] at agrees
    obtain ⟨same, same'⟩ := respond_readShut answered (.inr (.inl ⟨_, rfl⟩))
    exact ⟨same.trans agrees.1, same'.trans agrees.2⟩
  | written size accepted count phase _ _ =>
    rw [phase] at agrees
    obtain ⟨same, same'⟩ := respond_readShut answered (.inr (.inl ⟨_, rfl⟩))
    exact ⟨same.trans agrees.1, same'.trans agrees.2⟩
  | unwritten size accepted error phase => exact agrees_failWrite pump false error _ _
  | flushed size phase =>
    rw [phase] at agrees
    obtain ⟨same, same'⟩ := respond_readShut answered (.inr (.inr rfl))
    exact ⟨same.trans agrees.1, same'.trans agrees.2⟩
  | unflushed size error phase => exact agrees_failWrite pump false error _ _
  | shut exit phase =>
    rw [phase] at agrees
    obtain ⟨reply, -⟩ := respond_shutdown answered
    rcases Link.shutdown_outcome flows.prompt with
      ⟨link', outcome, -, farewell, -⟩ | ⟨fault, error, outcome⟩
    · obtain ⟨-, told⟩ := Prod.mk.inj (outcome.symm.trans reply)
      exact fun eof => ⟨drained (agrees eof), fun _ => told ▸ farewell⟩
    · cases (Prod.mk.inj (outcome.symm.trans reply)).1
  | unshut exit error phase =>
    rw [phase] at agrees
    obtain ⟨reply, -⟩ := respond_shutdown answered
    rcases Link.shutdown_outcome flows.prompt with
      ⟨link', outcome, -, farewell, -⟩ | ⟨fault, error, outcome⟩
    · cases (Prod.mk.inj (outcome.symm.trans reply)).1
    · cases pump.destinationControl with
      | false => exact fun eof => ⟨drained (agrees eof), fun none => (gone fault none).elim⟩
      | true => exact ⟨fun eof => drained (agrees eof), gone fault⟩
  | endedDestination exit phase =>
    rw [phase] at agrees
    exact fun eof => ⟨drained (agrees.1 eof), fun none => (gone agrees.2 none).elim⟩
  | unendedDestination exit error phase =>
    rw [phase] at agrees
    exact ⟨fun eof => drained (agrees.1 eof), gone agrees.2⟩
  | closedDestination exit answer phase =>
    rw [phase] at agrees
    exact fun eof => ⟨drained (agrees.1 eof), fun none => (gone agrees.2 none).elim⟩
  | endedSource phase =>
    intro eof
    cases eof
  | unendedSource error phase => trivial
  | closedSource answer phase =>
    intro eof
    cases eof

private theorem kept_flows {size : Nat} (size_pos : 0 < size) (direction : Direction)
    (s : Session) : Pump.Kept (surroundings direction) fun pump t =>
      Flows size direction pump t ∧ ∃ taken delivered, Transfers direction s taken delivered t where
  waiting := by
    intro pump t call t' asked silent held
    obtain ⟨rfl, -⟩ := respond_silent silent
    exact held
  answered := by
    intro pump t call answer t' asked answered ⟨flows, taken, delivered, since⟩
    obtain ⟨transfers, -⟩ := respond_transfers answered
    have live : t'.cancelled = false := transfers.cancelled.trans flows.live
    have scope : (surroundings direction).cancelled t' = false := live
    refine ⟨?_, _, _, since.trans transfers⟩
    exact {
      conveys := flows.conveys.answered (Nat.le_of_eq flows.buffer) asked answered _
      buffer := (resume_buffer_size asked answered _).trans flows.buffer
      live := live
      orderly := transfers.source.orderly flows.orderly
      prompt := transfers.destination.prompt flows.prompt
      agrees := by
        rw [scope]
        exact flows.agrees_resume size_pos asked answered }

private theorem Conveys.writing_lt {size : Nat} {pump : Pump} {source destination : Link}
    (conveys : Conveys size pump source destination) {total accepted : Nat}
    (writing : pump.phase = .writing total accepted) : accepted < total := by
  obtain ⟨chunks, ⟨current, older, -, account⟩, -⟩ := conveys
  obtain ⟨chunk, -, -, -, below, -⟩ : ∃ chunk, current = some chunk ∧
      total = chunk.data.length ∧ chunk.data = pump.buffer.bytes.take total ∧
      accepted < total ∧ chunk.accepted = chunk.data.take accepted := by
    simpa [writing, Pump.Phase.Suits] using account.suits
  exact below

theorem isResting_of_canWait {direction : Direction} {s : Session} {pump : Pump}
    {call : Pump.Call} (asked : pump.call? = some call) (waits : CanWait direction s call)
    (prompt : (s.link direction.destination).slowShutdown = false) : pump.IsResting := by
  cases call with
  | read room =>
    left
    cases phase : pump.phase <;> simp_all [Pump.call?]
  | write data =>
    right
    cases phase : pump.phase <;> simp_all [Pump.call?]
  | shutdown =>
    have slow : (s.link direction.destination).slowShutdown = true := waits
    simp [prompt] at slow
  | _ => exact waits.elim

/-- What a poll of a pump comes to: it has stopped and cancelled the scope, or it rests. -/
structure Polled (size : Nat) (direction : Direction) (s : Session) (pump : Pump) (t : Session) :
    Prop where
  conveys : Conveys size pump (t.link direction.source) (t.link direction.destination)
  buffer : pump.buffer.size = size
  source : ∃ taken, (s.link direction.source).Carries taken [] (t.link direction.source)
  destination : ∃ delivered,
    (s.link direction.destination).Carries [] delivered (t.link direction.destination)
  settled : pump.exit?.isSome = true ∧ t.cancelled = true ∨ pump.IsResting
  agrees : pump.phase.Agrees (t.link direction.source) (t.link direction.destination)

theorem poll_struck {s : Session} (scope : s.cancelled = true) (direction : Direction)
    {pump : Pump} (resting : pump.IsResting) (budget : Nat) :
    pump.poll (surroundings direction) budget s =
      (pump.enter (.stopped .cancelled), [.stopped pump.total .cancelled], s.cancel) := by
  have stops : pump.heed true = pump.enter (.stopped .cancelled) := by
    rcases resting with phase | ⟨size, accepted, phase⟩ <;> simp [Pump.heed, phase]
  exact Pump.poll_halted scope resting.exit? stops budget

private theorem poll_polled_cancelled {size : Nat} {direction : Direction} {s : Session}
    {pump : Pump} (resting : pump.IsResting) (scope : s.cancelled = true)
    (conveys : Conveys size pump (s.link direction.source) (s.link direction.destination))
    (buffer : pump.buffer.size = size) (budget : Nat) :
    Polled size direction s (pump.poll (surroundings direction) budget s).1
      (pump.poll (surroundings direction) budget s).2.2 := by
  rw [poll_struck scope direction resting budget]
  have broken_off : Conveys size (pump.enter (.stopped .cancelled)) (s.link direction.source)
      (s.link direction.destination) := by
    obtain ⟨chunks, balanced, rest⟩ := conveys
    exact ⟨chunks, balanced.enter fun _ _ => trivial, rest⟩
  refine ⟨?_, buffer, ⟨[], ?_⟩, ⟨[], ?_⟩, .inl ⟨rfl, rfl⟩, ?_⟩
  · simpa only [link_cancel] using broken_off
  · simpa only [link_cancel] using Link.Carries.refl _
  · simpa only [link_cancel] using Link.Carries.refl _
  · simp [Pump.enter, Pump.Phase.Agrees]

private theorem Flows.poll_polled {size : Nat} (size_pos : 0 < size) {direction : Direction}
    {s : Session} {pump : Pump} (flows : Flows size direction pump s) (resting : pump.IsResting) :
    Polled size direction s
      (pump.poll (surroundings direction) (s.workload direction pump) s).1
      (pump.poll (surroundings direction) (s.workload direction pump) s).2.2 := by
  obtain ⟨pump_eq, session_eq⟩ := Pump.poll_outcome (surroundings direction)
    (s.workload direction pump) (w := s) resting.exit?
  have awake : pump.heed ((surroundings direction).cancelled s) = pump := by
    have live : (surroundings direction).cancelled s = false := flows.live
    simp [Pump.heed, live]
  rw [pump_eq, session_eq, awake]
  have kept := kept_flows size_pos direction s
  obtain ⟨flows', taken, delivered, since⟩ := kept.converse (s.workload direction pump)
    ⟨flows, [], [], .refl direction s⟩
  -- The workload of a session exceeds the effort that is left in it, so the poll is not cut short.
  have rests := Pump.converse_rests kept (effort direction)
    (fun asked answered held => effort_resume_lt asked answered
      (fun _ _ writing => held.1.conveys.writing_lt writing) _)
    (s.workload direction pump) ⟨flows, [], [], .refl direction s⟩
    (effort_lt_workload direction pump s)
  generalize pump.converse (surroundings direction) (s.workload direction pump) s = spoken at *
  obtain ⟨pump', notes, t⟩ := spoken
  simp only at flows' since rests ⊢
  have unchanged (side : Side) : (if pump'.exit?.isSome = true then
      (surroundings direction).cancel t else t).link side = t.link side := by
    split
    · exact link_cancel t side
    · rfl
  refine ⟨?_, flows'.buffer, ⟨taken, ?_⟩, ⟨delivered, ?_⟩, ?_, ?_⟩
  · simpa only [unchanged] using flows'.conveys
  · simpa only [unchanged] using since.source
  · simpa only [unchanged] using since.destination
  · rcases rests with stopped | ⟨call, t₀, asked, ⟨flows₀, -⟩, silent⟩
    · exact .inl ⟨stopped, by rw [if_pos stopped]; rfl⟩
    · exact .inr (isResting_of_canWait asked (respond_silent silent).2 flows₀.prompt)
  · simpa only [unchanged] using flows'.agrees

theorem poll_polled {size : Nat} (size_pos : 0 < size) {direction : Direction} {s : Session}
    {pump : Pump} (resting : pump.IsResting)
    (conveys : Conveys size pump (s.link direction.source) (s.link direction.destination))
    (buffer : pump.buffer.size = size) (orderly : (s.link direction.source).IsOrderly)
    (prompt : (s.link direction.destination).slowShutdown = false)
    (unshut : s.cancelled = false → (s.link direction.source).readShut = false ∧
      (s.link direction.destination).readShut = false) :
    Polled size direction s
      (pump.poll (surroundings direction) (s.workload direction pump) s).1
      (pump.poll (surroundings direction) (s.workload direction pump) s).2.2 := by
  cases scope : s.cancelled with
  | true => exact poll_polled_cancelled resting scope conveys buffer _
  | false =>
    have agrees : pump.phase.Agrees (s.link direction.source) (s.link direction.destination) := by
      rcases resting with phase | ⟨total, accepted, phase⟩ <;>
        simpa [phase, Pump.Phase.Agrees] using unshut scope
    have flows : Flows size direction pump s :=
      ⟨conveys, buffer, scope, orderly, prompt, agrees⟩
    exact flows.poll_polled size_pos resting

end Session

end StreamRelay
