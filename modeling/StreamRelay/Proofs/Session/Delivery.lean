import StreamRelay.Proofs.Buffer.Borrow
import StreamRelay.Proofs.Session.Coherence
import StreamRelay.Proofs.Session.Conveyance

set_option autoImplicit false
set_option relaxedAutoImplicit false

namespace StreamRelay

structure Link.IsFresh (link : Link) : Prop where
  taken : link.taken = []
  delivered : link.delivered = []
  readShut : link.readShut = false
  orderly : link.IsOrderly

namespace Session

def Report.count (report : Report) : Direction → Nat
  | .up => report.up
  | .down => report.down

/-- What a task's pump has conveyed, in one piece. -/
def Task.Conveys (size : Nat) (source destination : Link) : Task → Prop
  | .running pump => pump.IsResting ∧ pump.buffer.size = size ∧
      Session.Conveys size pump source destination
  | .finished exit total => ∃ pump : Pump, pump.phase = .stopped exit ∧ pump.total = total ∧
      pump.phase.Agrees source destination ∧ Session.Conveys size pump source destination
  | _ => source.taken = [] ∧ destination.delivered = []

/-- What holds of a session whose shutdowns never wait, over a pool of buffers of one size. -/
structure Sound (size : Nat) (s : Session) : Prop where
  coherent : s.Coherent
  orderly : ∀ side, (s.link side).IsOrderly
  prompt : ∀ side, (s.link side).slowShutdown = false
  unshut : s.cancelled = false → ∀ side, (s.link side).readShut = false
  conveys : ∀ direction, (s.task direction).Conveys size (s.link direction.source)
    (s.link direction.destination)

/-- A session that came after another: links only carry more, and what is over stays over. -/
structure Follows (s t : Session) : Prop where
  carries : ∀ side, ∃ taken delivered, (s.link side).Carries taken delivered (t.link side)
  finished : ∀ direction exit total, s.task direction = .finished exit total →
    t.task direction = .finished exit total

private theorem Follows.refl (s : Session) : Follows s s :=
  ⟨fun _ => ⟨[], [], .refl _⟩, fun _ _ _ halted => halted⟩

private theorem Follows.trans {s t u : Session} (first : Follows s t) (second : Follows t u) :
    Follows s u := by
  refine ⟨?_, ?_⟩
  · intro side
    obtain ⟨_, _, carries⟩ := first.carries side
    obtain ⟨_, _, carries'⟩ := second.carries side
    exact ⟨_, _, carries.trans carries'⟩
  · intro direction exit total halted
    exact second.finished direction exit total (first.finished direction exit total halted)

private theorem Task.Conveys.carried {size : Nat} {task : Task}
    {source source' destination destination' : Link} {delivered taken : Bytes}
    (conveys : task.Conveys size source destination)
    (from_source : source.Carries [] delivered source')
    (to_destination : destination.Carries taken [] destination') :
    task.Conveys size source' destination' := by
  have same : source'.taken = source.taken := by simpa using from_source.taken
  have same' : destination'.delivered = destination.delivered := by
    simpa using to_destination.delivered
  cases task with
  | running pump =>
    obtain ⟨resting, buffer, chunks, balanced, rest⟩ := conveys
    exact ⟨resting, buffer, chunks, balanced, by rwa [same, same']⟩
  | finished exit total =>
    obtain ⟨pump, stopped, total_eq, agrees, chunks, balanced, rest⟩ := conveys
    refine ⟨pump, stopped, total_eq, ?_, chunks, balanced, by rwa [same, same']⟩
    rw [stopped] at agrees ⊢
    intro eof
    obtain ⟨drained, told⟩ := agrees eof
    exact ⟨from_source.drained drained,
      fun there => to_destination.farewell (told (to_destination.writable there))⟩
  | absent => exact ⟨same.trans conveys.1, same'.trans conveys.2⟩
  | spawned => exact ⟨same.trans conveys.1, same'.trans conveys.2⟩
  | lost => exact ⟨same.trans conveys.1, same'.trans conveys.2⟩

private theorem Task.Conveys.delivered_prefix {size : Nat} {task : Task} {source destination : Link}
    (conveys : task.Conveys size source destination) :
    destination.delivered <+: source.taken := by
  cases task with
  | running pump => exact conveys.2.2.bounds.1
  | finished exit total =>
    obtain ⟨pump, -, -, -, conveys⟩ := conveys
    exact conveys.bounds.1
  | absent => simp [conveys.2]
  | spawned => simp [conveys.2]
  | lost => simp [conveys.2]

private theorem Task.Conveys.total_bounds {size : Nat} {task : Task} {source destination : Link}
    (conveys : task.Conveys size source destination)
    (halted : task = .absent ∨ task.isOver = true) :
    task.total ≤ destination.delivered.length ∧
      destination.delivered.length ≤ task.total + size := by
  cases task with
  | running pump => simp [Task.isOver] at halted
  | finished exit total =>
    obtain ⟨pump, -, rfl, -, conveys⟩ := conveys
    exact ⟨conveys.bounds.2.1, conveys.bounds.2.2.1⟩
  | absent => simp [conveys.2, Task.total]
  | spawned => simp [Task.isOver] at halted
  | lost => simp [conveys.2, Task.total]

private theorem Task.Conveys.ended {size total : Nat} {source destination : Link}
    (conveys : (Task.finished .eof total).Conveys size source destination) :
    source.IsDrained ∧ destination.delivered = source.sent ∧ total = source.sent.length ∧
      (destination.writeFault = none → destination.HasBidFarewell) := by
  obtain ⟨pump, stopped, rfl, agrees, conveys⟩ := conveys
  rw [stopped] at agrees
  obtain ⟨drained, told⟩ := agrees rfl
  obtain ⟨delivered, counted⟩ := conveys.bounds.2.2.2 (by simp [Pump.exit?, stopped])
  rw [drained.sent]
  exact ⟨drained, delivered, counted, told⟩

private theorem Sound.undisturbed {size : Nat} {s t : Session} (sound : Sound size s)
    (coherent : t.Coherent) (carries : ∀ side, (s.link side).Carries [] [] (t.link side))
    (unshut : t.cancelled = false → ∀ side, (t.link side).readShut = false)
    (tasks : ∀ direction, t.task direction = s.task direction ∨
      s.task direction = .absent ∧ t.task direction = .spawned ∨
      s.task direction = .spawned ∧ t.task direction = .lost) :
    Sound size t ∧ Follows s t := by
  refine ⟨⟨coherent, ?_, ?_, unshut, ?_⟩, ?_, ?_⟩
  · exact fun side => (carries side).orderly (sound.orderly side)
  · exact fun side => (carries side).prompt (sound.prompt side)
  · intro direction
    have conveys := (sound.conveys direction).carried (carries _) (carries _)
    rcases tasks direction with same | ⟨before, after⟩ | ⟨before, after⟩
    · rwa [same]
    · rw [before] at conveys
      rw [after]
      exact conveys
    · rw [before] at conveys
      rw [after]
      exact conveys
  · exact fun side => ⟨[], [], carries side⟩
  · intro direction exit total halted
    rcases tasks direction with same | ⟨before, -⟩ | ⟨before, -⟩
    · rw [same, halted]
    · cases before.symm.trans halted
    · cases before.symm.trans halted

private theorem Polled.sound {size : Nat} {direction : Direction} {s u : Session} {pump : Pump}
    {task : Task} (polled : Polled size direction s pump u) (sound : Sound size s)
    (alike : Alike s u) (coherent : (u.setTask direction task).Coherent)
    (conveys : task.Conveys size (u.link direction.source) (u.link direction.destination))
    (going : (s.task direction).isOver = false) :
    Sound size (u.setTask direction task) ∧ Follows s (u.setTask direction task) := by
  obtain ⟨taken, source⟩ := polled.source
  obtain ⟨delivered, destination⟩ := polled.destination
  have carries (side : Side) :
      ∃ taken delivered, (s.link side).Carries taken delivered (u.link side) := by
    rcases side.eq_source_or_destination direction with rfl | rfl
    · exact ⟨taken, [], source⟩
    · exact ⟨[], delivered, destination⟩
  have other : (u.task direction.other).Conveys size (u.link direction.destination)
      (u.link direction.source) := by
    have conveys := sound.conveys direction.other
    rw [Direction.source_other, Direction.destination_other] at conveys
    rw [alike.task]
    exact conveys.carried destination source
  refine ⟨⟨coherent, ?_, ?_, ?_, ?_⟩, ?_, ?_⟩
  · intro side
    obtain ⟨_, _, carries⟩ := carries side
    rw [link_setTask]
    exact carries.orderly (sound.orderly side)
  · intro side
    obtain ⟨_, _, carries⟩ := carries side
    rw [link_setTask]
    exact carries.prompt (sound.prompt side)
  · intro live side
    rw [cancelled_setTask] at live
    -- A pump that stopped has cancelled the scope, so this one rests, and its phase says the rest.
    have unshut : (u.link direction.source).readShut = false ∧
        (u.link direction.destination).readShut = false := by
      have agrees := polled.agrees
      rcases polled.settled with ⟨-, cancelled⟩ | phase | ⟨total, accepted, phase⟩
      · simp [cancelled] at live
      · simpa [phase, Pump.Phase.Agrees] using agrees
      · simpa [phase, Pump.Phase.Agrees] using agrees
    rw [link_setTask]
    rcases side.eq_source_or_destination direction with rfl | rfl
    · exact unshut.1
    · exact unshut.2
  · intro direction'
    rw [link_setTask, link_setTask]
    rcases direction.eq_or_eq_other direction' with rfl | rfl
    · rwa [task_setTask_self]
    · rw [task_setTask_other, Direction.source_other, Direction.destination_other]
      exact other
  · intro side
    rw [link_setTask]
    exact carries side
  · intro direction' exit total halted
    rcases direction.eq_or_eq_other direction' with rfl | rfl
    · simp [halted, Task.isOver] at going
    · rw [task_setTask_other, alike.task, halted]

private theorem Driven.sound {size : Nat} (size_pos : 0 < size) {s t : Session}
    {direction : Direction}
    {pool pool' : Pool} {pump : Pump} (driven : Driven s direction pool pump t pool')
    (sound : Sound size s) (sized : pool.HasSize size) (resting : pump.IsResting)
    (buffer : pump.buffer.size = size)
    (conveys : Conveys size pump (s.link direction.source) (s.link direction.destination))
    (going : (s.task direction).isOver = false) (coherent : t.Coherent) :
    (Sound size t ∧ Follows s t) ∧ pool'.HasSize size := by
  have polled := poll_polled size_pos resting conveys buffer (sound.orderly _) (sound.prompt _)
    fun live => ⟨sound.unshut live _, sound.unshut live _⟩
  have alike := poll_alike direction (s.workload direction pump) pump s
  cases driven with
  | @stopped pump' u exit pump_eq session_eq halted =>
    rw [pump_eq, session_eq] at polled
    rw [session_eq] at alike
    have phase : pump'.phase = .stopped exit := by
      cases phase : pump'.phase <;> simp_all [Pump.exit?]
    refine ⟨polled.sound sound alike coherent ?_ going, ?_, sized.2⟩
    · exact ⟨pump', phase, rfl, polled.agrees, polled.conveys⟩
    · exact sized.1.release (polled.buffer.trans sized.2.symm)
  | @running pump' u pump_eq session_eq halted =>
    rw [pump_eq, session_eq] at polled
    rw [session_eq] at alike
    refine ⟨polled.sound sound alike coherent ⟨?_, polled.buffer, polled.conveys⟩ going, sized⟩
    rcases polled.settled with ⟨stopped, -⟩ | rests
    · simp [halted] at stopped
    · exact rests

private theorem Pumped.sound {size : Nat} (size_pos : 0 < size) {s t : Session}
    {direction : Direction}
    {pool pool' : Pool} (pumped : Pumped s direction pool t pool') (sound : Sound size s)
    (sized : pool.HasSize size) :
    (Sound size t ∧ Follows s t) ∧ pool'.HasSize size := by
  have coherent := sound.coherent.pumped pumped
  have conveys := sound.conveys direction
  cases pumped with
  | idle _ => exact ⟨⟨sound, .refl s⟩, sized⟩
  | lost spawned unlent =>
    obtain ⟨-, -, size_eq, uniform⟩ := Pool.borrow_none unlent
    refine ⟨sound.undisturbed coherent ?_ ?_ ?_, uniform sized.1, size_eq.trans sized.2⟩
    · intro side
      rw [link_setTask]
      exact .refl _
    · intro live side
      rw [cancelled_setTask] at live
      rw [link_setTask]
      exact sound.unshut live side
    · intro direction'
      rcases direction.eq_or_eq_other direction' with rfl | rfl
      · exact .inr (.inr ⟨spawned, task_setTask_self ..⟩)
      · exact .inl (task_setTask_other ..)
  | begins spawned lent driven =>
    obtain ⟨-, -, size_eq, uniform⟩ := Pool.borrow_some lent
    obtain ⟨uniform', buffer⟩ := uniform sized.1
    rw [spawned] at conveys
    exact driven.sound size_pos sound ⟨uniform', size_eq.trans sized.2⟩ (.inl rfl)
      (buffer.trans sized.2) (conveys_start _ _ _ conveys.1 conveys.2)
      (by simp [spawned, Task.isOver]) coherent
  | goes running driven =>
    rw [running] at conveys
    obtain ⟨resting, buffer, conveys⟩ := conveys
    exact driven.sound size_pos sound sized resting buffer conveys
      (by simp [running, Task.isOver]) coherent

private theorem Progress.live {s t : Session} {offer : Offer} {notes : List Note}
    (progress : Progress s offer t notes) (live : t.cancelled = false) : s.cancelled = false := by
  cases progress with
  | rest => exact live
  | beginDial _ live _ => exact live
  | abandon _ _ _ => simp [conclude, advance] at live
  | relay _ live _ => exact live
  | drain _ cancelled => exact (Bool.eq_false_iff.mp live cancelled).elim
  | finish _ _ _ _ _ _ => simp [conclude, advance] at live
  | drainAndFinish _ _ _ _ _ _ _ => simp [conclude, advance] at live

theorem Coherent.progress_task {s t : Session} {offer : Offer} {notes : List Note}
    (coherent : s.Coherent) (progress : Progress s offer t notes) (direction : Direction) :
    t.task direction = s.task direction ∨
      s.task direction = .absent ∧ t.task direction = .spawned := by
  cases progress with
  | relay stage _ _ =>
    right
    cases coherent with
    | dialing _ unmanned _ =>
      refine ⟨unmanned.task direction, ?_⟩
      cases direction <;> rfl
    | _ => simp_all
  | _ =>
    left
    cases direction <;> rfl

/-- Every step of a sound session keeps it sound. -/
theorem Sound.step {size : Nat} (size_pos : 0 < size) {s : Session} (sound : Sound size s)
    {pool : Pool} (sized : pool.HasSize size) {move : Move}
    (plain : ∀ side, move ≠ .befall side (.slow true)) :
    (Sound size (s.step pool move).1 ∧ Follows s (s.step pool move).1) ∧
      (s.step pool move).2.1.HasSize size := by
  have coherent := sound.coherent.step pool move
  cases move with
  | befall side event =>
    have carries := (s.link side).after_carries event
      fun slow => plain side (by rw [slow])
    refine ⟨sound.undisturbed coherent ?_ ?_ ?_, sized⟩
    · intro side'
      by_cases same : side' = side
      · subst same
        simpa [Session.step] using carries
      · simpa [Session.step, link_setLink_of_ne s _ same] using Link.Carries.refl _
    · intro live side'
      have before : s.cancelled = false := by simpa [Session.step] using live
      have unshut := sound.unshut before side'
      by_cases same : side' = side
      · subst same
        simpa [Session.step, ((s.link side').after_unmoved event).2.2] using unshut
      · simpa [Session.step, link_setLink_of_ne s _ same] using unshut
    · exact fun direction => .inl (((Alike.refl s).setLink side _).task direction)
  | cancel =>
    refine ⟨sound.undisturbed coherent ?_ ?_ ?_, sized⟩
    · simpa [Session.step] using fun side => Link.Carries.refl _
    · simp [Session.step, cancel]
    · exact fun direction => .inl ((Alike.refl s).cancel.task direction)
  | poll offer =>
    have progress := poll_progress s offer
    refine ⟨sound.undisturbed coherent ?_ ?_ ?_, sized⟩
    · intro side
      exact progress.link side ▸ .refl _
    · intro live side
      exact (congrArg Link.readShut (progress.link side)).trans
        (sound.unshut (progress.live live) side)
    · intro direction
      rcases sound.coherent.progress_task progress direction with same | begins
      · exact .inl same
      · exact .inr (.inl begins)
  | pump direction => exact (pollPump_pumped s direction pool).sound size_pos sound sized
  | watch =>
    refine ⟨sound.undisturbed coherent ?_ ?_ ?_, sized⟩
    · intro side
      simp only [Session.step, pollWatcher]
      split
      · cases side
        · exact s.client.forceClosed_carries
        · exact s.backend.forceClosed_carries
      · exact .refl _
    · intro live
      simp only [Session.step, pollWatcher] at live ⊢
      split
      · rename_i due
        simp_all
      · rename_i undue
        rw [if_neg undue] at live
        exact sound.unshut live
    · intro direction
      left
      simp only [Session.step, pollWatcher]
      split
      · cases direction <;> rfl
      · rfl

private theorem Sound.run {size : Nat} (size_pos : 0 < size) {s : Session} (sound : Sound size s)
    {pool : Pool} (sized : pool.HasSize size) {moves : List Move}
    (plain : ∀ side, .befall side (.slow true) ∉ moves) :
    (Sound size (s.run pool moves).1 ∧ Follows s (s.run pool moves).1) ∧
      (s.run pool moves).2.1.HasSize size := by
  induction moves generalizing s pool with
  | nil => exact ⟨⟨sound, .refl s⟩, sized⟩
  | cons move moves ih =>
    have plain_first (side : Side) : move ≠ .befall side (.slow true) :=
      fun slow => plain side (slow ▸ List.mem_cons_self ..)
    obtain ⟨⟨sound', follows⟩, sized'⟩ := sound.step size_pos sized plain_first
    obtain ⟨⟨sound'', follows'⟩, sized''⟩ := ih sound' sized'
      fun side member => plain side (List.mem_cons_of_mem _ member)
    exact ⟨⟨sound'', follows.trans follows'⟩, sized''⟩

theorem run_append_fst (s : Session) (pool : Pool) (moves more : List Move) :
    (s.run pool (moves ++ more)).1 = ((s.run pool moves).1.run (s.run pool moves).2.1 more).1 := by
  rw [run_append]

private theorem sound_newborn (size : Nat) (peer target : String) (cancelled : Bool)
    {client backend : Link} (fresh : ∀ link ∈ [client, backend], link.IsFresh)
    (prompt : ∀ link ∈ [client, backend], link.slowShutdown = false) :
    Sound size (newborn peer target cancelled client backend) := by
  have among (side : Side) :
      (newborn peer target cancelled client backend).link side ∈ [client, backend] := by
    cases side
    · exact .head _
    · exact .tail _ (.head _)
  refine ⟨coherent_newborn .., fun side => (fresh _ (among side)).orderly,
    fun side => prompt _ (among side), fun _ side => (fresh _ (among side)).readShut, ?_⟩
  intro direction
  have taken := (fresh _ (among direction.source)).taken
  have delivered := (fresh _ (among direction.destination)).delivered
  cases direction <;> exact ⟨taken, delivered⟩

private theorem Sound.reported {size : Nat} {s : Session} (sound : Sound size s) {report : Report}
    (made : s.report = some report) (direction : Direction) :
    report.count direction = (s.task direction).total ∧
      (s.task direction = .absent ∨ (s.task direction).isOver = true) := by
  cases sound.coherent with
  | dialing _ _ unreported => exact absurd (made.symm.trans unreported) (by simp)
  | relaying _ _ unreported => exact absurd (made.symm.trans unreported) (by simp)
  | draining _ _ unreported _ => exact absurd (made.symm.trans unreported) (by simp)
  | unrelayed _ unmanned reported _ =>
    obtain rfl := Option.some.inj (made.symm.trans reported)
    rw [unmanned.task direction]
    refine ⟨?_, .inl rfl⟩
    cases direction <;> rfl
  | relayed _ deserted reported _ =>
    obtain rfl := Option.some.inj (made.symm.trans reported)
    refine ⟨?_, .inr (deserted.task direction)⟩
    cases direction <;> rfl

/-- What is delivered is a front part of what was sent, and all of it once the source has ended. -/
theorem run_delivers (peer target : String) (cancelled : Bool) (client backend : Link)
    (fresh : ∀ link ∈ [client, backend], link.IsFresh)
    (prompt : ∀ link ∈ [client, backend], link.slowShutdown = false) (pool : Pool)
    (uniform : pool.IsUniform) (size_pos : 0 < pool.size) (moves more : List Move)
    (plain : ∀ side, .befall side (.slow true) ∉ moves ++ more) (direction : Direction) :
    let start := newborn peer target cancelled client backend
    let s := (start.run pool moves).1
    let t := (start.run pool (moves ++ more)).1
    let sent := (t.link direction.source).sent
    let delivered := (t.link direction.destination).delivered
    delivered <+: sent ∧
      (∀ total, s.task direction = .finished .eof total →
        (t.link direction.source).finished = true ∧ delivered = sent ∧
          delivered = (s.link direction.destination).delivered ∧
          ((s.link direction.destination).writeFault = none →
            (t.link direction.destination).writeShut = true ∧
              (t.link direction.destination).farewell = true)) ∧
      ∀ report, t.report = some report →
        report.count direction ≤ delivered.length ∧
          delivered.length ≤ report.count direction + pool.size ∧
          ∀ total, s.task direction = .finished .eof total →
            report.count direction = sent.length := by
  intro start s t sent delivered
  have plain_first (side : Side) : Move.befall side (.slow true) ∉ moves :=
    fun member => plain side (List.mem_append_left _ member)
  have plain_then (side : Side) : Move.befall side (.slow true) ∉ more :=
    fun member => plain side (List.mem_append_right _ member)
  obtain ⟨⟨sound, -⟩, sized⟩ := (sound_newborn pool.size peer target cancelled fresh prompt).run
    size_pos ⟨uniform, rfl⟩ plain_first
  obtain ⟨⟨sound', follows⟩, -⟩ := sound.run size_pos sized plain_then
  rw [← run_append_fst] at sound' follows
  have conveys := sound'.conveys direction
  have ended {total : Nat} (halted : s.task direction = .finished .eof total) :
      t.task direction = .finished .eof total ∧
        (Task.finished .eof total).Conveys pool.size (t.link direction.source)
          (t.link direction.destination) := by
    have halted' := follows.finished direction .eof total halted
    rw [halted'] at conveys
    exact ⟨halted', conveys⟩
  refine ⟨conveys.delivered_prefix.trans (Link.taken_prefix_sent _), ?_, ?_⟩
  · intro total halted
    obtain ⟨drained, whole, length, -⟩ := (ended halted).2.ended
    have conveys_then := sound.conveys direction
    rw [show (start.run pool moves).1.task direction = .finished .eof total from halted]
      at conveys_then
    obtain ⟨-, whole_then, length_then, told⟩ := conveys_then.ended
    obtain ⟨taken, since, carries⟩ := follows.carries direction.destination
    -- Both moments have delivered as many bytes as the task has counted, and its count is settled.
    refine ⟨drained.1, whole, ?_, fun there => carries.farewell (told there)⟩
    have grown : delivered = (s.link direction.destination).delivered ++ since := carries.delivered
    have sizes := congrArg List.length grown
    have size : delivered.length = total := (congrArg List.length whole).trans length.symm
    have size_then : (s.link direction.destination).delivered.length = total :=
      (congrArg List.length whole_then).trans length_then.symm
    rw [List.length_append] at sizes
    obtain rfl : since = [] := List.length_eq_zero_iff.mp (by omega)
    rw [grown, List.append_nil]
  · intro report made
    obtain ⟨counted, halted⟩ := sound'.reported made direction
    obtain ⟨atLeast, atMost⟩ := conveys.total_bounds halted
    rw [counted]
    refine ⟨atLeast, atMost, ?_⟩
    intro total halted
    obtain ⟨halted', conveys'⟩ := ended halted
    rw [show (start.run pool (moves ++ more)).1.task direction = .finished .eof total from halted']
    exact conveys'.ended.2.2.1

/-- A client sends three bytes and ends its stream; buffers and backend have room for two. -/
def halfClosed : List Move :=
  [.poll ⟨some (.ok ()), some (.ok ())⟩, .pump .up, .pump .down,
    .befall .client (.send [1, 2, 3]), .befall .client .finish, .befall .client (.arrive 3),
    .befall .client .arriveEnd, .befall .backend (.makeRoom 2), .pump .up,
    .befall .backend (.makeRoom 8), .pump .up]

def aftermath : List Move := [.pump .down, .watch, .poll ⟨none, none⟩]

theorem run_delivers_halfClosed :
    let start := newborn "client" "backend" false { control := true } { control := true }
    let t := (start.run (.ofBytes 2) (halfClosed ++ aftermath)).1
    t.report = some ⟨.closed, true, 3, 0⟩ ∧ t.backend.delivered = [1, 2, 3] ∧
      t.backend.delivered = t.client.sent ∧ t.backend.farewell = true := by
  intro start t
  have halted : (start.run (.ofBytes 2) halfClosed).1.task .up = .finished .eof 3 := by decide
  have fresh : ({ control := true } : Link).IsFresh := ⟨rfl, rfl, rfl, by simp [Link.IsOrderly]⟩
  obtain ⟨-, ended, -⟩ := run_delivers "client" "backend" false { control := true }
    { control := true } (by simp [fresh]) (by simp) (.ofBytes 2) (Pool.isUniform_ofBytes 2)
    (by decide) halfClosed aftermath (by simp [halfClosed, aftermath]) .up
  obtain ⟨-, whole, -, told⟩ := ended 3 halted
  exact ⟨by decide, by decide, whole, (told (by decide)).2⟩

end Session

end StreamRelay
