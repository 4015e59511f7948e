import StreamRelay.Proofs.Pump.Fidelity
import StreamRelay.Proofs.Session.Link
import StreamRelay.Proofs.Session.Step

set_option autoImplicit false
set_option relaxedAutoImplicit false

namespace StreamRelay.Session

private theorem Direction.destination_ne_source (direction : Direction) :
    direction.destination ≠ direction.source := by
  cases direction <;> simp [destination, source]

@[simp] theorem Direction.source_other (direction : Direction) :
    direction.other.source = direction.destination := by
  cases direction <;> rfl

@[simp] theorem Direction.destination_other (direction : Direction) :
    direction.other.destination = direction.source := by
  cases direction <;> rfl

theorem Direction.eq_or_eq_other (direction direction' : Direction) :
    direction' = direction ∨ direction' = direction.other := by
  cases direction <;> cases direction' <;> simp [other]

theorem Side.eq_source_or_destination (side : Side) (direction : Direction) :
    side = direction.source ∨ side = direction.destination := by
  cases direction <;> cases side <;> simp [Direction.source, Direction.destination]

@[simp] theorem link_source_setLink (s : Session) (direction : Direction) (link : Link) :
    (s.setLink direction.destination link).link direction.source = s.link direction.source :=
  link_setLink_of_ne s link direction.destination_ne_source.symm

@[simp] theorem link_destination_setLink (s : Session) (direction : Direction) (link : Link) :
    (s.setLink direction.source link).link direction.destination = s.link direction.destination :=
  link_setLink_of_ne s link direction.destination_ne_source

@[simp] theorem cancelled_setLink (s : Session) (side : Side) (link : Link) :
    (s.setLink side link).cancelled = s.cancelled := by
  cases side <;> rfl

@[simp] theorem link_cancel (s : Session) (side : Side) : s.cancel.link side = s.link side := by
  cases side <;> rfl

/-- A session after its links carried some bytes in one direction and nothing else. -/
structure Transfers (direction : Direction) (s : Session) (taken delivered : Bytes)
    (t : Session) : Prop where
  source : (s.link direction.source).Carries taken [] (t.link direction.source)
  destination : (s.link direction.destination).Carries [] delivered (t.link direction.destination)
  cancelled : t.cancelled = s.cancelled

theorem Transfers.refl (direction : Direction) (s : Session) : Transfers direction s [] [] s :=
  ⟨.refl _, .refl _, rfl⟩

theorem Transfers.trans {direction : Direction} {s t u : Session}
    {taken delivered taken' delivered' : Bytes} (first : Transfers direction s taken delivered t)
    (second : Transfers direction t taken' delivered' u) :
    Transfers direction s (taken ++ taken') (delivered ++ delivered') u :=
  ⟨first.source.trans second.source, first.destination.trans second.destination,
    second.cancelled.trans first.cancelled⟩

private theorem transfers_source {direction : Direction} {s : Session} {taken : Bytes} {link : Link}
    (carries : (s.link direction.source).Carries taken [] link) :
    Transfers direction s taken [] (s.setLink direction.source link) := by
  refine ⟨?_, ?_, cancelled_setLink ..⟩
  · rwa [link_setLink_self]
  · rw [link_destination_setLink]
    exact .refl _

private theorem transfers_destination {direction : Direction} {s : Session} {delivered : Bytes}
    {link : Link} (carries : (s.link direction.destination).Carries [] delivered link) :
    Transfers direction s [] delivered (s.setLink direction.destination link) := by
  refine ⟨?_, ?_, cancelled_setLink ..⟩
  · rw [link_source_setLink]
    exact .refl _
  · rwa [link_setLink_self]

variable {direction : Direction} {s t : Session}

theorem respond_read {room : Nat} {reply : Option (Except IoError Bytes)}
    (responds : (surroundings direction).respond (.read room) s = (reply, t)) :
    (s.link direction.source).read room = (reply, t.link direction.source) ∧
      t = s.setLink direction.source (t.link direction.source) := by
  rcases outcome : (s.link direction.source).read room with ⟨brought, link⟩
  obtain ⟨rfl, rfl⟩ : brought = reply ∧ s.setLink direction.source link = t := by
    simpa [surroundings, outcome] using responds
  simp

private theorem respond_write {data : Bytes} {reply : Option (Except IoError Nat)}
    (responds : (surroundings direction).respond (.write data) s = (reply, t)) :
    (s.link direction.destination).write data = (reply, t.link direction.destination) ∧
      t = s.setLink direction.destination (t.link direction.destination) := by
  rcases outcome : (s.link direction.destination).write data with ⟨took, link⟩
  obtain ⟨rfl, rfl⟩ : took = reply ∧ s.setLink direction.destination link = t := by
    simpa [surroundings, outcome] using responds
  simp

theorem respond_shutdown {reply : Option (Except IoError Unit)}
    (responds : (surroundings direction).respond .shutdown s = (reply, t)) :
    (s.link direction.destination).shutdown = (reply, t.link direction.destination) ∧
      t = s.setLink direction.destination (t.link direction.destination) := by
  rcases outcome : (s.link direction.destination).shutdown with ⟨done, link⟩
  obtain ⟨rfl, rfl⟩ : done = reply ∧ s.setLink direction.destination link = t := by
    simpa [surroundings, outcome] using responds
  simp

private theorem respond_shutBy {side : Side} {read write : Bool}
    {reply : Option (Except IoError Unit)} (responds : s.shutBy side read write = (reply, t)) :
    reply = some ((s.link side).shut read write).1 ∧
      t = s.setLink side ((s.link side).shut read write).2 := by
  obtain ⟨rfl, rfl⟩ := Prod.mk.inj responds
  exact ⟨rfl, rfl⟩

theorem respond_transfers {call : Pump.Call} {answer : call.Answer}
    (answered : (surroundings direction).respond call s = (some answer, t)) :
    Transfers direction s (Pump.Exchange.read ⟨call, answer⟩)
        (Pump.Exchange.accepted ⟨call, answer⟩) t ∧
      Pump.Exchange.IsHonest ⟨call, answer⟩ := by
  cases call with
  | read room =>
    obtain ⟨outcome, changed⟩ := respond_read answered
    rw [changed]
    refine ⟨transfers_source ?_, trivial⟩
    rcases answer with error | data
    · rw [Link.read_unchanged outcome (by simp)]
      exact .refl _
    · exact (Link.read_carries outcome).1
  | write data =>
    obtain ⟨outcome, changed⟩ := respond_write answered
    rw [changed]
    rcases answer with error | count
    · rw [Link.write_unchanged outcome (by simp)]
      exact ⟨transfers_destination (.refl _), trivial⟩
    · obtain ⟨carries, honest⟩ := Link.write_carries outcome
      exact ⟨transfers_destination carries, honest⟩
  | flush =>
    obtain rfl : s = t := (Prod.mk.inj answered).2
    exact ⟨.refl direction s, trivial⟩
  | shutdown =>
    obtain ⟨outcome, changed⟩ := respond_shutdown answered
    rw [changed]
    exact ⟨transfers_destination (Link.shutdown_carries outcome), trivial⟩
  | closeWrite =>
    rw [(respond_shutBy answered).2]
    exact ⟨transfers_destination (Link.shut_carries ..), trivial⟩
  | closeDestination =>
    rw [(respond_shutBy answered).2]
    exact ⟨transfers_destination (Link.shut_carries ..), trivial⟩
  | closeRead =>
    rw [(respond_shutBy answered).2]
    exact ⟨transfers_source (Link.shut_carries ..), trivial⟩
  | closeSource =>
    rw [(respond_shutBy answered).2]
    exact ⟨transfers_source (Link.shut_carries ..), trivial⟩

theorem respond_room {pump : Pump} {call : Pump.Call} {answer : call.Answer}
    (asked : pump.call? = some call)
    (answered : (surroundings direction).respond call s = (some answer, t)) :
    (Pump.Exchange.read ⟨call, answer⟩).length ≤ pump.buffer.size := by
  cases call with
  | read room =>
    obtain rfl : pump.buffer.size = room := by
      cases phase : pump.phase <;> simp_all [Pump.call?]
    rcases answer with error | data
    · exact Nat.zero_le _
    · exact (Link.read_carries (respond_read answered).1).2.1
  | _ => exact Nat.zero_le _

theorem respond_readShut {call : Pump.Call} {answer : call.Answer}
    (answered : (surroundings direction).respond call s = (some answer, t))
    (moves : (∃ room, call = .read room) ∨ (∃ data, call = .write data) ∨ call = .flush) :
    (t.link direction.source).readShut = (s.link direction.source).readShut ∧
      (t.link direction.destination).readShut = (s.link direction.destination).readShut := by
  rcases moves with ⟨room, rfl⟩ | ⟨data, rfl⟩ | rfl
  · obtain ⟨outcome, changed⟩ := respond_read answered
    refine ⟨?_, by rw [changed, link_destination_setLink]⟩
    rw [← Link.read_readShut (s.link direction.source) room, outcome]
  · obtain ⟨outcome, changed⟩ := respond_write answered
    refine ⟨by rw [changed, link_source_setLink], ?_⟩
    rw [← Link.write_readShut (s.link direction.destination) data, outcome]
  · obtain rfl : s = t := (Prod.mk.inj answered).2
    exact ⟨rfl, rfl⟩

def CanWait (direction : Direction) (s : Session) : Pump.Call → Prop
  | .read _ => True
  | .write _ => True
  | .shutdown => (s.link direction.destination).slowShutdown = true
  | _ => False

theorem respond_silent {call : Pump.Call}
    (silent : (surroundings direction).respond call s = (none, t)) :
    t = s ∧ CanWait direction s call := by
  cases call with
  | read room =>
    obtain ⟨outcome, changed⟩ := respond_read silent
    rw [changed, Link.read_unchanged outcome (by simp), setLink_link]
    exact ⟨rfl, trivial⟩
  | write data =>
    obtain ⟨outcome, changed⟩ := respond_write silent
    rw [changed, Link.write_unchanged outcome (by simp), setLink_link]
    exact ⟨rfl, trivial⟩
  | shutdown =>
    obtain ⟨outcome, changed⟩ := respond_shutdown silent
    obtain ⟨slow, same⟩ := Link.shutdown_none outcome
    rw [changed, same, setLink_link]
    exact ⟨rfl, slow⟩
  | flush => cases (Prod.mk.inj silent).1
  | closeWrite => cases (respond_shutBy silent).1
  | closeDestination => cases (respond_shutBy silent).1
  | closeRead => cases (respond_shutBy silent).1
  | closeSource => cases (respond_shutBy silent).1

/-- What the phases of a pump cost at most, given how much has arrived on its source. -/
def cost (arrived : Nat) : Pump.Phase → Nat
  -- A byte may make a chunk of its own, which is read, written and flushed: three calls a byte.
  | .reading => 3 * arrived + 4
  | .writing size accepted => 3 * arrived + 5 + (size - accepted)
  | .flushing _ => 3 * arrived + 5
  | .shutting _ => 3
  | .endingDestination _ => 2
  | .closingDestination _ => 1
  | .endingSource => 2
  | .closingSource => 1
  | .stopped _ => 0

/-- A measure of what a pump can still do before it has to wait. -/
def effort (direction : Direction) (pump : Pump) (s : Session) : Nat :=
  cost (s.link direction.source).arrived.length pump.phase

theorem effort_lt_workload (direction : Direction) (pump : Pump) (s : Session) :
    effort direction pump s < s.workload direction pump := by
  cases phase : pump.phase <;> simp only [effort, cost, workload, phase] <;> omega

theorem cost_heed_le (arrived : Nat) (pump : Pump) (cancelled : Bool) :
    cost arrived (pump.heed cancelled).phase ≤ cost arrived pump.phase := by
  unfold Pump.heed
  split
  · cases phase : pump.phase <;> simp [cost, Pump.enter, phase]
  · exact Nat.le_refl _

private theorem cost_failWrite_le (arrived : Nat) (pump : Pump) (cancelled : Bool)
    (error : IoError) : cost arrived (pump.failWrite cancelled error).1.phase ≤ 2 := by
  cases control : pump.sourceControl <;> simp [Pump.failWrite, Pump.enter, cost, control]

private theorem respond_arrived {call : Pump.Call} {answer : call.Answer}
    (answered : (surroundings direction).respond call s = (some answer, t)) :
    (t.link direction.source).arrived.length + (Pump.Exchange.read ⟨call, answer⟩).length =
      (s.link direction.source).arrived.length := by
  cases call with
  | read room =>
    obtain ⟨outcome, -⟩ := respond_read answered
    rcases answer with error | data
    · rw [Link.read_unchanged outcome (by simp)]
      rfl
    · exact (Link.read_carries outcome).2.2
  | write data =>
    rw [(respond_write answered).2, link_source_setLink]
    rfl
  | flush =>
    obtain rfl : s = t := (Prod.mk.inj answered).2
    rfl
  | shutdown =>
    rw [(respond_shutdown answered).2, link_source_setLink]
    rfl
  | closeWrite =>
    rw [(respond_shutBy answered).2, link_source_setLink]
    rfl
  | closeDestination =>
    rw [(respond_shutBy answered).2, link_source_setLink]
    rfl
  | closeRead =>
    rw [(respond_shutBy answered).2, link_setLink_self, Link.shut_arrived]
    rfl
  | closeSource =>
    rw [(respond_shutBy answered).2, link_setLink_self, Link.shut_arrived]
    rfl

/-- Every answer costs some of what there is to do. -/
theorem effort_resume_lt {pump : Pump} {call : Pump.Call} {answer : call.Answer}
    (asked : pump.call? = some call)
    (answered : (surroundings direction).respond call s = (some answer, t))
    (rest : ∀ size accepted, pump.phase = .writing size accepted → accepted < size)
    (cancelled : Bool) :
    effort direction (pump.resume cancelled call answer).1 t < effort direction pump s := by
  have arrived := respond_arrived answered
  have outcome := Pump.resume_answered asked cancelled answer
  simp only [effort]
  generalize (t.link direction.source).arrived.length = after at *
  generalize (s.link direction.source).arrived.length = before at *
  generalize (pump.resume cancelled call answer).1 = next at outcome ⊢
  generalize (pump.resume cancelled call answer).2 = notes at outcome
  have failed (error : IoError) := cost_failWrite_le after pump cancelled error
  cases outcome with
  | ended phase =>
    have whole : cost before .reading = 3 * before + 4 := rfl
    have less : _ ≤ 3 := cost_heed_le after (pump.enter (.shutting .eof)) cancelled
    rw [phase]
    omega
  | loaded byte bytes phase =>
    have whole : cost before .reading = 3 * before + 4 := rfl
    have less : _ ≤ 3 * after + 5 + ((byte :: bytes).length - 0) := cost_heed_le after
      ((pump.load (byte :: bytes)).enter (.writing (byte :: bytes).length 0)) cancelled
    have arrived : after + (byte :: bytes).length = before := arrived
    have some_byte : 0 < (byte :: bytes).length := Nat.succ_pos _
    rw [phase]
    omega
  | unread error phase =>
    have whole : cost before .reading = 3 * before + 4 := rfl
    have less : _ ≤ 3 := cost_heed_le after (pump.enter (.shutting .readError)) cancelled
    rw [phase]
    omega
  | refused size accepted phase =>
    have whole : cost before (.writing size accepted) = 3 * before + 5 + (size - accepted) := rfl
    have less := failed (.bare .writeZero)
    rw [phase]
    omega
  | advanced size accepted count phase _ below =>
    have whole : cost before (.writing size accepted) = 3 * before + 5 + (size - accepted) := rfl
    have next : cost after (pump.enter (.writing size (accepted + count))).phase =
      3 * after + 5 + (size - (accepted + count)) := rfl
    have arrived : after = before := arrived
    rw [phase]
    omega
  | written size accepted count phase _ _ =>
    have whole : cost before (.writing size accepted) = 3 * before + 5 + (size - accepted) := rfl
    have next : cost after (pump.enter (.flushing size)).phase = 3 * after + 5 := rfl
    have arrived : after = before := arrived
    have left := rest size accepted phase
    rw [phase]
    omega
  | unwritten size accepted error phase =>
    have whole : cost before (.writing size accepted) = 3 * before + 5 + (size - accepted) := rfl
    have less := failed error
    rw [phase]
    omega
  | flushed size phase =>
    have whole : cost before (.flushing size) = 3 * before + 5 := rfl
    have less : _ ≤ 3 * after + 4 := cost_heed_le after
      { pump with total := pump.total + size, phase := .reading } cancelled
    have arrived : after = before := arrived
    rw [phase]
    omega
  | unflushed size error phase =>
    have whole : cost before (.flushing size) = 3 * before + 5 := rfl
    have less := failed error
    rw [phase]
    omega
  | unshut exit error phase =>
    rw [phase]
    cases control : pump.destinationControl <;> simp [Pump.enter, cost]
  | shut exit phase => simp [phase, Pump.enter, cost]
  | endedDestination exit phase => simp [phase, Pump.enter, cost]
  | unendedDestination exit error phase => simp [phase, Pump.enter, cost]
  | closedDestination exit answer phase => simp [phase, Pump.enter, cost]
  | endedSource phase => simp [phase, Pump.enter, cost]
  | unendedSource error phase => simp [phase, Pump.enter, cost]
  | closedSource answer phase => simp [phase, Pump.enter, cost]

end StreamRelay.Session
