import StreamRelay.Proofs.Pump.Answer
import StreamRelay.Proofs.Pump.Transcript
import StreamRelay.Pump.Rehearsal

/-!
# What a pump makes of its bytes

A pump writes every chunk completely before it reads the next one. So all chunks but the newest are
through, the destination has a front part of the newest, and the total counts the chunks that are
through. The invariant says which part, by the phase that the pump is in.
-/

set_option autoImplicit false
set_option relaxedAutoImplicit false

namespace StreamRelay.Pump

/-- A pump that was broken off may leave a chunk behind; one that saw its source end does not. -/
def Phase.Suits (buffer : Buffer) (current : Option Passage) : Phase → Prop
  | .writing size accepted => ∃ chunk, current = some chunk ∧ size = chunk.data.length ∧
      chunk.data = buffer.bytes.take size ∧ accepted < size ∧
      chunk.accepted = chunk.data.take accepted
  | .flushing size => ∃ chunk, current = some chunk ∧ size = chunk.data.length ∧
      chunk.accepted = chunk.data
  | .endingSource => True
  | .closingSource => True
  | .stopped .writeError => True
  | .stopped .cancelled => True
  | _ => current = none

/-- A pump's account of its chunks: those that are through, and the one on its way. -/
structure Accounts (pump : Pump) (current : Option Passage) (older : List Passage) : Prop where
  through : ∀ chunk ∈ older, chunk.isComplete = true
  part : ∀ chunk ∈ current, chunk.accepted <+: chunk.data ∧ chunk.flushed = false
  total : pump.total = weight older
  suits : pump.phase.Suits pump.buffer current

def Balanced (pump : Pump) (chunks : List Passage) : Prop :=
  ∃ current older, chunks = current.toList ++ older ∧ Accounts pump current older

theorem balanced_start (sourceControl destinationControl : Bool) (buffer : Buffer) :
    Balanced { sourceControl, destinationControl, buffer } [] :=
  ⟨none, [], rfl, by simp, by simp, rfl, rfl⟩

private theorem stopped_suits_none (buffer : Buffer) (exit : Exit) :
    (Phase.stopped exit).Suits buffer none := by
  cases exit <;> trivial

theorem Balanced.enter {pump : Pump} {chunks : List Passage} (h : Balanced pump chunks)
    {next : Phase}
    (suits : ∀ current, pump.phase.Suits pump.buffer current → next.Suits pump.buffer current) :
    Balanced (pump.enter next) chunks := by
  obtain ⟨current, older, split, account⟩ := h
  exact ⟨current, older, split, account.through, account.part, account.total,
    suits current account.suits⟩

private theorem Balanced.heed {pump : Pump} {chunks : List Passage} (h : Balanced pump chunks)
    (cancelled : Bool) : Balanced (pump.heed cancelled) chunks := by
  cases cancelled with
  | false => exact h
  | true =>
    unfold Pump.heed
    simp only [↓reduceIte]
    split
    · exact h.enter fun _ _ => trivial
    · exact h.enter fun _ _ => trivial
    · exact h.enter fun _ _ => trivial
    · rename_i exit shutting
      refine h.enter fun current idle => ?_
      obtain rfl : current = none := by simpa [shutting, Phase.Suits] using idle
      exact stopped_suits_none pump.buffer exit
    · exact h

private theorem Balanced.load {pump : Pump} {chunks : List Passage} (h : Balanced pump chunks)
    (reading : pump.phase = .reading) (byte : UInt8) (bytes : Bytes) :
    Balanced ((pump.load (byte :: bytes)).enter (.writing (byte :: bytes).length 0))
      ({ data := byte :: bytes } :: chunks) := by
  obtain ⟨current, older, split, account⟩ := h
  have idle : current = none := by simpa [reading, Phase.Suits] using account.suits
  subst idle
  refine ⟨some { data := byte :: bytes }, older, by simp [split], account.through, ?_,
    account.total, ?_⟩
  · intro chunk member
    obtain rfl : chunk = { data := byte :: bytes } := by simpa using member.symm
    exact ⟨List.nil_prefix, rfl⟩
  · exact ⟨_, rfl, rfl, by simp [Pump.load, Pump.enter], by simp, rfl⟩

private theorem Balanced.fail {pump : Pump} {chunks : List Passage} (h : Balanced pump chunks)
    (cancelled : Bool) (error : IoError) : Balanced (pump.failWrite cancelled error).1 chunks := by
  refine h.enter fun current _ => ?_
  cases pump.sourceControl <;> trivial

private theorem Balanced.accept {pump : Pump} {chunks : List Passage} (h : Balanced pump chunks)
    {size accepted count : Nat} (writing : pump.phase = .writing size accepted)
    (honest : count ≤ (pump.pending size accepted).length) :
    ∃ chunk older, chunks = chunk :: older ∧ size = chunk.data.length ∧
      chunk.data = pump.buffer.bytes.take size ∧ accepted + count ≤ size ∧
      chunk.accepted ++ (pump.pending size accepted).take count =
        chunk.data.take (accepted + count) ∧
      ∀ next : Phase,
        next.Suits pump.buffer (some { chunk with
          accepted := chunk.data.take (accepted + count) }) →
        Balanced (pump.enter next)
          ({ chunk with accepted := chunk.data.take (accepted + count) } :: older) := by
  obtain ⟨current, older, split, account⟩ := h
  obtain ⟨chunk, rfl, size_eq, loaded, below, so_far⟩ :
      ∃ chunk, current = some chunk ∧ size = chunk.data.length ∧
        chunk.data = pump.buffer.bytes.take size ∧ accepted < size ∧
        chunk.accepted = chunk.data.take accepted := by
    simpa [writing, Phase.Suits] using account.suits
  have rest : pump.pending size accepted = chunk.data.drop accepted := by
    rw [Pump.pending, ← loaded]
  have within : accepted + count ≤ size := by
    rw [rest, List.length_drop, ← size_eq] at honest
    omega
  refine ⟨chunk, older, by simpa using split, size_eq, loaded, within, ?_, ?_⟩
  · rw [so_far, rest, List.take_add]
  · intro next suits
    refine ⟨some _, older, rfl, account.through, ?_, account.total, suits⟩
    intro moved member
    obtain rfl := Option.mem_some_iff.mp member
    exact ⟨List.take_prefix _ _, (account.part chunk rfl).2⟩

private theorem Balanced.flush {pump : Pump} {chunks : List Passage} (h : Balanced pump chunks)
    {size : Nat} (flushing : pump.phase = .flushing size) :
    ∃ chunk older, chunks = chunk :: older ∧
      Balanced { pump with total := pump.total + size, phase := .reading }
        ({ chunk with flushed := true } :: older) := by
  obtain ⟨current, older, split, account⟩ := h
  obtain ⟨chunk, rfl, size_eq, whole⟩ :
      ∃ chunk, current = some chunk ∧ size = chunk.data.length ∧
        chunk.accepted = chunk.data := by
    simpa [flushing, Phase.Suits] using account.suits
  refine ⟨chunk, older, by simpa using split, none, { chunk with flushed := true } :: older, rfl,
    ?_, by simp, ?_, rfl⟩
  · intro through member
    rcases List.mem_cons.mp member with rfl | member
    · simp [Passage.isComplete, whole]
    · exact account.through through member
  · simp only [weight, List.map_cons, List.sum_cons]
    rw [account.total, size_eq, Nat.add_comm]
    rfl

/-- The account agrees with the chunks after every honest answer. -/
theorem Balanced.resume {pump : Pump} {chunks : List Passage} (h : Balanced pump chunks)
    {call : Call} (asked : pump.call? = some call) {answer : call.Answer}
    (honest : Exchange.IsHonest ⟨call, answer⟩) (cancelled : Bool) :
    Balanced (pump.resume cancelled call answer).1 (follow chunks ⟨call, answer⟩) := by
  have close {next : Phase}
      (through : ∀ current, pump.phase.Suits pump.buffer current → current = none)
      (suits : next.Suits pump.buffer none) : Balanced (pump.enter next) chunks :=
    h.enter fun current held => through current held ▸ suits
  have answered := resume_answered asked cancelled answer
  generalize (pump.resume cancelled call answer).1 = next at answered ⊢
  generalize (pump.resume cancelled call answer).2 = notes at answered
  cases answered with
  | ended phase =>
    have shutting : Balanced (pump.enter (.shutting .eof)) chunks :=
      close (by simp [phase, Phase.Suits]) rfl
    simpa [follow] using shutting.heed cancelled
  | loaded byte bytes phase => simpa [follow] using (h.load phase byte bytes).heed cancelled
  | unread error phase =>
    have shutting : Balanced (pump.enter (.shutting .readError)) chunks :=
      close (by simp [phase, Phase.Suits]) rfl
    simpa [follow] using shutting.heed cancelled
  | refused size accepted phase =>
    obtain ⟨chunk, older, rfl, -, -, -, grown, onward⟩ := h.accept phase honest
    simp only [follow, grown]
    -- A write of nothing leaves the chunk as it was. A stop goes with any chunk, and the phase that
    -- follows a failure goes with whatever a stop goes with.
    exact (onward (.stopped .cancelled) trivial).enter fun _ _ => by
      cases pump.sourceControl <;> trivial
  | advanced size accepted count phase _ below =>
    obtain ⟨chunk, older, rfl, size_eq, loaded, -, grown, onward⟩ := h.accept phase honest
    simp only [follow, grown]
    exact onward _ ⟨_, rfl, size_eq, loaded, below, rfl⟩
  | written size accepted count phase _ whole =>
    obtain ⟨chunk, older, rfl, size_eq, -, -, grown, onward⟩ := h.accept phase honest
    simp only [follow, grown]
    refine onward _ ⟨_, rfl, size_eq, ?_⟩
    exact List.take_of_length_le (by omega)
  | unwritten size accepted error _ => simpa [follow] using h.fail cancelled error
  | flushed size phase =>
    obtain ⟨chunk, older, rfl, settled⟩ := h.flush phase
    simpa [follow] using settled.heed cancelled
  | unflushed size error _ => simpa [follow] using h.fail cancelled error
  | shut exit phase =>
    simpa [follow] using close (by simp [phase, Phase.Suits]) (stopped_suits_none _ exit)
  | unshut exit error phase =>
    have idle : ∀ current, pump.phase.Suits pump.buffer current → current = none := by
      simp [phase, Phase.Suits]
    simp only [follow]
    cases pump.destinationControl
    · exact close idle (stopped_suits_none _ exit)
    · exact close idle rfl
  | endedDestination exit phase =>
    simpa [follow] using close (by simp [phase, Phase.Suits]) (stopped_suits_none _ exit)
  | unendedDestination exit error phase =>
    have closing : Balanced (pump.enter (.closingDestination exit)) chunks :=
      close (by simp [phase, Phase.Suits]) rfl
    simpa [follow] using closing
  | closedDestination exit answer phase =>
    simpa [follow] using close (by simp [phase, Phase.Suits]) (stopped_suits_none _ exit)
  | endedSource _ =>
    have stopped : Balanced (pump.enter (.stopped .writeError)) chunks :=
      h.enter fun _ _ => trivial
    simpa [follow] using stopped
  | unendedSource error _ =>
    have closing : Balanced (pump.enter .closingSource) chunks := h.enter fun _ _ => trivial
    simpa [follow] using closing
  | closedSource answer _ =>
    have stopped : Balanced (pump.enter (.stopped .writeError)) chunks :=
      h.enter fun _ _ => trivial
    simpa [follow] using stopped

theorem Balanced.opened {pump : Pump} {chunks : List Passage} (h : Balanced pump chunks)
    {call : Call} (asked : pump.call? = some call) (data : Bytes) (writes : call = .write data) :
    chunks ≠ [] := by
  obtain ⟨current, older, rfl, account⟩ := h
  subst writes
  cases phase : pump.phase with
  | writing size accepted =>
    obtain ⟨chunk, rfl, -⟩ : ∃ chunk, current = some chunk ∧ size = chunk.data.length ∧
        chunk.data = pump.buffer.bytes.take size ∧ accepted < size ∧
        chunk.accepted = chunk.data.take accepted := by
      simpa [phase, Phase.Suits] using account.suits
    simp
  | _ => simp [call?, phase] at asked

theorem gather_through {chunks : List Passage}
    (through : ∀ chunk ∈ chunks, chunk.isComplete = true) :
    gather Passage.accepted chunks = gather Passage.data chunks := by
  induction chunks with
  | nil => rfl
  | cons chunk chunks ih =>
    have whole : chunk.accepted = chunk.data := by
      have := through chunk (List.mem_cons_self ..)
      simp only [Passage.isComplete, Bool.and_eq_true, decide_eq_true_eq] at this
      exact this.1
    rw [gather_cons, gather_cons, whole,
      ih fun later member => through later (List.mem_cons_of_mem _ member)]

/-- What a pump's chunks come to. -/
structure Conserved (pump : Pump) (chunks : List Passage) : Prop where
  ordered : gather Passage.accepted chunks <+: gather Passage.data chunks
  counted : pump.total = weight (chunks.filter Passage.isComplete)
  single : ∀ chunk ∈ chunks.tail, chunk.isComplete = true
  atLeast : pump.total ≤ (gather Passage.accepted chunks).length
  atMost : (gather Passage.accepted chunks).length ≤ pump.total + inProgress chunks
  ended : pump.exit? = some .eof ∨ pump.exit? = some .readError →
    ∀ chunk ∈ chunks, chunk.isComplete = true

theorem Balanced.conserved {pump : Pump} {chunks : List Passage} (h : Balanced pump chunks) :
    Conserved pump chunks := by
  obtain ⟨current, older, rfl, account⟩ := h
  have settled := gather_through account.through
  have kept : older.filter Passage.isComplete = older := List.filter_eq_self.mpr account.through
  have size : (gather Passage.accepted older).length = pump.total := by
    rw [settled, length_gather_data, account.total]
  cases current with
  | none =>
    exact {
      ordered := by simp [settled]
      counted := by simp [kept, account.total]
      single := fun chunk member => account.through chunk (List.mem_of_mem_tail member)
      atLeast := by simp [size]
      atMost := by simp [size]
      ended := fun _ => account.through }
  | some chunk =>
    obtain ⟨front, unflushed⟩ := account.part chunk rfl
    have unsettled : chunk.isComplete = false := by simp [Passage.isComplete, unflushed]
    have shorter := front.length_le
    refine ⟨?_, ?_, ?_, ?_, ?_, ?_⟩
    · simpa [gather_cons, settled] using front
    · simp [unsettled, kept, account.total]
    · simpa using account.through
    · simp [gather_cons, size]
    · simpa [gather_cons, size, inProgress, unsettled] using shorter
    · intro ended
      have suits := account.suits
      cases phase : pump.phase with
      | stopped exit => cases exit <;> simp_all [Pump.exit?, Phase.Suits]
      | _ => simp [Pump.exit?, phase] at ended

variable {W : Type}

/-- Surroundings whose destination takes no more bytes than it is offered. -/
def Surroundings.IsHonest (s : Surroundings W) : Prop :=
  ∀ call w answer w', s.respond call w = (some answer, w') → Exchange.IsHonest ⟨call, answer⟩

def Told (pump : Pump) (w : W × Transcript) : Prop :=
  Balanced pump w.2.chunks ∧ w.2.accepted = gather Passage.accepted w.2.chunks

private theorem kept_told {s : Surroundings W} (honest : s.IsHonest) : Kept s.recorded Told where
  waiting := by
    rintro pump ⟨w, t⟩ call ⟨w', t'⟩ - silent told
    simp only [Surroundings.recorded] at silent
    split at silent
    · obtain ⟨-, rfl, rfl⟩ : True ∧ _ = w' ∧ t = t' := by simpa using silent
      exact told
    · simp at silent
  answered := by
    rintro pump ⟨w, t⟩ call answer ⟨w', t'⟩ asked answered ⟨balanced, accepted⟩
    simp only [Surroundings.recorded] at answered
    split at answered
    · simp at answered
    · rename_i reply next replied
      obtain ⟨rfl, rfl, rfl⟩ : reply = answer ∧ next = w' ∧ t ++ [⟨call, reply⟩] = t' := by
        simpa using answered
      have honest := honest call w reply next replied
      refine ⟨?_, ?_⟩
      · rw [Transcript.chunks_append]
        exact balanced.resume asked honest _
      · rw [Transcript.accepted_append, Transcript.chunks_append,
          gather_accepted_follow (balanced.opened asked), accepted]

theorem told_run {s : Surroundings W} (honest : s.IsHonest) (visits : List (Visit W))
    {pump : Pump} (w : W) (h : Balanced pump []) :
    Told (run s visits pump w).1 (w, transcript s visits pump w) := by
  have first : Told pump (w, []) := ⟨h, rfl⟩
  have told := (kept_told honest).run (fun told => ⟨told.1.heed _, told.2⟩) (fun told => told)
    (visits.map Visit.recorded) (by
      intro visit member pump w told
      obtain ⟨plain, -, rfl⟩ := List.mem_map.mp member
      exact told) first
  obtain ⟨t, recorded⟩ := run_recorded s visits pump w []
  rw [recorded] at told
  rw [transcript, recorded]
  exact told

/-- What is accepted is a front part of what is read, and the total counts its complete chunks. -/
theorem run_conserves_bytes (s : Surroundings W) (honest : s.IsHonest) (visits : List (Visit W))
    (w : W) (sourceControl destinationControl : Bool) (buffer : Buffer) :
    let start : Pump := { sourceControl, destinationControl, buffer }
    let pump := (run s visits start w).1
    let t := transcript s visits start w
    t.accepted <+: t.read ∧
      pump.total = weight (t.chunks.filter Passage.isComplete) ∧
      (∀ chunk ∈ t.chunks.tail, chunk.isComplete = true) ∧
      pump.total ≤ t.accepted.length ∧
      t.accepted.length ≤ pump.total + inProgress t.chunks ∧
      (pump.exit? = some .eof ∨ pump.exit? = some .readError →
        t.accepted = t.read ∧ pump.total = t.read.length) := by
  intro start pump t
  obtain ⟨balanced, accepted⟩ :=
    told_run honest visits w (balanced_start sourceControl destinationControl buffer)
  have conserved := balanced.conserved
  have read := t.read_eq_gather
  refine ⟨?_, conserved.counted, conserved.single, ?_, ?_, ?_⟩
  · rw [read, accepted]
    exact conserved.ordered
  · rw [accepted]
    exact conserved.atLeast
  · rw [accepted]
    exact conserved.atMost
  · intro ended
    have through := conserved.ended ended
    have all : t.accepted = t.read := by rw [read, accepted, gather_through through]
    refine ⟨all, ?_⟩
    rw [read, length_gather_data, conserved.counted, List.filter_eq_self.mpr through]

theorem stage_isHonest : Pump.stage.IsHonest := by
  intro call w answer w' answered
  cases call with
  | write data =>
    rcases turned : Cue.next (.ok .all) w.script.writer with ⟨cancels, turn, cues⟩
    simp only [Pump.stage, Stage.write, turned, Stage.note] at answered
    cases turn with
    | ready result =>
      rcases result with error | appetite
      · obtain ⟨rfl, -⟩ : Except.error error = answer ∧ _ = w' := by simpa using answered
        trivial
      · cases appetite with
        | upTo count =>
          obtain ⟨rfl, -⟩ : Except.ok (min count data.length) = answer ∧ _ = w' := by
            simpa using answered
          exact Nat.min_le_right count data.length
        | all =>
          obtain ⟨rfl, -⟩ : Except.ok data.length = answer ∧ _ = w' := by simpa using answered
          exact Nat.le_refl data.length
    | paused => simp at answered
    | hung => simp at answered
  | _ => trivial

/-- Five bytes of two chunks are accepted before the destination fails, and three count. -/
def brokenOff : Script where
  reader := [.answer (.ok [1, 2, 3]), .pause, .answer (.ok [4, 5, 6])]
  writer := [.answer (.ok (.upTo 2)), .answer (.ok .all), .pause, .answer (.ok (.upTo 2)),
    .answer (.error (.bare .brokenPipe))]

theorem run_conserves_bytes_brokenOff :
    let start : Pump := ⟨false, false, ⟨0, [9, 9, 9, 9]⟩, 0, .reading⟩
    let visits := List.replicate 4 ⟨id, 20⟩
    let w : Stage := { script := brokenOff, rootCancelled := false }
    let t := transcript Pump.stage visits start w
    Pump.stage.IsHonest ∧ t.accepted = [1, 2, 3, 4, 5] ∧
      (run Pump.stage visits start w).1.total = 3 ∧ t.accepted <+: t.read :=
  ⟨stage_isHonest, by decide, by decide,
    (run_conserves_bytes Pump.stage stage_isHonest (List.replicate 4 ⟨id, 20⟩)
      { script := brokenOff, rootCancelled := false } false false ⟨0, [9, 9, 9, 9]⟩).1⟩

end StreamRelay.Pump
