import StreamRelay.Proofs.Pump.Run

/-!
# Pumps that behave alike

Nothing of a buffer matters to what a pump does but its size and the bytes of the chunk that is
being written. So pumps that differ in no more make the same calls, take the same answers in the
same way and report the same, and they still do when their surroundings answer alike.
-/

set_option autoImplicit false
set_option relaxedAutoImplicit false

namespace StreamRelay.Pump

/-- Two pumps whose buffers are of one size and begin with the same chunk while there is one. -/
structure Like (p q : Pump) : Prop where
  sourceControl : q.sourceControl = p.sourceControl
  destinationControl : q.destinationControl = p.destinationControl
  total : q.total = p.total
  phase : q.phase = p.phase
  size : q.buffer.size = p.buffer.size
  chunk : ∀ size accepted, p.phase = .writing size accepted →
    q.buffer.bytes.take size = p.buffer.bytes.take size

theorem like_start (sourceControl destinationControl : Bool) {buffer buffer' : Buffer}
    (size : buffer'.size = buffer.size) :
    Like { sourceControl, destinationControl, buffer }
      { sourceControl, destinationControl, buffer := buffer' } :=
  ⟨rfl, rfl, rfl, rfl, size, by simp⟩

namespace Like

variable {p q : Pump}

theorem exit? (like : Like p q) : q.exit? = p.exit? := by
  rw [Pump.exit?, Pump.exit?, like.phase]

private theorem call? (like : Like p q) : q.call? = p.call? := by
  cases phase : p.phase with
  | writing size accepted =>
    simp only [Pump.call?, like.phase, phase, pending, like.chunk size accepted phase]
  | _ => simp only [Pump.call?, like.phase, phase, like.size]

private theorem enter (like : Like p q) {phase : Phase}
    (same : ∀ size accepted, phase = .writing size accepted →
      ∃ accepted, p.phase = .writing size accepted) :
    Like (p.enter phase) (q.enter phase) where
  sourceControl := like.sourceControl
  destinationControl := like.destinationControl
  total := like.total
  phase := rfl
  size := like.size
  chunk := by
    intro size accepted writing
    obtain ⟨before, writes⟩ := same size accepted writing
    exact like.chunk size before writes

private theorem heed (like : Like p q) (cancelled : Bool) :
    Like (p.heed cancelled) (q.heed cancelled) := by
  cases cancelled with
  | false => exact like
  | true =>
    cases phase : p.phase <;> simp only [Pump.heed, like.phase, phase, ↓reduceIte]
    case reading => exact like.enter (by simp)
    case writing => exact like.enter (by simp)
    case flushing => exact like.enter (by simp)
    case shutting => exact like.enter (by simp)
    all_goals exact like

private theorem failWrite (like : Like p q) (cancelled : Bool) (error : IoError) :
    Like (p.failWrite cancelled error).1 (q.failWrite cancelled error).1 ∧
      (q.failWrite cancelled error).2 = (p.failWrite cancelled error).2 := by
  refine ⟨?_, rfl⟩
  simp only [Pump.failWrite, like.sourceControl]
  exact like.enter (by split <;> simp)

private theorem load (like : Like p q) (data : Bytes) :
    Like ((p.load data).enter (.writing data.length 0))
      ((q.load data).enter (.writing data.length 0)) where
  sourceControl := like.sourceControl
  destinationControl := like.destinationControl
  total := like.total
  phase := rfl
  size := by
    have size : q.buffer.bytes.length = p.buffer.bytes.length := like.size
    simp only [Pump.enter, Pump.load, Buffer.size, List.length_append, List.length_drop, size]
  chunk := by
    rintro size accepted ⟨⟩
    simp [Pump.enter, Pump.load]

private theorem resume (like : Like p q) {call : Call} (asked : p.call? = some call)
    (cancelled : Bool) (answer : call.Answer) :
    Like (p.resume cancelled call answer).1 (q.resume cancelled call answer).1 ∧
      (q.resume cancelled call answer).2 = (p.resume cancelled call answer).2 := by
  -- A read makes a chunk of its own and a flush forgets one; in between the chunk does not change.
  cases phase : p.phase with
  | reading =>
    obtain rfl : Call.read p.buffer.size = call := by simpa [Pump.call?, phase] using asked
    rcases answer with error | (_ | ⟨byte, bytes⟩) <;>
      simp only [Pump.resume, like.phase, phase, and_true]
    · exact (like.enter (by simp)).heed cancelled
    · exact (like.enter (by simp)).heed cancelled
    · exact (like.load (byte :: bytes)).heed cancelled
  | writing size accepted =>
    obtain rfl : Call.write (p.pending size accepted) = call := by
      simpa [Pump.call?, phase] using asked
    rcases answer with error | count <;> simp only [Pump.resume, like.phase, phase]
    · exact like.failWrite cancelled error
    · split
      · exact like.failWrite cancelled _
      · split
        · refine ⟨like.enter ?_, rfl⟩
          rintro size' accepted' ⟨⟩
          exact ⟨accepted, phase⟩
        · exact ⟨like.enter (by simp), rfl⟩
  | flushing size =>
    obtain rfl : Call.flush = call := by simpa [Pump.call?, phase] using asked
    rcases answer with error | _ <;> simp only [Pump.resume, like.phase, phase]
    · exact like.failWrite cancelled error
    · have entered : Like (p.enter .reading) (q.enter .reading) := like.enter (by simp)
      have counted : Like ({ p with total := p.total + size }.enter .reading)
          ({ q with total := q.total + size }.enter .reading) :=
        { entered with total := congrArg (· + size) like.total }
      exact ⟨counted.heed cancelled, trivial⟩
  | shutting exit =>
    obtain rfl : Call.shutdown = call := by simpa [Pump.call?, phase] using asked
    rcases answer with error | _ <;>
      simp only [Pump.resume, like.phase, phase, like.destinationControl, and_true]
    · exact like.enter (by split <;> simp)
    · exact like.enter (by simp)
  | endingDestination exit =>
    obtain rfl : Call.closeWrite = call := by simpa [Pump.call?, phase] using asked
    rcases answer with error | _ <;> simp only [Pump.resume, like.phase, phase, and_true] <;>
      exact like.enter (by simp)
  | closingDestination exit =>
    obtain rfl : Call.closeDestination = call := by simpa [Pump.call?, phase] using asked
    simp only [Pump.resume, like.phase, phase, and_true]
    exact like.enter (by simp)
  | endingSource =>
    obtain rfl : Call.closeRead = call := by simpa [Pump.call?, phase] using asked
    rcases answer with error | _ <;> simp only [Pump.resume, like.phase, phase, and_true] <;>
      exact like.enter (by simp)
  | closingSource =>
    obtain rfl : Call.closeSource = call := by simpa [Pump.call?, phase] using asked
    simp only [Pump.resume, like.phase, phase, and_true]
    exact like.enter (by simp)
  | stopped exit => simp [Pump.call?, phase] at asked

end Like

/-- Surroundings that are cancelled together and answer every call with the same. -/
structure Mirrors {W V : Type} (s : Surroundings W) (f : W → V) (s' : Surroundings V) : Prop where
  cancelled : ∀ w, s'.cancelled (f w) = s.cancelled w
  cancel : ∀ w, s'.cancel (f w) = f (s.cancel w)
  respond : ∀ call w, s'.respond call (f w) = ((s.respond call w).1, f (s.respond call w).2)

section Mirrors

variable {W V : Type} {s : Surroundings W} {f : W → V} {s' : Surroundings V}

private theorem Mirrors.converse (mirrors : Mirrors s f s') (budget : Nat) {p q : Pump}
    (like : Like p q) (w : W) :
    Like (Pump.converse s budget p w).1 (Pump.converse s' budget q (f w)).1 ∧
      (Pump.converse s' budget q (f w)).2.1 = (Pump.converse s budget p w).2.1 ∧
      (Pump.converse s' budget q (f w)).2.2 = f (Pump.converse s budget p w).2.2 := by
  induction budget generalizing p q w with
  | zero => exact ⟨like, rfl, rfl⟩
  | succ budget ih =>
    cases asked : p.call? with
    | none => simpa only [Pump.converse, like.call?, asked] using ⟨like, trivial, trivial⟩
    | some call =>
      rcases reply : s.respond call w with ⟨_ | answer, w'⟩
      · simpa only [Pump.converse, like.call?, asked, mirrors.respond, reply] using
          ⟨like, trivial, trivial⟩
      · obtain ⟨like', notes⟩ := like.resume asked (s.cancelled w') answer
        obtain ⟨like'', notes', same⟩ := ih like' w'
        simp only [Pump.converse, like.call?, asked, mirrors.respond, reply, mirrors.cancelled]
        exact ⟨like'', by rw [notes, notes'], same⟩

/-- Pumps that are alike still are after a poll, and report and do the same. -/
theorem Mirrors.poll (mirrors : Mirrors s f s') (budget : Nat) {p q : Pump} (like : Like p q)
    (w : W) :
    Like (Pump.poll s budget p w).1 (Pump.poll s' budget q (f w)).1 ∧
      (Pump.poll s' budget q (f w)).2.1 = (Pump.poll s budget p w).2.1 ∧
      (Pump.poll s' budget q (f w)).2.2 = f (Pump.poll s budget p w).2.2 := by
  cases halted : p.exit? with
  | some exit =>
    simpa only [Pump.poll, like.exit?, halted] using ⟨like, trivial, trivial⟩
  | none =>
    obtain ⟨like', notes, same⟩ := mirrors.converse budget (like.heed (s.cancelled w)) w
    simp only [Pump.poll, like.exit?, halted, mirrors.cancelled, like'.exit?]
    split
    · exact ⟨like', by rw [notes, like'.total], by rw [same, mirrors.cancel]⟩
    · exact ⟨like', notes, same⟩

end Mirrors

end StreamRelay.Pump
