import StreamRelay.Pump.Basic

set_option autoImplicit false
set_option relaxedAutoImplicit false

namespace StreamRelay.Pump

/-- What becomes of a pump that gets an answer to the call it waits for, and what it reports. -/
inductive Answered (pump : Pump) (cancelled : Bool) :
    (call : Call) → call.Answer → Pump → List Note → Prop
  | ended : pump.phase = .reading →
      Answered pump cancelled (.read pump.buffer.size) (.ok [])
        ((pump.enter (.shutting .eof)).heed cancelled) [.sourceEnded]
  | loaded (byte : UInt8) (bytes : Bytes) : pump.phase = .reading →
      Answered pump cancelled (.read pump.buffer.size) (.ok (byte :: bytes))
        (((pump.load (byte :: bytes)).enter (.writing (byte :: bytes).length 0)).heed cancelled) []
  | unread (error : IoError) : pump.phase = .reading →
      Answered pump cancelled (.read pump.buffer.size) (.error error)
        ((pump.enter (.shutting .readError)).heed cancelled)
        [.readFailed (failureLevel error cancelled) error]
  | refused (size accepted : Nat) : pump.phase = .writing size accepted →
      Answered pump cancelled (.write (pump.pending size accepted)) (.ok 0)
        (pump.failWrite cancelled (.bare .writeZero)).1
        (pump.failWrite cancelled (.bare .writeZero)).2
  | advanced (size accepted count : Nat) : pump.phase = .writing size accepted → 0 < count →
      accepted + count < size →
      Answered pump cancelled (.write (pump.pending size accepted)) (.ok count)
        (pump.enter (.writing size (accepted + count))) []
  | written (size accepted count : Nat) : pump.phase = .writing size accepted → 0 < count →
      size ≤ accepted + count →
      Answered pump cancelled (.write (pump.pending size accepted)) (.ok count)
        (pump.enter (.flushing size)) []
  | unwritten (size accepted : Nat) (error : IoError) : pump.phase = .writing size accepted →
      Answered pump cancelled (.write (pump.pending size accepted)) (.error error)
        (pump.failWrite cancelled error).1 (pump.failWrite cancelled error).2
  | flushed (size : Nat) : pump.phase = .flushing size →
      Answered pump cancelled .flush (.ok ())
        ({ pump with total := pump.total + size, phase := .reading }.heed cancelled) []
  | unflushed (size : Nat) (error : IoError) : pump.phase = .flushing size →
      Answered pump cancelled .flush (.error error) (pump.failWrite cancelled error).1
        (pump.failWrite cancelled error).2
  | shut (exit : Exit) : pump.phase = .shutting exit →
      Answered pump cancelled .shutdown (.ok ()) (pump.enter (.stopped exit)) []
  | unshut (exit : Exit) (error : IoError) : pump.phase = .shutting exit →
      Answered pump cancelled .shutdown (.error error)
        (pump.enter (if pump.destinationControl then .endingDestination exit else .stopped exit)) []
  | endedDestination (exit : Exit) : pump.phase = .endingDestination exit →
      Answered pump cancelled .closeWrite (.ok ()) (pump.enter (.stopped exit)) []
  | unendedDestination (exit : Exit) (error : IoError) : pump.phase = .endingDestination exit →
      Answered pump cancelled .closeWrite (.error error)
        (pump.enter (.closingDestination exit)) []
  | closedDestination (exit : Exit) (answer : Except IoError Unit) :
      pump.phase = .closingDestination exit →
      Answered pump cancelled .closeDestination answer (pump.enter (.stopped exit)) []
  | endedSource : pump.phase = .endingSource →
      Answered pump cancelled .closeRead (.ok ()) (pump.enter (.stopped .writeError)) []
  | unendedSource (error : IoError) : pump.phase = .endingSource →
      Answered pump cancelled .closeRead (.error error) (pump.enter .closingSource) []
  | closedSource (answer : Except IoError Unit) : pump.phase = .closingSource →
      Answered pump cancelled .closeSource answer (pump.enter (.stopped .writeError)) []

theorem resume_answered {pump : Pump} {call : Call} (asked : pump.call? = some call)
    (cancelled : Bool) (answer : call.Answer) :
    Answered pump cancelled call answer (pump.resume cancelled call answer).1
      (pump.resume cancelled call answer).2 := by
  cases phase : pump.phase with
  | reading =>
    obtain rfl : Call.read pump.buffer.size = call := by simpa [call?, phase] using asked
    rcases answer with error | (_ | ⟨byte, bytes⟩)
    · simpa only [resume, phase] using Answered.unread error phase
    · simpa only [resume, phase] using Answered.ended phase
    · simpa only [resume, phase] using Answered.loaded byte bytes phase
  | writing size accepted =>
    obtain rfl : Call.write (pump.pending size accepted) = call := by
      simpa [call?, phase] using asked
    rcases answer with error | count
    · simpa only [resume, phase] using Answered.unwritten size accepted error phase
    · by_cases none : count = 0
      · subst none
        simpa only [resume, phase, ↓reduceIte] using Answered.refused size accepted phase
      · by_cases below : accepted + count < size
        · simpa only [resume, phase, if_neg none, if_pos below] using
            Answered.advanced size accepted count phase (by omega) below
        · simpa only [resume, phase, if_neg none, if_neg below] using
            Answered.written size accepted count phase (by omega) (by omega)
  | flushing size =>
    obtain rfl : Call.flush = call := by simpa [call?, phase] using asked
    rcases answer with error | _
    · simpa only [resume, phase] using Answered.unflushed size error phase
    · simpa only [resume, phase, enter] using Answered.flushed size phase
  | shutting exit =>
    obtain rfl : Call.shutdown = call := by simpa [call?, phase] using asked
    rcases answer with error | _
    · simpa only [resume, phase] using Answered.unshut exit error phase
    · simpa only [resume, phase] using Answered.shut exit phase
  | endingDestination exit =>
    obtain rfl : Call.closeWrite = call := by simpa [call?, phase] using asked
    rcases answer with error | _
    · simpa only [resume, phase] using Answered.unendedDestination exit error phase
    · simpa only [resume, phase] using Answered.endedDestination exit phase
  | closingDestination exit =>
    obtain rfl : Call.closeDestination = call := by simpa [call?, phase] using asked
    simpa only [resume, phase] using Answered.closedDestination exit answer phase
  | endingSource =>
    obtain rfl : Call.closeRead = call := by simpa [call?, phase] using asked
    rcases answer with error | _
    · simpa only [resume, phase] using Answered.unendedSource error phase
    · simpa only [resume, phase] using Answered.endedSource phase
  | closingSource =>
    obtain rfl : Call.closeSource = call := by simpa [call?, phase] using asked
    simpa only [resume, phase] using Answered.closedSource answer phase
  | stopped exit => simp [call?, phase] at asked

end StreamRelay.Pump
