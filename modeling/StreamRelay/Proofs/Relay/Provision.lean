import StreamRelay.Proofs.Relay.Isolation
import StreamRelay.Proofs.Settings.Range

set_option autoImplicit false
set_option relaxedAutoImplicit false

namespace StreamRelay

private theorem Link.ended_of_read_empty {link : Link} {room : Nat} (positive : 0 < room)
    (empty : (link.read room).1 = some (.ok [])) :
    link.readShut = true ∨ link.arrived = [] ∧ link.ended = true := by
  rcases link.read_outcome room with ⟨arrived, outcome⟩ | ⟨reply, outcome, told⟩
  · have none : link.arrived.take room = [] := by simpa [outcome] using empty
    rcases List.take_eq_nil_iff.mp none with zero | drained
    · omega
    · exact absurd drained arrived
  · have silent : reply = some (.ok []) := by simpa [outcome] using empty
    cases shut : link.readShut with
    | true => exact .inl rfl
    | false => exact .inr ((told [] silent).2 shut)

namespace Settings

private theorem InRange.bufferSizeBytes {s : Settings} (range : s.InRange) :
    s.bufferSizeBytes = 1024 * s.bufferSize := by
  have most := range.bufferSize_le
  simp only [Settings.bufferSizeBytes, maxBufferSize, maxWord] at most ⊢
  omega

/-- A record that sources lead to is in range, and its relay lends buffers of exactly its size. -/
theorem Reachable.provides {s : Settings} (reachable : s.Reachable) :
    (1 ≤ s.bufferSize ∧ s.bufferSize ≤ 65536) ∧
      (1 ≤ s.connectTimeout ∧ s.connectTimeout ≤ 0x7FFFFFFFFFFFFFFF) ∧
      s.logLevel.name ∈ ["error", "warn", "info", "debug", "trace"] ∧
      ((∃ fault, s.validate = .error fault) ↔ s.listenAddr = s.backendAddr) ∧
      s.bufferSizeBytes = 1024 * s.bufferSize ∧
      (Pool.ofKilobytes s.bufferSize).size = s.bufferSizeBytes ∧
      ∀ moves, let relay := ((Relay.ofSettings s).run moves).1
        (∃ buffer pool, relay.pool.borrow = (some buffer, pool) ∧
            buffer.size = 1024 * s.bufferSize ∧ buffer.bytes ≠ []) ∧
          ∀ session ∈ relay.sessions, ∀ direction pump,
            session.task direction = .running pump →
              pump.buffer.size = 1024 * s.bufferSize ∧
                ∀ room, pump.call? = some (.read room) → ∀ link : Link,
                  (link.read room).1 = some (.ok []) →
                    link.readShut = true ∨ link.arrived = [] ∧ link.ended = true := by
  have range := reachable.inRange
  have exact_size := range.bufferSizeBytes
  have least := range.bufferSize_pos
  have most : s.bufferSize ≤ 65536 := range.bufferSize_le
  refine ⟨⟨least, most⟩, ⟨range.connectTimeout_pos, range.connectTimeout_le⟩, ?_, ?_, exact_size,
    ?_, fun moves => ?_⟩
  · cases s.logLevel <;> decide
  · rw [range.validate]
    by_cases same : s.listenAddr = s.backendAddr <;> simp [same]
  · simp only [Pool.ofKilobytes, Pool.ofBytes, Settings.bufferSizeBytes, maxWord]
  · intro relay
    have furnished : relay.Furnished s.bufferSizeBytes :=
      (Relay.furnished_fresh (Net.dialTarget s.backendAddr) s.bufferSizeBytes).run moves
    constructor
    · rcases furnished.supplies.borrow with ⟨large, -⟩ | ⟨-, buffer, pool, lent, size, -⟩
      · simp only [maxAllocation] at large
        omega
      · refine ⟨buffer, pool, lent, size.trans exact_size, fun empty => ?_⟩
        have none : buffer.size = 0 := by simp [Buffer.size, empty]
        omega
    · intro session member direction pump running
      have size := (furnished.equipped session member direction pump running).1.trans exact_size
      refine ⟨size, fun room asks link empty => ?_⟩
      have whole : room = pump.buffer.size := by
        cases phase : pump.phase with
        | reading => simpa [Pump.call?, phase] using asks.symm
        | _ => simp [Pump.call?, phase] at asks
      exact Link.ended_of_read_empty (by omega) empty

def halfGood : Overrides := { bufferSize := some 8, connectTimeout := some (-1) }

theorem provides_halfGood :
    let s := (apply ⟨[], []⟩ halfGood .default).settings
    s.Reachable ∧ s.bufferSize = 8 ∧ s.bufferSizeBytes = 8192 ∧
      ¬ ∃ fault, s.validate = .error fault := by
  intro s
  have reachable : s.Reachable := .apply ⟨[], []⟩ halfGood .default
  obtain ⟨-, -, -, refused, exact_size, -⟩ := reachable.provides
  have size : s.bufferSize = 8 := by decide
  refine ⟨reachable, size, by rw [exact_size, size], fun failed => ?_⟩
  exact absurd (refused.mp failed) (by decide)

end Settings

end StreamRelay
