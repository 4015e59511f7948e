import StreamRelay.Proofs.Pump.Farewell
import StreamRelay.Proofs.Pump.Fidelity

set_option autoImplicit false
set_option relaxedAutoImplicit false

namespace StreamRelay.Pump

def Call.isControl : Call → Bool
  | .closeWrite => true
  | .closeDestination => true
  | .closeRead => true
  | .closeSource => true
  | _ => false

private theorem IsClosing.isControl {pump : Pump} (closing : pump.IsClosing) {call : Call}
    (asked : pump.call? = some call) : call.isControl = true := by
  rcases closing.calls asked with rfl | rfl | rfl | rfl <;> rfl

private theorem isClosing_of_stopped {pump : Pump} {exit : Exit}
    (stopped : pump.exit? = some exit) : pump.IsClosing := by
  cases phase : pump.phase <;> simp_all [exit?, IsClosing]

private theorem isClosing_failWrite (pump : Pump) (cancelled : Bool) (error : IoError) :
    (pump.failWrite cancelled error).1.IsClosing := by
  rw [failWrite]
  cases pump.sourceControl <;> trivial

private theorem going_of_moves {pump : Pump} (moving : pump.phase.moves = true) :
    pump.exit? = none := by
  cases phase : pump.phase <;> simp_all [Phase.moves, exit?]

private theorem phase_moves {pump : Pump} {call : Call} (asked : pump.call? = some call)
    (moves : call.moves = true) : pump.phase.moves = true := by
  cases phase : pump.phase <;> simp_all [Phase.moves, call?, Call.moves] <;> subst asked <;>
    simp at moves

private theorem exists_shutting {pump : Pump} (asked : pump.call? = some .shutdown) :
    ∃ exit, pump.phase = .shutting exit := by
  cases phase : pump.phase <;> simp_all [call?]

theorem heed_moving {pump : Pump} (moving : pump.phase.moves = true) :
    pump.heed true = pump.enter (.stopped .cancelled) := by
  cases phase : pump.phase <;> simp_all [Phase.moves, heed]

private theorem heed_shutting {pump : Pump} {exit : Exit} (phase : pump.phase = .shutting exit) :
    pump.heed true = pump.enter (.stopped exit) := by
  simp [heed, phase]

private theorem heed_stopped {pump : Pump} {exit : Exit} (stopped : pump.exit? = some exit)
    (cancelled : Bool) : pump.heed cancelled = pump := by
  cases cancelled <;> cases phase : pump.phase <;> simp_all [exit?, heed]

private theorem resume_struck {pump : Pump} {call next : Call} (asked : pump.call? = some call)
    (answer : call.Answer) (onward : (pump.resume true call answer).1.call? = some next) :
    next.isControl = true ∨
      ∃ data, call = .write data ∧ (next = .flush ∨ ∃ rest, next = .write rest) := by
  have quiet {q : Pump} (closing : q.IsClosing) (onward : q.call? = some next) :
      next.isControl = true ∨
        ∃ data, call = .write data ∧ (next = .flush ∨ ∃ rest, next = .write rest) :=
    .inl (closing.isControl onward)
  have answered := resume_answered asked true answer
  generalize (pump.resume true call answer).1 = after at answered onward
  generalize (pump.resume true call answer).2 = notes at answered
  cases answered with
  | ended _ | loaded _ _ _ | unread _ _ | flushed _ _ => exact quiet (heed_isClosing _) onward
  | advanced size accepted count _ _ _ =>
    obtain rfl := Option.some.inj onward
    exact .inr ⟨_, rfl, .inr ⟨_, rfl⟩⟩
  | written size accepted count _ _ _ =>
    obtain rfl := Option.some.inj onward
    exact .inr ⟨_, rfl, .inl rfl⟩
  | refused _ _ _ | unwritten _ _ _ _ | unflushed _ _ _ =>
    exact quiet (isClosing_failWrite pump true _) onward
  | unshut exit _ _ =>
    refine quiet ?_ onward
    cases pump.destinationControl <;> trivial
  | _ => exact quiet (by trivial) onward

variable {W : Type}

def Call.note (log : List Call) (call : Call) (_ : Option call.Answer) : List Call := log ++ [call]

/-- The calls that a pump makes in a run, in order, whether or not they are answered. -/
def calls (s : Surroundings W) (visits : List (Visit W)) (pump : Pump) (w : W) : List Call :=
  (run (s.observed Call.note) (visits.map Visit.observed) pump (w, [])).2.2.2

private theorem kept_silent (s : Surroundings W) :
    Kept (s.observed Call.note) fun pump w =>
      pump.exit?.isSome = true ∧ w.2 = [] where
  waiting := by
    intro pump w call w' asked _ held
    rw [(call?_eq_none_iff pump).mpr held.1] at asked
    cases asked
  answered := by
    intro pump w call answer w' asked _ held
    rw [(call?_eq_none_iff pump).mpr held.1] at asked
    cases asked

private theorem kept_controls (s : Surroundings W) :
    Kept (s.observed Call.note) fun pump w =>
      pump.IsClosing ∧ ∀ call ∈ w.2, call.isControl = true where
  waiting := by
    rintro pump ⟨w, log⟩ call ⟨w', log'⟩ asked reply ⟨closing, controls⟩
    obtain ⟨-, rfl⟩ := observed_respond reply
    refine ⟨closing, ?_⟩
    simpa [Call.note, or_imp, forall_and] using ⟨controls, closing.isControl asked⟩
  answered := by
    rintro pump ⟨w, log⟩ call answer ⟨w', log'⟩ asked reply ⟨closing, controls⟩
    obtain ⟨-, rfl⟩ := observed_respond reply
    refine ⟨closing.resume _ _ _, ?_⟩
    simpa [Call.note, or_imp, forall_and] using ⟨controls, closing.isControl asked⟩

section

variable {s : Surroundings W} {pump : Pump} {w : W} {visit : Visit W}

private theorem poll_controls (struck : s.cancelled w = true) (budget : Nat) {log : List Call}
    (controls : ∀ call ∈ log, call.isControl = true) :
    let after := poll (s.observed Call.note) budget pump (w, log)
    after.1.IsClosing ∧ ∀ call ∈ after.2.2.2, call.isControl = true := by
  intro after
  have scope : (s.observed Call.note).cancelled (w, log) = true := struck
  cases halted : pump.exit? with
  | some exit =>
    have same : after = (pump, [], w, log) := poll_stopped _ budget halted (w, log)
    rw [same]
    exact ⟨isClosing_of_stopped halted, controls⟩
  | none =>
    have closing : (pump.heed true).IsClosing ∧ ∀ call ∈ (w, log).2, call.isControl = true :=
      ⟨pump.heed_isClosing, controls⟩
    have spoken := (kept_controls s).converse budget closing
    obtain ⟨stands, scene⟩ :=
      poll_outcome (s.observed Call.note) budget (w := (w, log)) halted
    rw [scope] at stands scene
    refine ⟨stands ▸ spoken.1, ?_⟩
    rw [scene]
    split
    · exact spoken.2
    · exact spoken.2

private theorem calls_isControl (struck : s.cancelled (visit.before w) = true)
    (later : List (Visit W)) :
    ∀ call ∈ calls s (visit :: later) pump w, call.isControl = true := by
  have silent : ∀ call ∈ ([] : List Call), call.isControl = true := by simp
  have polled := @poll_controls _ _ pump _ struck visit.budget _ silent
  refine ((kept_controls s).run ?_ id (later.map Visit.observed) ?_ polled).2
  · rintro pump w ⟨closing, controls⟩
    refine ⟨?_, controls⟩
    cases (s.observed Call.note).cancelled w with
    | false => exact closing
    | true => exact pump.heed_isClosing
  · rintro _ member pump w held
    obtain ⟨visit, -, rfl⟩ := List.mem_map.mp member
    exact held

private theorem run_halted (struck : s.cancelled (visit.before w) = true) {exit : Exit}
    (going : pump.exit? = none) (heeds : pump.heed true = pump.enter (.stopped exit))
    (later : List (Visit W)) :
    ∃ w', run s (visit :: later) pump w =
      (pump.enter (.stopped exit), [.stopped pump.total exit], w') := by
  have stopped : (pump.enter (.stopped exit)).exit? = some exit := rfl
  obtain ⟨w', still⟩ := run_stopped s later stopped (s.cancel (visit.before w))
  refine ⟨w', ?_⟩
  simp only [run, poll_halted struck going heeds visit.budget, still, List.append_nil]

private theorem calls_halted (struck : s.cancelled (visit.before w) = true) {exit : Exit}
    (going : pump.exit? = none) (heeds : pump.heed true = pump.enter (.stopped exit))
    (later : List (Visit W)) : calls s (visit :: later) pump w = [] := by
  have polled := poll_halted (s := s.observed Call.note)
    (w := (visit.before w, [])) struck going heeds visit.budget
  have silent : (pump.enter (.stopped exit)).exit?.isSome = true ∧
      (s.cancel (visit.before w), ([] : List Call)).2 = [] := ⟨rfl, rfl⟩
  have kept := (kept_silent s).run ?_ id (later.map Visit.observed) ?_ silent
  · simp only [calls, List.map_cons, run]
    rw [show poll (s.observed Call.note) (Visit.observed visit).budget pump
      ((Visit.observed visit).before (w, [])) = _ from polled]
    exact kept.2
  · rintro pump w ⟨stopped, none⟩
    refine ⟨?_, none⟩
    obtain ⟨exit, halted⟩ := Option.isSome_iff_exists.mp stopped
    rw [heed_stopped halted]
    exact stopped
  · rintro _ member pump w held
    obtain ⟨visit, -, rfl⟩ := List.mem_map.mp member
    exact held

end

/-- From a poll that finds the session cancelled, a pump uses its controls alone, and stops. -/
theorem run_heeds_cancellation {s : Surroundings W} {pool lent : Pool}
    {sourceControl destinationControl : Bool} {pump : Pump}
    (started : start pool sourceControl destinationControl = (some pump, lent))
    (visits : List (Visit W)) (w : W) (visit : Visit W) (later : List (Visit W))
    (struck : s.cancelled (visit.before (run s visits pump w).2.2) = true) :
    let before := run s visits pump w
    let after := run s (visit :: later) before.1 before.2.2
    let asked := calls s (visit :: later) before.1 before.2.2
    (∀ call ∈ asked, call.isControl = true) ∧
      (∀ call, before.1.call? = some call → call.moves = true →
        asked = [] ∧ after.1.exit? = some .cancelled ∧ after.1.total = before.1.total ∧
          after.2.1 = [.stopped before.1.total .cancelled]) ∧
      (before.1.call? = some .shutdown → ∃ exit transfers, exit.OfSource ∧
        Breaks exit transfers ∧ (attempts s visits pump w = transfers ∨
          attempts s visits pump w = transfers ++ [⟨.shutdown, none⟩]) ∧
        asked = [] ∧ after.1.exit? = some exit ∧ after.1.total = before.1.total ∧
          after.2.1 = [.stopped before.1.total exit]) ∧
      (s.IsHonest → before.1.total =
        weight ((transcript s visits pump w).chunks.filter Passage.isComplete)) ∧
      (visits = [] → asked = [] ∧ after.1.exit? = some .cancelled ∧ after.1.total = 0) ∧
      ∀ (q : Pump) call (answer : call.Answer) next, q.call? = some call →
        (q.resume true call answer).1.call? = some next → next.isControl = true ∨
          ∃ data, call = .write data ∧ (next = .flush ∨ ∃ rest, next = .write rest) := by
  intro before after asked
  obtain ⟨buffer, -, rfl⟩ := start_eq_some started
  have halts {exit : Exit} (going : before.1.exit? = none)
      (heeds : before.1.heed true = before.1.enter (.stopped exit)) :
      asked = [] ∧ after.1.exit? = some exit ∧ after.1.total = before.1.total ∧
        after.2.1 = [.stopped before.1.total exit] := by
    obtain ⟨w', outcome⟩ := run_halted struck going heeds later
    have outcome : after = _ := outcome
    rw [outcome]
    exact ⟨calls_halted struck going heeds later, rfl, rfl, rfl⟩
  have moving (moves : before.1.phase.moves = true) := halts (going_of_moves moves)
    (heed_moving moves)
  refine ⟨calls_isControl struck later, ?_, ?_, ?_, ?_, ?_⟩
  · intro call waits moves
    exact moving (phase_moves waits moves)
  · intro waits
    obtain ⟨exit, phase⟩ := exists_shutting waits
    obtain ⟨source, transfers, breaks, log⟩ :=
      (run_attends s visits rfl w).shows'.of_shutting phase
    exact ⟨exit, transfers, source, breaks, log,
      halts (by simp [exit?, phase]) (heed_shutting phase)⟩
  · intro honest
    exact (told_run honest visits w (balanced_start _ _ buffer)).1.conserved.counted
  · rintro rfl
    obtain ⟨none, stopped, total, -⟩ := moving rfl
    exact ⟨none, stopped, total⟩
  · intro q call answer next waits onward
    exact resume_struck waits answer onward

/-- The destination takes one chunk and a byte of the next, and is not ready for a while. -/
def halfway : Script where
  reader := [.answer (.ok [1, 2]), .answer (.ok [3, 4, 5])]
  writer := [.answer (.ok .all), .answer (.ok (.upTo 1)), .pause]

theorem run_heeds_cancellation_halfway :
    let pump : Pump := ⟨false, false, .zeroed 0 4, 0, .reading⟩
    let begun : Stage := { script := halfway, rootCancelled := false }
    let before := run stage [⟨id, 9⟩] pump begun
    let after := run stage [⟨Stage.cancel, 9⟩] before.1 before.2.2
    start (.ofBytes 4) false false = (some pump, ⟨4, [], 1, 1, 0⟩) ∧
      (Stage.cancel before.2.2).cancelled = true ∧
      before.1.call? = some (.write [4, 5]) ∧ before.1.total = 2 ∧
      (before.2.2.write [4, 5]).1 = some (.ok 2) ∧
      calls stage [⟨Stage.cancel, 9⟩] before.1 before.2.2 = [] ∧
      after.1.exit? = some .cancelled ∧ after.1.total = 2 ∧ after.2.1 = [.stopped 2 .cancelled] := by
  intro pump begun before after
  have started : start (.ofBytes 4) false false = (some pump, ⟨4, [], 1, 1, 0⟩) := rfl
  have struck : (Stage.cancel before.2.2).cancelled = true := by rfl
  have waits : before.1.call? = some (.write [4, 5]) := by rfl
  have ready : (before.2.2.write [4, 5]).1 = some (.ok 2) := by rfl
  have total : before.1.total = 2 := by rfl
  obtain ⟨-, moving, -⟩ :=
    run_heeds_cancellation (s := stage) started [⟨id, 9⟩] begun ⟨Stage.cancel, 9⟩ [] struck
  obtain ⟨none, exit, same, notes⟩ := moving (.write [4, 5]) waits rfl
  exact ⟨started, struck, waits, total, ready, none, exit, same, notes⟩

end StreamRelay.Pump
