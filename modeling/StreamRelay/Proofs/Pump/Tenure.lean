import StreamRelay.Proofs.Buffer.Borrow
import StreamRelay.Proofs.Pump.Farewell
import StreamRelay.Pump.Rehearsal
import StreamRelay.Session.Basic

set_option autoImplicit false
set_option relaxedAutoImplicit false

namespace StreamRelay.Pump

variable {W : Type}

/-- A poll of a pump that holds a buffer of a pool. When the pump stops, the buffer goes back. -/
def tend (s : Surroundings W) (budget : Nat) (pool : Pool) (pump : Pump) (w : W) :
    Pump × Pool × W :=
  let after := poll s budget pump w
  (after.1,
    if pump.exit?.isNone && after.1.exit?.isSome then pool.release after.1.buffer else pool,
    after.2.2)

/-- A run of a pump that holds a buffer of a pool. -/
def tenure (s : Surroundings W) : List (Visit W) → Pool → Pump → W → Pump × Pool × W
  | [], pool, pump, w => (pump, pool, w)
  | visit :: visits, pool, pump, w =>
    let (pump, pool, w) := tend s visit.budget pool pump (visit.before w)
    tenure s visits pool pump w

section

variable (s : Surroundings W)

private theorem tenure_eq (visits : List (Visit W)) (pool : Pool) (pump : Pump) (w : W) :
    tenure s visits pool pump w = ((run s visits pump w).1,
      if pump.exit?.isNone && (run s visits pump w).1.exit?.isSome then
        pool.release (run s visits pump w).1.buffer
      else pool,
      (run s visits pump w).2.2) := by
  induction visits generalizing pool pump w with
  | nil => cases stopped : pump.exit? <;> simp [tenure, run, stopped]
  | cons visit visits ih =>
    simp only [tenure, run, tend, ih]
    -- A pump that has stopped stays as it is, so what goes back is the buffer of the whole run.
    cases stopped : pump.exit? with
    | some exit =>
      rw [poll_stopped s visit.budget stopped]
      simp [stopped]
    | none =>
      cases halted : (poll s visit.budget pump (visit.before w)).1.exit? with
      | none => simp
      | some exit =>
        obtain ⟨w', rest⟩ := run_stopped s visits halted
          (poll s visit.budget pump (visit.before w)).2.2
        simp [rest, halted]

variable {s}

private theorem run_cancels (cancels : ∀ w, s.cancelled (s.cancel w) = true)
    {visits : List (Visit W)}
    (steady : ∀ visit ∈ visits, ∀ w, s.cancelled w = true → s.cancelled (visit.before w) = true)
    {pump : Pump} {w : W} (before : pump.exit?.isSome = true → s.cancelled w = true) :
    (run s visits pump w).1.exit?.isSome = true →
      s.cancelled (run s visits pump w).2.2 = true := by
  induction visits generalizing pump w with
  | nil => exact before
  | cons visit visits ih =>
    have polled : (poll s visit.budget pump (visit.before w)).1.exit?.isSome = true →
        s.cancelled (poll s visit.budget pump (visit.before w)).2.2 = true := by
      intro stopped
      cases halted : pump.exit? with
      | some exit =>
        rw [poll_stopped s visit.budget halted]
        exact steady visit (List.mem_cons_self ..) w (before (by rw [halted]; rfl))
      | none =>
        obtain ⟨after, scope⟩ := poll_outcome s visit.budget (w := visit.before w) halted
        rw [after] at stopped
        rw [scope, if_pos stopped]
        exact cancels _
    exact ih (fun later member => steady later (List.mem_cons_of_mem _ member)) polled

end

private theorem drive_eq_tend (session : Session) (direction : Session.Direction) (pool : Pool)
    {pump : Pump} (going : pump.exit? = none) :
    (session.drive direction pool pump).2.1 =
      (tend (Session.surroundings direction) (session.workload direction pump) pool pump
        session).2.1 := by
  simp only [Session.drive, tend, going]
  split <;> simp_all

private theorem start_fresh {pool pool' : Pool} {sourceControl destinationControl : Bool}
    {pump : Pump} (started : start pool sourceControl destinationControl = (some pump, pool')) :
    pump.sourceControl = sourceControl ∧ pump.destinationControl = destinationControl ∧
      pump.phase = .reading ∧ pool'.borrowed = pool.borrowed + 1 ∧
      pool'.released = pool.released := by
  obtain ⟨buffer, lent, rfl⟩ := start_eq_some started
  obtain ⟨borrowed, released, -⟩ := Pool.borrow_some lent
  exact ⟨rfl, rfl, rfl, borrowed, released⟩

/-- A pump that stops has done what its exit asks for and given its buffer back, once. -/
theorem run_lets_go {s : Surroundings W} (cancels : ∀ w, s.cancelled (s.cancel w) = true)
    {visits : List (Visit W)}
    (steady : ∀ visit ∈ visits, ∀ w, s.cancelled w = true → s.cancelled (visit.before w) = true)
    {pool lent : Pool} {sourceControl destinationControl : Bool} {pump : Pump}
    (started : start pool sourceControl destinationControl = (some pump, lent)) (w : W) :
    let after := tenure s visits lent pump w
    (∃ transfers closing, Parts sourceControl destinationControl after.1
        (attempts s visits pump w) transfers closing) ∧
      (∀ exit, after.1.exit? = some exit →
        s.cancelled after.2.2 = true ∧ after.2.1 = lent.release after.1.buffer ∧
          after.1.buffer.serial = pump.buffer.serial ∧
          after.2.1.borrowed = pool.borrowed + 1 ∧ after.2.1.released = pool.released + 1) ∧
      (after.1.exit? = none → after.2.1 = lent) ∧
      ∀ (session : Session) direction pool pump, pump.exit? = none →
        (session.drive direction pool pump).2.1 =
          (tend (Session.surroundings direction) (session.workload direction pump) pool pump
            session).2.1 := by
  intro after
  obtain ⟨rfl, rfl, fresh, borrowed, released⟩ := start_fresh started
  have going : pump.exit? = none := by
    rw [exit?, fresh]
  have attends := run_attends s visits fresh w
  have outcome : after = _ := tenure_eq s visits lent pump w
  rw [going] at outcome
  rw [outcome]
  refine ⟨attends.shows'.parts, ?_, ?_, fun session direction pool pump going =>
    drive_eq_tend session direction pool going⟩
  · intro exit stopped
    dsimp only at stopped ⊢
    have halted : (run s visits pump w).1.exit?.isSome = true := by
      rw [stopped]
      rfl
    have before : pump.exit?.isSome = true → s.cancelled w = true := by
      intro stopped
      rw [going] at stopped
      cases stopped
    have scope := run_cancels cancels steady before halted
    have back : (if (none : Option Exit).isNone && (run s visits pump w).1.exit?.isSome then
        lent.release (run s visits pump w).1.buffer else lent) =
          lent.release (run s visits pump w).1.buffer := by
      rw [halted]
      rfl
    rw [back]
    refine ⟨scope, rfl, attends.same.buffer, borrowed, ?_⟩
    rw [Pool.release, released]
  · intro still
    dsimp only at still ⊢
    rw [still]
    rfl

/-- A destination takes two bytes, is slow to be shut down, cannot be, and then is gone. -/
def parting : Script where
  reader := [.answer (.ok [1, 2])]
  shutdowns := [.pause, .answer (.error (.system 32))]
  source := .live false false
  destination := .dead

theorem run_lets_go_parting :
    let pump : Pump := ⟨true, true, .zeroed 0 4, 0, .reading⟩
    let visits : List (Visit Stage) := [⟨id, 9⟩, ⟨id, 9⟩]
    let begun : Stage := { script := parting, rootCancelled := false }
    let after := tenure stage visits ⟨4, [], 1, 1, 0⟩ pump begun
    after.1.exit? = some .eof ∧ after.2.2.cancelled = true ∧ after.2.1.released = 1 ∧
      (attempts stage visits pump begun).map Attempt.call = [.read 4, .write [1, 2], .flush,
        .read 4, .shutdown, .closeWrite, .closeDestination] ∧
      ∃ transfers closing, Parts true true after.1 (attempts stage visits pump begun)
        transfers closing := by
  intro pump visits begun after
  have cancels (w : Stage) : stage.cancelled (stage.cancel w) = true := by
    change w.cancel.cancelled = true
    cases scope : w.script.scope <;> simp [Stage.cancel, Stage.cancelled, scope]
  have steady : ∀ visit ∈ visits, ∀ w, stage.cancelled w = true →
      stage.cancelled (visit.before w) = true := by
    intro visit member w cancelled
    simp only [visits, List.mem_cons, List.not_mem_nil, or_false] at member
    rcases member with rfl | rfl <;> exact cancelled
  have started : start (.ofBytes 4) true true = (some pump, ⟨4, [], 1, 1, 0⟩) := rfl
  obtain ⟨parts, stops, -⟩ := run_lets_go cancels steady started begun
  have exit : after.1.exit? = some .eof := by rfl
  obtain ⟨cancelled, -, -, -, released⟩ := stops .eof exit
  exact ⟨exit, cancelled, released, by decide, parts⟩

end StreamRelay.Pump
