import StreamRelay.Proofs.Buffer.Borrow
import StreamRelay.Proofs.Session.Step

set_option autoImplicit false
set_option relaxedAutoImplicit false

namespace StreamRelay.Session

/-- A session none of whose pumps was lost. -/
def Unlost (s : Session) : Prop := ∀ direction, s.task direction ≠ .lost

private theorem Unlost.setTask {s : Session} (unlost : s.Unlost) {direction : Direction}
    {task : Task} (found : task ≠ .lost) : (s.setTask direction task).Unlost := by
  intro direction'
  cases direction <;> cases direction'
  · exact found
  · exact unlost .down
  · exact unlost .up
  · exact found

theorem Alike.unlost {s t : Session} (alike : Alike s t) (unlost : s.Unlost) : t.Unlost := by
  intro direction
  rw [alike.task]
  exact unlost direction

/-- What a step of a session does to a pool whose buffers can be allocated. -/
structure Trades (s : Session) (pool : Pool) (t : Session) (pool' : Pool) : Prop where
  size : pool'.size = pool.size
  balanced : pool.Balanced → pool'.Balanced
  unlost : s.Unlost → t.Unlost
  allocated : pool'.allocated = pool.allocated ∨
    pool'.allocated = pool.allocated + 1 ∧ pool.free = [] ∧
      ∃ direction, s.task direction = .spawned

private theorem trades_same {s t : Session} (pool : Pool) (unlost : s.Unlost → t.Unlost) :
    Trades s pool t pool :=
  ⟨rfl, id, unlost, .inl rfl⟩

private theorem Driven.pool {s t : Session} {direction : Direction} {pool pool' : Pool}
    {pump : Pump} (driven : Driven s direction pool pump t pool') :
    pool' = pool ∨ ∃ buffer, pool' = pool.release buffer := by
  cases driven with
  | stopped _ _ _ => exact .inr ⟨_, rfl⟩
  | running _ _ _ => exact .inl rfl

private theorem Driven.allocated {s t : Session} {direction : Direction} {pool pool' : Pool}
    {pump : Pump}
    (driven : Driven s direction pool pump t pool') : pool'.allocated = pool.allocated := by
  rcases driven.pool with rfl | ⟨buffer, rfl⟩ <;> rfl

private theorem Driven.unlost {s t : Session} {direction : Direction} {pool pool' : Pool}
    {pump : Pump}
    (driven : Driven s direction pool pump t pool') (unlost : s.Unlost) : t.Unlost := by
  have alike := poll_alike direction (s.workload direction pump) pump s
  cases driven with
  | stopped _ polled _ => exact (polled ▸ alike.unlost unlost).setTask (by simp)
  | running _ polled _ => exact (polled ▸ alike.unlost unlost).setTask (by simp)

private theorem Driven.trades {s t : Session} {direction : Direction} {pool pool' : Pool}
    {pump : Pump} (driven : Driven s direction pool pump t pool') : Trades s pool t pool' := by
  rcases driven.pool with rfl | ⟨buffer, rfl⟩
  · exact trades_same _ driven.unlost
  · exact ⟨rfl, fun balanced => balanced.release buffer, driven.unlost, .inl rfl⟩

private theorem Pumped.trades {s t : Session} {direction : Direction} {pool pool' : Pool}
    (pumped : Pumped s direction pool t pool') (fits : pool.size ≤ maxAllocation) :
    Trades s pool t pool' := by
  cases pumped with
  | idle _ => exact trades_same pool id
  | lost _ unlent =>
    rcases Pool.borrow_fits fits with ⟨_, _, _, -, lent, -⟩ | ⟨-, _, _, lent, -⟩
    · cases (Prod.mk.inj (lent.symm.trans unlent)).1
    · cases (Prod.mk.inj (lent.symm.trans unlent)).1
  | goes _ driven => exact driven.trades
  | begins spawned lent driven =>
    have after := driven.trades
    obtain ⟨-, -, size, -⟩ := Pool.borrow_some lent
    refine ⟨after.size.trans size, fun balanced => after.balanced (balanced.borrow fits lent),
      after.unlost, ?_⟩
    rcases Pool.borrow_fits fits with ⟨_, _, _, -, lent', -, allocated⟩ |
      ⟨free, _, _, lent', -, allocated⟩
    · obtain ⟨-, rfl⟩ := Prod.mk.inj (lent'.symm.trans lent)
      exact .inl (driven.allocated.trans allocated)
    · obtain ⟨-, rfl⟩ := Prod.mk.inj (lent'.symm.trans lent)
      exact .inr ⟨driven.allocated.trans allocated, free, direction, spawned⟩

private theorem Progress.unlost {s t : Session} {offer : Offer} {notes : List Note}
    (progress : Progress s offer t notes) (unlost : s.Unlost) : t.Unlost := by
  cases progress with
  | relay _ _ _ =>
    intro direction
    cases direction <;> simp [task]
  | _ =>
    intro direction
    have found := unlost direction
    cases direction <;> exact found

private theorem watch_unlost {s : Session} (unlost : s.Unlost) : s.pollWatcher.Unlost := by
  intro direction
  have found := unlost direction
  unfold pollWatcher
  split
  · cases direction <;> exact found
  · exact found

theorem step_trades (s : Session) {pool : Pool} (fits : pool.size ≤ maxAllocation) (move : Move) :
    Trades s pool (s.step pool move).1 (s.step pool move).2.1 := by
  cases move with
  | befall side event => exact trades_same pool ((Alike.refl s).setLink side _).unlost
  | cancel => exact trades_same pool (Alike.refl s).cancel.unlost
  | poll offer => exact trades_same pool (poll_progress s offer).unlost
  | pump direction => exact (pollPump_pumped s direction pool).trades fits
  | watch => exact trades_same pool watch_unlost

theorem run_unlost {s : Session} (unlost : s.Unlost) {pool : Pool}
    (fits : pool.size ≤ maxAllocation) (moves : List Move) :
    (s.run pool moves).1.Unlost ∧ (s.run pool moves).2.1.size = pool.size := by
  induction moves generalizing s pool with
  | nil => exact ⟨unlost, rfl⟩
  | cons move moves ih =>
    have trades := s.step_trades fits move
    obtain ⟨unlost', size⟩ := ih (trades.unlost unlost) (trades.size ▸ fits)
    exact ⟨unlost', size.trans trades.size⟩

end StreamRelay.Session
