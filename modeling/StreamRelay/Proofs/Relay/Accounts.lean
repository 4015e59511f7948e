import Mathlib.Algebra.Order.BigOperators.Group.List
import Mathlib.Algebra.Order.Ring.Nat
import StreamRelay.Proofs.Relay.Shutdown
import StreamRelay.Proofs.Session.Borrowing
import StreamRelay.Proofs.Settings.Range

set_option autoImplicit false
set_option relaxedAutoImplicit false

namespace StreamRelay

namespace Session

def Task.hasBegun : Task → Bool
  | .running _ => true
  | .finished _ _ => true
  | _ => false

def Task.hasStopped : Task → Bool
  | .finished _ _ => true
  | _ => false

def Task.isRunning : Task → Bool
  | .running _ => true
  | _ => false

def pumps (s : Session) : List Task := [s.up, s.down]

def isBusy (s : Session) : Bool := s.state = .relaying || s.state = .draining

def hasDialed (s : Session) : Bool := s.report.any (·.dialed)

private theorem countP_hasBegun (s : Session) : s.pumps.countP Task.hasBegun = s.borrowed := by
  have count (task : Task) : task.borrowed = if task.hasBegun then 1 else 0 := by
    cases task <;> rfl
  simp only [pumps, borrowed, count, List.countP_cons, List.countP_nil]
  omega

private theorem countP_hasStopped (s : Session) : s.pumps.countP Task.hasStopped = s.released := by
  have count (task : Task) : task.released = if task.hasStopped then 1 else 0 := by
    cases task <;> rfl
  simp only [pumps, released, count, List.countP_cons, List.countP_nil]
  omega

private theorem countP_isRunning (s : Session) :
    s.pumps.countP Task.isRunning + s.released = s.borrowed := by
  have count (task : Task) : (if task.isRunning then 1 else 0) + task.released = task.borrowed := by
    cases task <;> rfl
  have up := count s.up
  have down := count s.down
  simp only [pumps, borrowed, released, List.countP_cons, List.countP_nil]
  omega

private theorem Task.borrowed_le (task : Task) : task.borrowed ≤ 1 := by
  cases task <;> simp [borrowed]

private theorem Unmanned.borrowed {s : Session} (unmanned : s.Unmanned) : s.borrowed = 0 := by
  rw [Session.borrowed, unmanned.up, unmanned.down]
  rfl

private theorem Coherent.borrowed_of_unrelayed {s : Session} (coherent : s.Coherent)
    (idle : s.isBusy = false) (undialed : s.hasDialed = false) : s.borrowed = 0 := by
  cases coherent with
  | dialing _ unmanned _ => exact unmanned.borrowed
  | relaying stage _ _ => simp [isBusy, stage] at idle
  | draining stage _ _ _ => simp [isBusy, stage] at idle
  | unrelayed _ unmanned _ _ => exact unmanned.borrowed
  | relayed _ _ reported _ => simp [hasDialed, reported] at undialed

private theorem Coherent.borrowed_of_closed {s : Session} (coherent : s.Coherent)
    (unlost : s.Unlost)
    (closed : s.state = .closed) : s.borrowed = if s.hasDialed then 2 else 0 := by
  cases coherent with
  | unrelayed _ unmanned reported _ => simp [unmanned.borrowed, hasDialed, reported]
  | relayed _ deserted reported _ =>
    have once (direction : Direction) : (s.task direction).borrowed = 1 := by
      have halted := deserted.task direction
      have found := unlost direction
      cases task : s.task direction <;> simp_all [Task.isOver, Task.borrowed]
    have up : s.up.borrowed = 1 := once .up
    have down : s.down.borrowed = 1 := once .down
    simp [borrowed, up, down, hasDialed, reported]
  | _ => simp_all

/-- The buffers that a session may hold. -/
def seats (s : Session) : Nat := if s.isBusy then 2 else 0

private theorem borrowed_le (s : Session) : s.borrowed ≤ 2 :=
  Nat.add_le_add s.up.borrowed_le s.down.borrowed_le

private theorem Coherent.borrowed_le_seats {s : Session} (coherent : s.Coherent) :
    s.borrowed ≤ s.released + s.seats := by
  have most := s.borrowed_le
  cases coherent with
  | dialing _ unmanned _ => simp [unmanned.borrowed]
  | relaying stage _ _ =>
    have seats : s.seats = 2 := by simp [seats, isBusy, stage]
    omega
  | draining stage _ _ _ =>
    have seats : s.seats = 2 := by simp [seats, isBusy, stage]
    omega
  | unrelayed _ unmanned _ _ => simp [unmanned.borrowed]
  | relayed _ deserted _ _ =>
    have up : s.up.released = s.up.borrowed := Task.released_eq deserted.up
    have down : s.down.released = s.down.borrowed := Task.released_eq deserted.down
    rw [Session.borrowed, Session.released, up, down]
    omega

private theorem Coherent.borrowed_lt_seats {s : Session} (coherent : s.Coherent)
    {direction : Direction}
    (spawned : s.task direction = .spawned) : s.borrowed < s.released + s.seats := by
  have once : s.borrowed ≤ 1 := by
    have up := s.up.borrowed_le
    have down := s.down.borrowed_le
    cases direction with
    | up =>
      have none : s.up.borrowed = 0 := by rw [show s.up = .spawned from spawned]; rfl
      rw [borrowed]
      omega
    | down =>
      have none : s.down.borrowed = 0 := by rw [show s.down = .spawned from spawned]; rfl
      rw [borrowed]
      omega
  have busy : s.isBusy = true := by
    cases coherent with
    | dialing _ unmanned _ => cases (unmanned.task direction).symm.trans spawned
    | relaying stage _ _ => simp [isBusy, stage]
    | draining stage _ _ _ => simp [isBusy, stage]
    | unrelayed _ unmanned _ _ => cases (unmanned.task direction).symm.trans spawned
    | relayed _ deserted _ _ => simpa [spawned, Task.isOver] using deserted.task direction
  simp only [seats, busy, ↓reduceIte]
  omega

end Session

namespace Relay

def pumps (r : Relay) : List Session.Task := r.sessions.flatMap Session.pumps

def busy (r : Relay) : Nat := r.sessions.countP Session.isBusy

/-- A consistent relay that can allocate buffers and has lost none, and no pump either. -/
structure Stocked (r : Relay) : Prop where
  consistent : r.Consistent
  fits : r.pool.size ≤ maxAllocation
  balanced : r.pool.Balanced
  unlost : ∀ s ∈ r.sessions, s.Unlost

private theorem stocked_fresh (target : String) {size : Nat} (fits : size ≤ maxAllocation) :
    (fresh target size).Stocked where
  consistent := consistent_fresh target size
  fits := fits
  balanced := rfl
  unlost := by simp [fresh]

private theorem Stocked.stepped {r r' : Relay} {move : Move} {notes : List Note}
    (stocked : r.Stocked)
    (stepped : Stepped r move r' notes) (consistent : r'.Consistent) : r'.Stocked := by
  obtain ⟨-, fits, balanced, unlost⟩ := stocked
  cases stepped with
  | arrives arrival => exact ⟨consistent, fits, balanced, unlost⟩
  | closesListener => exact ⟨consistent, fits, balanced, unlost⟩
  | cancels =>
    refine ⟨consistent, fits, balanced, fun t cancelled => ?_⟩
    obtain ⟨s, member, rfl⟩ := List.mem_map.mp cancelled
    exact (Session.Alike.refl s).cancel.unlost (unlost s member)
  | loops looped _ =>
    cases looped with
    | accepts _ _ =>
      refine ⟨consistent, fits, balanced, fun s member => ?_⟩
      rcases List.mem_append.mp member with member | member
      · exact unlost s member
      · obtain rfl := List.mem_singleton.mp member
        intro direction lost
        cases direction <;> cases lost
    | _ => exact ⟨consistent, fits, balanced, unlost⟩
  | tends closed _ => cases closed <;> exact ⟨consistent, fits, balanced, unlost⟩
  | nowhere _ => exact ⟨consistent, fits, balanced, unlost⟩
  | @moves index s move there =>
    have trades := s.step_trades fits move
    refine ⟨consistent, trades.size ▸ fits, trades.balanced balanced, fun t member => ?_⟩
    rcases List.mem_or_eq_of_mem_set member with member | rfl
    · exact unlost t member
    · exact trades.unlost (unlost s (List.mem_of_getElem? there))

private theorem Stocked.step {r : Relay} (stocked : r.Stocked) (move : Move) :
    (r.step move).1.Stocked :=
  stocked.stepped (r.step_stepped move) (stocked.consistent.step move)

private theorem Stocked.run {r : Relay} (stocked : r.Stocked) (moves : List Move) :
    (r.run moves).1.Stocked := by
  induction moves generalizing r with
  | nil => exact stocked
  | cons move moves ih => exact ih (stocked.step move)

private theorem sum_seats (sessions : List Session) :
    (sessions.map fun s => s.released + s.seats).sum =
      (sessions.map Session.released).sum + 2 * sessions.countP Session.isBusy := by
  induction sessions with
  | nil => rfl
  | cons s sessions ih =>
    have seats : s.seats = 2 * (if s.isBusy then 1 else 0) := by
      unfold Session.seats
      split <;> rfl
    simp only [List.map_cons, List.sum_cons, List.countP_cons, ih, seats]
    omega

private theorem Stocked.allocated {r r' : Relay} {move : Move} {notes : List Note}
    (stocked : r.Stocked) (stepped : Stepped r move r' notes) :
    r'.pool.allocated = r.pool.allocated ∨ r'.pool.allocated ≤ 2 * r.busy := by
  cases stepped with
  | loops looped _ => cases looped <;> exact .inl rfl
  | tends closed _ => cases closed <;> exact .inl rfl
  | @moves index s move there =>
    rcases (s.step_trades stocked.fits move).allocated with
      same | ⟨more, none_waits, direction, spawned⟩
    · exact .inl same
    · right
      have member := List.mem_of_getElem? there
      have coherent := stocked.consistent.coherent
      -- No buffer waits, so all of them are with sessions. Each session has its share at most, and
      -- this one has less: the pump that begins has no buffer yet.
      have fewer : (r.sessions.map Session.borrowed).sum <
          (r.sessions.map fun s => s.released + s.seats).sum :=
        List.sum_lt_sum _ _ (fun t member => (coherent t member).borrowed_le_seats)
          ⟨s, member, (coherent s member).borrowed_lt_seats spawned⟩
      have balanced := stocked.balanced
      rw [Pool.Balanced, none_waits, List.length_nil] at balanced
      rw [sum_seats, ← stocked.consistent.borrowed, ← stocked.consistent.released] at fewer
      show (s.step r.pool move).2.1.allocated ≤ 2 * r.sessions.countP Session.isBusy
      omega
  | _ => exact .inl rfl

private theorem Stocked.run_allocated {r : Relay} (stocked : r.Stocked) (moves : List Move) :
    (r.run moves).1.pool.allocated = r.pool.allocated ∨
      ∃ earlier, earlier <+: moves ∧
        (r.run moves).1.pool.allocated ≤ 2 * (r.run earlier).1.busy := by
  induction moves generalizing r with
  | nil => exact .inl rfl
  | cons move moves ih =>
    rcases ih (stocked.step move) with same | ⟨earlier, front, bound⟩
    · rcases stocked.allocated (r.step_stepped move) with same' | bound
      · exact .inl (same.trans same')
      · exact .inr ⟨[], List.nil_prefix, same.trans_le bound⟩
    · exact .inr ⟨move :: earlier, (List.cons_prefix_cons).mpr ⟨rfl, front⟩, bound⟩

private theorem countP_pumps {p : Session.Task → Bool} {count : Session → Nat}
    (each : ∀ s : Session, s.pumps.countP p = count s) (r : Relay) :
    r.pumps.countP p = (r.sessions.map count).sum := by
  rw [pumps, List.countP_flatMap]
  exact congrArg List.sum (List.map_congr_left fun s _ => each s)

private theorem sum_dialed {sessions : List Session}
    (each : ∀ s ∈ sessions, s.borrowed = if s.hasDialed then 2 else 0) :
    (sessions.map Session.borrowed).sum = 2 * sessions.countP Session.hasDialed := by
  induction sessions with
  | nil => rfl
  | cons s sessions ih =>
    have first := each s (List.mem_cons_self ..)
    have rest := ih fun t member => each t (List.mem_cons_of_mem _ member)
    simp only [List.map_cons, List.sum_cons, List.countP_cons, rest, first]
    split <;> omega

/-- The pool of a relay is in step with its pumps at every moment of every run. -/
theorem run_keeps_accounts (target : String) (size : Nat) (moves : List Move) :
    let r := ((fresh target size).run moves).1
    let stats := r.pool.stats
    stats.borrowed = r.pumps.countP Session.Task.hasBegun ∧
      stats.released = r.pumps.countP Session.Task.hasStopped ∧
      stats.inUse = r.pumps.countP Session.Task.isRunning ∧
      (∀ s ∈ r.sessions,
        s.pumps.countP Session.Task.hasBegun ≤ 2 ∧
          (s.isBusy = false → s.hasDialed = false →
            s.pumps.countP Session.Task.hasBegun = 0)) ∧
      ((∀ s ∈ r.sessions, s.state = .closed) →
        stats.released = stats.borrowed ∧ stats.inUse = 0) ∧
      (size ≤ maxAllocation →
        (∀ s ∈ r.sessions, s.state = .closed →
          s.pumps.countP Session.Task.hasBegun = if s.hasDialed then 2 else 0) ∧
        ((∀ s ∈ r.sessions, s.state = .closed) →
          stats.borrowed = 2 * r.sessions.countP Session.hasDialed) ∧
        ∃ earlier, earlier <+: moves ∧
          stats.allocated ≤ 2 * ((fresh target size).run earlier).1.busy) := by
  intro r stats
  have consistent : r.Consistent := (consistent_fresh target size).run moves
  have borrowed : stats.borrowed = (r.sessions.map Session.borrowed).sum := consistent.borrowed
  have released : stats.released = (r.sessions.map Session.released).sum := consistent.released
  have begun := countP_pumps Session.countP_hasBegun r
  have stopped := countP_pumps Session.countP_hasStopped r
  have running : r.pumps.countP Session.Task.isRunning + stats.released = stats.borrowed := by
    rw [countP_pumps (fun _ => rfl) r, released, borrowed, ← List.sum_map_add]
    exact congrArg List.sum (List.map_congr_left fun s _ => s.countP_isRunning)
  refine ⟨borrowed.trans begun.symm, released.trans stopped.symm, ?_, ?_, ?_, ?_⟩
  · simp only [PoolStats.inUse]
    omega
  · intro s member
    rw [s.countP_hasBegun]
    exact ⟨s.borrowed_le, (consistent.coherent s member).borrowed_of_unrelayed⟩
  · intro closed
    have idle : stats.inUse = 0 := consistent.inUse closed
    refine ⟨?_, idle⟩
    simp only [PoolStats.inUse] at idle
    omega
  · intro fits
    have start := stocked_fresh target fits
    have closed_twice (s : Session) (member : s ∈ r.sessions) (closed : s.state = .closed) :
        s.borrowed = if s.hasDialed then 2 else 0 :=
      (consistent.coherent s member).borrowed_of_closed ((start.run moves).unlost s member) closed
    refine ⟨?_, ?_, ?_⟩
    · intro s member closed
      rw [s.countP_hasBegun]
      exact closed_twice s member closed
    · intro closed
      exact borrowed.trans (sum_dialed fun s member => closed_twice s member (closed s member))
    · rcases start.run_allocated moves with none | ⟨earlier, front, bound⟩
      · exact ⟨[], List.nil_prefix, none.trans_le (Nat.zero_le _)⟩
      · exact ⟨earlier, front, bound⟩

def visit (index : Nat) (peer : String) : List Move :=
  [.arrive (.connection ⟨peer, { control := true }, { control := true }⟩), .serve,
    .session index (.poll ⟨some (.ok ()), some (.ok ())⟩), .session index (.pump .up),
    .session index (.pump .down), .session index (.befall .client .finish),
    .session index (.befall .client .arriveEnd), .session index (.pump .up),
    .session index .watch, .session index (.pump .down), .session index (.poll ⟨none, none⟩)]

theorem run_keeps_accounts_twoVisits :
    let r := ((fresh "backend" 8).run (visit 0 "one" ++ visit 1 "two")).1
    r.pool.stats.allocated = 2 ∧ r.pool.stats.borrowed = 4 ∧
      r.pool.stats.released = r.pool.stats.borrowed ∧ r.pool.stats.inUse = 0 := by
  intro r
  obtain ⟨-, -, -, -, back, fitting⟩ :=
    run_keeps_accounts "backend" 8 (visit 0 "one" ++ visit 1 "two")
  have closed : ∀ s ∈ r.sessions, s.state = .closed := by decide
  obtain ⟨released, idle⟩ := back closed
  obtain ⟨-, twice, -⟩ := fitting (by decide)
  exact ⟨by decide, (twice closed).trans (by decide), released, idle⟩

end Relay

end StreamRelay
