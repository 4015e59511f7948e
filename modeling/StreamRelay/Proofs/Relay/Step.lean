import StreamRelay.Proofs.Session.Cancellation
import StreamRelay.Proofs.Session.LifeCycle
import StreamRelay.Relay.Basic

set_option autoImplicit false
set_option relaxedAutoImplicit false

namespace StreamRelay.Relay

/-- What a step of the accept loop comes to. -/
inductive Looped (r : Relay) : Relay → List Note → Prop
  | rest : r.served = true ∨ r.listener.closed = false ∧ r.listener.backlog = [] → Looped r r []
  | ends : r.served = false → r.listener.closed = true →
      Looped r { r with served := true } [.listenerClosed]
  | accepts {connection : Connection} {backlog : List Arrival} : r.listener.closed = false →
      r.listener.backlog = .connection connection :: backlog →
      Looped r
        { r with
          listener := { r.listener with backlog }
          sessions := r.sessions ++
            [Session.newborn connection.peer r.target r.cancelled connection.link
              connection.backend] }
        [.accepting connection.peer]
  | fails {error : IoError} {backlog : List Arrival} : r.listener.closed = false →
      r.listener.backlog = .failure error :: backlog →
      Looped r { r with listener := { r.listener with backlog } } [.acceptFailed error]

theorem pollLoop_looped (r : Relay) : Looped r r.pollLoop.1 r.pollLoop.2 := by
  cases served : r.served with
  | true =>
    have outcome : r.pollLoop = (r, []) := by simp [pollLoop, served]
    rw [outcome]
    exact .rest (.inl served)
  | false =>
    cases closed : r.listener.closed with
    | true =>
      have outcome : r.pollLoop = ({ r with served := true }, [.listenerClosed]) := by
        simp [pollLoop, served, Listener.accept, closed, welcome]
      rw [outcome]
      exact .ends served closed
    | false =>
      cases waiting : r.listener.backlog with
      | nil =>
        have outcome : r.pollLoop = (r, []) := by
          simp [pollLoop, served, Listener.accept, closed, waiting]
        rw [outcome]
        exact .rest (.inr ⟨closed, waiting⟩)
      | cons arrival backlog =>
        cases arrival with
        | connection connection =>
          have accepted := Looped.accepts closed waiting
          simpa [pollLoop, served, Listener.accept, closed, waiting, welcome,
            Session.newborn] using accepted
        | failure error =>
          have failed := Looped.fails closed waiting
          simpa [pollLoop, served, Listener.accept, closed, waiting, welcome] using failed

inductive Closed (r : Relay) : Relay → Prop
  | rest : r.closerOver = true ∨ r.cancelled = false ∧ r.served = false → Closed r r
  | closes : r.cancelled = true →
      Closed r { r with listener := { r.listener with closed := true }, closerOver := true }
  | ends : r.served = true → Closed r { r with closerOver := true }

theorem pollCloser_closed (r : Relay) (heedsRoot : Bool) : Closed r (r.pollCloser heedsRoot).1 := by
  unfold pollCloser
  split
  · rename_i halted
    exact .rest (.inl halted)
  · split
    · rename_i due
      have cancelled : r.cancelled = true ∧ (heedsRoot = true ∨ r.served = false) := by
        simpa using due
      exact .closes cancelled.1
    · split
      · rename_i served
        exact .ends served
      · rename_i halted undue unserved
        have unserved : r.served = false := by simpa using unserved
        have undue : r.cancelled = true → heedsRoot = false ∧ r.served = true := by
          simpa using undue
        refine .rest (.inr ⟨?_, unserved⟩)
        cases cancelled : r.cancelled with
        | false => rfl
        | true => simp [(undue cancelled).2] at unserved

theorem stepSession_some {r : Relay} {index : Nat} {s : Session}
    (there : r.sessions[index]? = some s) (move : Session.Move) :
    (r.stepSession index move).1 =
      { r with
        pool := (s.step r.pool move).2.1
        sessions := r.sessions.set index (s.step r.pool move).1 } := by
  simp only [stepSession, there]

theorem stepSession_none {r : Relay} {index : Nat} (nowhere : r.sessions[index]? = none)
    (move : Session.Move) : (r.stepSession index move).1 = r := by
  simp only [stepSession, nowhere]

/-- What a step of a relay comes to. -/
inductive Stepped (r : Relay) : Move → Relay → List Note → Prop
  | arrives (arrival : Arrival) :
      Stepped r (.arrive arrival) { r with listener := r.listener.arrive arrival } []
  | closesListener :
      Stepped r .closeListener { r with listener := { r.listener with closed := true } } []
  | cancels : Stepped r .cancel r.cancel []
  | loops {r' : Relay} {notes : List Note} : Looped r r' notes → (r.served = true → r' = r) →
      Stepped r .serve r' notes
  | tends {heedsRoot : Bool} {r' : Relay} {notes : List Note} : Closed r r' →
      notes = [] ∨ r.cancelled = true ∧ notes = [.closingListener] →
      Stepped r (.closer heedsRoot) r' notes
  | nowhere {index : Nat} {move : Session.Move} : r.sessions[index]? = none →
      Stepped r (.session index move) r []
  | moves {index : Nat} {s : Session} {move : Session.Move} : r.sessions[index]? = some s →
      Stepped r (.session index move)
        { r with
          pool := (s.step r.pool move).2.1
          sessions := r.sessions.set index (s.step r.pool move).1 }
        ((s.step r.pool move).2.2.map
          (.session (s.step r.pool move).1.peer (s.step r.pool move).1.target))

theorem step_stepped (r : Relay) (move : Move) :
    Stepped r move (r.step move).1 (r.step move).2 := by
  cases move with
  | arrive arrival => exact .arrives arrival
  | closeListener => exact .closesListener
  | cancel => exact .cancels
  | serve =>
    refine .loops (pollLoop_looped r) fun served => ?_
    simp [Relay.step, pollLoop, served]
  | closer heedsRoot =>
    refine .tends (pollCloser_closed r heedsRoot) ?_
    simp only [Relay.step, pollCloser]
    split
    · exact .inl rfl
    · split
      · rename_i due
        have cancelled : r.cancelled = true := (Bool.and_eq_true_iff.mp due).1
        cases r.listener.closed
        · exact .inr ⟨cancelled, rfl⟩
        · exact .inl rfl
      · split <;> exact .inl rfl
  | session index move =>
    simp only [Relay.step, stepSession]
    cases there : r.sessions[index]? with
    | none => exact .nowhere there
    | some s => exact .moves there

theorem Stepped.target {r r' : Relay} {move : Move} {notes : List Note}
    (stepped : Stepped r move r' notes) : r'.target = r.target := by
  cases stepped with
  | loops looped _ => cases looped <;> rfl
  | tends closed _ => cases closed <;> rfl
  | _ => rfl

theorem Stepped.cancelled {r r' : Relay} {move : Move} {notes : List Note}
    (stepped : Stepped r move r' notes) :
    r'.cancelled = true ↔ r.cancelled = true ∨ move = .cancel := by
  cases stepped with
  | cancels => simp [cancel]
  | loops looped _ => cases looped <;> simp
  | tends closed _ => cases closed <;> simp
  | _ => simp

private theorem sum_map_set {α : Type} (f : α → Nat) {xs : List α} {index : Nat} {x : α}
    (there : xs[index]? = some x) (y : α) :
    ((xs.set index y).map f).sum + f x = (xs.map f).sum + f y := by
  induction xs generalizing index with
  | nil => simp at there
  | cons first rest ih =>
    cases index with
    | zero =>
      obtain rfl : first = x := by simpa using there
      simp only [List.set_cons_zero, List.map_cons, List.sum_cons]
      omega
    | succ index =>
      have later := ih (show rest[index]? = some x by simpa using there)
      simp only [List.set_cons_succ, List.map_cons, List.sum_cons]
      omega

/-- What holds of a relay in every state. -/
structure Consistent (r : Relay) : Prop where
  coherent : ∀ s ∈ r.sessions, s.Coherent
  scope : r.cancelled = true → ∀ s ∈ r.sessions, s.cancelled = true
  served : r.served = true → r.listener.closed = true
  closer : r.closerOver = true → r.listener.closed = true
  borrowed : r.pool.borrowed = (r.sessions.map Session.borrowed).sum
  released : r.pool.released = (r.sessions.map Session.released).sum

def fresh (target : String) (size : Nat) : Relay := { target, pool := .ofBytes size }

theorem consistent_fresh (target : String) (size : Nat) : (fresh target size).Consistent where
  coherent := by simp [fresh]
  scope := by simp [fresh]
  served := by simp [fresh]
  closer := by simp [fresh]
  borrowed := rfl
  released := rfl

private theorem Consistent.looped {r r' : Relay} {notes : List Note} (consistent : r.Consistent)
    (looped : Looped r r' notes) : r'.Consistent := by
  cases looped with
  | rest _ => exact consistent
  | ends _ closed => exact { consistent with served := fun _ => closed }
  | fails _ _ => exact { consistent with }
  | accepts _ _ =>
    refine ⟨?_, ?_, consistent.served, consistent.closer, ?_, ?_⟩
    · intro s member
      rcases List.mem_append.mp member with member | member
      · exact consistent.coherent s member
      · obtain rfl := List.mem_singleton.mp member
        exact Session.coherent_newborn ..
    · intro cancelled s member
      rcases List.mem_append.mp member with member | member
      · exact consistent.scope cancelled s member
      · obtain rfl := List.mem_singleton.mp member
        exact cancelled
    · rw [consistent.borrowed, List.map_append, List.sum_append]
      rfl
    · rw [consistent.released, List.map_append, List.sum_append]
      rfl

private theorem Consistent.closed {r r' : Relay} (consistent : r.Consistent)
    (closed : Closed r r') : r'.Consistent := by
  cases closed with
  | rest _ => exact consistent
  | closes _ => exact { consistent with served := fun _ => rfl, closer := fun _ => rfl }
  | ends served => exact { consistent with closer := fun _ => consistent.served served }

private theorem Consistent.stepSession {r : Relay} (consistent : r.Consistent) (index : Nat)
    (move : Session.Move) : (r.stepSession index move).1.Consistent := by
  cases there : r.sessions[index]? with
  | none =>
    rw [stepSession_none there]
    exact consistent
  | some s =>
    rw [stepSession_some there]
    have member := List.mem_of_getElem? there
    have coherent := consistent.coherent s member
    -- The step moves the pool's counts and the session's by the same amounts, and the counts of the
    -- other sessions not at all.
    have accounted := coherent.step_accounted r.pool move
    have borrowed := sum_map_set Session.borrowed there (s.step r.pool move).1
    have released := sum_map_set Session.released there (s.step r.pool move).1
    refine ⟨?_, ?_, consistent.served, consistent.closer, ?_, ?_⟩
    · intro t member
      rcases List.mem_or_eq_of_mem_set member with member | rfl
      · exact consistent.coherent t member
      · exact coherent.step r.pool move
    · intro cancelled t member'
      rcases List.mem_or_eq_of_mem_set member' with member' | rfl
      · exact consistent.scope cancelled t member'
      · exact (Session.step_stilled (consistent.scope cancelled s member) r.pool move).cancelled
    · have before := consistent.borrowed
      have moved := accounted.borrowed
      simp only
      omega
    · have before := consistent.released
      have moved := accounted.released
      simp only
      omega

/-- Every step keeps a relay consistent. -/
theorem Consistent.step {r : Relay} (consistent : r.Consistent) (move : Move) :
    (r.step move).1.Consistent := by
  cases move with
  | arrive arrival => exact { consistent with }
  | closeListener => exact { consistent with served := fun _ => rfl, closer := fun _ => rfl }
  | cancel =>
    refine ⟨?_, ?_, consistent.served, consistent.closer, ?_, ?_⟩
    · intro t cancelled
      obtain ⟨s, member, rfl⟩ := List.mem_map.mp cancelled
      exact (consistent.coherent s member).alike (Session.Alike.refl s).cancel
    · intro _ t cancelled
      obtain ⟨s, -, rfl⟩ := List.mem_map.mp cancelled
      rfl
    · have same : Session.borrowed ∘ Session.cancel = Session.borrowed := rfl
      simpa [Relay.step, cancel, same] using consistent.borrowed
    · have same : Session.released ∘ Session.cancel = Session.released := rfl
      simpa [Relay.step, cancel, same] using consistent.released
  | serve => exact consistent.looped (pollLoop_looped r)
  | closer heedsRoot => exact consistent.closed (pollCloser_closed r heedsRoot)
  | session index move => exact consistent.stepSession index move

theorem Consistent.run {r : Relay} (consistent : r.Consistent) (moves : List Move) :
    (r.run moves).1.Consistent := by
  induction moves generalizing r with
  | nil => exact consistent
  | cons move moves ih => exact ih (consistent.step move)

theorem run_append (r : Relay) (moves more : List Move) :
    r.run (moves ++ more) =
      (((r.run moves).1.run more).1, (r.run moves).2 ++ ((r.run moves).1.run more).2) := by
  induction moves generalizing r with
  | nil => rfl
  | cons move moves ih =>
    simp only [List.cons_append, Relay.run, ih, List.append_assoc]

end StreamRelay.Relay
