import StreamRelay.Proofs.Relay.Step
import StreamRelay.Proofs.Session.Likeness

/-!
# Sessions among others

A session of a relay does what it would do alone, over a pool of its own, if the same happened to
it. What happens to sessions changes nothing about the accept loop, the closer task and the root
scope.
-/

set_option autoImplicit false
set_option relaxedAutoImplicit false

namespace StreamRelay

namespace Session

theorem step_names (s : Session) (pool : Pool) (move : Move) :
    (s.step pool move).1.peer = s.peer ∧ (s.step pool move).1.target = s.target := by
  cases move with
  | befall side event => cases side <;> exact ⟨rfl, rfl⟩
  | cancel => exact ⟨rfl, rfl⟩
  | poll offer =>
    have progress := poll_progress s offer
    simp only [Session.step]
    generalize (s.poll offer).1 = t at progress ⊢
    generalize (s.poll offer).2 = notes at progress
    cases progress <;> exact ⟨rfl, rfl⟩
  | pump direction =>
    rcases (pollPump_pumped s direction pool).alike with
      ⟨same, -⟩ | ⟨-, -, u, task, alike, -, outcome⟩
    · simp only [Session.step, same, and_self]
    · simp only [Session.step, outcome]
      cases direction <;> exact ⟨alike.peer, alike.target⟩
  | watch =>
    simp only [Session.step, pollWatcher]
    split <;> exact ⟨rfl, rfl⟩

end Session

namespace Relay

/-- What a move is to the session at an index; the end of the root scope ends its scope too. -/
def Move.own (index : Nat) : Move → Option Session.Move
  | .session index' move => if index' = index then some move else none
  | .cancel => some .cancel
  | _ => none

/-- Whether a move is a session's. -/
def Move.isSession : Move → Bool
  | .session _ _ => true
  | _ => false

/-- Whether a move is that of the session at an index. -/
def Move.isOf (index : Nat) : Move → Bool
  | .session index' _ => index' = index
  | _ => false

def Note.isSession : Note → Bool
  | .session _ _ _ => true
  | _ => false

/-- What a run of a relay reports of the session at an index. -/
def told (index : Nat) (r : Relay) : List Move → List Note
  | [] => []
  | move :: moves =>
    (if move.isOf index then (r.step move).2 else []) ++ told index (r.step move).1 moves

private theorem told_append (index : Nat) (r : Relay) (moves more : List Move) :
    r.told index (moves ++ more) = r.told index moves ++ (r.run moves).1.told index more := by
  induction moves generalizing r with
  | nil => rfl
  | cons move moves ih => simp only [List.cons_append, told, ih, run, List.append_assoc]

structure Furnished (size : Nat) (r : Relay) : Prop where
  supplies : r.pool.Supplies size
  equipped : ∀ s ∈ r.sessions, s.Equipped size

theorem furnished_fresh (target : String) (size : Nat) : (fresh target size).Furnished size where
  supplies := Pool.supplies_ofBytes size
  equipped := by simp [fresh]

private theorem Furnished.stepped {size : Nat} {r r' : Relay} {move : Move} {notes : List Note}
    (furnished : r.Furnished size) (stepped : Stepped r move r' notes) : r'.Furnished size := by
  obtain ⟨supplies, equipped⟩ := furnished
  cases stepped with
  | arrives arrival => exact ⟨supplies, equipped⟩
  | closesListener => exact ⟨supplies, equipped⟩
  | cancels =>
    refine ⟨supplies, fun t cancelled => ?_⟩
    obtain ⟨s, member, rfl⟩ := List.mem_map.mp cancelled
    exact (equipped s member).alike (Session.Alike.refl s).cancel
  | loops looped _ =>
    cases looped with
    | accepts _ _ =>
      refine ⟨supplies, fun s member => ?_⟩
      rcases List.mem_append.mp member with member | member
      · exact equipped s member
      · obtain rfl := List.mem_singleton.mp member
        exact Session.equipped_newborn _ _ _ _ _ _
    | _ => exact ⟨supplies, equipped⟩
  | tends closed _ => cases closed <;> exact ⟨supplies, equipped⟩
  | nowhere _ => exact ⟨supplies, equipped⟩
  | @moves index s move there =>
    obtain ⟨equipped', supplies'⟩ := (equipped s (List.mem_of_getElem? there)).step supplies move
    refine ⟨supplies', fun t member => ?_⟩
    rcases List.mem_or_eq_of_mem_set member with member | rfl
    · exact equipped t member
    · exact equipped'

theorem Furnished.run {size : Nat} {r : Relay} (furnished : r.Furnished size)
    (moves : List Move) : (r.run moves).1.Furnished size := by
  induction moves generalizing r with
  | nil => exact furnished
  | cons move moves ih => exact ih (furnished.stepped (r.step_stepped move))

private theorem Stepped.elsewhere {r r' : Relay} {move : Move} {notes : List Note}
    (stepped : Stepped r move r' notes) {index : Nat} {s : Session}
    (there : r.sessions[index]? = some s) (foreign : move.own index = none) :
    r'.sessions[index]? = some s := by
  cases stepped with
  | arrives arrival => exact there
  | closesListener => exact there
  | cancels => cases foreign
  | loops looped _ =>
    cases looped with
    | accepts _ _ =>
      have within : index < r.sessions.length := (List.getElem?_eq_some_iff.mp there).1
      exact (List.getElem?_append_left within).trans there
    | _ => exact there
  | tends closed _ => cases closed <;> exact there
  | nowhere _ => exact there
  | @moves index' _ move _ =>
    have differ : index' ≠ index := by
      rintro rfl
      simp [Move.own] at foreign
    exact (List.getElem?_set_ne differ).trans there

/-- A relay in which one session is like a session that is alone. -/
structure Tracks (size index : Nat) (r : Relay) (t : Session) (pool : Pool) : Prop where
  furnished : r.Furnished size
  supplies : pool.Supplies size
  equipped : t.Equipped size
  there : ∃ s, r.sessions[index]? = some s ∧ t.Like s

private theorem Tracks.step {size index : Nat} {r : Relay} {t : Session} {pool : Pool}
    (tracks : Tracks size index r t pool) (move : Move) :
    let alone := t.run pool (move.own index).toList
    Tracks size index (r.step move).1 alone.1 alone.2.1 ∧
      alone.1.peer = t.peer ∧ alone.1.target = t.target ∧
      (if move.isOf index then (r.step move).2 else []) =
        alone.2.2.map (.session t.peer t.target) := by
  intro alone
  obtain ⟨s, there, like⟩ := tracks.there
  have furnished := tracks.furnished.stepped (r.step_stepped move)
  by_cases mine : ∃ own, move = .session index own
  · obtain ⟨own, rfl⟩ := mine
    have member := List.mem_of_getElem? there
    have within := (List.getElem?_eq_some_iff.mp there).1
    obtain ⟨equipped, supplies⟩ := tracks.equipped.step tracks.supplies own
    obtain ⟨like', notes⟩ := like.step tracks.supplies tracks.furnished.supplies own
    obtain ⟨peer, target⟩ := t.step_names pool own
    have outcome : alone = ((t.step pool own).1, (t.step pool own).2.1, (t.step pool own).2.2) := by
      simp only [alone, Move.own, ↓reduceIte, Option.toList_some, Session.run, List.append_nil]
    rw [outcome]
    refine ⟨⟨furnished, supplies, equipped, (s.step r.pool own).1, ?_, like'⟩, peer, target, ?_⟩
    · simp only [Relay.step]
      rw [stepSession_some there]
      exact List.getElem?_set_self within
    · simp only [Move.isOf, decide_true, ↓reduceIte, Relay.step, stepSession, there, notes,
        like'.peer, like'.target, peer, target]
  · have told_nothing : (if move.isOf index then (r.step move).2 else []) = [] := by
      cases move with
      | session index' own =>
        have differ : index' ≠ index := fun same => mine ⟨own, by rw [same]⟩
        simp [Move.isOf, differ]
      | _ => rfl
    rw [told_nothing]
    by_cases cancels : move = .cancel
    · subst cancels
      have cancelled : (r.cancel).sessions[index]? = some s.cancel := by simp [cancel, there]
      have equipped := tracks.equipped.alike (Session.Alike.refl t).cancel
      exact ⟨⟨furnished, tracks.supplies, equipped, s.cancel, cancelled, like.cancel⟩, rfl, rfl,
        rfl⟩
    · have foreign : move.own index = none := by
        cases move with
        | cancel => exact (cancels rfl).elim
        | session index' own =>
          have differ : index' ≠ index := fun same => mine ⟨own, by rw [same]⟩
          simp [Move.own, differ]
        | _ => rfl
      have outcome : alone = (t, pool, []) := by
        simp only [alone, foreign, Option.toList_none, Session.run]
      rw [outcome]
      exact ⟨⟨furnished, tracks.supplies, tracks.equipped, s,
        (r.step_stepped move).elsewhere there foreign, like⟩,
        rfl, rfl, rfl⟩

/-- A run of a relay is to each of its sessions a run of that session alone. -/
theorem Tracks.run {size index : Nat} {r : Relay} {t : Session} {pool : Pool}
    (tracks : Tracks size index r t pool) (moves : List Move) :
    let alone := t.run pool (moves.filterMap (Move.own index))
    Tracks size index (r.run moves).1 alone.1 alone.2.1 ∧
      r.told index moves = alone.2.2.map (.session t.peer t.target) := by
  induction moves generalizing r t pool with
  | nil => exact ⟨tracks, rfl⟩
  | cons move moves ih =>
    obtain ⟨tracks', peer, target, notes⟩ := tracks.step move
    obtain ⟨tracks'', notes'⟩ := ih tracks'
    have split : (move :: moves).filterMap (Move.own index) =
        (move.own index).toList ++ moves.filterMap (Move.own index) := by
      cases own : move.own index <;> simp [own]
    rw [peer, target] at notes'
    rw [split, Session.run_append]
    exact ⟨tracks'', by rw [told, notes, notes', List.map_append]⟩

/-- A relay that is about to accept a connection for the session at an index. -/
structure Awaits (index : Nat) (connection : Connection) (r : Relay) : Prop where
  unserved : r.served = false
  answer : r.listener.accept.1 = some (.ok connection)
  count : r.sessions.length = index

def greet (r : Relay) (connection : Connection) : Session :=
  .newborn connection.peer r.target r.cancelled connection.link connection.backend

private theorem Stepped.born {r r' : Relay} {move : Move} {notes : List Note}
    (stepped : Stepped r move r' notes) {index : Nat} (nowhere : r.sessions[index]? = none) :
    r'.sessions[index]? = none ∨
      move = .serve ∧ ∃ connection, r.Awaits index connection ∧
        r'.sessions[index]? = some (r.greet connection) := by
  have beyond : r.sessions.length ≤ index := List.getElem?_eq_none_iff.mp nowhere
  cases stepped with
  | arrives arrival => exact .inl nowhere
  | closesListener => exact .inl nowhere
  | cancels => exact .inl (by simp [cancel, beyond])
  | loops looped halted =>
    cases served : r.served with
    | true => exact .inl ((halted served).symm ▸ nowhere)
    | false =>
      cases looped with
      | @accepts connection backlog closed waiting =>
        have answer : r.listener.accept.1 = some (.ok connection) := by
          simp [Listener.accept, closed, waiting]
        rcases Nat.lt_or_eq_of_le beyond with further | here
        · left
          refine List.getElem?_eq_none_iff.mpr ?_
          rw [List.length_append, List.length_singleton]
          exact further
        · refine .inr ⟨rfl, connection, ⟨served, answer, here⟩, ?_⟩
          subst here
          exact List.getElem?_concat_length
      | _ => exact .inl nowhere
  | tends closed _ => cases closed <;> exact .inl nowhere
  | nowhere _ => exact .inl nowhere
  | moves _ => exact .inl (by simpa using beyond)

private theorem told_nowhere {r : Relay} {index : Nat} (nowhere : r.sessions[index]? = none)
    (move : Move) : (if move.isOf index then (r.step move).2 else []) = [] := by
  cases move with
  | session index' own =>
    by_cases same : index' = index
    · subst same
      simp [Relay.step, stepSession, nowhere]
    · simp [Move.isOf, same]
  | _ => rfl

private theorem run_born {r : Relay} {index : Nat} (nowhere : r.sessions[index]? = none)
    {moves : List Move} {s : Session} (there : (r.run moves).1.sessions[index]? = some s) :
    ∃ before after connection, moves = before ++ .serve :: after ∧
      r.told index before = [] ∧ (r.run before).1.Awaits index connection ∧
        ((r.run before).1.step .serve).1.sessions[index]? =
          some ((r.run before).1.greet connection) := by
  induction moves generalizing r with
  | nil => cases nowhere.symm.trans there
  | cons move moves ih =>
    rcases (r.step_stepped move).born nowhere with still | ⟨rfl, connection, awaits, born⟩
    · obtain ⟨before, after, connection, rfl, quiet, awaits, born⟩ := ih still there
      refine ⟨move :: before, after, connection, rfl, ?_, awaits, born⟩
      rw [told, told_nowhere nowhere, quiet, List.append_nil]
    · exact ⟨[], moves, connection, rfl, rfl, awaits, born⟩

theorem run_target (r : Relay) (moves : List Move) : (r.run moves).1.target = r.target := by
  induction moves generalizing r with
  | nil => rfl
  | cons move moves ih =>
    exact (ih (r.step move).1).trans (r.step_stepped move).target

/-- Two relays that differ in no more than their pools and what has become of their sessions. -/
structure SameLoop (r r' : Relay) : Prop where
  listener : r'.listener = r.listener
  cancelled : r'.cancelled = r.cancelled
  served : r'.served = r.served
  closerOver : r'.closerOver = r.closerOver
  count : r'.sessions.length = r.sessions.length

private theorem SameLoop.session {r r' : Relay} (same : SameLoop r r') (index : Nat)
    (move : Session.Move) : SameLoop (r.step (.session index move)).1 r' := by
  simp only [Relay.step]
  cases there : r.sessions[index]? with
  | none => exact (stepSession_none there move).symm ▸ same
  | some s =>
    rw [stepSession_some there]
    exact { same with count := same.count.trans List.length_set.symm }

/-- What the accept loop, the closer task and the root scope do hangs on no session. -/
theorem SameLoop.step {r r' : Relay} (same : SameLoop r r') {move : Move}
    (foreign : move.isSession = false) :
    SameLoop (r.step move).1 (r'.step move).1 ∧ (r'.step move).2 = (r.step move).2 := by
  -- With the fields that the steps read named alike, both relays step by the same branches.
  obtain ⟨target, pool, listener, cancelled, served, closerOver, sessions⟩ := r
  obtain ⟨target', pool', listener', cancelled', served', closerOver', sessions'⟩ := r'
  obtain ⟨rfl, rfl, rfl, rfl, count⟩ := same
  simp only at count
  cases move with
  | arrive arrival => exact ⟨⟨rfl, rfl, rfl, rfl, count⟩, rfl⟩
  | closeListener => exact ⟨⟨rfl, rfl, rfl, rfl, count⟩, rfl⟩
  | cancel => exact ⟨⟨rfl, rfl, rfl, rfl, by simp [Relay.step, cancel, count]⟩, rfl⟩
  | serve =>
    simp only [Relay.step, pollLoop]
    split
    · exact ⟨⟨rfl, rfl, rfl, rfl, count⟩, rfl⟩
    · rcases listener'.accept with ⟨_ | (_ | error) | connection, listener'⟩
      · exact ⟨⟨rfl, rfl, rfl, rfl, count⟩, rfl⟩
      · exact ⟨⟨rfl, rfl, rfl, rfl, count⟩, rfl⟩
      · exact ⟨⟨rfl, rfl, rfl, rfl, count⟩, rfl⟩
      · exact ⟨⟨rfl, rfl, rfl, rfl, by simp [welcome, count]⟩, rfl⟩
  | closer heedsRoot =>
    simp only [Relay.step, pollCloser]
    split
    · exact ⟨⟨rfl, rfl, rfl, rfl, count⟩, rfl⟩
    · split
      · exact ⟨⟨rfl, rfl, rfl, rfl, count⟩, rfl⟩
      · split
        · exact ⟨⟨rfl, rfl, rfl, rfl, count⟩, rfl⟩
        · exact ⟨⟨rfl, rfl, rfl, rfl, count⟩, rfl⟩
  | session index move => cases foreign

private theorem Stepped.reports {r r' : Relay} {move : Move} {notes : List Note}
    (stepped : Stepped r move r' notes) :
    notes.filter (fun note => !note.isSession) = if move.isSession then [] else notes := by
  cases stepped with
  | loops looped _ => cases looped <;> rfl
  | tends _ quiet => rcases quiet with rfl | ⟨-, rfl⟩ <;> rfl
  | moves _ => simp [Note.isSession, Move.isSession]
  | _ => rfl

private theorem SameLoop.run {r r' : Relay} (same : SameLoop r r') (moves : List Move) :
    let loop := r'.run (moves.filter fun move => !move.isSession)
    SameLoop (r.run moves).1 loop.1 ∧
      loop.2 = (r.run moves).2.filter fun note => !note.isSession := by
  induction moves generalizing r r' with
  | nil => exact ⟨same, rfl⟩
  | cons move moves ih =>
    have reports := (r.step_stepped move).reports
    cases kind : move.isSession with
    | true =>
      rw [kind, if_pos rfl] at reports
      have same' : SameLoop (r.step move).1 r' := by
        cases move with
        | session index own => exact same.session index own
        | _ => cases kind
      obtain ⟨loop, notes⟩ := ih same'
      rw [List.filter_cons_of_neg (by simp [kind])]
      refine ⟨loop, ?_⟩
      simp only [Relay.run, List.filter_append, reports, notes, List.nil_append]
    | false =>
      rw [kind, if_neg Bool.false_ne_true] at reports
      obtain ⟨same', now⟩ := same.step kind
      obtain ⟨loop, notes⟩ := ih same'
      rw [List.filter_cons_of_pos (by simp [kind])]
      refine ⟨loop, ?_⟩
      simp only [Relay.run, List.filter_append, reports, notes, now]

private theorem run_cancelled (r : Relay) (moves : List Move) :
    (r.run moves).1.cancelled = true ↔ r.cancelled = true ∨ .cancel ∈ moves := by
  induction moves generalizing r with
  | nil => simp [Relay.run]
  | cons move moves ih =>
    simp only [Relay.run]
    rw [ih, (r.step_stepped move).cancelled, List.mem_cons, eq_comm (a := Move.cancel), or_assoc]

/-- Each session of a run goes on as it does alone over a pool of its own. -/
theorem run_isolates_sessions (target : String) (size : Nat) (moves : List Move) :
    let start := fresh target size
    let r := (start.run moves).1
    let loop := start.run (moves.filter fun move => !move.isSession)
    (∀ index s, r.sessions[index]? = some s →
      ∃ before after connection, moves = before ++ .serve :: after ∧
        let waiting := (start.run before).1
        let alone := (Session.newborn connection.peer target waiting.cancelled connection.link
          connection.backend).run (.ofBytes size) (after.filterMap (Move.own index))
        waiting.Awaits index connection ∧
          (∀ side, s.link side = alone.1.link side) ∧ s.state = alone.1.state ∧
          s.cancelled = alone.1.cancelled ∧ s.report = alone.1.report ∧
          start.told index moves = alone.2.2.map (.session connection.peer target)) ∧
      SameLoop r loop.1 ∧ (loop.2 = (start.run moves).2.filter fun note => !note.isSession) ∧
      (r.cancelled = true ↔ .cancel ∈ moves) := by
  intro start r loop
  have furnished : start.Furnished size := furnished_fresh target size
  obtain ⟨same, reports⟩ := SameLoop.run (r := start) ⟨rfl, rfl, rfl, rfl, rfl⟩ moves
  refine ⟨?_, same, reports, ?_⟩
  · intro index s there
    obtain ⟨before, after, connection, rfl, quiet, awaits, born⟩ := run_born (r := start) rfl there
    refine ⟨before, after, connection, rfl, awaits, ?_⟩
    -- From the step that begins it, the session in the relay is like the one alone.
    have named : (start.run before).1.target = target := run_target start before
    rw [greet, named] at born
    have tracks : Tracks size index ((start.run before).1.step .serve).1
        (Session.newborn connection.peer target (start.run before).1.cancelled connection.link
          connection.backend) (.ofBytes size) :=
      ⟨(furnished.run before).stepped (step_stepped _ _), Pool.supplies_ofBytes size,
        Session.equipped_newborn _ _ _ _ _ _, _, born, .refl _⟩
    obtain ⟨⟨-, -, -, s', there', like⟩, notes⟩ := tracks.run after
    have same : r = (((start.run before).1.step .serve).1.run after).1 := by
      simp only [r, run_append]
      rfl
    obtain rfl : s' = s := Option.some.inj (there'.symm.trans (same ▸ there))
    refine ⟨like.link, like.state, like.cancelled, like.report, ?_⟩
    rw [told_append, quiet, List.nil_append, told]
    exact notes
  · have live : start.cancelled = false := rfl
    simpa only [live, Bool.false_eq_true, false_or] using start.run_cancelled moves

/-- Of two clients, one finds no backend while the other one is relayed, sends a byte and leaves. -/
def neighbours : List Move :=
  [.arrive (.connection ⟨"one", { control := true }, { control := true }⟩), .serve,
    .arrive (.connection ⟨"two", { control := true }, { control := true }⟩), .serve,
    .session 1 (.poll ⟨some (.ok ()), some (.ok ())⟩), .session 1 (.pump .up),
    .session 0 (.poll ⟨some (.ok ()), some (.error (.system 111))⟩), .session 1 (.pump .down),
    .session 1 (.befall .client (.send [7])), .session 1 (.befall .client .finish),
    .session 1 (.befall .client (.arrive 1)), .session 1 (.befall .client .arriveEnd),
    .session 1 (.befall .backend (.makeRoom 8)), .session 1 (.pump .up), .session 1 .watch,
    .session 1 (.pump .down), .session 1 (.poll ⟨none, none⟩)]

theorem run_isolates_sessions_neighbours :
    let r := ((fresh "backend" 8).run neighbours).1
    r.cancelled = false ∧ r.served = false ∧
      ∃ s, r.sessions[1]? = some s ∧ s.backend.delivered = [7] ∧
        s.report = some ⟨.closed, true, 1, 0⟩ ∧
        ∃ (waiting : Relay) (connection : Connection) (after : List Session.Move),
          waiting.Awaits 1 connection ∧
            s.report = ((Session.newborn connection.peer "backend" waiting.cancelled
              connection.link connection.backend).run (.ofBytes 8) after).1.report := by
  intro r
  obtain ⟨sessions, same, -, cancelled⟩ := run_isolates_sessions "backend" 8 neighbours
  have there : ∃ s, r.sessions[1]? = some s ∧ s.backend.delivered = [7] ∧
      s.report = some ⟨.closed, true, 1, 0⟩ := ⟨_, rfl, by decide, by decide⟩
  obtain ⟨s, there, delivered, report⟩ := there
  obtain ⟨before, after, connection, -, awaits, -, -, -, reported, -⟩ := sessions 1 s there
  refine ⟨?_, same.served.symm.trans (by decide), s, there, delivered, report, _, connection, _,
    awaits, reported⟩
  exact Bool.eq_false_iff.mpr fun cancels => by simpa [neighbours] using cancelled.mp cancels

end Relay

end StreamRelay
