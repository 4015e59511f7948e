import StreamRelay.Proofs.Relay.Step

/-!
# The end of a relay

Once the root scope of a relay is cancelled, its sessions begin nothing and move no byte, and one
of its tasks can go on until all of them are over.
-/

set_option autoImplicit false
set_option relaxedAutoImplicit false

namespace StreamRelay

/-- A poll of one of a session's tasks, while nothing outside the session answers. -/
def Session.Move.IsUnaided : Session.Move → Prop
  | .poll offer => offer.establish = none ∧ offer.dial = none
  | .pump _ => True
  | .watch => True
  | _ => False

structure Session.Unbegun (s : Session) : Prop where
  unmanned : s.Unmanned
  dialBegun : s.dialBegun = false
  stage : s.state ≠ .relaying

private theorem Session.Stilled.unbegun {s t : Session} (stilled : s.Stilled t)
    (unbegun : s.Unbegun) : t.Unbegun :=
  ⟨stilled.unmanned unbegun.unmanned, stilled.dialBegun.trans unbegun.dialBegun,
    fun relaying => unbegun.stage (stilled.relaying relaying)⟩

namespace Session

private theorem Coherent.released_eq {s : Session} (coherent : s.Coherent)
    (closed : s.state = .closed) : s.released = s.borrowed := by
  have settled (direction : Direction) :
      (s.task direction).released = (s.task direction).borrowed := by
    rcases coherent.task_closed closed direction with absent | halted
    · rw [absent]
      rfl
    · exact Task.released_eq halted
  have up := settled .up
  have down := settled .down
  simp only [task] at up down
  rw [Session.released, Session.borrowed, up, down]

private theorem Coherent.step_closed {s : Session} (coherent : s.Coherent)
    (closed : s.state = .closed) (pool : Pool) {move : Move} (unaided : move.IsUnaided) :
    (s.step pool move).1 = s ∧ (s.step pool move).2.1 = pool := by
  cases move with
  | poll offer => simp [Session.step, poll, closed]
  | pump direction =>
    rcases coherent.task_closed closed direction with absent | halted
    · simp [Session.step, pollPump, absent]
    · cases task : s.task direction <;> simp_all [Session.step, pollPump, Task.isOver]
  | watch =>
    have idle : s.pollWatcher = s := by
      cases coherent with
      | unrelayed _ unmanned _ _ => simp [pollWatcher, unmanned.up]
      | relayed _ deserted _ _ => simp [pollWatcher, deserted.watched]
      | _ => simp_all
    simp [Session.step, idle]
  | befall side event => exact unaided.elim
  | cancel => exact unaided.elim

end Session

namespace Relay

def Move.IsUnaided : Move → Prop
  | .serve => True
  | .closer _ => True
  | .session _ move => move.IsUnaided
  | _ => False

/-- A relay of which no task can go on by itself. -/
def IsStuck (r : Relay) : Prop := ∀ move, Move.IsUnaided move → (r.step move).1 = r

/-- The sessions that a cancelled relay had are stilled, and later ones have begun nothing. -/
structure Silenced (r r' : Relay) : Prop where
  cancelled : r'.cancelled = true
  stilled : ∀ {index : Nat} {s : Session}, r.sessions[index]? = some s →
    ∃ t, r'.sessions[index]? = some t ∧ s.Stilled t
  unbegun : ∀ {index : Nat} {t : Session}, r.sessions[index]? = none →
    r'.sessions[index]? = some t → t.Unbegun

private theorem Consistent.scope_of_getElem? {r : Relay} (consistent : r.Consistent)
    (cancelled : r.cancelled = true) {index : Nat} {s : Session}
    (there : r.sessions[index]? = some s) : s.cancelled = true :=
  consistent.scope cancelled s (List.mem_of_getElem? there)

private theorem Consistent.silenced {r r' : Relay} (consistent : r.Consistent)
    (cancelled : r.cancelled = true) (cancelled' : r'.cancelled = true)
    (sessions : r'.sessions = r.sessions) : Silenced r r' where
  cancelled := cancelled'
  stilled := by
    intro index s there
    refine ⟨s, by rw [sessions, there], .refl (consistent.scope_of_getElem? cancelled there)⟩
  unbegun := by
    intro index t nowhere there
    rw [sessions, nowhere] at there
    cases there

private theorem Silenced.trans {a b c : Relay} (first : Silenced a b) (second : Silenced b c) :
    Silenced a c where
  cancelled := second.cancelled
  stilled := by
    intro index s there
    obtain ⟨t, there', stilled⟩ := first.stilled there
    obtain ⟨u, there'', stilled'⟩ := second.stilled there'
    exact ⟨u, there'', stilled.trans stilled'⟩
  unbegun := by
    intro index u nowhere there
    -- A session that came later came before the middle state or after it.
    cases between : b.sessions[index]? with
    | none => exact second.unbegun between there
    | some t =>
      obtain ⟨u', there', stilled⟩ := second.stilled between
      obtain rfl := Option.some.inj (there.symm.trans there')
      exact stilled.unbegun (first.unbegun nowhere between)

private theorem Looped.silenced {r r' : Relay} {notes : List Note} (looped : Looped r r' notes)
    (consistent : r.Consistent) (cancelled : r.cancelled = true) : Silenced r r' := by
  cases looped with
  | rest _ => exact consistent.silenced cancelled cancelled rfl
  | ends _ _ => exact consistent.silenced cancelled cancelled rfl
  | fails _ _ => exact consistent.silenced cancelled cancelled rfl
  | accepts _ _ =>
    refine ⟨cancelled, ?_, ?_⟩
    · intro index s there
      have within : index < r.sessions.length := (List.getElem?_eq_some_iff.mp there).1
      exact ⟨s, by rw [List.getElem?_append_left within, there],
        .refl (consistent.scope_of_getElem? cancelled there)⟩
    · intro index t nowhere there
      have beyond := List.getElem?_eq_none_iff.mp nowhere
      rw [List.getElem?_append_right beyond] at there
      obtain rfl := List.mem_singleton.mp (List.mem_of_getElem? there)
      exact ⟨⟨rfl, rfl, rfl⟩, rfl, by simp [Session.newborn]⟩

private theorem Closed.frame {r r' : Relay} (closed : Closed r r') :
    r'.cancelled = r.cancelled ∧ r'.sessions = r.sessions := by
  cases closed <;> exact ⟨rfl, rfl⟩

private theorem Consistent.stepSession_silenced {r : Relay} (consistent : r.Consistent)
    (cancelled : r.cancelled = true) (index : Nat) (move : Session.Move) :
    Silenced r (r.stepSession index move).1 := by
  cases there : r.sessions[index]? with
  | none =>
    rw [stepSession_none there]
    exact consistent.silenced cancelled cancelled rfl
  | some s =>
    rw [stepSession_some there]
    have within : index < r.sessions.length := (List.getElem?_eq_some_iff.mp there).1
    refine ⟨cancelled, ?_, ?_⟩
    · intro index' s' there'
      by_cases same : index = index'
      · subst same
        obtain rfl := Option.some.inj (there.symm.trans there')
        exact ⟨_, List.getElem?_set_self within,
          Session.step_stilled (consistent.scope_of_getElem? cancelled there) r.pool move⟩
      · exact ⟨s', by rw [List.getElem?_set_ne same, there'],
          .refl (consistent.scope_of_getElem? cancelled there')⟩
    · intro index' t nowhere there'
      have differ : index ≠ index' := by
        rintro rfl
        cases there.symm.trans nowhere
      rw [List.getElem?_set_ne differ, nowhere] at there'
      cases there'

private theorem Consistent.step_silenced {r : Relay} (consistent : r.Consistent)
    (cancelled : r.cancelled = true) (move : Move) : Silenced r (r.step move).1 := by
  cases move with
  | arrive arrival => exact consistent.silenced cancelled cancelled rfl
  | closeListener => exact consistent.silenced cancelled cancelled rfl
  | cancel =>
    refine ⟨rfl, ?_, ?_⟩
    · intro index s there
      have scope := consistent.scope_of_getElem? cancelled there
      refine ⟨s.cancel, by simp [Relay.step, cancel, there], ?_⟩
      refine (Session.Alike.refl s).cancel.stilled scope ?_
      intro side
      rw [Session.link_cancel]
      exact ⟨rfl, rfl⟩
    · intro index t nowhere there
      simp [Relay.step, cancel, nowhere] at there
  | serve => exact (pollLoop_looped r).silenced consistent cancelled
  | closer heedsRoot =>
    obtain ⟨same, sessions⟩ := (pollCloser_closed r heedsRoot).frame
    exact consistent.silenced cancelled (same.trans cancelled) sessions
  | session index move => exact consistent.stepSession_silenced cancelled index move

private theorem Consistent.run_silenced {r : Relay} (consistent : r.Consistent)
    (cancelled : r.cancelled = true) (moves : List Move) : Silenced r (r.run moves).1 := by
  induction moves generalizing r with
  | nil => exact consistent.silenced cancelled cancelled rfl
  | cons move moves ih =>
    have first := consistent.step_silenced cancelled move
    exact first.trans (ih (consistent.step move) first.cancelled)

private theorem step_served (r : Relay) (move : Move) :
    (r.step move).1.served = true ↔
      r.served = true ∨ Note.listenerClosed ∈ (r.step move).2 := by
  cases move with
  | arrive arrival => simp [Relay.step]
  | closeListener => simp [Relay.step]
  | cancel => simp [Relay.step, cancel]
  | serve =>
    have looped := pollLoop_looped r
    simp only [Relay.step]
    generalize r.pollLoop = outcome at looped
    obtain ⟨r', notes⟩ := outcome
    cases looped <;> simp
  | closer heedsRoot =>
    simp only [Relay.step, pollCloser]
    split
    · simp
    · split
      · cases r.listener.closed <;> simp
      · split <;> simp_all
  | session index move =>
    simp only [Relay.step, stepSession]
    split <;> simp

private theorem run_served (r : Relay) (moves : List Move) :
    (r.run moves).1.served = true ↔
      r.served = true ∨ Note.listenerClosed ∈ (r.run moves).2 := by
  induction moves generalizing r with
  | nil => simp [Relay.run]
  | cons move moves ih =>
    simp only [Relay.run, List.mem_append]
    rw [ih, step_served, or_assoc]

private theorem IsStuck.listener {r : Relay} (stuck : r.IsStuck) (consistent : r.Consistent)
    (cancelled : r.cancelled = true) :
    r.closerOver = true ∧ r.listener.closed = true ∧ r.served = true := by
  have halted : r.closerOver = true := by
    cases halted : r.closerOver with
    | true => rfl
    | false =>
      have after : (r.pollCloser true).1.closerOver = true := by
        simp [pollCloser, halted, cancelled]
      have same : (r.pollCloser true).1 = r := stuck (.closer true) trivial
      rwa [same, halted] at after
  have closed := consistent.closer halted
  refine ⟨halted, closed, ?_⟩
  cases served : r.served with
  | true => rfl
  | false =>
    have after : r.pollLoop.1.served = true := by
      simp [pollLoop, served, Listener.accept, closed, welcome]
    have same : r.pollLoop.1 = r := stuck .serve trivial
    rwa [same, served] at after

private theorem IsStuck.session {r : Relay} (stuck : r.IsStuck) {index : Nat} {s : Session}
    (there : r.sessions[index]? = some s) (move : Session.Move) (unaided : move.IsUnaided) :
    (s.step r.pool move).1 = s := by
  have within := (List.getElem?_eq_some_iff.mp there).1
  have same : (r.stepSession index move).1 = r := stuck (.session index move) unaided
  rw [stepSession_some there] at same
  have sessions : r.sessions.set index (s.step r.pool move).1 = r.sessions :=
    congrArg Relay.sessions same
  have entry := List.getElem?_set_self (a := (s.step r.pool move).1) within
  rw [sessions, there] at entry
  exact (Option.some.inj entry).symm

private theorem IsStuck.isOver {r : Relay} (stuck : r.IsStuck) (consistent : r.Consistent)
    (cancelled : r.cancelled = true) : r.isOver = true := by
  obtain ⟨halted, -, served⟩ := stuck.listener consistent cancelled
  have sessions : ∀ s ∈ r.sessions, s.state = .closed := by
    intro s member
    obtain ⟨index, there⟩ := List.mem_iff_getElem?.mp member
    refine (consistent.coherent s member).closed_of_stuck
      (consistent.scope cancelled s member) ?_ ?_ ?_
    · exact stuck.session there (.poll ⟨none, none⟩) ⟨rfl, rfl⟩
    · exact fun direction => ⟨r.pool, stuck.session there (.pump direction) trivial⟩
    · exact stuck.session there .watch trivial
  simp only [Relay.isOver, served, halted, Bool.true_and, List.all_eq_true, decide_eq_true_eq]
  exact sessions

private theorem Consistent.isStuck {r : Relay} (consistent : r.Consistent)
    (halted : r.isOver = true) : r.IsStuck := by
  obtain ⟨⟨served, closer⟩, sessions⟩ :
      (r.served = true ∧ r.closerOver = true) ∧ ∀ s ∈ r.sessions, s.state = .closed := by
    simpa [Relay.isOver] using halted
  intro move unaided
  cases move with
  | serve => simp [Relay.step, pollLoop, served]
  | closer heedsRoot => simp [Relay.step, pollCloser, closer]
  | session index move =>
    have unaided : move.IsUnaided := unaided
    cases there : r.sessions[index]? with
    | none => exact stepSession_none there move
    | some s =>
      obtain ⟨within, entry⟩ := List.getElem?_eq_some_iff.mp there
      have member := List.mem_of_getElem? there
      obtain ⟨same, pool⟩ :=
        (consistent.coherent s member).step_closed (sessions s member) r.pool unaided
      have outcome := stepSession_some there move
      rw [same, pool, ← entry, List.set_getElem_self] at outcome
      exact outcome
  | arrive arrival => exact unaided.elim
  | closeListener => exact unaided.elim
  | cancel => exact unaided.elim

theorem Consistent.inUse {r : Relay} (consistent : r.Consistent)
    (sessions : ∀ s ∈ r.sessions, s.state = .closed) : r.pool.stats.inUse = 0 := by
  have same : r.sessions.map Session.released = r.sessions.map Session.borrowed :=
    List.map_congr_left fun s member =>
      (consistent.coherent s member).released_eq (sessions s member)
  have borrowed : r.pool.borrowed = r.pool.released := by
    rw [consistent.borrowed, consistent.released, same]
  simp [PoolStats.inUse, Pool.stats, borrowed]

/-- Once the root scope has ended no byte moves, and a relay that is stuck is over. -/
theorem run_cancelled_reaches_all (target : String) (size : Nat) (before after : List Move)
    (cancelled : ((fresh target size).run before).1.cancelled = true) :
    let r := ((fresh target size).run before).1
    let r' := ((fresh target size).run (before ++ after)).1
    (∀ (index : Nat) (s : Session), r.sessions[index]? = some s →
        ∃ t : Session, r'.sessions[index]? = some t ∧ t.dialBegun = s.dialBegun ∧
          (t.state = .relaying → s.state = .relaying) ∧
          ∀ side, (t.link side).taken = (s.link side).taken ∧
            (t.link side).delivered = (s.link side).delivered) ∧
      (∀ (index : Nat) (t : Session), r.sessions[index]? = none → r'.sessions[index]? = some t →
        t.dialBegun = false ∧ t.state ≠ .relaying ∧ t.up = .absent ∧ t.down = .absent) ∧
      (r'.served = true ↔
        Note.listenerClosed ∈ ((fresh target size).run (before ++ after)).2) ∧
      (r'.served = true → r'.listener.closed = true) ∧
      (r'.IsStuck ↔ r'.isOver = true) ∧
      (r'.IsStuck →
        r'.listener.closed = true ∧ r'.served = true ∧ r'.closerOver = true ∧
          (∀ s ∈ r'.sessions, s.state = .closed ∧
            ∀ direction, s.task direction = .absent ∨ (s.task direction).isOver = true) ∧
          r'.pool.stats.inUse = 0) := by
  intro r r'
  have consistent : r.Consistent := (consistent_fresh target size).run before
  have consistent' : r'.Consistent := (consistent_fresh target size).run (before ++ after)
  have later : r' = (r.run after).1 := by
    simp only [r', run_append]
    rfl
  have silenced : Silenced r r' := later ▸ consistent.run_silenced cancelled after
  refine ⟨?_, ?_, ?_, consistent'.served, ?_, ?_⟩
  · intro index s there
    obtain ⟨t, there', stilled⟩ := silenced.stilled there
    exact ⟨t, there', stilled.dialBegun, stilled.relaying,
      fun side => ⟨stilled.taken side, stilled.delivered side⟩⟩
  · intro index t nowhere there
    have unbegun := silenced.unbegun nowhere there
    exact ⟨unbegun.dialBegun, unbegun.stage, unbegun.unmanned.up, unbegun.unmanned.down⟩
  · have served := run_served (fresh target size) (before ++ after)
    have unserved : (fresh target size).served = false := rfl
    rw [unserved] at served
    simpa only [Bool.false_eq_true, false_or] using served
  · exact ⟨fun stuck => stuck.isOver consistent' silenced.cancelled, consistent'.isStuck⟩
  · intro stuck
    obtain ⟨closer, closed, served⟩ := stuck.listener consistent' silenced.cancelled
    have halted := stuck.isOver consistent' silenced.cancelled
    have sessions : ∀ s ∈ r'.sessions, s.state = .closed := by
      simp only [Relay.isOver, Bool.and_eq_true, List.all_eq_true, decide_eq_true_eq] at halted
      exact halted.2
    refine ⟨closed, served, closer, ?_, consistent'.inUse sessions⟩
    intro s member
    have state := sessions s member
    exact ⟨state, (consistent'.coherent s member).task_closed state⟩

/-- A session has a byte to read and a connection waits when the root scope is cancelled. -/
def struck : List Move :=
  [.arrive (.connection ⟨"one", { control := true }, { control := true }⟩), .serve,
    .session 0 (.poll ⟨some (.ok ()), some (.ok ())⟩), .session 0 (.pump .up),
    .session 0 (.pump .down), .session 0 (.befall .client (.send [1])),
    .session 0 (.befall .client (.arrive 1)), .session 0 (.befall .backend (.makeRoom 8)),
    .arrive (.connection ⟨"two", { control := true }, { control := true }⟩), .cancel]

def windingUp : List Move :=
  [.serve, .session 1 (.poll ⟨some (.ok ()), some (.ok ())⟩), .session 0 (.pump .down),
    .session 0 .watch, .session 0 (.poll ⟨none, none⟩), .closer true, .session 0 (.pump .up),
    .serve, .session 0 (.poll ⟨none, none⟩)]

theorem run_cancelled_reaches_all_struck :
    let r := ((fresh "backend" 8).run struck).1
    let r' := ((fresh "backend" 8).run (struck ++ windingUp)).1
    r.cancelled = true ∧ r.pool.stats.inUse = 2 ∧ r'.sessions.length = 2 ∧ r'.IsStuck ∧
      r'.pool.stats.inUse = 0 := by
  intro r r'
  have cancelled : r.cancelled = true := by decide
  obtain ⟨-, -, -, -, stuck_iff, stuck⟩ :=
    run_cancelled_reaches_all "backend" 8 struck windingUp cancelled
  have halted : r'.isOver = true := by decide
  have rests := stuck_iff.mpr halted
  obtain ⟨-, -, -, -, inUse⟩ := stuck rests
  exact ⟨cancelled, by decide, by decide, rests, inUse⟩

end Relay

end StreamRelay
