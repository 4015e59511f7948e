import Mathlib.Data.List.Forall2
import Mathlib.Logic.Relation
import StreamRelay.Proofs.Relay.Step

/-!
# The accept loop

The accept loop takes what its listener answers, whatever listener that is: it begins a session for
each connection, goes on after each failure, and is over with the first answer that the listener is
closed. It cancels nothing, and as long as nobody else does, the closer task leaves the listener
alone and sessions end by themselves only.
-/

set_option autoImplicit false
set_option relaxedAutoImplicit false

namespace StreamRelay

namespace Session

/-- What a session can come to by steps, over whatever pools. -/
def Becomes : Session → Session → Prop :=
  Relation.ReflTransGen fun s t => ∃ pool move, (s.step pool move).1 = t

end Session

namespace Relay

abbrev Acceptance : Type := Except AcceptError Connection

def Acceptance.note : Acceptance → Note
  | .ok connection => .accepting connection.peer
  | .error .closed => .listenerClosed
  | .error (.failed error) => .acceptFailed error

/-- The outcomes up to the first one that says that the listener is closed. -/
def throughClosed : List Acceptance → List Acceptance
  | [] => []
  | .error .closed :: _ => [.error .closed]
  | outcome :: outcomes => outcome :: throughClosed outcomes

def connections (outcomes : List Acceptance) : List Connection := outcomes.filterMap Except.toOption

def Note.isLoop : Note → Bool
  | .accepting _ => true
  | .acceptFailed _ => true
  | .listenerClosed => true
  | _ => false

/-- A step of a relay, and the listener that the step finds. -/
structure Occasion where
  listener : Listener
  move : Move

/-- What the accept loop is answered on an occasion, if it calls then. -/
def Occasion.outcome? (occasion : Occasion) : Option Acceptance :=
  match occasion.move with
  | .serve => occasion.listener.accept.1
  | _ => none

/-- A run of a relay over a listener that may be in any state by each of its steps. -/
def attend (r : Relay) : List Occasion → Relay × List Note
  | [] => (r, [])
  | occasion :: occasions =>
    let (r, notes) := { r with listener := occasion.listener }.step occasion.move
    let (r, more) := r.attend occasions
    (r, notes ++ more)

/-- Every run of a relay over its own listener is such a run. -/
theorem exists_attend_eq_run (r : Relay) (moves : List Move) :
    ∃ occasions : List Occasion, occasions.map Occasion.move = moves ∧
      r.attend occasions = r.run moves := by
  induction moves generalizing r with
  | nil => exact ⟨[], rfl, rfl⟩
  | cons move moves ih =>
    obtain ⟨occasions, same, attended⟩ := ih (r.step move).1
    exact ⟨⟨r.listener, move⟩ :: occasions, by rw [List.map_cons, same],
      by simp only [attend, run, attended]⟩

/-- A session for a connection: it began with the connection's peer and links. -/
def Serves (target : String) (connection : Connection) (s : Session) : Prop :=
  ∃ cancelled, (Session.newborn connection.peer target cancelled connection.link
    connection.backend).Becomes s

private theorem Serves.step {target : String} {connection : Connection} {s : Session}
    (serves : Serves target connection s) (pool : Pool) (move : Session.Move) :
    Serves target connection (s.step pool move).1 := by
  obtain ⟨cancelled, becomes⟩ := serves
  exact ⟨cancelled, becomes.tail ⟨pool, move, rfl⟩⟩

private theorem forall₂_set {α β : Type} {R : α → β → Prop} {xs : List α} {ys : List β}
    {index : Nat} {y y' : β} (related : List.Forall₂ R xs ys) (there : ys[index]? = some y)
    (better : ∀ x, R x y → R x y') : List.Forall₂ R xs (ys.set index y') := by
  induction related generalizing index with
  | nil => exact .nil
  | cons first rest ih =>
    cases index with
    | zero =>
      obtain rfl := Option.some.inj there
      exact .cons (better _ first) rest
    | succ index => exact .cons first (ih there)

/-- A relay after its accept loop took some outcomes, compared with what it was. -/
structure Took (r : Relay) (outcomes : List Acceptance) (r' : Relay) (notes : List Note) :
    Prop where
  target : r'.target = r.target
  served : r'.served = true ↔ r.served = true ∨ .error .closed ∈ outcomes
  notes : notes.filter Note.isLoop = outcomes.map Acceptance.note
  sessions : ∀ earlier, List.Forall₂ (Serves r.target) earlier r.sessions →
    List.Forall₂ (Serves r.target) (earlier ++ connections outcomes) r'.sessions

private theorem Took.trans {r r' r'' : Relay} {outcomes outcomes' : List Acceptance}
    {notes notes' : List Note} (first : Took r outcomes r' notes)
    (second : Took r' outcomes' r'' notes') :
    Took r (outcomes ++ outcomes') r'' (notes ++ notes') where
  target := second.target.trans first.target
  served := by rw [second.served, first.served, List.mem_append, or_assoc]
  notes := by rw [List.filter_append, first.notes, second.notes, List.map_append]
  sessions := by
    intro earlier begun
    have later := second.sessions _ (first.target.symm ▸ first.sessions earlier begun)
    rw [connections, List.filterMap_append, ← List.append_assoc]
    exact first.target ▸ later

private theorem took_nothing {r r' : Relay} {notes : List Note} (target : r'.target = r.target)
    (served : r'.served = r.served) (silent : notes.filter Note.isLoop = [])
    (sessions : ∀ earlier, List.Forall₂ (Serves r.target) earlier r.sessions →
      List.Forall₂ (Serves r.target) earlier r'.sessions) : Took r [] r' notes where
  target := target
  served := by simp [served]
  notes := silent
  sessions := by
    intro earlier begun
    rw [connections, List.filterMap_nil, List.append_nil]
    exact sessions earlier begun

private theorem welcome_took (r : Relay) (outcome : Acceptance) :
    Took r [outcome] (r.welcome outcome).1 (r.welcome outcome).2 := by
  rcases outcome with (_ | error) | connection
  · refine ⟨rfl, by simp [welcome], rfl, ?_⟩
    intro earlier begun
    exact (List.append_nil earlier).symm ▸ begun
  · refine ⟨rfl, by simp [welcome], rfl, ?_⟩
    intro earlier begun
    exact (List.append_nil earlier).symm ▸ begun
  · refine ⟨rfl, by simp [welcome], rfl, ?_⟩
    intro earlier begun
    exact List.rel_append begun (.cons ⟨r.cancelled, .refl⟩ .nil)

private theorem serve_took (r : Relay) :
    Took r (if r.served then [] else r.listener.accept.1.toList) r.pollLoop.1 r.pollLoop.2 := by
  cases served : r.served with
  | true =>
    have outcome : r.pollLoop = (r, []) := by simp [pollLoop, served]
    rw [outcome]
    exact took_nothing rfl rfl rfl fun _ => id
  | false =>
    rcases answer : r.listener.accept with ⟨_ | outcome, listener⟩
    · have quiet : r.pollLoop = (r, []) := by simp [pollLoop, served, answer]
      rw [quiet]
      exact took_nothing rfl rfl rfl fun _ => id
    · have taken : r.pollLoop = { r with listener }.welcome outcome := by
        simp [pollLoop, served, answer]
      rw [taken]
      exact { welcome_took { r with listener } outcome with }

private theorem Stepped.took {r r' : Relay} {move : Move} {notes : List Note}
    (stepped : Stepped r move r' notes) (other : move ≠ .serve) : Took r [] r' notes := by
  cases stepped with
  | arrives arrival => exact took_nothing rfl rfl rfl fun _ => id
  | closesListener => exact took_nothing rfl rfl rfl fun _ => id
  | cancels =>
    refine took_nothing rfl rfl rfl fun earlier begun => ?_
    refine List.forall₂_map_right_iff.mpr (begun.imp fun connection s serves => ?_)
    exact serves.step r.pool .cancel
  | loops _ _ => exact (other rfl).elim
  | tends closed quiet =>
    have silent : notes.filter Note.isLoop = [] := by
      rcases quiet with rfl | ⟨-, rfl⟩ <;> rfl
    cases closed <;> exact took_nothing rfl rfl silent fun _ => id
  | nowhere _ => exact took_nothing rfl rfl rfl fun _ => id
  | @moves index s move there =>
    refine took_nothing rfl rfl (by simp [Note.isLoop]) fun earlier begun => ?_
    exact forall₂_set begun there fun connection serves => serves.step r.pool move

def taken (r : Relay) (occasion : Occasion) : List Acceptance :=
  if r.served then [] else occasion.outcome?.toList

private theorem step_took (r : Relay) (occasion : Occasion) :
    Took r (r.taken occasion) ({ r with listener := occasion.listener }.step occasion.move).1
      ({ r with listener := occasion.listener }.step occasion.move).2 := by
  obtain ⟨listener, move⟩ := occasion
  cases move with
  | serve => exact { serve_took { r with listener } with }
  | _ =>
    simp only [taken, Occasion.outcome?, Option.toList_none, ite_self]
    exact { (step_stepped { r with listener } _).took (by simp) with }

private theorem attend_took (r : Relay) (occasions : List Occasion) :
    Took r (if r.served then [] else throughClosed (occasions.filterMap Occasion.outcome?))
      (r.attend occasions).1 (r.attend occasions).2 := by
  induction occasions generalizing r with
  | nil =>
    have none : (if r.served then [] else throughClosed []) = ([] : List Acceptance) := by
      split <;> rfl
    rw [List.filterMap_nil, none]
    exact took_nothing rfl rfl rfl fun _ => id
  | cons occasion occasions ih =>
    have first := r.step_took occasion
    have whole := first.trans (ih ({ r with listener := occasion.listener }.step occasion.move).1)
    have after := first.served
    -- What the first step takes and what the later ones take is what is taken in all: either the
    -- first one ends the loop, and the later ones take nothing, or it does not.
    suffices same : (if r.served then []
          else throughClosed ((occasion :: occasions).filterMap Occasion.outcome?)) =
        r.taken occasion ++
          (if ({ r with listener := occasion.listener }.step occasion.move).1.served then []
            else throughClosed (occasions.filterMap Occasion.outcome?)) from same ▸ whole
    generalize ({ r with listener := occasion.listener }.step occasion.move).1.served = served'
      at after ⊢
    cases served : r.served with
    | true =>
      obtain rfl : served' = true := after.mpr (.inl served)
      simp [taken, served]
    | false =>
      cases answer : occasion.outcome? with
      | none =>
        have goes_on : served' = false := by simpa [taken, served, answer] using after
        simp [taken, served, answer, goes_on]
      | some outcome =>
        have ends : served' = true ↔ .error .closed = outcome := by
          simpa [taken, served, answer] using after
        rcases outcome with (_ | error) | connection
        · simp [taken, served, answer, ends.mpr rfl, throughClosed]
        · have goes_on : served' = false := by simpa using ends
          simp [taken, served, answer, goes_on, throughClosed]
        · have goes_on : served' = false := by simpa using ends
          simp [taken, served, answer, goes_on, throughClosed]

private theorem closed_mem_throughClosed (outcomes : List Acceptance) :
    .error .closed ∈ throughClosed outcomes ↔ .error .closed ∈ outcomes := by
  induction outcomes with
  | nil => exact Iff.rfl
  | cons outcome outcomes ih =>
    rcases outcome with (_ | error) | connection <;> simp [throughClosed, ih]

private theorem attend_cancelled (r : Relay) (occasions : List Occasion) :
    (r.attend occasions).1.cancelled = true ↔
      r.cancelled = true ∨ .cancel ∈ occasions.map Occasion.move := by
  induction occasions generalizing r with
  | nil => simp [attend]
  | cons occasion occasions ih =>
    simp only [attend]
    rw [ih, (step_stepped _ _).cancelled, List.map_cons, List.mem_cons,
      eq_comm (a := Move.cancel), or_assoc]

private theorem pollCloser_uncancelled {r : Relay} (live : r.cancelled = false) (heedsRoot : Bool) :
    r.pollCloser heedsRoot = ({ r with closerOver := r.closerOver || r.served }, []) := by
  obtain ⟨target, pool, listener, cancelled, served, closerOver, sessions⟩ := r
  obtain rfl : cancelled = false := live
  cases closerOver <;> cases served <;> rfl

private theorem Stepped.closing {r r' : Relay} {move : Move} {notes : List Note}
    (stepped : Stepped r move r' notes) (live : r.cancelled = false) :
    .closingListener ∉ notes := by
  cases stepped with
  | loops looped _ => cases looped <;> simp
  | tends _ quiet =>
    rcases quiet with rfl | ⟨cancelled, -⟩
    · exact List.not_mem_nil
    · exact (Bool.eq_false_iff.mp live cancelled).elim
  | _ => simp

private theorem Stepped.endsItself {r r' : Relay} {move : Move} {notes : List Note}
    (stepped : Stepped r move r' notes) (live : r.cancelled = false)
    (ends : ∀ s ∈ r.sessions, s.EndsItself) (uncancelled : move ≠ .cancel)
    (own : ∀ index, move ≠ .session index .cancel) : ∀ s ∈ r'.sessions, s.EndsItself := by
  cases stepped with
  | arrives arrival => exact ends
  | closesListener => exact ends
  | cancels => exact (uncancelled rfl).elim
  | loops looped _ =>
    cases looped with
    | accepts _ _ =>
      intro s member
      rcases List.mem_append.mp member with member | member
      · exact ends s member
      · obtain rfl := List.mem_singleton.mp member
        rw [live]
        exact Session.endsItself_newborn _ _ _ _
    | _ => exact ends
  | tends closed _ => cases closed <;> exact ends
  | nowhere _ => exact ends
  | @moves index s move there =>
    intro t member
    rcases List.mem_or_eq_of_mem_set member with member | rfl
    · exact ends t member
    · refine (ends s (List.mem_of_getElem? there)).step r.pool ?_
      exact fun cancels => own index (by rw [cancels])

private theorem attend_uncancelled {r : Relay} (live : r.cancelled = false)
    {occasions : List Occasion} (uncancelled : .cancel ∉ occasions.map Occasion.move) :
    Note.closingListener ∉ (r.attend occasions).2 ∧
      ((∀ s ∈ r.sessions, s.EndsItself) →
        (∀ index, .session index .cancel ∉ occasions.map Occasion.move) →
        ∀ s ∈ (r.attend occasions).1.sessions, s.EndsItself) := by
  induction occasions generalizing r with
  | nil => exact ⟨List.not_mem_nil, fun ends _ => ends⟩
  | cons occasion occasions ih =>
    have now : .cancel ≠ occasion.move := fun cancels => uncancelled (by simp [cancels])
    have later : .cancel ∉ occasions.map Occasion.move :=
      fun member => uncancelled (List.mem_cons_of_mem _ member)
    have live₀ : ({ r with listener := occasion.listener } : Relay).cancelled = false := live
    have live' : ({ r with listener := occasion.listener }.step occasion.move).1.cancelled =
        false := by
      refine Bool.eq_false_iff.mpr fun cancelled => ?_
      rcases (step_stepped _ _).cancelled.mp cancelled with cancelled | cancels
      · exact Bool.eq_false_iff.mp live cancelled
      · exact now cancels.symm
    obtain ⟨quiet, ends'⟩ := ih live' later
    have stepped := step_stepped { r with listener := occasion.listener } occasion.move
    refine ⟨?_, fun ends own => ends' (stepped.endsItself live₀ ends (Ne.symm now) ?_) ?_⟩
    · exact List.not_mem_append (stepped.closing live₀) quiet
    · exact fun index same => own index (by simp [same])
    · exact fun index member => own index (List.mem_cons_of_mem _ member)

/-- There is a session for each connection up to the first answer that the listener is closed. -/
theorem attend_accepts_until_closed (target : String) (size : Nat) (occasions : List Occasion) :
    let outcomes := occasions.filterMap Occasion.outcome?
    let moves := occasions.map Occasion.move
    let r := ((fresh target size).attend occasions).1
    let notes := ((fresh target size).attend occasions).2
    List.Forall₂ (Serves target) (connections (throughClosed outcomes)) r.sessions ∧
      notes.filter Note.isLoop = (throughClosed outcomes).map Acceptance.note ∧
      (r.served = true ↔ .error .closed ∈ outcomes) ∧
      (r.served = true → ∀ listener,
        ({ r with listener } : Relay).step .serve = ({ r with listener }, [])) ∧
      (r.cancelled = true ↔ .cancel ∈ moves) ∧
      (.cancel ∉ moves →
        Note.closingListener ∉ notes ∧
          (∀ listener heedsRoot, ({ r with listener } : Relay).step (.closer heedsRoot) =
            ({ r with listener, closerOver := r.closerOver || r.served }, [])) ∧
          ((∀ index, .session index .cancel ∉ moves) →
            ∀ s ∈ r.sessions, s.cancelled = true → s.state = .closed ∨
              ∃ direction exit total, s.task direction = .finished exit total)) := by
  intro outcomes moves r notes
  have took := (fresh target size).attend_took occasions
  have live : (fresh target size).cancelled = false := rfl
  have cancelled : r.cancelled = true ↔ .cancel ∈ moves := by
    simpa only [live, Bool.false_eq_true, false_or] using
      (fresh target size).attend_cancelled occasions
  refine ⟨took.sessions [] .nil, took.notes, ?_, ?_, cancelled, ?_⟩
  · refine took.served.trans ?_
    simp only [fresh, Bool.false_eq_true, ↓reduceIte, false_or]
    exact closed_mem_throughClosed outcomes
  · intro served listener
    simp [Relay.step, pollLoop, served]
  · intro uncancelled
    have live' : r.cancelled = false :=
      Bool.eq_false_iff.mpr fun cancels => uncancelled (cancelled.mp cancels)
    obtain ⟨quiet, ends⟩ := attend_uncancelled live uncancelled
    have closer (listener : Listener) (heedsRoot : Bool) :=
      pollCloser_uncancelled (r := { r with listener }) live' heedsRoot
    exact ⟨quiet, closer, ends (by simp [fresh])⟩

def answering (arrival : Arrival) : Listener := { backlog := [arrival] }

/-- Two clients with a failed accept between them, and a third when the listener was closed. -/
def twoOfThree : List Occasion :=
  [⟨answering (.connection ⟨"one", { control := true }, { control := true }⟩), .serve⟩,
    ⟨answering (.failure (.system 24)), .serve⟩, ⟨{}, .serve⟩,
    ⟨answering (.connection ⟨"two", { control := true }, { control := true }⟩), .serve⟩,
    ⟨{}, .session 0 (.poll ⟨some (.ok ()), some (.ok ())⟩)⟩, ⟨{ closed := true }, .serve⟩,
    ⟨{}, .session 0 (.pump .up)⟩,
    ⟨answering (.connection ⟨"three", { control := true }, { control := true }⟩), .serve⟩]

theorem attend_accepts_until_closed_twoOfThree :
    let r := ((fresh "backend" 8).attend twoOfThree).1
    r.sessions.map Session.peer = ["one", "two"] ∧ r.served = true ∧ r.cancelled = false ∧
      (r.step (.closer true)).1.listener = r.listener ∧
      ∀ s ∈ r.sessions, s.cancelled = false := by
  intro r
  obtain ⟨-, -, served, -, -, uncancelled⟩ := attend_accepts_until_closed "backend" 8 twoOfThree
  obtain ⟨-, closer, -⟩ := uncancelled (by simp [twoOfThree])
  have same : r.step (.closer true) = ({ r with closerOver := r.closerOver || r.served }, []) :=
    closer r.listener true
  exact ⟨by decide, served.mpr (by decide), by decide, by rw [same], by decide⟩

end Relay

end StreamRelay
