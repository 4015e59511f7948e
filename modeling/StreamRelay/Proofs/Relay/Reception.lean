import Mathlib.Data.List.Nodup
import StreamRelay.Relay.Listener

/-!
# Calls at a listener

Many calls of accept can be made at one listener. Each is polled whenever somebody likes, until it
is answered or dropped, while connections come and the listener is closed, perhaps more than once.
What comes is handed over in its order and to one call each. From the first close on the listener
hands over nothing: every call is answered that it is closed, those that were waiting like those
that are made later, and closing it again is as if it had not been done.
-/

set_option autoImplicit false
set_option relaxedAutoImplicit false

namespace StreamRelay

def Arrival.answer : Arrival → Except AcceptError Connection
  | .connection accepted => .ok accepted
  | .failure error => .error (.failed error)

def Arrival.ofAnswer? : Except AcceptError Connection → Option Arrival
  | .ok accepted => some (.connection accepted)
  | .error (.failed error) => some (.failure error)
  | .error .closed => none

@[simp] theorem Arrival.ofAnswer?_answer (arrival : Arrival) :
    ofAnswer? arrival.answer = some arrival := by
  cases arrival <;> rfl

namespace Listener

private theorem accept_of_closed {listener : Listener} (closed : listener.closed = true) :
    listener.accept = (some (.error .closed), listener) := by
  simp [accept, closed]

private theorem accept_of_nil {listener : Listener} (live : listener.closed = false)
    (empty : listener.backlog = []) : listener.accept = (none, listener) := by
  simp [accept, live, empty]

private theorem accept_of_cons {listener : Listener} {arrival : Arrival} {backlog : List Arrival}
    (live : listener.closed = false) (waits : listener.backlog = arrival :: backlog) :
    listener.accept = (some arrival.answer, { listener with backlog }) := by
  cases arrival <;> simp [accept, live, waits, Arrival.answer]

private theorem close_of_closed {listener : Listener} (closed : listener.closed = true) :
    listener.close = (listener, []) := by
  obtain ⟨_, backlog⟩ := listener
  obtain rfl := closed
  rfl

private theorem close_of_open {listener : Listener} (live : listener.closed = false) :
    listener.close = ({ listener with closed := true }, [closing]) := by
  simp [close, live]

end Listener

/-- What a call of accept is doing: it waits, it was answered, or it was dropped before that. -/
inductive Call where
  | waiting
  | served
  | dropped
deriving DecidableEq, Repr

/-- A listener and the calls that were made at it, the first one first. -/
structure Reception where
  listener : Listener := {}
  calls : List Call := []
deriving DecidableEq, Repr

namespace Reception

inductive Move where
  | arrive (arrival : Arrival)
  | ask
  | poll (index : Nat)
  | giveUp (index : Nat)
  | close
deriving DecidableEq, Repr

abbrev Answer : Type := Except AcceptError Connection

/-- What comes of it: an answer to a call, or an entry in the log. -/
inductive Report where
  | answered (index : Nat) (answer : Answer)
  | logged (entry : Entry)

def step (r : Reception) : Move → Reception × List Report
  | .arrive arrival => ({ r with listener := r.listener.arrive arrival }, [])
  | .ask => ({ r with calls := r.calls ++ [.waiting] }, [])
  | .poll index =>
    if r.calls[index]? = some .waiting then
      match r.listener.accept with
      | (none, listener) => ({ r with listener }, [])
      | (some answer, listener) =>
        (⟨listener, r.calls.set index .served⟩, [.answered index answer])
    else (r, [])
  | .giveUp index =>
    if r.calls[index]? = some .waiting then ({ r with calls := r.calls.set index .dropped }, [])
    else (r, [])
  | .close =>
    let (listener, log) := r.listener.close
    ({ r with listener }, log.map .logged)

def run (r : Reception) : List Move → Reception × List Report
  | [] => (r, [])
  | move :: moves =>
    let (r, reports) := r.step move
    let (r, more) := r.run moves
    (r, reports ++ more)

private theorem run_append (r : Reception) (moves more : List Move) :
    r.run (moves ++ more) =
      (((r.run moves).1.run more).1, (r.run moves).2 ++ ((r.run moves).1.run more).2) := by
  induction moves generalizing r with
  | nil => rfl
  | cons move moves ih => simp only [List.cons_append, run, ih, List.append_assoc]

def Move.arrival? : Move → Option Arrival
  | .arrive arrival => some arrival
  | _ => none

def Report.answer? : Report → Option (Nat × Answer)
  | .answered index answer => some (index, answer)
  | .logged _ => none

def Report.entry? : Report → Option Entry
  | .answered _ _ => none
  | .logged entry => some entry

def arrived (moves : List Move) : List Arrival := moves.filterMap Move.arrival?

def answers (reports : List Report) : List (Nat × Answer) := reports.filterMap Report.answer?

def answered (reports : List Report) : List Nat := (answers reports).map Prod.fst

def taken (reports : List Report) : List Arrival :=
  ((answers reports).map Prod.snd).filterMap Arrival.ofAnswer?

def entries (reports : List Report) : Log := reports.filterMap Report.entry?

section Append

variable (moves more : List Move) (reports later : List Report)

@[simp] theorem arrived_append : arrived (moves ++ more) = arrived moves ++ arrived more :=
  List.filterMap_append

@[simp] theorem answers_append : answers (reports ++ later) = answers reports ++ answers later :=
  List.filterMap_append

@[simp] theorem answered_append :
    answered (reports ++ later) = answered reports ++ answered later := by
  simp [answered]

@[simp] theorem taken_append : taken (reports ++ later) = taken reports ++ taken later := by
  simp [taken]

@[simp] theorem entries_append : entries (reports ++ later) = entries reports ++ entries later :=
  List.filterMap_append

end Append

/-- What a step comes to. -/
inductive Stepped (r : Reception) : Move → Reception → List Report → Prop
  | arrives (arrival : Arrival) :
      Stepped r (.arrive arrival) { r with listener := r.listener.arrive arrival } []
  | asks : Stepped r .ask { r with calls := r.calls ++ [.waiting] } []
  | idles {index : Nat} :
      (r.calls[index]? = some .waiting → r.listener.closed = false ∧ r.listener.backlog = []) →
      Stepped r (.poll index) r []
  | takes {index : Nat} {arrival : Arrival} {backlog : List Arrival} :
      r.calls[index]? = some .waiting → r.listener.closed = false →
      r.listener.backlog = arrival :: backlog →
      Stepped r (.poll index)
        ⟨{ r.listener with backlog }, r.calls.set index .served⟩ [.answered index arrival.answer]
  | refused {index : Nat} : r.calls[index]? = some .waiting → r.listener.closed = true →
      Stepped r (.poll index)
        { r with calls := r.calls.set index .served } [.answered index (.error .closed)]
  | givesUp {index : Nat} : r.calls[index]? = some .waiting →
      Stepped r (.giveUp index) { r with calls := r.calls.set index .dropped } []
  | nothing {index : Nat} : r.calls[index]? ≠ some .waiting → Stepped r (.giveUp index) r []
  | closes : r.listener.closed = false →
      Stepped r .close { r with listener := { r.listener with closed := true } }
        [.logged Listener.closing]
  | closedBefore : r.listener.closed = true → Stepped r .close r []

section Poll

variable {r : Reception} {index : Nat} (waiting : r.calls[index]? = some .waiting)
include waiting

private theorem poll_of_closed (closed : r.listener.closed = true) :
    r.step (.poll index) =
      ({ r with calls := r.calls.set index .served }, [.answered index (.error .closed)]) := by
  simp only [step, if_pos waiting, Listener.accept_of_closed closed]

private theorem poll_of_nil (live : r.listener.closed = false) (empty : r.listener.backlog = []) :
    r.step (.poll index) = (r, []) := by
  simp only [step, if_pos waiting, Listener.accept_of_nil live empty]

private theorem poll_of_cons {arrival : Arrival} {backlog : List Arrival}
    (live : r.listener.closed = false) (waits : r.listener.backlog = arrival :: backlog) :
    r.step (.poll index) =
      (⟨{ r.listener with backlog }, r.calls.set index .served⟩,
        [.answered index arrival.answer]) := by
  simp only [step, if_pos waiting, Listener.accept_of_cons live waits]

end Poll

private theorem close_of_closed {r : Reception} (closed : r.listener.closed = true) :
    r.step .close = (r, []) := by
  simp only [step, Listener.close_of_closed closed, List.map_nil]

private theorem step_stepped (r : Reception) (move : Move) :
    Stepped r move (r.step move).1 (r.step move).2 := by
  cases move with
  | arrive arrival => exact .arrives arrival
  | ask => exact .asks
  | poll index =>
    by_cases waiting : r.calls[index]? = some .waiting
    · cases closed : r.listener.closed with
      | true =>
        rw [poll_of_closed waiting closed]
        exact .refused waiting closed
      | false =>
        cases waits : r.listener.backlog with
        | nil =>
          rw [poll_of_nil waiting closed waits]
          exact .idles fun _ => ⟨closed, waits⟩
        | cons arrival backlog =>
          rw [poll_of_cons waiting closed waits]
          exact .takes waiting closed waits
    · have outcome : r.step (.poll index) = (r, []) := by simp only [step, if_neg waiting]
      rw [outcome]
      exact .idles fun there => (waiting there).elim
  | giveUp index =>
    by_cases waiting : r.calls[index]? = some .waiting
    · have outcome : r.step (.giveUp index) =
          ({ r with calls := r.calls.set index .dropped }, []) := by
        simp only [step, if_pos waiting]
      rw [outcome]
      exact .givesUp waiting
    · have outcome : r.step (.giveUp index) = (r, []) := by simp only [step, if_neg waiting]
      rw [outcome]
      exact .nothing waiting
  | close =>
    cases closed : r.listener.closed with
    | true =>
      rw [close_of_closed closed]
      exact .closedBefore closed
    | false =>
      have outcome : r.step .close =
          ({ r with listener := { r.listener with closed := true } },
            [.logged Listener.closing]) := by
        simp only [step, Listener.close_of_open closed, List.map_cons, List.map_nil]
      rw [outcome]
      exact .closes closed

/-- What came or waited was handed over or still waits, in that order, and the calls that are served
now and were not before are those that were answered, once each. -/
structure Went (r : Reception) (moves : List Move) (r' : Reception) (reports : List Report) :
    Prop where
  closed : r'.listener.closed = true ↔ r.listener.closed = true ∨ .close ∈ moves
  order : r.listener.backlog ++ arrived moves = taken reports ++ r'.listener.backlog
  refused : r.listener.closed = true → ∀ answer ∈ answers reports, answer.2 = .error .closed
  entries : entries reports =
    if r.listener.closed = false ∧ .close ∈ moves then [Listener.closing] else []
  stays : ∀ index : Nat, r.calls[index]? = some .served → r'.calls[index]? = some .served
  served : ∀ index : Nat, index ∈ answered reports ↔
    r'.calls[index]? = some .served ∧ r.calls[index]? ≠ some .served
  once : (answered reports).Nodup

private theorem Went.trans {r r' r'' : Reception} {moves moves' : List Move}
    {reports reports' : List Report} (first : Went r moves r' reports)
    (second : Went r' moves' r'' reports') :
    Went r (moves ++ moves') r'' (reports ++ reports') where
  closed := by rw [second.closed, first.closed, List.mem_append, or_assoc]
  order := by
    calc r.listener.backlog ++ arrived (moves ++ moves')
      _ = (r.listener.backlog ++ arrived moves) ++ arrived moves' := by
        rw [arrived_append, List.append_assoc]
      _ = taken reports ++ (r'.listener.backlog ++ arrived moves') := by
        rw [first.order, List.append_assoc]
      _ = taken reports ++ (taken reports' ++ r''.listener.backlog) := by rw [second.order]
      _ = taken (reports ++ reports') ++ r''.listener.backlog := by
        rw [taken_append, List.append_assoc]
  refused := by
    intro closed answer member
    rw [answers_append, List.mem_append] at member
    rcases member with member | member
    · exact first.refused closed answer member
    · exact second.refused (first.closed.mpr (.inl closed)) answer member
  entries := by
    have stage : r'.listener.closed = false ↔ r.listener.closed = false ∧ .close ∉ moves := by
      simpa using not_congr first.closed
    -- The second part reports a closing only if the first one left the listener open.
    rw [entries_append, first.entries, second.entries]
    by_cases live : r.listener.closed = false <;> by_cases closes : .close ∈ moves <;>
      simp [stage, live, closes]
  stays := fun index served => second.stays index (first.stays index served)
  served := by
    intro index
    rw [answered_append, List.mem_append, first.served, second.served]
    constructor
    · rintro (⟨served, fresh⟩ | ⟨served, fresh⟩)
      · exact ⟨second.stays index served, fresh⟩
      · exact ⟨served, fun before => fresh (first.stays index before)⟩
    · rintro ⟨served, fresh⟩
      by_cases between : r'.calls[index]? = some .served
      · exact .inl ⟨between, fresh⟩
      · exact .inr ⟨served, between⟩
  once := by
    rw [answered_append]
    refine List.Nodup.append first.once second.once fun index member member' => ?_
    exact ((second.served index).mp member').2 ((first.served index).mp member).1

private theorem served_set_iff {calls : List Call} {index : Nat}
    (waiting : calls[index]? = some .waiting) (call : Call) (other : Nat) :
    (calls.set index call)[other]? = some .served ↔
      other = index ∧ call = .served ∨ calls[other]? = some .served := by
  obtain ⟨inside, there⟩ := List.getElem?_eq_some_iff.mp waiting
  by_cases same : other = index
  · subst same
    simp [inside, there]
  · simp [List.getElem?_set_ne (Ne.symm same), same]

private theorem served_append_iff (calls : List Call) (index : Nat) :
    (calls ++ [.waiting])[index]? = some .served ↔ calls[index]? = some .served := by
  rcases Nat.lt_or_ge index calls.length with inside | outside
  · rw [List.getElem?_append_left inside]
  · rw [List.getElem?_append_right outside, List.getElem?_eq_none outside]
    cases index - calls.length <;> simp

private theorem went_unanswered {r r' : Reception} {move : Move} {reports : List Report}
    (closed : r'.listener.closed = true ↔ r.listener.closed = true ∨ move = .close)
    (backlog : r'.listener.backlog = r.listener.backlog ++ arrived [move])
    (entries : entries reports =
      if r.listener.closed = false ∧ move = .close then [Listener.closing] else [])
    (silent : answers reports = [])
    (calls : ∀ index : Nat, r'.calls[index]? = some .served ↔ r.calls[index]? = some .served) :
    Went r [move] r' reports where
  closed := by rw [closed, List.mem_singleton, eq_comm (a := Move.close)]
  order := by rw [taken, silent, backlog, List.map_nil, List.filterMap_nil, List.nil_append]
  refused := by simp [silent]
  entries := by simpa only [List.mem_singleton, eq_comm (a := Move.close)] using entries
  stays := fun index => (calls index).mpr
  served := by simp [answered, silent, calls]
  once := by simp [answered, silent]

private theorem went_quietly {r : Reception} {move : Move} {calls : List Call}
    (nothing : arrived [move] = []) (other : move ≠ .close)
    (same : ∀ index : Nat, calls[index]? = some .served ↔ r.calls[index]? = some .served) :
    Went r [move] { r with calls } [] := by
  refine went_unanswered (by simp [other]) ?_ (by simp [entries, other]) rfl same
  rw [nothing, List.append_nil]

private theorem went_answered {r : Reception} {listener : Listener} {index : Nat} {answer : Answer}
    (waiting : r.calls[index]? = some .waiting) (closed : listener.closed = r.listener.closed)
    (order : r.listener.backlog = (Arrival.ofAnswer? answer).toList ++ listener.backlog)
    (refused : r.listener.closed = true → answer = .error .closed) :
    Went r [.poll index] ⟨listener, r.calls.set index .served⟩ [.answered index answer] where
  closed := by simp [closed]
  order := by
    simp only [order]
    cases taken : Arrival.ofAnswer? answer <;>
      simp [arrived, Move.arrival?, Reception.taken, answers, Report.answer?, taken]
  refused := by simpa [answers, Report.answer?] using refused
  entries := by simp [Reception.entries, Report.entry?]
  stays := fun other served => (served_set_iff waiting .served other).mpr (.inr served)
  served := by
    intro other
    have fresh : other = index → r.calls[other]? ≠ some .served := by
      rintro rfl
      simp [waiting]
    have heard : other ∈ answered [.answered index answer] ↔ other = index := by
      simp [answered, answers, Report.answer?]
    rw [heard, served_set_iff waiting .served other]
    constructor
    · exact fun same => ⟨.inl ⟨same, rfl⟩, fresh same⟩
    · rintro ⟨⟨same, -⟩ | served, unanswered⟩
      · exact same
      · exact (unanswered served).elim
  once := by simp [answered, answers, Report.answer?]

private theorem Stepped.went {r r' : Reception} {move : Move} {reports : List Report}
    (stepped : Stepped r move r' reports) : Went r [move] r' reports := by
  cases stepped with
  | arrives arrival =>
    exact went_unanswered (by simp [Listener.arrive]) rfl (by simp [entries]) rfl fun _ => Iff.rfl
  | asks => exact went_quietly rfl (by simp) (served_append_iff r.calls)
  | idles _ => exact went_quietly rfl (by simp) fun _ => Iff.rfl
  | takes waiting live waits =>
    refine went_answered waiting rfl ?_ fun closed => ?_
    · rw [Arrival.ofAnswer?_answer, waits]
      rfl
    · exact (Bool.eq_false_iff.mp live closed).elim
  | refused waiting closed => exact went_answered waiting rfl rfl fun _ => rfl
  | givesUp waiting =>
    refine went_quietly rfl (by simp) fun index => ?_
    simp [served_set_iff waiting]
  | nothing _ => exact went_quietly rfl (by simp) fun _ => Iff.rfl
  | closes live =>
    refine went_unanswered (by simp) (List.append_nil _).symm ?_ rfl fun _ => Iff.rfl
    simp [entries, Report.entry?, live]
  | closedBefore closed =>
    refine went_unanswered (by simp [closed]) (List.append_nil _).symm ?_ rfl fun _ => Iff.rfl
    simp [entries, closed]

private theorem run_went (r : Reception) (moves : List Move) :
    Went r moves (r.run moves).1 (r.run moves).2 := by
  induction moves generalizing r with
  | nil =>
    exact
      { closed := by simp [run]
        order := List.append_nil _
        refused := fun _ _ member => (List.not_mem_nil member).elim
        entries := by simp [run, Reception.entries]
        stays := fun _ => id
        served := fun _ => by simp [run, answered, answers]
        once := List.nodup_nil }
  | cons move moves ih => exact (step_stepped r move).went.trans (ih (r.step move).1)

private theorem taken_of_refused {reports : List Report}
    (refused : ∀ answer ∈ answers reports, answer.2 = .error .closed) : taken reports = [] := by
  refine List.filterMap_eq_nil_iff.mpr fun answer member => ?_
  obtain ⟨entry, given, rfl⟩ := List.mem_map.mp member
  rw [refused entry given]
  rfl

/-- What comes is handed over once and in its order, until the listener is closed. -/
theorem run_hands_over_until_closed (moves : List Move) :
    let r := (run {} moves).1
    let reports := (run {} moves).2
    arrived moves = taken reports ++ r.listener.backlog ∧
      (answered reports).Nodup ∧
      (∀ index : Nat, index ∈ answered reports ↔ r.calls[index]? = some .served) ∧
      entries reports = (if .close ∈ moves then [Listener.closing] else []) ∧
      (.close ∉ moves → ∀ index : Nat, r.calls[index]? = some .waiting →
        (r.listener.backlog = [] → r.step (.poll index) = (r, [])) ∧
          ∀ arrival backlog, r.listener.backlog = arrival :: backlog →
            r.step (.poll index) =
              (⟨{ r.listener with backlog }, r.calls.set index .served⟩,
                [.answered index arrival.answer])) ∧
      (.close ∈ moves →
        (∀ index : Nat, r.calls[index]? = some .waiting →
          r.step (.poll index) =
            ({ r with calls := r.calls.set index .served }, [.answered index (.error .closed)])) ∧
          ∀ later : List Move,
            (∀ answer ∈ answers (r.run later).2, answer.2 = .error .closed) ∧
              (r.run later).1.listener.backlog = r.listener.backlog ++ arrived later ∧
              run {} (moves ++ .close :: later) = run {} (moves ++ later)) := by
  intro r reports
  have went := run_went {} moves
  have closed : r.listener.closed = true ↔ .close ∈ moves := by
    simpa only [Bool.false_eq_true, false_or] using went.closed
  refine ⟨went.order, went.once, ?_, ?_, ?_, ?_⟩
  · intro index
    simpa using went.served index
  · simpa using went.entries
  · intro unclosed index waiting
    have live : r.listener.closed = false := Bool.eq_false_iff.mpr (mt closed.mp unclosed)
    exact ⟨poll_of_nil waiting live, fun _ _ => poll_of_cons waiting live⟩
  · intro closes
    have closed : r.listener.closed = true := closed.mpr closes
    refine ⟨fun _ waiting => poll_of_closed waiting closed, fun later => ?_⟩
    have after := run_went r later
    have refused := after.refused closed
    refine ⟨refused, ?_, ?_⟩
    · rw [after.order, taken_of_refused refused, List.nil_append]
    · have same : r.run (.close :: later) = r.run later := by
        simp only [run, close_of_closed closed, List.nil_append]
      rw [run_append, run_append, same]

def latecomer : Connection := ⟨"late", { control := true }, { control := true }⟩

/-- A call takes a connection and a second one waits when the listener is closed, twice. -/
def race : List Move :=
  [.ask, .arrive (.connection ⟨"early", { control := true }, { control := true }⟩), .poll 0, .ask,
    .poll 1, .ask, .arrive (.connection latecomer), .giveUp 2, .close, .close]

theorem run_hands_over_until_closed_race :
    let r := (run {} race).1
    .close ∈ race ∧ r.calls[1]? = some .waiting ∧ r.listener.backlog = [.connection latecomer] ∧
      r.step (.poll 1) =
        ({ r with calls := [.served, .served, .dropped] }, [.answered 1 (.error .closed)]) ∧
      (r.run [.ask, .poll 3]).1.listener.backlog = [.connection latecomer] ∧
      run {} (race ++ [.close, .ask, .poll 3]) = run {} (race ++ [.ask, .poll 3]) ∧
      entries (run {} race).2 = [Listener.closing] := by
  intro r
  have closes : .close ∈ race := by decide
  obtain ⟨-, -, -, entries, -, closed⟩ := run_hands_over_until_closed race
  obtain ⟨answered, later⟩ := closed closes
  obtain ⟨-, backlog, again⟩ := later [.ask, .poll 3]
  rw [if_pos closes] at entries
  exact ⟨closes, by decide, by decide, answered 1 (by decide), backlog, again, entries⟩

end Reception

end StreamRelay
