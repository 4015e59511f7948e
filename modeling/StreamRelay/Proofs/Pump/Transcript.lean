import Mathlib.Algebra.Ring.Nat
import Mathlib.Data.List.Induction
import StreamRelay.Proofs.Pump.Observer

set_option autoImplicit false
set_option relaxedAutoImplicit false

namespace StreamRelay.Pump

structure Exchange where
  call : Call
  answer : call.Answer

def Exchange.read : Exchange → Bytes
  | ⟨.read _, .ok data⟩ => data
  | _ => []

def Exchange.accepted : Exchange → Bytes
  | ⟨.write data, .ok count⟩ => data.take count
  | _ => []

def Exchange.IsHonest : Exchange → Prop
  | ⟨.write data, .ok count⟩ => count ≤ data.length
  | _ => True

/-- What became of one chunk: its bytes, those that were accepted, and whether it was flushed. -/
structure Passage where
  data : Bytes
  accepted : Bytes := []
  flushed : Bool := false
deriving DecidableEq, Repr

def Passage.isComplete (chunk : Passage) : Bool := chunk.accepted = chunk.data && chunk.flushed

/-- A read that brings bytes opens a chunk; writes and flushes concern the newest one. -/
def follow : List Passage → Exchange → List Passage
  | chunks, ⟨.read _, .ok (byte :: bytes)⟩ => { data := byte :: bytes } :: chunks
  | chunk :: older, ⟨.write data, .ok count⟩ =>
    { chunk with accepted := chunk.accepted ++ data.take count } :: older
  | chunk :: older, ⟨.flush, .ok ()⟩ => { chunk with flushed := true } :: older
  | chunks, _ => chunks

def gather (part : Passage → Bytes) (chunks : List Passage) : Bytes :=
  chunks.reverse.flatMap part

def weight (chunks : List Passage) : Nat := (chunks.map (·.data.length)).sum

/-- The number of bytes of the newest chunk, if it is not complete. -/
def inProgress : List Passage → Nat
  | [] => 0
  | chunk :: _ => if chunk.isComplete then 0 else chunk.data.length

abbrev Transcript := List Exchange

def Transcript.read (t : Transcript) : Bytes := t.flatMap Exchange.read

def Transcript.accepted (t : Transcript) : Bytes := t.flatMap Exchange.accepted

def Transcript.chunks (t : Transcript) : List Passage := t.foldl follow []

theorem gather_cons (part : Passage → Bytes) (chunk : Passage) (chunks : List Passage) :
    gather part (chunk :: chunks) = gather part chunks ++ part chunk := by
  simp [gather]

theorem gather_data_follow (chunks : List Passage) (e : Exchange) :
    gather Passage.data (follow chunks e) = gather Passage.data chunks ++ e.read := by
  fun_cases follow chunks e with
  | case4 _ _ opensNone =>
    have silent : e.read = [] := by
      fun_cases Exchange.read e with
      | case1 room data =>
        cases data with
        | nil => rfl
        | cons byte bytes => exact (opensNone room byte bytes rfl).elim
      | case2 => rfl
    rw [silent, List.append_nil]
  | _ => simp [gather_cons, Exchange.read]

theorem gather_accepted_follow {chunks : List Passage} {e : Exchange}
    (opened : ∀ data, e.call = .write data → chunks ≠ []) :
    gather Passage.accepted (follow chunks e) = gather Passage.accepted chunks ++ e.accepted := by
  fun_cases follow chunks e with
  | case4 _ _ _ writesNone =>
    have silent : e.accepted = [] := by
      fun_cases Exchange.accepted e with
      | case1 data count =>
        obtain ⟨chunk, older, rfl⟩ := List.exists_cons_of_ne_nil (opened data rfl)
        exact (writesNone chunk older data count rfl rfl).elim
      | case2 => rfl
    rw [silent, List.append_nil]
  | _ => simp [gather_cons, Exchange.accepted]

theorem length_gather_data (chunks : List Passage) :
    (gather Passage.data chunks).length = weight chunks := by
  induction chunks with
  | nil => rfl
  | cons chunk chunks ih =>
    simp only [gather_cons, List.length_append, ih, weight, List.map_cons, List.sum_cons]
    omega

namespace Transcript

theorem chunks_append (t : Transcript) (e : Exchange) :
    Transcript.chunks (t ++ [e]) = follow t.chunks e := by
  simp [Transcript.chunks, List.foldl_append]

theorem accepted_append (t : Transcript) (e : Exchange) :
    Transcript.accepted (t ++ [e]) = t.accepted ++ e.accepted := by
  simp [Transcript.accepted]

private theorem read_append (t : Transcript) (e : Exchange) :
    Transcript.read (t ++ [e]) = t.read ++ e.read := by
  simp [Transcript.read]

theorem read_eq_gather (t : Transcript) : t.read = gather Passage.data t.chunks := by
  induction t using List.reverseRecOn with
  | nil => rfl
  | append_singleton t e ih => rw [read_append, chunks_append, gather_data_follow, ih]

end Transcript

variable {W : Type}

def Surroundings.recorded (s : Surroundings W) : Surroundings (W × Transcript) where
  cancelled := fun w => s.cancelled w.1
  cancel := fun w => (s.cancel w.1, w.2)
  respond := fun call w =>
    match s.respond call w.1 with
    | (none, w') => (none, w', w.2)
    | (some answer, w') => (some answer, w', w.2 ++ [⟨call, answer⟩])

def Visit.recorded (visit : Visit W) : Visit (W × Transcript) where
  before := fun w => (visit.before w.1, w.2)
  budget := visit.budget

def transcript (s : Surroundings W) (visits : List (Visit W)) (pump : Pump) (w : W) : Transcript :=
  (run s.recorded (visits.map Visit.recorded) pump (w, [])).2.2.2

private theorem recorded_eq_observed (s : Surroundings W) :
    s.recorded = s.observed fun t call answer? =>
      match answer? with
      | none => t
      | some answer => t ++ [⟨call, answer⟩] := by
  rw [Surroundings.recorded, Surroundings.observed]
  congr
  funext call w
  rcases answered : s.respond call w.1 with ⟨_ | answer, w'⟩ <;> rfl

theorem run_recorded (s : Surroundings W) (visits : List (Visit W)) (pump : Pump) (w : W)
    (t : Transcript) :
    ∃ t', run s.recorded (visits.map Visit.recorded) pump (w, t) =
      ((run s visits pump w).1, (run s visits pump w).2.1, (run s visits pump w).2.2, t') := by
  rw [recorded_eq_observed]
  exact run_observed s _ visits pump w t

end StreamRelay.Pump
