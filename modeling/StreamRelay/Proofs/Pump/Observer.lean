import StreamRelay.Proofs.Pump.Run

/-!
# Observing a pump

An observer sees every call of a pump, whether it is answered or not. Observing a run changes
nothing about it.
-/

set_option autoImplicit false
set_option relaxedAutoImplicit false

namespace StreamRelay.Pump

variable {W L : Type}

/-- Surroundings with an observer, who notes each call and its answer, if there is one yet. -/
def Surroundings.observed (s : Surroundings W)
    (note : L → (call : Call) → Option call.Answer → L) : Surroundings (W × L) where
  cancelled := fun w => s.cancelled w.1
  cancel := fun w => (s.cancel w.1, w.2)
  respond := fun call w =>
    ((s.respond call w.1).1, (s.respond call w.1).2, note w.2 call (s.respond call w.1).1)

def Visit.observed (visit : Visit W) : Visit (W × L) where
  before := fun w => (visit.before w.1, w.2)
  budget := visit.budget

theorem observed_respond {s : Surroundings W}
    {note : L → (call : Call) → Option call.Answer → L} {call : Call} {w w' : W} {l l' : L}
    {answer? : Option call.Answer}
    (reply : (s.observed note).respond call (w, l) = (answer?, w', l')) :
    s.respond call w = (answer?, w') ∧ l' = note l call answer? := by
  obtain ⟨rfl, after⟩ := Prod.mk.inj reply
  obtain ⟨rfl, rfl⟩ := Prod.mk.inj after
  exact ⟨rfl, rfl⟩

section

variable (s : Surroundings W) (note : L → (call : Call) → Option call.Answer → L)

private theorem converse_observed (budget : Nat) (pump : Pump) (w : W) (l : L) :
    ∃ l', converse (s.observed note) budget pump (w, l) =
      ((converse s budget pump w).1, (converse s budget pump w).2.1,
        (converse s budget pump w).2.2, l') := by
  induction budget generalizing pump w l with
  | zero => exact ⟨l, rfl⟩
  | succ budget ih =>
    cases asked : pump.call? with
    | none => exact ⟨l, by simp only [converse, asked]⟩
    | some call =>
      rcases answered : s.respond call w with ⟨_ | answer, w'⟩
      · have silent : (s.observed note).respond call (w, l) = (none, w', note l call none) := by
          simp only [Surroundings.observed, answered]
        exact ⟨note l call none, by simp only [converse, asked, silent, answered]⟩
      · have onward : (s.observed note).respond call (w, l) =
            (some answer, w', note l call (some answer)) := by
          simp only [Surroundings.observed, answered]
        obtain ⟨l', same⟩ := ih (pump.resume (s.cancelled w') call answer).1 w'
          (note l call (some answer))
        refine ⟨l', ?_⟩
        simp only [converse, asked, onward, answered]
        rw [show (s.observed note).cancelled (w', note l call (some answer)) = s.cancelled w'
          from rfl, same]

private theorem poll_observed (budget : Nat) (pump : Pump) (w : W) (l : L) :
    ∃ l', poll (s.observed note) budget pump (w, l) =
      ((poll s budget pump w).1, (poll s budget pump w).2.1, (poll s budget pump w).2.2, l') := by
  cases stopped : pump.exit? with
  | some exit => exact ⟨l, by simp only [poll, stopped]⟩
  | none =>
    obtain ⟨l', same⟩ := converse_observed s note budget (pump.heed (s.cancelled w)) w l
    refine ⟨l', ?_⟩
    simp only [poll, stopped]
    rw [show (s.observed note).cancelled (w, l) = s.cancelled w from rfl, same]
    cases (converse s budget (pump.heed (s.cancelled w)) w).1.exit? <;> rfl

theorem run_observed (visits : List (Visit W)) (pump : Pump) (w : W) (l : L) :
    ∃ l', run (s.observed note) (visits.map Visit.observed) pump (w, l) =
      ((run s visits pump w).1, (run s visits pump w).2.1, (run s visits pump w).2.2, l') := by
  induction visits generalizing pump w l with
  | nil => exact ⟨l, rfl⟩
  | cons visit visits ih =>
    obtain ⟨l₁, polled⟩ := poll_observed s note visit.budget pump (visit.before w) l
    obtain ⟨l₂, same⟩ := ih (poll s visit.budget pump (visit.before w)).1
      (poll s visit.budget pump (visit.before w)).2.2 l₁
    refine ⟨l₂, ?_⟩
    simp only [List.map_cons, run]
    rw [show poll (s.observed note) (Visit.observed visit).budget pump
      ((Visit.observed visit).before (w, l)) = _ from polled]
    simp only [same]

end

/-- What an observer has noted agrees with the pump and its reports all through a run, if every call
keeps it so. -/
theorem KeptTold.run_observed {s : Surroundings W}
    {note : L → (call : Call) → Option call.Answer → L} {P : Pump → L → List Note → Prop}
    (kept : KeptTold (s.observed note) fun pump w told => P pump w.2 told)
    (heeded : ∀ {pump l told} cancelled, P pump l told → P (pump.heed cancelled) l told)
    (stopped : ∀ {pump l told} exit, P pump l told →
      P pump l (told ++ [.stopped pump.total exit]))
    (visits : List (Visit W)) {pump : Pump} (w : W) {l : L} (told : List Note)
    (h : P pump l told) :
    P (Pump.run s visits pump w).1
      (Pump.run (s.observed note) (visits.map Visit.observed) pump (w, l)).2.2.2
      (told ++ (Pump.run s visits pump w).2.1) := by
  have befallen : ∀ visit ∈ visits.map (Visit.observed (L := L)), ∀ pump w told,
      P pump w.2 told → P pump (visit.before w).2 told := by
    intro visit member pump w told h
    obtain ⟨visit, -, rfl⟩ := List.mem_map.mp member
    exact h
  have observed := kept.run (heeded _) stopped _ befallen (w := (w, l)) told h
  obtain ⟨l', same⟩ := Pump.run_observed s note visits pump w l
  rw [same] at observed ⊢
  exact observed

end StreamRelay.Pump
