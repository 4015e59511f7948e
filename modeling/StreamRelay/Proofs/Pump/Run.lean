import StreamRelay.Pump.Poll

set_option autoImplicit false
set_option relaxedAutoImplicit false

namespace StreamRelay.Pump

variable {W : Type}

/-- One poll of a run: what happens before it, and how many calls are answered in it at most. -/
structure Visit (W : Type) where
  before : W → W
  budget : Nat

/-- A run of a pump. -/
def run (s : Surroundings W) : List (Visit W) → Pump → W → Pump × List Note × W
  | [], pump, w => (pump, [], w)
  | visit :: visits, pump, w =>
    let (pump, notes, w) := poll s visit.budget pump (visit.before w)
    let (pump, more, w) := run s visits pump w
    (pump, notes ++ more, w)

/-- A relation that every call keeps, whether it is answered or not. -/
structure KeptTold (s : Surroundings W) (P : Pump → W → List Note → Prop) : Prop where
  waiting : ∀ {pump w told call w'}, pump.call? = some call → s.respond call w = (none, w') →
    P pump w told → P pump w' told
  answered : ∀ {pump w told call answer w'}, pump.call? = some call →
    s.respond call w = (some answer, w') → P pump w told →
    P (pump.resume (s.cancelled w') call answer).1 w'
      (told ++ (pump.resume (s.cancelled w') call answer).2)

section

variable {s : Surroundings W} {P : Pump → W → List Note → Prop}

private theorem KeptTold.converse (kept : KeptTold s P) (budget : Nat) {pump : Pump} {w : W}
    (told : List Note) (h : P pump w told) :
    P (converse s budget pump w).1 (converse s budget pump w).2.2
      (told ++ (converse s budget pump w).2.1) := by
  induction budget generalizing pump w told with
  | zero => simpa only [Pump.converse, List.append_nil] using h
  | succ budget ih =>
    cases asked : pump.call? with
    | none => simpa only [Pump.converse, asked, List.append_nil] using h
    | some call =>
      rcases reply : s.respond call w with ⟨_ | answer, w'⟩
      · simpa only [Pump.converse, asked, reply, List.append_nil] using
          kept.waiting asked reply h
      · simpa only [Pump.converse, asked, reply, List.append_assoc] using
          ih _ (kept.answered asked reply h)

private theorem KeptTold.poll (kept : KeptTold s P)
    (heeded : ∀ {pump w told}, P pump w told → P (pump.heed (s.cancelled w)) w told)
    (stopped : ∀ {pump w told} exit, P pump w told →
      P pump (s.cancel w) (told ++ [.stopped pump.total exit]))
    (budget : Nat) {pump : Pump} {w : W} (told : List Note) (h : P pump w told) :
    P (poll s budget pump w).1 (poll s budget pump w).2.2
      (told ++ (poll s budget pump w).2.1) := by
  cases halted : pump.exit? with
  | some exit => simpa only [Pump.poll, halted, List.append_nil] using h
  | none =>
    have spoken := kept.converse budget told (heeded h)
    cases halted' : (Pump.converse s budget (pump.heed (s.cancelled w)) w).1.exit? with
    | some exit =>
      have stops := stopped exit spoken
      rw [List.append_assoc] at stops
      simpa only [Pump.poll, halted, halted'] using stops
    | none => simpa only [Pump.poll, halted, halted'] using spoken

theorem KeptTold.run (kept : KeptTold s P)
    (heeded : ∀ {pump w told}, P pump w told → P (pump.heed (s.cancelled w)) w told)
    (stopped : ∀ {pump w told} exit, P pump w told →
      P pump (s.cancel w) (told ++ [.stopped pump.total exit]))
    (visits : List (Visit W))
    (befallen : ∀ visit ∈ visits, ∀ pump w told, P pump w told → P pump (visit.before w) told)
    {pump : Pump} {w : W} (told : List Note) (h : P pump w told) :
    P (run s visits pump w).1 (run s visits pump w).2.2
      (told ++ (run s visits pump w).2.1) := by
  induction visits generalizing pump w told with
  | nil => simpa only [Pump.run, List.append_nil] using h
  | cons visit visits ih =>
    have polled := kept.poll heeded stopped visit.budget told
      (befallen visit (List.mem_cons_self ..) pump w told h)
    have rest := ih (fun later member => befallen later (List.mem_cons_of_mem _ member)) _ polled
    rwa [List.append_assoc] at rest

end

structure Kept (s : Surroundings W) (P : Pump → W → Prop) : Prop where
  waiting : ∀ {pump w call w'}, pump.call? = some call → s.respond call w = (none, w') →
    P pump w → P pump w'
  answered : ∀ {pump w call answer w'}, pump.call? = some call →
    s.respond call w = (some answer, w') → P pump w →
    P (pump.resume (s.cancelled w') call answer).1 w'

variable {s : Surroundings W} {P : Pump → W → Prop}

theorem Kept.told (kept : Kept s P) : KeptTold s fun pump w _ => P pump w :=
  ⟨kept.waiting, kept.answered⟩

theorem Kept.converse (kept : Kept s P) (budget : Nat) {pump : Pump} {w : W} (h : P pump w) :
    P (converse s budget pump w).1 (converse s budget pump w).2.2 :=
  kept.told.converse budget [] h

theorem Kept.poll (kept : Kept s P)
    (heeded : ∀ {pump w}, P pump w → P (pump.heed (s.cancelled w)) w)
    (stopped : ∀ {pump w}, P pump w → P pump (s.cancel w))
    (budget : Nat) {pump : Pump} {w : W} (h : P pump w) :
    P (poll s budget pump w).1 (poll s budget pump w).2.2 :=
  kept.told.poll heeded (fun _ => stopped) budget [] h

theorem Kept.run (kept : Kept s P)
    (heeded : ∀ {pump w}, P pump w → P (pump.heed (s.cancelled w)) w)
    (stopped : ∀ {pump w}, P pump w → P pump (s.cancel w))
    (visits : List (Visit W))
    (befallen : ∀ visit ∈ visits, ∀ pump w, P pump w → P pump (visit.before w))
    {pump : Pump} {w : W} (h : P pump w) :
    P (run s visits pump w).1 (run s visits pump w).2.2 :=
  kept.told.run heeded (fun _ => stopped) visits
    (fun visit member pump w _ => befallen visit member pump w) [] h

theorem call?_eq_none_iff (pump : Pump) : pump.call? = none ↔ pump.exit?.isSome = true := by
  cases phase : pump.phase <;> simp [call?, exit?, phase]

private theorem converse_stopped (s : Surroundings W) (budget : Nat) {pump : Pump} (w : W)
    (stopped : pump.exit?.isSome = true) : Pump.converse s budget pump w = (pump, [], w) := by
  have silent := (call?_eq_none_iff pump).mpr stopped
  cases budget with
  | zero => rfl
  | succ budget => simp only [Pump.converse, silent]

theorem poll_outcome (s : Surroundings W) (budget : Nat) {pump : Pump} {w : W}
    (going : pump.exit? = none) :
    (Pump.poll s budget pump w).1 =
        (Pump.converse s budget (pump.heed (s.cancelled w)) w).1 ∧
      (Pump.poll s budget pump w).2.2 =
        if (Pump.converse s budget (pump.heed (s.cancelled w)) w).1.exit?.isSome then
          s.cancel (Pump.converse s budget (pump.heed (s.cancelled w)) w).2.2
        else (Pump.converse s budget (pump.heed (s.cancelled w)) w).2.2 := by
  cases halted : (Pump.converse s budget (pump.heed (s.cancelled w)) w).1.exit? with
  | some exit => simp [Pump.poll, going, halted]
  | none => simp [Pump.poll, going, halted]

theorem start_eq_some {pool lent : Pool} {sourceControl destinationControl : Bool} {pump : Pump}
    (started : start pool sourceControl destinationControl = (some pump, lent)) :
    ∃ buffer, pool.borrow = (some buffer, lent) ∧
      pump = { sourceControl, destinationControl, buffer } := by
  unfold start at started
  split at started
  · cases started
  · rename_i buffer lent' borrowed
    obtain ⟨made, rfl⟩ := Prod.mk.inj started
    exact ⟨buffer, borrowed, (Option.some.inj made).symm⟩

theorem poll_stopped (s : Surroundings W) (budget : Nat) {pump : Pump} {exit : Exit}
    (stopped : pump.exit? = some exit) (w : W) : poll s budget pump w = (pump, [], w) := by
  simp only [Pump.poll, stopped]

theorem run_stopped (s : Surroundings W) (visits : List (Visit W)) {pump : Pump} {exit : Exit}
    (stopped : pump.exit? = some exit) (w : W) : ∃ w', run s visits pump w = (pump, [], w') := by
  induction visits generalizing w with
  | nil => exact ⟨w, rfl⟩
  | cons visit visits ih =>
    obtain ⟨w', rest⟩ := ih (visit.before w)
    refine ⟨w', ?_⟩
    simp only [Pump.run, poll_stopped s visit.budget stopped, rest, List.append_nil]

theorem poll_halted {s : Surroundings W} {w : W} (struck : s.cancelled w = true) {pump : Pump}
    {exit : Exit} (going : pump.exit? = none)
    (heeds : pump.heed true = pump.enter (.stopped exit)) (budget : Nat) :
    poll s budget pump w =
      (pump.enter (.stopped exit), [.stopped pump.total exit], s.cancel w) := by
  have stopped : (pump.enter (.stopped exit)).exit? = some exit := rfl
  have silent := converse_stopped s budget w (Option.isSome_of_eq_some stopped)
  simp only [Pump.poll, going, struck, heeds, silent, stopped]
  rfl

/-- A conversation with enough budget goes on until the pump stops or waits for an answer. -/
theorem converse_rests (kept : Kept s P) (measure : Pump → W → Nat)
    (decreases : ∀ {pump w call answer w'}, pump.call? = some call →
      s.respond call w = (some answer, w') → P pump w →
      measure (pump.resume (s.cancelled w') call answer).1 w' < measure pump w)
    (budget : Nat) {pump : Pump} {w : W} (h : P pump w) (enough : measure pump w < budget) :
    (Pump.converse s budget pump w).1.exit?.isSome = true ∨
      ∃ call w₀, (Pump.converse s budget pump w).1.call? = some call ∧
        P (Pump.converse s budget pump w).1 w₀ ∧
        s.respond call w₀ = (none, (Pump.converse s budget pump w).2.2) := by
  -- Each answer uses up one unit of the budget and brings the measure down by one at least, so the
  -- budget stays above the measure and cannot be what ends the conversation.
  induction budget generalizing pump w with
  | zero => omega
  | succ budget ih =>
    cases asked : pump.call? with
    | none =>
      have stopped := (call?_eq_none_iff pump).mp asked
      exact .inl (by simpa only [converse_stopped s (budget + 1) w stopped] using stopped)
    | some call =>
      rcases reply : s.respond call w with ⟨_ | answer, w'⟩
      · have outcome : Pump.converse s (budget + 1) pump w = (pump, [], w') := by
          simp only [Pump.converse, asked, reply]
        rw [outcome]
        exact .inr ⟨call, w, asked, h, reply⟩
      · have less := decreases asked reply h
        have rests := ih (kept.answered asked reply h) (by omega)
        simpa only [Pump.converse, asked, reply] using rests

def IsClosing (pump : Pump) : Prop :=
  match pump.phase with
  | .reading => False
  | .writing _ _ => False
  | .flushing _ => False
  | .shutting _ => False
  | _ => True

theorem heed_isClosing (pump : Pump) : (pump.heed true).IsClosing := by
  cases phase : pump.phase <;> simp [heed, phase, enter, IsClosing]

theorem IsClosing.resume {pump : Pump} (closing : pump.IsClosing) (cancelled : Bool) (call : Call)
    (answer : call.Answer) : (pump.resume cancelled call answer).1.IsClosing := by
  fun_cases Pump.resume pump cancelled call answer <;> simp_all [IsClosing, enter]

theorem IsClosing.calls {pump : Pump} (closing : pump.IsClosing) {call : Call}
    (asked : pump.call? = some call) :
    call = .closeWrite ∨ call = .closeDestination ∨ call = .closeRead ∨ call = .closeSource := by
  cases phase : pump.phase <;> simp_all [IsClosing, call?, eq_comm]

end StreamRelay.Pump
