import StreamRelay.Proofs.Buffer.Lending

set_option autoImplicit false
set_option relaxedAutoImplicit false

namespace StreamRelay.Lending

def counting (lending : Lending) (count : Nat) : Lending :=
  { lending with pool := { lending.pool with allocated := lending.pool.allocated + count } }

private theorem counting_counting (lending : Lending) (count count' : Nat) :
    (lending.counting count).counting count' = lending.counting (count + count') := by
  simp [counting, Nat.add_assoc]

/-- How many borrows of a history failed because their buffers could not be allocated. -/
def refusals (lending : Lending) : List Act → Nat
  | [] => 0
  | act :: acts =>
    (if (lending.act act).2 = .exhausted then 1 else 0) + (lending.act act).1.refusals acts

private theorem act_exhausted {lending : Lending} {act : Act}
    (refused : (lending.act act).2 = .exhausted) :
    lending.pool.free = [] ∧ maxAllocation < lending.pool.size ∧
      (lending.act act).1 = lending.counting 1 := by
  unfold Lending.act at refused ⊢
  cases act with
  | borrow name =>
    dsimp only at refused ⊢
    split at refused
    · cases refused
    · rename_i unused
      split at refused
      · rename_i pool none_lent
        obtain ⟨waiting, large, rfl⟩ := Pool.borrow_eq_none none_lent
        exact ⟨waiting, large, rfl⟩
      · cases refused
  | drop name | fill name byte =>
    dsimp only at refused
    split at refused <;> cases refused
  | write name offset data | read name offset count =>
    dsimp only at refused
    split at refused
    · cases refused
    · split at refused <;> cases refused
  | dropAll | share => cases refused

section

variable {lending : Lending} {size : Nat}

private theorem Orderly.act_ne_exhausted (orderly : lending.Orderly size)
    (fits : size ≤ maxAllocation) (act : Act) : (lending.act act).2 ≠ .exhausted := by
  intro refused
  obtain ⟨-, large, -⟩ := act_exhausted refused
  rw [orderly.sized.2] at large
  omega

private theorem Orderly.refusals (orderly : lending.Orderly size) (fits : size ≤ maxAllocation)
    (acts : List Act) : lending.refusals acts = 0 := by
  induction acts generalizing lending with
  | nil => rfl
  | cons act acts ih =>
    rw [Lending.refusals, if_neg (orderly.act_ne_exhausted fits act),
      ih (orderly.acted fits (lending.act_acted act))]

/-- A lending of which nothing is out and nothing waits, and whose buffers cannot be allocated. -/
structure Barren (lending : Lending) : Prop where
  large : maxAllocation < lending.pool.size
  free : lending.pool.free = []
  held : lending.held = []

private theorem Barren.counting (barren : lending.Barren) (count : Nat) :
    (lending.counting count).Barren :=
  ⟨barren.large, barren.free, barren.held⟩

private theorem Barren.borrow (barren : lending.Barren) (name : String) :
    (lending.act (.borrow name)).2 = .exhausted := by
  simp [Lending.act, buffer?, barren.held, Pool.borrow, barren.free, barren.large]

private theorem Barren.act (barren : lending.Barren) (act : Act) :
    (lending.act act).1 =
      lending.counting (if (lending.act act).2 = .exhausted then 1 else 0) := by
  have nobody (name : String) : lending.buffer? name = none := by
    simp [buffer?, barren.held]
  cases act with
  | borrow name =>
    have refused := barren.borrow name
    rw [if_pos refused]
    exact (act_exhausted refused).2.2
  | dropAll =>
    simp only [Lending.act, giveAllBack, barren.held]
    obtain ⟨pool, held⟩ := lending
    obtain rfl : held = [] := barren.held
    rfl
  | share => rfl
  | drop name | fill name byte | write name offset data | read name offset count =>
    simp only [Lending.act, nobody]
    rfl

private theorem Barren.run (barren : lending.Barren) (acts : List Act) :
    lending.run acts = lending.counting (lending.refusals acts) := by
  induction acts generalizing lending with
  | nil => rfl
  | cons act acts ih =>
    have step := barren.act act
    have onward : (lending.act act).1.Barren := step ▸ barren.counting _
    change (lending.act act).1.run acts = _
    rw [ih onward, Lending.refusals, ← counting_counting, ← step]

theorem Barren.after (barren : lending.Barren) (acts : List Act) : (lending.run acts).Barren := by
  rw [barren.run acts]
  exact barren.counting _

end

/-- A borrow that fails leaves nothing behind but an allocation that is counted. -/
theorem run_counts_refusals (size : Nat) (acts : List Act) :
    let fresh : Lending := ⟨.ofBytes size, []⟩
    let lending := fresh.run acts
    let stats := lending.pool.stats
    stats.allocated = stats.idle + stats.inUse + fresh.refusals acts ∧
      ∀ name, let after := lending.act (.borrow name)
        (after.2 = .exhausted ↔ maxAllocation < size ∧ lending.buffer? name = none) ∧
          (after.2 = .exhausted → after.1.held = lending.held ∧
            after.1.pool = { lending.pool with allocated := lending.pool.allocated + 1 } ∧
            after.1.pool.stats = { stats with allocated := stats.allocated + 1 }) := by
  intro fresh lending stats
  have only_counts (name : String) (refused : (lending.act (.borrow name)).2 = .exhausted) :
      (lending.act (.borrow name)).1 = lending.counting 1 := (act_exhausted refused).2.2
  by_cases large : maxAllocation < size
  · have barren : fresh.Barren := ⟨large, rfl, rfl⟩
    have outcome : lending = fresh.counting (fresh.refusals acts) := barren.run acts
    have still : lending.Barren := barren.after acts
    refine ⟨?_, fun name => ⟨?_, fun refused => ?_⟩⟩
    · simp [stats, outcome, Pool.stats, PoolStats.inUse, counting, fresh, Pool.ofBytes]
    · simp [still.borrow name, large, buffer?, still.held]
    · rw [only_counts name refused]
      exact ⟨rfl, rfl, rfl⟩
  · have fits := Nat.le_of_not_lt large
    have start : fresh.Orderly size := orderly_fresh size
    have orderly : lending.Orderly size := start.run fits acts
    have allocated : stats.allocated = stats.idle + lending.held.length := orderly.allocated
    have balance : stats.borrowed = stats.released + lending.held.length := orderly.balance
    refine ⟨?_, fun name => ⟨?_, fun refused => ?_⟩⟩
    · rw [start.refusals fits acts, PoolStats.inUse, balance, allocated]
      omega
    · simp [orderly.act_ne_exhausted fits, large]
    · exact absurd refused (orderly.act_ne_exhausted fits _)

theorem borrow_counts_refusal :
    let fresh : Lending := ⟨.ofKilobytes 0x40000000000000, []⟩
    let after := fresh.act (.borrow "a")
    fresh.pool.size = 0xFFFFFFFFFFFFFFFF ∧ after.2 = .exhausted ∧
      fresh.pool.stats = ⟨0, 0, 0, 0⟩ ∧ after.1.pool.stats = ⟨1, 0, 0, 0⟩ ∧
      after.1.pool.stats.allocated ≠
        after.1.pool.stats.idle + after.1.pool.stats.inUse := by
  decide

end StreamRelay.Lending
