import StreamRelay.Buffer.Pool

set_option autoImplicit false
set_option relaxedAutoImplicit false

namespace StreamRelay.Pool

def IsUniform (pool : Pool) : Prop := ∀ buffer ∈ pool.free, buffer.size = pool.size

theorem isUniform_ofBytes (size : Nat) : (Pool.ofBytes size).IsUniform := by
  simp [IsUniform, Pool.ofBytes]

/-- A pool all of whose buffers, waiting or new, have one size. -/
def HasSize (pool : Pool) (size : Nat) : Prop := pool.IsUniform ∧ pool.size = size

theorem borrow_eq_some {pool pool' : Pool} {buffer : Buffer}
    (borrowed : pool.borrow = (some buffer, pool')) :
    (∃ rest, pool.free = buffer :: rest ∧
        pool' = { pool with free := rest, borrowed := pool.borrowed + 1 }) ∨
      pool.free = [] ∧ buffer = .zeroed pool.allocated pool.size ∧
        pool' = { pool with allocated := pool.allocated + 1, borrowed := pool.borrowed + 1 } := by
  unfold Pool.borrow at borrowed
  split at borrowed
  · rename_i first rest waiting
    obtain ⟨rfl, rfl⟩ : first = buffer ∧ _ = pool' := by simpa using borrowed
    exact .inl ⟨rest, waiting, rfl⟩
  · rename_i none_waiting
    split at borrowed
    · simp at borrowed
    · obtain ⟨rfl, rfl⟩ : Buffer.zeroed pool.allocated pool.size = buffer ∧ _ = pool' := by
        simpa using borrowed
      exact .inr ⟨none_waiting, rfl, rfl⟩

theorem borrow_some {pool pool' : Pool} {buffer : Buffer}
    (borrowed : pool.borrow = (some buffer, pool')) :
    pool'.borrowed = pool.borrowed + 1 ∧ pool'.released = pool.released ∧
      pool'.size = pool.size ∧
      (pool.IsUniform → pool'.IsUniform ∧ buffer.size = pool.size) := by
  rcases borrow_eq_some borrowed with ⟨rest, waiting, rfl⟩ | ⟨-, rfl, rfl⟩
  · refine ⟨rfl, rfl, rfl, fun uniform => ⟨?_, ?_⟩⟩
    · intro later member
      exact uniform later (waiting ▸ List.mem_cons_of_mem _ member)
    · exact uniform buffer (waiting ▸ List.mem_cons_self ..)
  · refine ⟨rfl, rfl, rfl, fun uniform => ⟨uniform, ?_⟩⟩
    simp [Buffer.size, Buffer.zeroed]

theorem borrow_eq_none {pool pool' : Pool} (borrowed : pool.borrow = (none, pool')) :
    pool.free = [] ∧ maxAllocation < pool.size ∧
      pool' = { pool with allocated := pool.allocated + 1 } := by
  unfold Pool.borrow at borrowed
  split at borrowed
  · simp at borrowed
  · rename_i waiting
    split at borrowed
    · obtain rfl : _ = pool' := by simpa using borrowed
      exact ⟨waiting, ‹_›, rfl⟩
    · simp at borrowed

theorem borrow_none {pool pool' : Pool} (borrowed : pool.borrow = (none, pool')) :
    pool'.borrowed = pool.borrowed ∧ pool'.released = pool.released ∧ pool'.size = pool.size ∧
      (pool.IsUniform → pool'.IsUniform) := by
  obtain ⟨-, -, rfl⟩ := borrow_eq_none borrowed
  exact ⟨rfl, rfl, rfl, id⟩

/-- A pool whose buffers can be allocated has one to lend. -/
theorem borrow_fits {pool : Pool} (fits : pool.size ≤ maxAllocation) :
    (∃ buffer rest pool', pool.free = buffer :: rest ∧ pool.borrow = (some buffer, pool') ∧
        pool'.free = rest ∧ pool'.allocated = pool.allocated) ∨
      pool.free = [] ∧ ∃ buffer pool', pool.borrow = (some buffer, pool') ∧ pool'.free = [] ∧
        pool'.allocated = pool.allocated + 1 := by
  cases waiting : pool.free with
  | cons buffer rest =>
    refine .inl ⟨buffer, rest, { pool with free := rest, borrowed := pool.borrowed + 1 }, rfl, ?_,
      rfl, rfl⟩
    simp [Pool.borrow, waiting]
  | nil =>
    refine .inr ⟨rfl, .zeroed pool.allocated pool.size,
      { pool with allocated := pool.allocated + 1, borrowed := pool.borrowed + 1 }, ?_, waiting,
      rfl⟩
    simp [Pool.borrow, waiting, Nat.not_lt.mpr fits]

def Balanced (pool : Pool) : Prop :=
  pool.allocated + pool.released = pool.free.length + pool.borrowed

theorem Balanced.release {pool : Pool} (balanced : pool.Balanced) (buffer : Buffer) :
    (pool.release buffer).Balanced := by
  simp only [Balanced, Pool.release, List.length_cons] at balanced ⊢
  omega

theorem Balanced.borrow {pool pool' : Pool} {buffer : Buffer} (balanced : pool.Balanced)
    (fits : pool.size ≤ maxAllocation) (lent : pool.borrow = (some buffer, pool')) :
    pool'.Balanced := by
  obtain ⟨borrowed, released, -⟩ := borrow_some lent
  simp only [Balanced] at balanced ⊢
  rcases borrow_fits fits with ⟨_, rest, _, free, lent', free', allocated⟩ |
    ⟨free, _, _, lent', free', allocated⟩
  · obtain ⟨-, rfl⟩ := Prod.mk.inj (lent'.symm.trans lent)
    rw [free, List.length_cons] at balanced
    rw [free', allocated, borrowed, released]
    omega
  · obtain ⟨-, rfl⟩ := Prod.mk.inj (lent'.symm.trans lent)
    rw [free, List.length_nil] at balanced
    rw [free', allocated, borrowed, released, List.length_nil]
    omega

theorem IsUniform.release {pool : Pool} (uniform : pool.IsUniform) {buffer : Buffer}
    (size : buffer.size = pool.size) : (pool.release buffer).IsUniform := by
  intro later member
  rcases List.mem_cons.mp member with rfl | member
  · exact size
  · exact uniform later member

/-- A pool that lends a buffer of its size exactly when such a buffer can be allocated. -/
structure Supplies (pool : Pool) (size : Nat) : Prop where
  sized : pool.HasSize size
  within : pool.free = [] ∨ size ≤ maxAllocation

theorem supplies_ofBytes (size : Nat) : (Pool.ofBytes size).Supplies size :=
  ⟨⟨isUniform_ofBytes size, rfl⟩, .inl rfl⟩

theorem Supplies.borrow {pool : Pool} {size : Nat} (supplies : pool.Supplies size) :
    (maxAllocation < size ∧ ∃ pool', pool.borrow = (none, pool') ∧ pool'.Supplies size) ∨
      size ≤ maxAllocation ∧ ∃ buffer pool', pool.borrow = (some buffer, pool') ∧
        buffer.size = size ∧ pool'.Supplies size := by
  obtain ⟨⟨uniform, rfl⟩, within⟩ := supplies
  by_cases fits : pool.size ≤ maxAllocation
  · right
    have lent : ∃ buffer pool', pool.borrow = (some buffer, pool') := by
      rcases borrow_fits fits with ⟨buffer, _, pool', -, lent, -⟩ | ⟨-, buffer, pool', lent, -⟩ <;>
        exact ⟨buffer, pool', lent⟩
    obtain ⟨buffer, pool', lent⟩ := lent
    obtain ⟨-, -, size, kept⟩ := borrow_some lent
    obtain ⟨uniform', size'⟩ := kept uniform
    exact ⟨fits, buffer, pool', lent, size', ⟨uniform', size⟩, .inr fits⟩
  · have free := within.resolve_right fits
    have large := Nat.lt_of_not_le fits
    refine .inl ⟨large, { pool with allocated := pool.allocated + 1 }, ?_, ⟨uniform, rfl⟩, within⟩
    simp [Pool.borrow, free, large]

theorem Supplies.release {pool : Pool} {size : Nat} (supplies : pool.Supplies size)
    (fits : size ≤ maxAllocation) {buffer : Buffer} (same : buffer.size = size) :
    (pool.release buffer).Supplies size :=
  ⟨⟨supplies.sized.1.release (same.trans supplies.sized.2.symm), supplies.sized.2⟩, .inr fits⟩

end StreamRelay.Pool
