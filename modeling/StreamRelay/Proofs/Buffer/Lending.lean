import StreamRelay.Buffer.Lending
import StreamRelay.Proofs.Buffer.Borrow

/-!
# Borrowers that share a pool

Whatever borrowers do, every buffer that was ever allocated is either out, under one name, or
waits, and it has the size of the pool. The counts follow: what was borrowed and not released is
out, and a buffer is allocated only when all others are out, so there are as many as were ever out
at once.
-/

set_option autoImplicit false
set_option relaxedAutoImplicit false

namespace StreamRelay.Lending

private theorem Buffer.write?_eq_some {buffer written : Buffer} {offset : Nat} {data : Bytes}
    (wrote : buffer.write? offset data = some written) :
    written.serial = buffer.serial ∧ written.size = buffer.size := by
  unfold Buffer.write? at wrote
  split at wrote
  · cases wrote
  · obtain rfl := Option.some.inj wrote
    refine ⟨rfl, ?_⟩
    simp only [Buffer.size, List.length_append, List.length_take, List.length_drop] at *
    omega

/-- What an act comes to: nothing, or one of the things that can happen to the buffers. -/
inductive Acted (lending : Lending) : Lending → Prop
  | same : Acted lending lending
  | lent {name : String} {buffer : Buffer} {pool : Pool} : lending.buffer? name = none →
      lending.pool.borrow = (some buffer, pool) →
      Acted lending ⟨pool, lending.held ++ [(name, buffer)]⟩
  | refused {pool : Pool} : lending.pool.borrow = (none, pool) → Acted lending { lending with pool }
  | dropped {name : String} {buffer : Buffer} : lending.buffer? name = some buffer →
      Acted lending (lending.giveBack name buffer)
  | emptied : Acted lending lending.giveAllBack
  | changed {name : String} {buffer other : Buffer} : lending.buffer? name = some buffer →
      other.serial = buffer.serial → other.size = buffer.size →
      Acted lending (lending.hold name other)

theorem act_acted (lending : Lending) (act : Act) : lending.Acted (lending.act act).1 := by
  unfold Lending.act
  cases act with
  | borrow name =>
    dsimp only
    split
    · exact .same
    · rename_i unused
      split
      · exact .refused ‹_›
      · exact .lent unused ‹_›
  | drop name =>
    dsimp only
    split
    · exact .same
    · exact .dropped ‹_›
  | dropAll => exact .emptied
  | fill name byte =>
    dsimp only
    split
    · exact .same
    · rename_i buffer held
      exact .changed held rfl (by simp [Buffer.fill, Buffer.size])
  | write name offset data =>
    dsimp only
    split
    · exact .same
    · rename_i buffer held
      split
      · exact .same
      · rename_i written wrote
        obtain ⟨serial, same⟩ := Buffer.write?_eq_some wrote
        exact .changed held serial same
  | read name offset count =>
    dsimp only
    split
    · exact .same
    · split
      · exact .same
      · exact .same
  | share => exact .same

def serials (lending : Lending) : List Nat :=
  lending.held.map (fun entry => entry.2.serial) ++
    lending.pool.free.map (fun buffer => buffer.serial)

/-- A lending in which every allocated buffer is out or waits, once. -/
structure Orderly (lending : Lending) (size : Nat) : Prop where
  sized : lending.pool.HasSize size
  held_size : ∀ entry ∈ lending.held, entry.2.size = size
  names : (lending.held.map Prod.fst).Nodup
  serials : lending.serials.Perm (List.range lending.pool.allocated)
  balance : lending.pool.borrowed = lending.pool.released + lending.held.length

theorem orderly_fresh (size : Nat) : Orderly ⟨.ofBytes size, []⟩ size where
  sized := ⟨Pool.isUniform_ofBytes size, rfl⟩
  held_size := fun _ member => nomatch member
  names := .nil
  serials := .nil
  balance := rfl

section

variable {lending : Lending} {size : Nat}

theorem Orderly.allocated (orderly : lending.Orderly size) :
    lending.pool.allocated = lending.pool.free.length + lending.held.length := by
  have count := orderly.serials.length_eq
  simp only [Lending.serials, List.length_append, List.length_map, List.length_range] at count
  omega

theorem Orderly.found (orderly : lending.Orderly size) {name : String} {buffer : Buffer}
    (held : lending.buffer? name = some buffer) :
    ∃ front back, lending.held = front ++ (name, buffer) :: back ∧
      lending.giveBack name buffer = ⟨lending.pool.release buffer, front ++ back⟩ ∧
      ∀ other, lending.hold name other = ⟨lending.pool, front ++ (name, other) :: back⟩ := by
  obtain ⟨front, back, split, -⟩ := List.lookup_eq_some_iff.mp held
  have names : (name :: (front ++ back).map Prod.fst).Nodup := by
    have names := orderly.names
    rw [split, List.map_append, List.map_cons] at names
    rw [List.map_append]
    exact (List.perm_middle.nodup_iff).mp names
  have others : ∀ entry ∈ front ++ back, entry.1 ≠ name := by
    rintro entry member rfl
    exact (List.nodup_cons.mp names).1 (List.mem_map_of_mem member)
  have ahead : ∀ entry ∈ front, entry.1 ≠ name := fun entry member =>
    others entry (List.mem_append_left back member)
  have behind : ∀ entry ∈ back, entry.1 ≠ name := fun entry member =>
    others entry (List.mem_append_right front member)
  refine ⟨front, back, split, ?_, ?_⟩
  · have kept (entries : List (String × Buffer)) (other : ∀ entry ∈ entries, entry.1 ≠ name) :
        entries.filter (·.1 ≠ name) = entries :=
      List.filter_eq_self.mpr fun entry member => decide_eq_true (other entry member)
    have dropped : lending.held.filter (·.1 ≠ name) = front ++ back := by
      rw [split, List.filter_append, List.filter_cons_of_neg (by simp), kept front ahead,
        kept back behind]
    rw [giveBack, dropped]
  · intro other
    have kept (entries : List (String × Buffer)) (others : ∀ entry ∈ entries, entry.1 ≠ name) :
        entries.map (fun entry => if entry.1 = name then (name, other) else entry) = entries := by
      have same : entries.map (fun entry => if entry.1 = name then (name, other) else entry) =
          entries.map id :=
        List.map_congr_left fun entry member => if_neg (others entry member)
      rw [same, List.map_id]
    rw [hold, split, List.map_append, List.map_cons, if_pos rfl, kept front ahead, kept back behind]

private theorem Orderly.borrow (orderly : lending.Orderly size) {name : String}
    (unused : lending.buffer? name = none) {buffer : Buffer} {pool : Pool}
    (lent : lending.pool.borrow = (some buffer, pool)) :
    Orderly ⟨pool, lending.held ++ [(name, buffer)]⟩ size ∧ buffer.size = size := by
  obtain ⟨⟨uniform, rfl⟩, sizes, names, serials, balance⟩ := orderly
  obtain ⟨borrowed, released, size, kept⟩ := Pool.borrow_some lent
  obtain ⟨uniform', same⟩ := kept uniform
  refine ⟨⟨⟨uniform', size⟩, ?_, ?_, ?_, ?_⟩, same⟩
  · intro entry member
    rcases List.mem_append.mp member with member | member
    · exact sizes entry member
    · rw [List.mem_singleton.mp member]
      exact same
  · have other : name ∉ lending.held.map Prod.fst := by
      intro member
      obtain ⟨entry, held, same⟩ := List.mem_map.mp member
      have differ := List.lookup_eq_none_iff.mp unused entry held
      simp [same] at differ
    rw [List.map_append]
    exact List.perm_append_singleton name _ |>.nodup_iff.mpr (List.nodup_cons.mpr ⟨other, names⟩)
  · rcases Pool.borrow_eq_some lent with ⟨rest, waiting, rfl⟩ | ⟨none, rfl, rfl⟩
    · rw [Lending.serials, waiting] at serials
      rw [Lending.serials]
      simpa using serials
    · rw [Lending.serials, none, List.map_nil, List.append_nil] at serials
      have grown := serials.append_right [lending.pool.allocated]
      rw [Lending.serials, none, List.range_succ]
      simpa [Buffer.zeroed] using grown
  · rw [borrowed, released, List.length_append, balance]
    rfl

private theorem Orderly.lends (orderly : lending.Orderly size) (fits : size ≤ maxAllocation) :
    ∃ buffer pool, lending.pool.borrow = (some buffer, pool) := by
  rw [← orderly.sized.2] at fits
  rcases Pool.borrow_fits fits with ⟨buffer, -, pool, -, lent, -⟩ | ⟨-, buffer, pool, lent, -⟩
  · exact ⟨buffer, pool, lent⟩
  · exact ⟨buffer, pool, lent⟩

private theorem Orderly.borrow_lends (orderly : lending.Orderly size) (fits : size ≤ maxAllocation)
    {name : String} (unused : lending.buffer? name = none) :
    (lending.act (.borrow name)).2 = .lent size := by
  obtain ⟨buffer, pool, lent⟩ := orderly.lends fits
  have same := (orderly.borrow unused lent).2
  simp only [Lending.act, unused, lent, same]

private theorem Orderly.release {pool : Pool} {front back : List (String × Buffer)} {name : String}
    {buffer : Buffer} (orderly : Orderly ⟨pool, front ++ (name, buffer) :: back⟩ size) :
    Orderly ⟨pool.release buffer, front ++ back⟩ size := by
  obtain ⟨⟨uniform, rfl⟩, sizes, names, serials, balance⟩ := orderly
  have fewer : (front ++ back).Sublist (front ++ (name, buffer) :: back) :=
    (List.sublist_cons_self _ _).append_left front
  refine ⟨⟨uniform.release (sizes (name, buffer) (by simp)), rfl⟩, ?_, ?_, ?_, ?_⟩
  · exact fun entry member => sizes entry (fewer.subset member)
  · exact names.sublist (fewer.map Prod.fst)
  · refine List.Perm.trans ?_ serials
    simp only [Lending.serials, Pool.release, List.map_append, List.map_cons, List.append_assoc]
    exact (List.perm_middle).append_left _
  · simp only [Pool.release, List.length_append, List.length_cons] at balance ⊢
    omega

private theorem Orderly.change {pool : Pool} {front back : List (String × Buffer)} {name : String}
    {buffer other : Buffer} (orderly : Orderly ⟨pool, front ++ (name, buffer) :: back⟩ size)
    (serial : other.serial = buffer.serial) (same : other.size = buffer.size) :
    Orderly ⟨pool, front ++ (name, other) :: back⟩ size := by
  obtain ⟨sized, sizes, names, serials, balance⟩ := orderly
  refine ⟨sized, ?_, ?_, ?_, ?_⟩
  · intro entry member
    rcases List.mem_append.mp member with member | member
    · exact sizes entry (List.mem_append_left _ member)
    rcases List.mem_cons.mp member with rfl | member
    · exact same.trans (sizes (name, buffer) (by simp))
    · exact sizes entry (by simp [member])
  · simpa using names
  · simpa [Lending.serials, serial] using serials
  · simpa using balance

private theorem Orderly.giveAllBack (orderly : lending.Orderly size) :
    lending.giveAllBack.Orderly size := by
  obtain ⟨pool, held⟩ := lending
  induction held generalizing pool with
  | nil => exact orderly
  | cons entry held ih =>
    obtain ⟨name, buffer⟩ := entry
    have front : Orderly ⟨pool, [] ++ (name, buffer) :: held⟩ size := orderly
    exact ih (pool.release buffer) front.release

/-- Every act keeps a lending orderly. -/
theorem Orderly.acted (orderly : lending.Orderly size) (fits : size ≤ maxAllocation)
    {after : Lending} (acted : lending.Acted after) : after.Orderly size := by
  have split {name : String} {buffer : Buffer} {front back : List (String × Buffer)}
      (split : lending.held = front ++ (name, buffer) :: back) :
      Orderly ⟨lending.pool, front ++ (name, buffer) :: back⟩ size := by
    rw [← split]
    exact orderly
  cases acted with
  | same => exact orderly
  | lent unused lent => exact (orderly.borrow unused lent).1
  | refused refused =>
    obtain ⟨buffer, pool, lent⟩ := orderly.lends fits
    rw [lent] at refused
    cases refused
  | dropped held =>
    obtain ⟨front, back, listed, dropped, -⟩ := orderly.found held
    rw [dropped]
    exact (split listed).release
  | emptied => exact orderly.giveAllBack
  | changed held serial same =>
    obtain ⟨front, back, listed, -, put⟩ := orderly.found held
    rw [put]
    exact (split listed).change serial same

private theorem giveAllBack_counts (lending : Lending) :
    lending.giveAllBack.pool.allocated = lending.pool.allocated ∧
      lending.giveAllBack.pool.borrowed = lending.pool.borrowed := by
  obtain ⟨pool, held⟩ := lending
  induction held generalizing pool with
  | nil => exact ⟨rfl, rfl⟩
  | cons entry held ih => exact ih (pool.release entry.2)

theorem Orderly.acted_allocated (orderly : lending.Orderly size) (fits : size ≤ maxAllocation)
    {after : Lending} (acted : lending.Acted after) :
    after.pool.allocated = lending.pool.allocated ∨
      after.pool.allocated = lending.pool.allocated + 1 ∧ after.pool.free = [] := by
  cases acted with
  | same | dropped | changed => exact .inl rfl
  | lent _ lent =>
    rcases Pool.borrow_eq_some lent with ⟨rest, -, rfl⟩ | ⟨free, -, rfl⟩
    · exact .inl rfl
    · exact .inr ⟨rfl, free⟩
  | refused refused =>
    obtain ⟨buffer, pool, lent⟩ := orderly.lends fits
    rw [lent] at refused
    cases refused
  | emptied => exact .inl lending.giveAllBack_counts.1

private theorem Acted.borrowed {after : Lending} (acted : lending.Acted after) :
    after.pool.borrowed ≤ lending.pool.borrowed + 1 := by
  cases acted with
  | same | dropped | changed => exact Nat.le_succ _
  | lent _ lent => exact Nat.le_of_eq (Pool.borrow_some lent).1
  | refused refused => exact Nat.le_succ_of_le (Nat.le_of_eq (Pool.borrow_none refused).1)
  | emptied => exact Nat.le_succ_of_le (Nat.le_of_eq lending.giveAllBack_counts.2)

end

private theorem run_append (lending : Lending) (earlier later : List Act) :
    lending.run (earlier ++ later) = (lending.run earlier).run later :=
  List.foldl_append

private theorem run_borrowed (lending : Lending) (acts : List Act) :
    (lending.run acts).pool.borrowed ≤ lending.pool.borrowed + acts.length := by
  induction acts generalizing lending with
  | nil => exact Nat.le_refl _
  | cons act acts ih =>
    have step := (lending.act_acted act).borrowed
    have onward := ih (lending.act act).1
    change ((lending.act act).1.run acts).pool.borrowed ≤ lending.pool.borrowed + (acts.length + 1)
    omega

section

variable {lending : Lending} {size : Nat}

theorem Orderly.run (orderly : lending.Orderly size) (fits : size ≤ maxAllocation)
    (acts : List Act) : (lending.run acts).Orderly size := by
  induction acts generalizing lending with
  | nil => exact orderly
  | cons act acts ih => exact ih (orderly.acted fits (lending.act_acted act))

private theorem Orderly.run_allocated (orderly : lending.Orderly size) (fits : size ≤ maxAllocation)
    (acts : List Act) : lending.pool.allocated ≤ (lending.run acts).pool.allocated := by
  induction acts generalizing lending with
  | nil => exact Nat.le_refl _
  | cons act acts ih =>
    have acted := lending.act_acted act
    have onward := ih (orderly.acted fits acted)
    have grows := orderly.acted_allocated fits acted
    change _ ≤ ((lending.act act).1.run acts).pool.allocated
    omega

private theorem Orderly.run_exhausts (orderly : lending.Orderly size) (fits : size ≤ maxAllocation)
    (acts : List Act) : (lending.run acts).pool.allocated = lending.pool.allocated ∨
      ∃ earlier, earlier <+: acts ∧
        (lending.run earlier).held.length = (lending.run acts).pool.allocated := by
  induction acts generalizing lending with
  | nil => exact .inl rfl
  | cons act acts ih =>
    have acted := lending.act_acted act
    have orderly' := orderly.acted fits acted
    -- When nothing is allocated later on, this act is the last that may have allocated.
    rcases ih orderly' with same | ⟨earlier, front, out⟩
    · rcases orderly.acted_allocated fits acted with none | ⟨one, free⟩
      · exact .inl (same.trans none)
      · refine .inr ⟨[act], List.prefix_append [act] acts, ?_⟩
        have count := orderly'.allocated
        rw [free, List.length_nil, Nat.zero_add] at count
        exact count.symm.trans same.symm
    · exact .inr ⟨act :: earlier, (List.prefix_cons_inj act).mpr front, out⟩

end

/-- Every allocated buffer is out under one name or waits, and the counts tell how many are out. -/
theorem run_keeps_pool {size : Nat} (fits : size ≤ maxAllocation) (acts : List Act) :
    let fresh : Lending := ⟨.ofBytes size, []⟩
    let lending := fresh.run acts
    let stats := lending.pool.stats
    (lending.held.map Prod.fst).Nodup ∧ lending.serials.Nodup ∧
      (∀ entry ∈ lending.held, entry.2.size = size) ∧
      (∀ name, lending.buffer? name = none → (lending.act (.borrow name)).2 = .lent size) ∧
      stats.allocated = stats.idle + lending.held.length ∧
      stats.borrowed = stats.released + lending.held.length ∧
      stats.inUse = lending.held.length ∧
      (∀ earlier, earlier <+: acts → (fresh.run earlier).held.length ≤ stats.allocated) ∧
      (∃ earlier, earlier <+: acts ∧ (fresh.run earlier).held.length = stats.allocated) ∧
      stats.borrowed ≤ acts.length := by
  intro fresh lending stats
  have start : fresh.Orderly size := orderly_fresh size
  have orderly : lending.Orderly size := start.run fits acts
  have balance : stats.borrowed = stats.released + lending.held.length := orderly.balance
  refine ⟨orderly.names, ?_, orderly.held_size, ?_, orderly.allocated, balance, ?_, ?_, ?_, ?_⟩
  · exact orderly.serials.nodup_iff.mpr List.nodup_range
  · intro name unused
    exact orderly.borrow_lends fits unused
  · rw [PoolStats.inUse, balance, Nat.add_sub_cancel_left]
  · rintro earlier ⟨later, rfl⟩
    have before := start.run fits earlier
    have grown := before.run_allocated fits later
    have count := before.allocated
    rw [← run_append] at grown
    change _ ≤ (fresh.run (earlier ++ later)).pool.allocated
    omega
  · rcases start.run_exhausts fits acts with none | out
    · exact ⟨[], List.nil_prefix, none.symm⟩
    · exact out
  · have count := fresh.run_borrowed acts
    rwa [show fresh.pool.borrowed = 0 from rfl, Nat.zero_add] at count

/-- One buffer is used twice, and at no time are all three borrowers served. -/
def turns : List Act :=
  [.borrow "a", .fill "a" 7, .share, .borrow "b", .drop "a", .borrow "c", .dropAll, .borrow "a"]

theorem run_keeps_pool_turns :
    let fresh : Lending := ⟨.ofBytes 4, []⟩
    4 ≤ maxAllocation ∧ (fresh.run turns).pool.stats = ⟨2, 4, 3, 1⟩ ∧
      (fresh.run turns).serials.Nodup ∧
      (∃ earlier, earlier <+: turns ∧ (fresh.run earlier).held.length = 2) := by
  intro fresh
  have fits : 4 ≤ maxAllocation := by decide
  have stats : (fresh.run turns).pool.stats = ⟨2, 4, 3, 1⟩ := by decide
  obtain ⟨-, serials, -, -, -, -, -, -, most, -⟩ := run_keeps_pool fits turns
  rw [stats] at most
  exact ⟨fits, stats, serials, most⟩

end StreamRelay.Lending
