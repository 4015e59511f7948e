import StreamRelay.Proofs.Buffer.Refusals

/-!
# What a borrower finds

A pool knows nothing of what its buffers hold: whatever borrowers write, the same buffers are lent
to the same names. It does not clear them either. A new buffer holds zeros, and one that was out
before is lent just as its last borrower left it.
-/

set_option autoImplicit false
set_option relaxedAutoImplicit false

namespace StreamRelay

def Buffer.blank (buffer : Buffer) : Buffer := .zeroed buffer.serial buffer.size

@[simp] theorem Buffer.blank_serial (buffer : Buffer) : buffer.blank.serial = buffer.serial := rfl

@[simp] theorem Buffer.blank_size (buffer : Buffer) : buffer.blank.size = buffer.size := by
  simp [blank, zeroed, size]

@[simp] theorem Buffer.blank_zeroed (serial size : Nat) :
    (Buffer.zeroed serial size).blank = .zeroed serial size := by
  simp [blank, zeroed, Buffer.size]

private theorem Buffer.write?_blank (buffer : Buffer) (offset : Nat) (data : Bytes) :
    buffer.blank.write? offset (List.replicate data.length 0) =
      (buffer.write? offset data).map Buffer.blank := by
  unfold write?
  rw [blank_size, List.length_replicate]
  split
  · rfl
  · -- Zeros between zeros are as many zeros as the buffer has bytes.
    simp only [Option.map_some, blank, zeroed, size, List.take_replicate, List.drop_replicate,
      List.replicate_append_replicate, List.length_append, List.length_take, List.length_drop]

private theorem Buffer.fill_blank (buffer : Buffer) (byte : UInt8) :
    buffer.blank.fill 0 = (buffer.fill byte).blank := by
  simp [blank, zeroed, fill, size]

def Pool.blank (pool : Pool) : Pool := { pool with free := pool.free.map Buffer.blank }

@[simp] theorem Pool.stats_blank (pool : Pool) : pool.blank.stats = pool.stats := by
  simp [stats, blank]

private theorem Pool.borrow_blank (pool : Pool) :
    pool.blank.borrow = (pool.borrow.1.map Buffer.blank, pool.borrow.2.blank) := by
  cases waiting : pool.free with
  | cons buffer rest => simp [borrow, blank, waiting]
  | nil =>
    by_cases large : maxAllocation < pool.size
    · simp [borrow, blank, waiting, large]
    · simp [borrow, blank, waiting, large]

namespace Lending

def Act.blank : Act → Act
  | .fill name _ => .fill name 0
  | .write name offset data => .write name offset (List.replicate data.length 0)
  | act => act

/-- A lending with zeros in all buffers, those that are out and those that wait. -/
def blank (lending : Lending) : Lending where
  pool := lending.pool.blank
  held := lending.held.map fun entry => (entry.1, entry.2.blank)

private theorem buffer?_blank (lending : Lending) (name : String) :
    lending.blank.buffer? name = (lending.buffer? name).map Buffer.blank := by
  obtain ⟨pool, held⟩ := lending
  simp only [buffer?, blank]
  induction held with
  | nil => rfl
  | cons entry held ih =>
    obtain ⟨other, buffer⟩ := entry
    cases same : name == other <;> simp [List.lookup_cons, same, ih]

private theorem giveBack_blank (lending : Lending) (name : String) (buffer : Buffer) :
    (lending.giveBack name buffer).blank = lending.blank.giveBack name buffer.blank := by
  simp [giveBack, blank, Pool.release, Pool.blank, List.filter_map, Function.comp_def]

private theorem hold_blank (lending : Lending) (name : String) (buffer : Buffer) :
    (lending.hold name buffer).blank = lending.blank.hold name buffer.blank := by
  simp only [hold, blank, List.map_map, mk.injEq, true_and]
  refine List.map_congr_left fun entry _ => ?_
  by_cases same : entry.1 = name <;> simp [same]

private theorem giveAllBack_blank (lending : Lending) :
    lending.giveAllBack.blank = lending.blank.giveAllBack := by
  obtain ⟨pool, held⟩ := lending
  induction held generalizing pool with
  | nil => rfl
  | cons entry held ih => exact ih (pool.release entry.2)

private theorem borrow_blank (lending : Lending) (name : String) :
    lending.blank.act (.borrow name) =
      ((lending.act (.borrow name)).1.blank, (lending.act (.borrow name)).2) := by
  simp only [Lending.act, buffer?_blank]
  cases lending.buffer? name with
  | some buffer => rfl
  | none =>
    have pool : lending.blank.pool = lending.pool.blank := rfl
    rw [pool, Pool.borrow_blank]
    rcases lending.pool.borrow with ⟨_ | buffer, pool'⟩
    · rfl
    · simp [blank]

private theorem act_blank (lending : Lending) (act : Act) :
    (lending.blank.act act.blank).1 = (lending.act act).1.blank := by
  cases act with
  | borrow name => exact congrArg Prod.fst (lending.borrow_blank name)
  | drop name =>
    simp only [Lending.act, Act.blank, buffer?_blank]
    cases lending.buffer? name with
    | none => rfl
    | some buffer => exact (lending.giveBack_blank name buffer).symm
  | dropAll => exact lending.giveAllBack_blank.symm
  | fill name byte =>
    simp only [Lending.act, Act.blank, buffer?_blank]
    cases lending.buffer? name with
    | none => rfl
    | some buffer =>
      simp only [Option.map_some, Buffer.fill_blank buffer byte]
      exact (lending.hold_blank name (buffer.fill byte)).symm
  | write name offset data =>
    simp only [Lending.act, Act.blank, buffer?_blank]
    cases lending.buffer? name with
    | none => rfl
    | some buffer =>
      simp only [Option.map_some, Buffer.write?_blank]
      cases buffer.write? offset data with
      | none => rfl
      | some written => exact (lending.hold_blank name written).symm
  | read name offset count =>
    have unchanged (l : Lending) : (l.act (.read name offset count)).1 = l := by
      unfold Lending.act
      dsimp only
      split
      · rfl
      · split <;> rfl
    simp only [Act.blank, unchanged]
  | share => rfl

private theorem run_blank (lending : Lending) (acts : List Act) :
    lending.blank.run (acts.map Act.blank) = (lending.run acts).blank := by
  induction acts generalizing lending with
  | nil => rfl
  | cons act acts ih =>
    have onward := ih (lending.act act).1
    rw [← act_blank] at onward
    exact onward

section

variable {lending lending' : Lending} (alike : lending'.blank = lending.blank)

include alike

private theorem buffer?_of_alike (name : String) :
    (lending'.buffer? name).map Buffer.blank = (lending.buffer? name).map Buffer.blank := by
  rw [← buffer?_blank, ← buffer?_blank, alike]

private theorem free_of_alike : lending'.pool.free = [] ↔ lending.pool.free = [] := by
  have pools := congrArg (·.pool.free = []) alike
  simpa [blank, Pool.blank] using pools

private theorem stats_of_alike : lending'.pool.stats = lending.pool.stats := by
  simpa [blank] using congrArg (·.pool.stats) alike

private theorem borrow_of_alike (name : String) :
    (lending'.act (.borrow name)).1.blank = (lending.act (.borrow name)).1.blank ∧
      (lending'.act (.borrow name)).2 = (lending.act (.borrow name)).2 := by
  have borrows := borrow_blank lending' name
  rw [alike, borrow_blank] at borrows
  exact ⟨(Prod.mk.inj borrows).1.symm, (Prod.mk.inj borrows).2.symm⟩

end

def returned (lending : Lending) : Act → List Buffer
  | .drop name => (lending.buffer? name).toList
  | .dropAll => (lending.held.map Prod.snd).reverse
  | _ => []

/-- The buffers that were given back in a history, as they were then, the last one first. -/
def returns (lending : Lending) : List Act → List Buffer
  | [] => []
  | act :: acts => (lending.act act).1.returns acts ++ lending.returned act

/-- A buffer as it was when it was given back last. -/
def left? (lending : Lending) (acts : List Act) (serial : Nat) : Option Buffer :=
  (lending.returns acts).find? (·.serial = serial)

private theorem giveAllBack_free (lending : Lending) :
    lending.giveAllBack.pool.free = (lending.held.map Prod.snd).reverse ++ lending.pool.free := by
  obtain ⟨pool, held⟩ := lending
  induction held generalizing pool with
  | nil => rfl
  | cons entry held ih =>
    have rest := ih (pool.release entry.2)
    simp only [giveAllBack, List.foldl_cons, Pool.release] at rest ⊢
    simp [rest]

private theorem act_free (lending : Lending) (act : Act) :
    (lending.act act).1.pool.free <:+ lending.returned act ++ lending.pool.free := by
  unfold Lending.act
  cases act with
  | borrow name =>
    dsimp only [returned, List.nil_append]
    split
    · exact List.suffix_refl _
    · split
      · rename_i pool refused
        obtain ⟨-, -, rfl⟩ := Pool.borrow_eq_none refused
        exact List.suffix_refl _
      · rename_i buffer pool lent
        rcases Pool.borrow_eq_some lent with ⟨rest, waiting, rfl⟩ | ⟨-, -, rfl⟩
        · rw [waiting]
          exact List.suffix_cons buffer rest
        · exact List.suffix_refl _
  | drop name =>
    dsimp only [returned]
    split
    · rename_i unused
      rw [unused]
      exact List.suffix_refl _
    · rename_i buffer held
      rw [held]
      exact List.suffix_refl _
  | dropAll =>
    rw [lending.giveAllBack_free]
    exact List.suffix_refl _
  | fill name byte | write name offset data | read name offset count =>
    dsimp only [returned, List.nil_append]
    repeat' split
    all_goals exact List.suffix_refl _
  | share => exact List.suffix_refl _

private theorem find?_serial {buffers : List Buffer} (apart : (buffers.map Buffer.serial).Nodup)
    {buffer : Buffer} (member : buffer ∈ buffers) :
    buffers.find? (·.serial = buffer.serial) = some buffer := by
  induction buffers with
  | nil => cases member
  | cons first rest ih =>
    rw [List.map_cons, List.nodup_cons] at apart
    rcases List.mem_cons.mp member with rfl | member
    · simp
    · have other : first.serial ≠ buffer.serial := by
        intro same
        exact apart.1 (same ▸ List.mem_map_of_mem member)
      rw [List.find?_cons_of_neg (by simpa using other), ih apart.2 member]

private theorem find?_serial_eq_none {buffers : List Buffer} {serial : Nat}
    (other : serial ∉ buffers.map Buffer.serial) :
    buffers.find? (·.serial = serial) = none := by
  rw [List.find?_eq_none]
  intro buffer member same
  exact other (List.mem_map.mpr ⟨buffer, member, of_decide_eq_true same⟩)

section

variable {lending : Lending} {size : Nat}

private theorem Orderly.apart (orderly : lending.Orderly size) :
    ((lending.held.map Prod.snd).map Buffer.serial).Nodup ∧
      ∀ buffer ∈ lending.held.map Prod.snd, buffer.serial < lending.pool.allocated ∧
        buffer.serial ∉ lending.pool.free.map Buffer.serial := by
  have nodup : lending.serials.Nodup := orderly.serials.nodup_iff.mpr List.nodup_range
  have whole : lending.serials = (lending.held.map Prod.snd).map Buffer.serial ++
      lending.pool.free.map Buffer.serial := by
    rw [Lending.serials, List.map_map]
    rfl
  rw [whole, List.nodup_append] at nodup
  obtain ⟨apart, -, others⟩ := nodup
  refine ⟨apart, fun buffer member => ⟨?_, fun waits => ?_⟩⟩
  · have listed : buffer.serial ∈ lending.serials := by
      rw [whole]
      exact List.mem_append_left _ (List.mem_map_of_mem member)
    exact List.mem_range.mp (orderly.serials.mem_iff.mp listed)
  · exact others _ (List.mem_map_of_mem member) _ waits rfl

private theorem Orderly.returned (orderly : lending.Orderly size) (act : Act) :
    ((lending.returned act).map Buffer.serial).Nodup ∧
      ∀ buffer ∈ lending.returned act, buffer ∈ lending.held.map Prod.snd := by
  cases act with
  | drop name =>
    cases found : lending.buffer? name with
    | none => simp [Lending.returned, found]
    | some buffer =>
      obtain ⟨front, back, split, -⟩ := orderly.found found
      simp [Lending.returned, found, split]
  | dropAll =>
    rw [Lending.returned, List.map_reverse, (List.reverse_perm _).nodup_iff]
    exact ⟨orderly.apart.1, fun buffer member => List.mem_reverse.mp member⟩
  | _ => simp [Lending.returned]

/-- Each buffer that waits is as it was given back last, and nothing is known of buffers to come. -/
structure Remembers (lending : Lending) (past : List Buffer) : Prop where
  waiting : ∀ buffer ∈ lending.pool.free, past.find? (·.serial = buffer.serial) = some buffer
  known : ∀ buffer ∈ past, buffer.serial < lending.pool.allocated

private theorem Remembers.act (orderly : lending.Orderly size) (fits : size ≤ maxAllocation)
    {past : List Buffer} (remembers : lending.Remembers past) (act : Act) :
    (lending.act act).1.Remembers (lending.returned act ++ past) := by
  obtain ⟨apart, out⟩ := orderly.returned act
  refine ⟨fun buffer waits => ?_, fun buffer member => ?_⟩
  · rw [List.find?_append]
    rcases List.mem_append.mp ((lending.act_free act).subset waits) with back | waited
    · rw [find?_serial apart back]
      rfl
    · -- What is given back was out, so it is none of the buffers that waited.
      have other : buffer.serial ∉ (lending.returned act).map Buffer.serial := by
        intro member
        obtain ⟨back, given, same⟩ := List.mem_map.mp member
        refine (orderly.apart.2 back (out back given)).2 ?_
        rw [same]
        exact List.mem_map_of_mem waited
      rw [find?_serial_eq_none other]
      exact remembers.waiting buffer waited
  · have grows := orderly.acted_allocated fits (lending.act_acted act)
    have before : buffer.serial < lending.pool.allocated := by
      rcases List.mem_append.mp member with back | past
      · exact (orderly.apart.2 buffer (out buffer back)).1
      · exact remembers.known buffer past
    omega

private theorem Remembers.run (orderly : lending.Orderly size) (fits : size ≤ maxAllocation)
    {past : List Buffer} (remembers : lending.Remembers past) (acts : List Act) :
    (lending.run acts).Remembers (lending.returns acts ++ past) := by
  induction acts generalizing lending past with
  | nil => exact remembers
  | cons act acts ih =>
    have onward := ih (orderly.acted fits (lending.act_acted act))
      (remembers.act orderly fits act)
    rw [returns, List.append_assoc]
    exact onward

end

private theorem run_lent {size : Nat} (acts : List Act) {buffer : Buffer} {pool : Pool}
    (lent : ((⟨.ofBytes size, []⟩ : Lending).run acts).pool.borrow = (some buffer, pool)) :
    let fresh : Lending := ⟨.ofBytes size, []⟩
    ((fresh.run acts).pool.free ≠ [] ∧ fresh.left? acts buffer.serial = some buffer) ∨
      (fresh.run acts).pool.free = [] ∧ fresh.left? acts buffer.serial = none ∧
        buffer = .zeroed buffer.serial size := by
  intro fresh
  by_cases large : maxAllocation < size
  · have barren : fresh.Barren := ⟨large, rfl, rfl⟩
    have still := barren.after acts
    simp [Pool.borrow, fresh, still.free, still.large] at lent
  have fits : size ≤ maxAllocation := Nat.le_of_not_lt large
  have start : fresh.Remembers [] := ⟨by simp [fresh, Pool.ofBytes], by simp⟩
  obtain ⟨waiting, known⟩ := start.run (orderly_fresh size) fits acts
  rw [List.append_nil] at waiting known
  have sized := ((orderly_fresh size).run fits acts).sized
  rcases Pool.borrow_eq_some lent with ⟨rest, free, -⟩ | ⟨free, rfl, -⟩
  · rw [free] at waiting ⊢
    exact .inl ⟨List.cons_ne_nil _ _, waiting buffer (List.mem_cons_self ..)⟩
  · -- A new buffer has the next serial, and nothing with that serial was ever given back.
    refine .inr ⟨free, ?_, ?_⟩
    · refine find?_serial_eq_none fun member => ?_
      obtain ⟨earlier, back, same⟩ := List.mem_map.mp member
      exact absurd same (Nat.ne_of_lt (known earlier back))
    · rw [sized.2]
      rfl

private theorem borrow_lent {lending : Lending} {name : String} {buffer : Buffer}
    (unused : lending.buffer? name = none)
    (lent : (lending.act (.borrow name)).1.buffer? name = some buffer) :
    ∃ pool, lending.pool.borrow = (some buffer, pool) := by
  simp only [Lending.act, unused] at lent
  rcases borrowed : lending.pool.borrow with ⟨_ | given, pool⟩
  · simp only [borrowed] at lent
    exact absurd (unused.symm.trans lent) (Option.some_ne_none buffer).symm
  · simp only [borrowed, buffer?, List.lookup_append] at lent
    rw [show lending.held.lookup name = none from unused] at lent
    simp at lent
    exact ⟨pool, by rw [lent]⟩

/-- A lent buffer is as its last borrower left it, and nothing else written is found in it. -/
theorem run_lends_leavings {size : Nat} {acts acts' : List Act}
    (alike : acts'.map Act.blank = acts.map Act.blank) (name : String) :
    let fresh : Lending := ⟨.ofBytes size, []⟩
    let next := (fresh.run acts).act (.borrow name)
    let next' := (fresh.run acts').act (.borrow name)
    next'.2 = next.2 ∧ next'.1.pool.stats = next.1.pool.stats ∧
      ∀ buffer, (fresh.run acts).buffer? name = none → next.1.buffer? name = some buffer →
        ∃ buffer', next'.1.buffer? name = some buffer' ∧
          buffer'.serial = buffer.serial ∧ buffer'.size = buffer.size ∧
          buffer = (fresh.left? acts buffer.serial).getD (.zeroed buffer.serial size) ∧
          buffer' = (fresh.left? acts' buffer.serial).getD (.zeroed buffer.serial size) ∧
          (buffer'.bytes = buffer.bytes ↔
            fresh.left? acts' buffer.serial = fresh.left? acts buffer.serial) := by
  intro fresh next next'
  have before : (fresh.run acts').blank = (fresh.run acts).blank := by
    rw [← run_blank, ← run_blank, alike]
  obtain ⟨after, outcome⟩ : next'.1.blank = next.1.blank ∧ next'.2 = next.2 :=
    borrow_of_alike before name
  refine ⟨outcome, stats_of_alike after, fun buffer unused has => ?_⟩
  have unused' : (fresh.run acts').buffer? name = none := by
    simpa [unused] using buffer?_of_alike before name
  obtain ⟨buffer', has', blanks⟩ : ∃ buffer', next'.1.buffer? name = some buffer' ∧
      buffer'.blank = buffer.blank := by
    simpa [has] using buffer?_of_alike after name
  have serial : buffer'.serial = buffer.serial := by
    simpa using congrArg Buffer.serial blanks
  have long : buffer'.size = buffer.size := by
    rw [← buffer'.blank_size, ← buffer.blank_size, blanks]
  have whole : buffer'.bytes = buffer.bytes ↔ buffer' = buffer := by
    refine ⟨fun bytes => ?_, fun same => by rw [same]⟩
    obtain ⟨number, held⟩ := buffer
    obtain rfl : buffer'.serial = number := serial
    obtain rfl : buffer'.bytes = held := bytes
    rfl
  obtain ⟨pool, lent⟩ := borrow_lent unused has
  obtain ⟨pool', lent'⟩ := borrow_lent unused' has'
  refine ⟨buffer', has', serial, long, ?_⟩
  rw [whole]
  have found := run_lent acts lent
  have found' := run_lent acts' lent'
  rw [serial] at found'
  rcases found with ⟨waits, left⟩ | ⟨none_waits, left, zeros⟩
  · rcases found' with ⟨-, left'⟩ | ⟨none_waits', -⟩
    · rw [left, left']
      exact ⟨rfl, rfl, by rw [Option.some_inj]⟩
    · exact absurd ((free_of_alike before).mp none_waits') waits
  · rcases found' with ⟨waits', -⟩ | ⟨-, left', zeros'⟩
    · exact absurd ((free_of_alike before).mpr none_waits) waits'
    · rw [left, left']
      exact ⟨zeros, zeros', fun _ => rfl, fun _ => zeros'.trans zeros.symm⟩

/-- Someone fills a buffer and drops it. -/
def oneTenant (byte : UInt8) : List Act := [.borrow "a", .fill "a" byte, .drop "a"]

theorem run_lends_leavings_oneTenant :
    let fresh : Lending := ⟨.ofBytes 4, []⟩
    let next := (fresh.run (oneTenant 7)).act (.borrow "b")
    let next' := (fresh.run (oneTenant 0)).act (.borrow "b")
    (oneTenant 0).map Act.blank = (oneTenant 7).map Act.blank ∧
      next'.1.pool.stats = next.1.pool.stats ∧
      ∃ buffer, next'.1.buffer? "b" = some buffer ∧ buffer.bytes ≠ [7, 7, 7, 7] := by
  intro fresh next next'
  have alike : (oneTenant 0).map Act.blank = (oneTenant 7).map Act.blank := rfl
  obtain ⟨-, stats, lent⟩ := @run_lends_leavings 4 _ _ alike "b"
  obtain ⟨buffer, has, -, -, -, -, same⟩ := lent ⟨0, [7, 7, 7, 7]⟩ rfl rfl
  exact ⟨alike, stats, buffer, has, fun bytes => absurd (same.mp bytes) (by decide)⟩

/-- The next borrower can tell what was written into a buffer that was dropped since. -/
theorem borrow_carries_over :
    let fresh : Lending := ⟨.ofBytes 4, []⟩
    let next (byte : UInt8) := ((fresh.run (oneTenant byte)).act (.borrow "b")).1
    (oneTenant 0).map Act.blank = (oneTenant 7).map Act.blank ∧
      (fresh.run (oneTenant 0)).held = [] ∧ (fresh.run (oneTenant 7)).held = [] ∧
      ((next 0).act (.read "b" 0 4)).2 = .data [0, 0, 0, 0] ∧
      ((next 7).act (.read "b" 0 4)).2 = .data [7, 7, 7, 7] := by
  decide

end Lending

end StreamRelay
