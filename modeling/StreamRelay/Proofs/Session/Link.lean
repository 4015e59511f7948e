import StreamRelay.Session.Link

set_option autoImplicit false
set_option relaxedAutoImplicit false

namespace StreamRelay.Link

/-- The end of the stream is known to the relay only behind the last byte. -/
def IsOrderly (link : Link) : Prop :=
  link.ended = true → link.finished = true ∧ link.underway = []

/-- The party sends no more, and the relay has taken all that it sent. -/
def IsDrained (link : Link) : Prop :=
  link.finished = true ∧ link.arrived = [] ∧ link.underway = []

/-- The relay has shut the stream towards the party and told it so. -/
def HasBidFarewell (link : Link) : Prop := link.writeShut = true ∧ link.farewell = true

theorem IsDrained.sent {link : Link} (drained : link.IsDrained) : link.sent = link.taken := by
  obtain ⟨-, arrived, underway⟩ := drained
  simp [Link.sent, arrived, underway]

theorem taken_prefix_sent (link : Link) : link.taken <+: link.sent :=
  ⟨link.arrived ++ link.underway, by simp [Link.sent]⟩

structure Carries (link : Link) (taken delivered : Bytes) (link' : Link) : Prop where
  taken : link'.taken = link.taken ++ taken
  delivered : link'.delivered = link.delivered ++ delivered
  orderly : link.IsOrderly → link'.IsOrderly
  drained : link.IsDrained → link'.IsDrained
  prompt : link.slowShutdown = false → link'.slowShutdown = false
  writable : link'.writeFault = none → link.writeFault = none
  farewell : link.HasBidFarewell → link'.HasBidFarewell

theorem Carries.refl (link : Link) : Carries link [] [] link where
  taken := by simp
  delivered := by simp
  orderly := id
  drained := id
  prompt := id
  writable := id
  farewell := id

theorem Carries.trans {a b c : Link} {taken delivered taken' delivered' : Bytes}
    (first : Carries a taken delivered b) (second : Carries b taken' delivered' c) :
    Carries a (taken ++ taken') (delivered ++ delivered') c where
  taken := by rw [second.taken, first.taken, List.append_assoc]
  delivered := by rw [second.delivered, first.delivered, List.append_assoc]
  orderly := second.orderly ∘ first.orderly
  drained := second.drained ∘ first.drained
  prompt := second.prompt ∘ first.prompt
  writable := first.writable ∘ second.writable
  farewell := second.farewell ∘ first.farewell

theorem after_carries (link : Link) (event : Event) (prompt : event ≠ .slow true) :
    Carries link [] [] (link.after event) := by
  cases event with
  | send data =>
    cases finished : link.finished with
    | true => simpa [after, finished] using Carries.refl link
    | false =>
      have changed : link.after (.send data) =
          { link with underway := link.underway ++ data } := by simp [after, finished]
      rw [changed]
      refine ⟨by simp, by simp, ?_, ?_, id, id, id⟩
      · intro orderly ended
        have sent_all := (orderly ended).1
        simp [finished] at sent_all
      · intro drained
        have sent_all := drained.1
        simp [finished] at sent_all
  | finish =>
    refine ⟨by simp [after], by simp [after], ?_, ?_, id, id, id⟩
    · intro orderly ended
      exact ⟨rfl, (orderly ended).2⟩
    · intro drained
      exact ⟨rfl, drained.2⟩
  | arrive count =>
    refine ⟨by simp [after], by simp [after], ?_, ?_, id, id, id⟩
    · intro orderly ended
      obtain ⟨finished, underway⟩ := orderly ended
      exact ⟨finished, by simp [after, underway]⟩
    · intro ⟨finished, arrived, underway⟩
      exact ⟨finished, by simp [after, arrived, underway], by simp [after, underway]⟩
  | arriveEnd =>
    refine ⟨by simp [after], by simp [after], ?_, id, id, id, id⟩
    intro orderly ended
    have ended : link.ended = true ∨ link.finished = true ∧ link.underway = [] := by
      simpa [after] using ended
    exact ended.elim orderly id
  | slow waits =>
    cases waits with
    | true => exact (prompt rfl).elim
    | false => exact { Carries.refl link with prompt := fun _ => rfl }
  | breakWrites error => exact { Carries.refl link with writable := by simp [after] }
  | receive count => exact { Carries.refl link with }
  | makeRoom count => exact { Carries.refl link with }
  | breakReads error => exact { Carries.refl link with }

theorem after_unmoved (link : Link) (event : Event) :
    (link.after event).taken = link.taken ∧ (link.after event).delivered = link.delivered ∧
      (link.after event).readShut = link.readShut := by
  cases event with
  | send data =>
    simp only [after]
    split <;> exact ⟨rfl, rfl, rfl⟩
  | _ => exact ⟨rfl, rfl, rfl⟩

theorem read_outcome (link : Link) (room : Nat) :
    (link.arrived ≠ [] ∧
        link.read room = (some (.ok (link.arrived.take room)),
          { link with
            taken := link.taken ++ link.arrived.take room
            arrived := link.arrived.drop room })) ∨
      ∃ reply, link.read room = (reply, link) ∧ ∀ data, reply = some (.ok data) →
        data = [] ∧ (link.readShut = false → link.arrived = [] ∧ link.ended = true) := by
  cases shut : link.readShut with
  | true =>
    refine .inr ⟨some (.ok []), by simp [Link.read, shut], ?_⟩
    intro data told
    cases told
    exact ⟨rfl, by simp⟩
  | false =>
    cases arrived : link.arrived with
    | cons byte bytes => exact .inl ⟨by simp, by simp [Link.read, shut, arrived]⟩
    | nil =>
      refine .inr ?_
      cases fault : link.readFault with
      | some error =>
        exact ⟨some (.error error), by simp [Link.read, shut, arrived, fault], by simp⟩
      | none =>
        cases ended : link.ended with
        | true =>
          refine ⟨some (.ok []), by simp [Link.read, shut, arrived, fault, ended], ?_⟩
          intro data told
          cases told
          exact ⟨rfl, fun _ => ⟨rfl, rfl⟩⟩
        | false =>
          exact ⟨none, by simp [Link.read, shut, arrived, fault, ended], by simp⟩

theorem read_carries {link link' : Link} {room : Nat} {data : Bytes}
    (answered : link.read room = (some (.ok data), link')) :
    Carries link data [] link' ∧ data.length ≤ room ∧
      link'.arrived.length + data.length = link.arrived.length := by
  rcases link.read_outcome room with ⟨there, outcome⟩ | ⟨reply, outcome, brings⟩
  · rw [outcome] at answered
    obtain ⟨rfl, rfl⟩ : link.arrived.take room = data ∧ _ = link' := by simpa using answered
    refine ⟨⟨rfl, by simp, id, ?_, id, id, id⟩, List.length_take_le .., ?_⟩
    · intro drained
      exact (there drained.2.1).elim
    · show (link.arrived.drop room).length + (link.arrived.take room).length =
        link.arrived.length
      rw [List.length_drop, List.length_take]
      omega
  · rw [outcome] at answered
    obtain ⟨rfl, rfl⟩ : reply = some (.ok data) ∧ link = link' := by simpa using answered
    obtain ⟨rfl, -⟩ := brings data rfl
    exact ⟨.refl link, by simp, by simp⟩

theorem read_readShut (link : Link) (room : Nat) :
    (link.read room).2.readShut = link.readShut := by
  rcases link.read_outcome room with ⟨-, outcome⟩ | ⟨reply, outcome, -⟩ <;> rw [outcome]

theorem read_unchanged {link link' : Link} {room : Nat} {reply : Option (Except IoError Bytes)}
    (answered : link.read room = (reply, link')) (bytes : ∀ data, reply ≠ some (.ok data)) :
    link' = link := by
  rcases link.read_outcome room with ⟨-, outcome⟩ | ⟨reply', outcome, -⟩
  · rw [outcome] at answered
    exact (bytes _ (Prod.mk.inj answered).1.symm).elim
  · rw [outcome] at answered
    exact (Prod.mk.inj answered).2.symm

theorem drained_of_read {link link' : Link} {room : Nat} (orderly : link.IsOrderly)
    (unshut : link.readShut = false) (room_pos : 0 < room)
    (answered : link.read room = (some (.ok []), link')) : link'.IsDrained := by
  rcases link.read_outcome room with ⟨there, outcome⟩ | ⟨reply, outcome, brings⟩
  · rw [outcome] at answered
    obtain ⟨none, -⟩ : link.arrived.take room = [] ∧ _ = link' := by simpa using answered
    rcases List.take_eq_nil_iff.mp none with none | none
    · omega
    · exact (there none).elim
  · rw [outcome] at answered
    obtain ⟨rfl, rfl⟩ : reply = some (.ok []) ∧ link = link' := by simpa using answered
    obtain ⟨arrived, ended⟩ := (brings [] rfl).2 unshut
    obtain ⟨finished, underway⟩ := orderly ended
    exact ⟨finished, arrived, underway⟩

private theorem write_outcome (link : Link) (data : Bytes) :
    (0 < link.room ∧
        link.write data = (some (.ok (min link.room data.length)),
          { link with
            delivered := link.delivered ++ data.take (min link.room data.length)
            room := link.room - min link.room data.length })) ∨
      ∃ reply, link.write data = (reply, link) ∧ ∀ count, reply ≠ some (.ok count) := by
  cases shut : link.writeShut with
  | true => exact .inr ⟨some (.error brokenPipe), by simp [Link.write, shut], by simp⟩
  | false =>
    cases fault : link.writeFault with
    | some error =>
      exact .inr ⟨some (.error error), by simp [Link.write, shut, fault], by simp⟩
    | none =>
      by_cases full : link.room = 0
      · exact .inr ⟨none, by simp [Link.write, shut, fault, full], by simp⟩
      · exact .inl ⟨by omega, by simp [Link.write, shut, fault, full]⟩

theorem write_carries {link link' : Link} {data : Bytes} {count : Nat}
    (answered : link.write data = (some (.ok count), link')) :
    Carries link [] (data.take count) link' ∧ count ≤ data.length := by
  rcases link.write_outcome data with ⟨-, outcome⟩ | ⟨reply, outcome, takes⟩
  · rw [outcome] at answered
    obtain ⟨rfl, rfl⟩ : min link.room data.length = count ∧ _ = link' := by simpa using answered
    exact ⟨⟨by simp, rfl, id, id, id, id, id⟩, by omega⟩
  · rw [outcome] at answered
    exact (takes count (Prod.mk.inj answered).1).elim

theorem write_readShut (link : Link) (data : Bytes) :
    (link.write data).2.readShut = link.readShut := by
  rcases link.write_outcome data with ⟨-, outcome⟩ | ⟨reply, outcome, -⟩ <;> rw [outcome]

theorem write_unchanged {link link' : Link} {data : Bytes} {reply : Option (Except IoError Nat)}
    (answered : link.write data = (reply, link')) (taken : ∀ count, reply ≠ some (.ok count)) :
    link' = link := by
  rcases link.write_outcome data with ⟨-, outcome⟩ | ⟨reply', outcome, -⟩
  · rw [outcome] at answered
    exact (taken _ (Prod.mk.inj answered).1.symm).elim
  · rw [outcome] at answered
    exact (Prod.mk.inj answered).2.symm

private theorem shut_outcome (link : Link) (read write : Bool) :
    link.shut read write = (.ok (),
        { link with
          readShut := link.readShut || read
          writeShut := link.writeShut || write }) ∨
      link.writeFault ≠ none ∧ link.shut read write = (.error notConnected, link) := by
  by_cases gone : (link.control && link.writeFault.isSome) = true
  · refine .inr ⟨?_, by simp [Link.shut, gone]⟩
    intro none
    simp [none] at gone
  · exact .inl (by simp [Link.shut, gone])

theorem shut_carries (link : Link) (read write : Bool) :
    Carries link [] [] (link.shut read write).2 := by
  rcases link.shut_outcome read write with outcome | ⟨-, outcome⟩
  · rw [outcome]
    refine ⟨by simp, by simp, id, id, id, id, ?_⟩
    intro ⟨shut, told⟩
    exact ⟨by simp [shut], told⟩
  · rw [outcome]
    exact .refl link

theorem shut_arrived (link : Link) (read write : Bool) :
    (link.shut read write).2.arrived = link.arrived := by
  rcases link.shut_outcome read write with outcome | ⟨-, outcome⟩ <;> rw [outcome]

theorem shutdown_outcome {link : Link} (prompt : link.slowShutdown = false) :
    (∃ link', link.shutdown = (some (.ok ()), link') ∧ Carries link [] [] link' ∧
        link'.HasBidFarewell ∧ link'.readShut = link.readShut) ∨
      link.writeFault ≠ none ∧ ∃ error, link.shutdown = (some (.error error), link) := by
  rcases link.shut_outcome false true with outcome | ⟨gone, outcome⟩
  · refine .inl ⟨{ link with writeShut := true, farewell := true }, ?_, ?_, ⟨rfl, rfl⟩, rfl⟩
    · simp [Link.shutdown, prompt, outcome]
    · exact { Carries.refl link with farewell := fun _ => ⟨rfl, rfl⟩ }
  · exact .inr ⟨gone, notConnected, by simp [Link.shutdown, prompt, outcome]⟩

theorem shutdown_none {link link' : Link} (silent : link.shutdown = (none, link')) :
    link.slowShutdown = true ∧ link' = link := by
  cases slow : link.slowShutdown with
  | true =>
    obtain rfl : link = link' := by simpa [Link.shutdown, slow] using silent
    exact ⟨rfl, rfl⟩
  | false =>
    rcases shutdown_outcome slow with ⟨done, outcome, -⟩ | ⟨-, error, outcome⟩
    · simp [outcome] at silent
    · simp [outcome] at silent

theorem shutdown_carries {link link' : Link} {reply : Option (Except IoError Unit)}
    (responds : link.shutdown = (reply, link')) : Carries link [] [] link' := by
  cases slow : link.slowShutdown with
  | true =>
    obtain rfl : link = link' := by
      rw [Link.shutdown, if_pos slow] at responds
      exact (Prod.mk.inj responds).2
    exact .refl link
  | false =>
    rcases shutdown_outcome slow with ⟨done, outcome, carries, -⟩ | ⟨-, error, outcome⟩
    · rw [outcome] at responds
      exact (Prod.mk.inj responds).2 ▸ carries
    · rw [outcome] at responds
      exact (Prod.mk.inj responds).2 ▸ .refl link

theorem forceClosed_carries (link : Link) : Carries link [] [] link.forceClosed := by
  unfold forceClosed
  split
  · exact { Carries.refl link with farewell := fun ⟨_, told⟩ => ⟨rfl, told⟩ }
  · exact .refl link

end StreamRelay.Link
