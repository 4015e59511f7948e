import StreamRelay.Net.HostPort
import StreamRelay.Proofs.Number.Decimal

set_option autoImplicit false
set_option relaxedAutoImplicit false

namespace StreamRelay.Net

theorem splitAtLastColon_eq_none {cs : List Char} (plain : ':' ∉ cs) :
    splitAtLastColon cs = none := by
  induction cs with
  | nil => rfl
  | cons c cs ih =>
    rw [List.mem_cons, not_or] at plain
    simp [splitAtLastColon, ih plain.2, Ne.symm plain.1]

theorem splitAtLastColon_append (before : List Char) {after : List Char} (plain : ':' ∉ after) :
    splitAtLastColon (before ++ ':' :: after) = some (before, after) := by
  induction before with
  | nil => simp [splitAtLastColon, splitAtLastColon_eq_none plain]
  | cons c before ih => simp [splitAtLastColon, ih]

def bracketed (host : List Char) : List Char :=
  if host.contains ':' then '[' :: host ++ [']'] else host

theorem bracketed_of_mem {host : List Char} (colon : ':' ∈ host) :
    bracketed host = '[' :: host ++ [']'] := by
  simp [bracketed, colon]

theorem bracketed_of_not_mem {host : List Char} (plain : ':' ∉ host) : bracketed host = host := by
  simp [bracketed, plain]

private theorem bracketed_injective {host host' : List Char}
    (same : bracketed host = bracketed host') : host = host' := by
  by_cases colon : ':' ∈ host <;> by_cases colon' : ':' ∈ host'
  · rw [bracketed_of_mem colon, bracketed_of_mem colon'] at same
    simpa using same
  · rw [bracketed_of_mem colon, bracketed_of_not_mem colon'] at same
    subst same
    simp [colon] at colon'
  · rw [bracketed_of_not_mem colon, bracketed_of_mem colon'] at same
    subst same
    simp [colon'] at colon
  · rwa [bracketed_of_not_mem colon, bracketed_of_not_mem colon'] at same

namespace HostPort

theorem toList_join (hp : HostPort) :
    hp.join.toList = bracketed hp.host.toList ++ ':' :: Nat.toDigits 10 hp.port.toNat := by
  by_cases colon : ':' ∈ hp.host.toList
  · simp [join, bracketed, colon]
  · simp [join, bracketed, colon]

private theorem splitAtLastColon_join (hp : HostPort) :
    splitAtLastColon hp.join.toList =
      some (bracketed hp.host.toList, Nat.toDigits 10 hp.port.toNat) := by
  rw [toList_join]
  exact splitAtLastColon_append _ (Number.not_mem_toDigits (by decide) _)

private theorem split_join (hp : HostPort) :
    split hp.join =
      (hostOf (bracketed hp.host.toList)).map fun host => ⟨String.ofList host, hp.port⟩ := by
  rw [split, splitAtLastColon_join]
  simp only [Number.readWord_toDigits]
  cases hostOf (bracketed hp.host.toList) <;> rfl

theorem join_injective {hp hp' : HostPort} (same : hp.join = hp'.join) : hp = hp' := by
  have apart := splitAtLastColon_join hp
  rw [same, splitAtLastColon_join hp'] at apart
  obtain ⟨hosts, ports⟩ := Prod.mk.inj (Option.some.inj apart)
  have host : hp.host = hp'.host := String.toList_inj.mp (bracketed_injective hosts).symm
  have port : hp.port = hp'.port := by
    have read := Number.readWord_toDigits hp.port
    rw [← ports, Number.readWord_toDigits] at read
    exact (Except.ok.inj read).symm
  cases hp
  cases hp'
  exact congr (congrArg mk host) port

/-- A host that has a colon, or that does not begin with a bracket. -/
def IsPlain (hp : HostPort) : Prop :=
  ':' ∈ hp.host.toList ∨ hp.host.toList.head? ≠ some '['

private theorem hostOf_bracketed_iff (host : List Char) :
    hostOf (bracketed host) = .ok host ↔ ':' ∈ host ∨ host.head? ≠ some '[' := by
  by_cases colon : ':' ∈ host
  · have read : hostOf (bracketed host) = .ok host := by
      rw [bracketed_of_mem colon]
      simp [hostOf]
    simp [read, colon]
  · rw [bracketed_of_not_mem colon]
    cases host with
    | nil => simp [hostOf]
    | cons c inner =>
      by_cases bracket : c = '['
      · subst bracket
        have shorter : inner.dropLast ≠ '[' :: inner := by
          intro same
          have lengths := congrArg List.length same
          simp only [List.length_dropLast, List.length_cons] at lengths
          omega
        by_cases closed : inner.getLast? = some ']'
        · simp [hostOf, closed, shorter, colon]
        · simp [hostOf, closed, colon]
      · have read : hostOf (c :: inner) = .ok (c :: inner) := by
          unfold hostOf
          split
          · simp_all
          · rw [if_neg (by simpa using colon)]
        simp [read, bracket]

theorem split_join_iff (hp : HostPort) : split hp.join = .ok hp ↔ hp.IsPlain := by
  rw [split_join, IsPlain, ← hostOf_bracketed_iff]
  cases read : hostOf (bracketed hp.host.toList) with
  | error fault => simp [Except.map]
  | ok host =>
    simp only [Except.map, Except.ok.injEq]
    constructor
    · intro same
      rw [← same]
      simp
    · rintro rfl
      simp

end HostPort

end StreamRelay.Net
