import StreamRelay.Proofs.Number.Decimal
import StreamRelay.Settings.Overrides

set_option autoImplicit false
set_option relaxedAutoImplicit false

namespace StreamRelay.Settings

theorem Field.mem_all (field : Field) : field ∈ Field.all := by
  cases field <;> decide

/-- A value in plain text: numbers in decimal, switches as words. -/
def Shape.plain : (shape : Shape) → shape.Value → String
  | .text, s => s
  | .path, s => s
  | .switch, on => if on then "true" else "false"
  | .number, n => String.ofList (Number.decimal n.toInt)

namespace Overrides

theorem eq_of_get {o p : Overrides} (same : ∀ field, o.get field = p.get field) : o = p := by
  cases o
  cases p
  simp only [mk.injEq]
  exact ⟨same .listenAddr, same .backendAddr, same .bufferSize, same .tlsEnabled,
    same .certFilePath, same .keyFilePath, same .connectTimeout, same .logLevel⟩

/-- What comes of `start` when some settings, one after the other, are set to what `o` gives. -/
def copied (o start : Overrides) (fields : List Field) : Overrides :=
  fields.foldl (fun filled field => filled.set field (o.get field)) start

theorem get_copied (o start : Overrides) (fields : List Field) (field : Field) :
    (o.copied start fields).get field =
      if field ∈ fields then o.get field else start.get field := by
  induction fields generalizing start with
  | nil => rfl
  | cons first fields ih =>
    have step : o.copied start (first :: fields) =
        o.copied (start.set first (o.get first)) fields := rfl
    rw [step, ih]
    by_cases same : field = first
    · subst same
      simp
    · simp [same, get_set_of_ne]

theorem get_unset (field : Field) : unset.get field = none := by
  cases field <;> rfl

theorem copied_unset {o : Overrides} {fields : List Field}
    (covered : ∀ field, o.get field ≠ none → field ∈ fields) : o.copied unset fields = o := by
  apply eq_of_get
  intro field
  rw [get_copied, get_unset]
  split
  · rfl
  · rename_i missing
    exact (Decidable.not_not.mp fun given => missing (covered field given)).symm

theorem mem_of_eq_copied {o : Overrides} {fields : List Field} (same : o = o.copied unset fields)
    (field : Field) (given : o.get field ≠ none) : field ∈ fields := by
  rw [same, get_copied, get_unset] at given
  exact Decidable.not_not.mp fun missing => given (if_neg missing)

end Overrides

end StreamRelay.Settings
