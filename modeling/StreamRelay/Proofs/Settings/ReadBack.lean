import StreamRelay.Proofs.CommandLine.Flags
import StreamRelay.Proofs.Json.Objects
import StreamRelay.Proofs.Settings.Environment

set_option autoImplicit false
set_option relaxedAutoImplicit false

namespace StreamRelay.Settings

/-- Overrides are read back from whatever writes them: JSON, an environment, or flags. -/
theorem Overrides.read_written (o : Overrides) :
    ((∃ text, Json.Padded (Json.Object o) text) ∧
        ∀ text, Json.Padded (Json.Object o) text → fromJson text = .ok o) ∧
      (∀ stem, (o.environment stem).Holds stem o ∧
        ∀ env : Environment, env.Holds stem o → fromEnvironment env stem = .ok o) ∧
      ((o.tlsEnabled ≠ some false → ∃ arguments : CommandLine.Arguments, arguments.Give o) ∧
        ∀ arguments : CommandLine.Arguments, arguments.Give o → arguments.overrides = o) ∧
      ∀ fields texts, fields.Nodup → (∀ field, o.get field ≠ none → field ∈ fields) →
        CommandLine.GivesAll o fields texts →
          ∃ arguments, CommandLine.read texts = .ok (.run arguments) ∧
            arguments.overrides = o ∧ arguments.configFile = none := by
  refine ⟨⟨Json.exists_object o, ?_⟩, ?_, ⟨fun kept => ?_, fun arguments => ?_⟩, ?_⟩
  · intro text written
    rw [fromJson, Json.readOverrides_object written]
  · intro stem
    exact ⟨o.environment_holds stem, fun env holds => fromEnvironment_holds holds⟩
  · exact ⟨_, CommandLine.Arguments.overrides_eq_iff.mp
      (CommandLine.Arguments.overrides_giving kept)⟩
  · exact CommandLine.Arguments.overrides_eq_iff.mpr
  · intro fields texts distinct covered gives
    obtain ⟨read, same⟩ := gives.read distinct covered
    exact ⟨_, read, same, rfl⟩

def keyed : Overrides := { bufferSize := some (-8), certFilePath := some "🔑" }

/-- A surrogate pair, a member of `null`, a key with an escape, and all kinds of white space. -/
def keyedText : Bytes := Bytes.ofText
  "\x7b\t\"cert_file_path\" :\n\"\\uD83d\\udd11\",\"log_level\":null\r, \"\\u0062uffer_size\":-8\x7d"

private theorem path_keyed : Json.Member keyed .certFilePath
    (Bytes.ofText "\"cert_file_path\" :\n\"\\uD83d\\udd11\"") := by
  have high : Json.HexWord 0xD83D (Bytes.ofText "D83d") :=
    .mk (by decide) (by decide) (by decide) (by decide)
  have low : Json.HexWord 0xDD11 (Bytes.ofText "dd11") :=
    .mk (by decide) (by decide) (by decide) (by decide)
  have beyond : 0x10000 ≤ '🔑'.toNat := by decide
  have spelt : Json.SpellsAll "🔑".toList _ := .cons (.pair beyond high low) .nil
  have value : Json.WritesOption .path (keyed.get .certFilePath) _ := Json.Quotes.mk spelt
  have space : Json.IsSpaces [0x20] := by decide
  have line : Json.IsSpaces [0x0A] := by decide
  have written : Json.Member keyed .certFilePath _ := .mk (.name .certFilePath) space line value
  exact written

private theorem level_keyed : Json.Member keyed .logLevel (Bytes.ofText "\"log_level\":null") := by
  have value : Json.WritesOption .text (keyed.get .logLevel) (Bytes.ofText "null") := rfl
  exact .mk (.name .logLevel) Json.isSpaces_nil Json.isSpaces_nil value

private theorem size_keyed : Json.Member keyed .bufferSize
    (Bytes.ofText "\"\\u0062uffer_size\":-8") := by
  have word : Json.HexWord 'b'.toNat (Bytes.ofText "0062") :=
    .mk (by decide) (by decide) (by decide) (by decide)
  have plain : Json.SpellsAll "uffer_size".toList _ := .raw (by decide)
  have spelt : Json.SpellsAll "buffer_size".toList _ := .cons (.word word) plain
  have value : Json.WritesOption .number (keyed.get .bufferSize) (Bytes.ofText "-8") := by
    change Bytes.ofText "-8" = Bytes.ofText (Shape.plain .number (-8))
    decide
  have name : Json.Quotes (Field.name .bufferSize) _ := .mk spelt
  exact .mk name Json.isSpaces_nil Json.isSpaces_nil value

private theorem object_keyed : Json.Padded (Json.Object keyed) keyedText := by
  have tab : Json.IsSpaces [0x09] := by decide
  have line : Json.IsSpaces [0x0D] := by decide
  have space : Json.IsSpaces [0x20] := by decide
  have bare := Json.isSpaces_nil
  have covered : ∀ field, keyed.get field ≠ none →
      field ∈ [Field.certFilePath, .logLevel, .bufferSize] := by
    intro field
    cases field <;> decide
  have members : Json.Separated (Json.Member keyed) [.certFilePath, .logLevel, .bufferSize] _ :=
    .more (.mk tab path_keyed bare) (.more (.mk bare level_keyed line)
      (.one (.mk space size_keyed bare)))
  have object := Json.Object.mk (by decide) covered members
  exact .bare object

private theorem flags_keyed : CommandLine.GivesAll keyed [.certFilePath, .bufferSize]
    ["--cert-file-path", "🔑", "--buffer-size=-8"] := by
  have size : CommandLine.Gives .bufferSize (Shape.plain .number (-8)) ["--buffer-size=-8"] :=
    .joined (by decide)
  have path : CommandLine.Gives .certFilePath "🔑" ["--cert-file-path", "🔑"] := by
    refine .apart (by decide) ?_
    intro c cs same
    have first := congrArg List.head? same
    exact absurd first (by rw [List.head?_cons]; decide)
  have sizes : CommandLine.GivesAll keyed [.bufferSize] _ := .cons rfl (by decide) size .nil
  exact .cons rfl (by decide) path sizes

theorem read_written_keyed :
    fromJson keyedText = .ok keyed ∧
      fromEnvironment (keyed.environment defaultStem) defaultStem = .ok keyed ∧
      ({ bufferSize := some (-8), certFilePath := some "🔑" } :
        CommandLine.Arguments).overrides = keyed ∧
      ∃ arguments,
        CommandLine.read ["--cert-file-path", "🔑", "--buffer-size=-8"] = .ok (.run arguments) ∧
          arguments.overrides = keyed ∧ arguments.configFile = none := by
  have covered : ∀ field, keyed.get field ≠ none → field ∈ [Field.certFilePath, .bufferSize] := by
    intro field
    cases field <;> decide
  obtain ⟨⟨-, json⟩, environment, ⟨-, given⟩, flags⟩ := Overrides.read_written keyed
  exact ⟨json keyedText object_keyed,
    (environment defaultStem).2 _ (environment defaultStem).1,
    given _ ⟨rfl, rfl, rfl, nofun, fun _ => rfl, rfl, rfl, rfl, rfl⟩,
    flags _ _ (by decide) covered flags_keyed⟩

end StreamRelay.Settings
