import StreamRelay.Bytes
import StreamRelay.Proofs.Settings.Overrides

/-!
# The grammar of settings in JSON

Which texts write given settings as a JSON object, said without reference to how they are read. A
string has many spellings, and so has an object: its members stand in any order, a setting without
a value has a member of `null` or none, and there is white space between any two tokens. Main
statement: all overrides have such a text.
-/

set_option autoImplicit false
set_option relaxedAutoImplicit false

namespace StreamRelay.Json

open Settings (Field Overrides Shape)

def IsSpaces (text : Bytes) : Prop := ∀ b ∈ text, b ∈ ([0x20, 0x09, 0x0A, 0x0D] : Bytes)

instance (text : Bytes) : Decidable (IsSpaces text) :=
  List.decidableBAll (· ∈ ([0x20, 0x09, 0x0A, 0x0D] : Bytes)) text

inductive Padded (inner : Bytes → Prop) : Bytes → Prop
  | mk {before text after : Bytes} : IsSpaces before → inner text → IsSpaces after →
      Padded inner (before ++ text ++ after)

inductive Separated {α : Type} (item : α → Bytes → Prop) : List α → Bytes → Prop
  | none {space : Bytes} : IsSpaces space → Separated item [] space
  | one {a : α} {text : Bytes} : Padded (item a) text → Separated item [a] text
  | more {a b : α} {rest : List α} {text others : Bytes} : Padded (item a) text →
      Separated item (b :: rest) others →
      Separated item (a :: b :: rest) (text ++ ','.toUInt8 :: others)

def HexDigit (n : Nat) (b : UInt8) : Prop :=
  n < 16 ∧ (b = (Nat.digitChar n).toUInt8 ∨ b = (Nat.digitChar n).toUpper.toUInt8)

instance (n : Nat) (b : UInt8) : Decidable (HexDigit n b) :=
  inferInstanceAs (Decidable (n < 16 ∧ (_ ∨ _)))

inductive HexWord (n : Nat) : Bytes → Prop
  | mk {a b c d : UInt8} : HexDigit (n / 0x1000) a → HexDigit (n / 0x100 % 16) b →
      HexDigit (n / 0x10 % 16) c → HexDigit (n % 16) d → HexWord n [a, b, c, d]

/-- The characters with an escape of one letter, and their letters. -/
def letterEscapes : List (Char × Char) :=
  [('"', '"'), ('\\', '\\'), ('/', '/'), (Char.ofNat 0x08, 'b'), (Char.ofNat 0x0C, 'f'),
    ('\n', 'n'), ('\r', 'r'), ('\t', 't')]

/-- The spellings of a character in a string. -/
inductive Spells (c : Char) : Bytes → Prop
  | raw : c ≠ '"' → c ≠ '\\' → 0x20 ≤ c.toNat → Spells c (String.utf8EncodeChar c)
  | letter {letter : Char} : (c, letter) ∈ letterEscapes →
      Spells c ['\\'.toUInt8, letter.toUInt8]
  | word {word : Bytes} : HexWord c.toNat word → Spells c ('\\'.toUInt8 :: 'u'.toUInt8 :: word)
  | pair {high low : Bytes} : 0x10000 ≤ c.toNat →
      HexWord (0xD800 + (c.toNat - 0x10000) / 0x400) high →
      HexWord (0xDC00 + (c.toNat - 0x10000) % 0x400) low →
      Spells c ('\\'.toUInt8 :: 'u'.toUInt8 :: high ++ '\\'.toUInt8 :: 'u'.toUInt8 :: low)

inductive SpellsAll : List Char → Bytes → Prop
  | nil : SpellsAll [] []
  | cons {c : Char} {cs : List Char} {text rest : Bytes} : Spells c text → SpellsAll cs rest →
      SpellsAll (c :: cs) (text ++ rest)

inductive Quotes (s : String) : Bytes → Prop
  | mk {body : Bytes} : SpellsAll s.toList body →
      Quotes s ('"'.toUInt8 :: body ++ ['"'.toUInt8])

/-- A value as it is written: texts and paths as strings, switches and numbers in plain text. -/
def Writes : (shape : Shape) → shape.Value → Bytes → Prop
  | .text, s, text => Quotes s text
  | .path, s, text => Quotes s text
  | .switch, on, text => text = Bytes.ofText (Shape.plain .switch on)
  | .number, n, text => text = Bytes.ofText (Shape.plain .number n)

/-- A value as it is written, or `null` in place of none. -/
def WritesOption (shape : Shape) : Option shape.Value → Bytes → Prop
  | none, text => text = Bytes.ofText "null"
  | some value, text => Writes shape value text

inductive Member (o : Overrides) (field : Field) : Bytes → Prop
  | mk {key before after value : Bytes} : Quotes field.name key → IsSpaces before →
      IsSpaces after → WritesOption field.shape (o.get field) value →
      Member o field (key ++ before ++ ':'.toUInt8 :: after ++ value)

/-- An object that writes `o`. Its members are distinct, and what has no member has no value. -/
inductive Object (o : Overrides) : Bytes → Prop
  | mk {fields : List Field} {body : Bytes} : fields.Nodup →
      (∀ field, o.get field ≠ none → field ∈ fields) → Separated (Member o) fields body →
      Object o (0x7B :: body ++ [0x7D])

/-- An element of a list: what `o` gives for a setting. -/
def Element (o : Overrides) (field : Field) : Bytes → Prop :=
  WritesOption field.shape (o.get field)

/-- A list that writes `o`. Its elements belong to the first settings, in their order. -/
inductive Listing (o : Overrides) : Bytes → Prop
  | mk {fields : List Field} {body : Bytes} : fields <+: Field.all →
      (∀ field, o.get field ≠ none → field ∈ fields) → Separated (Element o) fields body →
      Listing o ('['.toUInt8 :: body ++ [']'.toUInt8])

theorem isSpaces_nil : IsSpaces [] := by
  intro b none
  cases none

theorem Padded.bare {inner : Bytes → Prop} {text : Bytes} (written : inner text) :
    Padded inner text := by
  have padded := Padded.mk isSpaces_nil written isSpaces_nil
  simpa using padded

private theorem exists_hexWord {n : Nat} (small : n < 0x10000) : ∃ word, HexWord n word := by
  have digit (m : Nat) (small : m < 16) : HexDigit m (Nat.digitChar m).toUInt8 :=
    ⟨small, .inl rfl⟩
  exact ⟨_, ⟨digit _ (by omega), digit _ (by omega), digit _ (by omega), digit _ (by omega)⟩⟩

private theorem exists_spells (c : Char) : ∃ text, Spells c text := by
  by_cases quote : c = '"'
  · have listed : (c, '"') ∈ letterEscapes := by simp [quote, letterEscapes]
    exact ⟨_, .letter listed⟩
  by_cases escape : c = '\\'
  · have listed : (c, '\\') ∈ letterEscapes := by simp [escape, letterEscapes]
    exact ⟨_, .letter listed⟩
  by_cases control : c.toNat < 0x20
  · obtain ⟨word, spelt⟩ := exists_hexWord (n := c.toNat) (by omega)
    exact ⟨_, .word spelt⟩
  · exact ⟨_, .raw quote escape (by omega)⟩

private theorem exists_spellsAll (cs : List Char) : ∃ text, SpellsAll cs text := by
  induction cs with
  | nil => exact ⟨[], .nil⟩
  | cons c cs ih =>
    obtain ⟨text, first⟩ := exists_spells c
    obtain ⟨rest, others⟩ := ih
    exact ⟨text ++ rest, .cons first others⟩

theorem SpellsAll.raw {cs : List Char}
    (plain : cs.all (fun c => c ≠ '"' ∧ c ≠ '\\' ∧ 0x20 ≤ c.toNat) = true) :
    SpellsAll cs (cs.flatMap String.utf8EncodeChar) := by
  induction cs with
  | nil => exact .nil
  | cons c cs ih =>
    rw [List.all_cons, Bool.and_eq_true, decide_eq_true_eq] at plain
    obtain ⟨⟨quote, escape, printable⟩, others⟩ := plain
    exact .cons (.raw quote escape printable) (ih others)

theorem Quotes.name (field : Field) :
    Quotes field.name ('"'.toUInt8 :: Bytes.ofText field.name ++ ['"'.toUInt8]) := by
  refine ⟨.raw ?_⟩
  cases field <;> decide

private theorem exists_quotes (s : String) : ∃ text, Quotes s text := by
  obtain ⟨body, spelt⟩ := exists_spellsAll s.toList
  exact ⟨_, ⟨spelt⟩⟩

private theorem exists_writes (shape : Shape) (value : shape.Value) :
    ∃ text, Writes shape value text := by
  cases shape with
  | text | path => exact exists_quotes value
  | switch | number => exact ⟨_, rfl⟩

private theorem exists_member (o : Overrides) (field : Field) : ∃ text, Member o field text := by
  have written : ∃ value, WritesOption field.shape (o.get field) value := by
    cases o.get field with
    | none => exact ⟨_, rfl⟩
    | some value => exact exists_writes field.shape value
  obtain ⟨value, written⟩ := written
  exact ⟨_, ⟨.name field, isSpaces_nil, isSpaces_nil, written⟩⟩

private theorem exists_separated (o : Overrides) (fields : List Field) :
    ∃ body, Separated (Member o) fields body := by
  induction fields with
  | nil => exact ⟨[], .none isSpaces_nil⟩
  | cons field fields ih =>
    obtain ⟨text, member⟩ := exists_member o field
    obtain ⟨others, separated⟩ := ih
    cases fields with
    | nil => exact ⟨text, .one (.bare member)⟩
    | cons next fields => exact ⟨_, .more (.bare member) separated⟩

theorem exists_object (o : Overrides) : ∃ text, Padded (Object o) text := by
  obtain ⟨body, members⟩ := exists_separated o Field.all
  exact ⟨_, .bare ⟨by decide, fun field _ => field.mem_all, members⟩⟩

end StreamRelay.Json
