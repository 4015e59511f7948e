import StreamRelay.Log
import StreamRelay.Text.Blank

/-!
# Filters of the log

A filter is written as rules with commas between them: a level, or the front of an origin's name
with or without a level. Of the rules that an origin falls under, the one with the longest name
decides. Behind a slash may stand a text that messages must contain.
-/

set_option autoImplicit false
set_option relaxedAutoImplicit false

namespace StreamRelay.Log

/-- The gravest levels up to a limit, if any, for origins whose name starts with a given text. -/
structure Rule where
  name : List Char
  limit : Option Level
deriving DecidableEq, Repr

structure Filter where
  rules : List Rule
  required : Option (List Char)
deriving DecidableEq, Repr

def rank : Level → Nat
  | .error => 1
  | .warn => 2
  | .info => 3
  | .debug => 4
  | .trace => 5

def Rule.admits (rule : Rule) (level : Level) : Bool :=
  rule.limit.any fun limit => rank level ≤ rank limit

/-- Whether some characters occur in others in one piece. -/
def occursIn (part : List Char) : List Char → Bool
  | [] => part.isEmpty
  | c :: cs => part.isPrefixOf (c :: cs) || occursIn part cs

/-- The rule of the longest name that fits decides; of names of one length the last one. -/
def Filter.deciding? (filter : Filter) (name : List Char) : Option Rule :=
  (filter.rules.filter (·.name.isPrefixOf name)).foldl (fun best rule =>
    match best with
    | none => some rule
    | some held => if held.name.length ≤ rule.name.length then some rule else best) none

def Filter.admits (filter : Filter) (entry : Entry) : Bool :=
  (filter.deciding? entry.origin.name.toList).any (·.admits entry.level) &&
    filter.required.all fun part => occursIn part entry.message.toList

def limit? (cs : List Char) : Option (Option Level) :=
  let name := String.ofList (cs.map Char.toLower)
  if name == "off" then some none else (Level.named? name).map some

def partsAt (mark : Char) : List Char → List (List Char)
  | [] => [[]]
  | c :: cs =>
    if c = mark then [] :: partsAt mark cs
    else
      match partsAt mark cs with
      | part :: parts => (c :: part) :: parts
      | [] => [[c]]

def readRule (text : List Char) : Except (List Char) Rule :=
  match partsAt '=' text with
  | [name] =>
    match limit? name with
    | some limit => .ok ⟨[], limit⟩
    | none => .ok ⟨name, some .trace⟩
  | [name, level] =>
    let level := Text.trimChars level
    if level.isEmpty then .ok ⟨name, some .trace⟩
    else
      match limit? level with
      | some limit => .ok ⟨name, limit⟩
      | none => .error level
  | _ => .error text

def addRule (rules : List Rule) (rule : Rule) : List Rule :=
  if rules.any (·.name = rule.name) then
    rules.map fun held => if held.name = rule.name then rule else held
  else rules ++ [rule]

def warning (text : List Char) (reason : String) : String :=
  s!"warning: invalid logging spec '{String.ofList text}'{reason}, ignoring it"

/-- A filter of rules; without any rule only errors pass. -/
def Filter.ofRules (rules : List Rule) (required : Option (List Char)) : Filter :=
  ⟨if rules.isEmpty then [⟨[], some .error⟩] else rules, required⟩

def Filter.read (text : String) : Filter × List String :=
  match partsAt '/' text.toList with
  | rules :: rest =>
    if 1 < rest.length then (.ofRules [] none, [warning text.toList " (too many '/'s)"])
    else
      let read := ((partsAt ',' rules).map Text.trimChars).filter (!·.isEmpty) |>.map readRule
      let (rules, warnings) := read.foldl (fun (state : List Rule × List String) result =>
        match result with
        | .ok rule => (addRule state.1 rule, state.2)
        | .error part => (state.1, state.2 ++ [warning part ""])) ([], [])
      (.ofRules rules rest.head?, warnings)
  | [] => (.ofRules [] none, [])

end StreamRelay.Log
