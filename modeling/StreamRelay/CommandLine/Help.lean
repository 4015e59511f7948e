import StreamRelay.CommandLine.Arguments

set_option autoImplicit false
set_option relaxedAutoImplicit false

namespace StreamRelay.CommandLine

def programName : String := "tls-relay"

def programVersion : String := "0.1.0"

def purpose : String := "Transparent TCP relay with optional TLS termination"

def usage (given : List Flag) : String :=
  let rest := if given.isEmpty then ["[OPTIONS]"] else given.map Flag.shown
  " ".intercalate ("Usage:" :: programName :: rest)

/-- The flags as the help shows them: the letter of a short form, the flag, and what it is for. -/
def helpRows : List (Option Char × String × String) :=
  Flag.all.map (fun flag => (none, flag.shown, flag.help)) ++
    [(some 'h', "--help", "Print help"), (some 'V', "--version", "Print version")]

def padTo (width : Nat) (text : String) : String :=
  text ++ String.ofList (List.replicate (width - text.length) ' ')

def helpRow (width : Nat) : Option Char × String × String → String
  | (none, shown, help) => "      " ++ padTo width shown ++ "  " ++ help
  | (some letter, shown, help) =>
    "  " ++ String.ofList ['-', letter, ','] ++ " " ++ padTo width shown ++ "  " ++ help

def helpLines : List String :=
  let width := (helpRows.map (·.2.1.length)).foldl max 0
  [purpose, "", usage [], "", "Options:"] ++ helpRows.map (helpRow width)

def versionLines : List String := [programName ++ " " ++ programVersion]

def Fault.message : Fault → String
  | .unexpected text _ => s!"unexpected argument '{text}' found"
  | .noValue flag => s!"a value is required for '{flag.shown}' but none was supplied"
  | .badNumber flag text fault => s!"invalid value '{text}' for '{flag.shown}': {fault.message}"
  | .repeated flag => s!"the argument '{flag.shown}' cannot be used multiple times"
  | .needlessValue shown value _ =>
    s!"unexpected value '{value}' for '{shown}' found; no more were expected"

def Fault.usage? : Fault → Option String
  | .unexpected _ given => some (usage given)
  | .noValue _ => none
  | .badNumber _ _ _ => none
  | .repeated _ => some (usage [])
  | .needlessValue _ _ given => some (usage given)

def Fault.lines (fault : Fault) : List String :=
  ["error: " ++ fault.message, ""] ++
    (match fault.usage? with
      | some usage => [usage, ""]
      | none => []) ++
    ["For more information, try '--help'."]

end StreamRelay.CommandLine
