import StreamRelay.Text.CaseTable

set_option autoImplicit false
set_option relaxedAutoImplicit false

namespace StreamRelay.Text

def isCased (c : Char) : Bool := casedRanges.covers c.toNat

def isCaseIgnorable (c : Char) : Bool := caseIgnorableRanges.covers c.toNat

def lowerChar (c : Char) : List Char :=
  if c.toNat == 0x130 then ['i', Char.ofNat 0x307]
  else match lowerRuns.find? (·.covers c.toNat) with
    | some run => [Char.ofNat ((c.toNat : Int) + run.offset).toNat]
    | none => [c]

def meetsCased (cs : List Char) : Bool :=
  ((cs.dropWhile isCaseIgnorable).head?.map isCased).getD false

/-- A capital sigma is final when cased text stands before it and none after it. -/
def lowerSigma (before after : List Char) : Char :=
  if meetsCased before && !meetsCased after then Char.ofNat 0x3C2 else Char.ofNat 0x3C3

/-- The lower-case form of `after`, which stands behind the characters `before`, nearest first. -/
def lowerAfter (before : List Char) : List Char → List Char
  | [] => []
  | c :: after =>
    (if c.toNat == 0x3A3 then [lowerSigma before after] else lowerChar c) ++
      lowerAfter (c :: before) after

def lowercase (s : String) : String := String.ofList (lowerAfter [] s.toList)

end StreamRelay.Text
