import RecordIdl.Text.CaseData

namespace RecordIdl.Text

def CaseRun.image? (r : CaseRun) (n : Nat) : Option Nat :=
  if r.range.contains n then some (r.target + (n - r.range.first)) else none

def mapByRuns (runs : List CaseRun) (c : Char) : Char :=
  match runs.findSome? (·.image? c.toNat) with
  | some n => Char.ofNat n
  | none => c

def isUppercase (c : Char) : Bool :=
  uppercaseRanges.any (·.contains c.toNat)

def isCased (c : Char) : Bool :=
  casedRanges.any (·.contains c.toNat)

def isCaseIgnorable (c : Char) : Bool :=
  caseIgnorableRanges.any (·.contains c.toNat)

def lower (c : Char) : List Char :=
  if c = '\u0130' then ['i', '\u0307'] else [mapByRuns lowerRuns c]

def upper (c : Char) : List Char :=
  match upperExpansions.lookup c.toNat with
  | some ns => ns.map Char.ofNat
  | none => [mapByRuns upperRuns c]

def meetsCased (cs : List Char) : Bool :=
  (cs.dropWhile isCaseIgnorable).head?.any isCased

/-- Lower case of a text that stands after the reversed `before`: a capital sigma that ends a word
takes its final form. -/
def lowerAfter (before : List Char) : List Char → List Char
  | [] => []
  | c :: cs =>
    let image :=
      if c = 'Σ' then [if meetsCased before && !meetsCased cs then 'ς' else 'σ'] else lower c
    image ++ lowerAfter (c :: before) cs

def lowerText (s : String) : String :=
  String.ofList (lowerAfter [] s.toList)

/-- `Char.toLower` moves ASCII letters only, so other letters have to agree exactly. -/
def equalsIgnoringAsciiCase (s t : String) : Bool :=
  s.toList.map Char.toLower == t.toList.map Char.toLower

end RecordIdl.Text
