namespace RecordIdl

namespace Path

def pieces (text : String) : List (List Char) :=
  text.toList.splitOn '/'

def startsAtRoot (text : String) : Bool :=
  text.toList.head? = some '/'

/-- A file name under a directory; a name that starts with a slash stands alone. -/
def join (dir name : String) : String :=
  if startsAtRoot name then name
  else if dir = "" ∨ dir.toList.getLast? = some '/' then dir ++ name
  else dir ++ "/" ++ name

inductive Ending
  | plain
  | slash
  | dot
  deriving DecidableEq, Repr

end Path

/-- The steps of a path without empty ones and single dots, which lead nowhere. -/
structure Path where
  fromRoot : Bool
  steps : List String
  ending : Path.Ending
  deriving DecidableEq, Repr

namespace Path

def isStep (piece : List Char) : Bool :=
  !piece.isEmpty && piece != ['.']

def endingOf (pieces : List (List Char)) : Ending :=
  if (pieces.filter (!·.isEmpty)).getLast? = some ['.'] then .dot
  else if pieces.getLast? = some [] then .slash
  else .plain

def ofText (text : String) : Path :=
  let pieces := pieces text
  ⟨startsAtRoot text, (pieces.filter isStep).map String.ofList, endingOf pieces⟩

end Path

end RecordIdl
