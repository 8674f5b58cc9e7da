import RecordIdl.Text.Blank
import RecordIdl.Text.Case

namespace RecordIdl.Spelling

open Text

/-- Characters are taken in pairs from the left: an underscore parts a pair whose second character
is upper case, so of two neighbouring capitals only one is set off. A line feed opens no pair. -/
def snake : List Char → List Char
  | [] => []
  | [c] => lower c
  | c :: d :: cs =>
    if isUppercase d && c != '\n' then lower c ++ '_' :: lower d ++ snake cs
    else lower c ++ snake (d :: cs)

def snakeCase (s : String) : String :=
  String.ofList (snake s.toList)

def capitalize (s : String) : String :=
  match s.toList with
  | [] => ""
  | c :: cs => String.ofList (upper c ++ cs)

/-- The name without a final `Pdu` of any case; a name that is nothing else is kept. -/
def stripPdu (s : String) : String :=
  match s.toList.reverse with
  | u :: d :: p :: c :: cs =>
    if [p, d, u].map Char.toLower = ['p', 'd', 'u'] then String.ofList (c :: cs).reverse else s
  | _ => s

def wrapperName (record field : String) : String :=
  stripPdu record ++ capitalize field ++ "List"

def commentLine? (comment : Option String) : Option String :=
  (comment.map joinWords).filter (· ≠ "")

end RecordIdl.Spelling
