import RecordIdl.Xml.Token

namespace RecordIdl.Xml

inductive Event
  | start (name : String) (attributes : List Attribute)
  | empty (name : String) (attributes : List Attribute)
  | close (name : String)
  | other
  deriving DecidableEq, Repr

namespace Event

def ofTag (text : List Char) : Event :=
  let (text, build) :=
    if text.getLast? = some '/' then (text.dropLast, empty) else (text, start)
  build (String.ofList (text.takeWhile (!isSpace ·)))
    (Attribute.readAll (text.dropWhile (!isSpace ·)))

/-- All of an end tag is its name, but for the space at its end; a name of space alone is kept. -/
def endName (text : List Char) : String :=
  if text.all isSpace then String.ofList text
  else String.ofList (text.reverse.dropWhile isSpace).reverse

/-- Events of tokens that stand inside the elements `opened`, the innermost first. -/
def nest (fault : Option Fault) : List String → List Token → Feed Event
  | _, [] => ⟨[], fault⟩
  | opened, .other :: ts => (nest fault opened ts).push other
  | opened, .tag text :: ts =>
    match ofTag text with
    | start name attributes => (nest fault (name :: opened) ts).push (start name attributes)
    | event => (nest fault opened ts).push event
  | opened, .endTag text :: ts =>
    let name := endName text
    match opened with
    | [] => ⟨[], some (.unmatchedEnd name)⟩
    | top :: below =>
      if top = name then (nest fault below ts).push (close name)
      else ⟨[], some (.mismatchedEnd top name)⟩

def readAll (text : String) : Feed Event :=
  let tokens := Token.readAll text.toList
  nest tokens.fault [] tokens.items

end Event

end RecordIdl.Xml
