import RecordIdl.Xml.Reference

namespace RecordIdl.Xml

def isSpace (c : Char) : Bool :=
  c == ' ' || c == '\t' || c == '\r' || c == '\n'

structure Attribute where
  name : String
  raw : String
  deriving DecidableEq, Repr

def Attribute.value (a : Attribute) : Except Fault String :=
  (expand a.raw.toList).map String.ofList

namespace Attribute

def isQuote (c : Char) : Bool :=
  c == '"' || c == '\''

inductive Place
  | between
  | inName (name : List Char)
  | afterName (name : List Char)
  | beforeValue (name : List Char)
  | inValue (name : List Char) (quote : Char) (value : List Char)
  | dropping

/-- The place after the equals sign that follows `name`, and the names that then count as seen. -/
def afterEquals (seen : List (List Char)) (name : List Char) : List (List Char) × Place :=
  if name ∈ seen then (seen, .dropping) else (name :: seen, .beforeValue name)

/-- The attributes from a place on. A name has one character at least, which may be an equals sign.
A name that was seen is dropped together with the rest up to the next space, even if that space
stands inside its value. -/
def readFrom (seen : List (List Char)) : Place → List Char → List Attribute
  | _, [] => []
  | .between, c :: cs =>
    if isSpace c then readFrom seen .between cs else readFrom seen (.inName [c]) cs
  | .inName name, c :: cs =>
    if c = '=' then
      let (seen, place) := afterEquals seen name
      readFrom seen place cs
    else if isSpace c then readFrom seen (.afterName name) cs
    else readFrom seen (.inName (c :: name)) cs
  | .afterName name, c :: cs =>
    if c = '=' then
      let (seen, place) := afterEquals seen name
      readFrom seen place cs
    else if isSpace c then readFrom seen (.afterName name) cs
    else readFrom seen (.inName [c]) cs
  | .beforeValue name, c :: cs =>
    if isSpace c then readFrom seen (.beforeValue name) cs
    else if isQuote c then readFrom seen (.inValue name c []) cs
    else readFrom seen .dropping cs
  | .inValue name quote value, c :: cs =>
    if c = quote then
      ⟨String.ofList name.reverse, String.ofList value.reverse⟩ :: readFrom seen .between cs
    else readFrom seen (.inValue name quote (c :: value)) cs
  | .dropping, c :: cs =>
    if isSpace c then readFrom seen .between cs else readFrom seen .dropping cs

def readAll (cs : List Char) : List Attribute :=
  readFrom [] .between cs

end Attribute

end RecordIdl.Xml
