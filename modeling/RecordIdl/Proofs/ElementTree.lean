import RecordIdl.Input.Description

namespace RecordIdl

namespace Xml

/-- Elements side by side, each with those inside it, and what stands between their tags. -/
inductive Forest
  | nil
  | other (rest : Forest)
  | single (name : String) (attributes : List Attribute) (rest : Forest)
  | element (name : String) (attributes : List Attribute) (content rest : Forest)

structure Element where
  name : String
  attributes : List Attribute
  content : Forest := .nil

def named (tag : String) (es : List Element) : List Element :=
  es.filter (·.name = tag)

namespace Forest

def events : Forest → List Event
  | nil => []
  | other rest => .other :: rest.events
  | single name attributes rest => .empty name attributes :: rest.events
  | element name attributes content rest =>
    .start name attributes :: (content.events ++ .close name :: rest.events)

def elements : Forest → List Element
  | nil => []
  | other rest => rest.elements
  | single name attributes rest => { name, attributes } :: rest.elements
  | element name attributes content rest => { name, attributes, content } :: rest.elements

/-- The elements of a name that stand inside no other of that name, at any depth. -/
def outermost (tag : String) : Forest → List Element
  | nil => []
  | other rest => rest.outermost tag
  | single name attributes rest =>
    if name = tag then { name, attributes } :: rest.outermost tag else rest.outermost tag
  | element name attributes content rest =>
    if name = tag then { name, attributes, content } :: rest.outermost tag
    else content.outermost tag ++ rest.outermost tag

end Forest

end Xml

namespace Description

open Xml

def valuesOf? (attributes : List Attribute) : Option (List (String × String)) :=
  attributes.mapM fun a => a.value.toOption.map (a.name, ·)

def firstValue? (name : String) (e : Element) : Option String :=
  (e.attributes.find? (·.name = name)).bind (·.value.toOption)

/-- Of several values under one name the last one counts. -/
def lastValue? (name : String) (values : List (String × String)) : Option String :=
  ((values.filter (·.1 = name)).map Prod.snd).getLast?

def headerOf? (e : Element) : Option Record := do
  let values ← valuesOf? e.attributes
  let name ← (lastValue? "name" values).filter (· ≠ "")
  some {
    name
    parent := (lastValue? "inheritsFrom" values).getD "root"
    comment := lastValue? "comment" values }

def initialValueOf? (e : Element) : Option InitialValue := do
  let values ← valuesOf? e.attributes
  some ⟨← lastValue? "name" values, ← lastValue? "value" values⟩

def namesType (e : Element) : Bool :=
  e.name = "primitive" || e.name = "classRef"

def typeNameOf? (e : Element) : Option String :=
  (firstValue? (if e.name = "primitive" then "type" else "name") e).filter (· ≠ "")

def lengthOf? (s : String) : Option UInt64 :=
  let digits := if s.toList.head? = some '+' then s.toList.tail else s.toList
  let n := Nat.ofDigitChars 10 digits 0
  if digits ≠ [] ∧ digits.all Char.isDigit ∧ n < 18446744073709551616 then
    some (UInt64.ofNat n)
  else none

def truth? (s : String) : Option Bool :=
  if s = "true" then some true else if s = "false" then some false else none

/-- Of several lengths, marks or element types the last one counts, and all have to be sound. -/
def listOf? (kind : FieldKind) (name : String) (e : Element) : Option Field := do
  let values ← valuesOf? e.attributes
  let lengths ← (values.filter (·.1 = "length")).mapM (lengthOf? ·.2)
  let marks ← (values.filter (·.1 = "couldBeString")).mapM (truth? ·.2)
  let typeNames ← (e.content.elements.filter namesType).mapM typeNameOf?
  let typeName ← typeNames.getLast?
  let couldBeString := marks.getLast?.getD false
  some { name, typeName, kind, length := lengths.getLast?, couldBeString }

def isType (e : Element) : Bool :=
  namesType e || e.name = "primitivelist" || e.name = "objectlist"

def typeOf? (name : String) (e : Element) : Option Field :=
  if e.name = "primitivelist" then listOf? .fixedList name e
  else if e.name = "objectlist" then listOf? .variableList name e
  else (typeNameOf? e).map fun typeName =>
    { name, typeName, kind := if e.name = "primitive" then .primitive else .recordReference }

def commentsOf? (e : Element) : Option (List String) :=
  (e.attributes.filter (·.name = "comment")).mapM (·.value.toOption)

def fieldOf? (e : Element) : Option Field := do
  let name ← firstValue? "name" e
  let comments ← commentsOf? e
  let types ← (e.content.elements.filter isType).mapM (typeOf? name)
  let field ← types.getLast?
  some { field with comment := comments.getLast? }

def recordOf? (e : Element) : Option Record := do
  let header ← headerOf? e
  let initialValues ← (named "initialValue" e.content.elements).mapM initialValueOf?
  let fields ← (named "attribute" e.content.elements).mapM fieldOf?
  guard (fields.map Field.name).Nodup
  some { header with fields, initialValues }

def recordsOf? (f : Forest) : Option (List Record) := do
  let records ← (f.outermost "class").mapM recordOf?
  guard (records.map Record.name).Nodup
  some records

end Description

end RecordIdl
