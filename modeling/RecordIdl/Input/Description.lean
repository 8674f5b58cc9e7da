import RecordIdl.Input.InputFault
import RecordIdl.Record.RecordSet
import RecordIdl.Text.Number
import RecordIdl.Xml.Event

namespace RecordIdl.Description

open Xml

/-- A field whose element is open: its type is that of the last type element so far. -/
structure FieldDraft where
  name : String
  comment : Option String
  field : Option Field := none

structure ListDraft where
  element : String
  kind : FieldKind
  length : Option UInt64 := none
  couldBeString : Bool := false
  typeName : Option String := none

inductive Place
  | outside
  | inRecord (record : Record)
  | inField (record : Record) (draft : FieldDraft)
  | inList (record : Record) (draft : FieldDraft) (list : ListDraft)
  /-- In an element of no interest, `depth` elements below its own tag. -/
  | skipping (depth : Nat) (back : Place)

structure State where
  set : RecordSet
  place : Place

def value (a : Attribute) : Except InputFault String :=
  a.value.mapError .xml

/-- All values are read, also those of attributes that mean nothing. -/
def values (attributes : List Attribute) : Except InputFault (List (String × String)) :=
  attributes.mapM fun a => do pure (a.name, ← value a)

def last? (name : String) (values : List (String × String)) : Option String :=
  values.reverse.lookup name

def recordHeader (attributes : List Attribute) : Except InputFault Record := do
  let values ← values attributes
  match (last? "name" values).filter (· ≠ "") with
  | none => throw (.missingAttribute "class" "name")
  | some name =>
    pure {
      name
      parent := (last? "inheritsFrom" values).getD "root"
      comment := last? "comment" values }

def initialValue (attributes : List Attribute) : Except InputFault InitialValue := do
  let values ← values attributes
  match last? "name" values, last? "value" values with
  | none, _ => throw (.missingAttribute "initialValue" "name")
  | _, none => throw (.missingAttribute "initialValue" "value")
  | some name, some value => pure ⟨name, value⟩

def fieldName (attributes : List Attribute) : Except InputFault String :=
  match attributes.find? (·.name = "name") with
  | none => throw (.missingAttribute "attribute" "name")
  | some a => value a

def fieldHeader (attributes : List Attribute) : Except InputFault FieldDraft := do
  let name ← fieldName attributes
  let comments ← (attributes.filter (·.name = "comment")).mapM value
  pure { name, comment := comments.getLast? }

def required (element name : String) (attributes : List Attribute) : Except InputFault String :=
  match attributes.find? (·.name = name) with
  | none => throw (.missingAttribute element name)
  | some a => do
    let value ← value a
    if value = "" then throw (.badAttribute element name value) else pure value

def listAttribute (draft : ListDraft) (a : Attribute) : Except InputFault ListDraft := do
  let value ← value a
  if a.name = "length" then
    match Text.word64? value with
    | none => throw (.badAttribute draft.element a.name value)
    | some n => pure { draft with length := some n }
  else if a.name = "couldBeString" then
    if value = "true" then pure { draft with couldBeString := true }
    else if value = "false" then pure { draft with couldBeString := false }
    else throw (.badAttribute draft.element a.name value)
  else pure draft

def listKind? (element : String) : Option FieldKind :=
  if element = "primitivelist" then some .fixedList
  else if element = "objectlist" then some .variableList
  else none

def typeElement? (element : String) (attributes : List Attribute) :
    Except InputFault (Option (FieldKind × String)) := do
  if element = "primitive" then
    pure (some (.primitive, ← required element "type" attributes))
  else if element = "classRef" then
    pure (some (.recordReference, ← required element "name" attributes))
  else pure none

/-- A type element replaces the type read before; any other element leaves it. -/
def FieldDraft.read (draft : FieldDraft) (element : String) (attributes : List Attribute) :
    Except InputFault FieldDraft := do
  match ← typeElement? element attributes with
  | some (kind, typeName) =>
    pure { draft with field := some { name := draft.name, typeName, kind } }
  | none => pure draft

def ListDraft.read (draft : ListDraft) (element : String) (attributes : List Attribute) :
    Except InputFault ListDraft := do
  match ← typeElement? element attributes with
  | some (_, typeName) => pure { draft with typeName := some typeName }
  | none => pure draft

def FieldDraft.finish (draft : FieldDraft) (record : Record) : Except InputFault Record :=
  match draft.field with
  | none => throw (.malformed (.untypedField record.name draft.name))
  | some field =>
    if (record.field? draft.name).isSome then throw (.duplicateField record.name draft.name)
    else pure (record.addField { field with comment := draft.comment })

def ListDraft.finish (list : ListDraft) (draft : FieldDraft) : Except InputFault FieldDraft :=
  match list.typeName with
  | none => throw (.malformed (.untypedList draft.name))
  | some typeName =>
    let field : Field :=
      { name := draft.name, typeName, kind := list.kind, length := list.length,
        couldBeString := list.couldBeString }
    pure { draft with field := some field }

def addRecord (set : RecordSet) (record : Record) : Except InputFault RecordSet :=
  match set.add? record with
  | some set => pure set
  | none => throw (.duplicateRecord record.name)

def inRecord (record : Record) : Event → Except InputFault Place
  | .start element attributes => do
    if element = "attribute" then
      pure (.inField record (← fieldHeader attributes))
    else if element = "initialValue" then
      pure (.skipping 0 (.inRecord (record.addInitialValue (← initialValue attributes))))
    else pure (.skipping 0 (.inRecord record))
  | .empty element attributes => do
    if element = "attribute" then
      throw (.malformed (.untypedField record.name (← fieldName attributes)))
    else if element = "initialValue" then
      pure (.inRecord (record.addInitialValue (← initialValue attributes)))
    else pure (.inRecord record)
  | _ => pure (.inRecord record)

def inField (record : Record) (draft : FieldDraft) : Event → Except InputFault Place
  | .start element attributes => do
    match listKind? element with
    | some kind =>
      let list : ListDraft := { element, kind }
      pure (.inList record draft (← attributes.foldlM listAttribute list))
    | none => pure (.skipping 0 (.inField record (← draft.read element attributes)))
  | .empty element attributes => do
    if (listKind? element).isSome then
      throw (.malformed (.childlessList record.name draft.name))
    else pure (.inField record (← draft.read element attributes))
  | .close _ => do pure (.inRecord (← draft.finish record))
  | .other => pure (.inField record draft)

def inList (record : Record) (draft : FieldDraft) (list : ListDraft) :
    Event → Except InputFault Place
  | .start element attributes => do
    pure (.skipping 0 (.inList record draft (← list.read element attributes)))
  | .empty element attributes => do
    pure (.inList record draft (← list.read element attributes))
  | .close _ => do pure (.inField record (← list.finish draft))
  | .other => pure (.inList record draft list)

def skipping (depth : Nat) (back : Place) : Event → Place
  | .start .. => .skipping (depth + 1) back
  | .close _ =>
    match depth with
    | 0 => back
    | depth + 1 => .skipping depth back
  | _ => .skipping depth back

def outside (set : RecordSet) : Event → Except InputFault State
  | .start element attributes => do
    if element = "class" then pure ⟨set, .inRecord (← recordHeader attributes)⟩
    else pure ⟨set, .outside⟩
  | .empty element attributes => do
    if element = "class" then pure ⟨← addRecord set (← recordHeader attributes), .outside⟩
    else pure ⟨set, .outside⟩
  | _ => pure ⟨set, .outside⟩

def step (s : State) (event : Event) : Except InputFault State :=
  match s.place with
  | .outside => outside s.set event
  | .inRecord record =>
    match event with
    | .close _ => do pure ⟨← addRecord s.set record, .outside⟩
    | event => do pure ⟨s.set, ← inRecord record event⟩
  | .inField record draft => do pure ⟨s.set, ← inField record draft event⟩
  | .inList record draft list => do pure ⟨s.set, ← inList record draft list event⟩
  | .skipping depth back => pure ⟨s.set, skipping depth back event⟩

def Place.unfinished? : Place → Option StructureFault
  | .outside => none
  | .inRecord record => some (.unfinishedRecord record.name)
  | .inField record draft => some (.unfinishedField record.name draft.name)
  | .inList _ draft list => some (.unfinishedList list.element draft.name)
  | .skipping _ back => back.unfinished?

def finish (fault : Option Fault) (s : State) : Except InputFault RecordSet :=
  match fault, s.place.unfinished? with
  | some fault, _ => throw (.xml fault)
  | none, some fault => throw (.malformed fault)
  | none, none => pure s.set

def read (feed : Feed Event) : Except InputFault RecordSet := do
  finish feed.fault (← feed.items.foldlM step ⟨.empty, .outside⟩)

/-- The records that an XML text describes, in the order in which they stand there. -/
def parse (xml : String) : Except InputFault RecordSet :=
  read (Event.readAll xml)

end RecordIdl.Description
