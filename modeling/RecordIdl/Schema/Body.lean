import RecordIdl.Record.Pruning
import RecordIdl.Resolution
import RecordIdl.Spelling

namespace RecordIdl

structure Declaration where
  number : Nat
  comment : Option String
  typeName : String
  name : String
  deriving DecidableEq, Repr

def Declaration.text (d : Declaration) : String :=
  "optional " ++ d.typeName ++ " " ++ d.name ++ " = " ++ toString d.number ++ ";"

structure Wrapper where
  name : String
  elementType : String
  fieldName : String
  deriving DecidableEq, Repr

def Wrapper.content (w : Wrapper) : String :=
  "list<" ++ w.elementType ++ "> " ++ Spelling.snakeCase w.fieldName ++ " = 1;"

structure Body where
  declarations : List Declaration
  wrappers : List Wrapper
  deriving DecidableEq, Repr

namespace Body

structure Entry where
  declaration : Declaration
  wrapper : Option Wrapper := none

/-- The entry of a field that is not left out. Lists of bytes need no wrapper. -/
def entry (record : String) (f : Field) (number : Nat) (type : SchemaType) : Entry :=
  let comment := Spelling.commentLine? f.comment
  let name := Spelling.snakeCase f.name
  if !f.kind.isList then ⟨⟨number, comment, type.name, name⟩, none⟩
  else if type.isByte then
    ⟨⟨number, comment, if f.couldBeString then "string" else "bytes", name⟩, none⟩
  else
    let wrapper : Wrapper := ⟨Spelling.wrapperName record f.name, type.name, f.name⟩
    ⟨⟨number, comment, wrapper.name, name ++ "_list"⟩, some wrapper⟩

/-- Padding is left out, and so is a field whose type is a record without fields. -/
def entry? (l : Lineage) (o : Overrides) (record : String) (number : Nat) (f : Field) :
    Pruning (Option Entry) := do
  if f.isPadding then return none
  let resolution := o.resolution record f
  if resolution.isRecord then
    if ← Pruning.isEmpty l resolution.target.name then return none
  return some (entry record f number resolution.target)

def entries (l : Lineage) (o : Overrides) (record : String) (number : Nat) :
    List Field → Pruning (List Entry)
  | [] => pure []
  | f :: fs => do
    let first ← entry? l o record number f
    let rest ← entries l o record (number + 1) fs
    return first.toList ++ rest

def superDeclaration (parent : String) : Declaration :=
  ⟨1, none, parent, "super"⟩

def ofRecord (l : Lineage) (o : Overrides) (r : Record) (parent : Option String) :
    Pruning Body := do
  let head := (parent.map superDeclaration).toList
  let entries ← entries l o r.name (head.length + 1) r.fields
  return ⟨head ++ entries.map (·.declaration), entries.filterMap (·.wrapper)⟩

end Body

end RecordIdl
