import RecordIdl.Record.Pruning
import RecordIdl.Resolution

namespace RecordIdl

structure Dependencies where
  names : List String := []
  deriving DecidableEq, Repr

namespace Dependencies

def insert (d : Dependencies) (name : String) : Dependencies :=
  if name ∈ d.names then d else ⟨d.names ++ [name]⟩

def ofNames (names : List String) : Dependencies :=
  names.foldl insert {}

def mayImport : FieldKind → Bool
  | .recordReference | .variableList => true
  | .primitive | .fixedList => false

/-- A field imports the record that is its type, unless that record has no file for want of
fields. -/
def ofField? (l : Lineage) (o : Overrides) (record : String) (f : Field) :
    Pruning (Option String) := do
  let resolution := o.resolution record f
  if mayImport f.kind && resolution.isRecord then
    if ← Pruning.isEmpty l resolution.target.name then return none
    return some resolution.target.name
  return none

def ofFields (l : Lineage) (o : Overrides) (record : String) :
    List Field → Pruning (List String)
  | [] => pure []
  | f :: fs => do
    let first ← ofField? l o record f
    let rest ← ofFields l o record fs
    return first.toList ++ rest

def ofRecord (l : Lineage) (o : Overrides) (r : Record) (parent response : Option String) :
    Pruning Dependencies := do
  let fields ← ofFields l o r.name r.fields
  let parent := parent.filter fun p => !o.replaces p
  return ofNames (fields ++ parent.toList ++ response.toList)

end Dependencies

end RecordIdl
