import RecordIdl.Record.Lineage
import RecordIdl.Record.ModelFault
import RecordIdl.Text.Blank
import RecordIdl.Text.Number

namespace RecordIdl.Consistency

/-- Fields in order: each needs a name, a type, and a name not among those `seen`. -/
def checkFields (record : String) (seen : List String) : List Field → Except ModelFault Unit
  | [] => pure ()
  | f :: fs =>
    if f.name = "" then throw (.unnamedField record)
    else if f.typeName = "" then throw (.untypedField record f.name)
    else if f.name ∈ seen then throw (.duplicateField record f.name)
    else checkFields record (f.name :: seen) fs

def checkPduType (r : Record) : Except ModelFault Unit :=
  match r.pduType? with
  | none => pure ()
  | some raw =>
    match Text.signed64? (Text.trim raw) with
    | some _ => pure ()
    | none => throw (.badPduType r.name raw)

def checkAncestry (l : Lineage) (r : Record) : Except ModelFault Unit :=
  match l.ancestry r with
  | .ends .. => pure ()
  | .loops path => throw (.cyclicInheritance path)

def checkRecord (l : Lineage) (r : Record) : Except ModelFault Unit := do
  checkFields r.name [] r.fields
  checkPduType r
  checkAncestry l r

def check (l : Lineage) : Except ModelFault Unit :=
  l.set.records.forM (checkRecord l)

end RecordIdl.Consistency
