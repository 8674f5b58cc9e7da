import RecordIdl.Record.Consistency
import RecordIdl.Schema.Dependencies
import RecordIdl.Schema.SchemaFile

namespace RecordIdl

structure Project where
  set : RecordSet
  overrides : Overrides := {}
  settings : Settings := {}

structure OutputFile where
  record : String
  schema : SchemaFile
  deriving DecidableEq, Repr

namespace OutputFile

def name (f : OutputFile) : String :=
  SchemaFile.nameFor f.record

def contents (f : OutputFile) : String :=
  f.schema.text

end OutputFile

structure Build where
  files : List OutputFile
  empty : List String
  aliased : List String
  deriving DecidableEq, Repr

def Build.file? (b : Build) (record : String) : Option OutputFile :=
  b.files.find? (·.record = record)

inductive Fate
  | aliased
  | empty
  | file (schema : SchemaFile)
  deriving DecidableEq, Repr

namespace Project

def lineage (p : Project) : Lineage :=
  ⟨p.set, p.settings.roots⟩

/-- The type written for a parent: an override stands for a parent that it replaces. -/
def superType (p : Project) (parent : String) : String :=
  match p.overrides.forType? parent with
  | some target => (SchemaType.ofName target).name
  | none => parent

def response? : Role → Option String
  | .command response => some response
  | _ => none

def schema (p : Project) (r : Record) : Pruning SchemaFile := do
  let parent ← Pruning.parent? p.lineage r.name
  let designation ← Pruning.ofExcept (Designation.ofRecord p.overrides p.settings r)
  let dependencies ←
    Dependencies.ofRecord p.lineage p.overrides r parent (response? designation.role)
  let body ← Body.ofRecord p.lineage p.overrides r (parent.map p.superType)
  return {
    package := p.settings.package
    imports := dependencies.names
    comment := Spelling.commentLine? r.comment
    items := SchemaItem.ofRecord r.name designation body }

def fate (p : Project) (r : Record) : Pruning Fate := do
  if p.overrides.replaces r.name then return .aliased
  if ← Pruning.isEmpty p.lineage r.name then return .empty
  return .file (← p.schema r)

def text? (p : Project) (r : Record) : Pruning (Option String) := do
  match ← p.fate r with
  | .file schema => return some schema.text
  | .aliased | .empty => return none

def voidSchema (p : Project) : SchemaFile :=
  { package := p.settings.package, imports := [], comment := none,
    items := [.type p.settings.voidType none []] }

/-- The void type has a file of its own unless a record takes its name. -/
def withVoid (p : Project) (files : List OutputFile) : List OutputFile :=
  if files.any (·.record = p.settings.voidType) then files
  else files ++ [⟨p.settings.voidType, p.voidSchema⟩]

def outputFile? : Record × Fate → Option OutputFile
  | (r, .file schema) => some ⟨r.name, schema⟩
  | _ => none

def emptyName? : Record × Fate → Option String
  | (r, .empty) => some r.name
  | _ => none

def aliasedName? : Record × Fate → Option String
  | (r, .aliased) => some r.name
  | _ => none

def collect (p : Project) (fates : List (Record × Fate)) : Build :=
  { files := p.withVoid (fates.filterMap outputFile?)
    empty := fates.filterMap emptyName?
    aliased := fates.filterMap aliasedName? }

/-- All files of a run. Nothing is made from records that are not consistent. -/
def build (p : Project) : Pruning Build := do
  Pruning.ofExcept (Consistency.check p.lineage)
  let fates ← p.set.records.mapM fun r => do return (r, ← p.fate r)
  return p.collect fates

def built (p : Project) : Except ModelFault Build :=
  (StateT.run (ExceptT.run p.build) {}).1

end Project

end RecordIdl
