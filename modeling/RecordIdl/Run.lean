import RecordIdl.Files.FileSystem
import RecordIdl.Input.Description
import RecordIdl.Project

namespace RecordIdl

inductive RunFault
  | input (fault : InputFault)
  | model (fault : ModelFault)
  | system (fault : SystemFault)
  | unwritten (path : String) (fault : SystemFault)
  deriving DecidableEq, Repr

namespace RunFault

def message : RunFault → String
  | input fault => "record parse error: " ++ fault.message
  | model fault => "model error: " ++ fault.message
  | system fault => "IO error: " ++ fault.message
  | unwritten path fault => s!"failed to write '{path}': " ++ fault.message

def isFatal : RunFault → Bool
  | unwritten .. => false
  | _ => true

end RunFault

structure Unwritten where
  record : String
  fault : RunFault
  deriving DecidableEq, Repr

structure Report where
  /-- Paths in the order of writing. -/
  written : List String
  empty : List String
  aliased : List String
  failures : List Unwritten
  deriving DecidableEq, Repr

def Report.isSuccess (r : Report) : Bool :=
  r.failures.isEmpty

variable {m : Type → Type} [Monad m]

def Properties.ofFile (fs : FileSystem m) (path : String) : ExceptT InputFault m Properties := do
  let text ← (fs.readText path).adapt .unreadable
  ExceptT.mk (pure (Properties.parse text))

def Description.ofFile (fs : FileSystem m) (path : String) : ExceptT InputFault m RecordSet := do
  let xml ← (fs.readText path).adapt .unreadable
  ExceptT.mk (pure (Description.parse xml))

def Properties.ofFile? (fs : FileSystem m) (path : Option String) :
    ExceptT InputFault m Properties :=
  match path with
  | some path => Properties.ofFile fs path
  | none => pure {}

structure OverrideFiles where
  types : Option String := none
  responses : Option String := none
  aliases : Option String := none

def Overrides.ofFiles (fs : FileSystem m) (files : OverrideFiles) :
    ExceptT InputFault m Overrides := do
  let types ← Properties.ofFile? fs files.types
  let responses ← Properties.ofFile? fs files.responses
  let aliases ← Properties.ofFile? fs files.aliases
  return { types, responses, aliases }

namespace Project

def writeFile (p : Project) (fs : FileSystem m) (f : OutputFile) :
    m (Except Unwritten String) := do
  match ← (fs.write p.settings.outputDir f.name f.contents).run with
  | .ok path => return .ok path
  | .error fault =>
    return .error ⟨f.record, .unwritten (Path.join p.settings.outputDir f.name) fault⟩

def pathOf? : Except Unwritten String → Option String
  | .ok path => some path
  | .error _ => none

def failureOf? : Except Unwritten String → Option Unwritten
  | .ok _ => none
  | .error failure => some failure

def report (b : Build) (results : List (Except Unwritten String)) : Report :=
  { written := results.filterMap pathOf?
    empty := b.empty
    aliased := b.aliased
    failures := results.filterMap failureOf? }

/-- Everything is built before the first directory is made, so a fault in the records leaves the
disk as it was. -/
def run (p : Project) (fs : FileSystem m) : ExceptT RunFault m Report := do
  match p.built with
  | .error fault => throw (.model fault)
  | .ok build =>
    (fs.makeDirectories p.settings.outputDir).adapt .system
    let results ← ExceptT.lift (build.files.mapM (p.writeFile fs))
    return report build results

end Project

def runText (fs : FileSystem m) (overrides : Overrides) (settings : Settings) (xml : String) :
    ExceptT RunFault m Report :=
  match Description.parse xml with
  | .error fault => throw (.input fault)
  | .ok set => Project.run { set, overrides, settings } fs

def runFile (fs : FileSystem m) (overrides : Overrides) (settings : Settings) (path : String) :
    ExceptT RunFault m Report := do
  let xml ← (fs.readText path).adapt .system
  runText fs overrides settings xml

end RecordIdl
