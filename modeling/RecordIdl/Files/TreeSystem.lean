import RecordIdl.Files.FileSystem
import RecordIdl.Files.Host

namespace RecordIdl.FileTree

def isTooLong (name : String) : Bool :=
  name.utf8ByteSize > 255

def enter (t : FileTree) (location : Location) (step : String) : Except SystemFault Location :=
  if step = ".." then .ok location.dropLast
  else if isTooLong step then .error .nameTooLong
  else
    match t.entry? (location ++ [step]) with
    | none => .error .notFound
    | some (.file _) => .error .notADirectory
    | some .directory => .ok (location ++ [step])

def walk (t : FileTree) (origin : Location) (steps : List String) : Except SystemFault Location :=
  steps.foldlM t.enter origin

structure Target where
  directory : Location
  name? : Option String

def target (t : FileTree) (h : Host) (path : Path) : Except SystemFault Target := do
  if path.ending = .dot then
    return ⟨← t.walk (h.origin path) path.steps, none⟩
  let directory ← t.walk (h.origin path) path.steps.dropLast
  return ⟨directory, path.steps.getLast?.filter (· ≠ "..")⟩

def read (t : FileTree) (h : Host) (path : Path) : Except SystemFault ByteArray := do
  let target ← t.target h path
  match target.name? with
  | none => throw .isADirectory
  | some name =>
    if isTooLong name then throw .nameTooLong
    match t.entry? (target.directory ++ [name]) with
    | none => throw .notFound
    | some .directory => throw .isADirectory
    | some (.file bytes) => if path.ending = .plain then pure bytes else throw .notADirectory

/-- Why no directory can be made where a file stands. As long as nothing was made, a file before
the last step is found while the path is followed, and then it is no directory to go through. -/
def fileInTheWay (ending : Path.Ending) (made : Bool) (rest : List String) : SystemFault :=
  if rest = [] then if ending = .dot then .notADirectory else .alreadyExists
  else if made then .alreadyExists
  else .notADirectory

/-- Follows the steps from a location on and makes the directories that are missing; `made` tells
whether one was made before. Directories made before a fault stay. A dot at the end makes none: it
asks for a directory that is there. -/
def makeSteps (t : FileTree) (h : Host) (ending : Path.Ending) (location : Location) (made : Bool) :
    List String → FileTree × Except SystemFault Unit
  | [] => (t, .ok ())
  | step :: rest =>
    if step = ".." then t.makeSteps h ending location.dropLast made rest
    else if isTooLong step then (t, .error .nameTooLong)
    else
      let here := location ++ [step]
      match t.entry? here with
      | some .directory => t.makeSteps h ending here made rest
      | some (.file _) => (t, .error (fileInTheWay ending made rest))
      | none =>
        if rest = [] ∧ ending = .dot then (t, .error .notFound)
        else
          match h.directoryRefusal? location with
          | some fault => (t, .error fault)
          | none => (t.put here empty).makeSteps h ending here true rest

def makeDirectories (t : FileTree) (h : Host) (path : Path) : FileTree × Except SystemFault Unit :=
  t.makeSteps h path.ending (h.origin path) false path.steps

def temporaryName (n : Nat) : String :=
  ".tmp" ++ toString (100000 + n)

def freeName (taken : List String) (n : Nat) : Nat → String
  | 0 => temporaryName n
  | tries + 1 =>
    if temporaryName n ∈ taken then freeName taken (n + 1) tries else temporaryName n

/-- Where a file that stands at `source` would go. A directory that no name leads to is in use, and
no file goes where a slash asks for a directory. -/
def destination (t : FileTree) (h : Host) (source : Location) (path : Path) :
    Except SystemFault Location := do
  let target ← t.target h path
  if h.device? target.directory ≠ h.device? source.dropLast then throw .crossDevice
  match target.name? with
  | none => throw .busy
  | some name =>
    if isTooLong name then throw .nameTooLong
    if path.ending = .slash then throw .notADirectory
    let location := target.directory ++ [name]
    match t.entry? location with
    | some .directory => throw (if location.isPrefixOf source then .notEmpty else .isADirectory)
    | _ => pure location

abbrev Operation := ExceptT SystemFault (StateM FileTree)

def lift {α : Type} (f : FileTree → Except SystemFault α) : Operation α := do
  match f (← get) with
  | .ok a => return a
  | .error fault => throw fault

def hasNul (path : String) : Bool :=
  path.toList.contains '\x00'

def path (h : Host) (text : String) (nulFault : SystemFault) : Operation Path :=
  if hasNul text then throw nulFault
  else if text.utf8ByteSize > h.longestPath then throw .nameTooLong
  else pure (.ofText text)

def readAt (h : Host) (text : String) : Operation ByteArray := do
  let path ← path h text .nulInPath
  lift (·.read h path)

def makeDirectoriesAt (h : Host) (text : String) : Operation Unit := do
  let path ← path h text .nulInPath
  let (t, result) := (← get).makeDirectories h path
  set t
  match result with
  | .ok () => return ()
  | .error fault => throw fault

/-- A temporary file goes by its path from the root on, and all of that path has to be short enough.
A name that is taken is refused. -/
def createTemporaryIn (h : Host) (text : String) (bytes : ByteArray) : Operation String := do
  let dir := h.absolute text
  let _ ← path h (Path.join dir (temporaryName 0)) .nulInPath
  let location ← lift (·.walk [] (Path.ofText dir).steps)
  if let some fault := h.fileRefusal? location then throw fault
  let taken := (← get).names location
  let name := freeName taken 0 taken.length
  if name ∈ taken then throw .alreadyExists
  modify (·.put (location ++ [name]) (.file bytes))
  return Path.join dir name

def placeOf (h : Host) (text : String) : Operation Location := do
  let target ← lift (·.target h (Path.ofText text))
  match target.name? with
  | some name => return target.directory ++ [name]
  | none => throw .isADirectory

def renameAt (h : Host) (source text : String) : Operation Unit := do
  let path ← path h text .invalidArgument
  let location ← placeOf h source
  let goal ← lift (·.destination h location path)
  match (← get).node? location with
  | some node => modify fun t => (t.erase location).put goal node
  | none => throw .notFound

def removeAt (h : Host) (text : String) : Operation Unit := do
  let location ← placeOf h text
  modify (·.erase location)

def system (h : Host) : FileSystem (StateM FileTree) where
  read := readAt h
  makeDirectories := makeDirectoriesAt h
  createTemporary := createTemporaryIn h
  rename := renameAt h
  remove := removeAt h

end RecordIdl.FileTree
