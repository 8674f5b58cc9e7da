import RecordIdl.CommandLine

namespace RecordIdl

namespace Disk

def faultOf : IO.Error → SystemFault
  | .noFileOrDirectory .. => .notFound
  | .permissionDenied _ 1 _ => .notPermitted
  | .permissionDenied _ 13 _ => .accessDenied
  | .resourceBusy .. => .busy
  | .alreadyExists .. => .alreadyExists
  | .unsupportedOperation 18 _ => .crossDevice
  | .inappropriateType _ 20 _ => .notADirectory
  | .inappropriateType _ 21 _ => .isADirectory
  | .invalidArgument _ 36 _ => .nameTooLong
  | .invalidArgument .. => .invalidArgument
  | .unsatisfiedConstraints 39 _ => .notEmpty
  | e => .other (toString e)

def guarded {α : Type} (action : IO α) : ExceptT SystemFault IO α :=
  ExceptT.mk do
    match ← action.toBaseIO with
    | .ok a => return .ok a
    | .error e => return .error (faultOf e)

def makeDirectory (path : String) : IO Unit := do
  match ← (IO.FS.createDir path).toBaseIO with
  | .ok () => return ()
  | .error e =>
    match ← (do (← IO.FS.realPath path).isDir : IO Bool).toBaseIO with
    | .ok true => return ()
    | _ => throw e

def makeDirectories (path : String) : IO Unit := do
  if path = "" then return ()
  match ← (makeDirectory path).toBaseIO with
  | .ok () => return ()
  | .error (.noFileOrDirectory ..) =>
    let above := ((Path.pieces path).reverse.dropWhile (!Path.isStep ·)).drop 1
    let mut directory := ""
    for piece in above.reverse do
      directory := directory ++ String.ofList piece
      if directory ≠ "" then makeDirectory directory
      directory := directory ++ "/"
    makeDirectory path
  | .error e => throw e

/-- Tries names until one is free; the bound only guards against a directory full of them. -/
def freePath (dir : String) : Nat → IO String
  | 0 => throw (IO.userError "no free temporary name")
  | tries + 1 => do
    let path := Path.join dir (".tmp" ++ toString (← IO.rand 0 999999999))
    let taken ← (IO.FS.readBinFile path).toBaseIO
    match taken with
    | .error (.noFileOrDirectory ..) => return path
    | .error e => throw e
    | .ok _ => freePath dir tries

def system : FileSystem IO where
  read path := guarded (IO.FS.readBinFile path)
  makeDirectories path := guarded (makeDirectories path)
  createTemporary dir bytes := guarded do
    let path ← freePath (Path.join (← IO.currentDir).toString dir) 100
    IO.FS.writeBinFile path bytes
    return path
  rename source target := guarded (IO.FS.rename source target)
  remove path := guarded (IO.FS.removeFile path)

end Disk

end RecordIdl

def main (arguments : List String) : IO UInt32 := do
  let outcome ← RecordIdl.CommandLine.run RecordIdl.Disk.system arguments
  IO.print outcome.output
  IO.eprint outcome.errors
  return UInt32.ofNat outcome.code
