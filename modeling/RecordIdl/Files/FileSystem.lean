import RecordIdl.Files.Path
import RecordIdl.Files.SystemFault

namespace RecordIdl

structure FileSystem (m : Type → Type) where
  read : String → ExceptT SystemFault m ByteArray
  makeDirectories : String → ExceptT SystemFault m Unit
  createTemporary : String → ByteArray → ExceptT SystemFault m String
  /-- Moves a file in place of what may stand at the second path. -/
  rename : String → String → ExceptT SystemFault m Unit
  remove : String → ExceptT SystemFault m Unit

namespace FileSystem

variable {m : Type → Type} [Monad m]

def readText (fs : FileSystem m) (path : String) : ExceptT SystemFault m String := do
  match String.fromUTF8? (← fs.read path) with
  | some text => return text
  | none => throw .notUtf8

/-- A file is complete under a temporary name before it takes its own, and the temporary file goes
if it cannot. -/
def write (fs : FileSystem m) (dir name contents : String) : ExceptT SystemFault m String := do
  let path := Path.join dir name
  let temporary ← fs.createTemporary dir contents.toUTF8
  tryCatch (fs.rename temporary path) fun fault => do
    fs.remove temporary
    throw fault
  return path

end FileSystem

end RecordIdl
