import RecordIdl.Files.FileTree
import RecordIdl.Files.Path
import RecordIdl.Files.SystemFault

namespace RecordIdl

/-- All below its location is on a device. Some devices refuse new files and directories, each with
a fault of its own. -/
structure Device where
  location : Location
  fileRefusal? : Option SystemFault := none
  directoryRefusal? : Option SystemFault := none
  deriving DecidableEq, Repr

structure Host where
  workingDirectory : Location := []
  devices : List Device := []
  longestPath : Nat := 4095
  deriving DecidableEq, Repr

namespace Host

def device? (h : Host) (location : Location) : Option Device :=
  (h.devices.filter (·.location.isPrefixOf location)).getLast?

def fileRefusal? (h : Host) (location : Location) : Option SystemFault :=
  (h.device? location).bind (·.fileRefusal?)

def directoryRefusal? (h : Host) (location : Location) : Option SystemFault :=
  (h.device? location).bind (·.directoryRefusal?)

def origin (h : Host) (path : Path) : Location :=
  if path.fromRoot then [] else h.workingDirectory

def absolute (h : Host) (text : String) : String :=
  Path.join ("/" ++ "/".intercalate h.workingDirectory) text

end Host

end RecordIdl
