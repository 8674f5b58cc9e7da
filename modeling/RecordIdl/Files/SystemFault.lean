namespace RecordIdl

inductive SystemFault
  | notPermitted
  | notFound
  | accessDenied
  | busy
  | alreadyExists
  | crossDevice
  | notADirectory
  | isADirectory
  | invalidArgument
  | nameTooLong
  | notEmpty
  | nulInPath
  | notUtf8
  /-- A failure that only a real disk has, with the text of the system. -/
  | other (text : String)
  deriving DecidableEq, Repr

namespace SystemFault

def withCode (text : String) (code : Nat) : String :=
  s!"{text} (os error {code})"

def message : SystemFault → String
  | notPermitted => withCode "Operation not permitted" 1
  | notFound => withCode "No such file or directory" 2
  | accessDenied => withCode "Permission denied" 13
  | busy => withCode "Device or resource busy" 16
  | alreadyExists => withCode "File exists" 17
  | crossDevice => withCode "Invalid cross-device link" 18
  | notADirectory => withCode "Not a directory" 20
  | isADirectory => withCode "Is a directory" 21
  | invalidArgument => withCode "Invalid argument" 22
  | nameTooLong => withCode "File name too long" 36
  | notEmpty => withCode "Directory not empty" 39
  | nulInPath => "file name contained an unexpected NUL byte"
  | notUtf8 => "stream did not contain valid UTF-8"
  | other text => text

end SystemFault

end RecordIdl
