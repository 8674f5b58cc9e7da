namespace RecordIdl

inductive Primitive
  | unsignedByte | unsignedShort | unsignedInt | unsignedLong
  | byte | short | int | long
  | float | double
  deriving DecidableEq, Repr

namespace Primitive

def sourceName : Primitive → String
  | unsignedByte => "unsigned byte"
  | unsignedShort => "unsigned short"
  | unsignedInt => "unsigned int"
  | unsignedLong => "unsigned long"
  | byte => "byte"
  | short => "short"
  | int => "int"
  | long => "long"
  | float => "float"
  | double => "double"

/-- The schema language has no integers below 32 bits. -/
def schemaName : Primitive → String
  | unsignedByte | unsignedShort | unsignedInt => "uint32"
  | unsignedLong => "uint64"
  | byte | short | int => "sint32"
  | long => "sint64"
  | float => "float"
  | double => "double"

def isByte : Primitive → Bool
  | unsignedByte | byte => true
  | _ => false

def all : List Primitive :=
  [unsignedByte, unsignedShort, unsignedInt, unsignedLong, byte, short, int, long, float, double]

def ofSourceName? (s : String) : Option Primitive :=
  all.find? (·.sourceName = s)

end Primitive

end RecordIdl
