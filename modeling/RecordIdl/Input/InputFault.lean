import RecordIdl.Files.SystemFault
import RecordIdl.Xml.Fault

namespace RecordIdl

/-- Elements that are well formed as XML and still describe no record. -/
inductive StructureFault
  | unfinishedRecord (record : String)
  | unfinishedField (record field : String)
  | unfinishedList (element field : String)
  | untypedField (record field : String)
  | childlessList (record field : String)
  | untypedList (field : String)
  deriving DecidableEq, Repr

def StructureFault.message : StructureFault → String
  | unfinishedRecord record => s!"unexpected end of document inside class '{record}'"
  | unfinishedField record field =>
    s!"unexpected end of document inside attribute '{record}.{field}'"
  | unfinishedList element field => s!"unexpected end of document inside {element} '{field}'"
  | untypedField record field => s!"attribute '{record}.{field}' has no type element"
  | childlessList record field => s!"list attribute '{record}.{field}' has no element type"
  | untypedList field => s!"list attribute '{field}' has no element type"

inductive InputFault
  | xml (fault : Xml.Fault)
  | missingAttribute (element key : String)
  | badAttribute (element key value : String)
  | duplicateRecord (record : String)
  | duplicateField (record field : String)
  | malformed (fault : StructureFault)
  | keylessProperty (line : Nat) (content : String)
  | unreadable (fault : SystemFault)
  deriving DecidableEq, Repr

def InputFault.message : InputFault → String
  | xml fault => "XML parsing error: " ++ fault.message
  | missingAttribute element key =>
    s!"missing required attribute '{key}' on element '{element}'"
  | badAttribute element key value =>
    s!"invalid value '{value}' for attribute '{key}' on element '{element}'"
  | duplicateRecord record => s!"duplicate class definition: '{record}'"
  | duplicateField record field => s!"duplicate attribute definition: '{record}.{field}'"
  | malformed fault => "invalid structure: " ++ fault.message
  | keylessProperty line content => s!"invalid property on line {line}: '{content}'"
  | unreadable fault => "IO error: " ++ fault.message

end RecordIdl
