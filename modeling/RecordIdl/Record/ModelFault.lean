namespace RecordIdl

inductive ModelFault
  /-- The names of the records passed, the first one met twice at the end again. -/
  | cyclicInheritance (path : List String)
  | badPduType (record value : String)
  | duplicateField (record field : String)
  | unnamedField (record : String)
  | untypedField (record field : String)
  deriving DecidableEq, Repr

def ModelFault.message : ModelFault → String
  | cyclicInheritance path => "cyclic inheritance detected: " ++ " -> ".intercalate path
  | badPduType record value => s!"invalid pduType '{value}' on record '{record}'"
  | duplicateField record field => s!"duplicate field '{field}' in record '{record}'"
  | unnamedField record => s!"validation error: unnamed field in record '{record}'"
  | untypedField record field =>
    s!"validation error: field '{field}' in record '{record}' has no type"

end RecordIdl
