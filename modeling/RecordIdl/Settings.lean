namespace RecordIdl

structure Settings where
  /-- Package of the generated files and path before the files they import. -/
  package : Option String := none
  idOffset : UInt32 := 0
  eventType : String := "EventIdentifier"
  voidType : String := "Void"
  /-- Parents that mean to have no parent. -/
  roots : List String := ["root", "Pdu"]
  outputDir : String := "schema"
  deriving DecidableEq, Repr

end RecordIdl
