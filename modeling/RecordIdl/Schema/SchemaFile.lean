import RecordIdl.Role
import RecordIdl.Schema.Body

namespace RecordIdl

inductive SchemaItem
  /-- A type; an id is told in a comment. -/
  | type (name : String) (id : Option UInt32) (declarations : List Declaration)
  | component (name : String) (id : UInt32) (declarations : List Declaration)
  | event (name : String) (id : UInt32)
  | command (name : String) (id : UInt32) (response : String)
  | wrapper (wrapper : Wrapper)
  deriving DecidableEq, Repr

structure SchemaFile where
  package : Option String
  imports : List String
  comment : Option String
  items : List SchemaItem
  deriving DecidableEq, Repr

namespace SchemaItem

def declared : SchemaItem → String
  | type name .. | component name .. => name
  | event name .. => name ++ "Event"
  | command name .. => name ++ "Command"
  | wrapper w => w.name

def commentText : Option String → String
  | some comment => "  /** " ++ comment ++ " */\n"
  | none => ""

def declarationText (d : Declaration) : String :=
  commentText d.comment ++ "  " ++ d.text ++ "\n"

def declarationsText (ds : List Declaration) : String :=
  "\n".intercalate (ds.map declarationText)

def gap (ds : List Declaration) : String :=
  if ds.isEmpty then "" else "\n"

def block (keyword name content : String) : String :=
  keyword ++ " " ++ name ++ " \x7b\n" ++ content ++ "\x7d\n"

def idText (id : UInt32) : String :=
  "id = " ++ toString id.toNat

def text (item : SchemaItem) : String :=
  match item with
  | type _ none ds => block "type" item.declared (declarationsText ds)
  | type _ (some id) ds =>
    block "type" item.declared ("  // " ++ idText id ++ "\n" ++ gap ds ++ declarationsText ds)
  | component _ id ds =>
    block "component" item.declared ("  " ++ idText id ++ ";\n" ++ gap ds ++ declarationsText ds)
  | event name id =>
    block "component" item.declared
      ("  " ++ idText id ++ ";\n  event " ++ name ++ " " ++ Spelling.snakeCase name ++ ";\n")
  | command name id response =>
    block "component" item.declared
      ("  " ++ idText id ++ ";\n  command " ++ response ++ " " ++ Spelling.snakeCase name ++ "("
        ++ name ++ ");\n")
  | wrapper w => block "type" item.declared ("  " ++ w.content ++ "\n")

/-- The items of a record, its wrappers last. -/
def ofRecord (name : String) (d : Designation) (b : Body) : List SchemaItem :=
  let own :=
    match d.role with
    | .plain => [type name (if d.isUnmappedCommand then some d.id else none) b.declarations]
    | .component => [component name d.id b.declarations]
    | .event => [event name d.id, type name none b.declarations]
    | .command response => [command name d.id response, type name (some d.id) b.declarations]
  own ++ b.wrappers.map wrapper

end SchemaItem

namespace SchemaFile

def header : String :=
  "// Generated by pduschema from the record model. Do not edit."

def nameFor (typeName : String) : String :=
  typeName ++ ".schema"

def packageLine (package : String) : String :=
  "package " ++ Text.lowerText package ++ ";"

def importLine (package : Option String) (typeName : String) : String :=
  match package with
  | some package => "import \"" ++ package ++ "/" ++ nameFor typeName ++ "\";"
  | none => "import \"" ++ nameFor typeName ++ "\";"

def packageText : Option String → String
  | some package => packageLine package ++ "\n\n"
  | none => ""

def importsText (package : Option String) (names : List String) : String :=
  if names.isEmpty then ""
  else String.join (names.map fun name => importLine package name ++ "\n") ++ "\n"

def commentText : Option String → String
  | some comment => "// " ++ comment ++ "\n"
  | none => ""

/-- Items are parted by blank lines. -/
def text (s : SchemaFile) : String :=
  header ++ "\n\n" ++ packageText s.package ++ importsText s.package s.imports
    ++ commentText s.comment ++ "\n".intercalate (s.items.map SchemaItem.text)

end SchemaFile

end RecordIdl
