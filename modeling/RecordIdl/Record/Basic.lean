import RecordIdl.Text.Case

namespace RecordIdl

inductive FieldKind
  | primitive
  | recordReference
  | fixedList
  | variableList
  deriving DecidableEq, Repr

def FieldKind.isList : FieldKind → Bool
  | fixedList | variableList => true
  | primitive | recordReference => false

structure Field where
  name : String
  typeName : String
  kind : FieldKind
  comment : Option String := none
  couldBeString : Bool := false
  length : Option UInt64 := none
  deriving DecidableEq, Repr

/-- Padding only aligns the binary layout; it is known by its name. -/
def Field.isPadding (f : Field) : Bool :=
  "pad".toList.isPrefixOf f.name.toList || "Padding".toList.isSuffixOf f.name.toList

structure InitialValue where
  name : String
  value : String
  deriving DecidableEq, Repr

structure Record where
  name : String
  parent : String
  fields : List Field := []
  comment : Option String := none
  initialValues : List InitialValue := []
  deriving DecidableEq, Repr

namespace Record

def addField (r : Record) (f : Field) : Record :=
  { r with fields := r.fields ++ [f] }

theorem nodup_addField {r : Record} {f : Field} (hr : (r.fields.map Field.name).Nodup)
    (hf : f.name ∉ r.fields.map Field.name) : ((r.addField f).fields.map Field.name).Nodup := by
  rw [addField, List.map_append, List.nodup_append]
  refine ⟨hr, by simp, ?_⟩
  intro a ha b hb hab
  rw [List.map_singleton, List.mem_singleton] at hb
  exact hf (hb ▸ hab ▸ ha)

def addInitialValue (r : Record) (v : InitialValue) : Record :=
  { r with initialValues := r.initialValues ++ [v] }

def isEmpty (r : Record) : Bool :=
  r.fields.isEmpty

def field? (r : Record) (name : String) : Option Field :=
  r.fields.find? (·.name = name)

/-- The last initial value of that name holds; its case does not matter. -/
def pduType? (r : Record) : Option String :=
  (r.initialValues.reverse.find? fun v => Text.equalsIgnoringAsciiCase v.name "pduType").map
    (·.value)

end Record

end RecordIdl
