import RecordIdl.Proofs.DescribedRecords
import RecordIdl.Proofs.TreeReading
import RecordIdl.Proofs.WrittenElements

namespace RecordIdl

namespace Text

theorem digits?_toDigits (n : Nat) : digits? (Nat.toDigits 10 n) = some n := by
  have hdigits : (Nat.toDigits 10 n).all Char.isDigit = true :=
    List.all_eq_true.2 fun c hc => Nat.isDigit_of_mem_toDigits (b := 10) (by decide) (by decide) hc
  have hvalue : digitsValue (Nat.toDigits 10 n) = n := by
    rw [digitsValue, ← Nat.ofDigitChars_eq_foldl, Nat.ofDigitChars_ten_toDigits]
  rw [digits?, if_pos ⟨Nat.toDigits_ne_nil, hdigits⟩, hvalue]

theorem word64?_repr (n : UInt64) : word64? n.toNat.repr = some n := by
  have hnatural : natural? (Nat.toDigits 10 n.toNat) = some n.toNat := by
    rw [natural?]
    · exact digits?_toDigits n.toNat
    · intro cs hsign
      have hplus : '+' ∈ Nat.toDigits 10 n.toNat := hsign ▸ List.mem_cons_self
      exact absurd (Nat.isDigit_of_mem_toDigits (by decide) (by decide) hplus) (by decide)
  rw [word64?, Nat.toList_repr, hnatural]
  simp [n.toNat_lt_size]

end Text

open Xml

def optionalValue (name : String) (value : Option String) : List (String × String) :=
  (value.map (name, ·)).toList

def typeElement (byReference : Bool) (typeName : String) : Element :=
  if byReference then { name := "classRef", attributes := attributesOf [("name", typeName)] }
  else { name := "primitive", attributes := attributesOf [("type", typeName)] }

namespace Field

def listValues (f : Field) : List (String × String) :=
  optionalValue "length" (f.length.map fun n => n.toNat.repr) ++
    optionalValue "couldBeString" (if f.couldBeString then some "true" else none)

def listElement (name : String) (byReference : Bool) (f : Field) : Element :=
  { name
    attributes := attributesOf f.listValues
    content := .ofElements [typeElement byReference f.typeName] }

/-- The type of a list's elements may be written in either way. -/
def kindElement (byReference : Bool) (f : Field) : Element :=
  match f.kind with
  | .primitive => typeElement false f.typeName
  | .recordReference => typeElement true f.typeName
  | .fixedList => f.listElement "primitivelist" byReference
  | .variableList => f.listElement "objectlist" byReference

def element (byReference : Bool) (f : Field) : Element :=
  { name := "attribute"
    attributes := attributesOf (("name", f.name) :: optionalValue "comment" f.comment)
    content := .ofElements [f.kindElement byReference] }

end Field

def InitialValue.element (v : InitialValue) : Element :=
  { name := "initialValue", attributes := attributesOf [("name", v.name), ("value", v.value)] }

namespace Record

def headerValues (r : Record) : List (String × String) :=
  [("name", r.name), ("inheritsFrom", r.parent)] ++ optionalValue "comment" r.comment

def parts (byReference : Field → Bool) (r : Record) : List Element :=
  r.initialValues.map InitialValue.element ++ r.fields.map fun f => f.element (byReference f)

def element (byReference : Field → Bool) (r : Record) : Element :=
  { name := "class"
    attributes := attributesOf r.headerValues
    content := .ofElements (r.parts byReference) }

end Record

namespace RecordSet

def forest (byReference : Record → Field → Bool) (s : RecordSet) : Forest :=
  .ofElements (s.records.map fun r => r.element (byReference r))

/-- The XML text that describes a set. -/
def xml (byReference : Record → Field → Bool) (s : RecordSet) : String :=
  String.ofList (s.forest byReference).text

end RecordSet

theorem typeElement_written (byReference : Bool) (typeName : String) :
    (typeElement byReference typeName).Written := by
  cases byReference with
  | false =>
      exact ⟨writtenTag_attributesOf "primitive" ["type"] rfl (by decide) (by decide), trivial⟩
  | true =>
      exact ⟨writtenTag_attributesOf "classRef" ["name"] rfl (by decide) (by decide), trivial⟩

theorem listElement_written {name : String} (hname : isPlain name = true) (byReference : Bool)
    (f : Field) : (f.listElement name byReference).Written := by
  refine ⟨?_, Forest.written_ofElements ?_⟩
  · have hlists : ∀ names ∈ [[], ["length"], ["couldBeString"], ["length", "couldBeString"]],
        (∀ n ∈ names, isPlain n = true) ∧ names.Nodup := by
      decide
    have hnames : f.listValues.map Prod.fst ∈
        [[], ["length"], ["couldBeString"], ["length", "couldBeString"]] := by
      rw [Field.listValues]
      cases f.length <;> cases f.couldBeString <;> simp [optionalValue]
    obtain ⟨hplain, hdistinct⟩ := hlists _ hnames
    exact writtenTag_attributesOf name _ rfl (List.forall_mem_cons.2 ⟨hname, hplain⟩) hdistinct
  · simpa using typeElement_written byReference f.typeName

theorem kindElement_written (byReference : Bool) (f : Field) :
    (f.kindElement byReference).Written := by
  rw [Field.kindElement]
  cases f.kind with
  | primitive => exact typeElement_written false f.typeName
  | recordReference => exact typeElement_written true f.typeName
  | fixedList => exact listElement_written (by decide) byReference f
  | variableList => exact listElement_written (by decide) byReference f

theorem fieldElement_written (byReference : Bool) (f : Field) :
    (f.element byReference).Written := by
  refine ⟨?_, Forest.written_ofElements (by simpa using kindElement_written byReference f)⟩
  rw [Field.element]
  cases f.comment with
  | none => exact writtenTag_attributesOf "attribute" ["name"] rfl (by decide) (by decide)
  | some comment =>
      exact writtenTag_attributesOf "attribute" ["name", "comment"] rfl (by decide) (by decide)

theorem initialValue_written (v : InitialValue) : v.element.Written :=
  ⟨writtenTag_attributesOf "initialValue" ["name", "value"] rfl (by decide) (by decide), trivial⟩

theorem recordElement_written (byReference : Field → Bool) (r : Record) :
    (r.element byReference).Written := by
  refine ⟨?_, Forest.written_ofElements ?_⟩
  · rw [Record.element, Record.headerValues]
    cases r.comment with
    | none =>
        exact writtenTag_attributesOf "class" ["name", "inheritsFrom"] rfl (by decide) (by decide)
    | some comment =>
        exact writtenTag_attributesOf "class" ["name", "inheritsFrom", "comment"] rfl (by decide)
          (by decide)
  · intro e he
    rcases List.mem_append.1 he with he | he
    · obtain ⟨v, -, rfl⟩ := List.mem_map.1 he
      exact initialValue_written v
    · obtain ⟨f, -, rfl⟩ := List.mem_map.1 he
      exact fieldElement_written (byReference f) f

theorem forest_written (byReference : Record → Field → Bool) (s : RecordSet) :
    (s.forest byReference).Written := by
  refine Forest.written_ofElements fun e he => ?_
  obtain ⟨r, -, rfl⟩ := List.mem_map.1 he
  exact recordElement_written (byReference r) r

namespace Description

variable {e : Element} {values : List (String × String)}

theorem valuesOf?_attributesOf (values : List (String × String)) :
    valuesOf? (attributesOf values) = some values := by
  refine mapM_map_eq_some fun v _ => ?_
  simp [Except.toOption]

theorem firstValue?_attributesOf {name value : String}
    (h : e.attributes = attributesOf ((name, value) :: values)) :
    firstValue? name e = some value := by
  simp [firstValue?, h, attributesOf, Except.toOption]

theorem commentsOf?_attributesOf {name : String} {comment : Option String}
    (h : e.attributes = attributesOf (("name", name) :: optionalValue "comment" comment)) :
    commentsOf? e = some comment.toList := by
  rw [commentsOf?, h]
  cases comment <;> simp [attributesOf, optionalValue, Except.toOption]

theorem typeNameOf?_typeElement (byReference : Bool) {typeName : String} (h : typeName ≠ "") :
    typeNameOf? (typeElement byReference typeName) = some typeName := by
  cases byReference with
  | false =>
      have hvalue : firstValue? "type" (typeElement false typeName) = some typeName :=
        firstValue?_attributesOf rfl
      have hname : (typeElement false typeName).name = "primitive" := rfl
      simp [typeNameOf?, hname, hvalue, h]
  | true =>
      have hvalue : firstValue? "name" (typeElement true typeName) = some typeName :=
        firstValue?_attributesOf rfl
      have hname : (typeElement true typeName).name = "classRef" := rfl
      simp [typeNameOf?, hname, hvalue, h]

theorem namesType_typeElement (byReference : Bool) (typeName : String) :
    namesType (typeElement byReference typeName) = true := by
  cases byReference <;> rfl

theorem listOf?_listElement {kind : FieldKind} (name : String) (byReference : Bool) {f : Field}
    (h : f.typeName ≠ "") :
    listOf? kind f.name (f.listElement name byReference) =
      some { f with kind, comment := none } := by
  have hlengths : (f.listValues.filter (·.1 = "length")).mapM (lengthOf? ·.2) =
      some f.length.toList := by
    rw [Field.listValues]
    cases f.length <;> cases f.couldBeString <;>
      simp [optionalValue, ← word64?_eq, Text.word64?_repr]
  have hmarks : (f.listValues.filter (·.1 = "couldBeString")).mapM (truth? ·.2) =
      some (if f.couldBeString then [true] else []) := by
    rw [Field.listValues]
    cases f.length <;> cases f.couldBeString <;> simp [optionalValue, truth?]
  have htypes : ((f.listElement name byReference).content.elements.filter namesType).mapM
      typeNameOf? = some [f.typeName] := by
    rw [Field.listElement, Forest.elements_ofElements]
    simp [namesType_typeElement, typeNameOf?_typeElement byReference h]
  have hvalues : valuesOf? (f.listElement name byReference).attributes = some f.listValues :=
    valuesOf?_attributesOf f.listValues
  simp only [listOf?, hvalues, hlengths, hmarks, htypes, Option.bind_eq_bind, Option.bind_some,
    List.getLast?_singleton]
  cases f.length <;> cases f.couldBeString <;> simp

theorem typeOf?_typeElement (name : String) (byReference : Bool) {typeName : String}
    (h : typeName ≠ "") :
    typeOf? name (typeElement byReference typeName) = some
      { name, typeName, kind := if byReference then .recordReference else .primitive } := by
  have hname := typeNameOf?_typeElement byReference h
  cases byReference with
  | false =>
      have htag : (typeElement false typeName).name = "primitive" := rfl
      simp [typeOf?, htag, hname]
  | true =>
      have htag : (typeElement true typeName).name = "classRef" := rfl
      simp [typeOf?, htag, hname]

theorem typeOf?_kindElement (byReference : Bool) {f : Field} (h : f.Described) :
    typeOf? f.name (f.kindElement byReference) = some { f with comment := none } := by
  obtain ⟨name, typeName, kind, comment, couldBeString, length⟩ := f
  cases kind with
  | primitive =>
      obtain ⟨rfl, rfl⟩ := h.plain rfl
      exact typeOf?_typeElement name false h.typed
  | recordReference =>
      obtain ⟨rfl, rfl⟩ := h.plain rfl
      exact typeOf?_typeElement name true h.typed
  | fixedList => exact listOf?_listElement "primitivelist" byReference h.typed
  | variableList => exact listOf?_listElement "objectlist" byReference h.typed

theorem isType_kindElement (byReference : Bool) (f : Field) :
    isType (f.kindElement byReference) = true := by
  rw [Field.kindElement]
  cases f.kind <;> rfl

theorem fieldOf?_element (byReference : Bool) {f : Field} (h : f.Described) :
    fieldOf? (f.element byReference) = some f := by
  have hname : firstValue? "name" (f.element byReference) = some f.name :=
    firstValue?_attributesOf rfl
  have hcomments : commentsOf? (f.element byReference) = some f.comment.toList :=
    commentsOf?_attributesOf rfl
  have htypes : ((f.element byReference).content.elements.filter isType).mapM (typeOf? f.name) =
      some [{ f with comment := none }] := by
    rw [Field.element, Forest.elements_ofElements]
    simp [isType_kindElement, typeOf?_kindElement byReference h]
  have hcomment : f.comment.toList.getLast? = f.comment := by
    cases f.comment <;> rfl
  simp only [fieldOf?, hname, hcomments, htypes, hcomment, Option.bind_eq_bind, Option.bind_some,
    List.getLast?_singleton]

theorem initialValueOf?_element (v : InitialValue) : initialValueOf? v.element = some v := by
  rw [initialValueOf?, InitialValue.element, valuesOf?_attributesOf]
  rfl

theorem headerOf?_element (byReference : Field → Bool) {r : Record} (h : r.name ≠ "") :
    headerOf? (r.element byReference) = some { r with fields := [], initialValues := [] } := by
  have hvalues : valuesOf? (r.element byReference).attributes = some r.headerValues :=
    valuesOf?_attributesOf r.headerValues
  have hname : lastValue? "name" r.headerValues = some r.name := by
    rw [Record.headerValues]
    cases r.comment <;> rfl
  have hparent : lastValue? "inheritsFrom" r.headerValues = some r.parent := by
    rw [Record.headerValues]
    cases r.comment <;> rfl
  have hcomment : lastValue? "comment" r.headerValues = r.comment := by
    rw [Record.headerValues]
    cases r.comment <;> rfl
  have hkept : (some r.name).filter (· ≠ "") = some r.name := by
    simp [Option.filter, h]
  simp only [headerOf?, hvalues, hname, hparent, hcomment, hkept, Option.bind_eq_bind,
    Option.bind_some, Option.getD_some]

theorem named_parts (byReference : Field → Bool) (r : Record) :
    named "initialValue" (r.parts byReference) = r.initialValues.map InitialValue.element ∧
      named "attribute" (r.parts byReference) =
        r.fields.map fun f => f.element (byReference f) := by
  simp [named, Record.parts, List.filter_map, InitialValue.element, Field.element,
    Function.comp_def]

theorem recordOf?_element (byReference : Field → Bool) {r : Record} (h : r.Described) :
    recordOf? (r.element byReference) = some r := by
  obtain ⟨hvalues, hfields⟩ := named_parts byReference r
  have hinitial : (r.initialValues.map InitialValue.element).mapM initialValueOf? =
      some r.initialValues :=
    mapM_map_eq_some fun v _ => initialValueOf?_element v
  have hread : (r.fields.map fun f => f.element (byReference f)).mapM fieldOf? =
      some r.fields :=
    mapM_map_eq_some fun f hf => fieldOf?_element (byReference f) (h.fields f hf)
  have hcontent : (r.element byReference).content.elements = r.parts byReference :=
    Forest.elements_ofElements _
  simp only [recordOf?, headerOf?_element byReference h.named, hcontent, hvalues, hfields,
    hinitial, hread, Option.bind_eq_bind, Option.bind_some, guard, if_pos h.distinct]
  rfl

theorem recordsOf?_forest (byReference : Record → Field → Bool) {set : RecordSet}
    (h : set.Described) : recordsOf? (set.forest byReference) = some set.records := by
  have houter : (set.forest byReference).outermost "class" =
      set.records.map fun r => r.element (byReference r) := by
    refine Forest.outermost_ofElements fun e he => ?_
    obtain ⟨r, -, rfl⟩ := List.mem_map.1 he
    rfl
  have hrecords : (set.records.map fun r => r.element (byReference r)).mapM recordOf? =
      some set.records :=
    mapM_map_eq_some fun r hr => recordOf?_element (byReference r) (h r hr)
  simp only [recordsOf?, houter, hrecords, Option.bind_eq_bind, Option.bind_some, guard,
    if_pos set.distinct]
  rfl

/-- Of the sets written as XML just the described ones are read back, and nothing of them is lost,
whichever way the types of lists are written. -/
theorem parse_xml_eq_iff (byReference : Record → Field → Bool) (set : RecordSet) :
    parse (set.xml byReference) = .ok set ↔ set.Described := by
  constructor
  · exact described_of_read
  · intro h
    have hevents : parse (set.xml byReference) = read ⟨(set.forest byReference).events, none⟩ :=
      congrArg read (Forest.readAll_text (forest_written byReference set))
    have hrecords : (read ⟨(set.forest byReference).events, none⟩).toOption.map
        RecordSet.records = some set.records := by
      rw [read_events, foldlM_readClass]
      exact recordsOf?_forest byReference h
    rw [hevents]
    exact RecordSet.eq_ok_of_records hrecords

def tagSet : RecordSet where
  records := [{ name := "Tag", parent := "root", comment := some "", fields := [
    { name := "marks", typeName := "<mark>", kind := .fixedList, length := some 2 }] }]
  distinct := by decide

example : tagSet.xml (fun _ _ => false) =
    "<class name=\"Tag\" inheritsFrom=\"root\" comment=\"\">" ++
      "<attribute name=\"marks\"><primitivelist length=\"2\">" ++
        "<primitive type=\"&lt;mark&gt;\"/>" ++ "</primitivelist></attribute></class>" := by
  decide +kernel

end Description

end RecordIdl
