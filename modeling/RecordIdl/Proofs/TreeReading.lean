import Mathlib.Data.List.Induction
import Mathlib.Data.List.Nodup
import Mathlib.Data.Option.Basic
import RecordIdl.Proofs.ElementRuns
import RecordIdl.Proofs.SpelledNumbers

namespace RecordIdl

theorem guard_eq_none {p : Prop} [Decidable p] (h : ¬p) : (guard p : Option Unit) = none :=
  if_neg h

theorem not_nodup_of_mem {α β : Type} {key : α → β} {xs ys : List α} {x : α}
    (h : key x ∈ xs.map key) : ¬((xs ++ x :: ys).map key).Nodup := by
  intro hdistinct
  rw [List.map_append] at hdistinct
  exact List.disjoint_of_nodup_append hdistinct h (by simp)

namespace Xml

variable {tag : String} {e : Element} {es : List Element}

theorem named_cons_of_eq (h : e.name = tag) : named tag (e :: es) = e :: named tag es :=
  List.filter_cons_of_pos (by simpa using h)

theorem named_cons_of_ne (h : e.name ≠ tag) : named tag (e :: es) = named tag es :=
  List.filter_cons_of_neg (by simpa using h)

end Xml

namespace Description

open Xml

theorem toOption_value (a : Attribute) : (value a).toOption = a.value.toOption := by
  rw [value]
  cases a.value <;> rfl

theorem toOption_values (attributes : List Attribute) :
    (values attributes).toOption = valuesOf? attributes := by
  rw [values, toOption_mapM, valuesOf?]
  congr 1
  funext a
  rw [toOption_bind_pure, toOption_value]

theorem last?_eq (name : String) (values : List (String × String)) :
    last? name values = lastValue? name values := by
  induction values using List.reverseRecOn with
  | nil => rfl
  | append_singleton values v ih =>
      rw [last?, List.reverse_append, List.reverse_singleton, List.singleton_append,
        List.lookup_cons, lastValue?, List.filter_append, List.map_append]
      by_cases hname : v.1 = name
      · simp [hname]
      · have hne : (name == v.1) = false := beq_eq_false_iff_ne.2 fun h => hname h.symm
        have hnone : [v].filter (·.1 = name) = [] := by simp [hname]
        rw [hne, hnone, List.map_nil, List.append_nil]
        exact ih

theorem toOption_recordHeader (e : Element) :
    (recordHeader e.attributes).toOption = headerOf? e := by
  rw [recordHeader, toOption_bind, toOption_values, headerOf?]
  cases valuesOf? e.attributes with
  | none => rfl
  | some values =>
      simp only [Option.bind_eq_bind, Option.bind_some, last?_eq]
      cases (lastValue? "name" values).filter (· ≠ "") <;> rfl

theorem toOption_initialValue (e : Element) :
    (initialValue e.attributes).toOption = initialValueOf? e := by
  rw [initialValue, toOption_bind, toOption_values, initialValueOf?]
  cases valuesOf? e.attributes with
  | none => rfl
  | some values =>
      simp only [Option.bind_eq_bind, Option.bind_some, last?_eq]
      cases lastValue? "name" values with
      | none => rfl
      | some name => cases lastValue? "value" values <;> rfl

theorem toOption_fieldName (e : Element) :
    (fieldName e.attributes).toOption = firstValue? "name" e := by
  rw [fieldName, firstValue?]
  cases e.attributes.find? (·.name = "name") with
  | none => rfl
  | some a => exact toOption_value a

theorem toOption_required (element name : String) (e : Element) :
    (required element name e.attributes).toOption = (firstValue? name e).filter (· ≠ "") := by
  rw [required, firstValue?]
  cases e.attributes.find? (·.name = name) with
  | none => rfl
  | some a =>
      change (value a >>= _).toOption = a.value.toOption.filter _
      rw [toOption_bind, ← toOption_value]
      cases value a with
      | error e => rfl
      | ok v => by_cases hv : v = "" <;> simp [hv, Except.toOption, Option.filter] <;> rfl

theorem toOption_typeElement? (e : Element) :
    (typeElement? e.name e.attributes).toOption =
      if namesType e then
        (typeNameOf? e).map fun typeName =>
          some (if e.name = "primitive" then .primitive else .recordReference, typeName)
      else some none := by
  rw [typeElement?, namesType, typeNameOf?]
  by_cases hprimitive : e.name = "primitive"
  · have hnames : (decide (e.name = "primitive") || decide (e.name = "classRef")) = true := by
      simp [hprimitive]
    simp only [if_pos hprimitive, if_pos hnames, toOption_bind_pure, toOption_required]
  · by_cases hreference : e.name = "classRef"
    · have hnames : (decide (e.name = "primitive") || decide (e.name = "classRef")) = true := by
        simp [hreference]
      simp only [if_neg hprimitive, if_pos hreference, if_pos hnames, toOption_bind_pure,
        toOption_required]
    · simp only [hprimitive, hreference]
      rfl

theorem readInList_eq {element : String} {kind : FieldKind} {length : Option UInt64} {mark : Bool}
    (typeName : Option String) (e : Element) :
    readInList ⟨element, kind, length, mark, typeName⟩ e =
      if namesType e then
        (typeNameOf? e).map fun typeName => ⟨element, kind, length, mark, some typeName⟩
      else some ⟨element, kind, length, mark, typeName⟩ := by
  rw [readInList, ListDraft.read, toOption_bind, toOption_typeElement?]
  split
  · cases typeNameOf? e <;> rfl
  · rfl

theorem natural?_eq (cs : List Char) :
    Text.natural? cs = Text.digits? (if cs.head? = some '+' then cs.tail else cs) := by
  by_cases hplus : ∃ rest, cs = '+' :: rest
  · obtain ⟨rest, rfl⟩ := hplus
    exact Text.natural?_plus rest
  · have hhead : cs.head? ≠ some '+' := by
      intro h
      obtain ⟨rest, hrest⟩ := List.head?_eq_some_iff.1 h
      exact hplus ⟨rest, hrest⟩
    rw [if_neg hhead, Text.natural?_of_unsigned (not_exists.1 hplus)]

theorem word64?_eq (s : String) : Text.word64? s = lengthOf? s := by
  rw [Text.word64?, natural?_eq, lengthOf?]
  generalize (if s.toList.head? = some '+' then s.toList.tail else s.toList) = digits
  rw [Text.digits?, Text.digitsValue, ← Nat.ofDigitChars_eq_foldl]
  by_cases hdigits : digits ≠ [] ∧ digits.all Char.isDigit = true
  · rw [if_pos hdigits, Option.bind_some]
    exact if_congr ⟨fun hbound => ⟨hdigits.1, hdigits.2, hbound⟩, fun h => h.2.2⟩ rfl rfl
  · rw [if_neg hdigits, if_neg fun h => hdigits ⟨h.1, h.2.1⟩, Option.bind_none]

def listValue? (list : ListDraft) (v : String × String) : Option ListDraft :=
  if v.1 = "length" then (lengthOf? v.2).map fun n => { list with length := some n }
  else if v.1 = "couldBeString" then
    (truth? v.2).map fun mark => { list with couldBeString := mark }
  else some list

theorem toOption_listAttribute (list : ListDraft) (a : Attribute) :
    (listAttribute list a).toOption =
      (a.value.toOption.map (a.name, ·)).bind (listValue? list) := by
  rw [listAttribute, toOption_bind, toOption_value]
  cases a.value with
  | error e => rfl
  | ok v =>
      change (if a.name = "length" then _ else _ : Except InputFault ListDraft).toOption =
        listValue? list (a.name, v)
      rw [listValue?, truth?]
      by_cases hlength : a.name = "length"
      · simp only [if_pos hlength, word64?_eq]
        cases lengthOf? v <;> rfl
      · simp only [if_neg hlength]
        by_cases hmark : a.name = "couldBeString"
        · simp only [if_pos hmark]
          split
          · rfl
          · split <;> rfl
        · simp only [if_neg hmark]
          rfl

theorem foldlM_listValue? {element : String} {kind : FieldKind} {typeName : Option String}
    (values : List (String × String)) (length : Option UInt64) (mark : Bool) :
    values.foldlM listValue? ⟨element, kind, length, mark, typeName⟩ = (do
      let lengths ← (values.filter (·.1 = "length")).mapM (lengthOf? ·.2)
      let marks ← (values.filter (·.1 = "couldBeString")).mapM (truth? ·.2)
      some ⟨element, kind, lengths.getLast?.or length, marks.getLast?.getD mark, typeName⟩) := by
  -- Lengths and marks do not touch each other: each value moves the last of its own kind.
  induction values generalizing length mark with
  | nil => rfl
  | cons v values ih =>
      rw [List.foldlM_cons, listValue?]
      by_cases hlength : v.1 = "length"
      · have hmark : v.1 ≠ "couldBeString" := by simp [hlength]
        rw [if_pos hlength, List.filter_cons_of_pos (by simpa using hlength),
          List.filter_cons_of_neg (by simpa using hmark), List.mapM_cons]
        cases lengthOf? v.2 with
        | none => rfl
        | some n =>
            refine (ih (some n) mark).trans ?_
            cases (values.filter (·.1 = "length")).mapM (lengthOf? ·.2) with
            | none => rfl
            | some lengths => simp [List.getLast?_cons]
      · rw [if_neg hlength, List.filter_cons_of_neg (by simpa using hlength)]
        by_cases hmark : v.1 = "couldBeString"
        · rw [if_pos hmark, List.filter_cons_of_pos (by simpa using hmark), List.mapM_cons]
          cases truth? v.2 with
          | none => cases (values.filter (·.1 = "length")).mapM (lengthOf? ·.2) <;> rfl
          | some b =>
              refine (ih length b).trans ?_
              cases (values.filter (·.1 = "length")).mapM (lengthOf? ·.2) with
              | none => rfl
              | some lengths =>
                  cases (values.filter (·.1 = "couldBeString")).mapM (truth? ·.2) with
                  | none => rfl
                  | some marks => simp [List.getLast?_cons]
        · rw [if_neg hmark, List.filter_cons_of_neg (by simpa using hmark)]
          exact ih length mark

theorem toOption_foldlM_listAttribute (attributes : List Attribute) (list : ListDraft) :
    (attributes.foldlM listAttribute list).toOption =
      (valuesOf? attributes).bind (·.foldlM listValue? list) := by
  induction attributes generalizing list with
  | nil => rfl
  | cons a attributes ih =>
      rw [List.foldlM_cons, toOption_bind, toOption_listAttribute, valuesOf?, List.mapM_cons,
        ← valuesOf?]
      cases a.value with
      | error e => rfl
      | ok v =>
          simp only [ih]
          cases valuesOf? attributes with
          | none => exact Option.bind_fun_none _
          | some values => rfl

theorem readInField_list {e : Element} {kind : FieldKind} (h : listKind? e.name = some kind)
    (draft : FieldDraft) :
    readInField draft e =
      (listOf? kind draft.name e).map fun f => { draft with field := some f } := by
  simp only [readInField, h, toOption_foldlM_listAttribute, listOf?]
  cases valuesOf? e.attributes with
  | none => rfl
  | some values =>
      simp only [Option.bind_some, Option.bind_eq_bind, foldlM_listValue?]
      cases (values.filter (·.1 = "length")).mapM (lengthOf? ·.2) with
      | none => rfl
      | some lengths =>
          simp only [Option.bind_some]
          cases (values.filter (·.1 = "couldBeString")).mapM (truth? ·.2) with
          | none => rfl
          | some marks =>
              simp only [Option.bind_some, Option.or_none]
              rw [foldlM_last readInList_eq]
              cases (e.content.elements.filter namesType).mapM typeNameOf? with
              | none => rfl
              | some typeNames =>
                  simp only [Option.map_some, Option.bind_some, Option.or_none, ListDraft.finish]
                  cases typeNames.getLast? <;> rfl

theorem readInField_eq {name : String} {comment : Option String} (field : Option Field)
    (e : Element) :
    readInField ⟨name, comment, field⟩ e =
      if isType e then (typeOf? name e).map fun f => ⟨name, comment, some f⟩
      else some ⟨name, comment, field⟩ := by
  rw [isType, typeOf?]
  by_cases hfixed : e.name = "primitivelist"
  · have hkind : listKind? e.name = some .fixedList := by rw [listKind?, if_pos hfixed]
    rw [readInField_list hkind, if_pos hfixed]
    simp [hfixed]
  by_cases hvariable : e.name = "objectlist"
  · have hkind : listKind? e.name = some .variableList := by
      rw [listKind?, if_neg hfixed, if_pos hvariable]
    rw [readInField_list hkind, if_neg hfixed, if_pos hvariable]
    simp [hvariable]
  · have hkind : listKind? e.name = none := by rw [listKind?, if_neg hfixed, if_neg hvariable]
    simp only [readInField, hkind, FieldDraft.read, toOption_bind, toOption_typeElement?]
    by_cases hnames : namesType e
    · simp only [hnames, hfixed, hvariable, if_pos, if_false, Bool.true_or]
      cases typeNameOf? e <;> rfl
    · simp [hnames, hfixed, hvariable]
      rfl

theorem listOf?_name {kind : FieldKind} {name : String} {e : Element} {f : Field}
    (h : listOf? kind name e = some f) : f.name = name := by
  simp only [listOf?, Option.bind_eq_bind, Option.bind_eq_some_iff, Option.some.injEq] at h
  obtain ⟨_, _, _, _, _, _, _, _, _, _, rfl⟩ := h
  rfl

theorem typeOf?_name {name : String} {e : Element} {f : Field} (h : typeOf? name e = some f) :
    f.name = name := by
  rw [typeOf?] at h
  split at h
  · exact listOf?_name h
  split at h
  · exact listOf?_name h
  · obtain ⟨typeName, _, rfl⟩ := Option.map_eq_some_iff.1 h
    rfl

theorem toOption_fieldHeader (e : Element) :
    (fieldHeader e.attributes).toOption = (firstValue? "name" e).bind fun name =>
      (commentsOf? e).map fun comments => ⟨name, comments.getLast?, none⟩ := by
  rw [fieldHeader, toOption_bind, toOption_fieldName]
  congr 1
  funext name
  rw [toOption_bind_pure, toOption_mapM, commentsOf?]
  simp only [toOption_value]

def addField? (r : Record) (f : Field) : Option Record :=
  if f.name ∈ r.fields.map Field.name then none else some (r.addField f)

theorem toOption_finish {name : String} {comment : Option String} {field : Option Field}
    (hname : ∀ f, field = some f → f.name = name) (r : Record) :
    (FieldDraft.finish ⟨name, comment, field⟩ r).toOption =
      field.bind fun f => addField? r { f with comment } := by
  rw [FieldDraft.finish]
  cases field with
  | none => rfl
  | some f =>
      obtain rfl := hname f rfl
      have htaken : (r.field? f.name).isSome = true ↔ f.name ∈ r.fields.map Field.name := by
        simp [Record.field?, List.find?_isSome]
      simp only [Option.bind_some, addField?, htaken]
      split <;> rfl

theorem name_of_mem_types {name : String} {es : List Element} {types : List Field}
    (h : es.mapM (typeOf? name) = some types) : ∀ f ∈ types, f.name = name := by
  intro f hf
  have hmem : some f ∈ es.map (typeOf? name) := by
    rw [mapM_eq_some_iff.1 h]
    exact List.mem_map_of_mem hf
  obtain ⟨e, _, he⟩ := List.mem_map.1 hmem
  exact typeOf?_name he

theorem readInRecord_field {e : Element} (h : e.name = "attribute") (r : Record) :
    readInRecord r e = (fieldOf? e).bind (addField? r) := by
  rw [readInRecord, if_pos h, toOption_fieldHeader, fieldOf?]
  cases firstValue? "name" e with
  | none => rfl
  | some name =>
      cases commentsOf? e with
      | none => rfl
      | some comments =>
          simp only [Option.bind_eq_bind, Option.bind_some, Option.map_some]
          rw [foldlM_last readInField_eq]
          cases htypes : (e.content.elements.filter isType).mapM (typeOf? name) with
          | none => rfl
          | some types =>
              have hname : ∀ f, types.getLast? = some f → f.name = name := fun f hf =>
                name_of_mem_types htypes f (List.mem_of_getLast? hf)
              simp only [Option.map_some, Option.bind_some, Option.or_none]
              rw [toOption_finish hname]
              cases types.getLast? <;> rfl

theorem foldlM_readInRecord (es : List Element) (r : Record)
    (hdistinct : (r.fields.map Field.name).Nodup) :
    es.foldlM readInRecord r = (do
      let initialValues ← (named "initialValue" es).mapM initialValueOf?
      let fields ← (named "attribute" es).mapM fieldOf?
      guard ((r.fields ++ fields).map Field.name).Nodup
      some { r with
        fields := r.fields ++ fields, initialValues := r.initialValues ++ initialValues }) := by
  induction es generalizing r with
  | nil => simp [named, hdistinct]
  | cons e es ih =>
      rw [List.foldlM_cons]
      by_cases hfield : e.name = "attribute"
      · have hvalue : e.name ≠ "initialValue" := by simp [hfield]
        rw [readInRecord_field hfield, named_cons_of_ne hvalue, named_cons_of_eq hfield,
          List.mapM_cons]
        cases fieldOf? e with
        | none => cases (named "initialValue" es).mapM initialValueOf? <;> rfl
        | some f =>
            simp only [Option.bind_some, addField?]
            split
            -- A name that is taken stays one, whatever fields follow.
            · next htaken =>
                cases (named "initialValue" es).mapM initialValueOf? with
                | none => rfl
                | some initialValues =>
                    cases (named "attribute" es).mapM fieldOf? with
                    | none => rfl
                    | some fields =>
                        change none = Option.bind (guard _) _
                        rw [guard_eq_none (not_nodup_of_mem htaken)]
                        rfl
            · next hnew =>
                refine (ih (r.addField f) (Record.nodup_addField hdistinct hnew)).trans ?_
                cases (named "initialValue" es).mapM initialValueOf? with
                | none => rfl
                | some initialValues =>
                    cases (named "attribute" es).mapM fieldOf? with
                    | none => rfl
                    | some fields => simp [Record.addField]
      · rw [readInRecord, if_neg hfield, named_cons_of_ne hfield]
        by_cases hvalue : e.name = "initialValue"
        · rw [if_pos hvalue, named_cons_of_eq hvalue, List.mapM_cons, toOption_initialValue]
          cases initialValueOf? e with
          | none => rfl
          | some v =>
              refine (ih (r.addInitialValue v) hdistinct).trans ?_
              cases (named "initialValue" es).mapM initialValueOf? with
              | none => rfl
              | some initialValues => simp [Record.addInitialValue]
        · rw [if_neg hvalue, named_cons_of_ne hvalue]
          exact ih r hdistinct

theorem headerOf?_bare {e : Element} {header : Record} (h : headerOf? e = some header) :
    header.fields = [] ∧ header.initialValues = [] := by
  simp only [headerOf?, Option.bind_eq_bind, Option.bind_eq_some_iff, Option.some.injEq] at h
  obtain ⟨_, _, _, _, rfl⟩ := h
  exact ⟨rfl, rfl⟩

theorem toOption_addRecord (set : RecordSet) (r : Record) :
    (addRecord set r).toOption = set.add? r := by
  rw [addRecord]
  cases set.add? r <;> rfl

theorem readClass_eq (set : RecordSet) (e : Element) :
    readClass set e = (recordOf? e).bind set.add? := by
  rw [readClass, toOption_recordHeader, recordOf?]
  cases hheader : headerOf? e with
  | none => rfl
  | some header =>
      obtain ⟨hfields, hvalues⟩ := headerOf?_bare hheader
      simp only [Option.bind_eq_bind, Option.bind_some, toOption_addRecord]
      rw [foldlM_readInRecord _ header (by simp [hfields]), hfields, hvalues]
      simp only [List.nil_append, Option.bind_eq_bind, Option.bind_assoc, Option.bind_some]

theorem foldlM_readClass (es : List Element) (set : RecordSet) :
    (es.foldlM readClass set).map RecordSet.records = (do
      let records ← es.mapM recordOf?
      guard ((set.records ++ records).map Record.name).Nodup
      some (set.records ++ records)) := by
  induction es generalizing set with
  | nil => simp [set.distinct]
  | cons e es ih =>
      rw [List.foldlM_cons, readClass_eq, List.mapM_cons]
      cases recordOf? e with
      | none => rfl
      | some r =>
          simp only [Option.bind_some, RecordSet.add?]
          split
          · next htaken =>
              cases es.mapM recordOf? with
              | none => rfl
              | some records =>
                  change none = Option.bind (guard _) _
                  rw [guard_eq_none (not_nodup_of_mem htaken)]
                  rfl
          · next hnew =>
              refine (ih ⟨set.records ++ [r], RecordSet.nodup_names_concat hnew⟩).trans ?_
              cases es.mapM recordOf? with
              | none => rfl
              | some records => simp

/-- A description whose tags pair up is read if its elements can be read as trees, and gives the
same records. -/
theorem records_read_of_forest (f : Forest) :
    (read ⟨f.events, none⟩).toOption.map RecordSet.records = recordsOf? f := by
  rw [read_events, foldlM_readClass]
  rfl

/-- The class within the note counts as little as the note itself. -/
def harbour : Forest :=
  .element "classes" []
    (.other
      (.element "class" [⟨"name", "Draft"⟩, ⟨"comment", "hull &amp; crew"⟩, ⟨"name", "Vessel"⟩]
        (.single "initialValue" [⟨"value", "7"⟩, ⟨"name", "pduType"⟩]
          (.element "note" [] (.single "class" [⟨"name", "Wreck"⟩] .nil)
            (.element "attribute" [⟨"name", "marks"⟩]
              (.element "primitivelist" [⟨"length", "4"⟩, ⟨"length", "+012"⟩]
                (.single "primitive" [⟨"type", "uint8"⟩] .nil) .nil)
              (.element "attribute" [⟨"name", "crew"⟩, ⟨"comment", "by rank"⟩]
                (.single "primitive" [⟨"type", "int"⟩]
                  (.element "objectlist" [⟨"couldBeString", "true"⟩]
                    (.single "classRef" [⟨"name", "Sailor"⟩] .nil) .nil))
                .nil))))
        (.single "class" [⟨"name", "Sailor"⟩, ⟨"inheritsFrom", "Vessel"⟩] .nil)))
    .nil

theorem records_read_of_harbour :
    (read ⟨harbour.events, none⟩).toOption.map RecordSet.records = some [
      { name := "Vessel", parent := "root", comment := some "hull & crew"
        fields := [
          { name := "marks", typeName := "uint8", kind := .fixedList, length := some 12 },
          { name := "crew", typeName := "Sailor", kind := .variableList
            comment := some "by rank", couldBeString := true }]
        initialValues := [⟨"pduType", "7"⟩] },
      { name := "Sailor", parent := "Vessel" }] :=
  (records_read_of_forest harbour).trans (by decide +kernel)

end Description

end RecordIdl
