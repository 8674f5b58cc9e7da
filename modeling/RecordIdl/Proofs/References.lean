import RecordIdl.Proofs.DirectBuild

namespace RecordIdl

def Role.references (name : String) : Role → List String
  | plain | component => []
  | event => [name]
  | command response => [response, name]

namespace SchemaItem

/-- The type names that an item is written with, apart from the one that it declares. -/
def references : SchemaItem → List String
  | type _ _ ds | component _ _ ds => ds.map Declaration.typeName
  | event name _ => [name]
  | command name _ response => [response, name]
  | wrapper w => [w.elementType]

theorem mem_references_ofRecord {x name : String} {d : Designation} {b : Body} :
    x ∈ (ofRecord name d b).flatMap references ↔
      x ∈ d.role.references name ∨ x ∈ b.declarations.map Declaration.typeName ∨
        x ∈ b.wrappers.map Wrapper.elementType := by
  have hwrappers : (b.wrappers.map wrapper).flatMap references =
      b.wrappers.map Wrapper.elementType := by
    rw [List.flatMap_map]
    exact List.map_eq_flatMap.symm
  cases hrole : d.role <;>
    simp only [ofRecord, hrole, List.flatMap_append, hwrappers, List.mem_append] <;>
    simp [references, Role.references, or_assoc]

end SchemaItem

def SchemaFile.references (s : SchemaFile) : List String :=
  s.items.flatMap SchemaItem.references

namespace Body

variable {s : RecordSet} {o : Overrides} {record x : String} {f : Field} {e : Entry}
variable {number : Nat} {fs : List Field} {r : Record} {parent : Option String}

def Entry.references (e : Entry) : List String :=
  e.declaration.typeName :: (e.wrapper.map Wrapper.elementType).toList

def writes (s : RecordSet) (o : Overrides) (record : String) (f : Field) : Bool :=
  !f.isPadding &&
    !((o.resolution record f).isRecord && s.hasEmpty (o.resolution record f).target.name)

theorem writes_iff :
    writes s o record f = true ↔ f.isPadding = false ∧
      ((o.resolution record f).isRecord = true → s.hasEmpty f.typeName = false) := by
  cases hres : (o.resolution record f).isRecord with
  | false => simp [writes, hres]
  | true =>
      obtain ⟨_, htarget⟩ := Overrides.resolution_of_isRecord hres
      simp [writes, htarget, Resolution.isRecord, SchemaType.name]

theorem directOf?_eq :
    directOf? s o record number f =
      if writes s o record f then some (entry record f number (o.resolution record f).target)
      else none := by
  rw [directOf?, writes, ← Bool.not_or]
  cases f.isPadding ||
    ((o.resolution record f).isRecord && s.hasEmpty (o.resolution record f).target.name) <;> rfl

theorem directOf?_eq_some_iff :
    directOf? s o record number f = some e ↔
      writes s o record f = true ∧ e = entry record f number (o.resolution record f).target := by
  rw [directOf?_eq, Option.ite_none_right_eq_some, Option.some.injEq, eq_comm (a := e)]

theorem mem_directEntries_iff :
    e ∈ directEntries s o record number fs ↔
      ∃ i f, fs[i]? = some f ∧ directOf? s o record (number + i) f = some e := by
  induction fs generalizing number with
  | nil => simp [directEntries]
  | cons f fs ih =>
      rw [directEntries, List.mem_append, Option.mem_toList, ih]
      constructor
      · rintro (hf | ⟨i, g, hg, he⟩)
        · exact ⟨0, f, rfl, hf⟩
        · exact ⟨i + 1, g, hg, by rw [← he]; congr 1; omega⟩
      · rintro ⟨i, g, hg, he⟩
        cases i with
        | zero =>
            obtain rfl := Option.some.inj hg
            exact .inl he
        | succ i => exact .inr ⟨i, g, hg, by rw [← he]; congr 1; omega⟩

def fieldReferences (record : String) (f : Field) (type : SchemaType) : List String :=
  if !f.kind.isList then [type.name]
  else if type.isByte then [if f.couldBeString then "string" else "bytes"]
  else [Spelling.wrapperName record f.name, type.name]

theorem references_entry (record : String) (f : Field) (number : Nat) (type : SchemaType) :
    (entry record f number type).references = fieldReferences record f type := by
  unfold entry fieldReferences
  cases f.kind.isList <;> cases type.isByte <;> rfl

/-- A list of records is never one of bytes, so a record is named whatever the kind of field. -/
theorem mem_fieldReferences_of_isRecord (h : (o.resolution record f).isRecord = true) :
    f.typeName ∈ fieldReferences record f (o.resolution record f).target := by
  obtain ⟨_, htarget⟩ := Overrides.resolution_of_isRecord h
  rw [htarget, fieldReferences]
  cases f.kind.isList <;> simp [SchemaType.name, SchemaType.isByte, SchemaType.primitive?]

theorem exists_mem_directEntries :
    (∃ e ∈ directEntries s o record number fs, x ∈ e.references) ↔
      ∃ f ∈ fs, writes s o record f = true ∧
        x ∈ fieldReferences record f (o.resolution record f).target := by
  constructor
  · rintro ⟨e, he, hx⟩
    obtain ⟨i, f, hf, hentry⟩ := mem_directEntries_iff.1 he
    obtain ⟨hwrites, rfl⟩ := directOf?_eq_some_iff.1 hentry
    exact ⟨f, List.mem_of_getElem? hf, hwrites, by rwa [references_entry] at hx⟩
  · rintro ⟨f, hf, hwrites, hx⟩
    obtain ⟨i, hi⟩ := List.mem_iff_getElem?.1 hf
    refine ⟨entry record f (number + i) (o.resolution record f).target, ?_, ?_⟩
    · exact mem_directEntries_iff.2 ⟨i, f, hi, directOf?_eq_some_iff.2 ⟨hwrites, rfl⟩⟩
    · rwa [references_entry]

theorem mem_types_iff {es : List Entry} :
    x ∈ (es.map (·.declaration)).map Declaration.typeName ∨
        x ∈ (es.filterMap (·.wrapper)).map Wrapper.elementType ↔
      ∃ e ∈ es, x ∈ e.references := by
  simp only [List.map_map, List.mem_map, List.mem_filterMap, Entry.references, List.mem_cons,
    Option.mem_toList, Option.map_eq_some_iff]
  constructor
  · rintro (⟨e, he, rfl⟩ | ⟨w, ⟨e, he, hw⟩, rfl⟩)
    · exact ⟨e, he, .inl rfl⟩
    · exact ⟨e, he, .inr ⟨w, hw, rfl⟩⟩
  · rintro ⟨e, he, rfl | ⟨w, hw, rfl⟩⟩
    · exact .inl ⟨e, he, rfl⟩
    · exact .inr ⟨w, ⟨e, he, hw⟩, rfl⟩

theorem mem_references_direct :
    x ∈ (direct s o r parent).declarations.map Declaration.typeName ∨
        x ∈ (direct s o r parent).wrappers.map Wrapper.elementType ↔
      parent = some x ∨ ∃ f ∈ r.fields, writes s o r.name f = true ∧
        x ∈ fieldReferences r.name f (o.resolution r.name f).target := by
  rw [← exists_mem_directEntries, ← mem_types_iff, direct, List.map_append, List.mem_append, or_assoc]
  refine or_congr_left ?_
  cases parent <;> simp [superDeclaration, eq_comm]

end Body

namespace Dependencies

theorem mem_insert {d : Dependencies} {x name : String} :
    x ∈ (d.insert name).names ↔ x ∈ d.names ∨ x = name := by
  rw [insert]
  split
  · next hname =>
      exact ⟨.inl, fun h => h.elim id fun hx => hx ▸ hname⟩
  · exact List.mem_append.trans (or_congr_right List.mem_singleton)

theorem mem_ofNames {x : String} {names : List String} : x ∈ (ofNames names).names ↔ x ∈ names := by
  suffices h : ∀ d : Dependencies, x ∈ (names.foldl insert d).names ↔ x ∈ d.names ∨ x ∈ names by
    rw [ofNames, h {}]
    simp
  intro d
  induction names generalizing d with
  | nil => simp
  | cons name names ih => rw [List.foldl_cons, ih, mem_insert, List.mem_cons, or_assoc]

def imports (s : RecordSet) (o : Overrides) (record : String) (f : Field) : Bool :=
  mayImport f.kind && (o.resolution record f).isRecord && !s.hasEmpty f.typeName

theorem directOf?_eq_some_iff {s : RecordSet} {o : Overrides} {record x : String} {f : Field} :
    directOf? s o record f = some x ↔ imports s o record f = true ∧ f.typeName = x := by
  cases hres : (o.resolution record f).isRecord with
  | false => simp [directOf?, imports, hres]
  | true =>
      obtain ⟨_, htarget⟩ := Overrides.resolution_of_isRecord hres
      simp [directOf?, imports, htarget, SchemaType.name]

theorem mem_direct {s : RecordSet} {o : Overrides} {r : Record} {parent response : Option String}
    {x : String} :
    x ∈ (direct s o r parent response).names ↔
      (∃ f ∈ r.fields, imports s o r.name f = true ∧ f.typeName = x) ∨
        (parent = some x ∧ o.replaces x = false) ∨ response = some x := by
  rw [direct, mem_ofNames, List.append_assoc, List.mem_append, List.mem_append,
    List.mem_filterMap, Option.mem_toList, Option.mem_toList]
  simp only [directOf?_eq_some_iff]
  refine or_congr_right (or_congr_left ?_)
  simp [Option.filter_eq_some_iff]

end Dependencies

namespace Project

variable {p : Project} {r : Record} {d : Designation} {x : String}

theorem mem_references_directSchema :
    x ∈ (p.directSchema r d).references ↔
      x ∈ d.role.references r.name ∨
        (∃ q, p.lineage.parentOf? r.name = some q ∧ p.superType q = x) ∨
        ∃ f ∈ r.fields, Body.writes p.set p.overrides r.name f = true ∧
          x ∈ Body.fieldReferences r.name f (p.overrides.resolution r.name f).target := by
  rw [SchemaFile.references, directSchema, SchemaItem.mem_references_ofRecord,
    Body.mem_references_direct, Option.map_eq_some_iff]

theorem mem_imports_directSchema :
    x ∈ (p.directSchema r d).imports ↔
      (∃ f ∈ r.fields, Dependencies.imports p.set p.overrides r.name f = true ∧ f.typeName = x) ∨
        (p.lineage.parentOf? r.name = some x ∧ p.overrides.replaces x = false) ∨
        response? d.role = some x :=
  Dependencies.mem_direct

end Project

end RecordIdl
