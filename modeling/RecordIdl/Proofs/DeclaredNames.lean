import RecordIdl.Proofs.BuildHistory
import RecordIdl.Proofs.NameSpelling
import RecordIdl.Proofs.OutputFiles
import RecordIdl.Proofs.References

namespace RecordIdl

/-- Keys that tell the elements of a list apart turn distinctness into a condition on pairs. -/
theorem nodup_map_iff_of_key {α β γ : Type} {key : α → β} {f : α → γ} {l : List α}
    (hkey : (l.map key).Nodup) :
    (l.map f).Nodup ↔ ∀ a ∈ l, ∀ b ∈ l, key a ≠ key b → f a ≠ f b := by
  have hl : l.Nodup := hkey.of_map key
  have hinj := (List.nodup_map_iff_inj_on hl).1 hkey
  rw [List.nodup_map_iff_inj_on hl]
  constructor
  · intro h a ha b hb hne hf
    exact hne (congrArg key (h a ha b hb hf))
  · intro h a ha b hb hf
    by_contra hab
    exact h a ha b hb (fun hk => hab (hinj a ha b hb hk)) hf

namespace Consistency

theorem checkFields_eq_ok_iff {record : String} {seen : List String} {fs : List Field} :
    checkFields record seen fs = .ok () ↔
      (∀ f ∈ fs, f.name ≠ "" ∧ f.typeName ≠ "" ∧ f.name ∉ seen) ∧ (fs.map Field.name).Nodup := by
  induction fs generalizing seen with
  | nil => simp [checkFields, pure, Except.pure]
  | cons f fs ih =>
      rw [checkFields, List.forall_mem_cons, List.map_cons, List.nodup_cons]
      by_cases hname : f.name = ""
      · simp [hname]
      by_cases htype : f.typeName = ""
      · simp [hname, htype]
      by_cases hseen : f.name ∈ seen
      · simp [hname, htype, hseen]
      · rw [if_neg hname, if_neg htype, if_neg hseen, ih]
        have hrest : (∀ g ∈ fs, g.name ≠ "" ∧ g.typeName ≠ "" ∧ g.name ∉ f.name :: seen) ↔
            f.name ∉ fs.map Field.name ∧
              ∀ g ∈ fs, g.name ≠ "" ∧ g.typeName ≠ "" ∧ g.name ∉ seen := by
          simp only [List.mem_cons, List.mem_map, not_or, not_exists, not_and]
          constructor
          · intro h
            exact ⟨fun g hg => (h g hg).2.2.1, fun g hg => ⟨(h g hg).1, (h g hg).2.1, (h g hg).2.2.2⟩⟩
          · rintro ⟨hne, h⟩ g hg
            exact ⟨(h g hg).1, (h g hg).2.1, hne g hg, (h g hg).2.2⟩
        rw [hrest]
        tauto

theorem nodup_fieldNames {l : Lineage} (hl : check l = .ok ()) {r : Record}
    (hr : r ∈ l.set.records) : (r.fields.map Field.name).Nodup :=
  (checkFields_eq_ok_iff.1 (check_eq_ok_iff.1 hl r hr).1).2

end Consistency

namespace Body

variable {s : RecordSet} {o : Overrides} {record : String} {r : Record} {parent : Option String}

def wraps (o : Overrides) (record : String) (f : Field) : Bool :=
  f.kind.isList && !(o.resolution record f).target.isByte

def declaredName (o : Overrides) (record : String) (f : Field) : String :=
  Spelling.snakeCase f.name ++ if wraps o record f then "_list" else ""

def declaredLetters (o : Overrides) (record : String) (f : Field) : List Char :=
  Spelling.letters f.name.toList ++ if wraps o record f then "list".toList else []

theorem name_entry (record : String) (f : Field) (number : Nat) :
    (entry record f number (o.resolution record f).target).declaration.name =
      declaredName o record f := by
  rw [entry, declaredName, wraps]
  cases f.kind.isList <;> cases (o.resolution record f).target.isByte <;>
    simp only [Bool.not_true, Bool.not_false, Bool.and_true, Bool.and_false, Bool.false_eq_true,
      if_true, if_false, String.append_empty]

theorem names_directEntries (number : Nat) (fs : List Field) :
    (directEntries s o record number fs).map (·.declaration.name) =
      (fs.filter (writes s o record)).map (declaredName o record) := by
  induction fs generalizing number with
  | nil => rfl
  | cons f fs ih =>
      rw [directEntries, List.map_append, ih, directOf?_eq]
      cases hwrites : writes s o record f with
      | false => simp [hwrites]
      | true => simp [hwrites, name_entry]

theorem names_direct :
    (direct s o r parent).declarations.map Declaration.name =
      (parent.map fun _ => "super").toList ++
        (r.fields.filter (writes s o r.name)).map (declaredName o r.name) := by
  have hhead : (parent.map superDeclaration).toList.map Declaration.name =
      (parent.map fun _ => "super").toList := by cases parent <;> rfl
  rw [direct, List.map_append, hhead, List.map_map]
  exact congrArg _ (names_directEntries _ r.fields)

theorem filter_declaredName (f : Field) :
    (declaredName o record f).toList.filter (· ≠ '_') = declaredLetters o record f := by
  rw [declaredName, declaredLetters, String.toList_append, List.filter_append, Spelling.snakeCase,
    String.toList_ofList, Spelling.filter_snake]
  cases wraps o record f <;> rfl

theorem declaredLetters_eq {f g : Field}
    (h : declaredName o record f = declaredName o record g) :
    declaredLetters o record f = declaredLetters o record g := by
  rw [← filter_declaredName, h, filter_declaredName]

end Body

def SchemaItem.fieldNames : SchemaItem → List String
  | type _ _ ds | component _ _ ds => ds.map Declaration.name
  | event .. | command .. | wrapper _ => []

theorem SchemaItem.fieldNames_ofRecord (name : String) (d : Designation) (b : Body) :
    (ofRecord name d b).flatMap fieldNames = b.declarations.map Declaration.name := by
  have hwrappers : (b.wrappers.map wrapper).flatMap fieldNames = [] := by
    simp [List.flatMap_map, fieldNames]
  cases hrole : d.role <;>
    simp only [ofRecord, hrole, List.flatMap_append, hwrappers] <;> simp [fieldNames]

def SchemaFile.fieldNames (s : SchemaFile) : List String :=
  s.items.flatMap SchemaItem.fieldNames

namespace Project

open Pruning

variable {p : Project} {r : Record} {d : Designation}

def writtenFields (p : Project) (r : Record) : List Field :=
  r.fields.filter (Body.writes p.set p.overrides r.name)

theorem fieldNames_directSchema :
    (p.directSchema r d).fieldNames =
      ((p.lineage.parentOf? r.name).map fun _ => "super").toList ++
        (p.writtenFields r).map (Body.declaredName p.overrides r.name) := by
  rw [SchemaFile.fieldNames, directSchema, SchemaItem.fieldNames_ofRecord, Body.names_direct,
    Option.map_map]
  rfl

theorem nodup_writtenFields (hl : Consistency.check p.lineage = .ok ())
    (hr : r ∈ p.set.records) : ((p.writtenFields r).map Field.name).Nodup :=
  (Consistency.nodup_fieldNames hl hr).sublist (List.filter_sublist.map Field.name)

theorem nodup_names_iff {parent : Option String} {names : List String} :
    ((parent.map fun _ => "super").toList ++ names).Nodup ↔
      names.Nodup ∧ (parent ≠ none → "super" ∉ names) := by
  cases parent <;> simp [and_comm]

/-- The names in the file of a record are distinct just when the spelling of the schema language
keeps those of its written fields apart, from each other and from that of a parent. It does so
for all that differ in more than the case of letters and the place of underscores. -/
theorem field_names_distinct_iff (p : Project) (calls : List Call)
    (hl : Consistency.check p.lineage = .ok ()) (r : Record) (hr : r ∈ p.set.records)
    (schema : SchemaFile) (h : (runOn (p.fate r) (p.memoAfter calls)).1 = .ok (.file schema)) :
    schema.fieldNames =
        ((p.lineage.parentOf? r.name).map fun _ => "super").toList ++
          (p.writtenFields r).map (Body.declaredName p.overrides r.name) ∧
    (schema.fieldNames.Nodup ↔
      (∀ f ∈ p.writtenFields r, ∀ g ∈ p.writtenFields r, f.name ≠ g.name →
        Body.declaredName p.overrides r.name f ≠ Body.declaredName p.overrides r.name g) ∧
      (p.lineage.parentOf? r.name ≠ none →
        ∀ f ∈ p.writtenFields r, Body.declaredName p.overrides r.name f ≠ "super")) ∧
    (∀ f g, Body.declaredName p.overrides r.name f = Body.declaredName p.overrides r.name g →
      Body.declaredLetters p.overrides r.name f = Body.declaredLetters p.overrides r.name g) ∧
    ∀ f, Body.declaredName p.overrides r.name f = "super" →
      Body.declaredLetters p.overrides r.name f = "super".toList := by
  rw [fate_after hl] at h
  obtain ⟨_, d, _, rfl⟩ := (directFate_eq_file_iff hr).1 h
  refine ⟨fieldNames_directSchema, ?_, fun f g => Body.declaredLetters_eq, fun f hf => ?_⟩
  · rw [fieldNames_directSchema, nodup_names_iff,
      nodup_map_iff_of_key (nodup_writtenFields hl hr)]
    simp only [List.mem_map, not_exists, not_and]
  · rw [← Body.filter_declaredName, hf]
    rfl

/-- The names of the fields differ until they are converted. -/
def track : Record where
  name := "Track"
  parent := "Base"
  fields := ["super", "entityID", "entityId", "ids", "ids_list"].map fun name =>
    { name, typeName := "int", kind := if name = "ids" then .variableList else .primitive }
  initialValues := [⟨"pduType", "3"⟩]

def trackProject : Project where
  set := ⟨[track, { track with name := "Base", parent := "root" }], by decide⟩

def trackSchema : SchemaFile :=
  ⟨none, ["Base"], none,
    [.component "Track" 3
      [⟨1, none, "Base", "super"⟩, ⟨2, none, "sint32", "super"⟩,
        ⟨3, none, "sint32", "entity_id"⟩, ⟨4, none, "sint32", "entity_id"⟩,
        ⟨5, none, "TrackIdsList", "ids_list"⟩, ⟨6, none, "sint32", "ids_list"⟩],
      .wrapper ⟨"TrackIdsList", "sint32", "ids"⟩]⟩

theorem field_names_distinct_iff_track :
    Consistency.check trackProject.lineage = .ok () ∧ track ∈ trackProject.set.records ∧
    (runOn (trackProject.fate track) (trackProject.memoAfter [.build, .record track])).1 =
      .ok (.file trackSchema) ∧
    (trackSchema.fieldNames.Nodup ↔
      (∀ f ∈ trackProject.writtenFields track, ∀ g ∈ trackProject.writtenFields track,
        f.name ≠ g.name →
          Body.declaredName {} "Track" f ≠ Body.declaredName {} "Track" g) ∧
      (trackProject.lineage.parentOf? "Track" ≠ none →
        ∀ f ∈ trackProject.writtenFields track, Body.declaredName {} "Track" f ≠ "super")) := by
  have hcheck : Consistency.check trackProject.lineage = .ok () := by decide +kernel
  have hmem : track ∈ trackProject.set.records := List.mem_cons_self
  have hfate : (runOn (trackProject.fate track)
      (trackProject.memoAfter [.build, .record track])).1 = .ok (.file trackSchema) := by
    decide +kernel
  have hnames := field_names_distinct_iff trackProject [.build, .record track] hcheck track hmem
    trackSchema hfate
  exact ⟨hcheck, hmem, hfate, hnames.2.1⟩

theorem field_names_repeated :
    Consistency.check trackProject.lineage = .ok () ∧
    (runOn (trackProject.fate track) {}).1 = .ok (.file trackSchema) ∧
    (track.fields.map Field.name).Nodup ∧
    trackSchema.fieldNames =
      ["super", "super", "entity_id", "entity_id", "ids_list", "ids_list"] ∧
    ¬trackSchema.fieldNames.Nodup := by
  decide +kernel

end Project

end RecordIdl
