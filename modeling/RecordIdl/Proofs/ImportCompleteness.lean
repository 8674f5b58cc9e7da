import RecordIdl.Proofs.ImportOrder
import RecordIdl.Proofs.ReferencedFiles

namespace RecordIdl.Project

open Pruning

variable {p : Project} {r : Record} {d : Designation} {x : String} {kinds : FieldKind → Prop}

/-- Names that the declarations of `r` are written with and that no entry stands for. Of the fields
only those of the given kinds are looked at. -/
inductive Written (p : Project) (kinds : FieldKind → Prop) (r : Record) : String → Prop
  | field {f : Field} (hf : f ∈ r.fields) (hkind : kinds f.kind)
      (hwritten : ¬ Body.LeftOut p.set p.overrides r.name f)
      (hpass : p.overrides.PassesThrough r.name f) : Written p kinds r f.typeName
  | parent {q : String} (hq : p.lineage.parentOf? r.name = some q)
      (hkept : p.overrides.types.get? q = none ∧ p.overrides.aliases.get? q = none) :
      Written p kinds r q
  | response {d : Designation} {response : String}
      (hd : Designation.ofRecord p.overrides p.settings r = .ok d)
      (hrole : d.role = .command response) : Written p kinds r response

theorem Written.mem_references (hw : p.Written kinds r x)
    (hd : Designation.ofRecord p.overrides p.settings r = .ok d) :
    x ∈ (p.directSchema r d).references := by
  rw [mem_references_directSchema]
  cases hw with
  | field hf _ hwritten hpass =>
      refine .inr (.inr ⟨_, hf, ?_, ?_⟩)
      · rwa [Body.writes_eq, decide_eq_true_iff]
      · exact Body.mem_fieldReferences_of_isRecord (Overrides.isRecord_resolution_iff.2 hpass)
  | parent hq hkept =>
      refine .inr (.inl ⟨x, hq, ?_⟩)
      rw [superType, Overrides.forType?_eq_none_iff.2 hkept]
  | response hd' hrole =>
      obtain rfl := Except.ok.inj (hd'.symm.trans hd)
      exact .inl (by simp [hrole, Role.references])

theorem mem_imports_iff (hd : Designation.ofRecord p.overrides p.settings r = .ok d) :
    x ∈ (p.directSchema r d).imports ↔
      (∃ g ∈ r.fields, Dependencies.IsImported p.set p.overrides r.name g ∧ g.typeName = x) ∨
      (p.lineage.parentOf? r.name = some x ∧
        p.overrides.types.get? x = none ∧ p.overrides.aliases.get? x = none) ∨
      ∃ d, Designation.ofRecord p.overrides p.settings r = .ok d ∧ d.role = .command x := by
  have hresponse : response? d.role = some x ↔
      ∃ d, Designation.ofRecord p.overrides p.settings r = .ok d ∧ d.role = .command x := by
    rw [response?_eq_some_iff]
    constructor
    · exact fun hrole => ⟨d, hd, hrole⟩
    · rintro ⟨d', hd', hrole⟩
      obtain rfl := Except.ok.inj (hd'.symm.trans hd)
      exact hrole
  rw [mem_imports_directSchema, Overrides.not_replaced_iff, hresponse]
  simp only [Dependencies.imports_eq, decide_eq_true_iff]

theorem Written.mem_imports
    (hw : p.Written (fun kind => kind = .recordReference ∨ kind = .variableList) r x)
    (hd : Designation.ofRecord p.overrides p.settings r = .ok d) :
    x ∈ (p.directSchema r d).imports := by
  rw [mem_imports_iff hd]
  cases hw with
  | field hf hkind hwritten hpass =>
      have hfull : ¬ p.set.NamesEmpty _ := fun hempty => hwritten (.inr ⟨hpass, hempty⟩)
      exact .inl ⟨_, hf, ⟨hkind, hpass, hfull⟩, rfl⟩
  | parent hq hkept => exact .inr (.inl ⟨hq, hkept⟩)
  | response hd' hrole => exact .inr (.inr ⟨_, hd', hrole⟩)

/-- Fields of every kind, the parent and the response write the name of a record into the file. What
the file imports are the types of references and of lists without a fixed length, the parent and the
response, as far as nothing stands for them, and no other name. -/
theorem imports_cover_references (p : Project) (calls : List Call) (b : Build)
    (h : (runOn p.build (p.memoAfter calls)).1 = .ok b) (r : Record) (hr : r ∈ p.set.records)
    (hfile : p.getsFile r = true) :
    ∃ f, b.file? r.name = some f ∧
      (∀ x, p.Written (fun _ => True) r x → x ∈ f.schema.references) ∧
      (∀ x, p.Written (fun kind => kind = .recordReference ∨ kind = .variableList) r x →
        x ∈ f.schema.imports) ∧
      ∀ x, x ∈ f.schema.imports ↔
        (∃ g ∈ r.fields, Dependencies.IsImported p.set p.overrides r.name g ∧ g.typeName = x) ∨
        (p.lineage.parentOf? r.name = some x ∧
          p.overrides.types.get? x = none ∧ p.overrides.aliases.get? x = none) ∨
        ∃ d, Designation.ofRecord p.overrides p.settings r = .ok d ∧ d.role = .command x := by
  rw [build_after] at h
  obtain ⟨d, hd⟩ := exists_designation h hr hfile
  refine ⟨⟨r.name, p.directSchema r d⟩, (file?_record_iff h hr).2 (.inl ⟨hfile, d, hd, rfl⟩),
    ?_, ?_, ?_⟩
  · exact fun x hx => hx.mem_references hd
  · exact fun x hx => hx.mem_imports hd
  · exact fun x => mem_imports_iff hd

def origin : Field where
  name := "origin"
  typeName := "Point"
  kind := .primitive

def corners : Field where
  name := "corners"
  typeName := "Corner"
  kind := .fixedList
  length := some 4

def pathPdu : Record where
  name := "PathPdu"
  parent := "Shape"
  fields := [origin, corners,
    { name := "leader", typeName := "Entity", kind := .recordReference },
    { name := "labels", typeName := "Label", kind := .variableList },
    { name := "padTrace", typeName := "Trace", kind := .recordReference },
    { name := "requestID", typeName := "int", kind := .primitive }]
  initialValues := [⟨"pduType", "7"⟩]

def pathProject : Project where
  set := ⟨[pathPdu, plainRecord "Shape", plainRecord "Point", plainRecord "Corner",
    plainRecord "Entity", plainRecord "Label", plainRecord "Trace", plainRecord "Reply"],
    by decide⟩
  overrides := { responses := ⟨[("PathPdu", "Reply")]⟩ }

def pathFile : OutputFile where
  record := "PathPdu"
  schema := ⟨none, ["Entity", "Label", "Trace", "Shape", "Reply"], none,
    [.command "PathPdu" 7 "Reply",
      .type "PathPdu" (some 7) [⟨1, none, "Shape", "super"⟩, ⟨2, none, "Point", "origin"⟩,
        ⟨3, none, "PathCornersList", "corners_list"⟩, ⟨4, none, "Entity", "leader"⟩,
        ⟨5, none, "PathLabelsList", "labels_list"⟩, ⟨7, none, "sint32", "request_id"⟩],
      .wrapper ⟨"PathCornersList", "Corner", "corners"⟩,
      .wrapper ⟨"PathLabelsList", "Label", "labels"⟩]⟩

def pathBuild : Build where
  files := [pathFile, plainFile "Shape", plainFile "Point", plainFile "Corner",
    plainFile "Entity", plainFile "Label", plainFile "Trace", plainFile "Reply",
    pathProject.voidFile]
  empty := []
  aliased := []

theorem imports_cover_references_path :
    (runOn pathProject.build (pathProject.memoAfter [.record pathPdu, .void])).1 = .ok pathBuild ∧
    pathPdu ∈ pathProject.set.records ∧ pathProject.getsFile pathPdu = true ∧
    pathBuild.file? "PathPdu" = some pathFile ∧
    (∀ x, pathProject.Written (fun _ => True) pathPdu x → x ∈ pathFile.schema.references) ∧
    (∀ x, pathProject.Written (fun kind => kind = .recordReference ∨ kind = .variableList)
      pathPdu x → x ∈ pathFile.schema.imports) ∧
    ∀ x, x ∈ ["Entity", "Label", "Trace", "Shape", "Reply"] ↔
      (∃ g ∈ pathPdu.fields, Dependencies.IsImported pathProject.set pathProject.overrides
        pathPdu.name g ∧ g.typeName = x) ∨
      (pathProject.lineage.parentOf? pathPdu.name = some x ∧
        pathProject.overrides.types.get? x = none ∧
        pathProject.overrides.aliases.get? x = none) ∨
      ∃ d, Designation.ofRecord pathProject.overrides pathProject.settings pathPdu = .ok d ∧
        d.role = .command x := by
  have hbuild : (runOn pathProject.build (pathProject.memoAfter [.record pathPdu, .void])).1 =
      .ok pathBuild := by decide +kernel
  have hr : pathPdu ∈ pathProject.set.records := List.mem_cons_self
  have hfile : pathProject.getsFile pathPdu = true := by decide +kernel
  have hown : pathBuild.file? "PathPdu" = some pathFile := by decide +kernel
  obtain ⟨f, hf, hreferences, himports, hiff⟩ :=
    imports_cover_references pathProject _ pathBuild hbuild pathPdu hr hfile
  obtain rfl := Option.some.inj (hown.symm.trans hf)
  exact ⟨hbuild, hr, hfile, hown, hreferences, himports, hiff⟩

/-- `Point` is the type of a field of a primitive kind and `Corner` that of a list of fixed length:
both are written and neither is imported. -/
theorem references_not_imported :
    pathProject.built = .ok pathBuild ∧ pathBuild.file? "PathPdu" = some pathFile ∧
    ∀ x ∈ ["Point", "Corner"], x ∈ pathProject.set.names ∧ x ≠ pathPdu.name ∧
      pathProject.Written (fun _ => True) pathPdu x ∧
      x ∈ pathFile.schema.references ∧ x ∉ pathFile.schema.imports := by
  have hbuilt : pathProject.built = .ok pathBuild ∧
      pathBuild.file? "PathPdu" = some pathFile := by decide +kernel
  have hnames : ∀ x ∈ ["Point", "Corner"], x ∈ pathProject.set.names ∧ x ≠ pathPdu.name ∧
      x ∈ pathFile.schema.references ∧ x ∉ pathFile.schema.imports := by decide +kernel
  have hfields : ∀ f ∈ [origin, corners], f ∈ pathPdu.fields ∧
      ¬ Body.LeftOut pathProject.set pathProject.overrides pathPdu.name f ∧
      pathProject.overrides.PassesThrough pathPdu.name f := by decide +kernel
  have hwritten : ∀ x ∈ ["Point", "Corner"], pathProject.Written (fun _ => True) pathPdu x := by
    have htypes : ["Point", "Corner"] = [origin, corners].map Field.typeName := rfl
    rw [htypes, List.forall_mem_map]
    intro f hf
    obtain ⟨hmem, hwritten, hpass⟩ := hfields f hf
    exact .field hmem trivial hwritten hpass
  refine ⟨hbuilt.1, hbuilt.2, fun x hx => ?_⟩
  obtain ⟨hset, hne, href, himport⟩ := hnames x hx
  exact ⟨hset, hne, hwritten x hx, href, himport⟩

end RecordIdl.Project
