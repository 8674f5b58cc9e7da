import RecordIdl.Proofs.BuildFaults

namespace RecordIdl.Project

variable {p : Project} {b : Build} {f : OutputFile} {r : Record} {name : String}
variable {fates : List (Record × Fate)} {files : List OutputFile} {schema : SchemaFile}

def voidFile (p : Project) : OutputFile :=
  ⟨p.settings.voidType, p.voidSchema⟩

theorem mem_withVoid :
    f ∈ p.withVoid files ↔
      f ∈ files ∨ f = p.voidFile ∧ ∀ g ∈ files, g.record ≠ p.settings.voidType := by
  rw [withVoid]
  split
  · next hvoid =>
      obtain ⟨g, hg, hname⟩ := List.any_eq_true.1 hvoid
      constructor
      · exact .inl
      · rintro (hf | ⟨_, hnone⟩)
        · exact hf
        · exact absurd (by simpa using hname) (hnone g hg)
  · next hvoid =>
      have hnone : ∀ g ∈ files, g.record ≠ p.settings.voidType := by simpa using hvoid
      rw [List.mem_append, List.mem_singleton]
      exact or_congr_right (iff_self_and.2 fun _ => hnone)

theorem nodup_withVoid (h : (files.map OutputFile.record).Nodup) :
    ((p.withVoid files).map OutputFile.record).Nodup := by
  rw [withVoid]
  split
  · exact h
  · next hvoid =>
      have hnone : ∀ g ∈ files, g.record ≠ p.settings.voidType := by simpa using hvoid
      rw [List.map_append, List.nodup_append]
      refine ⟨h, List.nodup_singleton _, ?_⟩
      intro x hx y hy hxy
      obtain ⟨g, hg, rfl⟩ := List.mem_map.1 hx
      exact hnone g hg (hxy.trans (List.mem_singleton.1 hy))

/-- The records of the set in their order, each with what becomes of it. -/
structure Decided (p : Project) (fates : List (Record × Fate)) : Prop where
  records : fates.map Prod.fst = p.set.records
  fate : ∀ q ∈ fates, p.directFate q.1 = .ok q.2

theorem decided_of_mapM
    (h : (p.set.records.mapM fun r => (p.directFate r).map (r, ·)) = .ok fates) :
    p.Decided fates := by
  have hpairs := forall₂_of_mapM_eq_ok h
  suffices hall : fates.map Prod.fst = p.set.records ∧
      ∀ q ∈ fates, p.directFate q.1 = .ok q.2 from ⟨hall.1, hall.2⟩
  clear h
  generalize p.set.records = records at hpairs
  induction hpairs with
  | nil => simp
  | cons hq _ ih =>
      obtain ⟨fate, hfate, rfl⟩ := map_eq_ok_iff.1 hq
      exact ⟨congrArg _ ih.1, List.forall_mem_cons.2 ⟨hfate, ih.2⟩⟩

theorem decided_of_build (h : p.directBuild = .ok b) :
    Consistency.check p.lineage = .ok () ∧ ∃ fates, p.Decided fates ∧ b = p.collect fates := by
  cases hl : Consistency.check p.lineage with
  | error fault => simp [directBuild, hl, bind, Except.bind] at h
  | ok _ =>
      rw [directBuild_of_check hl] at h
      obtain ⟨fates, hfates, rfl⟩ := map_eq_ok_iff.1 h
      exact ⟨rfl, fates, decided_of_mapM hfates, rfl⟩

namespace Decided

theorem mem_iff (h : p.Decided fates) {fate : Fate} :
    (r, fate) ∈ fates ↔ r ∈ p.set.records ∧ p.directFate r = .ok fate := by
  rw [← h.records]
  constructor
  · intro hmem
    exact ⟨List.mem_map.2 ⟨_, hmem, rfl⟩, h.fate _ hmem⟩
  · rintro ⟨hr, hfate⟩
    obtain ⟨⟨q, fate'⟩, hmem, rfl⟩ := List.mem_map.1 hr
    obtain rfl := Except.ok.inj ((h.fate _ hmem).symm.trans hfate)
    exact hmem

theorem exists_fate (h : p.Decided fates) (hr : r ∈ p.set.records) :
    ∃ fate, p.directFate r = .ok fate := by
  rw [← h.records] at hr
  obtain ⟨q, hmem, rfl⟩ := List.mem_map.1 hr
  exact ⟨q.2, h.fate q hmem⟩

theorem mem_outputFiles (h : p.Decided fates) :
    f ∈ fates.filterMap outputFile? ↔
      ∃ r ∈ p.set.records, p.directFate r = .ok (.file f.schema) ∧ f.record = r.name := by
  rw [List.mem_filterMap]
  constructor
  · rintro ⟨⟨r, fate⟩, hmem, hf⟩
    obtain ⟨hr, hfate⟩ := h.mem_iff.1 hmem
    cases fate with
    | file schema =>
        obtain rfl := Option.some.inj hf
        exact ⟨r, hr, hfate, rfl⟩
    | aliased | empty => cases hf
  · rintro ⟨r, hr, hfate, hname⟩
    exact ⟨(r, .file f.schema), h.mem_iff.2 ⟨hr, hfate⟩, by rw [outputFile?, ← hname]⟩

theorem nodup_outputFiles (h : p.Decided fates) :
    ((fates.filterMap outputFile?).map OutputFile.record).Nodup := by
  have hsub : ((fates.filterMap outputFile?).map OutputFile.record).Sublist
      (fates.map fun q => q.1.name) := by
    clear h
    induction fates with
    | nil => simp
    | cons q fates ih =>
        obtain ⟨r, fate⟩ := q
        cases fate with
        | file schema => exact ih.cons_cons r.name
        | aliased | empty => exact ih.cons r.name
  have hnames : (fates.map fun q => q.1.name) = p.set.records.map Record.name := by
    rw [← h.records, List.map_map]
    rfl
  exact (hnames ▸ p.set.distinct).sublist hsub

end Decided

theorem directFate_eq_file_iff (hr : r ∈ p.set.records) :
    p.directFate r = .ok (.file schema) ↔ p.getsFile r = true ∧
      ∃ d, Designation.ofRecord p.overrides p.settings r = .ok d ∧ p.directSchema r d = schema := by
  rw [directFate, getsFile, RecordSet.hasEmpty_of_mem hr]
  cases p.overrides.replaces r.name with
  | true => simp
  | false =>
      cases r.isEmpty with
      | true => simp
      | false => simp [map_eq_ok_iff]

theorem directFate_eq_empty_iff (hr : r ∈ p.set.records) :
    p.directFate r = .ok .empty ↔ p.overrides.replaces r.name = false ∧ r.isEmpty = true := by
  rw [directFate, RecordSet.hasEmpty_of_mem hr]
  cases p.overrides.replaces r.name with
  | true => simp
  | false => cases r.isEmpty <;> simp [map_eq_ok_iff]

theorem directFate_eq_aliased_iff (hr : r ∈ p.set.records) :
    p.directFate r = .ok .aliased ↔ p.overrides.replaces r.name = true := by
  rw [directFate, RecordSet.hasEmpty_of_mem hr]
  cases p.overrides.replaces r.name with
  | true => simp
  | false => cases r.isEmpty <;> simp [map_eq_ok_iff]

/-- In a build that succeeds no id is refused, so a record that gets a file has its role. -/
theorem exists_designation (h : p.directBuild = .ok b) (hr : r ∈ p.set.records)
    (hfile : p.getsFile r = true) :
    ∃ d, Designation.ofRecord p.overrides p.settings r = .ok d := by
  obtain ⟨_, fates, hfates, _⟩ := decided_of_build h
  obtain ⟨fate, hfate⟩ := hfates.exists_fate hr
  have hparts : p.overrides.replaces r.name = false ∧ r.isEmpty = false := by
    simpa [getsFile] using hfile
  rw [directFate, RecordSet.hasEmpty_of_mem hr, hparts.1, hparts.2] at hfate
  obtain ⟨d, hd, _⟩ := map_eq_ok_iff.1 hfate
  exact ⟨d, hd⟩

theorem Decided.mem_outputFiles_iff (h : p.Decided fates) :
    f ∈ fates.filterMap outputFile? ↔
      ∃ r ∈ p.set.records, p.getsFile r = true ∧
        ∃ d, Designation.ofRecord p.overrides p.settings r = .ok d ∧
          f = ⟨r.name, p.directSchema r d⟩ := by
  rw [h.mem_outputFiles]
  constructor
  · rintro ⟨r, hr, hfate, hname⟩
    obtain ⟨hfile, d, hd, hschema⟩ := (directFate_eq_file_iff hr).1 hfate
    exact ⟨r, hr, hfile, d, hd, by rw [hschema, ← hname]⟩
  · rintro ⟨r, hr, hfile, d, hd, rfl⟩
    exact ⟨r, hr, (directFate_eq_file_iff hr).2 ⟨hfile, d, hd, rfl⟩, rfl⟩

theorem mem_files_iff (h : p.directBuild = .ok b) :
    f ∈ b.files ↔
      (∃ r ∈ p.set.records, p.getsFile r = true ∧
        ∃ d, Designation.ofRecord p.overrides p.settings r = .ok d ∧
          f = ⟨r.name, p.directSchema r d⟩) ∨
      f = p.voidFile ∧
        ∀ r ∈ p.set.records, p.getsFile r = true → r.name ≠ p.settings.voidType := by
  have hdesignation := fun r hr => exists_designation (r := r) h hr
  obtain ⟨_, fates, hfates, rfl⟩ := decided_of_build h
  have hvoid : (∀ g ∈ fates.filterMap outputFile?, g.record ≠ p.settings.voidType) ↔
      ∀ r ∈ p.set.records, p.getsFile r = true → r.name ≠ p.settings.voidType := by
    constructor
    · intro hnone r hr hfile
      obtain ⟨d, hd⟩ := hdesignation r hr hfile
      exact hnone _ (hfates.mem_outputFiles_iff.2 ⟨r, hr, hfile, d, hd, rfl⟩)
    · intro hnone g hg
      obtain ⟨r, hr, hfile, _, _, rfl⟩ := hfates.mem_outputFiles_iff.1 hg
      exact hnone r hr hfile
  rw [collect, mem_withVoid, hfates.mem_outputFiles_iff, hvoid]

theorem nodup_files (h : p.directBuild = .ok b) : (b.files.map OutputFile.record).Nodup := by
  obtain ⟨_, fates, hfates, rfl⟩ := decided_of_build h
  exact nodup_withVoid hfates.nodup_outputFiles

theorem nameFor_injective : Function.Injective SchemaFile.nameFor := by
  intro x y h
  simpa [SchemaFile.nameFor] using h

theorem nodup_fileNames (h : p.directBuild = .ok b) : (b.files.map OutputFile.name).Nodup := by
  have hnames : b.files.map OutputFile.name =
      (b.files.map OutputFile.record).map SchemaFile.nameFor := by
    rw [List.map_map]
    rfl
  exact hnames ▸ (nodup_files h).map nameFor_injective

theorem file?_eq_some_iff (h : p.directBuild = .ok b) :
    b.file? name = some f ↔ f ∈ b.files ∧ f.record = name := by
  have hfound (g : OutputFile) (hg : b.file? name = some g) : g ∈ b.files ∧ g.record = name :=
    ⟨List.mem_of_find?_eq_some hg, by simpa using List.find?_some hg⟩
  constructor
  · exact hfound f
  · rintro ⟨hmem, hname⟩
    cases hg : b.file? name with
    | none => simpa [hname] using List.find?_eq_none.1 hg f hmem
    | some g =>
        obtain ⟨hgmem, hgname⟩ := hfound g hg
        have hinj := List.inj_on_of_nodup_map (nodup_files h)
        exact congrArg some (hinj hgmem hmem (hgname.trans hname.symm))

/-- The file for the name of a record. It is that of the void type if the record has none of its
own and the void type has its name. -/
theorem file?_record_iff (h : p.directBuild = .ok b) (hr : r ∈ p.set.records) :
    b.file? r.name = some f ↔
      (p.getsFile r = true ∧ ∃ d, Designation.ofRecord p.overrides p.settings r = .ok d ∧
        f = ⟨r.name, p.directSchema r d⟩) ∨
      p.getsFile r = false ∧ r.name = p.settings.voidType ∧ f = p.voidFile := by
  rw [file?_eq_some_iff h, mem_files_iff h]
  constructor
  · rintro ⟨⟨q, hq, hfile, d, hd, rfl⟩ | ⟨rfl, hnone⟩, hname⟩
    · obtain rfl := RecordSet.eq_of_name_eq hq hr hname
      exact .inl ⟨hfile, d, hd, rfl⟩
    · refine .inr ⟨?_, hname.symm, rfl⟩
      rw [← Bool.not_eq_true]
      exact fun hfile => hnone r hr hfile hname.symm
  · rintro (⟨hfile, d, hd, rfl⟩ | ⟨hfile, hname, rfl⟩)
    · exact ⟨.inl ⟨r, hr, hfile, d, hd, rfl⟩, rfl⟩
    · refine ⟨.inr ⟨rfl, fun q hq hqfile hqname => ?_⟩, hname.symm⟩
      obtain rfl := RecordSet.eq_of_name_eq hq hr (hqname.trans hname.symm)
      simp [hfile] at hqfile

theorem file?_outside_iff (h : p.directBuild = .ok b) (hname : name ∉ p.set.names) :
    b.file? name = some f ↔ name = p.settings.voidType ∧ f = p.voidFile := by
  have hrecord : ∀ r ∈ p.set.records, r.name ≠ name :=
    fun r hr heq => hname (List.mem_map.2 ⟨r, hr, heq⟩)
  rw [file?_eq_some_iff h, mem_files_iff h]
  constructor
  · rintro ⟨⟨r, hr, _, d, _, rfl⟩ | ⟨rfl, _⟩, hf⟩
    · exact absurd hf (hrecord r hr)
    · exact ⟨hf.symm, rfl⟩
  · rintro ⟨rfl, rfl⟩
    exact ⟨.inr ⟨rfl, fun r hr _ => hrecord r hr⟩, rfl⟩

end RecordIdl.Project
