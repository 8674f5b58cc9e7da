import RecordIdl.Proofs.BuildHistory
import RecordIdl.Proofs.OutputFiles

namespace RecordIdl.Project

open Pruning

variable {p : Project} {b : Build} {r : Record} {fate : Fate} {fates : List (Record × Fate)}

/-- An override goes before the lack of fields. -/
def isLeftEmpty (p : Project) (r : Record) : Bool :=
  !p.overrides.replaces r.name && r.isEmpty

theorem directFate_cases (hr : r ∈ p.set.records) (hfate : p.directFate r = .ok fate) :
    (fate = .aliased ∧ p.overrides.replaces r.name = true) ∨
    (fate = .empty ∧ p.overrides.replaces r.name = false ∧ r.isEmpty = true) ∨
    ∃ schema, fate = .file schema ∧ p.overrides.replaces r.name = false ∧ r.isEmpty = false := by
  cases fate with
  | aliased => exact .inl ⟨rfl, (directFate_eq_aliased_iff hr).1 hfate⟩
  | empty => exact .inr (.inl ⟨rfl, (directFate_eq_empty_iff hr).1 hfate⟩)
  | file schema =>
      have hfile := ((directFate_eq_file_iff hr).1 hfate).1
      exact .inr (.inr ⟨schema, rfl, by simpa [getsFile] using hfile⟩)

theorem Decided.filterMap_names {name? : Record × Fate → Option String} {keep : Record → Bool}
    (h : p.Decided fates)
    (hname : ∀ r ∈ p.set.records, ∀ fate, p.directFate r = .ok fate →
      name? (r, fate) = (Option.guard (keep ·) r).map Record.name) :
    fates.filterMap name? = (p.set.records.filter keep).map Record.name := by
  have hnames : ∀ q ∈ fates, name? q = (Option.guard (keep ·) q.1).map Record.name := by
    intro q hq
    obtain ⟨hr, hfate⟩ := h.mem_iff.1 hq
    exact hname q.1 hr q.2 hfate
  calc fates.filterMap name?
      = fates.filterMap fun q => (Option.guard (keep ·) q.1).map Record.name :=
        List.filterMap_congr hnames
    _ = ((fates.map Prod.fst).filterMap (Option.guard (keep ·))).map Record.name := by
        rw [List.filterMap_map, List.map_filterMap]
        rfl
    _ = (p.set.records.filter keep).map Record.name := by
        rw [h.records, List.filterMap_eq_filter]

theorem Decided.aliased_eq (h : p.Decided fates) :
    fates.filterMap aliasedName? =
      (p.set.records.filter fun r => p.overrides.replaces r.name).map Record.name := by
  refine h.filterMap_names fun r hr fate hfate => ?_
  rcases directFate_cases hr hfate with ⟨rfl, ho⟩ | ⟨rfl, ho, _⟩ | ⟨schema, rfl, ho, _⟩ <;>
    simp [aliasedName?, Option.guard, ho]

theorem Decided.empty_eq (h : p.Decided fates) :
    fates.filterMap emptyName? = (p.set.records.filter p.isLeftEmpty).map Record.name := by
  refine h.filterMap_names fun r hr fate hfate => ?_
  rcases directFate_cases hr hfate with ⟨rfl, ho⟩ | ⟨rfl, ho, he⟩ | ⟨schema, rfl, ho, he⟩ <;>
    simp_all [emptyName?, isLeftEmpty, Option.guard]

theorem Decided.recorded_eq (h : p.Decided fates) :
    (fates.filterMap outputFile?).map OutputFile.record =
      (p.set.records.filter p.getsFile).map Record.name := by
  rw [List.map_filterMap]
  refine h.filterMap_names fun r hr fate hfate => ?_
  rcases directFate_cases hr hfate with ⟨rfl, ho⟩ | ⟨rfl, ho, he⟩ | ⟨schema, rfl, ho, he⟩ <;>
    simp_all [outputFile?, getsFile, Option.guard]

/-- The three lists of names are the records of the set, sorted by what becomes of them. -/
theorem perm_names (p : Project) :
    ((p.set.records.filter fun r => p.overrides.replaces r.name).map Record.name ++
      (p.set.records.filter p.isLeftEmpty).map Record.name ++
      (p.set.records.filter p.getsFile).map Record.name).Perm p.set.names := by
  have hempty : p.set.records.filter p.isLeftEmpty =
      (p.set.records.filter fun r => !p.overrides.replaces r.name).filter (·.isEmpty) := by
    simp only [List.filter_filter, Bool.and_comm]
    rfl
  have hfile : p.set.records.filter p.getsFile =
      (p.set.records.filter fun r => !p.overrides.replaces r.name).filter (!·.isEmpty) := by
    simp only [List.filter_filter, Bool.and_comm]
    rfl
  rw [← List.map_append, ← List.map_append, List.append_assoc, hempty, hfile]
  refine List.Perm.map _ (.trans (.append_left _ ?_) (List.filter_append_perm _ _))
  exact List.filter_append_perm _ _

theorem withVoid_eq (p : Project) (files : List OutputFile) :
    p.withVoid files =
      files ++ if p.settings.voidType ∈ files.map OutputFile.record then [] else [p.voidFile] := by
  have hvoid : files.any (·.record = p.settings.voidType) ↔
      p.settings.voidType ∈ files.map OutputFile.record := by simp
  simp only [withVoid, hvoid, voidFile]
  split <;> simp

theorem voidType_mem_withVoid (p : Project) (files : List OutputFile) :
    p.settings.voidType ∈ (p.withVoid files).map OutputFile.record := by
  rw [withVoid_eq]
  split
  · next hvoid => simpa using hvoid
  · simp [voidFile]

theorem aliased_eq (h : p.directBuild = .ok b) :
    b.aliased = (p.set.records.filter fun r => p.overrides.replaces r.name).map Record.name := by
  obtain ⟨_, fates, hfates, rfl⟩ := decided_of_build h
  exact hfates.aliased_eq

theorem empty_eq (h : p.directBuild = .ok b) :
    b.empty = (p.set.records.filter p.isLeftEmpty).map Record.name := by
  obtain ⟨_, fates, hfates, rfl⟩ := decided_of_build h
  exact hfates.empty_eq

theorem exists_own_files (h : p.directBuild = .ok b) :
    ∃ own, b.files = p.withVoid own ∧
      own.map OutputFile.record = (p.set.records.filter p.getsFile).map Record.name := by
  obtain ⟨_, fates, hfates, rfl⟩ := decided_of_build h
  exact ⟨_, rfl, hfates.recorded_eq⟩

/-- The names of a set are parted between the replaced records, the empty ones and those with a
file, each list in the order of the set. The file of the void type comes last, unless a record has
a file of that name, and no two files have one name. -/
theorem every_record_accounted (p : Project) (calls : List Call) (b : Build)
    (h : (runOn p.build (p.memoAfter calls)).1 = .ok b) :
    b.aliased = (p.set.records.filter fun r => p.overrides.replaces r.name).map Record.name ∧
    b.empty = (p.set.records.filter fun r =>
      !p.overrides.replaces r.name && r.isEmpty).map Record.name ∧
    ∃ own : List OutputFile,
      own.map OutputFile.record = (p.set.records.filter fun r =>
        !p.overrides.replaces r.name && !r.isEmpty).map Record.name ∧
      (b.aliased ++ b.empty ++ own.map OutputFile.record).Perm p.set.names ∧
      b.files = own ++
        (if p.settings.voidType ∈ own.map OutputFile.record then [] else [p.voidFile]) ∧
      (b.files.map OutputFile.record).count p.settings.voidType = 1 ∧
      (b.files.map OutputFile.name).Nodup := by
  rw [build_after] at h
  have haliased := aliased_eq h
  have hempty := empty_eq h
  obtain ⟨own, hfiles, hown⟩ := exists_own_files h
  refine ⟨haliased, hempty, own, hown, ?_, hfiles.trans (withVoid_eq p own), ?_, nodup_fileNames h⟩
  · rw [haliased, hempty, hown]
    exact perm_names p
  · exact List.count_eq_one_of_mem (nodup_files h) (hfiles ▸ voidType_mem_withVoid p own)

def timed (name : String) : Record where
  name := name
  parent := "root"
  fields := [{ name := "time", typeName := "long", kind := .primitive }]

def sortedProject : Project where
  set := ⟨[timed "Fire", { name := "Void", parent := "root" }, timed "Clock",
    { name := "Marker", parent := "Fire" }, { name := "Old", parent := "root" }, timed "Burst"],
    by decide⟩
  overrides := { types := ⟨[("Old", "Fire")]⟩, aliases := ⟨[("Clock", "long")]⟩ }

def timedFile (name : String) : OutputFile :=
  ⟨name, ⟨none, [], none, [.type name none [⟨1, none, "sint64", "time"⟩]]⟩⟩

def sortedBuild : Build where
  files := [timedFile "Fire", timedFile "Burst", sortedProject.voidFile]
  empty := ["Void", "Marker"]
  aliased := ["Clock", "Old"]

theorem every_record_accounted_void :
    (runOn sortedProject.build (sortedProject.memoAfter [.build])).1 = .ok sortedBuild ∧
    ∃ own : List OutputFile,
      own.map OutputFile.record = ["Fire", "Burst"] ∧
      (sortedBuild.aliased ++ sortedBuild.empty ++ own.map OutputFile.record).Perm
        sortedProject.set.names ∧
      sortedBuild.files = own ++ [sortedProject.voidFile] ∧
      (sortedBuild.files.map OutputFile.record).count "Void" = 1 ∧
      (sortedBuild.files.map OutputFile.name).Nodup := by
  have hbuild : (runOn sortedProject.build (sortedProject.memoAfter [.build])).1 =
      .ok sortedBuild := by decide +kernel
  obtain ⟨_, _, own, hown, hperm, hfiles, hcount, hnodup⟩ :=
    every_record_accounted sortedProject [.build] sortedBuild hbuild
  have hnames : own.map OutputFile.record = ["Fire", "Burst"] := hown.trans (by decide +kernel)
  have hvoid : sortedProject.settings.voidType ∉ own.map OutputFile.record :=
    hnames ▸ (by decide)
  exact ⟨hbuild, own, hnames, hperm, by simpa [hvoid] using hfiles, hcount, hnodup⟩

end RecordIdl.Project
