import RecordIdl.Proofs.RecordAccounts

namespace RecordIdl

theorem Properties.get?_insert (p : Properties) (key value x : String) :
    (p.insert key value).get? x = if x = key then some value else p.get? x := by
  by_cases hx : x = key
  · simp [insert, get?, hx]
  · simp [insert, get?, List.lookup_cons, hx, beq_false_of_ne hx]

namespace Overrides

inductive Table
  | types
  | responses
  | aliases
  deriving DecidableEq, Repr

def table (o : Overrides) : Table → Properties
  | .types => o.types
  | .responses => o.responses
  | .aliases => o.aliases

/-- The tables hold the same, but for one key of one of them. -/
def AgreeBeside (o o' : Overrides) (table : Table) (key : String) : Prop :=
  ∀ t x, (t, x) ≠ (table, key) → (o.table t).get? x = (o'.table t).get? x

variable {o o' : Overrides} {table : Table} {key record : String} {f : Field}

namespace AgreeBeside

theorem of_ne_key (h : o.AgreeBeside o' table key) (t : Table) {x : String} (hx : x ≠ key) :
    (o.table t).get? x = (o'.table t).get? x :=
  h t x (by simp [hx])

theorem of_ne_table (h : o.AgreeBeside o' table key) {t : Table} (ht : t ≠ table) (x : String) :
    (o.table t).get? x = (o'.table t).get? x :=
  h t x (by simp [ht])

theorem forType? (h : o.AgreeBeside o' table key) {x : String}
    (hx : table ≠ .responses → x ≠ key) : o.forType? x = o'.forType? x := by
  have hget (t : Table) (ht : t ≠ .responses) : (o.table t).get? x = (o'.table t).get? x := by
    by_cases htable : t = table
    · exact h.of_ne_key t (hx (htable ▸ ht))
    · exact h.of_ne_table htable x
  have htypes : o.types.get? x = o'.types.get? x := hget .types (by decide)
  have haliases : o.aliases.get? x = o'.aliases.get? x := hget .aliases (by decide)
  rw [Overrides.forType?, Overrides.forType?, htypes, haliases]

theorem replaces (h : o.AgreeBeside o' table key) {x : String}
    (hx : table ≠ .responses → x ≠ key) : o.replaces x = o'.replaces x := by
  rw [Bool.eq_iff_iff, ← not_iff_not, Bool.not_eq_true, Bool.not_eq_true, replaces_eq_false_iff,
    replaces_eq_false_iff, h.forType? hx]

theorem forField? (h : o.AgreeBeside o' table key)
    (hx : table = .types → record ++ "." ++ f.name ≠ key) :
    o.forField? record f.name = o'.forField? record f.name :=
  h .types _ fun heq => by
    obtain ⟨htable, hkey⟩ := Prod.mk.inj heq
    exact hx htable.symm hkey

theorem response? (h : o.AgreeBeside o' table key) {x : String} (hx : x ≠ key) :
    o.response? x = o'.response? x :=
  h.of_ne_key .responses hx

theorem resolution (h : o.AgreeBeside o' table key) (htype : table ≠ .responses → f.typeName ≠ key)
    (hfield : table = .types → record ++ "." ++ f.name ≠ key) :
    o.resolution record f = o'.resolution record f := by
  rw [Overrides.resolution, Overrides.resolution, h.forField? hfield, h.forType? htype]

end AgreeBeside

theorem agreeBeside_insert (o : Overrides) (key value : String) :
    o.AgreeBeside { o with types := o.types.insert key value } .types key := by
  rintro (_ | _ | _) x hx
  · have hkey : x ≠ key := fun h => hx (by rw [h])
    simp [table, Properties.get?_insert, hkey]
  · rfl
  · rfl

end Overrides

open Overrides

variable {o o' : Overrides} {record : String} {fs : List Field}

theorem Body.directEntries_of_resolution (s : RecordSet) (number : Nat)
    (h : ∀ f ∈ fs, o.resolution record f = o'.resolution record f) :
    directEntries s o record number fs = directEntries s o' record number fs := by
  induction fs generalizing number with
  | nil => rfl
  | cons f fs ih =>
      obtain ⟨hf, hfs⟩ := List.forall_mem_cons.1 h
      rw [directEntries, directEntries, directOf?, directOf?, hf, ih (number + 1) hfs]

theorem Dependencies.filterMap_of_resolution (s : RecordSet)
    (h : ∀ f ∈ fs, o.resolution record f = o'.resolution record f) :
    fs.filterMap (directOf? s o record) = fs.filterMap (directOf? s o' record) :=
  List.filterMap_congr fun f hf => by rw [directOf?, directOf?, h f hf]

theorem Designation.hasEventField_of_resolution (settings : Settings) {r : Record}
    (h : ∀ f ∈ r.fields, o.resolution r.name f = o'.resolution r.name f) :
    hasEventField o settings r = hasEventField o' settings r := by
  rw [hasEventField, hasEventField, Bool.eq_iff_iff]
  simp only [List.any_eq_true]
  exact exists_congr fun f => and_congr_right fun hf => by rw [h f hf]

namespace Project

open Pruning

variable {p : Project} {table : Table} {key name : String} {r : Record} {b b' : Build}

def under (p : Project) (o : Overrides) : Project :=
  { p with overrides := o }

/-- The key of an entry names neither the record nor, in the tables for types, the type of one of
its fields or the parent that it keeps. A dotted key of the type table names none of its fields. -/
structure Untouched (p : Project) (table : Table) (key : String) (r : Record) : Prop where
  name : r.name ≠ key
  types : table ≠ .responses → ∀ f ∈ r.fields, f.typeName ≠ key
  parent : table ≠ .responses → p.lineage.parentOf? r.name ≠ some key
  fields : table = .types → ∀ f ∈ r.fields, r.name ++ "." ++ f.name ≠ key

theorem getsFile_under (ho : p.overrides.AgreeBeside o table key)
    (hr : table ≠ .responses → r.name ≠ key) : p.getsFile r = (p.under o).getsFile r := by
  rw [getsFile, getsFile, ho.replaces hr]
  rfl

namespace Untouched

theorem resolution (h : p.Untouched table key r) (ho : p.overrides.AgreeBeside o table key)
    {f : Field} (hf : f ∈ r.fields) : p.overrides.resolution r.name f = o.resolution r.name f :=
  ho.resolution (fun ht => h.types ht f hf) fun ht => h.fields ht f hf

theorem designation (h : p.Untouched table key r) (ho : p.overrides.AgreeBeside o table key) :
    Designation.ofRecord p.overrides p.settings r = Designation.ofRecord o p.settings r := by
  have hevent := Designation.hasEventField_of_resolution p.settings fun f hf => h.resolution ho hf
  have hrole : Designation.roleWithId p.overrides p.settings r =
      Designation.roleWithId o p.settings r := by
    rw [Designation.roleWithId, Designation.roleWithId, hevent, ho.response? h.name]
  rw [Designation.ofRecord, Designation.ofRecord, hrole]

theorem directSchema (h : p.Untouched table key r) (ho : p.overrides.AgreeBeside o table key)
    (d : Designation) : p.directSchema r d = (p.under o).directSchema r d := by
  have hresolution : ∀ f ∈ r.fields, p.overrides.resolution r.name f = o.resolution r.name f :=
    fun f hf => h.resolution ho hf
  have hentries (number : Nat) :=
    Body.directEntries_of_resolution p.set number hresolution
  have himports := Dependencies.filterMap_of_resolution p.set hresolution
  have hparent : ∀ parent ∈ p.lineage.parentOf? r.name, table ≠ .responses → parent ≠ key :=
    fun parent hp ht hkey => h.parent ht (hkey ▸ hp)
  have hsuper : (p.lineage.parentOf? r.name).map p.superType =
      (p.lineage.parentOf? r.name).map (p.under o).superType := by
    refine Option.map_congr fun parent hp => ?_
    rw [superType, superType, ho.forType? (hparent parent hp)]
    rfl
  have hkept : (p.lineage.parentOf? r.name).filter (fun parent => !p.overrides.replaces parent) =
      (p.lineage.parentOf? r.name).filter fun parent => !o.replaces parent := by
    cases hp : p.lineage.parentOf? r.name with
    | none => rfl
    | some parent => simp [Option.filter, ho.replaces (hparent parent hp)]
  have hlineage : (p.under o).lineage = p.lineage := rfl
  rw [Project.directSchema, Project.directSchema, hlineage, ← hsuper]
  simp only [under, Dependencies.direct, Body.direct, hentries, himports, hkept]

end Untouched

theorem file?_under (hb : p.directBuild = .ok b) (hb' : (p.under o).directBuild = .ok b')
    (ho : p.overrides.AgreeBeside o table key) (hr : r ∈ p.set.records)
    (h : p.Untouched table key r) : b.file? r.name = b'.file? r.name := by
  have hschema := funext (h.directSchema ho)
  have hfile := getsFile_under ho fun _ => h.name
  ext f
  rw [file?_record_iff hb hr, file?_record_iff hb' hr, hfile, h.designation ho, hschema]
  rfl

/-- Two selections of records that differ at one name select the same other names. -/
theorem filter_names {keep keep' : Record → Bool} (records : List Record)
    (h : ∀ r ∈ records, r.name ≠ key → keep r = keep' r) :
    ((records.filter keep).map Record.name).filter (· ≠ key) =
      ((records.filter keep').map Record.name).filter (· ≠ key) := by
  rw [List.filter_map, List.filter_map, List.filter_filter, List.filter_filter]
  refine congrArg _ (List.filter_congr fun r hr => ?_)
  by_cases hkey : r.name = key
  · simp [hkey]
  · simp [hkey, h r hr hkey]

theorem isLeftEmpty_under (ho : p.overrides.AgreeBeside o table key)
    (hr : table ≠ .responses → r.name ≠ key) : p.isLeftEmpty r = (p.under o).isLeftEmpty r := by
  rw [isLeftEmpty, isLeftEmpty, ho.replaces hr]
  rfl

theorem lists_under_responses (hb : p.directBuild = .ok b)
    (hb' : (p.under o).directBuild = .ok b') (ho : p.overrides.AgreeBeside o .responses key) :
    b.empty = b'.empty ∧ b.aliased = b'.aliased ∧
      b.files.map OutputFile.record = b'.files.map OutputFile.record := by
  have hempty : p.isLeftEmpty = (p.under o).isLeftEmpty :=
    funext fun r => isLeftEmpty_under ho fun ht => absurd rfl ht
  have hfile : p.getsFile = (p.under o).getsFile :=
    funext fun r => getsFile_under ho fun ht => absurd rfl ht
  have haliased : p.overrides.replaces = o.replaces :=
    funext fun x => ho.replaces fun ht => absurd rfl ht
  obtain ⟨own, hfiles, hown⟩ := exists_own_files hb
  obtain ⟨own', hfiles', hown'⟩ := exists_own_files hb'
  have hrecords : own.map OutputFile.record = own'.map OutputFile.record := by
    rw [hown, hown', hfile]
    rfl
  refine ⟨?_, ?_, ?_⟩
  · rw [empty_eq hb, empty_eq hb', hempty]
    rfl
  · rw [aliased_eq hb, aliased_eq hb', haliased]
    rfl
  · have hsettings : (p.under o).settings = p.settings := rfl
    rw [hfiles, hfiles', withVoid_eq, withVoid_eq, List.map_append, List.map_append, hrecords,
      hsettings]
    rfl

theorem file?_under_responses (hb : p.directBuild = .ok b)
    (hb' : (p.under o).directBuild = .ok b') (ho : p.overrides.AgreeBeside o .responses key)
    (hname : name ≠ key) : b.file? name = b'.file? name := by
  by_cases hset : name ∈ p.set.names
  · obtain ⟨r, hr, rfl⟩ := List.mem_map.1 hset
    exact file?_under hb hb' ho hr ⟨hname, fun ht => absurd rfl ht, fun ht => absurd rfl ht, nofun⟩
  · ext f
    rw [file?_outside_iff hb hset, file?_outside_iff hb' hset]
    rfl

/-- An entry of the override tables has a part in no file but those of the records that its key
touches, and it adds or takes away at most its key from the names of the records without a file.
An entry for a response has a part in the file of its command alone. -/
theorem override_touches_named (p : Project) (o : Overrides) (table : Table) (key : String)
    (ho : p.overrides.AgreeBeside o table key) (earlier earlier' : List Call) (b b' : Build)
    (hb : (runOn p.build (p.memoAfter earlier)).1 = .ok b)
    (hb' : (runOn (p.under o).build ((p.under o).memoAfter earlier')).1 = .ok b') :
    (∀ r ∈ p.set.records, p.Untouched table key r → b.file? r.name = b'.file? r.name) ∧
    b.empty.filter (· ≠ key) = b'.empty.filter (· ≠ key) ∧
    b.aliased.filter (· ≠ key) = b'.aliased.filter (· ≠ key) ∧
    (table = .responses → b.empty = b'.empty ∧ b.aliased = b'.aliased ∧
      b.files.map OutputFile.record = b'.files.map OutputFile.record ∧
      ∀ name ≠ key, b.file? name = b'.file? name) := by
  rw [build_after] at hb hb'
  refine ⟨fun r hr => file?_under hb hb' ho hr, ?_, ?_, ?_⟩
  · rw [empty_eq hb, empty_eq hb']
    exact filter_names _ fun r _ hkey => isLeftEmpty_under ho fun _ => hkey
  · rw [aliased_eq hb, aliased_eq hb']
    exact filter_names _ fun r _ hkey => ho.replaces fun _ => hkey
  · rintro rfl
    obtain ⟨hempty, haliased, hrecords⟩ := lists_under_responses hb hb' ho
    exact ⟨hempty, haliased, hrecords, fun name => file?_under_responses hb hb' ho⟩

def sighting : Record where
  name := "Sighting"
  parent := "root"
  fields := [{ name := "track", typeName := "Track", kind := .recordReference }]

def radar : Record where
  name := "Radar"
  parent := "Sighting"
  fields := [{ name := "range", typeName := "int", kind := .primitive }]

def watchProject : Project :=
  { set := ⟨[sighting, radar, timed "Track"], by decide⟩ }

def watchOverrides : Overrides :=
  { types := watchProject.overrides.types.insert "Track" "long" }

def radarFile : OutputFile where
  record := "Radar"
  schema := ⟨none, ["Sighting"], none,
    [.type "Radar" none [⟨1, none, "Sighting", "super"⟩, ⟨2, none, "sint32", "range"⟩]]⟩

def sightingFile (imports : List String) (trackType : String) : OutputFile :=
  ⟨"Sighting", ⟨none, imports, none, [.type "Sighting" none [⟨1, none, trackType, "track"⟩]]⟩⟩

def watchBuild : Build :=
  ⟨[sightingFile ["Track"] "Track", radarFile, timedFile "Track", watchProject.voidFile], [], []⟩

def watchBuildUnder : Build :=
  ⟨[sightingFile [] "sint64", radarFile, watchProject.voidFile], [], ["Track"]⟩

theorem override_touches_named_track :
    watchProject.overrides.AgreeBeside watchOverrides .types "Track" ∧
    radar ∈ watchProject.set.records ∧ watchProject.Untouched .types "Track" radar ∧
    (runOn watchProject.build (watchProject.memoAfter [])).1 = .ok watchBuild ∧
    (runOn (watchProject.under watchOverrides).build
      ((watchProject.under watchOverrides).memoAfter [.record sighting])).1 = .ok watchBuildUnder ∧
    watchBuild.file? "Radar" = watchBuildUnder.file? "Radar" ∧
    watchBuild.aliased.filter (· ≠ "Track") = watchBuildUnder.aliased.filter (· ≠ "Track") := by
  have hagree : watchProject.overrides.AgreeBeside watchOverrides .types "Track" :=
    agreeBeside_insert _ "Track" "long"
  have hmem : radar ∈ watchProject.set.records := by decide
  have huntouched : watchProject.Untouched .types "Track" radar :=
    ⟨by decide, fun _ => by decide, fun _ => by decide +kernel, fun _ => by decide⟩
  have hbuild : (runOn watchProject.build (watchProject.memoAfter [])).1 = .ok watchBuild := by
    decide +kernel
  have hunder : (runOn (watchProject.under watchOverrides).build
      ((watchProject.under watchOverrides).memoAfter [.record sighting])).1 =
      .ok watchBuildUnder := by decide +kernel
  obtain ⟨hfiles, _, haliased, _⟩ := override_touches_named watchProject watchOverrides .types
    "Track" hagree [] [.record sighting] watchBuild watchBuildUnder hbuild hunder
  exact ⟨hagree, hmem, huntouched, hbuild, hunder, hfiles radar hmem huntouched, haliased⟩

end Project

end RecordIdl
