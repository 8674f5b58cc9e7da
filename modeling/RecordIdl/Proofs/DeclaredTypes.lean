import RecordIdl.Proofs.DeclaredNames
import RecordIdl.Proofs.ReferencedFiles

namespace RecordIdl

theorem append_ne_append {s t u v : String} (hu : ¬ u.toList <:+ v.toList)
    (hv : ¬ v.toList <:+ u.toList) : s ++ u ≠ t ++ v := by
  intro h
  have hlist : s.toList ++ u.toList = t.toList ++ v.toList := by
    rw [← String.toList_append, h, String.toList_append]
  have hsuffix : u.toList <:+ t.toList ++ v.toList := ⟨s.toList, hlist⟩
  rcases List.suffix_or_suffix_of_suffix hsuffix ⟨t.toList, rfl⟩ with h | h
  · exact hu h
  · exact hv h

namespace Spelling

theorem length_le_stripPdu (s : String) : s.length ≤ (stripPdu s).length + 3 := by
  rw [stripPdu]
  split
  · next u d p c cs hs =>
      have hlength : s.length = cs.length + 4 := by
        rw [← String.length_toList, ← List.length_reverse, hs]
        rfl
      split
      · rw [String.length_ofList, List.length_reverse, List.length_cons]
        omega
      · exact Nat.le_add_right _ 3
  · exact Nat.le_add_right _ 3

/-- What is added to a name is longer than what is cut off it. -/
theorem wrapperName_ne_self (record field : String) : wrapperName record field ≠ record := by
  intro h
  have hlength := congrArg String.length h
  have hstrip := length_le_stripPdu record
  rw [wrapperName, String.length_append, String.length_append] at hlength
  have hlist : "List".length = 4 := rfl
  omega

theorem wrapperName_inj {record f g : String} :
    wrapperName record f = wrapperName record g ↔ capitalize f = capitalize g := by
  rw [wrapperName, wrapperName, String.append_left_inj, String.append_right_inj]

end Spelling

def Role.carrier? (name : String) : Role → Option String
  | plain | component => none
  | event => some (name ++ "Event")
  | command _ => some (name ++ "Command")

theorem Role.carrier?_cases {role : Role} {name x : String} (h : role.carrier? name = some x) :
    x = name ++ "Event" ∨ x = name ++ "Command" := by
  cases role with
  | plain | component => cases h
  | event => exact .inl (Option.some.inj h).symm
  | command => exact .inr (Option.some.inj h).symm

theorem Role.carrier?_ne_wrapperName {role : Role} {name x record field : String}
    (h : role.carrier? name = some x) : x ≠ Spelling.wrapperName record field := by
  rcases carrier?_cases h with rfl | rfl
  · exact append_ne_append (by decide) (by decide)
  · exact append_ne_append (by decide) (by decide)

theorem Role.carrier?_ne_self {role : Role} {name : String} : role.carrier? name ≠ some name := by
  intro h
  have hlonger (suffix : String) (hne : suffix ≠ "") : name ≠ name ++ suffix :=
    fun heq => hne (String.append_right_inj name |>.1 (heq.symm.trans String.append_empty.symm))
  rcases carrier?_cases h with heq | heq
  · exact hlonger _ (by decide) heq
  · exact hlonger _ (by decide) heq

theorem Role.carrier?_inj {role role' : Role} {name name' x : String}
    (h : role.carrier? name = some x) (h' : role'.carrier? name' = some x) : name = name' := by
  rcases carrier?_cases h with rfl | rfl <;> rcases carrier?_cases h' with heq | heq
  · exact (String.append_left_inj _).1 heq
  · exact absurd heq (append_ne_append (by decide) (by decide))
  · exact absurd heq (append_ne_append (by decide) (by decide))
  · exact (String.append_left_inj _).1 heq

namespace SchemaItem

/-- What an item is to the record of its file. -/
inductive Part
  | own
  | carrier
  | wrapper (field : String)
  deriving DecidableEq

def part : SchemaItem → Part
  | type .. | component .. => .own
  | event .. | command .. => .carrier
  | wrapper w => .wrapper w.fieldName

variable {name : String} {d : Designation} {b : Body}

theorem parts_ofRecord (name : String) (d : Designation) (b : Body) :
    (ofRecord name d b).map (fun item => (item.part, item.declared)) =
      (d.role.carrier? name).toList.map (Part.carrier, ·) ++
        (.own, name) :: b.wrappers.map fun w => (.wrapper w.fieldName, w.name) := by
  cases hrole : d.role <;> simp [ofRecord, hrole, part, declared, Role.carrier?]

end SchemaItem

def SchemaFile.declared (s : SchemaFile) : List String :=
  s.items.map SchemaItem.declared

def Build.declared (b : Build) : List String :=
  b.files.flatMap fun f => f.schema.declared

def OutputFile.parts (f : OutputFile) : List ((String × SchemaItem.Part) × String) :=
  f.schema.items.map fun item => ((f.record, item.part), item.declared)

def Build.parts (b : Build) : List ((String × SchemaItem.Part) × String) :=
  b.files.flatMap OutputFile.parts

theorem Build.declared_eq (b : Build) : b.declared = b.parts.map Prod.snd := by
  simp [declared, parts, OutputFile.parts, SchemaFile.declared, List.map_flatMap,
    Function.comp_def]

namespace Body

variable {s : RecordSet} {o : Overrides} {record : String} {r : Record} {parent : Option String}

theorem wrapper_entry (record : String) (f : Field) (number : Nat) :
    (entry record f number (o.resolution record f).target).wrapper =
      if wraps o record f then
        some ⟨Spelling.wrapperName record f.name, (o.resolution record f).target.name, f.name⟩
      else none := by
  rw [entry, wraps]
  cases f.kind.isList <;> cases (o.resolution record f).target.isByte <;> rfl

def wrapperOf (o : Overrides) (record : String) (f : Field) : Wrapper :=
  ⟨Spelling.wrapperName record f.name, (o.resolution record f).target.name, f.name⟩

theorem wrappers_directEntries (number : Nat) (fs : List Field) :
    (directEntries s o record number fs).filterMap (·.wrapper) =
      ((fs.filter (writes s o record)).filter (wraps o record)).map (wrapperOf o record) := by
  induction fs generalizing number with
  | nil => rfl
  | cons f fs ih =>
      rw [directEntries, List.filterMap_append, ih, directOf?_eq]
      cases hwrites : writes s o record f with
      | false => simp [hwrites]
      | true =>
          cases hwraps : wraps o record f <;>
            simp [hwrites, hwraps, wrapper_entry, wrapperOf]

end Body

namespace Project

open Pruning SchemaItem

variable {p : Project} {b : Build} {r : Record} {d : Designation} {k : String × Part} {x : String}

def listFields (p : Project) (r : Record) : List Field :=
  (p.writtenFields r).filter (Body.wraps p.overrides r.name)

theorem nodup_listFields (hl : Consistency.check p.lineage = .ok ())
    (hr : r ∈ p.set.records) : ((p.listFields r).map Field.name).Nodup :=
  (nodup_writtenFields hl hr).sublist (List.filter_sublist.map Field.name)

theorem parts_directSchema :
    (p.directSchema r d).items.map (fun item => (item.part, item.declared)) =
      (d.role.carrier? r.name).toList.map (Part.carrier, ·) ++
        (.own, r.name) :: (p.listFields r).map fun f =>
          (.wrapper f.name, Spelling.wrapperName r.name f.name) := by
  rw [directSchema, parts_ofRecord, Body.direct, Body.wrappers_directEntries, List.map_map]
  rfl

theorem declared_directSchema :
    (p.directSchema r d).declared = (d.role.carrier? r.name).toList ++
      r.name :: (p.listFields r).map fun f => Spelling.wrapperName r.name f.name := by
  have h := congrArg (List.map Prod.snd) (parts_directSchema (p := p) (r := r) (d := d))
  simpa [SchemaFile.declared, Function.comp_def] using h

theorem nodup_parts_directSchema (hl : Consistency.check p.lineage = .ok ())
    (hr : r ∈ p.set.records) : ((p.directSchema r d).items.map SchemaItem.part).Nodup := by
  have hparts := congrArg (List.map Prod.fst) (parts_directSchema (p := p) (r := r) (d := d))
  have hwrappers : ((p.listFields r).map fun f => Part.wrapper f.name).Nodup := by
    have hinj : Function.Injective Part.wrapper := fun _ _ => Part.wrapper.inj
    exact List.map_map ▸ (nodup_listFields hl hr).map hinj
  simp only [List.map_map, List.map_append, List.map_cons, Function.comp_def] at hparts
  rw [hparts]
  cases d.role.carrier? r.name <;> simp [hwrappers]

/-- A record with a file is carried by a component of another name. -/
def Carries (p : Project) (record x : String) : Prop :=
  ∃ r ∈ p.set.records, p.getsFile r = true ∧ r.name = record ∧
    ∃ d, Designation.ofRecord p.overrides p.settings r = .ok d ∧ d.role.carrier? record = some x

/-- A record with a file has a list field for which a type is made. -/
def Wraps (p : Project) (record field : String) : Prop :=
  ∃ r ∈ p.set.records, p.getsFile r = true ∧ r.name = record ∧
    ∃ f ∈ p.listFields r, f.name = field

/-- What a build declares, as the parts of its records. -/
inductive Declares (p : Project) (b : Build) : String × Part → String → Prop
  | own {f : OutputFile} (hf : f ∈ b.files) : Declares p b (f.record, .own) f.record
  | carrier {record x : String} (hx : p.Carries record x) : Declares p b (record, .carrier) x
  | wrapper {record field : String} (hw : p.Wraps record field) :
      Declares p b (record, .wrapper field) (Spelling.wrapperName record field)

theorem nodup_parts (h : p.directBuild = .ok b) : (b.parts.map Prod.fst).Nodup := by
  rw [Build.parts, List.map_flatMap, List.nodup_flatMap]
  constructor
  · intro f hf
    have hkeys : (f.parts.map Prod.fst) = (f.schema.items.map part).map (f.record, ·) := by
      simp [OutputFile.parts, Function.comp_def]
    have hinj : Function.Injective fun part : Part => (f.record, part) :=
      fun _ _ heq => (Prod.mk.inj heq).2
    rw [hkeys]
    refine List.Nodup.map hinj ?_
    rcases (mem_files_iff h).1 hf with ⟨r, hr, _, d, _, rfl⟩ | ⟨rfl, _⟩
    · exact nodup_parts_directSchema (decided_of_build h).1 hr
    · exact List.nodup_singleton _
  · have hne : b.files.Pairwise fun f g => f.record ≠ g.record :=
      List.pairwise_map.1 (nodup_files h)
    refine hne.imp fun {f g} hfg => List.disjoint_left.2 ?_
    intro key hkey hkey'
    simp only [OutputFile.parts, List.map_map, List.mem_map] at hkey hkey'
    obtain ⟨_, _, rfl⟩ := hkey
    obtain ⟨_, _, heq⟩ := hkey'
    exact hfg (Prod.mk.inj heq).1.symm

theorem mem_parts_file {f : OutputFile} (hr : f.record = r.name)
    (hf : f.schema = p.directSchema r d) :
    (k, x) ∈ f.parts ↔ (∃ y, d.role.carrier? r.name = some y ∧ (k, x) = ((r.name, .carrier), y)) ∨
      (k, x) = ((r.name, .own), r.name) ∨ ∃ g ∈ p.listFields r,
        (k, x) = ((r.name, .wrapper g.name), Spelling.wrapperName r.name g.name) := by
  have hparts : f.parts = ((p.directSchema r d).items.map fun item =>
      (item.part, item.declared)).map fun q => ((r.name, q.1), q.2) := by
    rw [OutputFile.parts, hr, hf, List.map_map]
    rfl
  rw [hparts, parts_directSchema]
  simp [eq_comm]

theorem mem_parts_iff (h : p.directBuild = .ok b) : (k, x) ∈ b.parts ↔ p.Declares b k x := by
  rw [Build.parts, List.mem_flatMap]
  constructor
  · rintro ⟨f, hf, hmem⟩
    rcases (mem_files_iff h).1 hf with ⟨r, hr, hfile, d, hd, rfl⟩ | ⟨rfl, _⟩
    · rcases (mem_parts_file rfl rfl).1 hmem with ⟨y, hy, heq⟩ | heq | ⟨g, hg, heq⟩
      · obtain ⟨rfl, rfl⟩ := Prod.mk.inj heq
        exact .carrier ⟨r, hr, hfile, rfl, d, hd, hy⟩
      · obtain ⟨rfl, rfl⟩ := Prod.mk.inj heq
        exact .own hf
      · obtain ⟨rfl, rfl⟩ := Prod.mk.inj heq
        exact .wrapper ⟨r, hr, hfile, rfl, g, hg, rfl⟩
    · obtain ⟨rfl, rfl⟩ := Prod.mk.inj (List.mem_singleton.1 hmem)
      exact .own hf
  · intro hdeclares
    cases hdeclares with
    | own hf =>
        rename_i f
        refine ⟨f, hf, ?_⟩
        rcases (mem_files_iff h).1 hf with ⟨r, hr, hfile, d, hd, rfl⟩ | ⟨rfl, _⟩
        · exact (mem_parts_file rfl rfl).2 (.inr (.inl rfl))
        · exact List.mem_singleton.2 rfl
    | carrier hx =>
        obtain ⟨r, hr, hfile, rfl, d, hd, hx⟩ := hx
        refine ⟨⟨r.name, p.directSchema r d⟩, (mem_files_iff h).2 (.inl ⟨r, hr, hfile, d, hd, rfl⟩), ?_⟩
        exact (mem_parts_file rfl rfl).2 (.inl ⟨_, hx, rfl⟩)
    | wrapper hw =>
        obtain ⟨r, hr, hfile, rfl, g, hg, rfl⟩ := hw
        obtain ⟨d, hd⟩ := exists_designation h hr hfile
        refine ⟨⟨r.name, p.directSchema r d⟩, (mem_files_iff h).2 (.inl ⟨r, hr, hfile, d, hd, rfl⟩), ?_⟩
        exact (mem_parts_file rfl rfl).2 (.inr (.inr ⟨g, hg, rfl⟩))

theorem Carries.ne_wrapperName {r record field : String} (h : p.Carries r x) :
    x ≠ Spelling.wrapperName record field := by
  obtain ⟨_, _, _, _, d, _, hx⟩ := h
  exact Role.carrier?_ne_wrapperName hx

theorem Carries.inj {r q : String} (h : p.Carries r x) (h' : p.Carries q x) : r = q := by
  obtain ⟨_, _, _, _, d, _, hx⟩ := h
  obtain ⟨_, _, _, _, d', _, hx'⟩ := h'
  exact Role.carrier?_inj hx hx'

/-- No file is for a name that is made from that of a record, and no two list fields have wrappers
of one name. -/
structure NamesApart (p : Project) (b : Build) : Prop where
  carriers : ∀ f ∈ b.files, ∀ record, ¬ p.Carries record f.record
  wrappers : ∀ f ∈ b.files, ∀ record field, p.Wraps record field →
    Spelling.wrapperName record field ≠ f.record
  lists : ∀ record field record' field', p.Wraps record field → p.Wraps record' field' →
    (record, field) ≠ (record', field') →
      Spelling.wrapperName record field ≠ Spelling.wrapperName record' field'

theorem Declares.ne_of_namesApart (hapart : p.NamesApart b) {k' : String × Part} {x' : String}
    (h : p.Declares b k x) (h' : p.Declares b k' x') (hk : k ≠ k') : x ≠ x' := by
  cases h with
  | own hf =>
      cases h' with
      | own hg => exact fun heq => hk (by rw [heq])
      | carrier hx' => exact fun heq => hapart.carriers _ hf _ (heq ▸ hx')
      | wrapper hw' => exact (hapart.wrappers _ hf _ _ hw').symm
  | carrier hx =>
      cases h' with
      | own hg => exact fun heq => hapart.carriers _ hg _ (heq ▸ hx)
      | carrier hx' => exact fun heq => hk (by rw [hx.inj (heq ▸ hx')])
      | wrapper hw' => exact hx.ne_wrapperName
  | wrapper hw =>
      cases h' with
      | own hg => exact hapart.wrappers _ hg _ _ hw
      | carrier hx' => exact hx'.ne_wrapperName.symm
      | wrapper hw' =>
          exact hapart.lists _ _ _ _ hw hw' fun heq => hk (by rw [(Prod.mk.inj heq).1, (Prod.mk.inj heq).2])

theorem nodup_declared_iff (h : p.directBuild = .ok b) : b.declared.Nodup ↔ p.NamesApart b := by
  rw [Build.declared_eq, nodup_map_iff_of_key (nodup_parts h)]
  constructor
  · intro hne
    have hparts {k k' : String × Part} {x x' : String} (hk : p.Declares b k x)
        (hk' : p.Declares b k' x') (hkeys : k ≠ k') : x ≠ x' :=
      hne (k, x) ((mem_parts_iff h).2 hk) (k', x') ((mem_parts_iff h).2 hk') hkeys
    refine ⟨?_, ?_, ?_⟩
    · exact fun f hf record hx => hparts (.own hf) (.carrier hx) (by simp) rfl
    · exact fun f hf record field hw => hparts (.wrapper hw) (.own hf) (by simp)
    · intro record field record' field' hw hw' hfields
      exact hparts (.wrapper hw) (.wrapper hw') (by simpa using hfields)
  · rintro hapart ⟨k, x⟩ hx ⟨k', x'⟩ hx' hkeys
    exact ((mem_parts_iff h).1 hx).ne_of_namesApart hapart ((mem_parts_iff h).1 hx') hkeys

theorem mem_declared_iff (h : p.directBuild = .ok b) :
    x ∈ b.declared ↔ (∃ f ∈ b.files, f.record = x) ∨ (∃ record, p.Carries record x) ∨
      ∃ record field, p.Wraps record field ∧ Spelling.wrapperName record field = x := by
  have hparts : x ∈ b.declared ↔ ∃ k, p.Declares b k x := by
    rw [Build.declared_eq, List.mem_map]
    constructor
    · rintro ⟨⟨k, y⟩, hy, rfl⟩
      exact ⟨k, (mem_parts_iff h).1 hy⟩
    · rintro ⟨k, hk⟩
      exact ⟨(k, x), (mem_parts_iff h).2 hk, rfl⟩
  rw [hparts]
  constructor
  · rintro ⟨k, hk⟩
    cases hk with
    | own hf => exact .inl ⟨_, hf, rfl⟩
    | carrier hx => exact .inr (.inl ⟨_, hx⟩)
    | wrapper hw => exact .inr (.inr ⟨_, _, hw, rfl⟩)
  · rintro (⟨f, hf, rfl⟩ | ⟨record, hx⟩ | ⟨record, field, hw, rfl⟩)
    · exact ⟨_, .own hf⟩
    · exact ⟨_, .carrier hx⟩
    · exact ⟨_, .wrapper hw⟩

theorem wraps_iff (hr : r ∈ p.set.records) (hfile : p.getsFile r = true) {field : String} :
    p.Wraps r.name field ↔ field ∈ (p.listFields r).map Field.name := by
  constructor
  · rintro ⟨q, hq, _, hname, f, hf, rfl⟩
    obtain rfl := RecordSet.eq_of_name_eq hq hr hname
    exact List.mem_map.2 ⟨f, hf, rfl⟩
  · intro hfield
    obtain ⟨f, hf, rfl⟩ := List.mem_map.1 hfield
    exact ⟨r, hr, hfile, rfl, f, hf, rfl⟩

theorem nodup_declared_directSchema (hl : Consistency.check p.lineage = .ok ())
    (hr : r ∈ p.set.records) :
    (p.directSchema r d).declared.Nodup ↔
      ∀ f ∈ p.listFields r, ∀ g ∈ p.listFields r, f.name ≠ g.name →
        Spelling.capitalize f.name ≠ Spelling.capitalize g.name := by
  have hown : r.name ∉ (p.listFields r).map fun f => Spelling.wrapperName r.name f.name := by
    rw [List.mem_map]
    rintro ⟨f, _, hname⟩
    exact Spelling.wrapperName_ne_self r.name f.name hname
  have hcarrier (x : String) (hx : d.role.carrier? r.name = some x) : x ≠ r.name ∧
      x ∉ (p.listFields r).map fun f => Spelling.wrapperName r.name f.name := by
    refine ⟨fun heq => Role.carrier?_ne_self (heq ▸ hx), ?_⟩
    rw [List.mem_map]
    rintro ⟨f, _, hname⟩
    exact Role.carrier?_ne_wrapperName hx hname.symm
  have hlists := nodup_map_iff_of_key (f := fun f => Spelling.wrapperName r.name f.name)
    (nodup_listFields hl hr)
  simp only [ne_eq, Spelling.wrapperName_inj] at hlists
  rw [← hlists, declared_directSchema]
  cases hx : d.role.carrier? r.name with
  | none =>
      simp only [Option.toList_none, List.nil_append, List.nodup_cons, hown, not_false_eq_true,
        true_and]
  | some x =>
      simp only [Option.toList_some, List.singleton_append, List.nodup_cons, List.mem_cons, not_or,
        hcarrier x hx, hown, not_false_eq_true, true_and, and_true]

theorem nodup_declared_file {f : OutputFile} (h : p.directBuild = .ok b) (hf : f ∈ b.files) :
    f.schema.declared.Nodup ↔
      ∀ field field', p.Wraps f.record field → p.Wraps f.record field' → field ≠ field' →
        Spelling.capitalize field ≠ Spelling.capitalize field' := by
  rcases (mem_files_iff h).1 hf with ⟨r, hr, hfile, d, _, rfl⟩ | ⟨rfl, hnone⟩
  · simp only [nodup_declared_directSchema (decided_of_build h).1 hr, wraps_iff hr hfile]
    constructor
    · intro hlists field field' hfield hfield' hne
      obtain ⟨g, hg, rfl⟩ := List.mem_map.1 hfield
      obtain ⟨g', hg', rfl⟩ := List.mem_map.1 hfield'
      exact hlists g hg g' hg' hne
    · exact fun hlists g hg g' hg' =>
        hlists _ _ (List.mem_map_of_mem hg) (List.mem_map_of_mem hg')
  · -- The void type has no lists, and no record with a file has its name.
    have hwraps (field : String) : ¬ p.Wraps p.voidFile.record field := by
      rintro ⟨r, hr, hfile, hname, _⟩
      exact hnone r hr hfile hname
    constructor
    · exact fun _ field _ hw => absurd hw (hwraps field)
    · exact fun _ => List.nodup_singleton _

/-- A build declares the names of its files, of the components that carry records and of the
wrappers of lists. Each is declared once just when no file has one of the names that are made and
no two list fields make the same; within one file only two lists can, whose names are capitalized
to the same. -/
theorem type_names_distinct_iff (p : Project) (calls : List Call) (b : Build)
    (h : (runOn p.build (p.memoAfter calls)).1 = .ok b) :
    (∀ x, x ∈ b.declared ↔ (∃ f ∈ b.files, f.record = x) ∨ (∃ record, p.Carries record x) ∨
      ∃ record field, p.Wraps record field ∧ Spelling.wrapperName record field = x) ∧
    (b.declared.Nodup ↔ p.NamesApart b) ∧
    ∀ f ∈ b.files, f.schema.declared.Nodup ↔
      ∀ field field', p.Wraps f.record field → p.Wraps f.record field' → field ≠ field' →
        Spelling.capitalize field ≠ Spelling.capitalize field' := by
  rw [build_after] at h
  refine ⟨fun x => mem_declared_iff h, nodup_declared_iff h, fun f hf => ?_⟩
  exact nodup_declared_file h hf

def listField (name : String) : Field :=
  { name, typeName := "int", kind := .variableList }

def salvo : Record where
  name := "Salvo"
  parent := "root"
  fields := [reference "event" "EventIdentifier", listField "shots", listField "log"]
  initialValues := [⟨"pduType", "9"⟩]

/-- The names made from the first record are those of the others, or made from them too. -/
def salvoProject : Project where
  set := ⟨[salvo, { name := "SalvoPdu", parent := "root", fields := [listField "shots"] },
    plainRecord "SalvoEvent", plainRecord "SalvoLogList"], by decide⟩

def salvoBuild : Build where
  files := [
    ⟨"Salvo", ⟨none, ["EventIdentifier"], none,
      [.event "Salvo" 9,
        .type "Salvo" none [⟨1, none, "EventIdentifier", "event"⟩,
          ⟨2, none, "SalvoShotsList", "shots_list"⟩, ⟨3, none, "SalvoLogList", "log_list"⟩],
        .wrapper ⟨"SalvoShotsList", "sint32", "shots"⟩,
        .wrapper ⟨"SalvoLogList", "sint32", "log"⟩]⟩⟩,
    ⟨"SalvoPdu", ⟨none, [], none,
      [.type "SalvoPdu" none [⟨1, none, "SalvoShotsList", "shots_list"⟩],
        .wrapper ⟨"SalvoShotsList", "sint32", "shots"⟩]⟩⟩,
    plainFile "SalvoEvent", plainFile "SalvoLogList", salvoProject.voidFile]
  empty := []
  aliased := []

theorem type_names_distinct_iff_salvo :
    (runOn salvoProject.build (salvoProject.memoAfter [.build])).1 = .ok salvoBuild ∧
    (salvoBuild.declared.Nodup ↔ salvoProject.NamesApart salvoBuild) := by
  have hbuild : (runOn salvoProject.build (salvoProject.memoAfter [.build])).1 =
      .ok salvoBuild := by decide +kernel
  exact ⟨hbuild, (type_names_distinct_iff salvoProject [.build] salvoBuild hbuild).2.1⟩

theorem type_names_repeated :
    salvoProject.built = .ok salvoBuild ∧
    salvoBuild.declared = ["SalvoEvent", "Salvo", "SalvoShotsList", "SalvoLogList", "SalvoPdu",
      "SalvoShotsList", "SalvoEvent", "SalvoLogList", "Void"] ∧
    ¬ salvoBuild.declared.Nodup := by
  decide +kernel

end Project

end RecordIdl
