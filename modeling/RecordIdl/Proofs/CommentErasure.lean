import RecordIdl.Proofs.SchemaPassages
import RecordIdl.Proofs.Surroundings

namespace RecordIdl

def Field.bare (f : Field) : Field :=
  { f with comment := none }

def Record.bare (r : Record) : Record :=
  { r with comment := none, fields := r.fields.map Field.bare }

theorem Record.isEmpty_bare (r : Record) : r.bare.isEmpty = r.isEmpty :=
  List.isEmpty_map

namespace RecordSet

variable (s : RecordSet)

def bare : RecordSet where
  records := s.records.map Record.bare
  distinct := by
    have hnames : (s.records.map Record.bare).map Record.name = s.records.map Record.name := by
      rw [List.map_map]
      rfl
    exact hnames ▸ s.distinct

theorem get?_bare (name : String) : s.bare.get? name = (s.get? name).map Record.bare := by
  rw [get?, bare, List.find?_map]
  rfl

theorem hasEmpty_bare (name : String) : s.bare.hasEmpty name = s.hasEmpty name := by
  rw [hasEmpty, hasEmpty, get?_bare]
  cases s.get? name with
  | none => rfl
  | some r => exact r.isEmpty_bare

end RecordSet

def Ancestry.bare : Ancestry → Ancestry
  | ends chain outside => ends (chain.map Record.bare) outside
  | loops path => loops path

namespace Lineage

variable (l : Lineage)

def bare : Lineage :=
  ⟨l.set.bare, l.roots⟩

theorem bare_below (r : Record) (a : Ancestry) :
    (a.below r).bare = a.bare.below r.bare := by
  cases a <;> rfl

theorem ancestryFrom_bare (names : List String) (r : Record) :
    l.bare.ancestryFrom names r.bare = (l.ancestryFrom names r).bare := by
  have hget (name : String) : l.bare.set.get? name = (l.set.get? name).map Record.bare :=
    l.set.get?_bare name
  fun_induction l.ancestryFrom names r with
  | case1 names r hroot => exact ancestryFrom_root hroot
  | case2 names r hroot hmem => exact ancestryFrom_loop (Bool.eq_false_iff.2 hroot) hmem
  | case3 names r hroot hmem hnone =>
      have hparent : l.bare.set.get? r.bare.parent = none := by
        rw [hget, Option.map_eq_none_iff]
        exact hnone
      exact ancestryFrom_outside (Bool.eq_false_iff.2 hroot) hmem hparent
  | case4 names r hroot hmem parent hsome ih =>
      have hparent : l.bare.set.get? r.bare.parent = some parent.bare := by
        rw [hget, Option.map_eq_some_iff]
        exact ⟨parent, hsome, rfl⟩
      rw [bare_below, ← ih]
      exact ancestryFrom_step (Bool.eq_false_iff.2 hroot) hmem hparent

theorem ancestry_bare (r : Record) : l.bare.ancestry r.bare = (l.ancestry r).bare :=
  l.ancestryFrom_bare [r.name] r

theorem nearest_bare (ancestors : List Record) (outside : Option String) :
    nearest (ancestors.map Record.bare) outside = nearest ancestors outside := by
  induction ancestors with
  | nil => rfl
  | cons r ancestors ih =>
      rw [List.map_cons, nearest_cons, nearest_cons, Record.isEmpty_bare, ih]
      rfl

theorem parentOf?_bare (name : String) : l.bare.parentOf? name = l.parentOf? name := by
  have hkept : l.bare.keptParent name = l.keptParent name := by
    rw [keptParent, keptParent, answerFor, answerFor, bare, RecordSet.get?_bare, ← bare]
    cases l.set.get? name with
    | none => rfl
    | some r =>
        simp only [Option.map_some, ancestry_bare]
        cases l.ancestry r with
        | loops path => rfl
        | ends chain outside =>
            simp only [Ancestry.bare, ← List.map_tail, nearest_bare]
  rw [parentOf?, parentOf?, hkept]

end Lineage

namespace Consistency

variable (l : Lineage)

theorem checkFields_bare (record : String) (seen : List String) (fs : List Field) :
    checkFields record seen (fs.map Field.bare) = checkFields record seen fs := by
  induction fs generalizing seen with
  | nil => rfl
  | cons f fs ih =>
      rw [List.map_cons, checkFields, checkFields, ← ih]
      rfl

theorem checkRecord_bare (r : Record) : checkRecord l.bare r.bare = checkRecord l r := by
  have hfields : checkFields r.name [] r.bare.fields = checkFields r.name [] r.fields :=
    checkFields_bare r.name [] r.fields
  have hancestry : checkAncestry l.bare r.bare = checkAncestry l r := by
    rw [checkAncestry, checkAncestry, l.ancestry_bare]
    cases l.ancestry r <;> rfl
  rw [checkRecord, checkRecord, hancestry]
  rw [← hfields]
  rfl

theorem check_bare : check l.bare = check l := by
  have hrecords : ∀ rs : List Record,
      (rs.map Record.bare).forM (checkRecord l.bare) = rs.forM (checkRecord l) := by
    intro rs
    induction rs with
    | nil => rfl
    | cons r rs ih =>
        have hrest : (do checkRecord l.bare r.bare; (rs.map Record.bare).forM (checkRecord l.bare)) =
            (do checkRecord l r; rs.forM (checkRecord l)) := by
          rw [checkRecord_bare, ih]
        exact hrest
  exact hrecords l.set.records

end Consistency

theorem Designation.ofRecord_bare (o : Overrides) (settings : Settings) (r : Record) :
    ofRecord o settings r.bare = ofRecord o settings r := by
  have hevent : hasEventField o settings r.bare = hasEventField o settings r :=
    List.any_map
  have hrequest : hasRequestId r.bare = hasRequestId r := List.any_map
  have hrole : roleWithId o settings r.bare = roleWithId o settings r := by
    rw [roleWithId, roleWithId, hevent, hrequest]
    rfl
  rw [ofRecord, ofRecord, hrole]
  rfl

def Body.bare (b : Body) : Body :=
  { b with declarations := b.declarations.map Declaration.bare }

namespace Body

variable (s : RecordSet) (o : Overrides)

def Entry.bare (e : Entry) : Entry :=
  { e with declaration := e.declaration.bare }

theorem entry_bare (record : String) (f : Field) (number : Nat) (type : SchemaType) :
    entry record f.bare number type = (entry record f number type).bare := by
  have hkind : f.bare.kind = f.kind := rfl
  rw [entry, entry, hkind]
  split
  · rfl
  · split <;> rfl

theorem directOf?_bare (record : String) (number : Nat) (f : Field) :
    directOf? s.bare o record number f.bare = (directOf? s o record number f).map Entry.bare := by
  have hresolution : o.resolution record f.bare = o.resolution record f := rfl
  have hpadding : f.bare.isPadding = f.isPadding := rfl
  rw [directOf?, directOf?, hresolution, hpadding, s.hasEmpty_bare, entry_bare]
  split <;> rfl

theorem directEntries_bare (record : String) (number : Nat) (fs : List Field) :
    directEntries s.bare o record number (fs.map Field.bare) =
      (directEntries s o record number fs).map Entry.bare := by
  induction fs generalizing number with
  | nil => rfl
  | cons f fs ih =>
      rw [List.map_cons, directEntries, directEntries, directOf?_bare, ih, List.map_append,
        Option.toList_map]

theorem direct_bare (r : Record) (parent : Option String) :
    direct s.bare o r.bare parent = (direct s o r parent).bare := by
  have hentries (number : Nat) : directEntries s.bare o r.bare.name number r.bare.fields =
      (directEntries s o r.name number r.fields).map Entry.bare :=
    directEntries_bare s o r.name number r.fields
  have hhead : (parent.map superDeclaration).toList =
      (parent.map superDeclaration).toList.map Declaration.bare := by
    cases parent <;> rfl
  simp only [direct, bare, hentries, List.map_append, List.map_map, List.filterMap_map, ← hhead]
  rfl

end Body

theorem Dependencies.direct_bare (s : RecordSet) (o : Overrides) (r : Record)
    (parent response : Option String) :
    direct s.bare o r.bare parent response = direct s o r parent response := by
  have hfield (f : Field) : directOf? s.bare o r.name f.bare = directOf? s o r.name f := by
    rw [directOf?, directOf?, s.hasEmpty_bare]
    rfl
  have hfields : r.bare.fields.filterMap (directOf? s.bare o r.name) =
      r.fields.filterMap (directOf? s o r.name) := by
    rw [Record.bare, List.filterMap_map]
    exact congrArg (r.fields.filterMap ·) (funext hfield)
  rw [direct, direct, ← hfields]
  rfl

theorem SchemaItem.ofRecord_bare (name : String) (d : Designation) (b : Body) :
    ofRecord name d b.bare = (ofRecord name d b).map bare := by
  have hwrappers : b.wrappers.map wrapper = (b.wrappers.map wrapper).map bare := by
    rw [List.map_map]
    rfl
  rw [ofRecord, ofRecord, List.map_append, ← hwrappers]
  cases d.role <;> rfl

def Fate.bare : Fate → Fate
  | file schema => file schema.bare
  | aliased => aliased
  | empty => empty

def OutputFile.bare (f : OutputFile) : OutputFile :=
  ⟨f.record, f.schema.bare⟩

def Build.bare (b : Build) : Build :=
  { b with files := b.files.map OutputFile.bare }

namespace Spelling

open Text

theorem not_isBlank_of_mem_words {cs word : List Char} (h : word ∈ words cs) :
    ∀ c ∈ word, isBlank c = false := by
  have hpieces : ∀ piece ∈ cs.splitOnP isBlank, ∀ c ∈ piece, isBlank c = false := by
    clear h
    induction cs with
    | nil => simp
    | cons c cs ih =>
        rw [List.splitOnP_cons_eq_if_modifyHead]
        cases hc : isBlank c with
        | true => simpa [hc] using ih
        | false =>
            obtain ⟨piece, pieces, hpieces⟩ := List.exists_cons_of_ne_nil
              (List.splitOnP_ne_nil isBlank cs)
            rw [hpieces] at ih ⊢
            obtain ⟨hpiece, hrest⟩ := List.forall_mem_cons.1 ih
            exact List.forall_mem_cons.2 ⟨List.forall_mem_cons.2 ⟨hc, hpiece⟩, hrest⟩
  exact hpieces word (List.mem_of_mem_filter h)

theorem feed_not_mem_commentLine {comment : Option String} {line : String}
    (h : commentLine? comment = some line) : '\n' ∉ line.toList := by
  obtain ⟨hline, -⟩ := Option.filter_eq_some_iff.1 h
  obtain ⟨comment, -, rfl⟩ := Option.map_eq_some_iff.1 hline
  have htext : (joinWords comment).toList = [' '].intercalate (words comment.toList) := by
    simp [joinWords, Function.comp_def]
  intro hmem
  rw [htext] at hmem
  rcases mem_intercalate hmem with hspace | ⟨word, hword, hc⟩
  · cases hspace
  · cases not_isBlank_of_mem_words hword '\n' hc

end Spelling

namespace Project

open Pruning Text

variable (p : Project)

def bare : Project :=
  p.on p.set.bare

theorem directSchema_bare (r : Record) (d : Designation) :
    p.bare.directSchema r.bare d = (p.directSchema r d).bare := by
  have hparent : p.bare.lineage.parentOf? r.bare.name = p.lineage.parentOf? r.name :=
    p.lineage.parentOf?_bare r.name
  have himports (parent : Option String) :=
    Dependencies.direct_bare p.set p.overrides r parent (response? d.role)
  have hbody (parent : Option String) := Body.direct_bare p.set p.overrides r parent
  have hsuper : p.bare.superType = p.superType := rfl
  have hset : p.bare.set = p.set.bare ∧ p.bare.overrides = p.overrides := ⟨rfl, rfl⟩
  rw [directSchema, directSchema, hparent, hsuper, hset.1, hset.2, himports, hbody,
    SchemaItem.ofRecord_bare]
  rfl

theorem directFate_bare (r : Record) :
    p.bare.directFate r.bare = (p.directFate r).map Fate.bare := by
  have hreplaces : p.bare.overrides.replaces r.bare.name = p.overrides.replaces r.name := rfl
  have hempty : p.bare.set.hasEmpty r.bare.name = p.set.hasEmpty r.name :=
    p.set.hasEmpty_bare r.name
  have hdesignation : Designation.ofRecord p.bare.overrides p.bare.settings r.bare =
      Designation.ofRecord p.overrides p.settings r :=
    Designation.ofRecord_bare p.overrides p.settings r
  rw [directFate, directFate, hreplaces, hempty, hdesignation, funext (p.directSchema_bare r)]
  split
  · rfl
  · split
    · rfl
    · cases Designation.ofRecord p.overrides p.settings r <;> rfl

theorem withVoid_bare (files : List OutputFile) :
    p.bare.withVoid (files.map OutputFile.bare) = (p.withVoid files).map OutputFile.bare := by
  have hvoid : (files.map OutputFile.bare).any (·.record = p.bare.settings.voidType) =
      files.any (·.record = p.settings.voidType) := List.any_map
  rw [withVoid, withVoid, hvoid]
  split
  · rfl
  · rw [List.map_append]
    rfl

theorem collect_bare (fates : List (Record × Fate)) :
    p.bare.collect (fates.map (Prod.map Record.bare Fate.bare)) = (p.collect fates).bare := by
  have hfile : outputFile? ∘ Prod.map Record.bare Fate.bare =
      fun q => (outputFile? q).map OutputFile.bare := by
    funext ⟨r, fate⟩
    cases fate <;> rfl
  have hempty : emptyName? ∘ Prod.map Record.bare Fate.bare = emptyName? := by
    funext ⟨r, fate⟩
    cases fate <;> rfl
  have haliased : aliasedName? ∘ Prod.map Record.bare Fate.bare = aliasedName? := by
    funext ⟨r, fate⟩
    cases fate <;> rfl
  rw [collect, collect, Build.bare, List.filterMap_map, List.filterMap_map, List.filterMap_map,
    hfile, hempty, haliased, ← List.map_filterMap, withVoid_bare]

theorem directBuild_bare : p.bare.directBuild = p.directBuild.map Build.bare := by
  have hcheck : Consistency.check p.bare.lineage = Consistency.check p.lineage :=
    Consistency.check_bare p.lineage
  have hfates : (p.set.records.map Record.bare).mapM
      (fun r => (p.bare.directFate r).map (r, ·)) =
      (p.set.records.mapM fun r => (p.directFate r).map (r, ·)).map
        (List.map (Prod.map Record.bare Fate.bare)) := by
    apply mapM_map_eq_map
    intro r
    rw [directFate_bare]
    cases p.directFate r <;> rfl
  rw [directBuild, directBuild, hcheck]
  cases Consistency.check p.lineage with
  | error fault => rfl
  | ok _ =>
      have hrecords : p.bare.set.records = p.set.records.map Record.bare := rfl
      rw [hrecords, hfates]
      cases p.set.records.mapM fun r => (p.directFate r).map (r, ·) with
      | error fault => rfl
      | ok fates => exact congrArg Except.ok (p.collect_bare fates)

/-- Two files for one name that declare the same. Without their comments their texts have the same
lines if no comment of either can do more than comment. -/
structure SameDeclarations (f f' : OutputFile) : Prop where
  record : f.record = f'.record
  schema : f.schema.bare = f'.schema.bare
  text : f.schema.Shielded → f'.schema.Shielded →
    visibleLines f.contents = visibleLines f'.contents

theorem feed_not_mem_comment {b : Build} (h : p.directBuild = .ok b) {f : OutputFile}
    (hf : f ∈ b.files) : ∀ comment ∈ f.schema.comment, '\n' ∉ comment.toList := by
  intro comment hcomment
  rcases (mem_files_iff h).1 hf with ⟨r, -, -, d, -, rfl⟩ | ⟨rfl, -⟩
  · exact Spelling.feed_not_mem_commentLine hcomment
  · cases hcomment

theorem forall₂_of_map_eq {α β : Type} {g : α → β} {R : α → α → Prop} {xs ys : List α}
    (h : xs.map g = ys.map g) (hR : ∀ x ∈ xs, ∀ y ∈ ys, g x = g y → R x y) :
    List.Forall₂ R xs ys := by
  induction xs generalizing ys with
  | nil =>
      obtain rfl := List.map_eq_nil_iff.1 h.symm
      exact .nil
  | cons x xs ih =>
      obtain ⟨y, ys, rfl, hy, hys⟩ := List.map_eq_cons_iff.1 h.symm
      refine .cons (hR x List.mem_cons_self y List.mem_cons_self hy.symm) (ih hys.symm ?_)
      intro x' hx' y' hy'
      exact hR x' (List.mem_cons_of_mem x hx') y' (List.mem_cons_of_mem y hy')

/-- Two sets that differ in comments alone are refused for the same fault, or give the same files
in the same order, whatever was called before. -/
theorem comments_declare_nothing (p : Project) (t : RecordSet)
    (h : p.set.records.map Record.bare = t.records.map Record.bare) (earlier earlier' : List Call) :
    (∀ fault, (runOn p.build (p.memoAfter earlier)).1 = .error fault ↔
      (runOn (p.on t).build ((p.on t).memoAfter earlier')).1 = .error fault) ∧
    ∀ b b', (runOn p.build (p.memoAfter earlier)).1 = .ok b →
      (runOn (p.on t).build ((p.on t).memoAfter earlier')).1 = .ok b' →
      b.empty = b'.empty ∧ b.aliased = b'.aliased ∧
        List.Forall₂ SameDeclarations b.files b'.files := by
  have hbare : p.bare = (p.on t).bare := by
    have hset : p.set.bare = t.bare := by simpa [RecordSet.bare] using h
    rw [bare, bare, on, hset]
    rfl
  have hbuild : p.directBuild.map Build.bare = (p.on t).directBuild.map Build.bare := by
    rw [← directBuild_bare, ← directBuild_bare, hbare]
  rw [build_after, build_after]
  refine ⟨fun fault => ?_, fun b b' hb hb' => ?_⟩
  · rw [← map_eq_error_iff (f := Build.bare), hbuild, map_eq_error_iff]
  · rw [hb, hb'] at hbuild
    have heq : b.bare = b'.bare := Except.ok.inj hbuild
    have hfiles : b.files.map OutputFile.bare = b'.files.map OutputFile.bare :=
      congrArg Build.files heq
    have hempty := congrArg Build.empty heq
    have haliased := congrArg Build.aliased heq
    refine ⟨hempty, haliased, ?_⟩
    apply forall₂_of_map_eq hfiles
    intro f hf f' hf' hsame
    have hrecord := congrArg OutputFile.record hsame
    have hschema : f.schema.bare = f'.schema.bare := congrArg OutputFile.schema hsame
    refine ⟨hrecord, hschema, fun hs hs' => ?_⟩
    rw [OutputFile.contents, OutputFile.contents,
      SchemaFile.visibleLines_bare (feed_not_mem_comment p hb hf) hs,
      SchemaFile.visibleLines_bare (feed_not_mem_comment (p.on t) hb' hf') hs', hschema]

def soleSet (name : String) (comment fieldComment : Option String) : RecordSet where
  records := [{ name, parent := "root", comment, fields := [
    { name := "range", typeName := "int", kind := .primitive, comment := fieldComment }] }]
  distinct := List.nodup_singleton name

def silentSet : RecordSet :=
  soleSet "Fire" none none

/-- Marks of comments that end none early. -/
def markedSet : RecordSet :=
  soleSet "Fire" (some "Rounds // or\n*/ missiles /*") (some "In metres. /* // *")

def Shows (set : RecordSet) : Prop :=
  ∃ b, directBuild { set } = .ok b ∧ ∀ f ∈ b.files, f.schema.Shielded

theorem shows_of_all {set : RecordSet} (h : (directBuild { set }).toOption.any
    (fun b => b.files.all fun f => f.schema.Shielded) = true) : Shows set := by
  cases hb : directBuild { set } with
  | error fault =>
      rw [hb] at h
      cases h
  | ok b =>
      rw [hb] at h
      exact ⟨b, hb, fun f hf => of_decide_eq_true (List.all_eq_true.1 h f hf)⟩

theorem comments_declare_nothing_fire :
    markedSet.records.map Record.bare = silentSet.records.map Record.bare ∧
    ∃ b b', (runOn (build { set := markedSet }) (memoAfter { set := markedSet } [.build])).1 = .ok b ∧
      (runOn (build { set := silentSet }) (memoAfter { set := silentSet } [])).1 = .ok b' ∧
      b.empty = b'.empty ∧ b.aliased = b'.aliased ∧
      List.Forall₂ SameDeclarations b.files b'.files ∧
      (∀ f ∈ b.files, f.schema.Shielded) ∧ ∀ f ∈ b'.files, f.schema.Shielded := by
  have hrecords : markedSet.records.map Record.bare = silentSet.records.map Record.bare := by decide
  have hmarked : Shows markedSet := shows_of_all (by decide +kernel)
  have hsilent : Shows silentSet := shows_of_all (by decide +kernel)
  obtain ⟨b, hb, hshielded⟩ := hmarked
  obtain ⟨b', hb', hshielded'⟩ := hsilent
  have hrun := (build_after { set := markedSet } [.build]).trans hb
  have hrun' := (build_after { set := silentSet } []).trans hb'
  obtain ⟨-, hsame⟩ := comments_declare_nothing { set := markedSet } silentSet hrecords [.build] []
  obtain ⟨hempty, haliased, hfiles⟩ := hsame b b' hrun hrun'
  exact ⟨hrecords, b, b', hrun, hrun', hempty, haliased, hfiles, hshielded, hshielded'⟩

def soleLines (name : String) (fieldComment : Option String) : Option (List String) :=
  (built { set := soleSet name none fieldComment }).toOption.bind fun b =>
    (b.file? name).map fun f => visibleLines f.contents

/-- A comment that holds what ends it declares a field, and any comment on a field brings the field
to light in a record whose name opens a comment. -/
theorem comments_declared :
    soleLines "Fire" none =
      some ["type Fire \x7b", "  optional sint32 range = 1;", "\x7d"] ∧
    soleLines "Fire" (some "*/ optional sint32 forged = 9; /*") =
      some ["type Fire \x7b", "   optional sint32 forged = 9; ", "  optional sint32 range = 1;", "\x7d"] ∧
    soleLines "Fire/*" none = some ["type Fire"] ∧
    soleLines "Fire/*" (some "In metres") =
      some ["type Fire", "  optional sint32 range = 1;", "\x7d"] := by
  decide +kernel

end Project

end RecordIdl
