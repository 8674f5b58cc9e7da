import RecordIdl.Input.Description
import RecordIdl.Proofs.DeclaredNames

namespace RecordIdl

/-- Only lists have a length or may be strings. -/
structure Field.Described (f : Field) : Prop where
  typed : f.typeName ≠ ""
  plain : f.kind.isList = false → f.length = none ∧ f.couldBeString = false

structure Record.Described (r : Record) : Prop where
  named : r.name ≠ ""
  distinct : (r.fields.map Field.name).Nodup
  fields : ∀ f ∈ r.fields, f.Described

def RecordSet.Described (s : RecordSet) : Prop :=
  ∀ r ∈ s.records, r.Described

theorem RecordSet.eq_ok_of_records {ε : Type} {x : Except ε RecordSet} {set : RecordSet}
    (h : x.toOption.map RecordSet.records = some set.records) : x = .ok set := by
  cases x with
  | error e => cases h
  | ok set' =>
      have hsame : set'.records = set.records := Option.some.inj h
      obtain ⟨records, _⟩ := set
      obtain ⟨records', _⟩ := set'
      subst hsame
      rfl

namespace Description

variable {r r' : Record} {draft draft' : FieldDraft} {list list' : ListDraft}
variable {element : String} {attributes : List Xml.Attribute} {event : Xml.Event}
variable {set set' : RecordSet} {place : Place} {s s' : State}

structure FieldDraft.Sound (draft : FieldDraft) : Prop where
  named : ∀ f, draft.field = some f → f.name = draft.name
  described : ∀ f, draft.field = some f → f.Described

structure ListDraft.Sound (list : ListDraft) : Prop where
  isList : list.kind.isList = true
  typed : ∀ typeName, list.typeName = some typeName → typeName ≠ ""

def Place.Sound : Place → Prop
  | outside => True
  | inRecord r => r.Described
  | inField r draft => r.Described ∧ draft.Sound
  | inList r draft list => r.Described ∧ draft.Sound ∧ list.Sound
  | skipping _ back => back.Sound

structure State.Sound (s : State) : Prop where
  set : s.set.Described
  place : s.place.Sound

theorem recordHeader_described (h : recordHeader attributes = .ok r) : r.Described := by
  obtain ⟨values, _, h⟩ := bind_eq_ok_iff.1 h
  split at h
  · cases h
  · next name hname =>
      obtain rfl := Except.ok.inj h
      have hne : name ≠ "" := by simpa using (Option.filter_eq_some_iff.1 hname).2
      exact ⟨hne, List.nodup_nil, by simp⟩

theorem addInitialValue_described (h : r.Described) (v : InitialValue) :
    (r.addInitialValue v).Described :=
  ⟨h.named, h.distinct, h.fields⟩

theorem required_ne {name value : String} (h : required element name attributes = .ok value) :
    value ≠ "" := by
  rw [required] at h
  split at h
  · cases h
  · obtain ⟨v, _, h⟩ := bind_eq_ok_iff.1 h
    split at h
    · cases h
    · next hne =>
        obtain rfl := Except.ok.inj h
        exact hne

theorem typeElement?_cases {kind : FieldKind} {typeName : String}
    (h : typeElement? element attributes = .ok (some (kind, typeName))) :
    kind.isList = false ∧ typeName ≠ "" := by
  rw [typeElement?] at h
  split at h
  · obtain ⟨name, hname, heq⟩ := bind_pure_eq_ok_iff.1 h
    cases heq
    exact ⟨rfl, required_ne hname⟩
  · split at h
    · obtain ⟨name, hname, heq⟩ := bind_pure_eq_ok_iff.1 h
      cases heq
      exact ⟨rfl, required_ne hname⟩
    · cases h

theorem fieldHeader_sound (h : fieldHeader attributes = .ok draft) : draft.Sound := by
  obtain ⟨name, _, h⟩ := bind_eq_ok_iff.1 h
  obtain ⟨comments, _, rfl⟩ := bind_pure_eq_ok_iff.1 h
  exact ⟨by simp, by simp⟩

theorem FieldDraft.read_sound (hdraft : draft.Sound)
    (h : draft.read element attributes = .ok draft') : draft'.Sound := by
  obtain ⟨type, htype, h⟩ := bind_eq_ok_iff.1 h
  split at h
  · next kind typeName =>
      obtain rfl := Except.ok.inj h
      obtain ⟨hkind, hne⟩ := typeElement?_cases htype
      exact ⟨by simp, by simpa using ⟨hne, fun _ => ⟨rfl, rfl⟩⟩⟩
  · obtain rfl := Except.ok.inj h
    exact hdraft

theorem listAttribute_sound {a : Xml.Attribute} (hlist : list.Sound)
    (h : listAttribute list a = .ok list') : list'.Sound := by
  obtain ⟨value, _, h⟩ := bind_eq_ok_iff.1 h
  split at h
  · split at h
    · cases h
    · obtain rfl := Except.ok.inj h
      exact ⟨hlist.isList, hlist.typed⟩
  · split at h
    · split at h
      · obtain rfl := Except.ok.inj h
        exact ⟨hlist.isList, hlist.typed⟩
      · split at h
        · obtain rfl := Except.ok.inj h
          exact ⟨hlist.isList, hlist.typed⟩
        · cases h
    · obtain rfl := Except.ok.inj h
      exact hlist

theorem isList_of_listKind? {kind : FieldKind} (h : listKind? element = some kind) :
    kind.isList = true := by
  rw [listKind?] at h
  split at h
  · exact Option.some.inj h ▸ rfl
  · split at h
    · exact Option.some.inj h ▸ rfl
    · cases h

theorem ListDraft.read_sound (hlist : list.Sound)
    (h : list.read element attributes = .ok list') : list'.Sound := by
  obtain ⟨type, htype, h⟩ := bind_eq_ok_iff.1 h
  split at h
  · next kind typeName =>
      obtain rfl := Except.ok.inj h
      exact ⟨hlist.isList, by simpa using (typeElement?_cases htype).2⟩
  · obtain rfl := Except.ok.inj h
    exact hlist

theorem ListDraft.finish_sound (hlist : list.Sound) (h : list.finish draft = .ok draft') :
    draft'.Sound := by
  rw [ListDraft.finish] at h
  split at h
  · cases h
  · next typeName htype =>
      obtain rfl := Except.ok.inj h
      refine ⟨by simp, ?_⟩
      rintro f hf
      obtain rfl := Option.some.inj hf
      exact ⟨hlist.typed _ htype, by simp [hlist.isList]⟩

theorem addField_described {f : Field} (hr : r.Described) (hf : f.Described)
    (hfresh : f.name ∉ r.fields.map Field.name) : (r.addField f).Described := by
  refine ⟨hr.named, Record.nodup_addField hr.distinct hfresh, ?_⟩
  intro g hg
  rcases List.mem_append.1 hg with hg | hg
  · exact hr.fields g hg
  · exact List.mem_singleton.1 hg ▸ hf

theorem FieldDraft.finish_described (hr : r.Described) (hdraft : draft.Sound)
    (h : draft.finish r = .ok r') : r'.Described := by
  rw [FieldDraft.finish] at h
  split at h
  · cases h
  · next f hf =>
      split at h
      · cases h
      · next hnone =>
          obtain rfl := Except.ok.inj h
          -- The name is looked up under that of the draft, which is the field's.
          have hfresh : f.name ∉ r.fields.map Field.name := by
            simpa [Record.field?, hdraft.named f hf] using hnone
          obtain ⟨htyped, hplain⟩ := hdraft.described f hf
          exact addField_described hr ⟨htyped, hplain⟩ hfresh

theorem records_addRecord (h : addRecord set r = .ok set') : set'.records = set.records ++ [r] := by
  rw [addRecord] at h
  split at h
  · next added hadd =>
      obtain rfl := Except.ok.inj h
      rw [RecordSet.add?] at hadd
      split at hadd
      · cases hadd
      · exact Option.some.inj hadd ▸ rfl
  · cases h

theorem addRecord_described (hset : set.Described) (hr : r.Described)
    (h : addRecord set r = .ok set') : set'.Described := by
  intro q hq
  rw [records_addRecord h] at hq
  rcases List.mem_append.1 hq with hq | hq
  · exact hset q hq
  · exact List.mem_singleton.1 hq ▸ hr

theorem inRecord_sound (hr : r.Described) (h : inRecord r event = .ok place) : place.Sound := by
  cases event with
  | start element attributes =>
      rw [inRecord] at h
      split at h
      · obtain ⟨draft, hdraft, rfl⟩ := bind_pure_eq_ok_iff.1 h
        exact ⟨hr, fieldHeader_sound hdraft⟩
      · split at h
        · obtain ⟨v, _, rfl⟩ := bind_pure_eq_ok_iff.1 h
          exact addInitialValue_described hr v
        · obtain rfl := Except.ok.inj h
          exact hr
  | empty element attributes =>
      rw [inRecord] at h
      split at h
      · obtain ⟨_, _, h⟩ := bind_eq_ok_iff.1 h
        cases h
      · split at h
        · obtain ⟨v, _, rfl⟩ := bind_pure_eq_ok_iff.1 h
          exact addInitialValue_described hr v
        · obtain rfl := Except.ok.inj h
          exact hr
  | close | other =>
      obtain rfl := Except.ok.inj h
      exact hr

theorem inField_sound (hr : r.Described) (hdraft : draft.Sound)
    (h : inField r draft event = .ok place) : place.Sound := by
  cases event with
  | start element attributes =>
      rw [inField] at h
      split at h
      · next kind hkind =>
          obtain ⟨list, hlist, rfl⟩ := bind_pure_eq_ok_iff.1 h
          -- Of a list's attributes none makes it another kind or gives it a type.
          have hstart : ListDraft.Sound { element, kind } :=
            ⟨isList_of_listKind? hkind, by simp⟩
          exact ⟨hr, hdraft, foldlM_keeps (fun _ _ _ => listAttribute_sound) hstart hlist⟩
      · obtain ⟨draft', hdraft', rfl⟩ := bind_pure_eq_ok_iff.1 h
        exact ⟨hr, FieldDraft.read_sound hdraft hdraft'⟩
  | empty element attributes =>
      rw [inField] at h
      split at h
      · cases h
      · obtain ⟨draft', hdraft', rfl⟩ := bind_pure_eq_ok_iff.1 h
        exact ⟨hr, FieldDraft.read_sound hdraft hdraft'⟩
  | close =>
      obtain ⟨r', hr', rfl⟩ := bind_pure_eq_ok_iff.1 h
      exact FieldDraft.finish_described hr hdraft hr'
  | other =>
      obtain rfl := Except.ok.inj h
      exact ⟨hr, hdraft⟩

theorem inList_sound (hr : r.Described) (hdraft : draft.Sound) (hlist : list.Sound)
    (h : inList r draft list event = .ok place) : place.Sound := by
  cases event with
  | start element attributes | empty element attributes =>
      obtain ⟨list', hlist', rfl⟩ := bind_pure_eq_ok_iff.1 h
      exact ⟨hr, hdraft, ListDraft.read_sound hlist hlist'⟩
  | close =>
      obtain ⟨draft', hdraft', rfl⟩ := bind_pure_eq_ok_iff.1 h
      exact ⟨hr, ListDraft.finish_sound hlist hdraft'⟩
  | other =>
      obtain rfl := Except.ok.inj h
      exact ⟨hr, hdraft, hlist⟩

theorem skipping_sound {depth : Nat} (h : place.Sound) : (skipping depth place event).Sound := by
  cases event with
  | close => cases depth <;> exact h
  | start | empty | other => exact h

theorem outside_sound (hset : set.Described) (h : outside set event = .ok s) : s.Sound := by
  cases event with
  | start element attributes =>
      rw [outside] at h
      split at h
      · obtain ⟨r, hr, rfl⟩ := bind_pure_eq_ok_iff.1 h
        exact ⟨hset, recordHeader_described hr⟩
      · obtain rfl := Except.ok.inj h
        exact ⟨hset, trivial⟩
  | empty element attributes =>
      rw [outside] at h
      split at h
      · obtain ⟨r, hr, h⟩ := bind_eq_ok_iff.1 h
        obtain ⟨set', hset', rfl⟩ := bind_pure_eq_ok_iff.1 h
        exact ⟨addRecord_described hset (recordHeader_described hr) hset', trivial⟩
      · obtain rfl := Except.ok.inj h
        exact ⟨hset, trivial⟩
  | close | other =>
      obtain rfl := Except.ok.inj h
      exact ⟨hset, trivial⟩

theorem step_sound (hs : s.Sound) (h : step s event = .ok s') : s'.Sound := by
  obtain ⟨set, place⟩ := s
  obtain ⟨hset, hplace⟩ := hs
  cases place with
  | outside => exact outside_sound hset h
  | inRecord r =>
      cases event with
      | close =>
          obtain ⟨set', hset', rfl⟩ := bind_pure_eq_ok_iff.1 h
          exact ⟨addRecord_described hset hplace hset', trivial⟩
      | start | empty | other =>
          obtain ⟨place', hplace', rfl⟩ := bind_pure_eq_ok_iff.1 h
          exact ⟨hset, inRecord_sound hplace hplace'⟩
  | inField r draft =>
      obtain ⟨place', hplace', rfl⟩ := bind_pure_eq_ok_iff.1 h
      exact ⟨hset, inField_sound hplace.1 hplace.2 hplace'⟩
  | inList r draft list =>
      obtain ⟨place', hplace', rfl⟩ := bind_pure_eq_ok_iff.1 h
      exact ⟨hset, inList_sound hplace.1 hplace.2.1 hplace.2.2 hplace'⟩
  | skipping depth back =>
      obtain rfl := Except.ok.inj h
      exact ⟨hset, skipping_sound hplace⟩

theorem described_of_read {feed : Xml.Feed Xml.Event} (h : read feed = .ok set) :
    set.Described := by
  obtain ⟨s, hrun, hfinish⟩ := bind_eq_ok_iff.1 h
  have hstart : State.Sound ⟨.empty, .outside⟩ :=
    ⟨by simp [RecordSet.Described, RecordSet.empty], trivial⟩
  have hs : s.Sound := foldlM_keeps (fun _ _ _ => step_sound) hstart hrun
  rw [finish.eq_def] at hfinish
  split at hfinish
  · cases hfinish
  · cases hfinish
  · exact Except.ok.inj hfinish ▸ hs.set

end Description

namespace Consistency

variable {l : Lineage} {r : Record} {fault : ModelFault}

theorem checkFields_eq_error {record : String} {seen : List String} {fs : List Field}
    (h : checkFields record seen fs = .error fault) (htyped : ∀ f ∈ fs, f.typeName ≠ "")
    (hdistinct : (fs.map Field.name).Nodup) (hseen : ∀ f ∈ fs, f.name ∉ seen) :
    fault = .unnamedField record ∧ ∃ f ∈ fs, f.name = "" := by
  induction fs generalizing seen with
  | nil => cases h
  | cons f fs ih =>
      obtain ⟨hf, htyped⟩ := List.forall_mem_cons.1 htyped
      obtain ⟨hfresh, hdistinct⟩ := List.nodup_cons.1 hdistinct
      obtain ⟨hnew, hseen⟩ := List.forall_mem_cons.1 hseen
      rw [checkFields] at h
      by_cases hname : f.name = ""
      · rw [if_pos hname] at h
        exact ⟨(Except.error.inj h).symm, f, List.mem_cons_self, hname⟩
      · rw [if_neg hname, if_neg hf, if_neg hnew] at h
        have hseen' : ∀ g ∈ fs, g.name ∉ f.name :: seen := by
          intro g hg hmem
          rcases List.mem_cons.1 hmem with heq | hmem
          · exact hfresh (heq ▸ List.mem_map_of_mem hg)
          · exact hseen g hg hmem
        obtain ⟨hfault, g, hg, hempty⟩ := ih h htyped hdistinct hseen'
        exact ⟨hfault, g, List.mem_cons_of_mem f hg, hempty⟩

theorem checkPduType_eq_error (h : checkPduType r = .error fault) :
    ∃ raw, r.pduType? = some raw ∧ Text.signed64? (Text.trim raw) = none ∧
      fault = .badPduType r.name raw := by
  rw [checkPduType] at h
  split at h
  · cases h
  · next raw hraw =>
      split at h
      · cases h
      · next hnone => exact ⟨raw, hraw, hnone, (Except.error.inj h).symm⟩

theorem checkAncestry_eq_error (h : checkAncestry l r = .error fault) :
    ∃ path, l.ancestry r = .loops path ∧ fault = .cyclicInheritance path := by
  rw [checkAncestry] at h
  split at h
  · cases h
  · next path hpath => exact ⟨path, hpath, (Except.error.inj h).symm⟩

theorem check_eq_error (h : check l = .error fault) :
    ∃ r ∈ l.set.records, checkRecord l r = .error fault := by
  rw [check, List.forM_eq_forM] at h
  exact exists_of_forM_eq_error h

end Consistency

namespace Description

/-- Whatever the text and the roots, the checks of the records read from it find no field without
a type and none that is there twice. -/
theorem parsed_records_described (xml : String) (set : RecordSet) (h : parse xml = .ok set) :
    set.names.Nodup ∧ set.Described ∧
    ∀ roots fault, Consistency.check ⟨set, roots⟩ = .error fault → ∃ r ∈ set.records,
      (fault = .unnamedField r.name ∧ ∃ f ∈ r.fields, f.name = "") ∨
      (∃ raw, fault = .badPduType r.name raw ∧ r.pduType? = some raw ∧
        Text.signed64? (Text.trim raw) = none) ∨
      ∃ path, fault = .cyclicInheritance path ∧ (Lineage.mk set roots).ancestry r = .loops path := by
  have hset : set.Described := described_of_read h
  refine ⟨set.distinct, hset, ?_⟩
  intro roots fault hcheck
  obtain ⟨r, hr, hrecord⟩ := Consistency.check_eq_error hcheck
  refine ⟨r, hr, ?_⟩
  obtain ⟨_, hdistinct, hfields⟩ := hset r hr
  rcases bind_eq_error_iff.1 hrecord with hfault | ⟨_, _, hrecord⟩
  · have htyped : ∀ f ∈ r.fields, f.typeName ≠ "" := fun f hf => (hfields f hf).typed
    exact .inl (Consistency.checkFields_eq_error hfault htyped hdistinct (by simp))
  rcases bind_eq_error_iff.1 hrecord with hfault | ⟨_, _, hfault⟩
  · obtain ⟨raw, hraw, hnone, rfl⟩ := Consistency.checkPduType_eq_error hfault
    exact .inr (.inl ⟨raw, rfl, hraw, hnone⟩)
  · obtain ⟨path, hpath, rfl⟩ := Consistency.checkAncestry_eq_error hfault
    exact .inr (.inr ⟨path, rfl, hpath⟩)

def loopText : String :=
  "<class name='A' inheritsFrom='B'><attribute name=''><primitivelist length='2'>" ++
  "<primitive type='byte'/></primitivelist></attribute></class><class name='B' inheritsFrom='A'/>"

def unnamedList : Field where
  name := ""
  typeName := "byte"
  kind := .fixedList
  length := some 2

/-- An unnamed field and a loop pass the reading. -/
def loopSet : RecordSet :=
  ⟨[{ name := "A", parent := "B", fields := [unnamedList] }, { name := "B", parent := "A" }],
    by decide⟩

theorem parsed_records_described_loop :
    parse loopText = .ok loopSet ∧ loopSet.Described ∧
    Consistency.check ⟨loopSet, []⟩ = .error (.unnamedField "A") ∧
    ∃ r ∈ loopSet.records,
      (ModelFault.unnamedField "A" = .unnamedField r.name ∧ ∃ f ∈ r.fields, f.name = "") ∨
      (∃ raw, ModelFault.unnamedField "A" = .badPduType r.name raw ∧ r.pduType? = some raw ∧
        Text.signed64? (Text.trim raw) = none) ∨
      ∃ path, ModelFault.unnamedField "A" = .cyclicInheritance path ∧
        (Lineage.mk loopSet []).ancestry r = .loops path := by
  have hparse : parse loopText = .ok loopSet := RecordSet.eq_ok_of_records (by decide +kernel)
  have hcheck : Consistency.check ⟨loopSet, []⟩ = .error (.unnamedField "A") := by
    decide +kernel
  have h := parsed_records_described loopText loopSet hparse
  exact ⟨hparse, h.2.1, hcheck, h.2.2 [] _ hcheck⟩

end Description

end RecordIdl
