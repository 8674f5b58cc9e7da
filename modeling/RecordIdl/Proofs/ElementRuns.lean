import RecordIdl.Proofs.ElementTree
import RecordIdl.Proofs.ExceptSequence

namespace RecordIdl

namespace Description

open Xml

variable {set : RecordSet} {r : Record} {draft : FieldDraft} {list : ListDraft} {back : Place}

def run (s : State) (events : List Event) : Option State :=
  (events.foldlM step s).toOption

theorem run_cons (s : State) (event : Event) (events : List Event) :
    run s (event :: events) = (step s event).toOption.bind (run · events) := by
  rw [run, List.foldlM_cons, toOption_bind]
  rfl

theorem run_append (s : State) (events events' : List Event) :
    run s (events ++ events') = (run s events).bind (run · events') := by
  rw [run, List.foldlM_append, toOption_bind]
  rfl

theorem run_singleton (s : State) (event : Event) : run s [event] = (step s event).toOption := by
  rw [run_cons]
  cases step s event <;> rfl

/-- A run over a forest is a fold over its elements if each of them is taken in as a whole. -/
theorem run_events {α : Type} {s : α → State} {body : α → Element → Option α}
    (hother : ∀ a, run (s a) [.other] = some (s a))
    (hsingle : ∀ a name attributes,
      run (s a) [.empty name attributes] = (body a { name, attributes }).map s)
    (helement : ∀ a name attributes content,
      run (s a) (.start name attributes :: (content.events ++ [.close name])) =
        (body a { name, attributes, content }).map s)
    (f : Forest) (a : α) : run (s a) f.events = (f.elements.foldlM body a).map s := by
  induction f generalizing a with
  | nil => rfl
  | other rest ih =>
      have h := run_append (s a) [.other] rest.events
      rw [hother] at h
      exact h.trans (ih a)
  | single name attributes rest ih =>
      have h := run_append (s a) [.empty name attributes] rest.events
      rw [hsingle] at h
      refine h.trans ?_
      rw [Forest.elements, List.foldlM_cons]
      cases body a { name, attributes } with
      | none => rfl
      | some b => exact ih b
  | element name attributes content rest _ ih =>
      have hevents : (Forest.element name attributes content rest).events =
          (.start name attributes :: (content.events ++ [.close name])) ++ rest.events := by
        simp [Forest.events]
      rw [hevents, run_append, helement, Forest.elements, List.foldlM_cons]
      cases body a { name, attributes, content } with
      | none => rfl
      | some b => exact ih b

theorem run_skipping (f : Forest) (depth : Nat) :
    run ⟨set, .skipping depth back⟩ f.events = some ⟨set, .skipping depth back⟩ := by
  induction f generalizing depth with
  | nil => rfl
  | other rest ih | single name attributes rest ih => exact ih depth
  | element name attributes content rest ihc ihr =>
      rw [Forest.events, run_cons]
      change run ⟨set, .skipping (depth + 1) back⟩
        (content.events ++ .close name :: rest.events) = _
      rw [run_append, ihc]
      exact ihr depth

theorem run_skipped (content : Forest) (name : String) :
    run ⟨set, .skipping 0 back⟩ (content.events ++ [.close name]) = some ⟨set, back⟩ := by
  rw [run_append, run_skipping]
  rfl

/-- An element whose content is read in a place of its own does what its start tag, the elements
inside it and its end tag do in turn. -/
theorem run_start_content {α β : Type} {s : State} {t : α → State} {u : β → State}
    {x : Except InputFault α} {body : α → Element → Option α} {finish : α → Except InputFault β}
    {name : String} {attributes : List Attribute} {content : Forest}
    (hstart : step s (.start name attributes) = x >>= fun a => pure (t a))
    (hcontent : ∀ a, run (t a) content.events = (content.elements.foldlM body a).map t)
    (hclose : ∀ a, step (t a) (.close name) = finish a >>= fun b => pure (u b)) :
    run s (.start name attributes :: (content.events ++ [.close name])) =
      (x.toOption.bind fun a => (content.elements.foldlM body a).bind fun a =>
        (finish a).toOption).map u := by
  rw [run_cons, hstart, toOption_bind_pure]
  cases x with
  | error e => rfl
  | ok a =>
      change run (t a) (content.events ++ [.close name]) =
        ((content.elements.foldlM body a).bind fun a => (finish a).toOption).map u
      rw [run_append, hcontent]
      cases content.elements.foldlM body a with
      | none => rfl
      | some b =>
          change run (t b) [.close name] = (finish b).toOption.map u
          rw [run_singleton, hclose, toOption_bind_pure]

theorem run_start_skipped {s : State} {α : Type} {p : α → Place} {x : Except InputFault α}
    {name : String} {attributes : List Attribute} (content : Forest)
    (hstep : step s (.start name attributes) =
      x >>= fun a => pure ⟨set, .skipping 0 (p a)⟩) :
    run s (.start name attributes :: (content.events ++ [.close name])) =
      x.toOption.map fun a => ⟨set, p a⟩ := by
  rw [run_cons, hstep, toOption_bind_pure]
  cases x with
  | error e => rfl
  | ok a => exact run_skipped content name

def readInList (list : ListDraft) (e : Element) : Option ListDraft :=
  (list.read e.name e.attributes).toOption

theorem run_inList (f : Forest) (list : ListDraft) :
    run ⟨set, .inList r draft list⟩ f.events =
      (f.elements.foldlM readInList list).map fun list => ⟨set, .inList r draft list⟩ := by
  refine run_events (s := fun list => ⟨set, .inList r draft list⟩) ?_ ?_ ?_ f list
  · exact fun _ => rfl
  · intro list name attributes
    rw [run_singleton, readInList]
    simp only [step, inList]
    cases list.read name attributes <;> rfl
  · intro list name attributes content
    refine run_start_skipped (p := fun list => .inList r draft list) content ?_
    simp [step, inList]

def readInField (draft : FieldDraft) (e : Element) : Option FieldDraft :=
  match listKind? e.name with
  | some kind => do
    let list ← (e.attributes.foldlM listAttribute { element := e.name, kind }).toOption
    let list ← e.content.elements.foldlM readInList list
    (list.finish draft).toOption
  | none => (draft.read e.name e.attributes).toOption

theorem typeName_listAttributes {attributes : List Attribute} {list list' : ListDraft}
    (h : attributes.foldlM listAttribute list = .ok list') : list'.typeName = list.typeName := by
  refine foldlM_keeps (P := fun l => l.typeName = list.typeName) ?_ rfl h
  intro l a l' hl hstep
  obtain ⟨value, _, hstep⟩ := bind_eq_ok_iff.1 hstep
  split at hstep
  · split at hstep
    · cases hstep
    · exact Except.ok.inj hstep ▸ hl
  · split at hstep
    · split at hstep
      · exact Except.ok.inj hstep ▸ hl
      · split at hstep
        · exact Except.ok.inj hstep ▸ hl
        · cases hstep
    · exact Except.ok.inj hstep ▸ hl

theorem readInField_list_single {draft : FieldDraft} {name : String} {attributes : List Attribute}
    {kind : FieldKind} (h : listKind? name = some kind) :
    readInField draft { name, attributes } = none := by
  simp only [readInField, h]
  cases hlist : attributes.foldlM listAttribute { element := name, kind } with
  | error e => rfl
  | ok list =>
      have htype : list.typeName = none := typeName_listAttributes hlist
      have hfinish : (list.finish draft).toOption = none := by
        rw [ListDraft.finish, htype]
        rfl
      exact hfinish

theorem run_inField (f : Forest) (draft : FieldDraft) :
    run ⟨set, .inField r draft⟩ f.events =
      (f.elements.foldlM readInField draft).map fun draft => ⟨set, .inField r draft⟩ := by
  refine run_events (s := fun draft => ⟨set, .inField r draft⟩) ?_ ?_ ?_ f draft
  · exact fun _ => rfl
  · intro draft name attributes
    rw [run_singleton]
    cases hkind : listKind? name with
    | some kind =>
        rw [readInField_list_single hkind]
        simp only [step, inField, hkind]
        rfl
    | none =>
        simp only [readInField, hkind, step, inField]
        cases draft.read name attributes <;> rfl
  · intro draft name attributes content
    cases hkind : listKind? name with
    | some kind =>
        have hstart : step ⟨set, .inField r draft⟩ (.start name attributes) =
            attributes.foldlM listAttribute { element := name, kind } >>= fun list =>
              pure ⟨set, .inList r draft list⟩ := by
          simp [step, inField, hkind]
        have hclose : ∀ list, step ⟨set, .inList r draft list⟩ (.close name) =
            ListDraft.finish list draft >>= fun draft => pure ⟨set, .inField r draft⟩ := by
          intro list
          simp [step, inList]
        rw [run_start_content hstart (run_inList content) hclose]
        simp only [readInField, hkind]
        rfl
    | none =>
        simp only [readInField, hkind]
        refine run_start_skipped (p := fun draft => .inField r draft) content ?_
        simp [step, inField, hkind]

def readInRecord (r : Record) (e : Element) : Option Record :=
  if e.name = "attribute" then do
    let draft ← (fieldHeader e.attributes).toOption
    let draft ← e.content.elements.foldlM readInField draft
    (draft.finish r).toOption
  else if e.name = "initialValue" then
    (initialValue e.attributes).toOption.map r.addInitialValue
  else some r

theorem run_inRecord (f : Forest) (r : Record) :
    run ⟨set, .inRecord r⟩ f.events =
      (f.elements.foldlM readInRecord r).map fun r => ⟨set, .inRecord r⟩ := by
  refine run_events (s := fun r => ⟨set, .inRecord r⟩) ?_ ?_ ?_ f r
  · exact fun _ => rfl
  · intro r name attributes
    rw [run_singleton]
    simp only [readInRecord, step, inRecord]
    by_cases hfield : name = "attribute"
    -- A field of one tag is refused for want of a type, so its comments need not be read.
    · simp only [if_pos hfield, fieldHeader, Forest.elements]
      cases fieldName attributes with
      | error e => rfl
      | ok fieldName => cases (attributes.filter (·.name = "comment")).mapM value <;> rfl
    · simp only [if_neg hfield]
      by_cases hvalue : name = "initialValue"
      · simp only [if_pos hvalue]
        cases initialValue attributes <;> rfl
      · simp only [if_neg hvalue]
        rfl
  · intro r name attributes content
    by_cases hfield : name = "attribute"
    · have hstart : step ⟨set, .inRecord r⟩ (.start name attributes) =
          fieldHeader attributes >>= fun draft => pure ⟨set, .inField r draft⟩ := by
        simp [step, inRecord, hfield]
      have hclose : ∀ draft, step ⟨set, .inField r draft⟩ (.close name) =
          FieldDraft.finish draft r >>= fun r => pure ⟨set, .inRecord r⟩ := by
        intro draft
        simp [step, inField]
      rw [run_start_content hstart (run_inField content) hclose, readInRecord, if_pos hfield]
      rfl
    · by_cases hvalue : name = "initialValue"
      · have hstep : step ⟨set, .inRecord r⟩ (.start name attributes) =
            initialValue attributes >>= fun v =>
              pure ⟨set, .skipping 0 (.inRecord (r.addInitialValue v))⟩ := by
          simp [step, inRecord, hvalue]
        have h := run_start_skipped (p := fun v => .inRecord (r.addInitialValue v)) content hstep
        rw [h, readInRecord, if_neg hfield, if_pos hvalue, Option.map_map]
        rfl
      · have hstep : step ⟨set, .inRecord r⟩ (.start name attributes) =
            (pure () : Except InputFault Unit) >>= fun _ =>
              pure ⟨set, .skipping 0 (.inRecord r)⟩ := by
          simp [step, inRecord, hfield, hvalue]
        have h := run_start_skipped (p := fun _ => .inRecord r) content hstep
        rw [h, readInRecord, if_neg hfield, if_neg hvalue]
        rfl

def readClass (set : RecordSet) (e : Element) : Option RecordSet := do
  let r ← (recordHeader e.attributes).toOption
  let r ← e.content.elements.foldlM readInRecord r
  (addRecord set r).toOption

theorem run_class_single (set : RecordSet) (attributes : List Attribute) :
    run ⟨set, .outside⟩ [.empty "class" attributes] =
      (readClass set { name := "class", attributes }).map fun set => ⟨set, .outside⟩ := by
  rw [run_singleton]
  simp only [readClass, step, outside, if_pos]
  cases recordHeader attributes with
  | error e => rfl
  | ok r =>
      change (addRecord set r >>= fun set => pure _).toOption = _
      rw [toOption_bind_pure]
      rfl

theorem run_class (set : RecordSet) (attributes : List Attribute) (content : Forest) :
    run ⟨set, .outside⟩ (.start "class" attributes :: (content.events ++ [.close "class"])) =
      (readClass set { name := "class", attributes, content }).map fun set => ⟨set, .outside⟩ := by
  have hstart : step ⟨set, .outside⟩ (.start "class" attributes) =
      recordHeader attributes >>= fun r => pure ⟨set, .inRecord r⟩ := by
    simp [step, outside]
  have hclose : ∀ r, step ⟨set, .inRecord r⟩ (.close "class") =
      addRecord set r >>= fun set => pure ⟨set, .outside⟩ := by
    intro r
    simp [step]
  rw [run_start_content hstart (run_inRecord content) hclose]
  rfl

theorem run_outside (f : Forest) (set : RecordSet) :
    run ⟨set, .outside⟩ f.events =
      ((f.outermost "class").foldlM readClass set).map fun set => ⟨set, .outside⟩ := by
  induction f generalizing set with
  | nil => rfl
  | other rest ih => exact ih set
  | single name attributes rest ih =>
      rw [Forest.outermost]
      split
      · next hname =>
          subst hname
          have h := run_append ⟨set, .outside⟩ [.empty "class" attributes] rest.events
          rw [run_class_single] at h
          refine h.trans ?_
          rw [List.foldlM_cons]
          cases readClass set { name := "class", attributes } with
          | none => rfl
          | some set' => exact ih set'
      · next hname =>
          rw [Forest.events, run_cons]
          simp only [step, outside, if_neg hname]
          exact ih set
  | element name attributes content rest ihc ihr =>
      rw [Forest.outermost]
      by_cases hname : name = "class"
      · subst hname
        have hevents : (Forest.element "class" attributes content rest).events =
            (.start "class" attributes :: (content.events ++ [.close "class"])) ++ rest.events := by
          simp [Forest.events]
        rw [hevents, run_append, run_class, if_pos rfl, List.foldlM_cons]
        cases readClass set { name := "class", attributes, content } with
        | none => rfl
        | some set' => exact ihr set'
      · rw [if_neg hname, List.foldlM_append, Forest.events, run_cons]
        simp only [step, outside, if_neg hname]
        change run ⟨set, .outside⟩ (content.events ++ .close name :: rest.events) = _
        rw [run_append, ihc]
        cases (content.outermost "class").foldlM readClass set with
        | none => rfl
        | some set' => exact ihr set'

theorem read_events (f : Forest) :
    (read ⟨f.events, none⟩).toOption = (f.outermost "class").foldlM readClass .empty := by
  rw [read, toOption_bind]
  change (run ⟨.empty, .outside⟩ f.events).bind _ = _
  rw [run_outside]
  cases (f.outermost "class").foldlM readClass .empty <;> rfl

end Description

end RecordIdl
