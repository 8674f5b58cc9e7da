import RecordIdl.Proofs.DeclaredTypes
import RecordIdl.Proofs.FieldNumbers

namespace RecordIdl

theorem intercalate_append_eq_join (sep : String) {xs : List String} (hxs : xs ≠ [])
    (ys : List String) :
    sep.intercalate (xs ++ ys) = sep.intercalate xs ++ String.join (ys.map (sep ++ ·)) := by
  induction ys generalizing xs with
  | nil => simp
  | cons y ys ih =>
      have hy : xs ++ [y] ≠ [] := by simp
      calc sep.intercalate (xs ++ y :: ys)
          = sep.intercalate ((xs ++ [y]) ++ ys) := by rw [List.append_assoc, List.singleton_append]
        _ = sep.intercalate (xs ++ [y]) ++ String.join (ys.map (sep ++ ·)) := ih hy
        _ = sep.intercalate xs ++ (sep ++ y) ++ String.join (ys.map (sep ++ ·)) := by
            rw [String.intercalate_append_of_ne_nil hxs (List.cons_ne_nil y []),
              String.intercalate_singleton, String.append_assoc, String.append_assoc,
              String.append_assoc, String.append_assoc]
        _ = sep.intercalate xs ++ String.join ((y :: ys).map (sep ++ ·)) := by
            rw [List.map_cons, String.join_cons, String.append_assoc]

namespace Body

open Pruning

variable {l : Lineage} {s : RecordSet} {o : Overrides} {record : String} {r : Record}
variable {parent : Option String} {f : Field} {number : Nat}

theorem wraps_iff : wraps o record f = true ↔
    f.kind.isList = true ∧ o.standsFor record f ∉ ["byte", "unsigned byte"] := by
  rw [wraps, Bool.and_eq_true, Bool.not_eq_true', ← Bool.not_eq_true, Overrides.target_resolution,
    SchemaType.isByte_ofName_iff]

/-- The list of a field that is declared has elements that are no single bytes. -/
def IsWrapped (s : RecordSet) (o : Overrides) (record : String) (f : Field) : Prop :=
  ¬ LeftOut s o record f ∧ f.kind.isList = true ∧
    o.standsFor record f ∉ ["byte", "unsigned byte"]

instance : Decidable (IsWrapped s o record f) :=
  inferInstanceAs (Decidable (_ ∧ _))

theorem wrappers_direct (parent : Option String) :
    (direct s o r parent).wrappers =
      (r.fields.filter fun f => IsWrapped s o r.name f).map (wrapperOf o r.name) := by
  have hwrapped : (fun f => wraps o r.name f && writes s o r.name f) =
      fun f => decide (IsWrapped s o r.name f) := by
    funext f
    rw [Bool.eq_iff_iff, Bool.and_eq_true, wraps_iff, writes_eq, decide_eq_true_iff,
      decide_eq_true_iff, IsWrapped, and_comm]
  rw [direct, wrappers_directEntries, List.filter_filter, hwrapped]

theorem text_wrapped (hf : IsWrapped s o record f) :
    (fieldLine o record f number).text = "optional " ++ (wrapperOf o record f).name ++ " " ++
      Spelling.snakeCase f.name ++ "_list = " ++ toString number ++ ";" := by
  have hwraps : wraps o record f = true := wraps_iff.2 hf.2
  have hlist : "_list = " = "_list" ++ " = " := rfl
  rw [Declaration.text, fieldLine, declaredType, declaredName, if_pos hwraps, if_pos hwraps,
    wrapperOf, hlist]
  simp only [String.append_assoc]

theorem text_bytes (hkind : f.kind.isList = true) (hkept : ¬ LeftOut s o record f)
    (hf : ¬ IsWrapped s o record f) :
    (fieldLine o record f number).text = "optional " ++
      (if f.couldBeString then "string" else "bytes") ++ " " ++ Spelling.snakeCase f.name ++
      " = " ++ toString number ++ ";" := by
  have hwraps : ¬ wraps o record f = true := fun h => hf ⟨hkept, wraps_iff.1 h⟩
  rw [Declaration.text, fieldLine, declaredType, declaredName, if_neg hwraps, if_neg hwraps,
    if_pos hkind, String.append_empty]

end Body

namespace SchemaItem

def wrapperText (w : Wrapper) : String :=
  "\ntype " ++ w.name ++ " \x7b\n  list<" ++ w.elementType ++ "> " ++
    Spelling.snakeCase w.fieldName ++ " = 1;\n\x7d\n"

theorem text_wrapper (w : Wrapper) : "\n" ++ (wrapper w).text = wrapperText w := by
  apply String.toList_injective
  simp [text, block, declared, Wrapper.content, wrapperText]

/-- In every role the declaration of the record stands before the wrappers, and only a component
that carries it before that. -/
theorem ofRecord_split (name : String) (d : Designation) (b : Body) :
    ∃ front item, ofRecord name d b = front ++ item :: b.wrappers.map wrapper ∧
      item.declared = name ∧ item.part = .own ∧ ∀ i ∈ front, i.part = .carrier := by
  cases hrole : d.role with
  | plain =>
      refine ⟨[], .type name (if d.isUnmappedCommand then some d.id else none) b.declarations,
        ?_, rfl, rfl, by simp⟩
      rw [ofRecord, hrole]
      rfl
  | component =>
      refine ⟨[], .component name d.id b.declarations, ?_, rfl, rfl, by simp⟩
      rw [ofRecord, hrole]
      rfl
  | event =>
      refine ⟨[.event name d.id], .type name none b.declarations, ?_, rfl, rfl, by simp [part]⟩
      rw [ofRecord, hrole]
      rfl
  | command response =>
      refine ⟨[.command name d.id response], .type name (some d.id) b.declarations, ?_, rfl, rfl,
        by simp [part]⟩
      rw [ofRecord, hrole]
      rfl

end SchemaItem

theorem SchemaFile.text_append_wrappers {s : SchemaFile} {own : List SchemaItem}
    {ws : List Wrapper} (hown : own ≠ []) (hs : s.items = own ++ ws.map .wrapper) :
    s.text = text { s with items := own } ++ String.join (ws.map SchemaItem.wrapperText) := by
  have hws : ((ws.map SchemaItem.wrapper).map SchemaItem.text).map ("\n" ++ ·) =
      ws.map SchemaItem.wrapperText := by
    rw [List.map_map, List.map_map]
    exact List.map_congr_left fun w _ => SchemaItem.text_wrapper w
  have hne : own.map SchemaItem.text ≠ [] := by simpa using hown
  rw [text, text, hs, List.map_append, intercalate_append_eq_join "\n" hne, hws,
    ← String.append_assoc]

namespace Project

open Pruning

/-- Every list that is declared and not of bytes has one wrapper, by its name, the type that stands
for its elements and its field, and no other field has one. The lines of lists use the wrappers or
declare text or bytes, and the file of the record declares the wrappers in the same order behind
the record, whatever its role. -/
theorem list_wrappers_declared (p : Project) (hl : Consistency.check p.lineage = .ok ())
    (r : Record) :
    (∀ parent, ∃ b, Body.Emits p.lineage p.overrides r parent b ∧
      b.wrappers = (r.fields.filter fun f => Body.IsWrapped p.set p.overrides r.name f).map
        (fun f => ⟨Spelling.wrapperName r.name f.name,
          (SchemaType.ofName (p.overrides.standsFor r.name f)).name, f.name⟩) ∧
      (∀ i f, r.fields[i]? = some f → Body.IsWrapped p.set p.overrides r.name f →
        ∃ d ∈ b.declarations, d.number = Body.firstNumber parent + i ∧
          d.text = "optional " ++ Spelling.wrapperName r.name f.name ++ " " ++
            Spelling.snakeCase f.name ++ "_list = " ++ toString d.number ++ ";") ∧
      ∀ i f, r.fields[i]? = some f → f.kind.isList = true →
        ¬ Body.LeftOut p.set p.overrides r.name f →
        ¬ Body.IsWrapped p.set p.overrides r.name f →
        ∃ d ∈ b.declarations, d.number = Body.firstNumber parent + i ∧
          d.text = "optional " ++ (if f.couldBeString then "string" else "bytes") ++ " " ++
            Spelling.snakeCase f.name ++ " = " ++ toString d.number ++ ";") ∧
    ∀ calls schema, (runOn (p.fate r) (p.memoAfter calls)).1 = .ok (.file schema) →
      ∃ b front item,
        Body.Emits p.lineage p.overrides r ((p.lineage.parentOf? r.name).map p.superType) b ∧
        schema.items = front ++ item :: b.wrappers.map .wrapper ∧
        item.declared = r.name ∧ item.part = .own ∧ (∀ i ∈ front, i.part = .carrier) ∧
        schema.text = SchemaFile.text { schema with items := front ++ [item] } ++
          String.join (b.wrappers.map SchemaItem.wrapperText) := by
  constructor
  · intro parent
    have hwrapper (f : Field) : Body.wrapperOf p.overrides r.name f =
        ⟨Spelling.wrapperName r.name f.name,
          (SchemaType.ofName (p.overrides.standsFor r.name f)).name, f.name⟩ := by
      rw [Body.wrapperOf, Overrides.target_resolution]
    have hline (i : Nat) (f : Field) (hf : r.fields[i]? = some f)
        (hkept : ¬ Body.LeftOut p.set p.overrides r.name f) :
        Body.fieldLine p.overrides r.name f (Body.firstNumber parent + i) ∈
          (Body.direct p.set p.overrides r parent).declarations := by
      rw [Body.declarations_direct]
      exact List.mem_append_right _ (Body.fieldLine_mem hf hkept)
    refine ⟨_, Body.emits_direct hl, ?_, ?_, ?_⟩
    · exact (Body.wrappers_direct parent).trans (List.map_congr_left fun f _ => hwrapper f)
    · intro i f hf hwrapped
      exact ⟨_, hline i f hf hwrapped.1, rfl, Body.text_wrapped hwrapped⟩
    · intro i f hf hkind hkept hwrapped
      exact ⟨_, hline i f hf hkept, rfl, Body.text_bytes hkind hkept hwrapped⟩
  · intro calls schema h
    rw [fate_after hl, directFate] at h
    split at h
    · cases h
    split at h
    · cases h
    obtain ⟨d, hd, hschema⟩ := map_eq_ok_iff.1 h
    obtain rfl := Fate.file.inj hschema
    obtain ⟨front, item, hitems, hname, hown, hfront⟩ := SchemaItem.ofRecord_split r.name d
      (Body.direct p.set p.overrides r ((p.lineage.parentOf? r.name).map p.superType))
    refine ⟨_, front, item, Body.emits_direct hl, hitems, hname, hown, hfront, ?_⟩
    apply SchemaFile.text_append_wrappers (by simp)
    rw [List.append_assoc]
    exact hitems

def volley : Record where
  name := "VolleyPdu"
  parent := "root"
  fields := [reference "event" "EventIdentifier", listField "shots",
    { name := "log", typeName := "Octet", kind := .variableList, couldBeString := true },
    listField "padShots", { listField "marks" with kind := .fixedList },
    { name := "places", typeName := "Place", kind := .fixedList }]
  initialValues := [⟨"pduType", "9"⟩]

def volleyProject : Project where
  set := ⟨[volley, plainRecord "Place"], by decide⟩
  overrides :=
    { types := ⟨[("VolleyPdu.marks", "byte")]⟩, aliases := ⟨[("Octet", "unsigned byte")]⟩ }

def volleySchema : SchemaFile :=
  ⟨none, ["EventIdentifier"], none,
    [.event "VolleyPdu" 9,
      .type "VolleyPdu" none [⟨1, none, "EventIdentifier", "event"⟩,
        ⟨2, none, "VolleyShotsList", "shots_list"⟩, ⟨3, none, "string", "log"⟩,
        ⟨5, none, "bytes", "marks"⟩, ⟨6, none, "VolleyPlacesList", "places_list"⟩],
      .wrapper ⟨"VolleyShotsList", "sint32", "shots"⟩,
      .wrapper ⟨"VolleyPlacesList", "Place", "places"⟩]⟩

theorem list_wrappers_declared_volley :
    Consistency.check volleyProject.lineage = .ok () ∧
    (runOn (volleyProject.fate volley) (volleyProject.memoAfter [.build])).1 =
      .ok (.file volleySchema) ∧
    (∃ b, Body.Emits volleyProject.lineage volleyProject.overrides volley (some "Base") b ∧
      b.wrappers =
        [⟨"VolleyShotsList", "sint32", "shots"⟩, ⟨"VolleyPlacesList", "Place", "places"⟩]) ∧
    ∃ b front item,
      Body.Emits volleyProject.lineage volleyProject.overrides volley
        ((volleyProject.lineage.parentOf? "VolleyPdu").map volleyProject.superType) b ∧
      volleySchema.items = front ++ item :: b.wrappers.map .wrapper ∧
      volleySchema.text = SchemaFile.text { volleySchema with items := front ++ [item] } ++
        String.join (b.wrappers.map SchemaItem.wrapperText) := by
  have hcheck : Consistency.check volleyProject.lineage = .ok () := by decide +kernel
  have hfate : (runOn (volleyProject.fate volley) (volleyProject.memoAfter [.build])).1 =
      .ok (.file volleySchema) := by decide +kernel
  obtain ⟨hbody, hfile⟩ := list_wrappers_declared volleyProject hcheck volley
  obtain ⟨b, hb, hwrappers, _⟩ := hbody (some "Base")
  obtain ⟨b', front, item, hb', hitems, _, _, _, htext⟩ := hfile [.build] volleySchema hfate
  refine ⟨hcheck, hfate, ⟨b, hb, hwrappers.trans ?_⟩, b', front, item, hb', hitems, htext⟩
  decide +kernel

end Project

end RecordIdl
