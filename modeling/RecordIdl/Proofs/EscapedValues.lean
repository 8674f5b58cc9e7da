import RecordIdl.Xml.Attribute

namespace RecordIdl.Xml

def references : List (Char × List Char) :=
  [('&', "amp".toList), ('<', "lt".toList), ('>', "gt".toList), ('"', "quot".toList),
   ('\'', "apos".toList), ('\t', "#9".toList), ('\n', "#10".toList), ('\r', "#13".toList)]

def escapeChar (c : Char) : List Char :=
  match references.lookup c with
  | some name => '&' :: (name ++ [';'])
  | none => [c]

def escape (cs : List Char) : List Char :=
  cs.flatMap escapeChar

theorem referent_of_references {c : Char} {name : List Char} (h : (c, name) ∈ references)
    (start stop : Nat) : referent start stop name = .ok c := by
  simp only [references, List.mem_cons, Prod.mk.injEq, List.not_mem_nil, or_false] at h
  rcases h with ⟨rfl, rfl⟩ | ⟨rfl, rfl⟩ | ⟨rfl, rfl⟩ | ⟨rfl, rfl⟩ | ⟨rfl, rfl⟩ | ⟨rfl, rfl⟩ |
    ⟨rfl, rfl⟩ | ⟨rfl, rfl⟩ <;> rfl

theorem names_of_references :
    ∀ r ∈ references, ∀ c ∈ r.2, c ≠ ';' ∧ c ≠ '&' ∧ c ≠ '"' := by
  simp [references]

theorem mem_of_lookup {c : Char} {name : List Char} (h : references.lookup c = some name) :
    (c, name) ∈ references := by
  obtain ⟨before, after, heq, -⟩ := List.lookup_eq_some_iff.1 h
  rw [heq]
  exact List.mem_append_right before List.mem_cons_self

/-- A reference under way takes in its name up to the semicolon, wherever that stands. -/
theorem expandFrom_name {name : List Char} (h : ∀ c ∈ name, c ≠ ';' ∧ c ≠ '&' ∧ c ≠ '"')
    (start position : Nat) (before rest : List Char) :
    ∃ stop, expandFrom position (some ⟨start, before⟩) (name ++ ';' :: rest) = (do
      let c ← referent (start + 1) stop (before.reverse ++ name)
      (expandFrom (stop + 1) none rest).map (c :: ·)) := by
  induction name generalizing position before with
  | nil => exact ⟨position, by simp [expandFrom]⟩
  | cons c name ih =>
      obtain ⟨⟨hsemicolon, hampersand, -⟩, hname⟩ := List.forall_mem_cons.1 h
      obtain ⟨stop, hstop⟩ := ih hname (position + c.utf8Size) (c :: before)
      refine ⟨stop, ?_⟩
      rw [List.cons_append, expandFrom, if_neg hsemicolon, if_neg hampersand, hstop]
      simp

theorem expandFrom_escapeChar (c : Char) (position : Nat) (rest : List Char) :
    ∃ next, expandFrom position none (escapeChar c ++ rest) =
      (expandFrom next none rest).map (c :: ·) := by
  rw [escapeChar]
  cases hname : references.lookup c with
  | some name =>
      have hmem := mem_of_lookup hname
      obtain ⟨stop, hstop⟩ :=
        expandFrom_name (names_of_references _ hmem) position (position + 1) [] rest
      refine ⟨stop + 1, ?_⟩
      rw [List.reverse_nil, List.nil_append, referent_of_references hmem] at hstop
      have htext : '&' :: (name ++ [';']) ++ rest = '&' :: (name ++ ';' :: rest) := by simp
      rw [htext, expandFrom, if_pos rfl]
      exact hstop
  | none =>
      have hplain : c ≠ '&' := by
        rintro rfl
        cases hname
      exact ⟨position + c.utf8Size, by rw [List.singleton_append, expandFrom, if_neg hplain]⟩

theorem expandFrom_escape (cs : List Char) (position : Nat) :
    expandFrom position none (escape cs) = .ok cs := by
  induction cs generalizing position with
  | nil => rfl
  | cons c cs ih =>
      obtain ⟨next, hnext⟩ := expandFrom_escapeChar c position (escape cs)
      rw [escape, List.flatMap_cons, ← escape, hnext, ih]
      rfl

theorem quote_not_mem_escape (cs : List Char) : '"' ∉ escape cs := by
  intro h
  obtain ⟨c, -, hc⟩ := List.mem_flatMap.1 h
  rw [escapeChar] at hc
  split at hc
  · next name hname =>
      simp only [List.mem_cons, List.mem_append, List.not_mem_nil, or_false] at hc
      rcases hc with hc | hc | hc
      · cases hc
      · exact (names_of_references _ (mem_of_lookup hname) _ hc).2.2 rfl
      · cases hc
  · next hname =>
      obtain rfl := List.mem_singleton.1 hc
      cases hname

namespace Attribute

def ofValue (name value : String) : Attribute :=
  ⟨name, String.ofList (escape value.toList)⟩

@[simp] theorem name_ofValue (name value : String) : (ofValue name value).name = name := rfl

@[simp] theorem value_ofValue (name value : String) : (ofValue name value).value = .ok value := by
  rw [Attribute.value, ofValue, String.toList_ofList, expand, expandFrom_escape]
  simp [Except.map]

end Attribute

end RecordIdl.Xml
