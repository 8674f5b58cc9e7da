import RecordIdl.Proofs.VisibleText

namespace RecordIdl

open Text

def Declaration.bare (d : Declaration) : Declaration :=
  { d with comment := none }

namespace SchemaItem

def declarations : SchemaItem → List Declaration
  | type _ _ ds | component _ _ ds => ds
  | event .. | command .. | wrapper _ => []

def bare : SchemaItem → SchemaItem
  | type name id ds => type name id (ds.map Declaration.bare)
  | component name id ds => component name id (ds.map Declaration.bare)
  | event name id => event name id
  | command name id response => command name id response
  | wrapper w => wrapper w

def keyword : SchemaItem → String
  | type .. | wrapper _ => "type"
  | component .. | event .. | command .. => "component"

/-- What stands in the block of an item before its declarations. -/
def lead : SchemaItem → String
  | type _ none _ => ""
  | type _ (some id) ds => "  // " ++ idText id ++ "\n" ++ gap ds
  | component _ id ds => "  " ++ idText id ++ ";\n" ++ gap ds
  | event name id =>
    "  " ++ idText id ++ ";\n  event " ++ name ++ " " ++ Spelling.snakeCase name ++ ";\n"
  | command name id response =>
    "  " ++ idText id ++ ";\n  command " ++ response ++ " " ++ Spelling.snakeCase name ++ "("
      ++ name ++ ");\n"
  | wrapper w => "  " ++ w.content ++ "\n"

def opening (item : SchemaItem) : String :=
  item.keyword ++ " " ++ item.declared ++ " \x7b\n" ++ item.lead

theorem text_eq_block (item : SchemaItem) :
    item.text = block item.keyword item.declared
      (item.lead ++ declarationsText item.declarations) := by
  have hnone (content : String) : content ++ declarationsText [] = content := String.append_empty
  cases item with
  | type name id ds =>
      cases id with
      | none => rw [text, lead, String.empty_append]; rfl
      | some id => rw [text, lead]; rfl
  | component name id ds => rw [text, lead]; rfl
  | event name id => rw [text, declarations, hnone]; rfl
  | command name id response => rw [text, declarations, hnone]; rfl
  | wrapper w => rw [text, declarations, hnone]; rfl

theorem opening_bare (item : SchemaItem) : item.bare.opening = item.opening := by
  have hgap (ds : List Declaration) : gap (ds.map Declaration.bare) = gap ds := by
    cases ds <;> rfl
  cases item with
  | type name id ds =>
      cases id with
      | none => rfl
      | some id => rw [bare, opening, opening, lead, lead, hgap]; rfl
  | component name id ds => rw [bare, opening, opening, lead, lead, hgap]; rfl
  | event | command | wrapper => rfl

theorem declarations_bare (item : SchemaItem) :
    item.bare.declarations = item.declarations.map Declaration.bare := by
  cases item <;> rfl

def declarationPassages (d : Declaration) : List Passage :=
  (d.comment.map Passage.fieldComment).toList ++ [.plain ("  " ++ d.text ++ "\n")]

def passages (item : SchemaItem) : List Passage :=
  .plain item.opening ::
    ([.plain "\n"].intercalate (item.declarations.map declarationPassages) ++ [.plain "\x7d\n"])

theorem joined_passages (item : SchemaItem) : Passage.joined item.passages = item.text.toList := by
  have hdeclaration (d : Declaration) :
      Passage.joined (declarationPassages d) = (declarationText d).toList := by
    cases hd : d.comment <;>
      simp [Passage.joined, declarationPassages, declarationText, Passage.text, commentText, hd]
  have hdeclarations (ds : List Declaration) :
      Passage.joined ([.plain "\n"].intercalate (ds.map declarationPassages)) =
        (declarationsText ds).toList := by
    rw [Passage.joined_intercalate, declarationsText, String.toList_intercalate, List.map_map,
      List.map_map]
    congr 2
    exact funext hdeclaration
  have hparts : Passage.joined item.passages = item.opening.toList ++
      (Passage.joined ([.plain "\n"].intercalate (item.declarations.map declarationPassages)) ++
        "\x7d\n".toList) := by
    simp [Passage.joined, passages, Passage.text]
  rw [hparts, hdeclarations, text_eq_block, opening, block]
  simp

theorem filter_passages (item : SchemaItem) :
    item.passages.filter Passage.isPlain = item.bare.passages := by
  have hdeclaration (d : Declaration) :
      (declarationPassages d).filter Passage.isPlain = declarationPassages d.bare := by
    cases hd : d.comment <;> simp [declarationPassages, Declaration.bare, Declaration.text,
      Passage.isPlain, hd]
  rw [passages, passages, List.filter_cons_of_pos rfl, List.filter_append,
    Passage.filter_intercalate rfl, declarations_bare, opening_bare, List.map_map, List.map_map]
  congr 4
  exact funext hdeclaration

theorem whole_lead (item : SchemaItem) : item.lead = "" ∨ (Passage.plain item.lead).Whole := by
  have hfeed : (Passage.plain "\n").Whole := rfl
  have hgap (s : String) (ds : List Declaration) : (Passage.plain (s ++ "\n" ++ gap ds)).Whole := by
    apply Passage.whole_append_or (Passage.whole_append s hfeed)
    cases ds with
    | nil => exact .inl rfl
    | cons => exact .inr hfeed
  cases item with
  | type name id ds =>
      cases id with
      | none => exact .inl rfl
      | some id => exact .inr (hgap _ ds)
  | component name id ds =>
      refine .inr ?_
      have hfeed : ";\n" = ";" ++ "\n" := rfl
      rw [lead, hfeed, ← String.append_assoc]
      exact hgap _ ds
  | event | command | wrapper => exact .inr (Passage.whole_append _ rfl)

theorem whole_passages (item : SchemaItem) : ∀ p ∈ item.passages, p.Whole := by
  have hopening : (Passage.plain item.opening).Whole :=
    Passage.whole_append_or (Passage.whole_append _ rfl) item.whole_lead
  intro p hp
  rw [passages, List.mem_cons, List.mem_append, List.mem_singleton] at hp
  rcases hp with rfl | hp | rfl
  · exact hopening
  · rcases mem_intercalate hp with rfl | ⟨ps, hps, hp⟩
    · rfl
    · obtain ⟨d, -, rfl⟩ := List.mem_map.1 hps
      rw [declarationPassages, List.mem_append, List.mem_singleton, Option.mem_toList] at hp
      rcases hp with hp | rfl
      · obtain ⟨comment, -, rfl⟩ := Option.map_eq_some_iff.1 hp
        trivial
      · exact Passage.whole_append _ rfl
  · rfl

end SchemaItem

namespace SchemaFile

def bare (s : SchemaFile) : SchemaFile :=
  { s with comment := none, items := s.items.map SchemaItem.bare }

def passages (s : SchemaFile) : List Passage :=
  .plain (header ++ "\n\n" ++ packageText s.package ++ importsText s.package s.imports) ::
    ((s.comment.map Passage.recordComment).toList ++
      [.plain "\n"].intercalate (s.items.map SchemaItem.passages))

theorem joined_passages (s : SchemaFile) : Passage.joined s.passages = s.text.toList := by
  have hitems : Passage.joined ([.plain "\n"].intercalate (s.items.map SchemaItem.passages)) =
      ("\n".intercalate (s.items.map SchemaItem.text)).toList := by
    rw [Passage.joined_intercalate, String.toList_intercalate, List.map_map, List.map_map]
    congr 2
    exact funext SchemaItem.joined_passages
  have hcomment : Passage.joined (s.comment.map Passage.recordComment).toList =
      (commentText s.comment).toList := by
    cases s.comment <;> simp [Passage.joined, Passage.text, commentText]
  have hparts : Passage.joined s.passages =
      (header ++ "\n\n" ++ packageText s.package ++ importsText s.package s.imports).toList ++
        (Passage.joined (s.comment.map Passage.recordComment).toList ++
          Passage.joined ([.plain "\n"].intercalate (s.items.map SchemaItem.passages))) := by
    simp [Passage.joined, passages, Passage.text]
  rw [hparts, hcomment, hitems, text]
  simp

theorem filter_passages (s : SchemaFile) :
    s.passages.filter Passage.isPlain = s.bare.passages := by
  have hcomment : (s.comment.map Passage.recordComment).toList.filter Passage.isPlain = [] := by
    cases s.comment <;> rfl
  rw [passages, passages, List.filter_cons_of_pos rfl, List.filter_append, hcomment,
    Passage.filter_intercalate rfl, bare, List.map_map, List.map_map]
  congr 4
  exact funext SchemaItem.filter_passages

theorem whole_passages {s : SchemaFile} (h : ∀ comment ∈ s.comment, '\n' ∉ comment.toList) :
    ∀ p ∈ s.passages, p.Whole := by
  have hpackage : packageText s.package = "" ∨ (Passage.plain (packageText s.package)).Whole := by
    cases s.package with
    | none => exact .inl rfl
    | some package => exact .inr (Passage.whole_append _ rfl)
  have himports : importsText s.package s.imports = "" ∨
      (Passage.plain (importsText s.package s.imports)).Whole := by
    rw [importsText]
    split
    · exact .inl rfl
    · exact .inr (Passage.whole_append _ rfl)
  intro p hp
  rw [passages, List.mem_cons, List.mem_append, Option.mem_toList] at hp
  rcases hp with rfl | hp | hp
  · exact Passage.whole_append_or
      (Passage.whole_append_or (Passage.whole_append header rfl) hpackage) himports
  · obtain ⟨comment, hcomment, rfl⟩ := Option.map_eq_some_iff.1 hp
    exact h comment hcomment
  · rcases mem_intercalate hp with rfl | ⟨ps, hps, hp⟩
    · rfl
    · obtain ⟨item, -, rfl⟩ := List.mem_map.1 hps
      exact item.whole_passages p hp

/-- No field comment holds what ends it, and no comment stands in one that the rest of the file
opens. -/
def Shielded (s : SchemaFile) : Prop :=
  Passage.Shielded .code s.passages

instance (s : SchemaFile) : Decidable s.Shielded :=
  inferInstanceAs (Decidable (Passage.Shielded .code s.passages))

theorem visibleLines_bare {s : SchemaFile} (h : ∀ comment ∈ s.comment, '\n' ∉ comment.toList)
    (hs : s.Shielded) : visibleLines s.text = visibleLines s.bare.text := by
  rw [visibleLines, visibleLines, ← joined_passages, ← joined_passages, ← filter_passages]
  have hlines := Passage.inked_joined (whole_passages h) hs (fun _ => .inl rfl)
  exact congrArg (List.map String.ofList) hlines

end SchemaFile

end RecordIdl
