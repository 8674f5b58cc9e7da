import RecordIdl.Proofs.ElementTree
import RecordIdl.Proofs.WrittenTags

namespace RecordIdl.Xml

namespace Forest

def Written : Forest → Prop
  | nil => True
  | other rest => rest.Written
  | single name attributes rest => WrittenTag name attributes ∧ rest.Written
  | element name attributes content rest =>
    WrittenTag name attributes ∧ content.Written ∧ rest.Written

/-- What stands between tags is written as an empty comment. -/
def text : Forest → List Char
  | nil => []
  | other rest => '<' :: '!' :: '-' :: '-' :: '-' :: '-' :: '>' :: rest.text
  | single name attributes rest => '<' :: (tagText name attributes ++ '/' :: '>' :: rest.text)
  | element name attributes content rest =>
    '<' :: (tagText name attributes ++ '>' ::
      (content.text ++ '<' :: '/' :: (name.toList ++ '>' :: rest.text)))

def tokens : Forest → List Token
  | nil => []
  | other rest => .other :: rest.tokens
  | single name attributes rest => .tag (tagText name attributes ++ ['/']) :: rest.tokens
  | element name attributes content rest =>
    .tag (tagText name attributes) :: (content.tokens ++ .endTag name.toList :: rest.tokens)

end Forest

namespace Token

theorem readFrom_comment (rest : List Char) :
    readFrom .between ('<' :: '!' :: '-' :: '-' :: '-' :: '-' :: '>' :: rest) =
      (readFrom .between rest).push .other := by
  simp [readFrom, Mode.step, Mode.afterWordChar, Mode.matchesWord, Mode.inside, countMark]

end Token

namespace Event

variable {name : String} {attributes : List Attribute}
variable {fault : Option Fault} {opened : List String} {text : List Char} {ts : List Token}

theorem nest_start (h : ofTag text = .start name attributes) :
    nest fault opened (.tag text :: ts) =
      (nest fault (name :: opened) ts).push (.start name attributes) := by
  simp [nest, h]

theorem nest_empty (h : ofTag text = .empty name attributes) :
    nest fault opened (.tag text :: ts) =
      (nest fault opened ts).push (.empty name attributes) := by
  simp [nest, h]

theorem nest_endTag (h : isPlain name = true) :
    nest fault (name :: opened) (.endTag name.toList :: ts) =
      (nest fault opened ts).push (.close name) := by
  simp [nest, endName_toList h]

theorem nest_tokens {f : Forest} (h : f.Written) (fault : Option Fault) (opened : List String)
    (ts : List Token) :
    nest fault opened (f.tokens ++ ts) =
      ⟨f.events ++ (nest fault opened ts).items, (nest fault opened ts).fault⟩ := by
  induction f generalizing opened ts with
  | nil => rfl
  | other rest ih =>
      rw [Forest.tokens, List.cons_append, nest, ih h]
      rfl
  | single name attributes rest ih =>
      obtain ⟨htag, hrest⟩ := h
      rw [Forest.tokens, List.cons_append, nest_empty (ofTag_tagText_slash htag), ih hrest]
      rfl
  | element name attributes content rest ihc ihr =>
      obtain ⟨htag, hcontent, hrest⟩ := h
      -- The content is read one element deeper, and leaves that element to be closed.
      rw [Forest.tokens, List.cons_append, nest_start (ofTag_tagText htag), List.append_assoc,
        ihc hcontent, List.cons_append, nest_endTag htag.plain, ihr hrest]
      simp [Feed.push, Forest.events]

end Event

namespace Forest

theorem readFrom_text {f : Forest} (h : f.Written) (rest : List Char) :
    Token.readFrom .between (f.text ++ rest) =
      ⟨f.tokens ++ (Token.readFrom .between rest).items,
        (Token.readFrom .between rest).fault⟩ := by
  induction f generalizing rest with
  | nil => rfl
  | other tail ih =>
      exact (Token.readFrom_comment (tail.text ++ rest)).trans (congrArg (Feed.push _) (ih h rest))
  | single name attributes tail ih =>
      obtain ⟨htag, htail⟩ := h
      have hall : (single name attributes tail).text ++ rest =
          '<' :: (tagText name attributes ++ '/' :: '>' :: (tail.text ++ rest)) := by simp [text]
      rw [hall, Token.readFrom_tagText_slash htag, ih htail]
      rfl
  | element name attributes content tail ihc iht =>
      obtain ⟨htag, hcontent, htail⟩ := h
      have hall : (element name attributes content tail).text ++ rest =
          '<' :: (tagText name attributes ++ '>' ::
            (content.text ++ '<' :: '/' :: (name.toList ++ '>' :: (tail.text ++ rest)))) := by
        simp [text]
      rw [hall, Token.readFrom_tagText htag, ihc hcontent,
        Token.readFrom_endTag (isAlpha_of_isPlain htag.plain), iht htail]
      simp [Feed.push, tokens]

theorem text_cases (f : Forest) : f.text = [] ∨ ∃ cs, f.text = '<' :: cs := by
  cases f with
  | nil => exact .inl rfl
  | other | single | element => exact .inr ⟨_, rfl⟩

/-- What is written of a forest is read as its events, without a fault. -/
theorem readAll_text {f : Forest} (h : f.Written) :
    Event.readAll (String.ofList f.text) = ⟨f.events, none⟩ := by
  have htokens : Token.readAll f.text = ⟨f.tokens, none⟩ := by
    have hfrom : Token.readFrom .between f.text = ⟨f.tokens, none⟩ := by
      simpa [Token.readFrom, Token.Mode.unclosed?] using readFrom_text h []
    rw [← hfrom]
    -- No written text starts with a byte order mark.
    rcases text_cases f with htext | ⟨cs, htext⟩ <;> rw [htext] <;> rfl
  have hevents := Event.nest_tokens h none [] []
  rw [List.append_nil] at hevents
  rw [Event.readAll, String.toList_ofList, htokens, hevents]
  simp [Event.nest]

end Forest

def Element.Written (e : Element) : Prop :=
  WrittenTag e.name e.attributes ∧ e.content.Written

namespace Forest

def ofElements : List Element → Forest
  | [] => .nil
  | e :: es =>
    match e.content with
    | .nil => .single e.name e.attributes (ofElements es)
    | content => .element e.name e.attributes content (ofElements es)

theorem elements_ofElements (es : List Element) : (ofElements es).elements = es := by
  induction es with
  | nil => rfl
  | cons e es ih =>
      obtain ⟨name, attributes, content⟩ := e
      cases content <;> simp [ofElements, elements, ih]

theorem outermost_ofElements {tag : String} {es : List Element} (h : ∀ e ∈ es, e.name = tag) :
    (ofElements es).outermost tag = es := by
  induction es with
  | nil => rfl
  | cons e es ih =>
      obtain ⟨he, hes⟩ := List.forall_mem_cons.1 h
      obtain ⟨name, attributes, content⟩ := e
      cases content <;> simp_all [ofElements, outermost]

theorem written_ofElements {es : List Element} (h : ∀ e ∈ es, e.Written) :
    (ofElements es).Written := by
  induction es with
  | nil => trivial
  | cons e es ih =>
      obtain ⟨⟨htag, hcontent⟩, hes⟩ := List.forall_mem_cons.1 h
      obtain ⟨name, attributes, content⟩ := e
      cases content with
      | nil => exact ⟨htag, ih hes⟩
      | other | single | element => exact ⟨htag, hcontent, ih hes⟩

end Forest

end RecordIdl.Xml
