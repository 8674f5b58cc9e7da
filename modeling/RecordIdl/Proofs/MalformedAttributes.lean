import RecordIdl.Proofs.DescribedRecords
import RecordIdl.Proofs.WrittenTags

namespace RecordIdl

namespace Xml

namespace Attribute

variable {seen : List (List Char)} {place : Place} {c : Char} {cs : List Char}

def completed : Place → Char → List Attribute
  | .inValue name quote value, c =>
    if c = quote then [⟨String.ofList name.reverse, String.ofList value.reverse⟩] else []
  | _, _ => []

def next (seen : List (List Char)) : Place → Char → List (List Char) × Place
  | .between, c => (seen, if isSpace c then .between else .inName [c])
  | .inName name, c =>
    if c = '=' then afterEquals seen name
    else (seen, if isSpace c then .afterName name else .inName (c :: name))
  | .afterName name, c =>
    if c = '=' then afterEquals seen name
    else (seen, if isSpace c then .afterName name else .inName [c])
  | .beforeValue name, c =>
    (seen, if isSpace c then .beforeValue name
      else if isQuote c then .inValue name c [] else .dropping)
  | .inValue name quote value, c =>
    (seen, if c = quote then .between else .inValue name quote (c :: value))
  | .dropping, c => (seen, if isSpace c then .between else .dropping)

def after (s : List (List Char) × Place) (cs : List Char) : List (List Char) × Place :=
  cs.foldl (fun s c => next s.1 s.2 c) s

theorem readFrom_cons (seen : List (List Char)) (place : Place) (c : Char) (cs : List Char) :
    readFrom seen place (c :: cs) =
      completed place c ++ readFrom (next seen place c).1 (next seen place c).2 cs := by
  cases place with
  | between | dropping => rw [readFrom, next]; split <;> rfl
  | inName name | afterName name =>
      rw [readFrom, next]
      split
      · rfl
      · split <;> rfl
  | beforeValue name =>
      rw [readFrom, next]
      split
      · rfl
      · split <;> rfl
  | inValue name quote value => rw [readFrom, next, completed]; split <;> rfl

theorem readFrom_append (seen : List (List Char)) (place : Place) (xs ys : List Char) :
    readFrom seen place (xs ++ ys) =
      readFrom seen place xs ++ readFrom (after (seen, place) xs).1 (after (seen, place) xs).2 ys := by
  induction xs generalizing seen place with
  | nil => cases place <;> rfl
  | cons c xs ih =>
      rw [List.cons_append, readFrom_cons, readFrom_cons, ih, List.append_assoc]
      rfl

def Place.Sound (seen : List (List Char)) : Place → Prop
  | .beforeValue name => name ∈ seen
  | .inValue name quote _ => name ∈ seen ∧ isQuote quote = true
  | _ => True

theorem afterEquals_sound (seen : List (List Char)) (name : List Char) :
    seen ⊆ (afterEquals seen name).1 ∧ (afterEquals seen name).2.Sound (afterEquals seen name).1 := by
  rw [afterEquals]
  split
  · exact ⟨List.Subset.refl seen, trivial⟩
  · exact ⟨List.subset_cons_self name seen, List.mem_cons_self⟩

theorem next_sound (h : place.Sound seen) (c : Char) :
    seen ⊆ (next seen place c).1 ∧ (next seen place c).2.Sound (next seen place c).1 := by
  cases place with
  | between | dropping =>
      rw [next]
      refine ⟨List.Subset.refl seen, ?_⟩
      split <;> trivial
  | inName name | afterName name =>
      rw [next]
      split
      · exact afterEquals_sound seen name
      · refine ⟨List.Subset.refl seen, ?_⟩
        split <;> trivial
  | beforeValue name =>
      rw [next]
      refine ⟨List.Subset.refl seen, ?_⟩
      split
      · exact h
      · split
        · next hquote => exact ⟨h, hquote⟩
        · trivial
  | inValue name quote value =>
      rw [next]
      refine ⟨List.Subset.refl seen, ?_⟩
      split
      · trivial
      · exact h

theorem after_sound (h : place.Sound seen) (cs : List Char) :
    seen ⊆ (after (seen, place) cs).1 ∧
      (after (seen, place) cs).2.Sound (after (seen, place) cs).1 := by
  induction cs generalizing seen place with
  | nil => exact ⟨List.Subset.refl seen, h⟩
  | cons c cs ih =>
      obtain ⟨hsub, hnext⟩ := next_sound h c
      obtain ⟨hsub', hafter⟩ := ih hnext
      exact ⟨List.Subset.trans hsub hsub', hafter⟩

theorem readFrom_unquoted (hplace : place.Sound seen) (h : ∀ c ∈ cs, isQuote c = false) :
    readFrom seen place cs = [] := by
  induction cs generalizing seen place with
  | nil => cases place <;> rfl
  | cons c cs ih =>
      obtain ⟨hc, hcs⟩ := List.forall_mem_cons.1 h
      have hnone : completed place c = [] := by
        cases place with
        | inValue name quote value =>
            rw [completed, if_neg]
            rintro rfl
            exact Bool.false_ne_true (hc.symm.trans hplace.2)
        | between | inName | afterName | beforeValue | dropping => rfl
      rw [readFrom_cons, hnone, ih (next_sound hplace c).2 hcs, List.append_nil]

theorem mem_seen (hplace : place.Sound seen) {a : Attribute} (ha : a ∈ readFrom seen place cs) :
    a.name.toList.reverse ∈ (after (seen, place) cs).1 := by
  induction cs generalizing seen place with
  | nil => cases place <;> cases ha
  | cons c cs ih =>
      obtain ⟨hsub, hnext⟩ := next_sound hplace c
      rw [readFrom_cons, List.mem_append] at ha
      rcases ha with ha | ha
      · -- The attribute is complete here, and its name stays seen.
        apply (after_sound hnext cs).1
        apply hsub
        cases place with
        | inValue name quote value =>
            rw [completed] at ha
            split at ha
            · obtain rfl := List.mem_singleton.1 ha
              simpa using hplace.1
            · cases ha
        | between | inName | afterName | beforeValue | dropping => cases ha
      · exact ih hnext ha

theorem readFrom_dropping (h : ∀ c ∈ cs, isSpace c = false) :
    readFrom seen .dropping cs = [] := by
  induction cs with
  | nil => rfl
  | cons c cs ih =>
      obtain ⟨hc, hcs⟩ := List.forall_mem_cons.1 h
      rw [readFrom, hc, if_neg Bool.false_ne_true, ih hcs]

/-- An attribute under a name that was seen is dropped, and nothing else is read out of a value
without spaces. -/
theorem readFrom_repeated {a : Attribute} (ha : a.Written)
    (hraw : ∀ c ∈ a.raw.toList, isSpace c = false) (hseen : a.name.toList.reverse ∈ seen) :
    readFrom seen .between a.text = [] := by
  have hafter : afterEquals seen a.name.toList.reverse = (seen, .dropping) := if_pos hseen
  have hname := readFrom_text_name ha seen []
  rw [List.append_nil, hafter] at hname
  rw [hname]
  apply readFrom_dropping
  intro c hc
  simp only [List.mem_cons, List.mem_append, List.not_mem_nil, or_false] at hc
  rcases hc with rfl | hc | rfl
  · decide
  · exact hraw c hc
  · decide

end Attribute

def attributePart (tag : List Char) : List Char :=
  tag.dropWhile (!isSpace ·)

/-- Text behind the attributes of a tag from which no attribute can be read. -/
inductive Malformed (tag : List Char) : List Char → Prop
  | unquoted {c : Char} {text : List Char} (space : isSpace c = true)
      (plain : ∀ d ∈ c :: text, Attribute.isQuote d = false ∧ d ≠ '>')
      (last : (c :: text).getLast? ≠ some '/') : Malformed tag (c :: text)
  /-- The tag has an attribute of that name, and the last one before is complete. -/
  | repeated {a b : Attribute} (written : a.Written) (words : ∀ c ∈ a.raw.toList, isSpace c = false)
      (seen : b ∈ Attribute.readAll (attributePart tag)) (name : b.name = a.name)
      (whole : (Attribute.after ([], .between) (attributePart tag)).2 = .between) :
      Malformed tag a.text

namespace Malformed

variable {tag text : List Char}

theorem readAll_append (h : Malformed tag text) :
    Attribute.readAll (attributePart tag ++ text) = Attribute.readAll (attributePart tag) := by
  have hstart : Attribute.Place.Sound [] .between := trivial
  rw [Attribute.readAll, Attribute.readFrom_append]
  cases h with
  | unquoted space plain last =>
      have hafter := (Attribute.after_sound hstart (attributePart tag)).2
      rw [Attribute.readFrom_unquoted hafter fun d hd => (plain d hd).1, List.append_nil]
      rfl
  | repeated written words seen name whole =>
      have hseen := Attribute.mem_seen hstart seen
      rw [whole, Attribute.readFrom_repeated written words (name ▸ hseen), List.append_nil]
      rfl

theorem inert (h : Malformed tag text) : Token.Inert text := by
  cases h with
  | unquoted space plain last =>
      rw [← List.flatMap_singleton' (_ :: _)]
      apply Token.inert_flatMap
      intro d hd
      exact Token.inert_singleton (plain d hd).1 (plain d hd).2
  | repeated written words seen name whole => exact Token.inert_attribute written

theorem exists_cons (h : Malformed tag text) : ∃ c cs, text = c :: cs ∧ isSpace c = true := by
  cases h with
  | unquoted space plain last => exact ⟨_, _, rfl, space⟩
  | repeated => exact ⟨' ', _, rfl, rfl⟩

theorem getLast?_ne (h : Malformed tag text) : (tag ++ text).getLast? ≠ some '/' := by
  obtain ⟨c, cs, htext, _⟩ := h.exists_cons
  rw [List.getLast?_append_of_ne_nil _ (by simp [htext])]
  cases h with
  | unquoted space plain last => exact last
  | @repeated a =>
      have hquote : a.text = ' ' :: (a.name.toList ++ '=' :: '"' :: a.raw.toList) ++ ['"'] := by
        simp [Attribute.text]
      rw [hquote, List.getLast?_concat]
      decide

end Malformed

namespace Event

variable {tag text : List Char}

theorem nameEnd_append {c : Char} (hc : isSpace c = true) (tag cs : List Char) :
    (tag ++ c :: cs).takeWhile (!isSpace ·) = tag.takeWhile (!isSpace ·) ∧
      attributePart (tag ++ c :: cs) = attributePart tag ++ c :: cs := by
  induction tag with
  | nil => simp [attributePart, hc]
  | cons d tag ih =>
      rw [attributePart, attributePart] at *
      rw [List.cons_append, List.takeWhile_cons, List.takeWhile_cons, List.dropWhile_cons,
        List.dropWhile_cons]
      split
      · exact ⟨congrArg _ ih.1, ih.2⟩
      · exact ⟨rfl, rfl⟩

theorem ofTag_append (h : Malformed tag text) (hlast : tag.getLast? ≠ some '/') :
    ofTag (tag ++ text) = ofTag tag := by
  obtain ⟨c, cs, rfl, hc⟩ := h.exists_cons
  obtain ⟨hname, hpart⟩ := nameEnd_append hc tag cs
  have hread := h.readAll_append
  rw [← hpart] at hread
  simp only [ofTag, if_neg h.getLast?_ne, if_neg hlast, hname]
  rw [← attributePart, ← attributePart, hread]

theorem ofTag_append_slash (h : Malformed tag text) :
    ofTag (tag ++ text ++ ['/']) = ofTag (tag ++ ['/']) := by
  obtain ⟨c, cs, rfl, hc⟩ := h.exists_cons
  obtain ⟨hname, hpart⟩ := nameEnd_append hc tag cs
  have hread := h.readAll_append
  rw [← hpart] at hread
  simp only [ofTag, List.getLast?_concat, if_pos, List.dropLast_concat, hname]
  rw [← attributePart, ← attributePart, hread]

end Event

namespace Token

def modeAfter (mode : Mode) : List Char → Option Mode
  | [] => some mode
  | c :: cs =>
    match mode.step c with
    | .go next | .emit _ next => modeAfter next cs
    | .fail _ => none

theorem readFrom_append {mode mode' : Mode} {cs : List Char} (h : modeAfter mode cs = some mode') :
    ∃ ts, ∀ rest, readFrom mode (cs ++ rest) =
      ⟨ts ++ (readFrom mode' rest).items, (readFrom mode' rest).fault⟩ := by
  induction cs generalizing mode with
  | nil =>
      obtain rfl := Option.some.inj h
      exact ⟨[], fun rest => rfl⟩
  | cons c cs ih =>
      rw [modeAfter] at h
      cases hstep : mode.step c with
      | go next =>
          rw [hstep] at h
          obtain ⟨ts, hts⟩ := ih h
          refine ⟨ts, fun rest => ?_⟩
          rw [List.cons_append, readFrom, hstep]
          exact hts rest
      | emit token next =>
          rw [hstep] at h
          obtain ⟨ts, hts⟩ := ih h
          refine ⟨token :: ts, fun rest => ?_⟩
          rw [List.cons_append, readFrom, hstep]
          exact congrArg (Feed.push token) (hts rest)
      | fail fault =>
          rw [hstep] at h
          cases h

def modeAt : List Char → Option Mode
  | '\uFEFF' :: cs => modeAfter .between cs
  | cs => modeAfter .between cs

theorem readAll_append {before : List Char} {mode : Mode} (h : modeAt before = some mode)
    (hbefore : before ≠ []) : ∃ ts, ∀ rest, readAll (before ++ rest) =
      ⟨ts ++ (readFrom mode rest).items, (readFrom mode rest).fault⟩ := by
  obtain ⟨c, cs, rfl⟩ := List.exists_cons_of_ne_nil hbefore
  by_cases hmark : c = '\uFEFF'
  · subst hmark
    exact readFrom_append h
  · have hmode : modeAt (c :: cs) = modeAfter .between (c :: cs) := by simp [modeAt, hmark]
    rw [hmode] at h
    obtain ⟨ts, hts⟩ := readFrom_append h
    refine ⟨ts, fun rest => ?_⟩
    rw [← hts, List.cons_append, readAll]
    simp [hmark]

theorem readFrom_close {tag text : List Char} (h : Inert text) (rest : List Char) :
    readFrom (.tag tag.reverse none) (text ++ '>' :: rest) =
      (readFrom .between rest).push (.tag (tag ++ text)) := by
  rw [h]
  simp [readFrom, Mode.step, Mode.afterTagChar]

end Token

namespace Event

theorem nest_congr {tag tag' : List Char} (h : ofTag tag = ofTag tag') (fault : Option Fault)
    (opened : List String) (ts rest : List Token) :
    nest fault opened (ts ++ .tag tag :: rest) = nest fault opened (ts ++ .tag tag' :: rest) := by
  induction ts generalizing opened with
  | nil => simp only [List.nil_append, nest, h]
  | cons t ts ih =>
      cases t with
      | other => simp only [List.cons_append, nest, ih]
      | tag text => simp only [List.cons_append, nest, ih]
      | endTag text => simp only [List.cons_append, nest, ih]

/-- A text that ends in a tag, without the bracket that closes it. -/
def InTag (before tag : List Char) : Prop :=
  Token.modeAt before = some (.tag tag.reverse none)

theorem readAll_congr {before tag text text' : List Char} (h : InTag before tag)
    (hbefore : before ≠ []) (htext : Token.Inert text) (htext' : Token.Inert text')
    (htag : ofTag (tag ++ text) = ofTag (tag ++ text')) (rest : List Char) :
    readAll (String.ofList (before ++ (text ++ '>' :: rest))) =
      readAll (String.ofList (before ++ (text' ++ '>' :: rest))) := by
  obtain ⟨ts, hts⟩ := Token.readAll_append h hbefore
  simp only [readAll, String.toList_ofList, hts, Token.readFrom_close htext,
    Token.readFrom_close htext']
  exact nest_congr htag _ _ _ _

end Event

end Xml

namespace Description

open Xml

/-- Malformed attributes at the end of a tag make no difference, wherever the tag stands and
whatever it opens: the text is refused if it is refused without them, and else gives the same. -/
theorem malformed_attribute_unnoticed (before text close after : String) (tag : List Char)
    (htag : Event.InTag before.toList tag) (htext : Malformed tag text.toList)
    (hclose : close = "/>" ∨ close = ">" ∧ tag.getLast? ≠ some '/') :
    parse (before ++ text ++ close ++ after) = parse (before ++ close ++ after) := by
  have hbefore : before.toList ≠ [] := by
    intro hnil
    rw [hnil] at htag
    cases htag
  have hslash : Token.Inert ['/'] := Token.inert_singleton (by decide) (by decide)
  have hnone : Token.Inert [] := fun _ _ => rfl
  rw [parse, parse]
  congr 1
  rcases hclose with rfl | ⟨rfl, hlast⟩
  · have h := Event.readAll_congr htag hbefore (Token.inert_append htext.inert hslash) hslash
      (by simpa using Event.ofTag_append_slash htext) after.toList
    convert h using 2
    · apply String.toList_inj.1
      simp
    · apply String.toList_inj.1
      simp
  · have h := Event.readAll_congr htag hbefore htext.inert hnone
      (by simpa using Event.ofTag_append htext hlast) after.toList
    convert h using 2
    · apply String.toList_inj.1
      simp
    · apply String.toList_inj.1
      simp

theorem malformed_attribute_unnoticed_parent :
    parse ("<class name='A'" ++ " inheritsFrom=B" ++ "/>" ++ "") = parse ("<class name='A'" ++ "/>" ++ "") ∧
    parse ("<class name='A'" ++ " name=\"B\"" ++ "/>" ++ "") = parse ("<class name='A'" ++ "/>" ++ "") := by
  have htag : Event.InTag "<class name='A'".toList "class name='A'".toList := rfl
  have hunquoted : Malformed "class name='A'".toList " inheritsFrom=B".toList := by
    have htext : " inheritsFrom=B".toList = ' ' :: "inheritsFrom=B".toList := by simp
    rw [htext]
    refine .unquoted rfl ?_ ?_
    · simp [Attribute.isQuote]
    · simp
  have hrepeated : Malformed "class name='A'".toList " name=\"B\"".toList := by
    have hseen : ⟨"name", "A"⟩ ∈ Attribute.readAll (attributePart "class name='A'".toList) := by
      decide +kernel
    have hwords : ∀ c ∈ "B".toList, isSpace c = false := by simp [isSpace]
    exact .repeated (a := ⟨"name", "B"⟩) ⟨by decide, by decide⟩ hwords hseen rfl rfl
  exact ⟨malformed_attribute_unnoticed _ _ "/>" "" _ htag hunquoted (.inl rfl),
    malformed_attribute_unnoticed _ _ "/>" "" _ htag hrepeated (.inl rfl)⟩

/-- The parent of `A` and the length have no quotes, the comment has no value, the type is there for
the second time, and the parent of `B` lacks the quote at its end. -/
def malformedText : String :=
  "<class name='A' inheritsFrom=B><attribute name='marks' comment><primitivelist length=3>" ++
    "<primitive type='int' type='byte'/></primitivelist></attribute></class>" ++
  "<class name='B' x'=' ' inheritsFrom='A/>"

def defaultedSet : RecordSet where
  records := [
    { name := "A", parent := "root", fields := [
      { name := "marks", typeName := "int", kind := .fixedList }] },
    { name := "B", parent := "root" }]
  distinct := by decide

theorem malformed_attributes_defaulted : parse malformedText = .ok defaultedSet :=
  RecordSet.eq_ok_of_records (by decide +kernel)

end Description

end RecordIdl
