import RecordIdl.Proofs.EscapedValues
import RecordIdl.Xml.Event

namespace RecordIdl.Xml

def isPlain (name : String) : Bool :=
  name.toList ≠ [] && name.toList.all Char.isAlpha

def Attribute.text (a : Attribute) : List Char :=
  ' ' :: (a.name.toList ++ '=' :: '"' :: (a.raw.toList ++ ['"']))

def tagText (name : String) (attributes : List Attribute) : List Char :=
  name.toList ++ attributes.flatMap Attribute.text

/-- An attribute that can be written in double quotes. -/
structure Attribute.Written (a : Attribute) : Prop where
  plain : isPlain a.name = true
  unquoted : '"' ∉ a.raw.toList

structure WrittenTag (name : String) (attributes : List Attribute) : Prop where
  plain : isPlain name = true
  written : ∀ a ∈ attributes, a.Written
  distinct : (attributes.map Attribute.name).Nodup

theorem ne_of_isAlpha {c d : Char} (hc : c.isAlpha = true) (hd : d.isAlpha = false) : c ≠ d := by
  rintro rfl
  exact Bool.false_ne_true (hd.symm.trans hc)

theorem isSpace_of_isAlpha {c : Char} (h : c.isAlpha = true) : isSpace c = false := by
  have hblank : c ≠ ' ' := ne_of_isAlpha h (by decide)
  have htab : c ≠ '\t' := ne_of_isAlpha h (by decide)
  have hreturn : c ≠ '\r' := ne_of_isAlpha h (by decide)
  have hnewline : c ≠ '\n' := ne_of_isAlpha h (by decide)
  simp [isSpace, hblank, htab, hreturn, hnewline]

theorem isQuote_of_isAlpha {c : Char} (h : c.isAlpha = true) : Attribute.isQuote c = false := by
  have hdouble : c ≠ '"' := ne_of_isAlpha h (by decide)
  have hsingle : c ≠ '\'' := ne_of_isAlpha h (by decide)
  simp [Attribute.isQuote, hdouble, hsingle]

theorem isAlpha_of_isPlain {name : String} (h : isPlain name = true) :
    ∀ c ∈ name.toList, c.isAlpha = true := by
  rw [isPlain, Bool.and_eq_true] at h
  exact List.all_eq_true.1 h.2

theorem exists_cons_of_isPlain {name : String} (h : isPlain name = true) :
    ∃ c cs, name.toList = c :: cs ∧ c.isAlpha = true := by
  have halpha := isAlpha_of_isPlain h
  rw [isPlain, Bool.and_eq_true] at h
  obtain ⟨c, cs, heq⟩ := List.exists_cons_of_ne_nil (of_decide_eq_true h.1)
  exact ⟨c, cs, heq, halpha c (heq ▸ List.mem_cons_self)⟩

namespace Token

/-- A text that a tag takes in as it stands, whatever follows. -/
def Inert (text : List Char) : Prop :=
  ∀ before rest, readFrom (.tag before none) (text ++ rest) =
    readFrom (.tag (text.reverse ++ before) none) rest

theorem inert_append {xs ys : List Char} (hx : Inert xs) (hy : Inert ys) : Inert (xs ++ ys) := by
  intro before rest
  rw [List.append_assoc, hx, hy, List.reverse_append, List.append_assoc]

theorem inert_flatMap {α : Type} {f : α → List Char} {xs : List α} (h : ∀ x ∈ xs, Inert (f x)) :
    Inert (xs.flatMap f) := by
  induction xs with
  | nil => exact fun _ _ => rfl
  | cons x xs ih =>
      obtain ⟨hx, hxs⟩ := List.forall_mem_cons.1 h
      exact inert_append hx (ih hxs)

theorem inert_singleton {c : Char} (hquote : Attribute.isQuote c = false) (hclose : c ≠ '>') :
    Inert [c] := by
  intro before rest
  simp [readFrom, Mode.step, Mode.afterTagChar, nextQuote, hquote, hclose]

theorem inert_letters {cs : List Char} (h : ∀ c ∈ cs, c.isAlpha = true) : Inert cs := by
  rw [← List.flatMap_singleton' cs]
  intro before rest
  refine inert_flatMap (fun c hc => ?_) before rest
  exact inert_singleton (isQuote_of_isAlpha (h c hc)) (ne_of_isAlpha (h c hc) (by decide))

theorem readFrom_quoted {cs : List Char} (h : '"' ∉ cs) (before rest : List Char) :
    readFrom (.tag before (some '"')) (cs ++ '"' :: rest) =
      readFrom (.tag ('"' :: (cs.reverse ++ before)) none) rest := by
  induction cs generalizing before with
  | nil => simp [readFrom, Mode.step, Mode.afterTagChar, nextQuote]
  | cons c cs ih =>
      obtain ⟨hc, hcs⟩ := List.ne_and_not_mem_of_not_mem_cons h
      have hstep : Mode.step c (.tag before (some '"')) = .go (.tag (c :: before) (some '"')) := by
        simp [Mode.step, Mode.afterTagChar, nextQuote, Ne.symm hc]
      rw [List.cons_append, readFrom, hstep]
      refine (ih hcs (c :: before)).trans ?_
      simp

theorem inert_quoted {cs : List Char} (h : '"' ∉ cs) : Inert ('"' :: (cs ++ ['"'])) := by
  intro before rest
  have htext : '"' :: (cs ++ ['"']) ++ rest = '"' :: (cs ++ '"' :: rest) := by simp
  have hstep : Mode.step '"' (.tag before none) = .go (.tag ('"' :: before) (some '"')) := by
    simp [Mode.step, Mode.afterTagChar, nextQuote, Attribute.isQuote]
  rw [htext, readFrom, hstep]
  refine (readFrom_quoted h ('"' :: before) rest).trans ?_
  simp

theorem inert_attribute {a : Attribute} (h : a.Written) : Inert a.text := by
  have hspace : Inert [' '] := inert_singleton (by decide) (by decide)
  have hequals : Inert ['='] := inert_singleton (by decide) (by decide)
  have hname : Inert a.name.toList := inert_letters (isAlpha_of_isPlain h.plain)
  have hvalue : Inert (['='] ++ '"' :: (a.raw.toList ++ ['"'])) :=
    inert_append hequals (inert_quoted h.unquoted)
  exact inert_append hspace (inert_append hname hvalue)

theorem inert_tagText {name : String} {attributes : List Attribute}
    (h : WrittenTag name attributes) : Inert (tagText name attributes) :=
  inert_append (inert_letters (isAlpha_of_isPlain h.plain))
    (inert_flatMap fun a ha => inert_attribute (h.written a ha))

theorem readFrom_tag {text : List Char} (hhead : ∃ c cs, text = c :: cs ∧ c.isAlpha = true)
    (hinert : Inert text) (rest : List Char) :
    readFrom .between ('<' :: (text ++ '>' :: rest)) =
      (readFrom .between rest).push (.tag text) := by
  obtain ⟨c, cs, rfl, hc⟩ := hhead
  have hmark : c ≠ '!' := ne_of_isAlpha hc (by decide)
  have hquestion : c ≠ '?' := ne_of_isAlpha hc (by decide)
  have hslash : c ≠ '/' := ne_of_isAlpha hc (by decide)
  have hopen : readFrom .between ('<' :: (c :: cs ++ '>' :: rest)) =
      readFrom (.tag [] none) (c :: cs ++ '>' :: rest) := by
    simp [readFrom, Mode.step, hmark, hquestion, hslash]
  rw [hopen, hinert]
  simp [readFrom, Mode.step, Mode.afterTagChar]

theorem readFrom_tagText {name : String} {attributes : List Attribute}
    (h : WrittenTag name attributes) (rest : List Char) :
    readFrom .between ('<' :: (tagText name attributes ++ '>' :: rest)) =
      (readFrom .between rest).push (.tag (tagText name attributes)) := by
  obtain ⟨c, cs, hname, hc⟩ := exists_cons_of_isPlain h.plain
  have hhead : tagText name attributes = c :: (cs ++ attributes.flatMap Attribute.text) := by
    rw [tagText, hname, List.cons_append]
  exact readFrom_tag ⟨c, _, hhead, hc⟩ (inert_tagText h) rest

theorem readFrom_tagText_slash {name : String} {attributes : List Attribute}
    (h : WrittenTag name attributes) (rest : List Char) :
    readFrom .between ('<' :: (tagText name attributes ++ '/' :: '>' :: rest)) =
      (readFrom .between rest).push (.tag (tagText name attributes ++ ['/'])) := by
  obtain ⟨c, cs, hname, hc⟩ := exists_cons_of_isPlain h.plain
  have hhead : tagText name attributes ++ ['/'] =
      c :: (cs ++ attributes.flatMap Attribute.text ++ ['/']) := by
    rw [tagText, hname, List.cons_append, List.cons_append]
  have hslash : Inert ['/'] := inert_singleton (by decide) (by decide)
  have htag := readFrom_tag ⟨c, _, hhead, hc⟩ (inert_append (inert_tagText h) hslash) rest
  rwa [List.append_assoc, List.singleton_append] at htag

theorem readFrom_endTag {cs : List Char} (h : ∀ c ∈ cs, c.isAlpha = true) (rest : List Char) :
    readFrom .between ('<' :: '/' :: (cs ++ '>' :: rest)) =
      (readFrom .between rest).push (.endTag cs) := by
  have hname : ∀ before, readFrom (.endTag before none) (cs ++ '>' :: rest) =
      (readFrom .between rest).push (.endTag (before.reverse ++ cs)) := by
    induction cs with
    | nil => intro before; simp [readFrom, Mode.step, Mode.afterEndTagChar]
    | cons c cs ih =>
        intro before
        obtain ⟨hc, hcs⟩ := List.forall_mem_cons.1 h
        have hstep : Mode.step c (.endTag before none) = .go (.endTag (c :: before) none) := by
          simp [Mode.step, Mode.afterEndTagChar, nextQuote, isQuote_of_isAlpha hc, ne_of_isAlpha hc]
        rw [List.cons_append, readFrom, hstep]
        refine (ih hcs (c :: before)).trans ?_
        simp
  exact hname []

end Token

namespace Attribute

theorem readFrom_name {cs : List Char} (h : ∀ c ∈ cs, c.isAlpha = true) (seen : List (List Char))
    (before rest : List Char) :
    readFrom seen (.inName before) (cs ++ '=' :: rest) =
      readFrom (afterEquals seen (cs.reverse ++ before)).1
        (afterEquals seen (cs.reverse ++ before)).2 rest := by
  induction cs generalizing before with
  | nil => simp [readFrom]
  | cons c cs ih =>
      obtain ⟨hc, hcs⟩ := List.forall_mem_cons.1 h
      have hequals : c ≠ '=' := ne_of_isAlpha hc (by decide)
      rw [List.cons_append, readFrom, if_neg hequals, isSpace_of_isAlpha hc]
      refine (ih hcs (c :: before)).trans ?_
      simp

theorem readFrom_value {cs : List Char} (h : '"' ∉ cs) (seen : List (List Char))
    (name before rest : List Char) :
    readFrom seen (.inValue name '"' before) (cs ++ '"' :: rest) =
      ⟨String.ofList name.reverse, String.ofList (before.reverse ++ cs)⟩ ::
        readFrom seen .between rest := by
  induction cs generalizing before with
  | nil => simp [readFrom]
  | cons c cs ih =>
      obtain ⟨hc, hcs⟩ := List.ne_and_not_mem_of_not_mem_cons h
      rw [List.cons_append, readFrom, if_neg (Ne.symm hc)]
      refine (ih hcs (c :: before)).trans ?_
      simp

theorem readFrom_text_name {a : Attribute} (h : a.Written) (seen : List (List Char))
    (rest : List Char) :
    readFrom seen .between (a.text ++ rest) =
      readFrom (afterEquals seen a.name.toList.reverse).1
        (afterEquals seen a.name.toList.reverse).2 ('"' :: (a.raw.toList ++ '"' :: rest)) := by
  obtain ⟨c, cs, hname, hc⟩ := exists_cons_of_isPlain h.plain
  have halpha : ∀ c ∈ cs, c.isAlpha = true := by
    intro d hd
    exact isAlpha_of_isPlain h.plain d (hname ▸ List.mem_cons_of_mem c hd)
  have htext : a.text ++ rest =
      ' ' :: c :: (cs ++ '=' :: '"' :: (a.raw.toList ++ '"' :: rest)) := by
    simp [text, hname]
  have hreverse : cs.reverse ++ [c] = a.name.toList.reverse := by simp [hname]
  rw [htext, readFrom, if_pos (by decide), readFrom, isSpace_of_isAlpha hc,
    if_neg Bool.false_ne_true, readFrom_name halpha, hreverse]

theorem readFrom_text {a : Attribute} (h : a.Written) {seen : List (List Char)}
    (hnew : a.name.toList.reverse ∉ seen) (rest : List Char) :
    readFrom seen .between (a.text ++ rest) =
      a :: readFrom (a.name.toList.reverse :: seen) .between rest := by
  have hafter : afterEquals seen a.name.toList.reverse =
      (a.name.toList.reverse :: seen, .beforeValue a.name.toList.reverse) := if_neg hnew
  rw [readFrom_text_name h, hafter, readFrom, if_neg (by decide), if_pos (by decide),
    readFrom_value h.unquoted]
  simp

/-- Written attributes are read back if no name is repeated. -/
theorem readFrom_texts {attributes : List Attribute} (hwritten : ∀ a ∈ attributes, a.Written)
    (hdistinct : (attributes.map Attribute.name).Nodup) {seen : List (List Char)}
    (hnew : ∀ a ∈ attributes, a.name.toList.reverse ∉ seen) :
    readFrom seen .between (attributes.flatMap text) = attributes := by
  induction attributes generalizing seen with
  | nil => rfl
  | cons a attributes ih =>
      obtain ⟨ha, hattributes⟩ := List.forall_mem_cons.1 hwritten
      obtain ⟨hfresh, hdistinct⟩ := List.nodup_cons.1 hdistinct
      obtain ⟨hanew, hnew⟩ := List.forall_mem_cons.1 hnew
      rw [List.flatMap_cons, readFrom_text ha hanew, ih hattributes hdistinct]
      intro b hb hmem
      -- A later attribute meets the names before it as seen, and has none of them.
      rcases List.mem_cons.1 hmem with heq | hmem
      · have hname : b.name = a.name := String.toList_inj.1 (List.reverse_inj.1 heq)
        exact hfresh (hname ▸ List.mem_map_of_mem hb)
      · exact hnew b hb hmem

end Attribute

namespace Event

variable {name : String} {attributes : List Attribute}

theorem getLast?_tagText (h : WrittenTag name attributes) :
    (tagText name attributes).getLast? ≠ some '/' := by
  intro hlast
  rcases List.eq_nil_or_concat attributes with rfl | ⟨before, a, rfl⟩
  · have hmem : '/' ∈ name.toList := by
      simpa [tagText] using List.mem_of_getLast? hlast
    exact ne_of_isAlpha (isAlpha_of_isPlain h.plain '/' hmem) (by decide) rfl
  · have htext : tagText name (before.concat a) = name.toList ++ before.flatMap Attribute.text ++
        ' ' :: (a.name.toList ++ '=' :: '"' :: a.raw.toList) ++ ['"'] := by
      simp [tagText, Attribute.text]
    rw [htext, List.getLast?_concat] at hlast
    exact absurd (Option.some.inj hlast) (by decide)

theorem nameEnd_tagText (h : WrittenTag name attributes) :
    (tagText name attributes).takeWhile (!isSpace ·) = name.toList ∧
      (tagText name attributes).dropWhile (!isSpace ·) = attributes.flatMap Attribute.text := by
  have hname : ∀ c ∈ name.toList, (!isSpace c) = true := by
    intro c hc
    rw [isSpace_of_isAlpha (isAlpha_of_isPlain h.plain c hc)]
    rfl
  rw [tagText, List.takeWhile_append_of_pos hname, List.dropWhile_append_of_pos hname]
  cases attributes with
  | nil => simp
  | cons a attributes => simp [Attribute.text, isSpace]

theorem ofTag_tagText (h : WrittenTag name attributes) :
    ofTag (tagText name attributes) = .start name attributes := by
  obtain ⟨hbefore, hafter⟩ := nameEnd_tagText h
  have hread : Attribute.readAll (attributes.flatMap Attribute.text) = attributes :=
    Attribute.readFrom_texts h.written h.distinct (by simp)
  simp only [ofTag, if_neg (getLast?_tagText h), hbefore, hafter, hread, String.ofList_toList]

theorem ofTag_tagText_slash (h : WrittenTag name attributes) :
    ofTag (tagText name attributes ++ ['/']) = .empty name attributes := by
  obtain ⟨hbefore, hafter⟩ := nameEnd_tagText h
  have hread : Attribute.readAll (attributes.flatMap Attribute.text) = attributes :=
    Attribute.readFrom_texts h.written h.distinct (by simp)
  simp only [ofTag, List.getLast?_concat, if_pos, List.dropLast_concat, hbefore, hafter, hread,
    String.ofList_toList]

theorem endName_toList (h : isPlain name = true) : endName name.toList = name := by
  have hspace : ∀ c ∈ name.toList, isSpace c = false := fun c hc =>
    isSpace_of_isAlpha (isAlpha_of_isPlain h c hc)
  obtain ⟨c, cs, hname, hc⟩ := exists_cons_of_isPlain h
  have hall : name.toList.all isSpace = false := by
    simp [hname, isSpace_of_isAlpha hc]
  have hkept : name.toList.reverse.dropWhile isSpace = name.toList.reverse := by
    cases hlast : name.toList.reverse with
    | nil => rfl
    | cons d ds =>
        have hd : d ∈ name.toList := by
          rw [← List.mem_reverse, hlast]
          exact List.mem_cons_self
        exact List.dropWhile_cons_of_neg (by simp [hspace d hd])
  rw [endName, hall, if_neg Bool.false_ne_true, hkept, List.reverse_reverse, String.ofList_toList]

end Event

def attributesOf (values : List (String × String)) : List Attribute :=
  values.map fun v => .ofValue v.1 v.2

theorem writtenTag_attributesOf {values : List (String × String)} (name : String)
    (names : List String) (hvalues : values.map Prod.fst = names)
    (hplain : ∀ n ∈ name :: names, isPlain n = true) (hdistinct : names.Nodup) :
    WrittenTag name (attributesOf values) := by
  subst hvalues
  obtain ⟨hname, hnames⟩ := List.forall_mem_cons.1 hplain
  refine ⟨hname, ?_, ?_⟩
  · intro a ha
    obtain ⟨v, hv, rfl⟩ := List.mem_map.1 ha
    have hraw : '"' ∉ escape v.2.toList := quote_not_mem_escape v.2.toList
    exact ⟨hnames v.1 (List.mem_map_of_mem hv), by simpa [Attribute.ofValue] using hraw⟩
  · simpa [attributesOf, Attribute.ofValue, Function.comp_def] using hdistinct

end RecordIdl.Xml
