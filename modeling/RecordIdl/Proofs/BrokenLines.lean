import Mathlib.Logic.Relation
import RecordIdl.Proofs.ExceptSequence
import RecordIdl.Proofs.LogicalLines

namespace RecordIdl

namespace Text

theorem trimStart_append_flush {xs ys : List Char} (h : trimStart ys = ys) :
    trimStart (xs ++ ys) = trimStart xs ++ ys := by
  rw [trimStart, List.dropWhile_append]
  split
  · next hblank => rw [trimStart, List.isEmpty_iff.1 hblank, List.nil_append, ← trimStart, h]
  · rfl

inductive EndsLine (line : List Char) : List Char → Prop
  | text : EndsLine line []
  | feed {rest : List Char} (h : line.getLast? ≠ some '\r') : EndsLine line ('\n' :: rest)
  | carriageReturn {rest : List Char} : EndsLine line ('\r' :: '\n' :: rest)

theorem EndsLine.exists_later {line after : List Char} (h : EndsLine line after) :
    ∃ later, ∀ line', '\n' ∉ line' → EndsLine line' after →
      lines (line' ++ after) = line' :: later ∨ line' ++ after = [] ∧ later = [] := by
  cases h with
  | text =>
      refine ⟨[], fun line' hfeed _ => ?_⟩
      rw [List.append_nil]
      by_cases hline : line' = []
      · exact .inr ⟨hline, rfl⟩
      · exact .inl (lines_eq hfeed hline)
  | @feed rest _ =>
      refine ⟨lines rest, fun line' hfeed h => .inl ?_⟩
      cases h with
      | feed hreturn => rw [lines_append hfeed, dropReturn, if_neg hreturn]
  | @carriageReturn rest =>
      refine ⟨lines rest, fun line' hfeed _ => .inl ?_⟩
      have hfeed' : '\n' ∉ line' ++ ['\r'] := by simpa using hfeed
      have hreturn : dropReturn (line' ++ ['\r']) = line' := by simp [dropReturn]
      rw [List.append_cons, lines_append hfeed', hreturn]

end Text

namespace Properties

variable {raws : List (List Char)} {pending : Option LogicalLine}
variable {head indent tail line after : List Char} {later : List (List Char)}

def entryOf? (text : List Char) : Option (String × String) :=
  (LogicalLine.entry ⟨0, [], text⟩).toOption

theorem toOption_entry (l : LogicalLine) : l.entry.toOption = entryOf? l.text := by
  rw [entryOf?, LogicalLine.entry, LogicalLine.entry]
  cases (splitKey l.text).key.isEmpty <;> rfl

theorem toOption_parse (t : String) : (parse t).toOption =
    (((logicalLines 1 none (Text.lines t.toList)).map LogicalLine.text).mapM entryOf?).map
      Properties.mk := by
  rw [parse, toOption_bind_pure, toOption_mapM, List.mapM_map]
  exact congrArg (Option.map _) (congrArg (List.mapM · _) (funext toOption_entry))

theorem alike_text (k : Nat) : Alike k LogicalLine.text LogicalLine.text where
  starts _ _ _ := rfl
  text_eq h := h
  goesOn _ _ := rfl

theorem logicalLines_lines (h : Leaves raws pending) (hline : InProperty raws line)
    (hlater : Text.lines (line ++ after) = line :: later ∨ line ++ after = [] ∧ later = [])
    (number : Nat) : logicalLines number pending (Text.lines (line ++ after)) =
      logicalLines number pending (line :: later) := by
  rcases hlater with hlater | ⟨hnil, rfl⟩
  · rw [hlater]
  obtain ⟨rfl, rfl⟩ := List.append_eq_nil_iff.1 hnil
  cases pending with
  | none => simpa [Text.trimStart, isIgnored] using (h.inProperty_iff []).1 hline
  | some l =>
      have hcomplete : isContinued (l.text.dropLast ++ Text.trimStart []) = false :=
        (isContinued_append_eq h.isContinued_openText _).trans rfl
      rw [logicalLines_some, readOn, if_neg (by simp [hcomplete])]
      exact congrArg (fun text => [{ l with text }]) (List.append_nil _).symm

theorem inProperty_head (h : Leaves raws pending) (hline : InProperty raws (head ++ tail))
    (hflush : Text.trimStart tail = tail) : InProperty raws (head ++ ['\\']) := by
  rw [h.inProperty_iff] at hline ⊢
  refine hline.imp_right fun hstart => ?_
  rw [Text.trimStart_append_flush (Text.trimStart_cons (by decide) [])]
  rw [Text.trimStart_append_flush hflush] at hstart
  cases hhead : Text.trimStart head with
  | nil => rfl
  | cons c cs => rwa [hhead] at hstart

theorem map_text_break (h : Leaves raws pending) (hline : InProperty raws (head ++ tail))
    (heven : isContinued head = false) (hindent : ∀ c ∈ indent, Text.isBlank c = true)
    (hflush : Text.trimStart tail = tail) (later : List (List Char)) (number : Nat) :
    (logicalLines number pending ((head ++ ['\\']) :: (indent ++ tail) :: later)).map
        LogicalLine.text =
      (logicalLines number pending ((head ++ tail) :: later)).map LogicalLine.text := by
  obtain ⟨l, htext, hread⟩ := h.exists_readOn hline number
  obtain ⟨l', htext', hread'⟩ := h.exists_readOn (inProperty_head h hline hflush) number
  rw [Text.trimStart_append_flush hflush] at htext
  rw [Text.trimStart_append_flush (Text.trimStart_cons (by decide) []), ← List.append_assoc] at htext'
  have hopen : isContinued (openText pending ++ Text.trimStart head) = false :=
    isContinued_append h.isContinued_openText ((isContinued_trimStart head).trans heven)
  have hcontinued : isContinued l'.text = true := by
    rw [htext', isContinued_append_eq hopen]
    rfl
  rw [hread, hread', readOn, if_pos hcontinued, logicalLines_some]
  refine ((alike_text 1).readOn ?_ (number + 1) later).symm
  rw [htext, htext', List.dropLast_concat, Text.trimStart_append hindent, hflush, List.append_assoc]

/-- A line of a property, and a place where it can be broken: not behind a backslash that stands for
the character that follows, and not in front of a blank. -/
structure Break where
  before : List Char
  head : List Char
  indent : List Char
  tail : List Char
  after : List Char
  whole : Text.Whole before
  inside : '\n' ∉ head ++ tail
  ends : Text.EndsLine (head ++ tail) after
  inProperty : InProperty (Text.lines before) (head ++ tail)
  even : isContinued head = false
  indented : ∀ c ∈ indent, c = ' ' ∨ c = '\t'
  flush : ∀ c ∈ tail.head?, Text.isBlank c = false

namespace Break

variable (b : Break)

def text : String :=
  String.ofList (b.before ++ (b.head ++ b.tail ++ b.after))

def broken : String :=
  String.ofList (b.before ++ (b.head ++ '\\' :: '\n' :: (b.indent ++ b.tail ++ b.after)))

theorem isBlank_of_mem_indent : ∀ c ∈ b.indent, Text.isBlank c = true := by
  intro c hc
  rcases b.indented c hc with rfl | rfl <;> decide

theorem trimStart_tail : Text.trimStart b.tail = b.tail := by
  cases htail : b.tail with
  | nil => rfl
  | cons c cs => exact Text.trimStart_cons (b.flush c (by rw [htail]; rfl)) cs

theorem inside_second : '\n' ∉ b.indent ++ b.tail := by
  intro hmem
  rcases List.mem_append.1 hmem with h | h
  · rcases b.indented _ h with h | h <;> cases h
  · exact b.inside (List.mem_append_right _ h)

theorem ends_second : Text.EndsLine (b.indent ++ b.tail) b.after := by
  have hends := b.ends
  generalize b.after = after at hends ⊢
  cases hends with
  | text => exact .text
  | carriageReturn => exact .carriageReturn
  | feed h =>
      refine .feed fun hlast => ?_
      by_cases htail : b.tail = []
      · rw [htail, List.append_nil] at hlast
        rcases b.indented _ (List.mem_of_getLast? hlast) with hc | hc <;> cases hc
      · rw [List.getLast?_append_of_ne_nil _ htail] at h hlast
        exact h hlast

theorem lines_text : Text.lines b.text.toList =
    Text.lines b.before ++ Text.lines (b.head ++ b.tail ++ b.after) := by
  rw [text, String.toList_ofList, Text.lines_append_of_whole b.whole]

theorem lines_broken : Text.lines b.broken.toList = Text.lines b.before ++
    (b.head ++ ['\\']) :: Text.lines (b.indent ++ b.tail ++ b.after) := by
  have hfeed : '\n' ∉ b.head ++ ['\\'] := by
    rw [List.mem_append, List.mem_singleton]
    rintro (h | h)
    · exact b.inside (List.mem_append_left _ h)
    · cases h
  have hreturn : Text.dropReturn (b.head ++ ['\\']) = b.head ++ ['\\'] :=
    Text.dropReturn_append_of_ne_nil (List.cons_ne_nil _ _) b.head
  rw [broken, String.toList_ofList, Text.lines_append_of_whole b.whole, List.append_cons,
    Text.lines_append hfeed, hreturn]

/-- Both texts have the same logical lines but for the lines that these are joined from. -/
theorem toOption_parse_broken : (parse b.broken).toOption = (parse b.text).toOption := by
  obtain ⟨done, pending, hleaves, hread⟩ := exists_leaves 1 (Text.lines b.before)
  obtain ⟨later, hlater⟩ := b.ends.exists_later
  have hfirst := inProperty_head hleaves b.inProperty b.trimStart_tail
  have hsecond : InProperty (Text.lines b.before ++ [b.head ++ ['\\']]) (b.indent ++ b.tail) :=
    .continues hfirst (isContinued_append_eq b.even _)
  obtain ⟨more, pending', hleaves', hmore⟩ :=
    hleaves.of_inProperty hfirst (1 + (Text.lines b.before).length)
  rw [toOption_parse, toOption_parse, b.lines_text, b.lines_broken, hread, hread, List.map_append,
    List.map_append, logicalLines_lines hleaves b.inProperty (hlater _ b.inside b.ends), hmore,
    logicalLines_lines hleaves' hsecond (hlater _ b.inside_second b.ends_second), ← hmore,
    map_text_break hleaves b.inProperty b.even b.isBlank_of_mem_indent b.trimStart_tail]

end Break

/-- One line of the first text is broken in the second. -/
def Breaks (s t : String) : Prop :=
  ∃ b : Break, s = b.text ∧ t = b.broken

/-- Breaking lines, also parts of lines that were broken before, makes no text unreadable, nor one
readable that was not, and changes no entry. -/
theorem parse_of_breaks {s t : String} (h : Relation.ReflTransGen Breaks s t) (p : Properties) :
    parse t = .ok p ↔ parse s = .ok p := by
  have hok (x : Except InputFault Properties) : x = .ok p ↔ x.toOption = some p := by
    cases x <;> simp [Except.toOption]
  rw [hok, hok]
  suffices hsame : (parse t).toOption = (parse s).toOption by rw [hsame]
  induction h with
  | refl => rfl
  | tail _ hbreaks ih =>
      obtain ⟨b, rfl, rfl⟩ := hbreaks
      exact b.toOption_parse_broken.trans ih

def valueBreak : Break where
  before := "! n\n".toList
  head := "key = a".toList
  indent := ['\t', ' ']
  tail := "#b".toList
  after := []
  whole := .inr ⟨"! n".toList, rfl⟩
  inside := by decide
  ends := .text
  inProperty := .starts rfl
  even := rfl
  indented := by simp
  flush := by
    rintro c ⟨⟩
    rfl

def markBreak : Break where
  before := "! n\nkey = a\\\n".toList
  head := "\t #".toList
  indent := []
  tail := "b".toList
  after := []
  whole := .inr ⟨"! n\nkey = a\\".toList, rfl⟩
  inside := by decide
  ends := .text
  inProperty :=
    show InProperty (["! n".toList] ++ ["key = a\\".toList]) _ from
      .continues (.starts rfl) rfl
  even := rfl
  indented := by simp
  flush := by
    rintro c ⟨⟩
    rfl

def keyBreak : Break where
  before := "! n\n".toList
  head := "k".toList
  indent := [' ']
  tail := "ey = a\\".toList
  after := "\n\t #\\\nb".toList
  whole := .inr ⟨"! n".toList, rfl⟩
  inside := by decide
  ends := .feed (by decide)
  inProperty := .starts rfl
  even := rfl
  indented := by simp
  flush := by
    rintro c ⟨⟩
    rfl

theorem parse_of_breaks_mark :
    Relation.ReflTransGen Breaks "! n\nkey = a#b" "! n\nk\\\n ey = a\\\n\t #\\\nb" ∧
    parse "! n\nk\\\n ey = a\\\n\t #\\\nb" = .ok ⟨[("key", "a#b")]⟩ := by
  have hvalue : Breaks "! n\nkey = a#b" "! n\nkey = a\\\n\t #b" := ⟨valueBreak, rfl, rfl⟩
  have hmark : Breaks "! n\nkey = a\\\n\t #b" "! n\nkey = a\\\n\t #\\\nb" := ⟨markBreak, rfl, rfl⟩
  have hkey : Breaks "! n\nkey = a\\\n\t #\\\nb" "! n\nk\\\n ey = a\\\n\t #\\\nb" :=
    ⟨keyBreak, rfl, rfl⟩
  have hbreaks := ((Relation.ReflTransGen.single hvalue).tail hmark).tail hkey
  have hparse : parse "! n\nkey = a#b" = .ok ⟨[("key", "a#b")]⟩ := by decide +kernel
  exact ⟨hbreaks, (parse_of_breaks hbreaks _).2 hparse⟩

end Properties

end RecordIdl
