import RecordIdl.Proofs.EscapedProperties
import RecordIdl.Proofs.ExceptSequence

namespace RecordIdl.Properties

def trimmed (value : String) : String :=
  String.ofList (Text.trimEnd value.toList)

/-- A key and a value on a line, with blanks between and around them. -/
structure WrittenEntry where
  key : String
  value : String
  indent : Gap
  before : Gap
  sign : Option Char
  after : Gap
  tail : Gap
  keyed : key ≠ ""
  signed : ∀ c ∈ sign, isSign c = true
  separated : sign = none → value ≠ "" → before.text ≠ []

namespace WrittenEntry

variable (e : WrittenEntry)

def valuePart : List Char :=
  escape e.value.toList ++ e.tail.text

def rest : List Char :=
  e.before.text ++ (e.sign.toList ++ (e.after.text ++ e.valuePart))

def text : List Char :=
  e.indent.text ++ (escape e.key.toList ++ e.rest)

theorem key_ne_nil : e.key.toList ≠ [] :=
  mt String.toList_eq_nil_iff.1 e.keyed

theorem isContinued_rest : isContinued e.rest = false := by
  have hsign : isContinued e.sign.toList = false := by
    cases hc : e.sign with
    | none => rfl
    | some c =>
        apply isContinued_singleton
        rintro rfl
        cases e.signed _ hc
  have hvalue := isContinued_append (isContinued_escape e.value.toList) e.tail.isContinued
  exact isContinued_append e.before.isContinued
    (isContinued_append hsign (isContinued_append e.after.isContinued hvalue))

theorem trimStart_text : Text.trimStart e.text = escape e.key.toList ++ e.rest := by
  obtain ⟨c, rest, hkey, hblank, -⟩ := escape_head e.key_ne_nil
  rw [text, e.indent.trimStart_append, hkey]
  exact Text.trimStart_cons hblank _

theorem trimEnd_value :
    Text.trimEnd (unescape (Text.trimStart e.valuePart)) = Text.trimEnd e.value.toList := by
  by_cases hvalue : e.value.toList = []
  · rw [valuePart, hvalue, escape, List.flatMap_nil, List.nil_append, e.tail.trimStart]
    rfl
  · obtain ⟨c, rest, hescape, hblank, -⟩ := escape_head hvalue
    have hstart : Text.trimStart e.valuePart = e.valuePart := by
      rw [valuePart, hescape]
      exact Text.trimStart_cons hblank _
    rw [hstart, valuePart, unescape_escape, e.tail.unescape_eq,
      Text.trimEnd_append e.tail.isBlank_of_mem]

theorem trimStart_dropSign (bs : List Char) (hbs : ∀ c ∈ bs, Text.isBlank c = true) :
    Text.trimStart (dropSign (bs ++ (e.sign.toList ++ (e.after.text ++ e.valuePart)))) =
      Text.trimStart e.valuePart := by
  rw [dropSign, Text.trimStart_append hbs]
  cases hsign : e.sign with
  | some c =>
      have hc := e.signed c hsign
      have hblank : Text.isBlank c = false := by
        rw [Bool.eq_false_iff]
        intro hblank
        rw [(Gap.ne_slash hblank).2] at hc
        cases hc
      rw [Option.toList_some, List.singleton_append, Text.trimStart_cons hblank]
      simp only [hc, if_true]
      exact e.after.trimStart_append _
  | none =>
      rw [Option.toList_none, List.nil_append, e.after.trimStart_append]
      by_cases hvalue : e.value.toList = []
      · rw [valuePart, hvalue, escape, List.flatMap_nil, List.nil_append, e.tail.trimStart]
        rfl
      · obtain ⟨c, rest, hescape, hblank, hplain, -⟩ := escape_head hvalue
        rw [valuePart, hescape, List.cons_append, Text.trimStart_cons hblank]
        simp only [hplain, if_false, Bool.false_eq_true]
        exact Text.trimStart_cons hblank _

theorem splitKey_blank {cs : List Char} (h : ∀ c ∈ cs, Text.isBlank c = true) :
    (splitKey cs).key = [] ∧ Text.trimEnd (unescape (valueText (splitKey cs))) = [] := by
  cases cs with
  | nil => exact ⟨rfl, rfl⟩
  | cons b bs =>
      obtain ⟨hb, hbs⟩ := List.forall_mem_cons.1 h
      have hsplit : splitKey (b :: bs) = ⟨[], .blank, bs⟩ := by
        simp [splitKey, Gap.ne_slash hb, hb]
      rw [hsplit, valueText, if_pos rfl, dropSign, Text.trimStart_eq_nil hbs]
      exact ⟨rfl, rfl⟩

theorem splitKey_rest : (splitKey e.rest).key = [] ∧
    Text.trimEnd (unescape (valueText (splitKey e.rest))) = Text.trimEnd e.value.toList := by
  cases hbefore : e.before.text with
  | cons b bs =>
      have hgap : ∀ c ∈ b :: bs, Text.isBlank c = true := by
        rw [← hbefore]
        exact e.before.isBlank_of_mem
      obtain ⟨hb, hbs⟩ := List.forall_mem_cons.1 hgap
      have hsplit : splitKey e.rest =
          ⟨[], .blank, bs ++ (e.sign.toList ++ (e.after.text ++ e.valuePart))⟩ := by
        rw [rest, hbefore, List.cons_append]
        simp [splitKey, Gap.ne_slash hb, hb]
      rw [hsplit]
      refine ⟨rfl, ?_⟩
      rw [valueText, if_pos rfl, e.trimStart_dropSign bs hbs, e.trimEnd_value]
  | nil =>
      cases hsign : e.sign with
      | some c =>
          have hc := e.signed c hsign
          have hslash : c ≠ '\\' := by
            rintro rfl
            cases hc
          have hsplit : splitKey e.rest = ⟨[], .sign, e.after.text ++ e.valuePart⟩ := by
            rw [rest, hbefore, hsign]
            simp [splitKey, hslash, hc]
          have hending : KeyEnd.sign ≠ KeyEnd.blank := by decide
          rw [hsplit]
          refine ⟨rfl, ?_⟩
          rw [valueText, if_neg hending, e.after.trimStart_append, e.trimEnd_value]
      | none =>
          -- Without a separator the value is empty, and only blanks follow the key.
          have hvalue : e.value = "" := by
            by_contra hvalue
            exact e.separated hsign hvalue hbefore
          have hrest : e.rest = e.after.text ++ e.tail.text := by
            rw [rest, valuePart, hbefore, hsign, hvalue]
            rfl
          rw [hrest, hvalue]
          exact splitKey_blank (e.after.append e.tail).isBlank_of_mem

theorem entry_eq (number : Nat) (raw : List Char) :
    LogicalLine.entry ⟨number, raw, escape e.key.toList ++ e.rest⟩ = .ok (e.key, trimmed e.value) := by
  obtain ⟨hkey, hvalue⟩ := e.splitKey_rest
  have hne : e.key.toList.isEmpty = false := by simpa using e.keyed
  have hwhole : (splitKey (escape e.key.toList ++ e.rest)).key = e.key.toList := by
    rw [splitKey_escape, hkey, List.append_nil]
  have hrest : valueText (splitKey (escape e.key.toList ++ e.rest)) =
      valueText (splitKey e.rest) := by
    rw [splitKey_escape]
    rfl
  simp only [LogicalLine.entry, hwhole, hrest, hne, hvalue, String.ofList_toList]
  rfl

theorem exists_dropReturn : ∃ e' : WrittenEntry,
    e'.text = Text.dropReturn e.text ∧ e'.key = e.key ∧ e'.value = e.value := by
  by_cases hvalue : e.value.toList = []
  · cases hsign : e.sign with
    | some c =>
        have hc : '\r' ∉ [c] := by
          intro hmem
          obtain rfl := List.mem_singleton.1 hmem
          cases e.signed _ hsign
        refine ⟨{ e with after := (e.after.append e.tail).dropReturn, tail := .none }, ?_, rfl, rfl⟩
        simpa [text, rest, valuePart, hvalue, hsign, escape, Gap.none, Gap.dropReturn, Gap.append] using
          (Text.dropReturn_append hc (e.indent.text ++ (escape e.key.toList ++ e.before.text))
            (e.after.text ++ e.tail.text) (List.cons_ne_nil c [])).symm
    | none =>
        have hempty : e.value = "" := String.toList_eq_nil_iff.1 hvalue
        refine ⟨{ e with before := ((e.before.append e.after).append e.tail).dropReturn,
                         after := .none, tail := .none,
                         separated := fun _ hne => absurd hempty hne }, ?_, rfl, rfl⟩
        simpa [text, rest, valuePart, hvalue, hsign, escape, Gap.none, Gap.dropReturn, Gap.append] using
          (Text.dropReturn_append (not_mem_escape _).2 e.indent.text
            (e.before.text ++ (e.after.text ++ e.tail.text)) (escape_ne_nil e.key_ne_nil)).symm
  · refine ⟨{ e with tail := e.tail.dropReturn }, ?_, rfl, rfl⟩
    simpa [text, rest, valuePart, Gap.dropReturn] using
      (Text.dropReturn_append (not_mem_escape _).2 (e.indent.text ++ (escape e.key.toList ++
        (e.before.text ++ (e.sign.toList ++ e.after.text)))) e.tail.text (escape_ne_nil hvalue)).symm

theorem feed_not_mem_text : '\n' ∉ e.text := by
  have hsign : '\n' ∉ e.sign.toList := by
    intro h
    cases e.signed _ (Option.mem_toList.1 h)
  simp [text, rest, valuePart, Gap.feed_not_mem, hsign, (not_mem_escape _).1]

end WrittenEntry

inductive WrittenLine
  | blank (gap : Gap)
  | comment (indent : Gap) (mark : Char) (text : List Char) (marked : mark = '#' ∨ mark = '!')
      (inside : '\n' ∉ text)
  | entry (e : WrittenEntry)

namespace WrittenLine

def text : WrittenLine → List Char
  | blank gap => gap.text
  | comment indent mark text _ _ => indent.text ++ mark :: text
  | entry e => e.text

def pair? : WrittenLine → Option (String × String)
  | blank _ | comment .. => none
  | entry e => some (e.key, e.value)

theorem feed_not_mem_text (l : WrittenLine) : '\n' ∉ l.text := by
  cases l with
  | blank gap => exact gap.feed_not_mem
  | comment indent mark text marked inside =>
      have hmark : '\n' ≠ mark := by rcases marked with rfl | rfl <;> decide
      simp [WrittenLine.text, Gap.feed_not_mem, hmark, inside]
  | entry e => exact e.feed_not_mem_text

theorem exists_dropReturn (l : WrittenLine) : ∃ l' : WrittenLine,
    l'.text = Text.dropReturn l.text ∧ l'.pair? = l.pair? := by
  cases l with
  | blank gap => exact ⟨blank gap.dropReturn, rfl, rfl⟩
  | comment indent mark text marked inside =>
      have hmark : '\r' ∉ [mark] := by rcases marked with rfl | rfl <;> decide
      have hinside : '\n' ∉ Text.dropReturn text := by
        intro h
        apply inside
        rcases Text.dropReturn_cases text with heq | heq
        · rwa [heq] at h
        · rw [heq]
          exact List.mem_append_left _ h
      refine ⟨comment indent mark (Text.dropReturn text) marked hinside, ?_, rfl⟩
      simpa [WrittenLine.text] using
        (Text.dropReturn_append hmark indent.text text (List.cons_ne_nil mark [])).symm
  | entry e =>
      obtain ⟨e', htext, hkey, hvalue⟩ := e.exists_dropReturn
      exact ⟨entry e', htext, by rw [pair?, pair?, hkey, hvalue]⟩

end WrittenLine

/-- What a line gives: nothing, or an entry that the next line does not continue. -/
def Reads (raw : List Char) : Option (String × String) → Prop
  | none => isIgnored (Text.trimStart raw) = true
  | some e => isIgnored (Text.trimStart raw) = false ∧ isContinued (Text.trimStart raw) = false ∧
      ∀ number, LogicalLine.entry ⟨number, raw, Text.trimStart raw⟩ = .ok e

def cut (e : String × String) : String × String :=
  (e.1, trimmed e.2)

theorem reads_text (l : WrittenLine) : Reads l.text (l.pair?.map cut) := by
  cases l with
  | blank gap =>
      rw [WrittenLine.text, WrittenLine.pair?, Option.map_none, Reads, gap.trimStart]
      rfl
  | comment indent mark text marked inside =>
      have hblank : Text.isBlank mark = false := by rcases marked with rfl | rfl <;> rfl
      rw [WrittenLine.text, WrittenLine.pair?, Option.map_none, Reads, indent.trimStart_append,
        Text.trimStart_cons hblank, isIgnored]
      rcases marked with rfl | rfl <;> rfl
  | entry e =>
      rw [WrittenLine.text, WrittenLine.pair?, Option.map_some, Reads, e.trimStart_text]
      refine ⟨?_, isContinued_append (isContinued_escape _) e.isContinued_rest, fun number => ?_⟩
      · obtain ⟨c, rest, hescape, -, -, hstart⟩ :=
          escape_head e.key_ne_nil
        rw [hescape]
        exact hstart
      · exact e.entry_eq number e.text

theorem mapM_logicalLines {raws : List (List Char)} {es : List (Option (String × String))}
    (h : List.Forall₂ Reads raws es) (number : Nat) :
    (logicalLines number none raws).mapM LogicalLine.entry = .ok (es.filterMap id) := by
  induction h generalizing number with
  | nil => rfl
  | @cons raw e raws es hread _ ih =>
      cases e with
      | none =>
          have hstart : isIgnored (Text.trimStart raw) = true := hread
          rw [logicalLines, if_pos hstart, ih]
          rfl
      | some e =>
          obtain ⟨hstart, hwhole, hentry⟩ := hread
          rw [logicalLines, if_neg (by simp [hstart]), if_neg (by simp [hwhole]),
            mapM_cons_eq_ok_iff]
          exact ⟨e, _, hentry number, ih (number + 1), rfl⟩

def fileText (ls : List WrittenLine) : List Char :=
  ['\n'].intercalate (ls.map WrittenLine.text)

theorem reads_lines (ls : List WrittenLine) : ∃ es : List (Option (String × String)),
    List.Forall₂ Reads (Text.lines (fileText ls)) es ∧
      es.filterMap id = (ls.filterMap WrittenLine.pair?).map cut := by
  induction ls with
  | nil => exact ⟨[], .nil, rfl⟩
  | cons l ls ih =>
      cases ls with
      | nil =>
          have htext : fileText [l] = l.text := by simp [fileText]
          have hread := reads_text l
          rw [htext]
          by_cases hempty : l.text = []
          · -- A last line that is empty is no line, and it would give nothing.
            rw [hempty] at hread ⊢
            refine ⟨[], .nil, ?_⟩
            cases hpair : l.pair? with
            | none => simp [hpair]
            | some e =>
                rw [hpair] at hread
                cases hread.1
          · rw [Text.lines_eq l.feed_not_mem_text hempty]
            refine ⟨[l.pair?.map cut], .cons hread .nil, ?_⟩
            cases hpair : l.pair? <;> simp [hpair]
      | cons l' ls =>
          obtain ⟨es, hes, hentries⟩ := ih
          obtain ⟨l'', htext, hpair⟩ := l.exists_dropReturn
          have hread := reads_text l''
          have hlines : fileText (l :: l' :: ls) = l.text ++ '\n' :: fileText (l' :: ls) := by
            simp [fileText, List.intercalate_cons_cons]
          rw [hpair, htext] at hread
          rw [hlines, Text.lines_append l.feed_not_mem_text]
          refine ⟨l.pair?.map cut :: es, .cons hread hes, ?_⟩
          cases hl : l.pair? <;> simpa [hl] using hentries

/-- The value that was written last under a key. -/
def lastValue (ls : List WrittenLine) (key : String) : Option String :=
  (ls.filterMap WrittenLine.pair?).reverse.lookup key

theorem parse_fileText (ls : List WrittenLine) :
    parse (String.ofList (fileText ls)) = .ok ⟨(ls.filterMap WrittenLine.pair?).map cut⟩ := by
  obtain ⟨es, hes, hentries⟩ := reads_lines ls
  rw [parse, String.toList_ofList, mapM_logicalLines hes, hentries]
  rfl

theorem lookup_map_cut (es : List (String × String)) (key : String) :
    (es.map cut).lookup key = (es.lookup key).map trimmed := by
  induction es with
  | nil => rfl
  | cons e es ih =>
      rw [List.map_cons, cut, List.lookup_cons, List.lookup_cons, ih]
      split <;> rfl

/-- Written keys and values are read back, the last value of a key for each, but without the blanks
at its end. So they come back as they were just if no last value ends in a blank. -/
theorem written_properties_read (ls : List WrittenLine) : ∃ p,
    parse (String.ofList (fileText ls)) = .ok p ∧
    (∀ key, p.get? key = (lastValue ls key).map trimmed) ∧
    ((∀ key, p.get? key = lastValue ls key) ↔ ∀ key value, lastValue ls key = some value →
      ∀ c, value.toList.getLast? = some c → Text.isBlank c = false) := by
  have hget (key : String) :
      get? ⟨(ls.filterMap WrittenLine.pair?).map cut⟩ key =
        (lastValue ls key).map trimmed := by
    rw [get?, ← List.map_reverse, lookup_map_cut]
    rfl
  refine ⟨_, parse_fileText ls, hget, ?_⟩
  apply forall_congr'
  intro key
  rw [hget]
  cases lastValue ls key with
  | none => simp
  | some value =>
      rw [Option.map_some, Option.some_inj, ← String.toList_inj, trimmed, String.toList_ofList,
        Text.trimEnd_eq_self_iff]
      simp

def blankAtEnd : WrittenEntry where
  key := "key"
  value := "value "
  indent := .none
  before := .none
  sign := some '='
  after := .none
  tail := .none
  keyed := by decide
  signed := by
    rintro c ⟨⟩
    rfl
  separated := nofun

/-- The blank that the value was written with behind a backslash is lost. -/
theorem written_blank_lost :
    String.ofList (fileText [.entry blankAtEnd, .blank .none]) = "key=value\\ \n" ∧
    lastValue [.entry blankAtEnd, .blank .none] "key" = some "value " ∧
    parse "key=value\\ \n" = .ok ⟨[("key", "value")]⟩ := by
  decide +kernel

end RecordIdl.Properties
