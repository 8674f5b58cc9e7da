import RecordIdl.Proofs.ExceptSequence
import RecordIdl.Proofs.LogicalLines

namespace RecordIdl.Properties

variable {t u : String} {k : Nat}

def LogicalLine.shift (k : Nat) (l : LogicalLine) : LogicalLine :=
  { l with number := l.number + k }

def shiftFault (k : Nat) : InputFault → InputFault
  | .keylessProperty line content => .keylessProperty (line + k) content
  | fault => fault

theorem alike_shift (k : Nat) : Alike k (LogicalLine.shift k) id where
  starts _ _ _ := rfl
  text_eq {l l'} h :=
    show (l.shift k).text = l'.text from congrArg LogicalLine.text h
  goesOn text h := congrArg (fun l : LogicalLine => { l with text := text }) h

theorem logicalLines_shift (number : Nat) (raws : List (List Char)) :
    logicalLines (number + k) none raws =
      (logicalLines number none raws).map (LogicalLine.shift k) := by
  have hnone : (none : Option LogicalLine).map (LogicalLine.shift k) =
      (none : Option LogicalLine).map id := rfl
  rw [(alike_shift k).logicalLines raws number hnone, List.map_id]

theorem entry_shift (l : LogicalLine) : (l.shift k).entry = l.entry.mapError (shiftFault k) := by
  rw [LogicalLine.entry, LogicalLine.entry]
  cases h : (splitKey l.text).key.isEmpty <;> simp [LogicalLine.shift, h] <;> rfl

theorem entry_eq_error {l : LogicalLine} {fault : InputFault} (h : l.entry = .error fault) :
    fault = .keylessProperty l.number (String.ofList l.raw) := by
  rw [LogicalLine.entry] at h
  split at h
  · exact (Except.error.inj h).symm
  · cases h

def entriesFrom (number : Nat) (t : String) : Except InputFault (List (String × String)) :=
  (logicalLines number none (Text.lines t.toList)).mapM LogicalLine.entry

theorem parse_eq_map (t : String) : parse t = (entriesFrom 1 t).map Properties.mk := by
  rw [parse, entriesFrom]
  cases (logicalLines 1 none (Text.lines t.toList)).mapM LogicalLine.entry <;> rfl

theorem entriesFrom_shift (t : String) :
    entriesFrom (1 + k) t = (entriesFrom 1 t).mapError (shiftFault k) := by
  rw [entriesFrom, entriesFrom, logicalLines_shift, mapM_map_eq_mapError entry_shift]

theorem get?_append (es fs : List (String × String)) (key : String) :
    get? ⟨es ++ fs⟩ key = (get? ⟨fs⟩ key).or (get? ⟨es⟩ key) := by
  rw [get?, List.reverse_append, List.lookup_append]
  rfl

/-- The last line, if it belongs to a property, is not continued. -/
def Closed (raws : List (List Char)) : Prop :=
  ∀ before last, raws = before ++ [last] → InProperty before last → isContinued last = false

theorem Leaves.eq_none {raws : List (List Char)} {pending : Option LogicalLine}
    (h : Leaves raws pending) (hclosed : Closed raws) : pending = none := by
  by_contra hpending
  -- A blank line would still belong to the property.
  have hopen : InProperty raws [] := (h.inProperty_iff []).2 (.inl (Option.isSome_iff_ne_none.2 hpending))
  rcases List.eq_nil_or_concat' raws with rfl | ⟨before, last, rfl⟩
  · cases inProperty_nil_iff.1 hopen
  · rcases inProperty_concat_iff.1 hopen with ⟨hlast, hcontinued⟩ | hstart
    · rw [hclosed before last rfl hlast] at hcontinued
      cases hcontinued
    · cases hstart

theorem entriesFrom_append (hwhole : Text.Whole t.toList) (hclosed : Closed (Text.lines t.toList)) :
    entriesFrom 1 (t ++ u) = (entriesFrom 1 t >>= fun es =>
      (entriesFrom (1 + (Text.lines t.toList).length) u).map (es ++ ·)) := by
  obtain ⟨done, pending, hleaves, hread⟩ := exists_leaves 1 (Text.lines t.toList)
  obtain rfl := hleaves.eq_none hclosed
  have ht : logicalLines 1 none (Text.lines t.toList) = done := by
    have h := hread []
    rwa [List.append_nil, logicalLines, List.append_nil] at h
  rw [entriesFrom, entriesFrom, entriesFrom, String.toList_append,
    Text.lines_append_of_whole hwhole, hread, List.mapM_append, ht]
  rfl

/-- What is wrong in the first text goes before what is wrong in the second, whose lines are counted
on; and where a key is in both, the value of the second holds. -/
theorem parse_append (hwhole : Text.Whole t.toList)
    (hclosed : Closed (Text.lines t.toList)) :
    (∀ fault, parse t = .error fault → parse (t ++ u) = .error fault) ∧
    (∀ p fault, parse t = .ok p → parse u = .error fault → ∃ line content,
      fault = .keylessProperty line content ∧ parse (t ++ u) =
        .error (.keylessProperty (line + (Text.lines t.toList).length) content)) ∧
    ∀ p q, parse t = .ok p → parse u = .ok q → ∃ both, parse (t ++ u) = .ok both ∧
      ∀ key, both.get? key = (q.get? key).or (p.get? key) := by
  have hparse : parse (t ++ u) = (entriesFrom 1 t >>= fun es =>
      (entriesFrom (1 + (Text.lines t.toList).length) u).map (es ++ ·)).map Properties.mk := by
    rw [parse_eq_map, entriesFrom_append hwhole hclosed]
  rw [entriesFrom_shift] at hparse
  simp only [hparse, parse_eq_map, map_eq_error_iff, map_eq_ok_iff]
  refine ⟨fun fault ht => ?_, ?_, ?_⟩
  · rw [ht]
    rfl
  · rintro _ fault ⟨es, ht, rfl⟩ hu
    obtain ⟨before, l, after, -, -, hl⟩ := mapM_eq_error_iff.1 hu
    obtain rfl := entry_eq_error hl
    refine ⟨l.number, String.ofList l.raw, rfl, ?_⟩
    rw [ht, hu]
    rfl
  · rintro _ _ ⟨es, ht, rfl⟩ ⟨fs, hu, rfl⟩
    refine ⟨⟨es ++ fs⟩, ⟨es ++ fs, ?_, rfl⟩, get?_append es fs⟩
    rw [ht, hu]
    rfl

def notedText : String := "a=1\r\nb=2\n! see \\\n"

theorem parse_append_noted :
    Text.Whole notedText.toList ∧ Closed (Text.lines notedText.toList) ∧
    parse notedText = .ok ⟨[("a", "1"), ("b", "2")]⟩ ∧
    parse (notedText ++ "c\n: d") = .error (.keylessProperty 5 ": d") ∧
    ∃ both, parse (notedText ++ "b:3") = .ok both ∧
      both.get? "a" = some "1" ∧ both.get? "b" = some "3" := by
  have hwhole : Text.Whole notedText.toList := .inr ⟨"a=1\r\nb=2\n! see \\".toList, by decide +kernel⟩
  have hlines : Text.lines notedText.toList =
      (["a=1".toList] ++ ["b=2".toList]) ++ ["! see \\".toList] := by
    decide +kernel
  have hclosed : Closed (Text.lines notedText.toList) := by
    intro before last h hlast
    obtain ⟨rfl, hlast'⟩ := List.append_inj' (hlines.symm.trans h) rfl
    obtain rfl := (List.cons.inj hlast').1
    rcases inProperty_concat_iff.1 hlast with ⟨-, hcontinued⟩ | hstart
    · revert hcontinued
      decide
    · revert hstart
      decide
  have hfirst : parse notedText = .ok ⟨[("a", "1"), ("b", "2")]⟩ := by decide +kernel
  have hfault : parse "c\n: d" = .error (.keylessProperty 2 ": d") := by decide +kernel
  have hsecond : parse "b:3" = .ok ⟨[("b", "3")]⟩ := by decide +kernel
  refine ⟨hwhole, hclosed, hfirst, ?_, ?_⟩
  · obtain ⟨line, content, heq, happend⟩ := (parse_append hwhole hclosed).2.1 _ _ hfirst hfault
    obtain ⟨rfl, rfl⟩ := InputFault.keylessProperty.inj heq
    rw [happend, hlines]
    rfl
  · obtain ⟨both, happend, hget⟩ := (parse_append hwhole hclosed).2.2 _ _ hfirst hsecond
    refine ⟨both, happend, ?_, ?_⟩
    · rw [hget]
      decide +kernel
    · rw [hget]
      decide +kernel

end RecordIdl.Properties
