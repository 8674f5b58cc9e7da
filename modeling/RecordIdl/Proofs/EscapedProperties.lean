import Mathlib.Data.List.Basic
import Mathlib.Data.List.TakeWhile
import RecordIdl.Input.Properties

namespace RecordIdl

namespace Text

variable {xs ys : List Char}

theorem trimStart_append (h : ∀ c ∈ xs, isBlank c = true) (ys : List Char) :
    trimStart (xs ++ ys) = trimStart ys :=
  List.dropWhile_append_of_pos h

theorem trimStart_eq_nil (h : ∀ c ∈ xs, isBlank c = true) : trimStart xs = [] :=
  List.dropWhile_eq_nil_iff.2 h

theorem trimStart_cons {c : Char} (hc : isBlank c = false) (cs : List Char) :
    trimStart (c :: cs) = c :: cs := by
  rw [trimStart, List.dropWhile_cons, hc]
  rfl

theorem trimEnd_append (h : ∀ c ∈ ys, isBlank c = true) (xs : List Char) :
    trimEnd (xs ++ ys) = trimEnd xs := by
  rw [trimEnd, List.reverse_append, List.dropWhile_append_of_pos]
  · rfl
  · intro c hc
    exact h c (List.mem_reverse.1 hc)

theorem trimEnd_eq_self_iff (cs : List Char) :
    trimEnd cs = cs ↔ ∀ c, cs.getLast? = some c → isBlank c = false := by
  rw [trimEnd, List.reverse_eq_iff, ← List.head?_reverse]
  cases cs.reverse with
  | nil => simp
  | cons c rest => simp [List.dropWhile_eq_self_iff]

theorem dropReturn_cases (line : List Char) :
    dropReturn line = line ∨ line = dropReturn line ++ ['\r'] := by
  rw [dropReturn]
  split
  · next h => exact .inr (List.dropLast_append_getLast? _ h).symm
  · exact .inl rfl

theorem dropReturn_append_of_ne_nil (hys : ys ≠ []) (xs : List Char) :
    dropReturn (xs ++ ys) = xs ++ dropReturn ys := by
  rw [dropReturn, dropReturn, List.getLast?_append_of_ne_nil _ hys, List.dropLast_append_of_ne_nil hys]
  split <;> rfl

theorem dropReturn_append (hxs : '\r' ∉ xs) (before ys : List Char) (hne : xs ≠ []) :
    dropReturn (before ++ xs ++ ys) = before ++ xs ++ dropReturn ys := by
  by_cases hys : ys = []
  · subst hys
    have hlast : dropReturn xs = xs := by
      apply if_neg
      intro hlast
      exact hxs (List.mem_of_getLast? hlast)
    rw [List.append_nil, dropReturn_append_of_ne_nil hne, hlast]
    exact (List.append_nil _).symm
  · exact dropReturn_append_of_ne_nil hys _

theorem lines_append_feed (body rest : List Char) :
    lines (body ++ '\n' :: rest) = (body.splitOn '\n').map dropReturn ++ lines rest := by
  obtain ⟨piece, pieces, hpieces⟩ := List.exists_cons_of_ne_nil (List.splitOn_ne_nil '\n' rest)
  simp [lines, List.splitOn_append_cons_self, hpieces, List.getLast?_cons]

theorem lines_append (h : '\n' ∉ xs) (rest : List Char) :
    lines (xs ++ '\n' :: rest) = dropReturn xs :: lines rest := by
  rw [lines_append_feed, List.splitOn_eq_singleton h]
  rfl

theorem lines_eq (h : '\n' ∉ xs) (hxs : xs ≠ []) : lines xs = [xs] := by
  have hpieces : xs.splitOn '\n' = [xs] := List.splitOn_eq_singleton h
  simp [lines, hpieces, hxs]

end Text

namespace Properties

def letter? : Char → Option Char
  | '\t' => some 't'
  | '\n' => some 'n'
  | '\r' => some 'r'
  | '\x0c' => some 'f'
  | _ => none

def marks : List Char := ['\\', '=', ':', '#', '!']

def escapeChar (c : Char) : List Char :=
  match letter? c with
  | some letter => ['\\', letter]
  | none => if Text.isBlank c || marks.contains c then ['\\', c] else [c]

def escape (cs : List Char) : List Char :=
  cs.flatMap escapeChar

theorem escaped_letter {c letter : Char} (h : letter? c = some letter) :
    escaped letter = c ∧ letter ≠ '\n' ∧ letter ≠ '\r' := by
  rw [letter?.eq_def] at h
  split at h <;> cases h <;> decide

theorem escaped_eq_self {c : Char} (h : Text.isBlank c = true ∨ c ∈ marks) : escaped c = c := by
  rw [escaped.eq_def]
  split
  all_goals first | rfl | (exfalso; revert h; decide)

/-- A character is written behind a backslash, or as it is because it means nothing in a line. -/
theorem escapeChar_cases (c : Char) :
    (∃ d, escapeChar c = ['\\', d] ∧ escaped d = c ∧ d ≠ '\n' ∧ d ≠ '\r') ∨
      escapeChar c = [c] ∧ Text.isBlank c = false ∧ c ∉ marks := by
  rw [escapeChar]
  cases hletter : letter? c with
  | some letter =>
      exact .inl ⟨letter, rfl, escaped_letter hletter⟩
  | none =>
      by_cases hc : Text.isBlank c = true ∨ c ∈ marks
      · refine .inl ⟨c, ?_, escaped_eq_self hc, ?_, ?_⟩
        · exact if_pos (by simpa using hc)
        · rintro rfl
          cases hletter
        · rintro rfl
          cases hletter
      · obtain ⟨hblank, hmarks⟩ := not_or.1 hc
        refine .inr ⟨?_, Bool.eq_false_iff.2 hblank, hmarks⟩
        exact if_neg (by simpa using hc)

theorem not_mem_escape (cs : List Char) : '\n' ∉ escape cs ∧ '\r' ∉ escape cs := by
  have hne : ∀ c ∈ escape cs, c ≠ '\n' ∧ c ≠ '\r' := by
    intro c h
    obtain ⟨c', -, hc⟩ := List.mem_flatMap.1 h
    rcases escapeChar_cases c' with ⟨d, hd, -, hfeed⟩ | ⟨hplain, hblank, -⟩
    · rw [hd, List.mem_pair] at hc
      rcases hc with rfl | rfl
      · decide
      · exact hfeed
    · rw [hplain, List.mem_singleton] at hc
      subst hc
      constructor <;> rintro rfl <;> cases hblank
  exact ⟨fun h => (hne _ h).1 rfl, fun h => (hne _ h).2 rfl⟩

/-- What is written starts a line or a value: it is no blank, no sign and no mark of a comment. -/
theorem escape_head {cs : List Char} (h : cs ≠ []) :
    ∃ c rest, escape cs = c :: rest ∧ Text.isBlank c = false ∧ isSign c = false ∧
      isIgnored (c :: rest) = false := by
  obtain ⟨c, cs, rfl⟩ := List.exists_cons_of_ne_nil h
  rw [escape, List.flatMap_cons]
  rcases escapeChar_cases c with ⟨d, hd, -⟩ | ⟨hplain, hblank, hmarks⟩
  · rw [hd]
    exact ⟨'\\', _, rfl, by decide, by decide, by simp [isIgnored]⟩
  · simp only [marks, List.mem_cons, List.not_mem_nil, or_false, not_or] at hmarks
    rw [hplain]
    exact ⟨c, _, rfl, hblank, by simp [isSign, hmarks], by simp [isIgnored, hmarks]⟩

theorem escape_ne_nil {cs : List Char} (h : cs ≠ []) : escape cs ≠ [] := by
  obtain ⟨c, rest, hescape, -⟩ := escape_head h
  rw [hescape]
  exact List.cons_ne_nil c rest

theorem unescape_cons {c : Char} (hc : c ≠ '\\') (cs : List Char) :
    unescape (c :: cs) = c :: unescape cs := by
  cases cs <;> simp [unescape, hc]

theorem unescape_escape (cs rest : List Char) :
    unescape (escape cs ++ rest) = cs ++ unescape rest := by
  induction cs with
  | nil => rfl
  | cons c cs ih =>
      rw [escape, List.flatMap_cons, ← escape, List.append_assoc]
      rcases escapeChar_cases c with ⟨d, hd, hescaped, -⟩ | ⟨hplain, -, hmarks⟩
      · rw [hd]
        simp [unescape, hescaped, ih]
      · have hc : c ≠ '\\' := fun hc => hmarks (by simp [marks, hc])
        rw [hplain, List.singleton_append, unescape_cons hc, ih]
        rfl

theorem splitKey_escape (cs rest : List Char) :
    splitKey (escape cs ++ rest) = { splitKey rest with key := cs ++ (splitKey rest).key } := by
  induction cs with
  | nil => rfl
  | cons c cs ih =>
      rw [escape, List.flatMap_cons, ← escape, List.append_assoc]
      rcases escapeChar_cases c with ⟨d, hd, hescaped, -⟩ | ⟨hplain, hblank, hmarks⟩
      · rw [hd]
        simp [splitKey, KeySplit.push, hescaped, ih]
      · simp only [marks, List.mem_cons, List.not_mem_nil, or_false, not_or] at hmarks
        rw [hplain]
        simp [splitKey, KeySplit.push, isSign, hblank, hmarks, ih]

/-- Whether a line is continued is told by its last part, if the parts before it are complete. -/
theorem isContinued_append_eq {xs : List Char} (hx : isContinued xs = false) (ys : List Char) :
    isContinued (xs ++ ys) = isContinued ys := by
  simp only [isContinued, decide_eq_false_iff_not, decide_eq_decide] at *
  rw [List.reverse_append, List.takeWhile_append]
  split
  · next hall =>
      rw [List.length_append]
      omega
  · rfl

theorem isContinued_append {xs ys : List Char} (hx : isContinued xs = false)
    (hy : isContinued ys = false) : isContinued (xs ++ ys) = false :=
  (isContinued_append_eq hx ys).trans hy

theorem isContinued_flatMap {f : Char → List Char} {cs : List Char}
    (h : ∀ c ∈ cs, isContinued (f c) = false) : isContinued (cs.flatMap f) = false := by
  induction cs with
  | nil => rfl
  | cons c cs ih =>
      obtain ⟨hc, hcs⟩ := List.forall_mem_cons.1 h
      rw [List.flatMap_cons]
      exact isContinued_append hc (ih hcs)

theorem isContinued_singleton {c : Char} (hc : c ≠ '\\') : isContinued [c] = false := by
  simp [isContinued, hc]

theorem isContinued_of_isBlank {cs : List Char} (h : ∀ c ∈ cs, Text.isBlank c = true) :
    isContinued cs = false := by
  rw [← List.flatMap_singleton' cs]
  apply isContinued_flatMap
  intro c hc
  apply isContinued_singleton
  rintro rfl
  cases h _ hc

theorem isContinued_escape (cs : List Char) : isContinued (escape cs) = false := by
  apply isContinued_flatMap
  intro c _
  rcases escapeChar_cases c with ⟨d, hd, -⟩ | ⟨hplain, -, hmarks⟩
  · rw [hd]
    by_cases hslash : d = '\\'
    · rw [hslash]
      rfl
    · simp [isContinued, hslash]
  · rw [hplain]
    exact isContinued_singleton fun hc => hmarks (by simp [marks, hc])

structure Gap where
  text : List Char
  blank : ∀ c ∈ text, Text.isBlank c = true ∧ c ≠ '\n'

namespace Gap

variable (g : Gap)

theorem isBlank_of_mem : ∀ c ∈ g.text, Text.isBlank c = true :=
  fun c hc => (g.blank c hc).1

theorem feed_not_mem : '\n' ∉ g.text :=
  fun h => (g.blank _ h).2 rfl

theorem ne_slash {c : Char} (hc : Text.isBlank c = true) : c ≠ '\\' ∧ isSign c = false := by
  constructor
  · rintro rfl
    cases hc
  · rw [Bool.eq_false_iff]
    intro hsign
    rw [isSign, Bool.or_eq_true, decide_eq_true_eq, decide_eq_true_eq] at hsign
    rcases hsign with rfl | rfl <;> cases hc

theorem isContinued : isContinued g.text = false :=
  isContinued_of_isBlank g.isBlank_of_mem

theorem trimStart_append (rest : List Char) :
    Text.trimStart (g.text ++ rest) = Text.trimStart rest :=
  Text.trimStart_append g.isBlank_of_mem rest

theorem trimStart : Text.trimStart g.text = [] :=
  Text.trimStart_eq_nil g.isBlank_of_mem

theorem unescape_eq : unescape g.text = g.text := by
  obtain ⟨text, blank⟩ := g
  induction text with
  | nil => rfl
  | cons c cs ih =>
      obtain ⟨hc, hcs⟩ := List.forall_mem_cons.1 blank
      rw [unescape_cons (ne_slash hc.1).1, ih hcs]

def none : Gap := ⟨[], by simp⟩

def append (g' : Gap) : Gap where
  text := g.text ++ g'.text
  blank c hc := (List.mem_append.1 hc).elim (g.blank c) (g'.blank c)

def dropReturn : Gap where
  text := Text.dropReturn g.text
  blank c hc := by
    apply g.blank
    rcases Text.dropReturn_cases g.text with h | h
    · rwa [h] at hc
    · rw [h]
      exact List.mem_append_left _ hc

end Gap

end Properties

end RecordIdl
