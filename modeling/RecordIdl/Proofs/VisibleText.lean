import Mathlib.Data.List.Infix
import RecordIdl.Schema.SchemaFile

namespace RecordIdl

theorem mem_intercalate {α : Type} {sep x : α} {xss : List (List α)}
    (h : x ∈ [sep].intercalate xss) : x = sep ∨ ∃ xs ∈ xss, x ∈ xs := by
  induction xss with
  | nil => cases h
  | cons xs xss ih =>
      cases xss with
      | nil => exact .inr ⟨xs, List.mem_cons_self, by simpa using h⟩
      | cons xs' xss =>
          rw [List.intercalate_cons_cons, List.mem_append, List.mem_append, List.mem_singleton] at h
          rcases h with (h | h) | h
          · exact .inr ⟨xs, List.mem_cons_self, h⟩
          · exact .inl h
          · refine (ih h).imp_right ?_
            rintro ⟨ys, hys, hx⟩
            exact ⟨ys, List.mem_cons_of_mem xs hys, hx⟩

theorem map_intercalate {α β : Type} {f : List α → List β} (hnil : f [] = [])
    (happend : ∀ xs ys, f (xs ++ ys) = f xs ++ f ys) (sep : List α) (xss : List (List α)) :
    f (sep.intercalate xss) = (f sep).intercalate (xss.map f) := by
  induction xss with
  | nil => exact hnil
  | cons xs xss ih =>
      cases xss with
      | nil => simp
      | cons xs' xss =>
          rw [List.intercalate_cons_cons, happend, happend, ih, List.map_cons, List.map_cons,
            List.map_cons, List.intercalate_cons_cons]

namespace Text

inductive Region
  | code
  | line
  | block
  deriving DecidableEq, Repr

/-- The text without its comments, and the region at its end. Two slashes open a comment up to the
end of the line; a slash and a star open one up to the first star with a slash behind it. -/
def scan : Region → List Char → List Char × Region
  | r, [] => ([], r)
  | .code, '/' :: '/' :: cs => scan .line cs
  | .code, '/' :: '*' :: cs => scan .block cs
  | .code, c :: cs => Prod.map (c :: ·) id (scan .code cs)
  | .line, '\n' :: cs => Prod.map ('\n' :: ·) id (scan .code cs)
  | .line, _ :: cs => scan .line cs
  | .block, '*' :: '/' :: cs => scan .code cs
  | .block, _ :: cs => scan .block cs

def inked (cs : List Char) : List (List Char) :=
  (cs.splitOn '\n').filter (·.any (!isBlank ·))

/-- The lines with more than white space that are left of a text without its comments. -/
def visibleLines (text : String) : List String :=
  (inked (scan .code text.toList).1).map String.ofList

variable {xs ys : List Char} {c : Char} {cs : List Char}

theorem scan_code (h : c = '/' → ∀ d ∈ cs.head?, d ≠ '/' ∧ d ≠ '*') :
    scan .code (c :: cs) = Prod.map (c :: ·) id (scan .code cs) := by
  rw [scan]
  · rintro cs' rfl rfl
    exact (h rfl _ rfl).1 rfl
  · rintro cs' rfl rfl
    exact (h rfl _ rfl).2 rfl

theorem scan_code_ne (hc : c ≠ '/') (cs : List Char) :
    scan .code (c :: cs) = Prod.map (c :: ·) id (scan .code cs) :=
  scan_code fun h => absurd h hc

theorem scan_line (h : c ≠ '\n') : scan .line (c :: cs) = scan .line cs := by
  rw [scan]
  exact h

theorem scan_block (h : c = '*' → ∀ d ∈ cs.head?, d ≠ '/') :
    scan .block (c :: cs) = scan .block cs := by
  rw [scan]
  rintro cs' rfl rfl
  exact h rfl _ rfl rfl

def Apart (ys : List Char) : Prop :=
  ∀ c ∈ ys.head?, c ≠ '/' ∧ c ≠ '*'

theorem scan_append (h : Apart ys) (r : Region) (xs : List Char) :
    scan r (xs ++ ys) = Prod.map ((scan r xs).1 ++ ·) id (scan (scan r xs).2 ys) := by
  have hhead (cs : List Char) {d : Char} (hd : d ∈ (cs ++ ys).head?) :
      d ∈ cs.head? ∨ d ≠ '/' ∧ d ≠ '*' := by
    cases cs with
    | nil => exact .inr (h d hd)
    | cons e cs => exact .inl hd
  fun_induction scan r xs with
  | case1 r => rfl
  | case2 cs ih => exact ih
  | case3 cs ih => exact ih
  | case4 c cs hline hblock ih =>
      rw [List.cons_append, scan_code, ih]
      · rfl
      · rintro rfl d hd
        rcases hhead cs hd with hd | hd
        · obtain ⟨cs', rfl⟩ := List.head?_eq_some_iff.1 hd
          exact ⟨fun hd => hline cs' rfl (by rw [hd]), fun hd => hblock cs' rfl (by rw [hd])⟩
        · exact hd
  | case5 cs ih => rw [List.cons_append, scan, ih]; rfl
  | case6 c cs hfeed ih =>
      rw [List.cons_append, scan_line hfeed]
      exact ih
  | case7 cs ih => exact ih
  | case8 c cs hend ih =>
      rw [List.cons_append, scan_block]
      · exact ih
      · rintro rfl d hd rfl
        rcases hhead cs hd with hd | hd
        · obtain ⟨cs', rfl⟩ := List.head?_eq_some_iff.1 hd
          exact hend cs' rfl rfl
        · exact hd.1 rfl

theorem apart_feed (cs : List Char) : Apart ('\n' :: cs) := by
  rintro c ⟨⟩
  decide

theorem scan_lines (r : Region) (xs ys : List Char) :
    scan r (xs ++ '\n' :: ys) =
      Prod.map ((scan r (xs ++ ['\n'])).1 ++ ·) id (scan (scan r (xs ++ ['\n'])).2 ys) := by
  rw [scan_append (apart_feed ys), scan_append (apart_feed [])]
  cases (scan r xs).2 <;> simp [scan, Prod.map]

/-- If whole lines leave no comment open, what they leave of the text are whole lines. -/
theorem exists_lines {r : Region} (h : (scan r (xs ++ ['\n'])).2 = .code) :
    ∃ out, (scan r (xs ++ ['\n'])).1 = out ++ ['\n'] := by
  rw [scan_append (apart_feed [])] at h ⊢
  cases hr : (scan r xs).2 with
  | code | line => exact ⟨(scan r xs).1, rfl⟩
  | block =>
      rw [hr] at h
      cases h

theorem scan_lineComment {comment : List Char} (h : '\n' ∉ comment) (rest : List Char) :
    scan .code ('/' :: '/' :: (comment ++ '\n' :: rest)) =
      Prod.map ('\n' :: ·) id (scan .code rest) := by
  rw [scan]
  induction comment with
  | nil => rw [List.nil_append, scan]
  | cons c cs ih =>
      have hc : c ≠ '\n' := fun hc => h (hc ▸ List.mem_cons_self)
      rw [List.cons_append, scan_line hc, ih fun hcs => h (List.mem_cons_of_mem c hcs)]

theorem scan_blockComment {comment : List Char} (h : ¬ ['*', '/'] <:+: comment) (rest : List Char) :
    scan .block (comment ++ ' ' :: '*' :: '/' :: rest) = scan .code rest := by
  induction comment with
  | nil =>
      have hspace : ' ' = '*' → ∀ d ∈ ('*' :: '/' :: rest).head?, d ≠ '/' := fun h => by cases h
      rw [List.nil_append, scan_block hspace, scan]
  | cons c cs ih =>
      rw [List.cons_append, scan_block, ih fun hcs => h (hcs.trans (List.suffix_cons c cs).isInfix)]
      rintro rfl d hd rfl
      cases cs with
      | nil => cases hd
      | cons d cs =>
          obtain rfl := Option.some.inj hd
          exact h (List.prefix_append ['*', '/'] cs).isInfix

def WholeLines (cs : List Char) : Prop :=
  cs = [] ∨ ∃ xs, cs = xs ++ ['\n']

theorem inked_feed (xs ys : List Char) : inked (xs ++ '\n' :: ys) = inked xs ++ inked ys := by
  rw [inked, List.splitOn_append_cons_self, List.filter_append]
  rfl

theorem inked_append (h : WholeLines xs) (ys : List Char) :
    inked (xs ++ ys) = inked xs ++ inked ys := by
  rcases h with rfl | ⟨cs, rfl⟩
  · rfl
  · rw [List.append_assoc, List.singleton_append, inked_feed, inked_feed]
    have hnil : inked [] = [] := rfl
    rw [hnil, List.append_nil]

end Text

open Text

/-- A part of a generated file: what is written whatever the comments are, or a comment. -/
inductive Passage
  | plain (text : String)
  | recordComment (comment : String)
  | fieldComment (comment : String)
  deriving DecidableEq, Repr

namespace Passage

def text : Passage → String
  | plain text => text
  | recordComment comment => SchemaFile.commentText (some comment)
  | fieldComment comment => SchemaItem.commentText (some comment)

def isPlain : Passage → Bool
  | plain _ => true
  | recordComment _ | fieldComment _ => false

def joined (ps : List Passage) : List Char :=
  ps.flatMap fun p => p.text.toList

theorem joined_intercalate (p : Passage) (pss : List (List Passage)) :
    joined ([p].intercalate pss) = p.text.toList.intercalate (pss.map joined) := by
  have hsep : joined [p] = p.text.toList := by simp [joined]
  have happend (ps qs : List Passage) : joined (ps ++ qs) = joined ps ++ joined qs :=
    List.flatMap_append
  rw [map_intercalate rfl happend, hsep]

theorem filter_intercalate {p : Passage} (hp : p.isPlain = true) (pss : List (List Passage)) :
    ([p].intercalate pss).filter isPlain = [p].intercalate (pss.map (·.filter isPlain)) := by
  have hsep : [p].filter isPlain = [p] := List.filter_cons_of_pos hp
  have h := map_intercalate (f := List.filter isPlain) rfl List.filter_append [p] pss
  rwa [hsep] at h

/-- No field comment ends early, and no comment stands in one that a plain passage opened. -/
def Shielded : Region → List Passage → Prop
  | _, [] => True
  | r, plain text :: ps => Shielded (scan r text.toList).2 ps
  | r, recordComment _ :: ps => r = .code ∧ Shielded .code ps
  | r, fieldComment comment :: ps =>
    r = .code ∧ ¬ ['*', '/'] <:+: comment.toList ∧ Shielded .code ps

instance : (r : Region) → (ps : List Passage) → Decidable (Shielded r ps)
  | _, [] => .isTrue trivial
  | r, plain text :: ps => instDecidableShielded (scan r text.toList).2 ps
  | r, recordComment _ :: ps =>
    have := instDecidableShielded .code ps
    inferInstanceAs (Decidable (r = .code ∧ Shielded .code ps))
  | r, fieldComment comment :: ps =>
    have := instDecidableShielded .code ps
    inferInstanceAs (Decidable (r = .code ∧ ¬ ['*', '/'] <:+: comment.toList ∧ Shielded .code ps))

def Whole : Passage → Prop
  | plain text => text.toList.getLast? = some '\n'
  | recordComment comment => '\n' ∉ comment.toList
  | fieldComment _ => True

theorem scan_recordComment {comment : String} (h : '\n' ∉ comment.toList) (rest : List Char) :
    scan .code ((recordComment comment).text.toList ++ rest) =
      Prod.map ('\n' :: ·) id (scan .code rest) := by
  have hline : '\n' ∉ ' ' :: comment.toList := by simpa using h
  have htext : (recordComment comment).text.toList ++ rest =
      '/' :: '/' :: (' ' :: comment.toList ++ '\n' :: rest) := by
    simp [text, SchemaFile.commentText]
  rw [htext, scan_lineComment hline]

theorem scan_fieldComment {comment : String} (h : ¬ ['*', '/'] <:+: comment.toList)
    (rest : List Char) : scan .code ((fieldComment comment).text.toList ++ rest) =
      Prod.map ([' ', ' ', '\n'] ++ ·) id (scan .code rest) := by
  have hblock : ¬ ['*', '/'] <:+: '*' :: ' ' :: comment.toList := by
    simp [List.infix_cons_iff, h]
  have htext : (fieldComment comment).text.toList ++ rest = ' ' :: ' ' :: '/' :: '*' ::
      ('*' :: ' ' :: comment.toList ++ ' ' :: '*' :: '/' :: '\n' :: rest) := by
    simp [text, SchemaItem.commentText]
  have hspace : ' ' ≠ '/' := by decide
  have hfeed : '\n' ≠ '/' := by decide
  rw [htext, scan_code_ne hspace, scan_code_ne hspace, scan, scan_blockComment hblock,
    scan_code_ne hfeed]
  rfl

theorem inked_joined {ps : List Passage} (hps : ∀ p ∈ ps, p.Whole) {r : Region} (h : Shielded r ps)
    {out : List Char} (hout : r = .code → WholeLines out) :
    inked (out ++ (scan r (joined ps)).1) =
      inked (out ++ (scan r (joined (ps.filter isPlain))).1) := by
  induction ps generalizing r out with
  | nil => rfl
  | cons p ps ih =>
      obtain ⟨hp, hrest⟩ := List.forall_mem_cons.1 hps
      cases p with
      | plain text =>
          obtain ⟨cs, hcs⟩ := List.getLast?_eq_some_iff.1 hp
          have hjoined (ps : List Passage) :
              joined (plain text :: ps) = cs ++ '\n' :: joined ps := by
            simp [joined, Passage.text, hcs]
          rw [List.filter_cons_of_pos rfl, hjoined, hjoined, scan_lines r cs (joined ps),
            scan_lines r cs (joined (ps.filter isPlain))]
          rw [Shielded, hcs] at h
          simp only [Prod.map_fst, ← List.append_assoc]
          apply ih hrest h
          intro hr
          obtain ⟨out', hout'⟩ := exists_lines hr
          exact .inr ⟨out ++ out', by rw [hout', List.append_assoc]⟩
      | recordComment comment =>
          obtain ⟨rfl, h⟩ := h
          have hjoined : joined (recordComment comment :: ps) =
            (recordComment comment).text.toList ++ joined ps := rfl
          rw [List.filter_cons_of_neg Bool.false_ne_true, ← ih hrest h hout, hjoined,
            scan_recordComment hp, inked_append (hout rfl), inked_append (hout rfl)]
          rfl
      | fieldComment comment =>
          obtain ⟨rfl, hend, h⟩ := h
          have hjoined : joined (fieldComment comment :: ps) =
            (fieldComment comment).text.toList ++ joined ps := rfl
          rw [List.filter_cons_of_neg Bool.false_ne_true, ← ih hrest h hout, hjoined,
            scan_fieldComment hend, inked_append (hout rfl), inked_append (hout rfl)]
          congr 1

theorem whole_append (s : String) {t : String} (h : (plain t).Whole) : (plain (s ++ t)).Whole := by
  rw [Whole, String.toList_append, List.getLast?_append, h]
  rfl

theorem whole_append_or {s t : String} (hs : (plain s).Whole) (ht : t = "" ∨ (plain t).Whole) :
    (plain (s ++ t)).Whole := by
  rcases ht with rfl | ht
  · rwa [String.append_empty]
  · exact whole_append s ht

end Passage

end RecordIdl
