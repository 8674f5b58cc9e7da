import RecordIdl.Text.Utf8
import RecordIdl.Xml.Fault

namespace RecordIdl.Xml

def predefinedEntities : List (List Char × Char) :=
  [(['l', 't'], '<'), (['g', 't'], '>'), (['a', 'm', 'p'], '&'), (['a', 'p', 'o', 's'], '\''),
   (['q', 'u', 'o', 't'], '"')]

def hexDigit? (c : Char) : Option Nat :=
  if c.isDigit then some (c.toNat - '0'.toNat)
  else if 'a' ≤ c ∧ c ≤ 'f' then some (c.toNat - 'a'.toNat + 10)
  else if 'A' ≤ c ∧ c ≤ 'F' then some (c.toNat - 'A'.toNat + 10)
  else none

def decimalDigit? (c : Char) : Option Nat :=
  if c.isDigit then some (c.toNat - '0'.toNat) else none

/-- Digits count from the left, so of a bad digit and too large a number the earlier one is told. -/
def code (base : Nat) (digit? : Char → Option Nat) (cs : List Char) : Except CharacterFault Nat :=
  cs.foldlM (fun n c =>
    match digit? c with
    | none => .error .invalidDigit
    | some d => if base * n + d < UInt32.size then .ok (base * n + d) else .error .tooLarge) 0

def unsignedCode (base : Nat) (digit? : Char → Option Nat) : List Char → Except CharacterFault Nat
  | [] => .error .empty
  | '+' :: _ | '-' :: _ => .error .signed
  | cs => code base digit? cs

def character (cs : List Char) : Except CharacterFault Char := do
  let n ← match cs with
    | 'x' :: hex => unsignedCode 16 hexDigit? hex
    | _ => unsignedCode 10 decimalDigit? cs
  if n = 0 then .error .nul
  else if n.isValidChar then .ok (Char.ofNat n)
  else .error (.notCodePoint n)

def referent (start stop : Nat) (name : List Char) : Except Fault Char :=
  match name with
  | '#' :: number => (character number).mapError .badCharacter
  | _ =>
    match predefinedEntities.lookup name with
    | some c => .ok c
    | none => .error (.unknownEntity start stop (String.ofList name))

structure OpenReference where
  start : Nat
  name : List Char

def expandFrom (position : Nat) : Option OpenReference → List Char → Except Fault (List Char)
  | none, [] => .ok []
  | some r, [] => .error (.unterminatedReference r.start position)
  | none, c :: cs =>
    if c = '&' then expandFrom (position + 1) (some ⟨position, []⟩) cs
    else (expandFrom (position + c.utf8Size) none cs).map (c :: ·)
  | some r, c :: cs =>
    if c = ';' then do
      let d ← referent (r.start + 1) position r.name.reverse
      (expandFrom (position + 1) none cs).map (d :: ·)
    else if c = '&' then
      .error (.unterminatedReference r.start (position + Text.utf8Width (c :: cs)))
    else expandFrom (position + c.utf8Size) (some ⟨r.start, c :: r.name⟩) cs

def expand (cs : List Char) : Except Fault (List Char) :=
  expandFrom 0 none cs

end RecordIdl.Xml
