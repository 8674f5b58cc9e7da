import RecordIdl.Input.InputFault
import RecordIdl.Text.Blank

namespace RecordIdl

/-- Entries in the order of the file; of several under one key the last holds. -/
structure Properties where
  entries : List (String × String) := []
  deriving DecidableEq, Repr

namespace Properties

def get? (p : Properties) (key : String) : Option String :=
  p.entries.reverse.lookup key

def contains (p : Properties) (key : String) : Bool :=
  (p.get? key).isSome

def insert (p : Properties) (key value : String) : Properties :=
  ⟨p.entries ++ [(key, value)]⟩

def latest : List (String × String) → List (String × String)
  | [] => []
  | e :: es => if es.any (·.1 = e.1) then latest es else e :: latest es

def bindings (p : Properties) : List (String × String) :=
  (latest p.entries).mergeSort fun a b => decide (a.1 ≤ b.1)

structure LogicalLine where
  number : Nat
  raw : List Char
  text : List Char

def isContinued (text : List Char) : Bool :=
  (text.reverse.takeWhile (· = '\\')).length % 2 = 1

def isIgnored : List Char → Bool
  | [] => true
  | c :: _ => c = '#' || c = '!'

/-- The logical lines from line `number` on, `pending` being the one that still waits for its
continuation. Only the first line of a logical line can be blank or a comment. -/
def logicalLines (number : Nat) : Option LogicalLine → List (List Char) → List LogicalLine
  | none, [] => []
  | some l, [] => [{ l with text := l.text.dropLast }]
  | none, raw :: rest =>
    let text := Text.trimStart raw
    if isIgnored text then logicalLines (number + 1) none rest
    else if isContinued text then logicalLines (number + 1) (some ⟨number, raw, text⟩) rest
    else ⟨number, raw, text⟩ :: logicalLines (number + 1) none rest
  | some l, raw :: rest =>
    let joined := { l with text := l.text.dropLast ++ Text.trimStart raw }
    if isContinued joined.text then logicalLines (number + 1) (some joined) rest
    else joined :: logicalLines (number + 1) none rest

def escaped : Char → Char
  | 't' => '\t'
  | 'n' => '\n'
  | 'r' => '\r'
  | 'f' => '\x0c'
  | c => c

def unescape : List Char → List Char
  | [] => []
  | '\\' :: [] => []
  | '\\' :: c :: cs => escaped c :: unescape cs
  | c :: cs => c :: unescape cs

inductive KeyEnd
  | sign
  | blank
  | line
  deriving DecidableEq, Repr

structure KeySplit where
  key : List Char
  ending : KeyEnd
  rest : List Char

def KeySplit.push (c : Char) (s : KeySplit) : KeySplit :=
  { s with key := c :: s.key }

def isSign (c : Char) : Bool :=
  c = '=' || c = ':'

def splitKey : List Char → KeySplit
  | [] => ⟨[], .line, []⟩
  | '\\' :: [] => ⟨[], .line, []⟩
  | '\\' :: c :: cs => (splitKey cs).push (escaped c)
  | c :: cs =>
    if isSign c then ⟨[], .sign, cs⟩
    else if Text.isBlank c then ⟨[], .blank, cs⟩
    else (splitKey cs).push c

def dropSign (cs : List Char) : List Char :=
  match Text.trimStart cs with
  | c :: rest => if isSign c then rest else c :: rest
  | [] => []

def valueText (s : KeySplit) : List Char :=
  Text.trimStart (if s.ending = .blank then dropSign s.rest else s.rest)

/-- Blanks at the end of a value are cut after its escapes are resolved. -/
def LogicalLine.entry (l : LogicalLine) : Except InputFault (String × String) :=
  let split := splitKey l.text
  if split.key.isEmpty then throw (.keylessProperty l.number (String.ofList l.raw))
  else pure (String.ofList split.key, String.ofList (Text.trimEnd (unescape (valueText split))))

def parse (text : String) : Except InputFault Properties := do
  pure ⟨← (logicalLines 1 none (Text.lines text.toList)).mapM LogicalLine.entry⟩

end Properties

end RecordIdl
