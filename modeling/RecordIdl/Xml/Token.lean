import RecordIdl.Xml.Attribute

namespace RecordIdl.Xml

structure Feed (α : Type) where
  items : List α
  fault : Option Fault

def Feed.push {α : Type} (a : α) (f : Feed α) : Feed α :=
  ⟨a :: f.items, f.fault⟩

inductive Token
  | tag (text : List Char)
  | endTag (text : List Char)
  | other
  deriving DecidableEq, Repr

namespace Token

inductive DoctypePart
  | external (quote : Option Char)
  | subset
  | opening (text : List Char)
  | quoted (quote : Option Char)
  | plain
  | comment (dashes : Nat)
  | instruction (mark : Bool)
  | afterSubset

def nextQuote (quote : Option Char) (c : Char) : Option Char :=
  match quote with
  | some q => if c = q then none else some q
  | none => if Attribute.isQuote c then some c else none

def countMark (mark : Char) (n : Nat) (c : Char) : Nat :=
  if c = mark then min (n + 1) 2 else 0

/-- Declarations of the subset in whose quotes closing brackets do not count. -/
def quotedDeclarations : List (List Char) :=
  ["!ENTITY".toList, "!ATTLIST".toList, "!NOTATION".toList]

def DoctypePart.afterOpening (text : List Char) (c : Char) : DoctypePart :=
  let text := text ++ [c]
  if text = ['?'] then .instruction false
  else if text = ['!', '-', '-'] then .comment 0
  else if quotedDeclarations.contains text then .quoted none
  else if ("!--".toList :: quotedDeclarations).any text.isPrefixOf then .opening text
  else if c = '>' then .subset
  else .plain

def DoctypePart.next? (c : Char) : DoctypePart → Option DoctypePart
  | .external quote =>
    if quote.isNone ∧ c = '>' then none
    else if quote.isNone ∧ c = '[' then some .subset
    else some (.external (nextQuote quote c))
  | .subset => some (if c = ']' then .afterSubset else if c = '<' then .opening [] else .subset)
  | .opening text => some (.afterOpening text c)
  | .quoted quote =>
    some (if quote.isNone ∧ c = '>' then .subset else .quoted (nextQuote quote c))
  | .plain => some (if c = '>' then .subset else .plain)
  | .comment dashes =>
    some (if dashes = 2 ∧ c = '>' then .subset else .comment (countMark '-' dashes c))
  | .instruction mark =>
    some (if mark ∧ c = '>' then .subset else .instruction (c = '?'))
  | .afterSubset => if c = '>' then none else some .afterSubset

/-- Where the reading of a text stands; texts under way are reversed. -/
inductive Mode
  | between
  | characters
  | reference
  | markup
  | tag (text : List Char) (quote : Option Char)
  | endTag (text : List Char) (quote : Option Char)
  | instruction (text : List Char)
  | exclamation
  /-- In the opening word of a construct, with some of the word still owed. -/
  | word (what : Construct) (owed : List Char)
  | comment (dashes : Nat)
  | cdata (brackets : Nat)
  | doctype (named : Bool) (part : DoctypePart)

inductive Step
  | go (mode : Mode)
  | emit (token : Token) (mode : Mode)
  | fail (fault : Fault)

namespace Mode

def afterTagChar (text : List Char) (quote : Option Char) (c : Char) : Step :=
  if quote.isNone ∧ c = '>' then .emit (.tag text.reverse) .between
  else .go (.tag (c :: text) (nextQuote quote c))

def afterEndTagChar (text : List Char) (quote : Option Char) (c : Char) : Step :=
  if quote.isNone ∧ c = '>' then .emit (.endTag text.reverse) .between
  else .go (.endTag (c :: text) (nextQuote quote c))

def inside : Construct → Mode
  | .comment => .comment 0
  | .cdata => .cdata 0
  | _ => .doctype false (.external none)

def matchesWord (what : Construct) (owed c : Char) : Bool :=
  if what = .doctype then c.toUpper = owed else c = owed

def afterWordChar (what : Construct) (owed : List Char) (c : Char) : Step :=
  match owed with
  | [] => .fail (.unclosed what)
  | d :: ds =>
    if matchesWord what d c then .go (if ds.isEmpty then inside what else .word what ds)
    else .fail (.unclosed what)

/-- An instruction that is only `<?>` counts as not closed. -/
def afterInstructionChar (text : List Char) (c : Char) : Step :=
  if c = '>' then
    match text with
    | [] => .fail (.unclosed .instruction)
    | '?' :: _ => .emit .other .between
    | _ => .go (.instruction (c :: text))
  else .go (.instruction (c :: text))

def step (c : Char) : Mode → Step
  | .between =>
    if c = '<' then .go .markup
    else if c = '&' then .go .reference
    else if isSpace c then .go .between
    else .go .characters
  | .characters =>
    if c = '<' then .emit .other .markup
    else if c = '&' then .emit .other .reference
    else .go .characters
  | .reference =>
    if c = ';' then .emit .other .between
    else if c = '<' ∨ c = '&' then .fail (.unclosed .reference)
    else .go .reference
  | .markup =>
    if c = '!' then .go .exclamation
    else if c = '?' then .go (.instruction [])
    else if c = '/' then .go (.endTag [] none)
    else afterTagChar [] none c
  | .tag text quote => afterTagChar text quote c
  | .endTag text quote => afterEndTagChar text quote c
  | .instruction text => afterInstructionChar text c
  | .exclamation =>
    if c = '[' then .go (.word .cdata "CDATA[".toList)
    else if c = '-' then .go (.word .comment ['-'])
    else if c = 'D' ∨ c = 'd' then .go (.word .doctype "OCTYPE".toList)
    else .fail .unknownMarkup
  | .word what owed => afterWordChar what owed c
  | .comment dashes =>
    if dashes = 2 ∧ c = '>' then .emit .other .between else .go (.comment (countMark '-' dashes c))
  | .cdata brackets =>
    if brackets = 2 ∧ c = '>' then .emit .other .between
    else .go (.cdata (countMark ']' brackets c))
  | .doctype named part =>
    match part.next? c with
    | some part => .go (.doctype (named || !isSpace c) part)
    | none => if named then .emit .other .between else .fail .namelessDoctype

def instructionKind (text : List Char) : Construct :=
  match text with
  | 'x' :: 'm' :: 'l' :: rest =>
    if rest.head?.all fun c => isSpace c || c == '?' then .declaration else .instruction
  | _ => .instruction

def tagKind : Option Char → Construct
  | some q => .attributeValue q
  | none => .tag

def unclosed? : Mode → Option Fault
  | .between | .characters => none
  | .reference => some (.unclosed .reference)
  | .markup => some (.unclosed .tag)
  | .tag _ quote | .endTag _ quote => some (.unclosed (tagKind quote))
  | .instruction text => some (.unclosed (instructionKind text.reverse))
  | .exclamation => some .unknownMarkup
  | .word what _ => some (.unclosed what)
  | .comment _ => some (.unclosed .comment)
  | .cdata _ => some (.unclosed .cdata)
  | .doctype _ _ => some (.unclosed .doctype)

end Mode

def readFrom (mode : Mode) : List Char → Feed Token
  | [] => ⟨[], mode.unclosed?⟩
  | c :: cs =>
    match mode.step c with
    | .go next => readFrom next cs
    | .emit token next => (readFrom next cs).push token
    | .fail fault => ⟨[], some fault⟩

def readAll (cs : List Char) : Feed Token :=
  match cs with
  | '\uFEFF' :: cs => readFrom .between cs
  | _ => readFrom .between cs

end Token

end RecordIdl.Xml
