namespace RecordIdl.Xml

inductive Construct
  | instruction
  | declaration
  | comment
  | doctype
  | cdata
  | tag
  | attributeValue (quote : Char)
  | reference
  deriving DecidableEq, Repr

def Construct.describe : Construct → String
  | instruction => "syntax error: processing instruction not closed: `?>`"
  | declaration => "syntax error: XML declaration not closed: `?>`"
  | comment => "syntax error: comment not closed: `-->`"
  | doctype => "syntax error: DOCTYPE not closed: `>`"
  | cdata => "syntax error: CDATA not closed: `]]>`"
  | tag => "syntax error: tag not closed: `>`"
  | attributeValue quote => s!"syntax error: attribute value not closed: `{quote}`"
  | reference => "ill-formed document: entity or character reference not closed: `;`"

inductive CharacterFault
  | signed
  | empty
  | invalidDigit
  | tooLarge
  | notCodePoint (code : Nat)
  | nul
  deriving DecidableEq, Repr

def CharacterFault.message : CharacterFault → String
  | signed => "unexpected number sign"
  | empty => "cannot parse integer from empty string"
  | invalidDigit => "invalid digit found in string"
  | tooLarge => "number too large to fit in target type"
  | notCodePoint code => s!"`{code}` is not a valid codepoint"
  | nul => "0x0 character is not permitted in XML"

/-- Ranges are given in bytes of the attribute value they stand in. -/
inductive Fault
  | unknownMarkup
  | unclosed (what : Construct)
  | namelessDoctype
  | mismatchedEnd (expected found : String)
  | unmatchedEnd (found : String)
  | unterminatedReference (start stop : Nat)
  | unknownEntity (start stop : Nat) (name : String)
  | badCharacter (cause : CharacterFault)
  deriving DecidableEq, Repr

def Fault.message : Fault → String
  | unknownMarkup => "syntax error: unknown or missed symbol in markup"
  | unclosed what => what.describe ++ " not found before end of input"
  | namelessDoctype =>
    "ill-formed document: `<!DOCTYPE>` declaration does not contain a name of a document type"
  | mismatchedEnd expected found =>
    s!"ill-formed document: expected `</{expected}>`, but `</{found}>` was found"
  | unmatchedEnd found =>
    s!"ill-formed document: close tag `</{found}>` does not match any open tag"
  | unterminatedReference start stop =>
    s!"Error while escaping character at range {start}..{stop}: Cannot find ';' after '&'"
  | unknownEntity start stop name => s!"at {start}..{stop}: unrecognized entity `{name}`"
  | badCharacter cause => "invalid character reference: " ++ cause.message

end RecordIdl.Xml
