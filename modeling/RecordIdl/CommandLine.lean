import RecordIdl.Run

namespace RecordIdl

namespace CommandLine

inductive Flag
  | package
  | offset
  | types
  | commands
  | aliases
  deriving DecidableEq, Repr

def Flag.ofLong? (name : String) : Option Flag :=
  if name = "namespace" then some .package
  else if name = "offset" then some .offset
  else if name = "types" then some .types
  else if name = "commands" then some .commands
  else if name = "aliases" then some .aliases
  else none

def Flag.ofShort? (c : Char) : Option Flag :=
  if c = 'n' then some .package else if c = 'o' then some .offset else none

def Flag.describe : Flag → String
  | package => "--namespace <NAMESPACE>"
  | offset => "--offset <OFFSET>"
  | types => "--types <TYPES>"
  | commands => "--commands <COMMANDS>"
  | aliases => "--aliases <ALIASES>"

inductive Misuse
  | unknownOption (name : String)
  | surplusArgument (argument : String)
  | surplusValue (option value : String)
  | missingValue (what : String)
  | badOffset (value : String)
  | repeated (flag : Flag)
  | missingRecords
  deriving DecidableEq, Repr

def Misuse.message : Misuse → String
  | unknownOption name =>
    s!"unexpected argument '{name}' found\n\n  tip: to pass '{name}' as a value, use '-- {name}'"
  | surplusArgument argument => s!"unexpected argument '{argument}' found"
  | surplusValue option value =>
    s!"unexpected value '{value}' for '{option}' found; no more were expected"
  | missingValue what => s!"a value is required for '{what}' but none was supplied"
  | badOffset value =>
    let what := Flag.offset.describe
    s!"invalid value '{value}' for '{what}': it is not a number from 0 to 4294967295"
  | repeated flag =>
    let what := flag.describe
    s!"the argument '{what}' cannot be used multiple times"
  | missingRecords => "the following required arguments were not provided:\n  <RECORDS>"

structure Arguments where
  records : Option String := none
  outputDir : Option String := none
  package : Option String := none
  offset : Option UInt32 := none
  types : Option String := none
  commands : Option String := none
  aliases : Option String := none
  deriving DecidableEq, Repr

def pathOf (what text : String) : Except Misuse String :=
  if text = "" then throw (.missingValue what) else pure text

/-- An offset may have a sign but has to be a number from 0 to 2³² - 1. -/
def offsetOf (text : String) : Except Misuse UInt32 :=
  match Text.signed64? text with
  | some n =>
    if 0 ≤ n ∧ n < UInt32.size then pure (UInt32.ofNat n.toNat) else throw (.badOffset text)
  | none => throw (.badOffset text)

namespace Arguments

def isGiven (a : Arguments) : Flag → Bool
  | .package => a.package.isSome
  | .offset => a.offset.isSome
  | .types => a.types.isSome
  | .commands => a.commands.isSome
  | .aliases => a.aliases.isSome

def set (a : Arguments) (flag : Flag) (value : String) : Except Misuse Arguments :=
  match flag with
  | .package => pure { a with package := some value }
  | .offset => do return { a with offset := some (← offsetOf value) }
  | .types => do return { a with types := some (← pathOf flag.describe value) }
  | .commands => do return { a with commands := some (← pathOf flag.describe value) }
  | .aliases => do return { a with aliases := some (← pathOf flag.describe value) }

/-- An option that is given twice is refused before its value is looked at. -/
def assign (a : Arguments) (flag : Flag) (value : String) : Except Misuse Arguments :=
  if a.isGiven flag then throw (.repeated flag) else a.set flag value

def place (a : Arguments) (value : String) : Except Misuse Arguments :=
  if a.records.isNone then do return { a with records := some (← pathOf "<RECORDS>" value) }
  else if a.outputDir.isNone then do
    return { a with outputDir := some (← pathOf "[OUTPUT_DIR]" value) }
  else throw (.surplusArgument value)

def settings (a : Arguments) : Settings :=
  { package := a.package
    idOffset := a.offset.getD 0
    outputDir := a.outputDir.getD "schema" }

def overrideFiles (a : Arguments) : OverrideFiles :=
  { types := a.types, responses := a.commands, aliases := a.aliases }

end Arguments

inductive Shape
  | endOfOptions
  | version
  | help
  | given (flag : Flag) (value : String)
  /-- An option whose value is the next argument. -/
  | wanting (flag : Flag)
  | wrong (misuse : Misuse)
  | positional

def longShape (cs : List Char) : Shape :=
  let name := String.ofList (cs.takeWhile (· ≠ '='))
  let value := cs.dropWhile (· ≠ '=')
  match Flag.ofLong? name, value with
  | some flag, _ :: value => .given flag (String.ofList value)
  | some flag, [] => .wanting flag
  | none, [] =>
    if name = "version" then .version
    else if name = "help" then .help
    else .wrong (.unknownOption ("--" ++ name))
  | none, _ :: value =>
    if name = "version" ∨ name = "help" then
      .wrong (.surplusValue ("--" ++ name) (String.ofList value))
    else .wrong (.unknownOption ("--" ++ name))

def shortShape (c : Char) (cs : List Char) : Shape :=
  match Flag.ofShort? c, cs with
  | some flag, [] => .wanting flag
  | some flag, '=' :: value => .given flag (String.ofList value)
  | some flag, value => .given flag (String.ofList value)
  | none, _ =>
    if c = 'V' then .version
    else if c = 'h' then .help
    else .wrong (.unknownOption (String.ofList ['-', c]))

def shape (argument : String) : Shape :=
  match argument.toList with
  | ['-', '-'] => .endOfOptions
  | '-' :: '-' :: cs => longShape cs
  | '-' :: c :: cs => shortShape c cs
  | _ => .positional

inductive Request
  | run (records : String) (arguments : Arguments)
  | version
  | help
  | misuse (cause : Misuse)
  deriving DecidableEq, Repr

def finish (a : Arguments) : Request :=
  match a.records with
  | some records => .run records a
  | none => .misuse .missingRecords

def parsePositional (a : Arguments) : List String → Request
  | [] => finish a
  | argument :: rest =>
    match a.place argument with
    | .ok a => parsePositional a rest
    | .error cause => .misuse cause

/-- Arguments in order; the first one that is wrong, or that asks for the version, decides. -/
def parseFrom (a : Arguments) : Option Flag → List String → Request
  | none, [] => finish a
  | some flag, [] => .misuse (.missingValue flag.describe)
  | some flag, argument :: rest =>
    match shape argument with
    | .positional =>
      match a.assign flag argument with
      | .ok a => parseFrom a none rest
      | .error cause => .misuse cause
    | .wrong cause => .misuse cause
    | _ => .misuse (.missingValue flag.describe)
  | none, argument :: rest =>
    match shape argument with
    | .endOfOptions => parsePositional a rest
    | .version => .version
    | .help => .help
    | .wrong cause => .misuse cause
    | .wanting flag => parseFrom a (some flag) rest
    | .given flag value =>
      match a.assign flag value with
      | .ok a => parseFrom a none rest
      | .error cause => .misuse cause
    | .positional =>
      match a.place argument with
      | .ok a => parseFrom a none rest
      | .error cause => .misuse cause

def parse (arguments : List String) : Request :=
  parseFrom {} none arguments

structure Outcome where
  code : Nat
  output : String
  errors : String
  deriving DecidableEq, Repr

def usage : String :=
  "Usage: generate [OPTIONS] <RECORDS> [OUTPUT_DIR]\n"

def misuseText (cause : Misuse) : String :=
  "error: " ++ cause.message ++ "\n\n" ++ usage ++ "\nFor more information, try '--help'.\n"

/-- A text that stays on one line: line ends in it are written as escapes. -/
def oneLine (text : String) : String :=
  String.ofList <| text.toList.flatMap fun c =>
    if c = '\n' then ['\\', 'n'] else if c = '\r' then ['\\', 'r'] else [c]

def summary (settings : Settings) (r : Report) : String :=
  let written := r.written.length
  let empty := r.empty.length
  let aliased := r.aliased.length
  let dir := settings.outputDir
  s!"Wrote {written} files to {dir} ({empty} empty, {aliased} aliased)\n"

def failureText (f : Unwritten) : String :=
  "  failed: " ++ f.record ++ ": " ++ f.fault.message ++ "\n"

def reported (settings : Settings) (r : Report) : Outcome :=
  let failed := r.failures.length
  let verdict := if r.isSuccess then "" else s!"Error: {failed} files could not be written\n"
  { code := if r.isSuccess then 0 else 1
    output := summary settings r
    errors := String.join (r.failures.map failureText) ++ verdict }

def failed (message : String) : Outcome :=
  { code := 1, output := "", errors := "Error: " ++ oneLine message ++ "\n" }

variable {m : Type → Type} [Monad m]

def load (fs : FileSystem m) (records : String) (a : Arguments) :
    ExceptT InputFault m Project := do
  let set ← Description.ofFile fs records
  let overrides ← Overrides.ofFiles fs a.overrideFiles
  return { set, overrides, settings := a.settings }

def runArguments (fs : FileSystem m) (records : String) (a : Arguments) : m Outcome := do
  match ← (load fs records a).run with
  | .error fault => return failed fault.message
  | .ok project =>
    match ← (project.run fs).run with
    | .error fault => return failed fault.message
    | .ok report => return reported project.settings report

def run (fs : FileSystem m) (arguments : List String) : m Outcome :=
  match parse arguments with
  | .run records a => runArguments fs records a
  | .version => pure { code := 0, output := "generate 0.1.0\n", errors := "" }
  | .help => pure { code := 0, output := usage, errors := "" }
  | .misuse cause => pure { code := 2, output := "", errors := misuseText cause }

end CommandLine

end RecordIdl
