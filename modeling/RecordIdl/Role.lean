import RecordIdl.Record.ModelFault
import RecordIdl.Resolution
import RecordIdl.Settings
import RecordIdl.Text.Blank
import RecordIdl.Text.Number

namespace RecordIdl

inductive Role
  | plain
  | component
  | event
  | command (response : String)
  deriving DecidableEq, Repr

structure Designation where
  role : Role
  id : UInt32
  deriving DecidableEq, Repr

namespace Designation

/-- A command without a response becomes a plain type that keeps its id. -/
def isUnmappedCommand (d : Designation) : Bool :=
  d.role = .plain && d.id != 0

/-- The declared number with the offset added; a negative sum counts as no id. -/
def idOf (settings : Settings) (r : Record) : Except ModelFault UInt32 :=
  match r.pduType? with
  | none => pure 0
  | some raw =>
    match Text.signed64? (Text.trim raw) with
    | none => throw (.badPduType r.name raw)
    | some n =>
      let id := n + settings.idOffset.toNat
      if id < UInt32.size then pure (UInt32.ofNat id.toNat) else throw (.badPduType r.name raw)

def hasEventField (o : Overrides) (settings : Settings) (r : Record) : Bool :=
  r.fields.any fun f => (o.resolution r.name f).target.name = settings.eventType

def hasRequestId (r : Record) : Bool :=
  r.fields.any fun f => Text.equalsIgnoringAsciiCase f.name "requestID"

def responseType (settings : Settings) (raw : String) : String :=
  let response := Text.trim raw
  if response = "" || Text.equalsIgnoringAsciiCase response "void" then settings.voidType
  else response

def roleWithId (o : Overrides) (settings : Settings) (r : Record) : Role :=
  if hasEventField o settings r then .event
  else if hasRequestId r then
    match o.response? r.name with
    | some raw => .command (responseType settings raw)
    | none => .plain
  else .component

def ofRecord (o : Overrides) (settings : Settings) (r : Record) :
    Except ModelFault Designation := do
  let id ← idOf settings r
  pure ⟨if id = 0 then .plain else roleWithId o settings r, id⟩

end Designation

end RecordIdl
