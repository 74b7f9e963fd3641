import Norma.Client

namespace Norma

open CNumber (cstr)

namespace ScpiError

def format (code : Int) (message : Text) (count : Nat) : Text :=
  "SCPI error " ++ toText code ++ ": " ++ message ++
    if 1 < count then " (and " ++ toText (count - 1) ++ " more in the queue)" else []

def code : List ScpiErrorInfo → Int
  | [] => 0
  | first :: _ => first.code

def what : List ScpiErrorInfo → Text
  | [] => "SCPI error (empty error queue)"
  | first :: rest => format first.code first.message (rest.length + 1)

end ScpiError

def Fault.what : Fault → Text
  | .invalidArgument message => message
  | .connection message => message
  | .timeout message => message
  | .protocol message => message
  | .scpi errors => ScpiError.what errors

namespace Capi

inductive Status where
  | ok | connection | timeout | scpi | protocol | invalidArgument | bufferTooSmall | unknown
  deriving DecidableEq, Repr

-- What can leave the body of a call: an exception of the library, another one of the standard
-- library, or anything else.
inductive Thrown where
  | library (fault : Fault)
  | standard (what : Text)
  | other
  deriving DecidableEq

structure Handle (T : Type) where
  instrument : ScpiClient T
  lastError : Text := []
  lastScpiCode : Int := 0

inductive Output where
  | nothing
  | isOpen (out : Int)
  | identification (id : Identification)
  | buffer (written : Option Text)
  | values (written : List Float) (count : Nat)
  | reading (values : List Float) (status : List Int) (count : Nat)

section

variable {T : Type}

namespace Handle

def failed (h : Handle T) (what : Text) (status : Status) : Status × Handle T :=
  (status, { h with lastError := cstr what })

def caught (h : Handle T) : Thrown → Status × Handle T
  | .library (.timeout message) => h.failed message .timeout
  | .library (.scpi errors) =>
      { h with lastScpiCode := ScpiError.code errors }.failed (ScpiError.what errors) .scpi
  | .library (.protocol message) => h.failed message .protocol
  | .library (.connection message) => h.failed message .connection
  | .library (.invalidArgument message) => h.failed message .invalidArgument
  | .standard what => h.failed what .unknown
  | .other => h.failed "unknown error" .unknown

end Handle

-- The body yields its output and, when that is cut short, the message it leaves in `lastError`.
def guarded (initial : Output) (fn : Session T (Output × Option Text)) (h : Handle T) :
    Option (Status × Output × Handle T) :=
  (fn h.instrument).map fun (result, instrument) =>
    let after := { h with instrument }
    match result with
    | .error fault =>
        let (status, after) := after.caught (.library fault)
        (status, initial, after)
    | .ok (output, none) => (.ok, output, after)
    | .ok (output, some message) => (.bufferTooSmall, output, { after with lastError := message })

-- A function with its arguments: whether it returns before `guarded`, and what it guards.
structure Entry (T : Type) where
  refused : Bool := false
  initial : Output := .nothing
  fn : Session T (Output × Option Text)

def Entry.call (entry : Entry T) (h : Handle T) : Option (Status × Output × Handle T) :=
  if entry.refused then some (.invalidArgument, .nothing, h) else guarded entry.initial entry.fn h

def copyField (text : Text) : Text := text.take 63

variable [Transport T]

def done (m : Session T Unit) : Session T (Output × Option Text) := do
  m
  return (.nothing, none)

def normaClose : Entry T where
  fn := done NormaInstrument.close

def normaIsOpen (outOpen : Bool) : Entry T where
  refused := !outOpen
  initial := .isOpen 0
  fn := do
    let isOpen ← NormaInstrument.isOpen
    return (.isOpen (if isOpen then 1 else 0), none)

def normaPrepare : Entry T where
  fn := done NormaInstrument.prepare

def normaIdentify (outIdentification : Bool) : Entry T where
  refused := !outIdentification
  initial := .identification ⟨[], [], [], []⟩
  fn := do
    let id ← NormaInstrument.identify
    return (.identification ⟨copyField id.manufacturer, copyField id.model,
      copyField id.serialNumber, copyField id.firmwareVersion⟩, none)

-- A pointer that may be null is an option, and so is each entry of an array of them.
def normaSetFunctions (functions : Option (List (Option Text))) : Entry T where
  refused :=
    match functions with
    | none => true
    | some names => names.isEmpty || names.any Option.isNone
  fn := done (NormaInstrument.setFunctions
    ((functions.getD []).map fun name => cstr (name.getD [])))

def normaCheckErrors : Entry T where
  fn := done NormaInstrument.checkErrors

def normaSetTimeout (timeoutMs : Nat) : Entry T where
  fn := done (NormaInstrument.setTimeout (if timeoutMs ≠ 0 then timeoutMs else 5000))

def normaWrite (scpiCommand : Option Text) : Entry T where
  refused := scpiCommand.isNone
  fn := done (NormaInstrument.write (cstr (scpiCommand.getD [])))

def normaQuery (scpiQuery : Option Text) (buffer : Bool) (bufferSize : Nat) : Entry T where
  refused := scpiQuery.isNone || !buffer || bufferSize == 0
  initial := .buffer none
  fn := do
    let response ← NormaInstrument.query (cstr (scpiQuery.getD []))
    let copied := response.take (bufferSize - 1)
    return (.buffer (some copied),
      if copied.length < response.length then
        some ("response truncated (" ++ toText (response.length + 1) ++ " bytes needed)")
      else none)

def normaReadData (values outCount : Bool) (capacity : Nat) : Entry T where
  refused := !values || !outCount
  initial := .values [] 0
  fn := do
    let data ← NormaInstrument.data []
    return (.values (data.take capacity) data.length,
      if capacity < data.length then
        some ("value buffer too small (" ++ toText data.length ++ " values)")
      else none)

def normaReadDataWithStatus (values status outCount : Bool) (capacity : Nat) : Entry T where
  refused := !values || !status || !outCount
  initial := .reading [] [] 0
  fn := do
    let reading ← NormaInstrument.dataWithStatus []
    let available := min reading.values.length reading.status.length
    let n := min available capacity
    return (.reading (reading.values.take n) (reading.status.take n) available,
      if capacity < available then
        some ("value buffer too small (" ++ toText available ++ " measurements)")
      else none)

inductive Call where
  | close
  | isOpen (outOpen : Bool)
  | prepare
  | identify (outIdentification : Bool)
  | setFunctions (functions : Option (List (Option Text)))
  | checkErrors
  | setTimeout (timeoutMs : Nat)
  | write (scpiCommand : Option Text)
  | query (scpiQuery : Option Text) (buffer : Bool) (bufferSize : Nat)
  | readData (values outCount : Bool) (capacity : Nat)
  | readDataWithStatus (values status outCount : Bool) (capacity : Nat)
  deriving DecidableEq

def Call.entry : Call → Entry T
  | .close => normaClose
  | .isOpen outOpen => normaIsOpen outOpen
  | .prepare => normaPrepare
  | .identify outIdentification => normaIdentify outIdentification
  | .setFunctions functions => normaSetFunctions functions
  | .checkErrors => normaCheckErrors
  | .setTimeout timeoutMs => normaSetTimeout timeoutMs
  | .write scpiCommand => normaWrite scpiCommand
  | .query scpiQuery buffer bufferSize => normaQuery scpiQuery buffer bufferSize
  | .readData values outCount capacity => normaReadData values outCount capacity
  | .readDataWithStatus values status outCount capacity =>
      normaReadDataWithStatus values status outCount capacity

abbrev kDefaultPort : Nat := 23

-- `open'` builds and opens the link to a host and port within a timeout; the last part is the
-- text that a null handle is asked for.
def normaConnect (link : Text → Nat → Nat → T) (host : Option Text) (port timeoutMs : Nat)
    (outInstrument : Bool) (connectError : Text) : Option (Status × Option (Handle T) × Text) :=
  match host with
  | none => some (.invalidArgument, none, connectError)
  | some host =>
      if !outInstrument then some (.invalidArgument, none, connectError)
      else
        let timeout := if timeoutMs ≠ 0 then timeoutMs else 5000
        let transport := link (cstr host) (if port ≠ 0 then port else kDefaultPort) timeout
        (Transport.open' transport).map fun (result, transport) =>
          match result with
          | .ok () => (.ok, some { instrument := { transport, timeout } }, connectError)
          | .error (.timeout message) => (.timeout, none, cstr message)
          | .error fault => (.connection, none, cstr fault.what)

end

def normaLastError {T : Type} (connectError : Text) : Option (Handle T) → Text
  | some h => cstr h.lastError
  | none => cstr connectError

def normaLastScpiCode {T : Type} : Option (Handle T) → Int
  | some h => h.lastScpiCode
  | none => 0

end Capi

end Norma
