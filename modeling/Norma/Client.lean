import Norma.Transport

namespace Norma

structure ScpiClient (T : Type) where
  transport : T
  timeout : Int := 5000

-- `none` when the call never returns; an exception leaves what was done before it.
def Session (T A : Type) : Type := ScpiClient T → Option (Except Fault A × ScpiClient T)

namespace Session

variable {T A B : Type}

def pure' (a : A) : Session T A := fun client => some (.ok a, client)

def bind' (m : Session T A) (f : A → Session T B) : Session T B := fun client =>
  match m client with
  | none => none
  | some (.error fault, after) => some (.error fault, after)
  | some (.ok a, after) => f a after

instance : Monad (Session T) where
  pure := pure'
  bind := bind'

def throw (fault : Fault) : Session T A := fun client => some (.error fault, client)

def ofExcept (result : Except Fault A) : Session T A := fun client => some (result, client)

def onTransport (action : T → Option (Except Fault A × T)) : Session T A := fun client =>
  (action client.transport).map fun (result, transport) => (result, { client with transport })

end Session

open Session (throw ofExcept onTransport)

-- Trims each field; a blank line has none.
def splitFields (line : Text) (separator : Char) : List Text :=
  if trim line = [] then [] else (splitUnquoted line separator).map trim

namespace ScpiClient

def splitCsv (line : Text) : List Text := splitFields line ','

def splitSemicolons (line : Text) : List Text := splitFields line ';'

def hasLineTerminator (command : Text) : Bool := command.contains '\n' || command.contains '\r'

def toDouble (field : Text) : Except Fault Float :=
  let text := trim field
  if text = [] then .error (.protocol "expected numeric value, got empty field")
  else
    match CNumber.strtod (CNumber.cstr text) with
    | none => .error (.protocol ("expected numeric value, got \"" ++ text ++ "\""))
    | some (value, _) => .ok (if kScpiNanThreshold ≤ value.abs then CNumber.nan else value)

def toInt (field : Text) : Except Fault Int :=
  let text := trim field
  match CNumber.strtol (CNumber.cstr text) with
  | none => .error (.protocol ("expected integer response, got \"" ++ text ++ "\""))
  | some value => .ok (CNumber.toInt32 value)

def parseValues (line : Text) : Except Fault (List Float) := (splitCsv line).mapM toDouble

def errorCode (field : Text) : Option Int :=
  (CNumber.strtol (CNumber.cstr field)).map CNumber.toInt32

def parseError (line : Text) : Except Fault ScpiErrorInfo :=
  match splitCsv line with
  | [] => .error (.protocol "empty response to SYST:ERR?")
  | field :: fields =>
      match errorCode field with
      | none => .error (.protocol ("malformed SYST:ERR? response: \"" ++ line ++ "\""))
      | some code => .ok ⟨code, unquote (fields.headD [])⟩

def errorPairs (malformed : Fault) : List Text → Except Fault (List ScpiErrorInfo)
  | code :: message :: fields =>
      match errorCode code with
      | none => .error malformed
      | some code =>
          (errorPairs malformed fields).map fun errors =>
            if code = 0 then errors else ⟨code, unquote message⟩ :: errors
  | _ => .ok []

def parseErrors (line : Text) : Except Fault (List ScpiErrorInfo) :=
  let fields := splitCsv line
  let malformed := Fault.protocol ("malformed SYST:ERR:ALL? response: \"" ++ line ++ "\"")
  match errorPairs malformed fields with
  | .error fault => .error fault
  | .ok errors => if errors = [] ∧ fields.length % 2 ≠ 0 then .error malformed else .ok errors

def kMaxErrorQueueDrain : Nat := 64

section

variable {T : Type} [Transport T]

def writeLine (command : Text) (timeout : Int) : Session T Unit :=
  if hasLineTerminator command then
    throw (.invalidArgument ("SCPI command must be a single line (it contains a carriage return " ++
      "or line feed); use separate calls, or a ';'-separated command line"))
  else onTransport (Transport.write (command ++ ['\n']) timeout)

def send (command : Text) : Session T Unit := fun client =>
  writeLine command client.timeout client

def queryWithin (command : Text) (timeout : Int) : Session T Text := do
  writeLine command timeout
  onTransport (Transport.readLine timeout)

def query (command : Text) : Session T Text := fun client =>
  queryWithin command client.timeout client

def queryValues (command : Text) : Session T (List Float) := do
  ofExcept (parseValues (← query command))

def queryStrings (command : Text) : Session T (List Text) := do
  return (splitCsv (← query command)).map unquote

def drainErrors : Nat → List ScpiErrorInfo → Session T (List ScpiErrorInfo)
  | 0, _ =>
      throw (.protocol ("SYST:ERR? still reported errors after " ++ toText kMaxErrorQueueDrain ++
        " reads; the error queue is not draining"))
  | n + 1, errors => do
      let entry ← ofExcept (parseError (← query "SYST:ERR?"))
      if entry.code = 0 then return errors else drainErrors n (errors ++ [entry])

def readAllErrors : Session T (List ScpiErrorInfo) := drainErrors kMaxErrorQueueDrain []

def throwIfError : Session T Unit := do
  let errors ← readAllErrors
  if errors = [] then return () else throw (.scpi errors)

end

end ScpiClient

inductive SweepBlock where
  | block1 | block2
  deriving DecidableEq, Repr

structure Reading where
  values : List Float
  status : List Int

def isAggregate (phase : Int) : Bool := phase == 0 || phase == 460

def formatOn (on : Bool) : Text := if on then "ON" else "OFF"

def formatParameter (format : DataFormat) (length : Int) : Text :=
  formatText format ++ if 0 < length then ',' :: toText length else []

def sweepNode (block : SweepBlock) : Text :=
  match block with
  | .block1 => "SWE1"
  | .block2 => "SWE2"

namespace NormaInstrument

open ScpiClient

variable {T : Type} [Transport T]

def requireFunctions (what : Text) (functions : List Text) : Session T Unit :=
  if functions = [] then
    throw (.invalidArgument (what ++ ": the function list must not be empty"))
  else pure ()

protected def close : Session T Unit := fun client =>
  some (.ok (), { client with transport := Transport.close client.transport })

protected def isOpen : Session T Bool := fun client =>
  some (.ok (Transport.isOpen client.transport), client)

protected def write (scpi : Text) : Session T Unit := send scpi

protected def query (scpi : Text) : Session T Text := ScpiClient.query scpi

def identify : Session T Identification := do
  let fields := splitCsv (← ScpiClient.query "*IDN?")
  let field (i : Nat) : Text := ((fields[i]?).map unquote).getD []
  return ⟨field 0, field 1, field 2, field 3⟩

def clearStatus : Session T Unit := send "*CLS"

def setSyncSource (source : Text) : Session T Unit := send ("SYNC:SOUR " ++ source)

def setTriggerStartSource (source : Text) : Session T Unit := send ("TRIG:STAR:SOUR " ++ source)

def setTriggerStopSource (source : Text) : Session T Unit := send ("TRIG:STOP:SOUR " ++ source)

def setLanguage (language : Text) : Session T Unit := send ("SYST:LANG " ++ quote language)

def setFunctions (functions : List Text) : Session T Unit :=
  if functions = [] then
    throw (.invalidArgument ("set_functions: the function list must not be empty " ++
      "(use clear_functions() to turn all off)"))
  else send ("FUNC " ++ quoteJoin functions)

def functions : Session T (List Text) := queryStrings "FUNC?"

def setTransformFunctions (functions : List Text) : Session T Unit := do
  requireFunctions "set_transform_functions" functions
  send ("CALC:TRAN:FREQ:FUNC " ++ quoteJoin functions)

def transformFunctions : Session T (List Text) := queryStrings "CALC:TRAN:FREQ:FUNC?"

def setIntegralFunctions (functions : List Text) : Session T Unit := do
  requireFunctions "set_integral_functions" functions
  send ("CALC:INT:FUNC " ++ quoteJoin functions)

def integralFunctions : Session T (List Text) := queryStrings "CALC:INT:FUNC?"

def setSweepFunctions (block : SweepBlock) (functions : List Text) : Session T Unit := do
  requireFunctions "set_sweep_functions" functions
  send (sweepNode block ++ ":FUNC " ++ quoteJoin functions)

def sweepFunctions (block : SweepBlock) : Session T (List Text) :=
  queryStrings (sweepNode block ++ ":FUNC?")

def setDisplayFunctions (functions : List Text) : Session T Unit := do
  requireFunctions "set_display_functions" functions
  send ("DISP:USER:FUNC " ++ quoteJoin functions)

def displayFunctions : Session T (List Text) := queryStrings "DISP:USER:FUNC?"

def setEfficiencyReference (input output : Text) (phase : Int) : Session T Unit :=
  if !isAggregate phase then
    throw (.invalidArgument ("efficiency reference is defined for the aggregate suffixes 0 and " ++
      "460, got " ++ toText phase))
  else
    let node : Text := if phase = 460 then "CALC:POW460:EFF:REF" else "CALC:POW:EFF:REF"
    send (node ++ " " ++ quote input ++ "," ++ quote output)

def setDataFormat (format : DataFormat) (length : Int) : Session T Unit :=
  send ("FORM " ++ formatParameter format length)

def setConcurrent (on : Bool) : Session T Unit := send ("FUNC:CONC " ++ formatOn on)

def readErrors : Session T (List ScpiErrorInfo) := readAllErrors

def checkErrors : Session T Unit := throwIfError

def setTimeout (timeout : Int) : Session T Unit := fun client => some (.ok (), { client with timeout })

def readErrorsAtOnce : Session T (List ScpiErrorInfo) := do
  ofExcept (parseErrors (← query "SYST:ERR:ALL?"))

def prepare : Session T Unit := do
  clearStatus
  setDataFormat .ascii 6
  setConcurrent true
  let _ ← readErrors

def data (functions : List Text) : Session T (List Float) :=
  queryValues (if functions = [] then "DATA?" else "DATA? " ++ quoteJoin functions)

def dataWithStatus (functions : List Text) : Session T Reading := do
  let command : Text :=
    if functions = [] then "DATA:STAT?" else "DATA:STAT? " ++ quoteJoin functions
  let raw ← queryValues command
  if raw.length % 2 ≠ 0 then
    throw (.protocol ("DATA:STAT? returned an odd number of fields (" ++ toText raw.length ++ ")"))
  else
    let count := raw.length / 2
    return ⟨raw.take count, (raw.drop count).map CNumber.truncInt32⟩

end NormaInstrument

end Norma
