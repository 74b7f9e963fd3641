import Norma.Setting
import Norma.Status
import Norma.Readout
import Norma.Pattern

namespace Norma

namespace ErrorCode

def kParameterNotAllowed : Int := -108
def kMissingParameter : Int := -109
def kUndefinedHeader : Int := -113
def kExecutionError : Int := -200
def kSettingsConflict : Int := -221
def kDataOutOfRange : Int := -222
def kIllegalParameterValue : Int := -224
def kQueueOverflow : Int := -350

end ErrorCode

open ErrorCode

def kErrorQueueSize : Nat := 32

def SimulatorState.pushError (state : State) (code : Int) (message : Text) : State :=
  if kErrorQueueSize ≤ state.errors.length then
    { state with errors := state.errors.dropLast ++ [⟨kQueueOverflow, "Queue overflow"⟩] }
  else
    { state with
      errors := state.errors ++ [⟨code, message⟩]
      eventStatus := Int.lor state.eventStatus (2 ^ 5) }

structure Command where
  tokens : List Token
  key : Text
  suffixes : List Int
  query : Bool
  args : List Text
  response : Option Text
  failed : Bool
  deriving DecidableEq

namespace Command

def suffix (command : Command) (index : Nat := 0) : Int :=
  match command.suffixes[index]? with
  | none => 1
  | some suffix => if suffix = 0 then 1 else suffix

def aggregateSuffix (command : Command) (index : Nat := 0) : Int :=
  (command.suffixes[index]?).getD 0

def argument (command : Command) (index : Nat := 0) : Option Text :=
  match command.args[index]? with
  | none => none
  | some arg => if arg = [] then none else some (unquote arg)

end Command

structure Access where
  sim : NormaSimulator
  command : Command

namespace Access

def update (a : Access) (f : State → State) : Access :=
  { a with sim := { a.sim with state := f a.sim.state } }

def fail (a : Access) (code : Int) (message : Text) : Access :=
  { a.update (·.pushError code message) with command := { a.command with failed := true } }

def respond (a : Access) (text : Text) : Access :=
  { a with command := { a.command with response := some text } }

def assign {A : Type} (a : Access) (f : Setting A) (v : A) : Access := a.update (f.set · v)

def read {A : Type} (a : Access) (f : Setting A) : A := f.get a.sim.state

def illegal (a : Access) (text : Text) : Access :=
  a.fail kIllegalParameterValue ("Illegal parameter value;" ++ text)

def outOfRange (a : Access) (text : Text) : Access :=
  a.fail kDataOutOfRange ("Data out of range;" ++ text)

def parameter (a : Access) (body : Text → Access) : Access :=
  match a.command.argument with
  | none => a.fail kMissingParameter "Missing parameter"
  | some text => body text

def queryOnly (a : Access) (body : Access) : Access :=
  if a.command.query then body
  else a.fail kUndefinedHeader ("Undefined header;" ++ a.command.key)

def commandOnly (a : Access) (body : Access) : Access :=
  if a.command.query then a.fail kUndefinedHeader ("Undefined header;" ++ a.command.key ++ "?")
  else body

def number (a : Access) (f : Setting Float) (min max : Float) : Access :=
  if a.command.query then a.respond (formatSetting (a.read f))
  else a.parameter fun text =>
    match parseNumber text with
    | none => a.illegal text
    | some value => if value < min ∨ max < value then a.outOfRange text else a.assign f value

def readInteger (a : Access) (min max : Int) (body : Int → Access) : Access :=
  a.parameter fun text =>
    match parseNumber text with
    | none => a.illegal text
    | some value =>
        let rounded := CNumber.toInt32 (CNumber.lround value)
        if rounded < min ∨ max < rounded then a.outOfRange text else body rounded

def integer (a : Access) (f : Setting Int) (min max : Int) : Access :=
  if a.command.query then a.respond (toText (a.read f))
  else a.readInteger min max fun value => a.assign f value

def boolean (a : Access) (f : Setting Bool) : Access :=
  if a.command.query then a.respond (formatBool (a.read f))
  else a.parameter fun text =>
    match parseBoolean text with
    | none => a.illegal text
    | some value => a.assign f value

def keyword {A : Type} [DecidableEq A] (a : Access) (f : Setting A)
    (spellings : List (A × List Text)) : Access :=
  if a.command.query then
    a.respond (((spellings.find? (·.1 = a.read f)).map fun s => s.2.headD []).getD [])
  else a.parameter fun text =>
    match spellings.find? (fun s => s.2.any fun name => upper text = upper name) with
    | none => a.illegal text
    | some (value, _) => a.assign f value

end Access

-- The first argument that is not quoted is reported; quoted ones lose their quotes.
def readFunctions : List Text → Except Text (List Text)
  | [] => .ok []
  | argument :: args =>
      let raw := trim argument
      if raw.length < 2 ∨ (raw.head? ≠ some '"' ∧ raw.head? ≠ some '\'') then .error raw
      else (readFunctions args).map (upper (unquote raw) :: ·)

namespace Access

def readFunctionList {R : Type} (a : Access) (rejected : Access → R) (body : List Text → R) : R :=
  if a.command.args = [] then rejected (a.fail kMissingParameter "Missing parameter")
  else
    match readFunctions a.command.args with
    | .error raw => rejected (a.illegal raw)
    | .ok functions => body functions

def functionList (a : Access) (f : Setting (List Text)) : Access :=
  if a.command.query then a.respond (quoteJoin (a.read f))
  else a.readFunctionList id fun functions => a.assign f functions

end Access

inductive Handled where
  | declined
  | done (a : Access)
  | crashes

def Handled.ofResult {A : Type} (result : Option A) (body : A → Handled) : Handled :=
  match result with
  | none => .crashes
  | some value => body value

def Handled.orElse (first second : Handled) : Handled :=
  match first with
  | .declined => second
  | h => h

end Norma
