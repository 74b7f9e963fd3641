import Norma.Calculate

namespace Norma

open ErrorCode

def dispatch (key : Key) (a : Access) : Handled :=
  (handleRoute key a).orElse <|
  (handleInput key a).orElse <|
  (handleSense key a).orElse <|
  (handleSync key a).orElse <|
  (handleAcquisition key a).orElse <|
  (handleTrigger key a).orElse <|
  (handleCalculate key a).orElse <|
  (handleTrace key a).orElse <|
  (handleFormat key a).orElse <|
  (handleDisplayOutput key a).orElse <|
  (handleSystem key a).orElse <|
  (handleStatus key a).orElse <|
  handleTimer key a

-- `none` when the handler does not return.
def execute (key : Key) (a : Access) : Option Access :=
  match dispatch key a with
  | .done b => some b
  | .declined =>
      some (a.fail kExecutionError ("Simulator has no handler for command;" ++ key.text))
  | .crashes => none

def splitHeader : Option Char → Text → Text × Text
  | _, [] => ([], [])
  | some q, c :: text =>
      let (header, parameters) := splitHeader (if c = q then none else some q) text
      (c :: header, parameters)
  | none, c :: text =>
      if isQuote c then
        let (header, parameters) := splitHeader (some c) text
        (c :: header, parameters)
      else if isSpace c then ([], text)
      else
        let (header, parameters) := splitHeader none text
        (c :: header, parameters)

structure Parsed where
  header : Text
  query : Bool
  args : List Text
  deriving DecidableEq

def parseCommand (text : Text) : Parsed :=
  let (header, parameters) := splitHeader none text
  let parameters := trim parameters
  { header := if header.getLast? = some '?' then header.dropLast else header
    query := header.getLast? = some '?'
    args := if parameters = [] then [] else (splitUnquoted parameters ',').map trim }

def Parsed.command (p : Parsed) (tokens : List Token) (key : Text) (suffixes : List Int) :
    Command :=
  ⟨tokens, key, suffixes, p.query, p.args, none, false⟩

-- What one command of a line leaves behind; `stop` is set when the line ends with it.
structure Outcome where
  sim : NormaSimulator
  path : List Token
  response : Option Text
  stop : Bool

def undefinedHeader (sim : NormaSimulator) (path : List Token) (text : Text) : Outcome :=
  { sim := { sim with
      state := sim.state.pushError kUndefinedHeader ("Undefined header;" ++ text) }
    path, response := none, stop := true }

def Access.outcome (a : Access) (path : List Token) : Outcome :=
  ⟨a.sim, path, a.command.response, a.command.failed⟩

def handleStar (sim : NormaSimulator) (path : List Token) (text : Text) (p : Parsed) :
    Option Outcome :=
  let key := upper p.header
  match handleCommon key ⟨sim, p.command [⟨key, 0, false⟩] key []⟩ with
  | .done a => some (a.outcome path)
  | .declined => some (undefinedHeader sim path text)
  | .crashes => none

def headerTokens (path : List Token) (header : Text) : List Token :=
  match header with
  | ':' :: rest => (splitUnquoted rest ':').map makeToken
  | _ => path ++ (splitUnquoted header ':').map makeToken

def handleTree (sim : NormaSimulator) (path : List Token) (text : Text) (p : Parsed) :
    Option Outcome :=
  let tokens := headerTokens path p.header
  match findCommand tokens with
  | none => some (undefinedHeader sim tokens.dropLast text)
  | some (key, suffixes) =>
      (execute key ⟨sim, p.command tokens key.text suffixes⟩).map (·.outcome tokens.dropLast)

def handleCommand (sim : NormaSimulator) (path : List Token) (text : Text) : Option Outcome :=
  let p := parseCommand text
  if p.header.head? = some '*' then handleStar sim path text p
  else handleTree sim path text p

def handlePieces (sim : NormaSimulator) (path : List Token) :
    List Text → Option (NormaSimulator × List Text)
  | [] => some (sim, [])
  | piece :: pieces =>
      if trim piece = [] then handlePieces sim path pieces
      else
        match handleCommand sim path (trim piece) with
        | none => none
        | some out =>
            if out.stop then some (out.sim, out.response.toList)
            else
              (handlePieces out.sim out.path pieces).map fun (sim, responses) =>
                (sim, out.response.toList ++ responses)

def joinResponses (responses : List Text) : Option Text :=
  if responses = [] then none else some (join ';' responses)

-- `none` when one of the commands does not return.
def NormaSimulator.handleLine (sim : NormaSimulator) (line : Text) :
    Option (NormaSimulator × Option Text) :=
  (handlePieces sim [] (splitUnquoted line ';')).map fun (sim, responses) =>
    (sim, joinResponses responses)

end Norma
