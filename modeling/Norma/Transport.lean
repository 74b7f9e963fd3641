import Norma.Line

namespace Norma

inductive Fault where
  | invalidArgument (message : Text)
  | connection (message : Text)
  | timeout (message : Text)
  | protocol (message : Text)
  | scpi (errors : List ScpiErrorInfo)
  deriving DecidableEq

class Transport (T : Type) where
  open' : T → Option (Except Fault Unit × T)
  close : T → T
  isOpen : T → Bool
  write : Text → Int → T → Option (Except Fault Unit × T)
  readLine : Int → T → Option (Except Fault Text × T)

structure SimulatorTransport where
  simulator : NormaSimulator
  pending : Text := []
  responses : List Text := []
  isOpen : Bool := false
  failWrites : Bool := false
  failReads : Bool := false
  stallReads : Bool := false

def completeLines : Text → List Text × Text
  | [] => ([], [])
  | c :: text =>
      let (lines, rest) := completeLines text
      if c = '\n' then ([] :: lines, rest)
      else
        match lines with
        | [] => ([], c :: rest)
        | line :: lines => ((c :: line) :: lines, rest)

def stripReturn (line : Text) : Text := if line.getLast? = some '\r' then line.dropLast else line

namespace SimulatorTransport

def openLink (t : SimulatorTransport) : SimulatorTransport := { t with isOpen := true }

def closeLink (t : SimulatorTransport) : SimulatorTransport :=
  { t with isOpen := false, responses := [] }

def deliver (sim : NormaSimulator) : List Text → Option (NormaSimulator × List Text)
  | [] => some (sim, [])
  | line :: lines =>
      match sim.handleLine (stripReturn line) with
      | none => none
      | some (after, response) =>
          (deliver after lines).map fun (final, responses) => (final, response.toList ++ responses)

def notConnected : Fault := .connection "simulated transport: not connected"

def write (data : Text) (t : SimulatorTransport) :
    Option (Except Fault Unit × SimulatorTransport) :=
  if !t.isOpen then some (.error notConnected, t)
  else if t.failWrites then some (.error (.connection "simulated transport: write failed"), t)
  else
    let (lines, rest) := completeLines (t.pending ++ data)
    (deliver t.simulator lines).map fun (simulator, responses) =>
      (.ok (), { t with simulator, pending := rest, responses := t.responses ++ responses })

def readLine (timeout : Int) (t : SimulatorTransport) : Except Fault Text × SimulatorTransport :=
  if !t.isOpen then (.error notConnected, t)
  else if t.failReads then
    (.error (.connection "simulated transport: connection reset by peer"), t)
  else if t.stallReads then
    (.error (.timeout ("simulated transport: read timed out after " ++ toText timeout ++ " ms")), t)
  else
    match t.responses with
    | [] =>
        (.error (.timeout ("simulated transport: no response pending, read timed out after " ++
          toText timeout ++ " ms")), t)
    | line :: responses => (.ok line, { t with responses })

def pendingResponses (t : SimulatorTransport) : Nat := t.responses.length

instance : Transport SimulatorTransport where
  open' t := some (.ok (), t.openLink)
  close := closeLink
  isOpen t := t.isOpen
  write data _ t := t.write data
  readLine timeout t := some (t.readLine timeout)

end SimulatorTransport

structure MockTransport where
  isOpen : Bool := false
  writes : List Text := []
  responses : List Text := []

namespace MockTransport

def openLink (t : MockTransport) : MockTransport := { t with isOpen := true }

def closeLink (t : MockTransport) : MockTransport := { t with isOpen := false }

def notConnected : Fault := .connection "mock: not connected"

def write (data : Text) (t : MockTransport) : Except Fault Unit × MockTransport :=
  if !t.isOpen then (.error notConnected, t)
  else (.ok (), { t with writes := t.writes ++ [data] })

def readLine (t : MockTransport) : Except Fault Text × MockTransport :=
  if !t.isOpen then (.error notConnected, t)
  else
    match t.responses with
    | [] => (.error (.timeout "mock: no scripted response left"), t)
    | line :: responses => (.ok line, { t with responses })

instance : Transport MockTransport where
  open' t := some (.ok (), t.openLink)
  close := closeLink
  isOpen t := t.isOpen
  write data _ t := some (t.write data)
  readLine _ t := some t.readLine

end MockTransport

end Norma
