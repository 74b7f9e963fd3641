import Norma.Framing
import Norma.Lib.Service
import Norma.Link

namespace Norma

open Framing Service

-- The server end of a connection; `rx` is what was received behind the last line.
structure SimulatorServer where
  simulator : NormaSimulator
  rx : Text := []
  stalled : Bool := false

namespace SimulatorServer

def onLine (stalled : Bool) (simulator : NormaSimulator) (line : Text) :
    Option (NormaSimulator × Text) :=
  (simulator.handleLine (stripLine line)).map fun (after, answer) =>
    let response : Text :=
      match answer with
      | none => []
      | some answer => answer ++ ['\n']
    (after, if stalled then [] else response)

def receive (server : SimulatorServer) (received : Text) : Option (SimulatorServer × Text) :=
  (feed (· == '\n') (onLine server.stalled) (server.simulator, server.rx) received).map
    fun ((simulator, rx), written) => ({ server with simulator, rx }, written)

end SimulatorServer

-- How a reliable connection carries its bytes: what of them has arrived when a write returns, and
-- the pieces in which the answers come.
structure Schedule where
  arrived : Nat → Nat
  pieces : Nat → Text → List Text
  pieces_flatten : ∀ call answers, (pieces call answers).flatten = answers

-- Both ends of a connection with the bytes under way. The server is `none` once a line does not
-- return; `calls` numbers the operations for the schedule.
structure SocketLink where
  client : TcpTransport
  server : Option SimulatorServer
  uplink : Text := []
  downlink : Text := []
  schedule : Schedule
  calls : Nat := 0

def TcpTransport.Result.outcome : TcpTransport.Result → Except Fault Text
  | .done => .ok []
  | .line bytes => .ok (bytes.map Byte.value)
  | .thrown fault => .error fault

namespace SocketLink

def advance (link : SocketLink) (count : Nat) : SocketLink :=
  match link.server.bind fun server => server.receive (link.uplink.take count) with
  | none => { link with server := none, uplink := link.uplink.drop count }
  | some (server, written) =>
      { link with
        server := some server
        uplink := link.uplink.drop count
        downlink := link.downlink ++ written }

def settle (link : SocketLink) : SocketLink := link.advance link.uplink.length

-- A new connection is accepted over an empty buffer.
def openLink (link : SocketLink) : Except Fault Unit × SocketLink :=
  if link.client.isOpen then (.ok (), link)
  else
    let (result, client) := link.client.open' none .finished
    (result.outcome.map fun _ => (),
      { link with
        client
        server := link.settle.server.map fun server => { server with rx := [] }
        uplink := []
        downlink := [] })

def closeLink (link : SocketLink) : SocketLink :=
  { link with client := link.client.close, downlink := [] }

def write (data : Text) (timeout : Int) (link : SocketLink) : Except Fault Unit × SocketLink :=
  match link.client.write timeout .finished with
  | (.thrown fault, client) => (.error fault, { link with client })
  | (_, client) =>
      let sent : SocketLink :=
        { link with client, uplink := link.uplink ++ data, calls := link.calls + 1 }
      (.ok (), sent.advance (link.schedule.arrived link.calls))

-- The server has taken every line in before a read is over; `none` when one never returns.
def readLine (timeout : Int) (link : SocketLink) : Option (Except Fault Text × SocketLink) :=
  if !link.client.isOpen then some (.error link.client.notConnected, link)
  else
    let settled := link.settle
    let pieces := link.schedule.pieces link.calls settled.downlink
    match settled.server with
    | none => none
    | some _ =>
        match gather TcpTransport.isLineFeed (TcpTransport.tagged link.client.connection)
          link.client.rx pieces with
        | none =>
            let (result, client) := link.client.readLine timeout pieces .timedOut
            some (result.outcome, { settled with client, downlink := [], calls := link.calls + 1 })
        | some (received, rest) =>
            let (result, client) := link.client.readLine timeout received .finished
            some (result.outcome,
              { settled with client, downlink := rest.flatten, calls := link.calls + 1 })

instance : Transport SocketLink where
  open' link := some link.openLink
  close := closeLink
  isOpen link := link.client.isOpen
  write data timeout link := some (link.write data timeout)
  readLine := readLine

def connected (host : Text) (port : Nat) (simulator : NormaSimulator) (schedule : Schedule) :
    SocketLink :=
  ({ client := .fresh host port, server := some { simulator }, schedule } : SocketLink).openLink.2

def simulator (link : SocketLink) : Option NormaSimulator :=
  link.settle.server.map (·.simulator)

end SocketLink

inductive LinkCall where
  | send (command : Text)
  | query (command : Text)
  | queryWithin (command : Text) (timeout : Int)

namespace LinkCall

variable {T : Type} [Transport T]

def perform : LinkCall → Session T (Option Text)
  | .send command => do
      ScpiClient.send command
      return none
  | .query command => do return some (← ScpiClient.query command)
  | .queryWithin command timeout => do return some (← ScpiClient.queryWithin command timeout)

end LinkCall

-- What each of the calls returns or throws; a call that throws does not end the run.
def runCalls {T : Type} [Transport T] : List LinkCall → ScpiClient T →
    Option (List (Except Fault (Option Text)) × ScpiClient T)
  | [], client => some ([], client)
  | call :: calls, client =>
      match call.perform client with
      | none => none
      | some (result, after) =>
          (runCalls calls after).map fun (results, final) => (result :: results, final)

end Norma
