import Norma.SocketLink

namespace Norma

inductive IoError where
  | operationAborted
  | badDescriptor
  | other (value : Int)
  deriving DecidableEq

-- `none` while the operation is in progress, then what its handler is called with.
abbrev IoResult (A : Type) := Option (Except IoError A)

inductive Operation where
  | accept (result : IoResult Unit)
  | read (result : IoResult Nat)

inductive Posted where
  | stop
  | disconnect
  deriving DecidableEq

structure Client where
  isOpen : Bool
  deriving DecidableEq

-- `running` until `io.run()` returns.
structure ServerImpl where
  simulator : NormaSimulator
  acceptorOpen : Bool
  client : Option Client
  rx : Text
  stalled : Bool
  stopping : Bool
  connections : Nat
  operations : List Operation
  posted : List Posted
  running : Bool

def IoResult.abort {A : Type} : IoResult A → IoResult A
  | none => some (.error .operationAborted)
  | some result => some result

namespace Operation

def abortRead : Operation → Operation
  | accept result => accept result
  | read result => read result.abort

def abortAccept : Operation → Operation
  | accept result => accept result.abort
  | read result => read result

end Operation

def lineLength (rx : Text) : Option Nat := (rx.findIdx? (· = '\n')).map (· + 1)

namespace ServerImpl

def acceptNext (server : ServerImpl) : ServerImpl :=
  { server with
    operations := server.operations ++
      [.accept (if server.acceptorOpen then none else some (.error .badDescriptor))] }

-- A line that is there already ends the operation at once.
def readNext (server : ServerImpl) : ServerImpl :=
  match server.client with
  | none => server.acceptNext
  | some client =>
      { server with
        operations := server.operations ++
          [.read (match lineLength server.rx with
            | some length => some (.ok length)
            | none => if client.isOpen then none else some (.error .badDescriptor))] }

def closeClient (server : ServerImpl) : ServerImpl :=
  { server with operations := server.operations.map Operation.abortRead }

def dropClient (server : ServerImpl) : ServerImpl :=
  if server.client.isSome then { server.closeClient with client := none } else server

def acceptAgain (server : ServerImpl) : ServerImpl :=
  if server.stopping then server else server.acceptNext

def onAccept (server : ServerImpl) : Except IoError Unit → ServerImpl
  | .error _ => server
  | .ok _ =>
      readNext { server.dropClient with
        client := some ⟨true⟩, rx := [], connections := server.connections + 1 }

-- `written` is what becomes of the write, if there is one.
def respond (server : ServerImpl) (response : Text) (written : Bool) : ServerImpl :=
  if response ≠ [] then
    match server.client with
    | none => server.readNext
    | some client =>
        if client.isOpen && written then server.readNext else server.dropClient.acceptAgain
  else server.readNext

-- `none` when the command line does not return.
def onLine (server : ServerImpl) (written : Bool) :
    Except IoError Nat → Option ServerImpl
  | .error _ => some (acceptAgain { server.dropClient with rx := [] })
  | .ok length =>
      (SimulatorServer.onLine server.stalled server.simulator (server.rx.take length)).map
        fun (simulator, response) =>
          respond { server with simulator, rx := server.rx.drop length } response written

def runPosted (server : ServerImpl) : Posted → ServerImpl
  | .stop =>
      dropClient { server with
        acceptorOpen := false
        operations := server.operations.map Operation.abortAccept }
  | .disconnect =>
      if server.client.isSome then { server.closeClient with client := some ⟨false⟩ } else server

-- `io.run()` returns when nothing is left for it.
def settle (server : ServerImpl) : ServerImpl :=
  { server with running := !(server.operations.isEmpty && server.posted.isEmpty) }

def new (simulator : NormaSimulator) : ServerImpl :=
  acceptNext ⟨simulator, true, none, [], false, false, 0, [], [], true⟩

inductive Event where
  | accepted (index : Nat)
  | acceptFailed (index : Nat) (error : IoError)
  | received (index : Nat) (data : Text)
  | readFailed (index : Nat) (error : IoError)
  | handler (index : Nat) (written : Bool)
  | posted (index : Nat)
  | stop
  | disconnectClient
  | setStalled (stalled : Bool)
  | withSimulator (action : NormaSimulator → NormaSimulator)

def completeAccept (server : ServerImpl) (index : Nat) (result : Except IoError Unit) :
    Option ServerImpl :=
  match server.operations[index]? with
  | some (.accept none) =>
      some { server with operations := server.operations.set index (.accept (some result)) }
  | _ => none

def completeRead (server : ServerImpl) (index : Nat) (result : Except IoError Nat) :
    Option ServerImpl :=
  match server.operations[index]? with
  | some (.read none) =>
      some { server with operations := server.operations.set index (.read (some result)) }
  | _ => none

-- The operation is over before its handler starts.
def runHandler (server : ServerImpl) (index : Nat) (written : Bool) :
    Option ServerImpl :=
  let rest := { server with operations := server.operations.eraseIdx index }
  match server.operations[index]? with
  | some (.accept (some result)) => some (rest.onAccept result)
  | some (.read (some result)) => rest.onLine written result
  | _ => none

-- `none` when the event cannot happen.
def step (server : ServerImpl) : Event → Option ServerImpl
  | .accepted index => server.completeAccept index (.ok ())
  | .acceptFailed index error => server.completeAccept index (.error error)
  | .received index data =>
      (lineLength (server.rx ++ data)).bind fun length =>
        completeRead { server with rx := server.rx ++ data } index (.ok length)
  | .readFailed index error => server.completeRead index (.error error)
  | .handler index written =>
      if server.running then (server.runHandler index written).map settle else none
  | .posted index =>
      if server.running then
        server.posted[index]?.map fun closure =>
          settle (runPosted { server with posted := server.posted.eraseIdx index } closure)
      else none
  | .stop =>
      some (if server.stopping then server
        else { server with stopping := true, posted := server.posted ++ [.stop] })
  | .disconnectClient => some { server with posted := server.posted ++ [.disconnect] }
  | .setStalled stalled => some { server with stalled }
  | .withSimulator action => some { server with simulator := action server.simulator }

def run (server : ServerImpl) : List Event → Option ServerImpl
  | [] => some server
  | event :: events => (server.step event).bind (run · events)

end ServerImpl

end Norma
