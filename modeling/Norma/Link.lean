import Norma.Client
import Norma.SharedPath

namespace Norma

open Session (throw ofExcept onTransport)

namespace Session

variable {T A B : Type} {client after : ScpiClient T}

theorem bind_ok {m : Session T A} {a : A} (h : m client = some (.ok a, after))
    (f : A → Session T B) : (m >>= f) client = f a after := by
  change bind' m f client = f a after
  simp [bind', h]

theorem bind_error {m : Session T A} {fault : Fault} (h : m client = some (.error fault, after))
    (f : A → Session T B) : (m >>= f) client = some (.error fault, after) := by
  change bind' m f client = _
  simp [bind', h]

theorem bind_none {m : Session T A} (h : m client = none) (f : A → Session T B) :
    (m >>= f) client = none := by
  change bind' m f client = _
  simp [bind', h]

theorem bind_ofExcept_ok {result : Except Fault A} {a : A} (h : result = .ok a)
    (f : A → Session T B) : (ofExcept result >>= f) client = f a client :=
  bind_ok (by simp [ofExcept, h]) f

theorem map_ok {m : Session T A} {a : A} (h : m client = some (.ok a, after)) (f : A → B) :
    (m >>= fun x => pure (f x)) client = some (.ok (f a), after) :=
  bind_ok h _

end Session

theorem completeLines_plain {line : Text} (h : '\n' ∉ line) :
    completeLines (line ++ ['\n']) = ([line], []) := by
  induction line with
  | nil => rfl
  | cons c line ih =>
    have hc : c ≠ '\n' := fun hc => h (by simp [hc])
    have hrest := ih fun hmem => h (by simp [hmem])
    simp [completeLines, hrest, hc]

theorem stripReturn_plain {line : Text} (h : '\r' ∉ line) : stripReturn line = line := by
  unfold stripReturn
  split
  · next hlast => exact absurd (List.mem_of_getLast? hlast) h
  · rfl

abbrev SimulatorClient := ScpiClient SimulatorTransport

namespace ScpiClient

section Rejected

variable {T : Type} [Transport T] {command : Text}

theorem writeLine_rejected (client : ScpiClient T)
    (hrejected : hasLineTerminator command = true) (timeout : Int) :
    ∃ message, writeLine command timeout client =
      some (.error (.invalidArgument message), client) :=
  ⟨_, by rw [writeLine, if_pos hrejected]; rfl⟩

theorem query_rejected (client : ScpiClient T)
    (hrejected : hasLineTerminator command = true) :
    ∃ message, query command client = some (.error (.invalidArgument message), client) := by
  obtain ⟨message, hwrite⟩ := writeLine_rejected client hrejected client.timeout
  exact ⟨message, Session.bind_error hwrite _⟩

end Rejected

def sim (client : SimulatorClient) : NormaSimulator := client.transport.simulator

def withSim (client : SimulatorClient) (simulator : NormaSimulator) : SimulatorClient :=
  { client with transport := { client.transport with simulator } }

def withResponse (client : SimulatorClient) (response : Option Text) : SimulatorClient :=
  { client with transport :=
    { client.transport with responses := client.transport.responses ++ response.toList } }

-- The link is up, no line is half written and no fault is injected.
structure Ready (client : SimulatorClient) : Prop where
  isOpen : client.transport.isOpen = true
  pending : client.transport.pending = []
  failWrites : client.transport.failWrites = false
  failReads : client.transport.failReads = false
  stallReads : client.transport.stallReads = false

structure Writable (client : SimulatorClient) : Prop where
  isOpen : client.transport.isOpen = true
  pending : client.transport.pending = []
  failWrites : client.transport.failWrites = false

theorem Ready.writable {client : SimulatorClient} (h : client.Ready) : client.Writable :=
  ⟨h.isOpen, h.pending, h.failWrites⟩

structure Idle (client : SimulatorClient) : Prop extends Ready client where
  responses : client.transport.responses = []

def opened (simulator : NormaSimulator) : SimulatorClient :=
  { transport := { simulator, isOpen := true } }

theorem idle_opened (simulator : NormaSimulator) : (opened simulator).Idle :=
  ⟨⟨rfl, rfl, rfl, rfl, rfl⟩, rfl⟩

variable {client : SimulatorClient} {command : Text} {after : NormaSimulator}

theorem Idle.withSim (h : client.Idle) (simulator : NormaSimulator) :
    (client.withSim simulator).Idle :=
  ⟨⟨h.isOpen, h.pending, h.failWrites, h.failReads, h.stallReads⟩, h.responses⟩

@[simp] theorem sim_withSim (client : SimulatorClient) (simulator : NormaSimulator) :
    (client.withSim simulator).sim = simulator := rfl

@[simp] theorem withSim_withSim (client : SimulatorClient) (first second : NormaSimulator) :
    (client.withSim first).withSim second = client.withSim second := rfl

@[simp] theorem withSim_sim (client : SimulatorClient) : client.withSim client.sim = client := rfl

theorem hasLineTerminator_eq_false :
    hasLineTerminator command = false ↔ '\n' ∉ command ∧ '\r' ∉ command := by
  simp [hasLineTerminator]

theorem writeLine_eq (h : client.Writable) (hplain : hasLineTerminator command = false)
    (timeout : Int) :
    writeLine command timeout client = (client.sim.handleLine command).map fun (after, response) =>
      (.ok (), (client.withSim after).withResponse response) := by
  obtain ⟨hnewline, hreturn⟩ := hasLineTerminator_eq_false.mp hplain
  cases hline : client.sim.handleLine command with
  | none =>
    have hline' : client.transport.simulator.handleLine command = none := hline
    simp [writeLine, hplain, onTransport, Transport.write, SimulatorTransport.write, h.isOpen,
      h.failWrites, h.pending, completeLines_plain hnewline, SimulatorTransport.deliver,
      stripReturn_plain hreturn, hline']
  | some result =>
    have hline' : client.transport.simulator.handleLine command = some result := hline
    simp [writeLine, hplain, onTransport, Transport.write, SimulatorTransport.write, h.isOpen,
      h.failWrites, h.pending, completeLines_plain hnewline, SimulatorTransport.deliver,
      stripReturn_plain hreturn, hline', withSim, withResponse]

theorem writeLine_ready (h : client.Ready) (hplain : hasLineTerminator command = false)
    {response : Option Text} (hline : client.sim.handleLine command = some (after, response))
    (timeout : Int) :
    writeLine command timeout client =
      some (.ok (), (client.withSim after).withResponse response) := by
  rw [writeLine_eq h.writable hplain, hline]
  rfl

theorem send_ready (h : client.Ready) (hplain : hasLineTerminator command = false)
    (hline : client.sim.handleLine command = some (after, none)) :
    send command client = some (.ok (), client.withSim after) := by
  have hwrite := writeLine_ready h hplain hline client.timeout
  rw [send, hwrite]
  simp [withResponse, withSim]

theorem query_idle (h : client.Idle) (hplain : hasLineTerminator command = false)
    {response : Text} (hline : client.sim.handleLine command = some (after, some response)) :
    query command client = some (.ok response, client.withSim after) := by
  have hwrite := writeLine_ready h.toReady hplain hline client.timeout
  rw [query, queryWithin, Session.bind_ok hwrite]
  simp [onTransport, Transport.readLine, SimulatorTransport.readLine, withSim, withResponse,
    h.isOpen, h.failReads, h.stallReads, h.responses]

end ScpiClient

theorem handleLine_whole {sim : NormaSimulator} {line text : Text} (hwhole : Whole ';' line)
    (htrim : trim line = text) (htext : text ≠ []) :
    sim.handleLine line = (handleCommand sim [] text).map fun out => (out.sim, out.response) := by
  rw [NormaSimulator.handleLine, hwhole.split]
  simp only [handlePieces, htrim, if_neg htext]
  cases handleCommand sim [] text with
  | none => rfl
  | some out =>
    dsimp only
    split
    · cases hresponse : out.response <;> simp [joinResponses, hresponse, join]
    · cases hresponse : out.response <;> simp [joinResponses, hresponse, join]

theorem handleLine_single {sim : NormaSimulator} {line : Text} {out : Outcome}
    (hplain : Unquoted line) (hsemicolon : ';' ∉ line) (htrim : trim line = line) (hne : line ≠ [])
    (hout : handleCommand sim [] line = some out) :
    sim.handleLine line = some (out.sim, out.response) := by
  rw [handleLine_whole (hplain.whole_iff.mpr hsemicolon) htrim hne, hout]
  rfl

def argumentsOf (parameters : Text) : List Text :=
  let parameters := trim parameters
  if parameters = [] then [] else (splitUnquoted parameters ',').map trim

theorem splitHeader_parameters {header : Text} (hunquoted : Unquoted header)
    (hspace : Spaceless header) (parameters : Text) :
    splitHeader none (header ++ ' ' :: parameters) = (header, parameters) := by
  induction header with
  | nil => rfl
  | cons c header ih =>
    have hrest := ih (fun d hd => hunquoted d (by simp [hd])) fun d hd => hspace d (by simp [hd])
    rw [List.cons_append, splitHeader_cons (hunquoted c (by simp)) (hspace c (by simp)), hrest]

theorem splitHeader_alone {header : Text} (hunquoted : Unquoted header)
    (hspace : Spaceless header) : splitHeader none header = (header, []) := by
  induction header with
  | nil => rfl
  | cons c header ih =>
    have hrest := ih (fun d hd => hunquoted d (by simp [hd])) fun d hd => hspace d (by simp [hd])
    rw [splitHeader_cons (hunquoted c (by simp)) (hspace c (by simp)), hrest]

theorem parseCommand_parameters {header : Text} (hunquoted : Unquoted header)
    (hspace : Spaceless header) (parameters : Text) :
    parseCommand (header ++ ' ' :: parameters) =
      { parseCommand header with args := argumentsOf parameters } := by
  simp only [parseCommand, splitHeader_parameters hunquoted hspace,
    splitHeader_alone hunquoted hspace]
  rfl

def received (sim : NormaSimulator) (p : Parsed) (key : Key) (suffixes : List Int) : Access :=
  ⟨sim, p.command (headerTokens [] p.header) key.text suffixes⟩

theorem handleLine_known {sim : NormaSimulator} {line text : Text} {p : Parsed} {key : Key}
    {suffixes : List Int} (hwhole : Whole ';' line) (htrim : trim line = text) (htext : text ≠ [])
    (hparse : parseCommand text = p) (hstar : p.header.head? ≠ some '*')
    (hfind : findCommand (headerTokens [] p.header) = some (key, suffixes)) :
    sim.handleLine line = (execute key (received sim p key suffixes)).map fun a =>
      (a.sim, a.command.response) := by
  rw [handleLine_whole hwhole htrim htext]
  simp only [handleCommand, hparse, if_neg hstar, handleTree, hfind, Option.map_map]
  rfl

end Norma
