import Norma.SocketLink
import Norma.PlainTexts

namespace Norma

open Framing Service
open TcpTransport (isLineFeed isTerminator tagged lineOf)
open ScpiClient (hasLineTerminator writeLine)

theorem SimulatorServer.receive_append (server : SimulatorServer) (received later : Text) :
    server.receive (received ++ later) =
      (server.receive received).bind fun (server, written) =>
        (server.receive later).map fun (server, more) => (server, written ++ more) := by
  unfold receive
  rw [feed_append]
  cases feed (· == '\n') (onLine server.stalled) (server.simulator, server.rx) received with
  | none => rfl
  | some result =>
    obtain ⟨⟨simulator, rx⟩, written⟩ := result
    simp only [Option.bind_some, Option.map_some, Option.map_map]
    rfl

-- What the client has in the end when the connection falls quiet: the server it has spoken to, and
-- every byte that reaches it.
def SocketLink.settled (link : SocketLink) : Option (SimulatorServer × Text) :=
  link.server.bind fun server =>
    (server.receive link.uplink).map fun (server, written) =>
      (server, link.client.rx.map Byte.value ++ link.downlink ++ written)

namespace SocketLink

variable {link : SocketLink}

theorem settled_advance (link : SocketLink) (count : Nat) :
    (link.advance count).settled = link.settled := by
  cases hserver : link.server with
  | none => simp [settled, advance, hserver]
  | some server =>
    have hwhole := server.receive_append (link.uplink.take count) (link.uplink.drop count)
    rw [List.take_append_drop] at hwhole
    cases hreceive : server.receive (link.uplink.take count) with
    | none => simp [settled, advance, hserver, hreceive, hwhole]
    | some result =>
      simp only [settled, advance, hserver, hreceive, hwhole, Option.bind_some, Option.map_map]
      congr 1
      funext more
      simp

theorem settled_send (link : SocketLink) (data : Text) :
    ({ link with uplink := link.uplink ++ data } : SocketLink).settled =
      link.settled.bind fun (server, heard) =>
        (server.receive data).map fun (server, written) => (server, heard ++ written) := by
  cases hserver : link.server with
  | none => simp [settled, hserver]
  | some server =>
    simp only [settled, hserver, Option.bind_some, server.receive_append]
    cases server.receive link.uplink with
    | none => rfl
    | some result =>
      simp only [Option.bind_some, Option.map_some, Option.map_map]
      congr 1
      funext more
      simp

theorem advance_client (link : SocketLink) (count : Nat) :
    (link.advance count).client = link.client := by
  unfold advance
  split <;> rfl

theorem settle_of_settled {server : SimulatorServer} {heard : Text}
    (h : link.settled = some (server, heard)) :
    link.settle.server = some server ∧ link.settle.uplink = [] ∧
      link.client.rx.map Byte.value ++ link.settle.downlink = heard := by
  unfold settled at h
  obtain ⟨before, hserver, hreceived⟩ := Option.bind_eq_some_iff.mp h
  obtain ⟨⟨after, written⟩, hreceive, hpair⟩ := Option.map_eq_some_iff.mp hreceived
  cases hpair
  simp [settle, advance, hserver, hreceive]

theorem settle_of_lost (h : link.settled = none) : link.settle.server = none := by
  unfold settled at h
  cases hserver : link.server with
  | none => simp [settle, advance, hserver]
  | some server =>
    rw [hserver, Option.bind_some, Option.map_eq_none_iff] at h
    simp [settle, advance, hserver, h]

theorem simulator_eq (link : SocketLink) :
    link.simulator = link.settled.map fun (server, _) => server.simulator := by
  cases h : link.settled with
  | none => simp [simulator, settle_of_lost h]
  | some result => simp [simulator, (settle_of_settled h).1]

end SocketLink

def wire (responses : List Text) : Text := responses.flatMap (· ++ ['\n'])

@[simp] theorem wire_cons (line : Text) (rest : List Text) :
    wire (line :: rest) = line ++ '\n' :: wire rest := by
  simp [wire]

@[simp] theorem wire_append (front back : List Text) :
    wire (front ++ back) = wire front ++ wire back := by
  simp [wire]

theorem OneLine.terminatorless {line : Text} (h : OneLine line) :
    ∀ c ∈ line, isTerminator c = false := by
  intro c hc
  have hchar := h.chars c hc
  simpa [isLineChar, isTerminator] using hchar

theorem OneLine.stripLine {line : Text} (h : OneLine line) : stripLine line = line :=
  List.rdropWhile_eq_self_iff.mpr fun hne hlast => by
    rw [h.terminatorless _ (List.getLast_mem hne)] at hlast
    cases hlast

theorem OneLine.feedless {line : Text} (h : OneLine line) : ∀ c ∈ line, (c == '\n') = false := by
  intro c hc
  rw [beq_eq_false_iff_ne]
  rintro rfl
  exact h.newline_notMem hc

theorem OneLine.of_accepted {command : Text} (h : hasLineTerminator command = false) :
    OneLine command := by
  obtain ⟨hnewline, hreturn⟩ := ScpiClient.hasLineTerminator_eq_false.mp h
  exact .of_notMem hnewline hreturn

theorem SimulatorServer.receive_line {command : Text} (h : OneLine command)
    (simulator : NormaSimulator) :
    receive { simulator } (command ++ ['\n']) =
      (simulator.handleLine command).map fun (after, response) =>
        ({ simulator := after }, wire response.toList) := by
  simp only [receive, feed_frame h.feedless (beq_self_eq_true '\n'), onLine, h.stripLine,
    Option.map_map]
  congr 1
  funext result
  obtain ⟨after, response⟩ := result
  cases response <;> simp [wire]

theorem map_tagged (connection : Nat) (text : Text) :
    (tagged connection text).map Byte.value = text := by
  simp [tagged, Function.comp_def]

theorem flatMap_tagged (connection : Nat) (pieces : List Text) :
    (pieces.flatMap (tagged connection)).map Byte.value = pieces.flatten := by
  simp [List.map_flatMap, map_tagged, List.flatMap_id']

theorem lineOf_values {frame : List Byte} {e : Byte} (he : isLineFeed e = true)
    {line : Text} (hvalues : frame.map Byte.value = line) (h : OneLine line) :
    (lineOf (frame ++ [e])).outcome = .ok line := by
  have hterminator : isTerminator e.value = true := by
    rw [beq_iff_eq.mp he]
    rfl
  have hframe : frame.rdropWhile (fun byte => isTerminator byte.value) = frame :=
    List.rdropWhile_eq_self_iff.mpr fun hne hlast => by
      have hmem : (frame.getLast hne).value ∈ line := by
        rw [← hvalues]
        exact List.mem_map_of_mem (List.getLast_mem hne)
      rw [h.terminatorless _ hmem] at hlast
      cases hlast
  rw [lineOf, List.rdropWhile_concat_pos (fun byte : Byte =>
    isTerminator byte.value) frame e hterminator, hframe]
  exact congrArg Except.ok hvalues

theorem TcpTransport.read_stream {t : TcpTransport} {pieces : List Text} {line stream : Text}
    (hopen : t.isOpen = true) (hline : OneLine line)
    (h : t.rx.map Byte.value ++ pieces.flatten = line ++ '\n' :: stream) (timeout : Int) :
    ∃ received later after, gather isLineFeed (tagged t.connection) t.rx pieces =
        some (received, later) ∧
      t.readLine timeout received .finished = after ∧ after.1.outcome = .ok line ∧
      after.2.isOpen = true ∧ after.2.rx.map Byte.value ++ later.flatten = stream := by
  rw [← flatMap_tagged t.connection, ← List.map_append] at h
  cases hgather : gather isLineFeed (tagged t.connection) t.rx pieces with
  | none =>
    have hmem : '\n' ∈ (t.rx ++ pieces.flatMap (tagged t.connection)).map Byte.value := by
      rw [h]
      exact List.mem_append_right _ List.mem_cons_self
    obtain ⟨byte, hbyte, hvalue⟩ := List.mem_map.mp hmem
    have hquiet := List.any_eq_false.mp (gather_eq_none.mp hgather) byte hbyte
    simp [isLineFeed, hvalue] at hquiet
  | some taken =>
    obtain ⟨received, later⟩ := taken
    obtain ⟨frame, e, more, hcut, hframe, he, hwhole⟩ := gather_frame hgather
    rw [hwhole, List.map_append, List.map_cons, beq_iff_eq.mp he] at h
    have hquiet : ∀ c ∈ frame.map Byte.value, (c == '\n') = false := by
      intro c hc
      obtain ⟨byte, hbyte, rfl⟩ := List.mem_map.mp hc
      exact hframe byte hbyte
    obtain ⟨hvalues, hrest⟩ := first_frame hquiet hline.feedless (beq_self_eq_true '\n') h
    rw [List.map_append, flatMap_tagged] at hrest
    refine ⟨received, later, _, rfl, rfl, ?_⟩
    rw [readLine_eq hopen, hcut]
    exact ⟨lineOf_values he hvalues hline, hopen, hrest⟩

theorem SimulatorServer.receive_nothing {server : SimulatorServer} (hrx : server.rx = []) :
    server.receive [] = some (server, []) := by
  rw [receive, feed_nil (by simp [hrx])]
  rfl

namespace SocketLink

variable {link : SocketLink}

theorem readLine_wire {server : SimulatorServer} {line : Text} {rest : List Text}
    (hopen : link.client.isOpen = true) (hrx : server.rx = [])
    (h : link.settled = some (server, wire (line :: rest))) (hline : OneLine line)
    (timeout : Int) :
    ∃ after, link.readLine timeout = some (.ok line, after) ∧ after.client.isOpen = true ∧
      after.settled = some (server, wire rest) := by
  obtain ⟨hserver, huplink, hheard⟩ := settle_of_settled h
  have hstream : link.client.rx.map Byte.value ++
      (link.schedule.pieces link.calls link.settle.downlink).flatten = line ++ '\n' :: wire rest := by
    rw [link.schedule.pieces_flatten, hheard, wire_cons]
  obtain ⟨received, later, ⟨result, client⟩, hgather, hread, hresult, hstillOpen, hrest⟩ :=
    TcpTransport.read_stream hopen hline hstream timeout
  have hreadLine : link.readLine timeout = some (.ok line, { link.settle with
      client, downlink := later.flatten, calls := link.calls + 1 }) := by
    unfold readLine
    rw [if_neg (by simp [hopen])]
    dsimp only
    rw [hserver, hgather]
    dsimp only
    rw [hread, ← hresult]
  refine ⟨_, hreadLine, hstillOpen, ?_⟩
  simp [settled, hserver, huplink, SimulatorServer.receive_nothing hrx, hrest]

theorem write_client (hopen : link.client.isOpen = true) (data : Text) (timeout : Int) :
    ∃ after, link.write data timeout = (.ok (), after) ∧ after.client.isOpen = true ∧
      after.settled = link.settled.bind fun (server, heard) =>
        (server.receive data).map fun (server, written) => (server, heard ++ written) := by
  have hwrite : link.client.write timeout .finished = (.done, link.client) := by
    simp [TcpTransport.write, hopen, TcpTransport.runOperation]
  unfold write
  rw [hwrite]
  refine ⟨_, rfl, by rw [advance_client]; exact hopen, ?_⟩
  rw [settled_advance]
  exact settled_send link data

theorem readLine_lost (hopen : link.client.isOpen = true) (h : link.settled = none)
    (timeout : Int) : link.readLine timeout = none := by
  unfold readLine
  rw [if_neg (by simp [hopen])]
  dsimp only
  rw [settle_of_lost h]

end SocketLink

abbrev SocketClient := ScpiClient SocketLink

structure Agree (client : SimulatorClient) (remote : SocketClient) : Prop where
  ready : client.Ready
  texts : client.sim.TextsOneLine
  responses : ∀ response ∈ client.transport.responses, OneLine response
  isOpen : remote.transport.client.isOpen = true
  settled : remote.transport.settled =
    some ({ simulator := client.sim }, wire client.transport.responses)

structure Lost (remote : SocketClient) : Prop where
  isOpen : remote.transport.client.isOpen = true
  settled : remote.transport.settled = none

theorem ScpiClient.Ready.after {client : SimulatorClient} (h : client.Ready)
    (simulator : NormaSimulator) (responses : List Text) :
    ({ client with transport := { client.transport with simulator, responses } } :
      SimulatorClient).Ready :=
  ⟨h.isOpen, h.pending, h.failWrites, h.failReads, h.stallReads⟩

section Steps

open Session (onTransport)

variable {client : SimulatorClient} {remote : SocketClient} {command : Text}

theorem writeLine_agree (h : Agree client remote)
    (hplain : hasLineTerminator command = false) (timeout patience : Int) :
    ∃ remote', writeLine command patience remote = some (.ok (), remote') ∧
      (writeLine command timeout client = none ∧ Lost remote' ∨
        ∃ after, writeLine command timeout client = some (.ok (), after) ∧
          Agree after remote') := by
  have hcommand := OneLine.of_accepted hplain
  obtain ⟨link, hwrite, hopen, hsettled⟩ :=
    SocketLink.write_client h.isOpen (command ++ ['\n']) patience
  rw [h.settled, Option.bind_some] at hsettled
  dsimp only at hsettled
  rw [SimulatorServer.receive_line hcommand] at hsettled
  refine ⟨{ remote with transport := link }, ?_, ?_⟩
  · simp [writeLine, hplain, onTransport, Transport.write, hwrite]
  · cases hline : client.sim.handleLine command with
    | none =>
      rw [hline] at hsettled
      exact .inl ⟨by rw [ScpiClient.writeLine_eq h.ready.writable hplain, hline]; rfl,
        hopen, hsettled⟩
    | some result =>
      obtain ⟨sim, response⟩ := result
      rw [hline] at hsettled
      obtain ⟨htexts, hresponse⟩ := handleLine_plain hline h.texts hcommand
      refine .inr ⟨_, ScpiClient.writeLine_ready h.ready hplain hline timeout, ?_⟩
      refine ⟨h.ready.after _ _, htexts, ?_, hopen, ?_⟩
      · intro line hmem
        rcases List.mem_append.mp hmem with hold | hnew
        · exact h.responses line hold
        · exact hresponse line (Option.mem_toList.mp hnew)
      · rw [hsettled]
        simp [ScpiClient.withResponse, ScpiClient.withSim, ScpiClient.sim]

theorem readLine_agree (h : Agree client remote) (hwaiting : client.transport.responses ≠ [])
    (timeout patience : Int) :
    ∃ line after remote',
      onTransport (Transport.readLine timeout) client = some (.ok line, after) ∧
      onTransport (Transport.readLine patience) remote = some (.ok line, remote') ∧
      Agree after remote' := by
  obtain ⟨line, rest, hresponses⟩ := List.exists_cons_of_ne_nil hwaiting
  have hlines := h.responses
  have hsettled := h.settled
  rw [hresponses] at hlines hsettled
  obtain ⟨link, hread, hopen, hrest⟩ := SocketLink.readLine_wire h.isOpen rfl hsettled
    (hlines line List.mem_cons_self) patience
  refine ⟨line, { client with transport := { client.transport with responses := rest } },
    { remote with transport := link }, ?_, ?_, ?_⟩
  · simp [onTransport, Transport.readLine, SimulatorTransport.readLine, h.ready.isOpen,
      h.ready.failReads, h.ready.stallReads, hresponses]
  · simp [onTransport, Transport.readLine, hread]
  · exact ⟨h.ready.after _ _, h.texts,
      fun other hother => hlines other (List.mem_cons_of_mem _ hother), hopen, hrest⟩

theorem writeLine_lost (h : Lost remote)
    (hplain : hasLineTerminator command = false) (timeout : Int) :
    ∃ remote', writeLine command timeout remote = some (.ok (), remote') ∧
      Lost remote' := by
  obtain ⟨link, hwrite, hopen, hsettled⟩ :=
    SocketLink.write_client h.isOpen (command ++ ['\n']) timeout
  rw [h.settled, Option.bind_none] at hsettled
  refine ⟨{ remote with transport := link }, ?_, hopen, hsettled⟩
  simp [writeLine, hplain, onTransport, Transport.write, hwrite]

theorem readLine_lost (h : Lost remote) (timeout : Int) :
    onTransport (Transport.readLine timeout) remote = none := by
  simp [onTransport, Transport.readLine, SocketLink.readLine_lost h.isOpen h.settled]

end Steps

theorem Session.bind_pure {T A B : Type} (m : Session T A) (f : A → B) (client : ScpiClient T) :
    (m >>= fun a => pure (f a)) client =
      (m client).map fun (result, after) => (result.map f, after) := by
  cases h : m client with
  | none => exact Session.bind_none h _
  | some found =>
    obtain ⟨result, after⟩ := found
    cases result with
    | error fault => exact Session.bind_error h _
    | ok a => exact Session.bind_ok h _

namespace LinkCall

def command : LinkCall → Text
  | send command => command
  | query command => command
  | queryWithin command _ => command

variable {T : Type} [Transport T] (text : Text) (client : ScpiClient T)

theorem perform_send : perform (.send text) client =
    (ScpiClient.send text client).map fun (result, after) => (result.map fun _ => none, after) :=
  Session.bind_pure _ _ client

theorem perform_query : perform (.query text) client =
    (ScpiClient.query text client).map fun (result, after) => (result.map some, after) :=
  Session.bind_pure _ _ client

theorem perform_queryWithin (timeout : Int) : perform (.queryWithin text timeout) client =
    (ScpiClient.queryWithin text timeout client).map fun (result, after) =>
      (result.map some, after) :=
  Session.bind_pure _ _ client

end LinkCall

theorem writeLine_refused {command : Text} (h : hasLineTerminator command = true) :
    ∃ fault, ∀ {T : Type} [Transport T] (client : ScpiClient T) (timeout : Int),
      writeLine command timeout client = some (.error fault, client) :=
  ⟨_, fun client timeout => by rw [writeLine, if_pos h]; rfl⟩

theorem perform_refused {call : LinkCall} (h : hasLineTerminator call.command = true) :
    ∃ fault, ∀ {T : Type} [Transport T] (client : ScpiClient T),
      call.perform client = some (.error fault, client) := by
  obtain ⟨fault, hwrite⟩ := writeLine_refused h
  refine ⟨fault, fun client => ?_⟩
  cases call with
  | send command =>
    have hsent : ScpiClient.send command client = some (.error fault, client) :=
      hwrite client client.timeout
    rw [LinkCall.perform_send, hsent]
    rfl
  | query command =>
    have hsent : ScpiClient.query command client = some (.error fault, client) :=
      Session.bind_error (hwrite client client.timeout) _
    rw [LinkCall.perform_query, hsent]
    rfl
  | queryWithin command timeout =>
    have hsent : ScpiClient.queryWithin command timeout client = some (.error fault, client) :=
      Session.bind_error (hwrite client timeout) _
    rw [LinkCall.perform_queryWithin, hsent]
    rfl

def LinkCall.Answered (client : SimulatorClient) : LinkCall → Prop
  | .send _ => True
  | .query command => ∀ after,
      writeLine command client.timeout client = some (.ok (), after) →
        after.transport.responses ≠ []
  | .queryWithin command timeout => ∀ after,
      writeLine command timeout client = some (.ok (), after) →
        after.transport.responses ≠ []

def Fed : List LinkCall → SimulatorClient → Prop
  | [], _ => True
  | call :: calls, client =>
      call.Answered client ∧
        ∀ result after, call.perform client = some (result, after) → Fed calls after

section Calls

variable {client : SimulatorClient} {remote : SocketClient} {call : LinkCall}

theorem queryWithin_agree (h : Agree client remote) {command : Text} {timeout : Int}
    (hplain : hasLineTerminator command = false) (patience : Int)
    (hanswered : ∀ after, writeLine command timeout client = some (.ok (), after) →
      after.transport.responses ≠ []) :
    (ScpiClient.queryWithin command timeout client = none ∧
      ScpiClient.queryWithin command patience remote = none) ∨
    ∃ line after remote', ScpiClient.queryWithin command timeout client = some (.ok line, after) ∧
      ScpiClient.queryWithin command patience remote = some (.ok line, remote') ∧
      Agree after remote' := by
  obtain ⟨sent, hremote, ⟨hnone, hlost⟩ | ⟨written, hwrite, hagree⟩⟩ :=
    writeLine_agree h hplain timeout patience
  · left
    unfold ScpiClient.queryWithin
    rw [Session.bind_none hnone, Session.bind_ok hremote, readLine_lost hlost]
    exact ⟨rfl, rfl⟩
  · right
    obtain ⟨line, after, remote', hread, hreadRemote, hafter⟩ :=
      readLine_agree hagree (hanswered written hwrite) timeout patience
    refine ⟨line, after, remote', ?_, ?_, hafter⟩
    · rw [ScpiClient.queryWithin, Session.bind_ok hwrite, hread]
    · rw [ScpiClient.queryWithin, Session.bind_ok hremote, hreadRemote]

theorem send_agree (h : Agree client remote) {command : Text}
    (hplain : hasLineTerminator command = false) :
    ∃ remote', ScpiClient.send command remote = some (.ok (), remote') ∧
      (ScpiClient.send command client = none ∧ Lost remote' ∨
        ∃ after, ScpiClient.send command client = some (.ok (), after) ∧ Agree after remote') :=
  writeLine_agree h hplain client.timeout remote.timeout

-- A call either goes the same way on both sides, or the line it sends does not return.
def Alike (call : LinkCall) (client : SimulatorClient) (remote : SocketClient) : Prop :=
  (call.perform client = none ∧
    ∀ result remote', call.perform remote = some (result, remote') → Lost remote') ∨
  ∃ result after remote', call.perform client = some (result, after) ∧
    call.perform remote = some (result, remote') ∧ Agree after remote'

theorem perform_send_agree (h : Agree client remote) {command : Text}
    (hplain : hasLineTerminator command = false) : Alike (.send command) client remote := by
  obtain ⟨remote', hsend, ⟨hnone, hlost⟩ | ⟨after, hsome, hagree⟩⟩ := send_agree h hplain
  · refine .inl ⟨by rw [LinkCall.perform_send, hnone]; rfl, fun result other hother => ?_⟩
    rw [LinkCall.perform_send, hsend, Option.map_some] at hother
    cases hother
    exact hlost
  · refine .inr ⟨.ok none, after, remote', ?_, ?_, hagree⟩
    · rw [LinkCall.perform_send, hsome]
      rfl
    · rw [LinkCall.perform_send, hsend]
      rfl

theorem perform_query_agree (h : Agree client remote) {command : Text} {timeout patience : Int}
    (hplain : hasLineTerminator command = false)
    (hanswered : ∀ after, writeLine command timeout client = some (.ok (), after) →
      after.transport.responses ≠ [])
    (hclient : call.perform client = (ScpiClient.queryWithin command timeout client).map
      fun (result, after) => (result.map some, after))
    (hremote : call.perform remote = (ScpiClient.queryWithin command patience remote).map
      fun (result, after) => (result.map some, after)) : Alike call client remote := by
  rcases queryWithin_agree h hplain patience hanswered with
    ⟨hnone, hlost⟩ | ⟨line, after, remote', hsome, hfar, hagree⟩
  · refine .inl ⟨by rw [hclient, hnone, Option.map_none], fun result other hother => ?_⟩
    rw [hremote, hlost] at hother
    cases hother
  · refine .inr ⟨.ok (some line), after, remote', ?_, ?_, hagree⟩
    · rw [hclient, hsome]
      rfl
    · rw [hremote, hfar]
      rfl

theorem perform_agree (h : Agree client remote) (hanswered : call.Answered client) :
    Alike call client remote := by
  cases hplain : hasLineTerminator call.command with
  | true =>
    obtain ⟨fault, hrefused⟩ := perform_refused hplain
    exact .inr ⟨_, client, remote, hrefused client, hrefused remote, h⟩
  | false =>
    cases call with
    | send command => exact perform_send_agree h hplain
    | query command =>
      exact perform_query_agree h hplain hanswered (LinkCall.perform_query command client)
        (LinkCall.perform_query command remote)
    | queryWithin command timeout =>
      exact perform_query_agree h hplain hanswered
        (LinkCall.perform_queryWithin command client timeout)
        (LinkCall.perform_queryWithin command remote timeout)

theorem perform_lost (h : Lost remote) {result : Except Fault (Option Text)}
    {remote' : SocketClient} (hperform : call.perform remote = some (result, remote')) :
    Lost remote' := by
  cases hplain : hasLineTerminator call.command with
  | true =>
    obtain ⟨fault, hrefused⟩ := perform_refused hplain
    rw [hrefused] at hperform
    cases hperform
    exact h
  | false =>
    cases call with
    | send command =>
      simp only [LinkCall.command] at hplain
      obtain ⟨after, hwrite, hlost⟩ := writeLine_lost h hplain remote.timeout
      rw [LinkCall.perform_send, ScpiClient.send, hwrite] at hperform
      cases hperform
      exact hlost
    | query command =>
      simp only [LinkCall.command] at hplain
      obtain ⟨after, hwrite, hlost⟩ := writeLine_lost h hplain remote.timeout
      rw [LinkCall.perform_query, ScpiClient.query, ScpiClient.queryWithin, Session.bind_ok hwrite,
        readLine_lost hlost] at hperform
      cases hperform
    | queryWithin command timeout =>
      simp only [LinkCall.command] at hplain
      obtain ⟨after, hwrite, hlost⟩ := writeLine_lost h hplain timeout
      rw [LinkCall.perform_queryWithin, ScpiClient.queryWithin, Session.bind_ok hwrite,
        readLine_lost hlost] at hperform
      cases hperform

end Calls

section Runs

variable {client : SimulatorClient} {remote : SocketClient} {calls : List LinkCall}

theorem runCalls_lost (h : Lost remote) {results : List (Except Fault (Option Text))}
    {remote' : SocketClient} (hrun : runCalls calls remote = some (results, remote')) :
    Lost remote' := by
  induction calls generalizing remote results with
  | nil =>
    cases hrun
    exact h
  | cons call calls ih =>
    rw [runCalls] at hrun
    cases hperform : call.perform remote with
    | none => simp [hperform] at hrun
    | some found =>
      obtain ⟨result, middle⟩ := found
      rw [hperform] at hrun
      obtain ⟨⟨later, final⟩, hlater, hpair⟩ := Option.map_eq_some_iff.mp hrun
      cases hpair
      exact ih (perform_lost h hperform) hlater

def socketRun (calls : List LinkCall) (remote : SocketClient) :
    Option (List (Except Fault (Option Text)) × NormaSimulator) :=
  (runCalls calls remote).bind fun (results, remote) =>
    remote.transport.simulator.map fun simulator => (results, simulator)

def localRun (calls : List LinkCall) (client : SimulatorClient) :
    Option (List (Except Fault (Option Text)) × NormaSimulator) :=
  (runCalls calls client).map fun (results, client) => (results, client.sim)

theorem socketRun_lost (h : Lost remote) (calls : List LinkCall) :
    socketRun calls remote = none := by
  rw [socketRun, Option.bind_eq_none_iff]
  rintro ⟨results, remote'⟩ hrun
  dsimp only
  rw [SocketLink.simulator_eq, (runCalls_lost h hrun).settled]
  rfl

theorem socketRun_cons {call : LinkCall} {result : Except Fault (Option Text)}
    {remote' : SocketClient} (h : call.perform remote = some (result, remote')) :
    socketRun (call :: calls) remote =
      (socketRun calls remote').map fun (results, sim) => (result :: results, sim) := by
  rw [socketRun, runCalls, h, socketRun]
  dsimp only
  cases runCalls calls remote' with
  | none => rfl
  | some found =>
    obtain ⟨results, final⟩ := found
    simp only [Option.map_some, Option.bind_some, Option.map_map]
    rfl

theorem localRun_cons {call : LinkCall} {result : Except Fault (Option Text)}
    {after : SimulatorClient} (h : call.perform client = some (result, after)) :
    localRun (call :: calls) client =
      (localRun calls after).map fun (results, sim) => (result :: results, sim) := by
  rw [localRun, runCalls, h, localRun]
  simp only [Option.map_map]
  rfl

theorem socketRun_agree (h : Agree client remote) (hfed : Fed calls client) :
    socketRun calls remote = localRun calls client := by
  induction calls generalizing client remote with
  | nil =>
    rw [socketRun, localRun, runCalls, runCalls, Option.bind_some]
    dsimp only
    rw [SocketLink.simulator_eq, h.settled]
    rfl
  | cons call calls ih =>
    obtain ⟨hanswered, hlater⟩ := hfed
    rcases perform_agree h hanswered with
      ⟨hnone, hlost⟩ | ⟨result, after, remote', hlocal, hremote, hagree⟩
    · have hend : localRun (call :: calls) client = none := by
        rw [localRun, runCalls, hnone]
        rfl
      rw [hend]
      cases hperform : call.perform remote with
      | none =>
        rw [socketRun, runCalls, hperform]
        rfl
      | some found =>
        obtain ⟨result, remote'⟩ := found
        rw [socketRun_cons hperform, socketRun_lost (hlost result remote' hperform)]
        rfl
    · rw [socketRun_cons hremote, localRun_cons hlocal, ih hagree (hlater result after hlocal)]

theorem agree_connected (h : client.Idle) (htexts : client.sim.TextsOneLine) (host : Text)
    (port : Nat) (schedule : Schedule) (timeout : Int) :
    Agree client { transport := .connected host port client.sim schedule, timeout } where
  ready := h.toReady
  texts := htexts
  responses := by simp [h.responses]
  isOpen := rfl
  settled := by
    rw [h.responses]
    rfl

theorem socket_link_agrees (hidle : client.Idle) (htexts : client.sim.TextsOneLine)
    (hfed : Fed calls client) (host : Text) (port : Nat) (schedule : Schedule) (timeout : Int) :
    socketRun calls { transport := .connected host port client.sim schedule, timeout } =
      localRun calls client :=
  socketRun_agree (agree_connected hidle htexts host port schedule timeout) hfed

end Runs

section Schedules

def slowly : Schedule where
  arrived _ := 3
  pieces _ answers := answers.map fun c => [c]
  pieces_flatten _ answers := by simp [← List.flatMap_def]

theorem fed_cons {client after : SimulatorClient} {call : LinkCall} {calls : List LinkCall}
    {result : Except Fault (Option Text)} (hanswered : call.Answered client)
    (hperform : call.perform client = some (result, after)) (h : Fed calls after) :
    Fed (call :: calls) client := by
  refine ⟨hanswered, fun other final hother => ?_⟩
  rw [hperform] at hother
  cases hother
  exact h

theorem answered_of_writeLine {client after : SimulatorClient} {command : Text}
    (hwrite : writeLine command client.timeout client = some (.ok (), after))
    (hwaiting : after.transport.responses ≠ []) : (LinkCall.query command).Answered client := by
  intro other hother
  rw [hwrite] at hother
  cases hother
  exact hwaiting

theorem unread_answer_agrees : ∃ fault sim,
    socketRun [.send "*OPC?", .send "*CLS\n", .query "*OPT?"]
      { transport := .connected "norma" 23 (.new {}) slowly, timeout := 100 } =
        some ([.ok none, .error fault, .ok (some "1")], sim) := by
  let client := ScpiClient.opened (.new {})
  have hidle : client.Idle := ScpiClient.idle_opened _
  have hoptions : ({} : SimulatorOptions).TextsOneLine :=
    ⟨by decide, by decide, by decide, by decide, by decide, by decide⟩
  have htexts : client.sim.TextsOneLine := (PlainReachable.new hoptions).textsOneLine
  have hsent : LinkCall.perform (.send "*OPC?") client =
      some (.ok none, client.withResponse (some "1")) := rfl
  have hterminated : hasLineTerminator (LinkCall.send "*CLS\n").command = true := by
    decide
  obtain ⟨fault, hrefused⟩ := perform_refused hterminated
  have hwritten : writeLine "*OPT?" client.timeout (client.withResponse (some "1")) =
      some (.ok (), (client.withResponse (some "1")).withResponse (some "PP54,PI1")) := rfl
  have hread : LinkCall.perform (.query "*OPT?") (client.withResponse (some "1")) =
      some (.ok (some "1"), client.withResponse (some "PP54,PI1")) := rfl
  have hfed : Fed [.send "*OPC?", .send "*CLS\n", .query "*OPT?"] client :=
    fed_cons trivial hsent (fed_cons trivial (hrefused _)
      (fed_cons (answered_of_writeLine hwritten (List.cons_ne_nil _ _)) hread trivial))
  have hlocal : localRun [.send "*OPC?", .send "*CLS\n", .query "*OPT?"] client =
      some ([.ok none, .error fault, .ok (some "1")], .new {}) := by
    rw [localRun_cons hsent, localRun_cons (hrefused _), localRun_cons hread]
    rfl
  exact ⟨fault, _, (socket_link_agrees hidle htexts hfed "norma" 23 slowly 100).trans hlocal⟩

def splitOptions : SimulatorOptions := { optionsResponse := "PP54\nPI1" }

theorem split_text_disagrees : ¬ ∀ (client : SimulatorClient) (calls : List LinkCall) (host : Text)
    (port : Nat) (schedule : Schedule) (timeout : Int), client.Idle → Reachable client.sim →
      Fed calls client →
        socketRun calls { transport := .connected host port client.sim schedule, timeout } =
          localRun calls client := by
  intro h
  let client := ScpiClient.opened (.new splitOptions)
  have hwritten : writeLine "*OPT?" client.timeout client =
      some (.ok (), client.withResponse (some "PP54\nPI1")) := rfl
  have hread : LinkCall.perform (.query "*OPT?") client =
      some (.ok (some "PP54\nPI1"), client) := rfl
  have hfed : Fed [.query "*OPT?"] client :=
    fed_cons (answered_of_writeLine hwritten (List.cons_ne_nil _ _)) hread trivial
  have hagree := h client [.query "*OPT?"] "norma" 23 slowly 100 (ScpiClient.idle_opened _)
    (.new splitOptions) hfed
  have hlocal : localRun [.query "*OPT?"] client =
      some ([.ok (some "PP54\nPI1")], .new splitOptions) := by
    rw [localRun_cons hread]
    rfl
  have hremote : socketRun [.query "*OPT?"]
      { transport := .connected "norma" 23 (.new splitOptions) slowly, timeout := 100 } =
        some ([.ok (some "PP54")], .new splitOptions) := by
    rfl
  rw [hlocal] at hagree
  have hresults := congrArg (Option.map Prod.fst) (hremote.symm.trans hagree)
  simp only [Option.map_some, Option.some.injEq, List.cons.injEq, Except.ok.injEq] at hresults
  exact absurd hresults.1 (by decide)

end Schedules

end Norma
