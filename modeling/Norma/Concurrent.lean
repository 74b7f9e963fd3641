import Norma.Lib.Sharing
import Norma.ErrorQueue

namespace Norma

open ScpiClient
open Sharing

structure Peer where
  State : Type
  handle : State → Text → State × List Text

structure PeerLink (peer : Peer) where
  state : peer.State
  pipe : List Text := []

namespace PeerLink

variable {peer : Peer}

def write (data : Text) (link : PeerLink peer) : Except Fault Unit × PeerLink peer :=
  let out := peer.handle link.state data.dropLast
  (.ok (), ⟨out.1, link.pipe ++ out.2⟩)

def readLine (link : PeerLink peer) : Except Fault Text × PeerLink peer :=
  match link.pipe with
  | [] => (.error (.timeout "no response pending"), link)
  | line :: pipe => (.ok line, { link with pipe })

instance : Transport (PeerLink peer) where
  open' link := some (.ok (), link)
  close link := link
  isOpen _ := true
  write data _ link := some (link.write data)
  readLine _ link := some link.readLine

end PeerLink

inductive Program where
  | done (result : Except Fault (List ScpiErrorInfo))
  | send (command : Text) (next : Except Fault Unit → Program)
  | query (command : Text) (next : Except Fault Text → Program)

namespace Program

def run {T : Type} [Transport T] : Program → Session T (List ScpiErrorInfo)
  | .done result => Session.ofExcept result
  | .send command next => fun client =>
      (ScpiClient.send command client).bind fun (result, after) => (next result).run after
  | .query command next => fun client =>
      (ScpiClient.query command client).bind fun (result, after) => (next result).run after

def Within (sent asked : Text → Prop) : Program → Prop
  | .done _ => True
  | .send command next =>
      (hasLineTerminator command = false → sent command) ∧
        ∀ result, (next result).Within sent asked
  | .query command next =>
      (hasLineTerminator command = false → asked command) ∧
        ∀ result, (next result).Within sent asked

abbrev Other (program : Program) : Prop :=
  program.Within (· ≠ "SYST:ERR?") (· ≠ "SYST:ERR?")

def Next : Program → Program → Prop
  | .done _, _ => False
  | .send _ next, program => ∃ result, program = next result
  | .query _ next, program => ∃ result, program = next result

theorem Within.next {sent asked : Text → Prop} {first rest : Program}
    (h : first.Within sent asked) (hnext : first.Next rest) : rest.Within sent asked := by
  cases first with
  | done result => cases hnext
  | send command next =>
    obtain ⟨result, rfl⟩ := hnext
    exact h.2 result
  | query command next =>
    obtain ⟨result, rfl⟩ := hnext
    exact h.2 result

def drainErrors : Nat → List ScpiErrorInfo → Program
  | 0, _ =>
      .done (.error (.protocol ("SYST:ERR? still reported errors after " ++
        toText kMaxErrorQueueDrain ++ " reads; the error queue is not draining")))
  | n + 1, errors =>
      .query "SYST:ERR?" fun result =>
        match result with
        | .error fault => .done (.error fault)
        | .ok line =>
            match parseError line with
            | .error fault => .done (.error fault)
            | .ok entry =>
                if entry.code = 0 then .done (.ok errors) else drainErrors n (errors ++ [entry])

def readAllErrors : Program := drainErrors kMaxErrorQueueDrain []

theorem run_drainErrors {T : Type} [Transport T] (n : Nat) (errors : List ScpiErrorInfo) :
    (drainErrors n errors).run = (ScpiClient.drainErrors n errors : Session T _) := by
  induction n generalizing errors with
  | zero => rfl
  | succ n ih =>
    funext client
    rw [ScpiClient.drainErrors]
    change (ScpiClient.query "SYST:ERR?" client).bind _ = _
    cases hquery : ScpiClient.query "SYST:ERR?" client with
    | none => exact (Session.bind_none hquery _).symm
    | some outcome =>
      obtain ⟨result, after⟩ := outcome
      cases result with
      | error fault => exact (Session.bind_error hquery _).symm
      | ok line =>
        rw [Session.bind_ok hquery, Option.bind_some]
        dsimp only
        cases hentry : parseError line with
        | error fault => exact (Session.bind_error rfl _).symm
        | ok entry =>
          rw [Session.bind_ofExcept_ok rfl]
          dsimp only
          split
          · rfl
          · rw [ih]

theorem run_readAllErrors {T : Type} [Transport T] :
    readAllErrors.run = (ScpiClient.readAllErrors : Session T _) :=
  run_drainErrors kMaxErrorQueueDrain []

theorem within_drainErrors {sent asked : Text → Prop} (hasked : asked "SYST:ERR?") (n : Nat)
    (errors : List ScpiErrorInfo) : (drainErrors n errors).Within sent asked := by
  induction n generalizing errors with
  | zero => trivial
  | succ n ih =>
    refine ⟨fun _ => hasked, fun result => ?_⟩
    dsimp only
    split
    · trivial
    · split
      · trivial
      · split
        · trivial
        · exact ih _

end Program

structure Shared (peer : Peer) (I : Type) where
  client : ScpiClient (PeerLink peer)
  threads : I → Program

namespace Shared

variable {peer : Peer} {I : Type} [DecidableEq I]

def state (shared : Shared peer I) : peer.State := shared.client.transport.state

def pipe (shared : Shared peer I) : List Text := shared.client.transport.pipe

-- One call of one thread; the mutex of the client makes it a single step.
def step (shared : Shared peer I) (i : I) : Option (Shared peer I) :=
  match shared.threads i with
  | .done _ => none
  | .send command next =>
      (ScpiClient.send command shared.client).map fun (result, client) =>
        ⟨client, Function.update shared.threads i (next result)⟩
  | .query command next =>
      (ScpiClient.query command shared.client).map fun (result, client) =>
        ⟨client, Function.update shared.threads i (next result)⟩

def run (shared : Shared peer I) : List I → Option (Shared peer I)
  | [] => some shared
  | i :: schedule => (shared.step i).bind fun after => after.run schedule

def command (shared : Shared peer I) (i : I) : Option Text :=
  match shared.threads i with
  | .done _ => none
  | .send command _ | .query command _ =>
      if hasLineTerminator command = true then none else some command

end Shared

structure Peer.Answers (peer : Peer) (sent asked : Text → Prop) : Prop where
  silent : ∀ state command, sent command → (peer.handle state command).2 = []
  answered : ∀ state command, asked command → ∃ line, (peer.handle state command).2 = [line]

-- An error queue that only SYST:ERR? takes entries from.
structure ErrorQueue (peer : Peer) (used : Text → Prop) where
  entries : peer.State → List ScpiErrorInfo
  queued : peer.State → Text → List ScpiErrorInfo
  entries_other : ∀ state command, used command → command ≠ "SYST:ERR?" →
    entries (peer.handle state command).1 = entries state ++ queued state command
  entries_next : ∀ state, entries (peer.handle state "SYST:ERR?").1 = (entries state).tail
  queued_next : ∀ state, queued state "SYST:ERR?" = []
  reported : ∀ state line, (peer.handle state "SYST:ERR?").2 = [line] →
    ∃ entry, parseError line = .ok entry ∧
      match entries state with
      | [] => entry.code = 0
      | front :: _ => entry = front ∧ front.code ≠ 0

namespace Shared

variable {peer : Peer} {I : Type} [DecidableEq I] {sent asked used : Text → Prop}
  {queue : ErrorQueue peer used} {shared after start : Shared peer I} {i : I}

def queuedBy (queue : ErrorQueue peer used) (shared : Shared peer I) (i : I) :
    List ScpiErrorInfo :=
  match shared.command i with
  | none => []
  | some command => queue.queued shared.state command

def arrivals (queue : ErrorQueue peer used) (shared : Shared peer I) : List I → List ScpiErrorInfo
  | [] => []
  | i :: schedule =>
      shared.queuedBy queue i ++
        match shared.step i with
        | none => []
        | some after => after.arrivals queue schedule

theorem run_concat (schedule : List I) :
    start.run (schedule ++ [i]) = (start.run schedule).bind fun shared => shared.step i := by
  induction schedule generalizing start with
  | nil => simp [run]
  | cons j schedule ih =>
    cases hstep : start.step j with
    | none => simp [run, hstep]
    | some next => simp [run, hstep, ih]

theorem arrivals_concat {schedule : List I} (hrun : start.run schedule = some shared) :
    start.arrivals queue (schedule ++ [i]) =
      start.arrivals queue schedule ++ shared.queuedBy queue i := by
  induction schedule generalizing start with
  | nil =>
    cases hrun
    cases hstep : shared.step i <;> simp [arrivals, hstep]
  | cons j schedule ih =>
    obtain ⟨next, hstep, hrest⟩ := Option.bind_eq_some_iff.mp hrun
    simp [arrivals, hstep, ih hrest]

end Shared

namespace PeerLink

variable {peer : Peer} {client : ScpiClient (PeerLink peer)} {command line : Text}

def reached (client : ScpiClient (PeerLink peer)) (command : Text) : ScpiClient (PeerLink peer) :=
  { client with transport := ⟨(peer.handle client.transport.state command).1, []⟩ }

theorem send_silent (hplain : hasLineTerminator command = false)
    (hpipe : client.transport.pipe = [])
    (hsilent : (peer.handle client.transport.state command).2 = []) :
    ScpiClient.send command client = some (.ok (), reached client command) := by
  simp [ScpiClient.send, writeLine, hplain, Session.onTransport, Transport.write, PeerLink.write,
    hpipe, hsilent, reached]

theorem query_answered (hplain : hasLineTerminator command = false)
    (hpipe : client.transport.pipe = [])
    (hline : (peer.handle client.transport.state command).2 = [line]) :
    ScpiClient.query command client = some (.ok line, reached client command) := by
  have hwrite : writeLine command client.timeout client = some (.ok (),
      { client with transport := ⟨(peer.handle client.transport.state command).1, [line]⟩ }) := by
    simp [writeLine, hplain, Session.onTransport, Transport.write, PeerLink.write, hpipe, hline]
  rw [ScpiClient.query, queryWithin, Session.bind_ok hwrite]
  rfl

end PeerLink

namespace Shared

variable {peer : Peer} {I : Type} [DecidableEq I] {sent asked used : Text → Prop}
  {shared after start : Shared peer I} {i : I}

structure Quiet (sent asked : Text → Prop) (shared : Shared peer I) : Prop where
  pipe : shared.pipe = []
  within : ∀ i, (shared.threads i).Within sent asked

theorem step_cases (hpeer : peer.Answers sent asked) (hquiet : shared.Quiet sent asked)
    (hstep : shared.step i = some after) :
    (∃ program, (shared.threads i).Next program ∧
        after.threads = Function.update shared.threads i program) ∧
      ((shared.command i = none ∧ after.client = shared.client) ∨
        ∃ command, shared.command i = some command ∧ (sent command ∨ asked command) ∧
          after.client = PeerLink.reached shared.client command) := by
  have hwithin := hquiet.within i
  cases hprogram : shared.threads i with
  | done result => simp [step, hprogram] at hstep
  | send command next =>
    rw [hprogram] at hwithin
    by_cases hrejected : hasLineTerminator command = true
    · obtain ⟨message, hsend⟩ := writeLine_rejected shared.client hrejected
        shared.client.timeout
      simp only [step, hprogram, ScpiClient.send, hsend, Option.map_some] at hstep
      cases hstep
      exact ⟨⟨_, ⟨_, rfl⟩, rfl⟩, .inl ⟨by simp [Shared.command, hprogram, hrejected], rfl⟩⟩
    · simp only [Bool.not_eq_true] at hrejected
      have hsent := hwithin.1 hrejected
      have hsend := PeerLink.send_silent hrejected hquiet.pipe (hpeer.silent _ _ hsent)
      simp only [step, hprogram, hsend, Option.map_some] at hstep
      cases hstep
      exact ⟨⟨_, ⟨_, rfl⟩, rfl⟩, .inr ⟨command, by simp [Shared.command, hprogram, hrejected],
        .inl hsent, rfl⟩⟩
  | query command next =>
    rw [hprogram] at hwithin
    by_cases hrejected : hasLineTerminator command = true
    · obtain ⟨message, hquery⟩ := query_rejected shared.client hrejected
      simp only [step, hprogram, hquery, Option.map_some] at hstep
      cases hstep
      exact ⟨⟨_, ⟨_, rfl⟩, rfl⟩, .inl ⟨by simp [Shared.command, hprogram, hrejected], rfl⟩⟩
    · simp only [Bool.not_eq_true] at hrejected
      have hasked := hwithin.1 hrejected
      obtain ⟨line, hline⟩ := hpeer.answered shared.state command hasked
      have hquery := PeerLink.query_answered hrejected hquiet.pipe hline
      simp only [step, hprogram, hquery, Option.map_some] at hstep
      cases hstep
      exact ⟨⟨_, ⟨_, rfl⟩, rfl⟩, .inr ⟨command, by simp [Shared.command, hprogram, hrejected],
        .inr hasked, rfl⟩⟩

theorem Quiet.step (hpeer : peer.Answers sent asked) (hquiet : shared.Quiet sent asked)
    (hstep : shared.step i = some after) : after.Quiet sent asked := by
  obtain ⟨⟨program, hnext, hthreads⟩, hclient⟩ := step_cases hpeer hquiet hstep
  constructor
  · rcases hclient with ⟨-, hclient⟩ | ⟨command, -, -, hclient⟩
    · rw [Shared.pipe, hclient]
      exact hquiet.pipe
    · rw [Shared.pipe, hclient]
      rfl
  · intro j
    rw [hthreads]
    by_cases hj : j = i
    · subst hj
      rw [Function.update_self]
      exact (hquiet.within j).next hnext
    · rw [Function.update_of_ne hj]
      exact hquiet.within j

theorem Quiet.run (hpeer : peer.Answers sent asked) (hstart : start.Quiet sent asked)
    {schedule : List I} (hrun : start.run schedule = some after) : after.Quiet sent asked := by
  induction schedule generalizing start with
  | nil =>
    cases hrun
    exact hstart
  | cons i schedule ih =>
    obtain ⟨next, hstep, hrest⟩ := Option.bind_eq_some_iff.mp hrun
    exact ih (hstart.step hpeer hstep) hrest

omit [DecidableEq I] in
theorem command_within {command : Text} (hcommand : shared.command i = some command)
    (hwithin : (shared.threads i).Within sent asked) : sent command ∨ asked command := by
  rw [Shared.command] at hcommand
  split at hcommand
  · cases hcommand
  · next first next hprogram =>
    rw [hprogram] at hwithin
    split at hcommand
    · cases hcommand
    · next hplain =>
      cases hcommand
      exact .inl (hwithin.1 (by simpa using hplain))
  · next first next hprogram =>
    rw [hprogram] at hwithin
    split at hcommand
    · cases hcommand
    · next hplain =>
      cases hcommand
      exact .inr (hwithin.1 (by simpa using hplain))

section Drain

variable {queue : ErrorQueue peer fun command => sent command ∨ asked command} {loops : I → Prop}
  {arrived : List ScpiErrorInfo} {log : List (I × ScpiErrorInfo)}

-- Each loop holds what the log gives it; what nobody has taken is still queued.
structure Delivered (queue : ErrorQueue peer fun command => sent command ∨ asked command)
    (loops : I → Prop) (arrived : List ScpiErrorInfo) (log : List (I × ScpiErrorInfo))
    (shared : Shared peer I) : Prop where
  conserved : log.map Prod.snd ++ queue.entries shared.state = arrived
  takers : ∀ entry ∈ log, loops entry.1
  loop : ∀ i, loops i →
    shared.threads i = .done (.ok (shareOf i log)) ∨
      shared.threads i =
        Program.drainErrors (kMaxErrorQueueDrain - (shareOf i log).length) (shareOf i log)
  other : ∀ i, ¬ loops i → Program.Other (shared.threads i)

theorem Delivered.share_length (hdelivered : Delivered queue loops arrived log shared) (i : I) :
    (shareOf i log).length ≤ arrived.length := by
  have hshare := (shareOf_sublist i log).length_le
  have hlength := congrArg List.length hdelivered.conserved
  rw [List.length_append] at hlength
  omega

theorem step_query {command line : Text} {next : Except Fault Text → Program}
    (hquiet : shared.Quiet sent asked) (hprogram : shared.threads i = .query command next)
    (hplain : hasLineTerminator command = false)
    (hline : (peer.handle shared.state command).2 = [line]) :
    shared.step i = some ⟨PeerLink.reached shared.client command,
      Function.update shared.threads i (next (.ok line))⟩ := by
  rw [step, hprogram]
  dsimp only
  rw [PeerLink.query_answered hplain hquiet.pipe hline]
  rfl

theorem Delivered.loop_step (hpeer : peer.Answers sent asked)
    (hquiet : shared.Quiet sent asked) (hdelivered : Delivered queue loops arrived log shared)
    (hfew : arrived.length < kMaxErrorQueueDrain) (hi : loops i)
    (hstep : shared.step i = some after) :
    shared.queuedBy queue i = [] ∧
      ((queue.entries after.state = [] ∧ Delivered queue loops arrived log after) ∨
        ∃ entry, (∀ result, after.threads i ≠ .done result) ∧
          Delivered queue loops arrived (log ++ [(i, entry)]) after) := by
  have hplain : hasLineTerminator "SYST:ERR?" = false := by decide +kernel
  have hshare := hdelivered.share_length i
  obtain ⟨n, hn⟩ : ∃ n, kMaxErrorQueueDrain - (shareOf i log).length = n + 1 :=
    Nat.exists_eq_succ_of_ne_zero (by omega)
  rcases hdelivered.loop i hi with hdone | hprogram
  · simp [step, hdone] at hstep
  · rw [hn] at hprogram
    have hwithin := hquiet.within i
    rw [hprogram] at hwithin
    obtain ⟨line, hline⟩ := hpeer.answered shared.state _ (hwithin.1 hplain)
    obtain ⟨entry, hentry, hfront⟩ := queue.reported shared.state line hline
    rw [step_query hquiet hprogram hplain hline] at hstep
    cases hstep
    have hqueued : shared.queuedBy queue i = [] := by
      rw [queuedBy, Shared.command, hprogram]
      exact queue.queued_next _
    refine ⟨hqueued, ?_⟩
    cases hentries : queue.entries shared.state with
    | nil =>
      rw [hentries] at hfront
      have hempty : queue.entries (peer.handle shared.state "SYST:ERR?").1 = [] := by
        rw [queue.entries_next, hentries, List.tail_nil]
      refine .inl ⟨hempty, ?_, hdelivered.takers, fun j hj => ?_, fun j hj => ?_⟩
      · rw [← hdelivered.conserved, hentries]
        exact congrArg (_ ++ ·) hempty
      · by_cases hji : j = i
        · subst hji
          simp [hentry, hfront]
        · simpa [Function.update_of_ne hji] using hdelivered.loop j hj
      · have hji : j ≠ i := fun hji => hj (hji ▸ hi)
        simpa [Function.update_of_ne hji] using hdelivered.other j hj
    | cons front rest =>
      rw [hentries] at hfront
      obtain ⟨rfl, hcode⟩ := hfront
      have hrest : queue.entries (peer.handle shared.state "SYST:ERR?").1 = rest := by
        rw [queue.entries_next, hentries, List.tail_cons]
      have hleft : kMaxErrorQueueDrain - (shareOf i log ++ [entry]).length = n := by
        rw [List.length_append, List.length_singleton]
        omega
      have hafter : Delivered queue loops arrived (log ++ [(i, entry)])
          ⟨PeerLink.reached shared.client "SYST:ERR?",
            Function.update shared.threads i
              (Program.drainErrors n (shareOf i log ++ [entry]))⟩ := by
        refine ⟨?_, ?_, fun j hj => ?_, fun j hj => ?_⟩
        · rw [← hdelivered.conserved, hentries, List.map_append, List.append_assoc]
          exact congrArg (fun queue => log.map Prod.snd ++ (entry :: queue)) hrest
        · intro taken htaken
          rcases List.mem_append.mp htaken with hold | hnew
          · exact hdelivered.takers taken hold
          · rw [List.mem_singleton.mp hnew]
            exact hi
        · by_cases hji : j = i
          · subst hji
            rw [shareOf_take_self, hleft]
            simp
          · rw [shareOf_take_other (Ne.symm hji)]
            simpa [Function.update_of_ne hji] using hdelivered.loop j hj
        · have hji : j ≠ i := fun hji => hj (hji ▸ hi)
          simpa [Function.update_of_ne hji] using hdelivered.other j hj
      have hroom := hafter.share_length i
      rw [shareOf_take_self, List.length_append, List.length_singleton] at hroom
      obtain ⟨m, rfl⟩ : ∃ m, n = m + 1 := Nat.exists_eq_succ_of_ne_zero (by omega)
      refine .inr ⟨entry, fun result hresult => ?_, ?_⟩
      · simp [hentry, hcode, Program.drainErrors] at hresult
      · simpa only [hentry, if_neg hcode] using hafter

theorem Delivered.other_step (hpeer : peer.Answers sent asked) (hquiet : shared.Quiet sent asked)
    (hdelivered : Delivered queue loops arrived log shared) (hi : ¬ loops i)
    (hstep : shared.step i = some after) :
    Delivered queue loops (arrived ++ shared.queuedBy queue i) log after := by
  obtain ⟨⟨program, hnext, hthreads⟩, hclient⟩ := step_cases hpeer hquiet hstep
  have hother := hdelivered.other i hi
  refine ⟨?_, hdelivered.takers, fun j hj => ?_, fun j hj => ?_⟩
  · rw [← hdelivered.conserved, List.append_assoc]
    congr 1
    rcases hclient with ⟨hcommand, hclient⟩ | ⟨command, hcommand, hused, hclient⟩
    · rw [queuedBy, hcommand, state, hclient, List.append_nil]
      rfl
    · have hne : command ≠ "SYST:ERR?" := (command_within hcommand hother).elim id id
      rw [queuedBy, hcommand, state, hclient]
      exact queue.entries_other shared.state command hused hne
  · have hji : j ≠ i := fun hji => hi (hji ▸ hj)
    simpa [hthreads, Function.update_of_ne hji] using hdelivered.loop j hj
  · by_cases hji : j = i
    · subst hji
      rw [hthreads, Function.update_self]
      exact hother.next hnext
    · simpa [hthreads, Function.update_of_ne hji] using hdelivered.other j hj

theorem Delivered.first
    (hloops : ∀ i, loops i → start.threads i = Program.readAllErrors)
    (hothers : ∀ i, ¬ loops i → Program.Other (start.threads i)) :
    Delivered queue loops (queue.entries start.state) [] start :=
  ⟨rfl, nofun, fun i hi => .inr (hloops i hi), hothers⟩

theorem Delivered.run (hpeer : peer.Answers sent asked)
    (hstart : start.Quiet sent asked)
    (hfirst : Delivered queue loops (queue.entries start.state) [] start)
    {schedule : List I} (hrun : start.run schedule = some after)
    (hfew : (queue.entries start.state ++ start.arrivals queue schedule).length <
      kMaxErrorQueueDrain) :
    ∃ log, Delivered queue loops (queue.entries start.state ++ start.arrivals queue schedule) log
      after ∧
      ∀ i, loops i → schedule.getLast? = some i → ∀ result, after.threads i = .done result →
        queue.entries after.state = [] := by
  induction schedule using List.reverseRecOn generalizing after with
  | nil =>
    cases hrun
    exact ⟨[], by simpa [arrivals] using hfirst, nofun⟩
  | append_singleton schedule i ih =>
    rw [run_concat] at hrun
    obtain ⟨shared, hrun, hstep⟩ := Option.bind_eq_some_iff.mp hrun
    rw [arrivals_concat hrun, ← List.append_assoc, List.length_append] at hfew
    rw [arrivals_concat hrun, ← List.append_assoc]
    have hbefore : (queue.entries start.state ++ start.arrivals queue schedule).length <
        kMaxErrorQueueDrain := by omega
    obtain ⟨log, hdelivered, -⟩ := ih hrun hbefore
    have hquiet := hstart.run hpeer hrun
    by_cases hi : loops i
    · obtain ⟨hqueued, ⟨hempty, hafter⟩ | ⟨entry, hgoes, hafter⟩⟩ :=
        hdelivered.loop_step hpeer hquiet hbefore hi hstep
      · rw [hqueued, List.append_nil]
        exact ⟨log, hafter, fun _ _ _ _ _ => hempty⟩
      · rw [hqueued, List.append_nil]
        refine ⟨_, hafter, fun j _ hlast result hresult => ?_⟩
        rw [List.getLast?_concat] at hlast
        cases hlast
        exact absurd hresult (hgoes result)
    · refine ⟨log, hdelivered.other_step hpeer hquiet hi hstep, fun j hj hlast => ?_⟩
      rw [List.getLast?_concat] at hlast
      cases hlast
      exact absurd hj hi

end Drain

theorem concurrent_callers (hpeer : peer.Answers sent asked) (hpipe : start.pipe = [])
    (hwithin : ∀ i, (start.threads i).Within sent asked) {schedule : List I}
    (hrun : start.run schedule = some after) :
    Program.readAllErrors.run = (ScpiClient.readAllErrors : Session (PeerLink peer) _) ∧
    (∀ i command next, after.threads i = .query command next →
      hasLineTerminator command = false →
      ∃ line client, (peer.handle after.state command).2 = [line] ∧
        ScpiClient.query command after.client = some (.ok line, client)) ∧
    ∀ (queue : ErrorQueue peer fun command => sent command ∨ asked command) (loops : I → Prop),
      (∀ i, loops i → start.threads i = Program.readAllErrors) →
      (∀ i, ¬ loops i → Program.Other (start.threads i)) →
      (queue.entries start.state ++ start.arrivals queue schedule).length ≤ 63 →
      ∃ log : List (I × ScpiErrorInfo),
        log.map Prod.snd ++ queue.entries after.state =
          queue.entries start.state ++ start.arrivals queue schedule ∧
        (∀ entry ∈ log, loops entry.1) ∧
        (∀ i, loops i → ∀ result, after.threads i = .done result → result = .ok (shareOf i log)) ∧
        ∀ i, loops i → schedule.getLast? = some i → ∀ result, after.threads i = .done result →
          queue.entries after.state = [] := by
  have hstart : start.Quiet sent asked := ⟨hpipe, hwithin⟩
  refine ⟨Program.run_readAllErrors, ?_, ?_⟩
  · intro i command next hprogram hplain
    have hquiet := hstart.run hpeer hrun
    have hasked := hquiet.within i
    rw [hprogram] at hasked
    obtain ⟨line, hline⟩ := hpeer.answered after.state command (hasked.1 hplain)
    exact ⟨line, _, hline, PeerLink.query_answered hplain hquiet.pipe hline⟩
  · intro queue loops hloops hothers hfew
    have hbound : (queue.entries start.state ++ start.arrivals queue schedule).length <
        kMaxErrorQueueDrain := Nat.lt_succ_of_le hfew
    obtain ⟨log, hdelivered, hempty⟩ :=
      (Delivered.first hloops hothers).run hpeer hstart hrun hbound
    refine ⟨log, hdelivered.conserved, hdelivered.takers, fun i hi result hresult => ?_, hempty⟩
    rcases hdelivered.loop i hi with hdone | hprogram
    · rw [hdone] at hresult
      exact (Program.done.inj hresult).symm
    · have hshare := hdelivered.share_length i
      obtain ⟨n, hn⟩ : ∃ n, kMaxErrorQueueDrain - (shareOf i log).length = n + 1 :=
        Nat.exists_eq_succ_of_ne_zero (by omega)
      rw [hprogram, hn] at hresult
      cases hresult

def refusal (odd : Bool) : ScpiErrorInfo :=
  if odd then ⟨-113, "Undefined header"⟩ else ⟨-222, "Data out of range"⟩

def refusing : Peer where
  State := List Bool
  handle state command :=
    if command = "SYST:ERR?" then
      (state.tail, [state.head?.elim noErrorText fun odd => errorText (refusal odd)])
    else if command = "*IDN?" then (state, ["NORMA"])
    else (state ++ [command.length % 2 == 1], [])

abbrev refusedCommand (command : Text) : Prop := command ≠ "SYST:ERR?" ∧ command ≠ "*IDN?"

abbrev askedCommand (command : Text) : Prop := command = "SYST:ERR?" ∨ command = "*IDN?"

theorem parseError_refusal (odd : Bool) :
    parseError (errorText (refusal odd)) = .ok (refusal odd) := by
  cases odd
  · rfl
  · rfl

theorem refusing_answers : refusing.Answers refusedCommand askedCommand := by
  constructor
  · rintro state command ⟨herror, hidentity⟩
    simp [refusing, herror, hidentity]
  · rintro state command (rfl | rfl)
    · exact ⟨_, rfl⟩
    · exact ⟨_, rfl⟩

def refusals : ErrorQueue refusing fun command => refusedCommand command ∨ askedCommand command where
  entries (state : List Bool) := state.map refusal
  queued _ command :=
    if command = "SYST:ERR?" ∨ command = "*IDN?" then [] else [refusal (command.length % 2 == 1)]
  entries_other := by
    intro (state : List Bool) command _ hother
    by_cases hidentity : command = "*IDN?"
    · subst hidentity
      exact (List.append_nil _).symm
    · simp [refusing, hother, hidentity]
  entries_next (state : List Bool) := List.map_tail
  queued_next _ := rfl
  reported := by
    intro (state : List Bool) line hline
    cases state with
    | nil =>
      cases hline
      exact ⟨⟨0, "No error"⟩, rfl, rfl⟩
    | cons odd state =>
      cases hline
      refine ⟨refusal odd, parseError_refusal odd, rfl, ?_⟩
      cases odd
      · decide
      · decide

def callers : Fin 3 → Program
  | 0 | 1 => .readAllErrors
  | 2 => .send "BAD" fun _ => .send "WORSE!" fun _ => .query "*IDN?" fun _ => .done (.ok [])

def callersStart : Shared refusing (Fin 3) :=
  ⟨{ transport := ⟨([] : List Bool), []⟩ }, callers⟩

theorem within_callers (i : Fin 3) : (callers i).Within refusedCommand askedCommand := by
  match i with
  | 0 => exact Program.within_drainErrors (.inl rfl) _ _
  | 1 => exact Program.within_drainErrors (.inl rfl) _ _
  | 2 =>
    exact ⟨fun _ => by decide, fun _ => ⟨fun _ => by decide, fun _ => ⟨fun _ => .inr rfl,
      fun _ => trivial⟩⟩⟩

theorem other_caller (i : Fin 3) (hi : ¬ i ≠ 2) : Program.Other (callers i) := by
  simp only [ne_eq, Decidable.not_not] at hi
  subst hi
  exact ⟨fun _ => by decide, fun _ => ⟨fun _ => by decide, fun _ => ⟨fun _ => by decide,
    fun _ => trivial⟩⟩⟩

theorem loop_caller (i : Fin 3) (hi : i ≠ 2) : callers i = Program.readAllErrors := by
  match i with
  | 0 => rfl
  | 1 => rfl
  | 2 => exact absurd rfl hi

theorem refusals_shared_out : ∃ after,
    callersStart.run [2, 0, 2, 1, 0, 2, 1] = some after ∧
      ∃ log : List (Fin 3 × ScpiErrorInfo), log.map Prod.snd = [refusal true, refusal false] ∧
        ∀ i : Fin 3, i ≠ 2 → after.threads i = .done (.ok (shareOf i log)) := by
  obtain ⟨after, hrun, hfirst, hsecond⟩ : ∃ after,
      callersStart.run [2, 0, 2, 1, 0, 2, 1] = some after ∧
        after.threads 0 = .done (.ok [refusal true]) ∧
        after.threads 1 = .done (.ok [refusal false]) := ⟨_, rfl, rfl, rfl⟩
  obtain ⟨log, hconserved, -, hreturned, hempty⟩ :=
    (concurrent_callers refusing_answers rfl within_callers hrun).2.2 refusals (· ≠ 2) loop_caller
      other_caller (by decide)
  refine ⟨after, hrun, log, ?_, fun i hi => ?_⟩
  · rw [hempty 1 (by decide) rfl _ hsecond, List.append_nil] at hconserved
    exact hconserved
  · match i with
    | 0 => rw [hfirst, hreturned 0 hi _ hfirst]
    | 1 => rw [hsecond, hreturned 1 hi _ hsecond]
    | 2 => exact absurd rfl hi

end Shared

end Norma
