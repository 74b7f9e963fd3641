import Norma.Transport
import Mathlib.Logic.Relation

namespace Norma

-- `connection` is bookkeeping: it numbers the connection a byte was received on.
structure Byte where
  value : Char
  connection : Nat
  deriving DecidableEq

structure TcpTransport where
  host : Text
  port : Nat
  connectTimeout : Int := 5000
  isOpen : Bool := false
  connection : Nat := 0
  rx : List Byte := []
  deriving DecidableEq

-- How an asynchronous operation ends; a failure carries the message of its error code.
inductive Completion where
  | finished
  | failed (message : Text)
  | timedOut
  deriving DecidableEq

namespace TcpTransport

inductive Call where
  | open' (unresolved : Option Text) (completion : Completion)
  | close
  | write (timeout : Int) (completion : Completion)
  | readLine (timeout : Int) (received : List Text) (completion : Completion)
  deriving DecidableEq

inductive Result where
  | done
  | line (bytes : List Byte)
  | thrown (fault : Fault)
  deriving DecidableEq

def endpoint (t : TcpTransport) : Text := "tcp://" ++ t.host ++ ":" ++ toText t.port

-- On a timeout the socket is closed; the receive buffer is left alone.
def runOperation (t : TcpTransport) (timeout : Int) (what : Text) (completion : Completion)
    (finish : Result × TcpTransport) (failure : Text → Result × TcpTransport) :
    Result × TcpTransport :=
  match completion with
  | .finished => finish
  | .failed message => failure message
  | .timedOut =>
      (.thrown (.timeout (what ++ " timed out after " ++ toText timeout ++ " ms (" ++ t.endpoint ++
        ")")), { t with isOpen := false })

def open' (t : TcpTransport) (unresolved : Option Text) (completion : Completion) :
    Result × TcpTransport :=
  if t.isOpen then (.done, t)
  else
    match unresolved with
    | some message =>
        (.thrown (.connection ("cannot resolve host \"" ++ t.host ++ "\": " ++ message)), t)
    | none =>
        t.runOperation t.connectTimeout "connect" completion
          (.done, { t with isOpen := true, connection := t.connection + 1 })
          fun message =>
            (.thrown (.connection ("cannot connect to " ++ t.endpoint ++ ": " ++ message)), t)

def close (t : TcpTransport) : TcpTransport := { t with isOpen := false, rx := [] }

def notConnected (t : TcpTransport) : Fault := .connection ("not connected (" ++ t.endpoint ++ ")")

def write (t : TcpTransport) (timeout : Int) (completion : Completion) : Result × TcpTransport :=
  if !t.isOpen then (.thrown t.notConnected, t)
  else
    t.runOperation timeout "write" completion (.done, t) fun message =>
      (.thrown (.connection ("write to " ++ t.endpoint ++ " failed: " ++ message)), t)

def isTerminator (c : Char) : Bool := c == '\n' || c == '\r'

def receive (t : TcpTransport) (received : List Text) : TcpTransport :=
  { t with rx := t.rx ++ received.flatten.map fun value => ⟨value, t.connection⟩ }

def takeLine (t : TcpTransport) : Result × TcpTransport :=
  let length := t.rx.findIdx (fun byte => byte.value == '\n') + 1
  (.line ((t.rx.take length).rdropWhile fun byte => isTerminator byte.value),
    { t with rx := t.rx.drop length })

def readLine (t : TcpTransport) (timeout : Int) (received : List Text) (completion : Completion) :
    Result × TcpTransport :=
  if !t.isOpen then (.thrown t.notConnected, t)
  else
    let filled := t.receive received
    filled.runOperation timeout "read" completion filled.takeLine fun message =>
      (.thrown (.connection ("read from " ++ t.endpoint ++ " failed: " ++ message)), filled)

def step (t : TcpTransport) : Call → Result × TcpTransport
  | .open' unresolved completion => t.open' unresolved completion
  | .close => (.done, t.close)
  | .write timeout completion => t.write timeout completion
  | .readLine timeout received completion => t.readLine timeout received completion

def hasLine (bytes : List Byte) : Bool := bytes.any fun byte => byte.value == '\n'

-- A read goes on until the buffer holds a terminator, and no further.
def possible (t : TcpTransport) : Call → Bool
  | .readLine _ received .finished =>
      hasLine (t.receive received).rx && (received = [] || !hasLine (t.receive received.dropLast).rx)
  | _ => true

def Next (t u : TcpTransport) : Prop := ∃ call, t.possible call = true ∧ (t.step call).2 = u

abbrev Runs : TcpTransport → TcpTransport → Prop := Relation.ReflTransGen Next

def fresh (host : Text) (port : Nat) : TcpTransport := { host, port }

def NoStale (t : TcpTransport) : Prop := ∀ byte ∈ t.rx, byte.connection = t.connection

def OpensEmpty (t : TcpTransport) : Call → Prop
  | .open' none .finished => t.isOpen = true ∨ t.rx = []
  | _ => True

def CleanNext (t u : TcpTransport) : Prop :=
  ∃ call, t.possible call = true ∧ t.OpensEmpty call ∧ (t.step call).2 = u

abbrev CleanRuns : TcpTransport → TcpTransport → Prop := Relation.ReflTransGen CleanNext

section Stale

variable {t : TcpTransport}

theorem runOperation_noStale {timeout : Int} {what : Text} {completion : Completion}
    {finish : Result × TcpTransport} {failure : Text → Result × TcpTransport}
    (ht : t.NoStale) (hfinish : finish.2.NoStale) (hfailure : ∀ message, (failure message).2.NoStale) :
    (t.runOperation timeout what completion finish failure).2.NoStale := by
  cases completion with
  | finished => exact hfinish
  | failed message => exact hfailure message
  | timedOut => exact ht

theorem receive_noStale (h : t.NoStale) (received : List Text) : (t.receive received).NoStale := by
  intro byte hbyte
  simp only [receive, List.mem_append, List.mem_map] at hbyte
  rcases hbyte with hold | ⟨value, -, rfl⟩
  · exact h byte hold
  · rfl

theorem takeLine_noStale (h : t.NoStale) : t.takeLine.2.NoStale :=
  fun byte hbyte => h byte (List.mem_of_mem_drop hbyte)

theorem takeLine_line (h : t.NoStale) {bytes : List Byte} (hline : t.takeLine.1 = .line bytes) :
    ∀ byte ∈ bytes, byte.connection = t.connection := by
  obtain rfl := Result.line.inj hline
  intro byte hbyte
  have hmem := (List.rdropWhile_prefix _ _).subset hbyte
  exact h byte (List.mem_of_mem_take hmem)

theorem step_noStale {call : Call} (hopen : t.OpensEmpty call) (h : t.NoStale) :
    (t.step call).2.NoStale := by
  cases call with
  | open' unresolved completion =>
    simp only [step, open']
    split
    · exact h
    · next hclosed =>
      cases unresolved with
      | some message => exact h
      | none =>
        cases completion with
        | finished =>
          have hempty : t.rx = [] := by simpa [OpensEmpty, hclosed] using hopen
          simp [runOperation, NoStale, hempty]
        | failed message => exact h
        | timedOut => exact h
  | close => simp [step, close, NoStale]
  | write timeout completion =>
    simp only [step, write]
    split
    · exact h
    · exact runOperation_noStale h h fun _ => h
  | readLine timeout received completion =>
    simp only [step, readLine]
    split
    · exact h
    · have hfilled := receive_noStale h received
      exact runOperation_noStale hfilled (takeLine_noStale hfilled) fun _ => hfilled

theorem step_line {call : Call} (h : t.NoStale) {bytes : List Byte}
    (hline : (t.step call).1 = .line bytes) : ∀ byte ∈ bytes, byte.connection = t.connection := by
  cases call with
  | open' unresolved completion =>
    simp only [step, open'] at hline
    split at hline
    · cases hline
    · split at hline
      · cases hline
      · cases completion <;> cases hline
  | close => cases hline
  | write timeout completion =>
    simp only [step, write] at hline
    split at hline
    · cases hline
    · cases completion <;> cases hline
  | readLine timeout received completion =>
    simp only [step, readLine] at hline
    split at hline
    · cases hline
    · have hfilled := receive_noStale h received
      cases completion with
      | finished => exact takeLine_line hfilled hline
      | failed message => cases hline
      | timedOut => cases hline

theorem cleanRuns_noStale {host : Text} {port : Nat} (h : CleanRuns (fresh host port) t) :
    t.NoStale := by
  induction h with
  | refl => simp [fresh, NoStale]
  | tail _ hstep ih =>
    obtain ⟨call, -, hopen, rfl⟩ := hstep
    exact step_noStale hopen ih

theorem readLine_not_mixed {host : Text} {port : Nat} (hrun : CleanRuns (fresh host port) t)
    {call : Call} {bytes : List Byte} (hline : (t.step call).1 = .line bytes) :
    ∀ byte ∈ bytes, byte.connection = t.connection :=
  step_line (cleanRuns_noStale hrun) hline

theorem first_line_not_mixed : ∃ (t : TcpTransport) (bytes : List Byte),
    CleanRuns (fresh "norma" 23) t ∧
      (t.step (.readLine 5000 ["AB\n"] .finished)).1 = .line bytes ∧
      ∀ byte ∈ bytes, byte.connection = t.connection := by
  have hopen : CleanNext (fresh "norma" 23)
      { fresh "norma" 23 with isOpen := true, connection := 1 } :=
    ⟨.open' none .finished, rfl, .inr rfl, rfl⟩
  have hline : (({ fresh "norma" 23 with isOpen := true, connection := 1 } : TcpTransport).step
      (.readLine 5000 ["AB\n"] .finished)).1 = .line [⟨'A', 1⟩, ⟨'B', 1⟩] := by decide +kernel
  exact ⟨_, _, .single hopen, hline, readLine_not_mixed (.single hopen) hline⟩

end Stale

def reconnected : TcpTransport :=
  { fresh "norma" 23 with isOpen := true, connection := 2, rx := [⟨'A', 1⟩, ⟨'B', 1⟩] }

def secondRead : Call := .readLine 5000 ["CD\n"] .finished

theorem reconnected_runs : Runs (fresh "norma" 23) reconnected := by
  have hfirst : Next (fresh "norma" 23) { fresh "norma" 23 with isOpen := true, connection := 1 } :=
    ⟨.open' none .finished, rfl, rfl⟩
  have htimeout : Next { fresh "norma" 23 with isOpen := true, connection := 1 }
      { fresh "norma" 23 with connection := 1, rx := [⟨'A', 1⟩, ⟨'B', 1⟩] } :=
    ⟨.readLine 5000 ["AB"] .timedOut, rfl, by decide +kernel⟩
  have hsecond : Next { fresh "norma" 23 with connection := 1, rx := [⟨'A', 1⟩, ⟨'B', 1⟩] }
      reconnected :=
    ⟨.open' none .finished, rfl, rfl⟩
  exact ((Relation.ReflTransGen.single hfirst).tail htimeout).tail hsecond

theorem readLine_mixes : ¬ ∀ (t : TcpTransport) (call : Call) (bytes : List Byte),
    Runs (fresh "norma" 23) t → t.possible call = true → (t.step call).1 = .line bytes →
      ∀ byte ∈ bytes, byte.connection = t.connection := by
  intro h
  have hline : (reconnected.step secondRead).1 =
      .line [⟨'A', 1⟩, ⟨'B', 1⟩, ⟨'C', 2⟩, ⟨'D', 2⟩] := by decide +kernel
  have hmixed := h reconnected secondRead _ reconnected_runs (by decide +kernel) hline ⟨'A', 1⟩
  simp [reconnected] at hmixed

end TcpTransport

end Norma
