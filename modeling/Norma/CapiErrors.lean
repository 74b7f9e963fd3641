import Norma.Capi
import Norma.ErrorQueue

namespace Norma

namespace Capi

open ScpiClient
open CNumber (cstr)

theorem cstr_cstr (text : Text) : cstr (cstr text) = cstr text := List.takeWhile_idem

def Thrown.description : Thrown → Text
  | .library fault => cstr fault.what
  | .standard what => cstr what
  | .other => "unknown error"

theorem description_cstr (thrown : Thrown) : cstr thrown.description = thrown.description := by
  cases thrown with
  | library fault => exact cstr_cstr _
  | standard what => exact cstr_cstr _
  | other => decide +kernel

inductive Failure where
  | refused
  | thrown (raised : Thrown)
  | truncated (message : Text)
  deriving DecidableEq

def Failure.description : Failure → Option Text
  | .refused => none
  | .thrown raised => some raised.description
  | .truncated message => some (cstr message)

def Failure.fromInstrument : Failure → Bool
  | .thrown (.library (.scpi _)) => true
  | _ => false

section

variable {T : Type}

def Entry.failure (entry : Entry T) (h : Handle T) : Option Failure :=
  if entry.refused then some .refused
  else
    match entry.fn h.instrument with
    | some (.error fault, _) => some (.thrown (.library fault))
    | some (.ok (_, some message), _) => some (.truncated message)
    | _ => none

def remembered (code : Int) : Option Failure → Int
  | some (.thrown (.library (.scpi errors))) => ScpiError.code errors
  | _ => code

theorem caught_reports (h : Handle T) (thrown : Thrown) :
    (h.caught thrown).1 ≠ .ok ∧
    ((h.caught thrown).1 = .scpi ↔ ∃ errors, thrown = .library (.scpi errors)) ∧
    (h.caught thrown).2.lastError = thrown.description ∧
    (h.caught thrown).2.lastScpiCode = remembered h.lastScpiCode (some (.thrown thrown)) := by
  cases thrown with
  | library fault =>
    cases fault <;>
      simp [Handle.caught, Handle.failed, Thrown.description, Fault.what, remembered]
  | standard what => simp [Handle.caught, Handle.failed, Thrown.description, remembered]
  | other =>
    have hunknown : cstr "unknown error" = "unknown error" := by decide +kernel
    simp [Handle.caught, Handle.failed, Thrown.description, remembered, hunknown]

def Reports (status : Status) (failure : Option Failure) (after : Handle T) : Prop :=
  status ≠ .ok →
    (status = .scpi → ∃ errors, failure = some (.thrown (.library (.scpi errors))) ∧
      normaLastScpiCode (some after) = ScpiError.code errors) ∧
    (status ≠ .scpi → normaLastScpiCode (some after) = 0) ∧
    ∃ f, failure = some f ∧ f.description = some (normaLastError [] (some after))

theorem reports_thrown_iff (h : Handle T) (thrown : Thrown) :
    Reports (h.caught thrown).1 (some (.thrown thrown)) (h.caught thrown).2 ↔
      ((Failure.thrown thrown).fromInstrument = false → h.lastScpiCode = 0) := by
  obtain ⟨hfailed, hscpi, htext, hcode⟩ := caught_reports h thrown
  have hdescription : ∃ f, some (Failure.thrown thrown) = some f ∧
      f.description = some (normaLastError [] (some (h.caught thrown).2)) :=
    ⟨_, rfl, by rw [normaLastError, htext, description_cstr]; rfl⟩
  rw [Reports, imp_iff_right hfailed, normaLastScpiCode, hcode]
  by_cases herrors : ∃ errors, thrown = .library (.scpi errors)
  · obtain ⟨errors, rfl⟩ := herrors
    refine iff_of_true ⟨fun _ => ⟨errors, rfl, rfl⟩, fun hother => ?_, hdescription⟩ nofun
    exact absurd (hscpi.mpr ⟨errors, rfl⟩) hother
  · have hother := mt hscpi.mp herrors
    have hcodes : remembered h.lastScpiCode (some (.thrown thrown)) = h.lastScpiCode ∧
        (Failure.thrown thrown).fromInstrument = false := by
      cases thrown with
      | library fault =>
        cases fault with
        | scpi errors => exact absurd ⟨errors, rfl⟩ herrors
        | _ => exact ⟨rfl, rfl⟩
      | _ => exact ⟨rfl, rfl⟩
    rw [hcodes.1, imp_iff_right hcodes.2]
    exact ⟨fun hreports => hreports.2.1 hother,
      fun hzero => ⟨fun h' => absurd h' hother, fun _ => hzero, hdescription⟩⟩

variable [Transport T]

-- An exception that is not one of the library can be raised at any point of the guarded part.
inductive Step (h : Handle T) (call : Call) : Status → Option Failure → Handle T → Prop where
  | returns {status : Status} {output : Output} {after : Handle T}
      (hcall : call.entry.call h = some (status, output, after)) :
      Step h call status (call.entry.failure h) after
  | foreign {thrown : Thrown} (hgiven : (call.entry : Entry T).refused = false)
      (hforeign : ∀ fault, thrown ≠ .library fault) (instrument : ScpiClient T) :
      Step h call ({ h with instrument }.caught thrown).1 (some (.thrown thrown))
        ({ h with instrument }.caught thrown).2

structure Event (T : Type) where
  call : Call
  status : Status
  failure : Option Failure
  after : Handle T

inductive Run : Handle T → List (Event T) → Handle T → Prop where
  | nil (h : Handle T) : Run h [] h
  | cons {h mid last : Handle T} {call : Call} {status : Status} {failure : Option Failure}
      {events : List (Event T)} (hstep : Step h call status failure mid)
      (hrun : Run mid events last) : Run h (⟨call, status, failure, mid⟩ :: events) last

-- No call is refused for its arguments, and none fails in another way while the code of an
-- earlier instrument error is remembered.
def Kept : Int → List (Event T) → Prop
  | _, [] => True
  | code, e :: events =>
      (e.call.entry : Entry T).refused = false ∧
        ((∃ f ∈ e.failure, f.fromInstrument = false) → code = 0) ∧
        Kept (remembered code e.failure) events

section Steps

variable {h after : Handle T} {call : Call} {status : Status} {failure : Option Failure}

theorem Step.library (hgiven : (call.entry : Entry T).refused = false) {fault : Fault}
    {instrument : ScpiClient T} (hfn : call.entry.fn h.instrument = some (.error fault, instrument)) :
    Step h call ({ h with instrument }.caught (.library fault)).1
      (some (.thrown (.library fault))) ({ h with instrument }.caught (.library fault)).2 := by
  have hgiven' : ¬(call.entry : Entry T).refused = true := by simp [hgiven]
  have hfailure : call.entry.failure h = some (.thrown (.library fault)) := by
    rw [Entry.failure, if_neg hgiven', hfn]
  rw [← hfailure]
  have hcall : call.entry.call h = some (({ h with instrument }.caught (.library fault)).1,
      (call.entry : Entry T).initial, ({ h with instrument }.caught (.library fault)).2) := by
    rw [Entry.call, if_neg hgiven', guarded, hfn]
    rfl
  exact .returns hcall

theorem Step.passed (hgiven : (call.entry : Entry T).refused = false) {output : Output}
    {instrument : ScpiClient T}
    (hfn : call.entry.fn h.instrument = some (.ok (output, none), instrument)) :
    Step h call .ok none { h with instrument } := by
  have hgiven' : ¬(call.entry : Entry T).refused = true := by simp [hgiven]
  have hfailure : call.entry.failure h = none := by
    rw [Entry.failure, if_neg hgiven', hfn]
  rw [← hfailure]
  have hcall : call.entry.call h = some (.ok, output, { h with instrument }) := by
    rw [Entry.call, if_neg hgiven', guarded, hfn]
    rfl
  exact .returns hcall

theorem Step.cases (hstep : Step h call status failure after) :
    ((call.entry : Entry T).refused = true ∧ failure = some .refused ∧ status = .invalidArgument ∧
      after = h) ∨
    (call.entry : Entry T).refused = false ∧
      ((failure = none ∧ status = .ok ∧ after.lastScpiCode = h.lastScpiCode) ∨
      (∃ message, failure = some (.truncated message) ∧ status = .bufferTooSmall ∧
        after.lastError = message ∧ after.lastScpiCode = h.lastScpiCode) ∨
      ∃ thrown instrument, failure = some (.thrown thrown) ∧
        status = ({ h with instrument }.caught thrown).1 ∧
        after = ({ h with instrument }.caught thrown).2) := by
  cases hstep with
  | @returns status output after hcall =>
    rw [Entry.call] at hcall
    rw [Entry.failure]
    split at hcall
    · next hrefused =>
      cases hcall
      exact .inl ⟨hrefused, if_pos hrefused, rfl, rfl⟩
    · next hgiven =>
      rw [if_neg hgiven]
      refine .inr ⟨Bool.not_eq_true _ ▸ hgiven, ?_⟩
      obtain ⟨⟨result, instrument⟩, hfn, hpair⟩ := Option.map_eq_some_iff.mp hcall
      rw [hfn]
      cases result with
      | error fault =>
        cases hpair
        exact .inr (.inr ⟨.library fault, instrument, rfl, rfl, rfl⟩)
      | ok value =>
        obtain ⟨output, shortage⟩ := value
        cases shortage with
        | none =>
          cases hpair
          exact .inl ⟨rfl, rfl, rfl⟩
        | some message =>
          cases hpair
          exact .inr (.inl ⟨message, rfl, rfl, rfl, rfl⟩)
  | @foreign thrown hgiven hforeign instrument =>
    exact .inr ⟨hgiven, .inr (.inr ⟨thrown, instrument, rfl, rfl, rfl⟩)⟩

theorem Step.remembered (hstep : Step h call status failure after) :
    after.lastScpiCode = remembered h.lastScpiCode failure := by
  rcases hstep.cases with ⟨-, rfl, -, rfl⟩ |
    ⟨-, ⟨rfl, -, hcode⟩ | ⟨message, rfl, -, -, hcode⟩ | ⟨thrown, instrument, rfl, -, rfl⟩⟩
  · rfl
  · exact hcode
  · exact hcode
  · exact (caught_reports _ thrown).2.2.2

theorem Step.reports_iff (hstep : Step h call status failure after) :
    Reports status failure after ↔ (call.entry : Entry T).refused = false ∧
      ((∃ f ∈ failure, f.fromInstrument = false) → h.lastScpiCode = 0) := by
  rcases hstep.cases with ⟨hrefused, rfl, rfl, rfl⟩ | ⟨hgiven, hcases⟩
  · refine iff_of_false (fun hreports => ?_) fun hkept => ?_
    · obtain ⟨-, -, f, hf, htext⟩ := hreports (by decide)
      cases hf
      cases htext
    · rw [hrefused] at hkept
      cases hkept.1
  rw [and_iff_right hgiven]
  rcases hcases with ⟨rfl, rfl, -⟩ | ⟨message, rfl, rfl, rfl, hcode⟩ |
    ⟨thrown, instrument, rfl, rfl, rfl⟩
  · simp [Reports]
  · simp [Reports, normaLastScpiCode, normaLastError, Failure.description, Failure.fromInstrument,
      hcode]
  · refine (reports_thrown_iff _ thrown).trans ?_
    simp

end Steps

theorem Run.reports_iff {h last : Handle T} {events : List (Event T)} (hrun : Run h events last) :
    (∀ e ∈ events, Reports e.status e.failure e.after) ↔ Kept h.lastScpiCode events := by
  induction hrun with
  | nil h => exact iff_of_true (fun e he => absurd he List.not_mem_nil) trivial
  | @cons h mid last call status failure events hstep hrun ih =>
    rw [List.forall_mem_cons, hstep.reports_iff, ih, hstep.remembered, Kept, and_assoc]

theorem connect_fresh {link : Text → Nat → Nat → T} {host : Option Text} {port timeoutMs : Nat}
    {outInstrument : Bool} {connectError text : Text} {status : Status} {h : Handle T}
    (hconnect : normaConnect link host port timeoutMs outInstrument connectError =
      some (status, some h, text)) :
    h.lastScpiCode = 0 := by
  cases host with
  | none => cases hconnect
  | some host =>
    rw [normaConnect] at hconnect
    split at hconnect
    · cases hconnect
    · obtain ⟨⟨result, transport⟩, -, hpair⟩ := Option.map_eq_some_iff.mp hconnect
      cases result with
      | ok value =>
        cases hpair
        rfl
      | error fault => cases fault <;> cases hpair

theorem error_state_iff {link : Text → Nat → Nat → T} {host : Option Text} {port timeoutMs : Nat}
    {outInstrument : Bool} {connectError text : Text} {h last : Handle T} {events : List (Event T)}
    (hconnect : normaConnect link host port timeoutMs outInstrument connectError =
      some (.ok, some h, text)) (hrun : Run h events last) :
    (∀ e ∈ events, Reports e.status e.failure e.after) ↔ Kept 0 events := by
  rw [← connect_fresh hconnect]
  exact hrun.reports_iff

end

section Simulator

variable {h : Handle SimulatorTransport}

theorem checkErrors_front (hidle : h.instrument.Idle)
    (hqueue : QueueValid h.instrument.sim.state.errors) {first : ScpiErrorInfo}
    {rest : List ScpiErrorInfo} (herrors : h.instrument.sim.state.errors = first :: rest) :
    Step h .checkErrors .scpi
      (some (.thrown (.library (.scpi ((first :: rest).map decodedEntry)))))
      { instrument := h.instrument.withSim (h.instrument.sim.withErrors [])
        lastError := cstr (ScpiError.what ((first :: rest).map decodedEntry))
        lastScpiCode := first.code } := by
  have hread := readErrors_idle hidle hqueue
  rw [herrors, NormaInstrument.readErrors] at hread
  have hcheck : NormaInstrument.checkErrors h.instrument =
      some (.error (.scpi ((first :: rest).map decodedEntry)),
        h.instrument.withSim (h.instrument.sim.withErrors [])) := by
    rw [NormaInstrument.checkErrors, throwIfError, Session.bind_ok hread]
    rfl
  exact @Step.library _ _ h .checkErrors rfl _ _ (Session.bind_error hcheck _)

def bogus : NormaSimulator := (undefinedHeader (.new {}) [] "*BOGUS").sim

def connected (sim : NormaSimulator) : Handle SimulatorTransport := { instrument := opened sim }

theorem connect_opened (sim : NormaSimulator) :
    normaConnect (fun _ _ _ => { simulator := sim }) (some "192.168.1.100") 0 0 true [] =
      some (.ok, some (connected sim), []) := rfl

theorem bogus_written :
    Step (connected (.new {})) (.write (some "*BOGUS")) .ok none (connected bogus) := by
  have hline : (NormaSimulator.new {}).handleLine "*BOGUS" = some (bogus, none) := rfl
  have hsend := send_ready (idle_opened (.new {})).toReady (by decide +kernel) hline
  exact @Step.passed _ _ (connected (.new {})) (.write (some "*BOGUS")) rfl _ _
    (Session.bind_ok hsend _)

def checked : Handle SimulatorTransport where
  instrument := opened (bogus.withErrors [])
  lastError := "SCPI error -113: Undefined header;*BOGUS"
  lastScpiCode := -113

def bogusFailure : Failure :=
  .thrown (.library (.scpi [⟨-113, "Undefined header;*BOGUS"⟩]))

theorem bogus_checked : Step (connected bogus) .checkErrors .scpi (some bogusFailure) checked := by
  have herrors : bogus.state.errors = [⟨-113, "Undefined header;*BOGUS"⟩] := rfl
  have hqueue : QueueValid bogus.state.errors := by
    rw [herrors]
    exact ⟨by decide, by decide⟩
  have hdecoded : [(⟨-113, "Undefined header;*BOGUS"⟩ : ScpiErrorInfo)].map decodedEntry =
      [⟨-113, "Undefined header;*BOGUS"⟩] := by decide +kernel
  have htext : cstr (ScpiError.what [⟨-113, "Undefined header;*BOGUS"⟩]) =
      "SCPI error -113: Undefined header;*BOGUS" := by decide +kernel
  have hstep := checkErrors_front (h := connected bogus) (idle_opened bogus) hqueue herrors
  rw [hdecoded, htext] at hstep
  exact hstep

theorem bogus_reported :
    Reports .ok none (connected bogus) ∧ Reports .scpi (some bogusFailure) checked := by
  have hrun : Run (connected (.new {})) [⟨.write (some "*BOGUS"), .ok, none, connected bogus⟩,
      ⟨.checkErrors, .scpi, some bogusFailure, checked⟩] checked :=
    .cons bogus_written (.cons bogus_checked (.nil checked))
  have hall := (error_state_iff (connect_opened (.new {})) hrun).mpr
    ⟨rfl, nofun, rfl, by simp [bogusFailure, Failure.fromInstrument], trivial⟩
  exact ⟨hall _ (.head _), hall _ (.tail _ (.head _))⟩

theorem two_lines_written : ∃ message, Step checked (.write (some "A\nB")) .invalidArgument
    (some (.thrown (.library (.invalidArgument message))))
    { checked with lastError := cstr message } := by
  have hrejected : hasLineTerminator "A\nB" = true := by decide +kernel
  obtain ⟨message, hwrite⟩ := writeLine_rejected checked.instrument hrejected 5000
  exact ⟨message,
    @Step.library _ _ checked (.write (some "A\nB")) rfl _ _ (Session.bind_error hwrite _)⟩

theorem stale_code : ¬ ∀ (T : Type) [Transport T] (link : Text → Nat → Nat → T) (host : Option Text)
    (port timeoutMs : Nat) (outInstrument : Bool) (connectError text : Text) (h last : Handle T)
    (events : List (Event T)),
    normaConnect link host port timeoutMs outInstrument connectError = some (.ok, some h, text) →
    Run h events last → ∀ e ∈ events, Reports e.status e.failure e.after := by
  intro hall
  obtain ⟨message, hlines⟩ := two_lines_written
  have hrun := Run.cons bogus_written (.cons bogus_checked (.cons hlines (.nil _)))
  have hreports := hall _ _ _ _ _ _ _ _ _ _ _ (connect_opened (.new {})) hrun _
    (.tail _ (.tail _ (.head _)))
  obtain ⟨-, hzero, -⟩ := hreports nofun
  have hcode : (-113 : Int) = 0 := hzero nofun
  exact absurd hcode (by decide)

end Simulator

end Capi

end Norma
