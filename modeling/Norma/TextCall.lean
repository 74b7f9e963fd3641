import Norma.FunctionList
import Norma.Reach

namespace Norma

open ErrorCode
open ScpiClient (Ready hasLineTerminator writeLine_eq writeLine_ready)

inductive TextCall where
  | syncSource (source : Text)
  | triggerStart (source : Text)
  | triggerStop (source : Text)
  | language (name : Text)
  | functionList (list : FunctionList) (names : List Text)
  | efficiency (input output : Text) (phase : Int)

namespace TextCall

def run : TextCall → Session SimulatorTransport Unit
  | .syncSource source => NormaInstrument.setSyncSource source
  | .triggerStart source => NormaInstrument.setTriggerStartSource source
  | .triggerStop source => NormaInstrument.setTriggerStopSource source
  | .language name => NormaInstrument.setLanguage name
  | .functionList list names => list.write names
  | .efficiency input output phase => NormaInstrument.setEfficiencyReference input output phase

def known : TextCall → Text × Key × List Int
  | .syncSource _ => ("SYNC:SOUR", .syncSour, [])
  | .triggerStart _ => ("TRIG:STAR:SOUR", .trigStarSour, [])
  | .triggerStop _ => ("TRIG:STOP:SOUR", .trigStopSour, [])
  | .language _ => ("SYST:LANG", .systLang, [])
  | .functionList list _ => list.known
  | .efficiency _ _ phase =>
      if phase = 460 then ("CALC:POW460:EFF:REF", .calcPowEffRef, [460])
      else ("CALC:POW:EFF:REF", .calcPowEffRef, [0])

def parameters : TextCall → Text
  | .syncSource source => source
  | .triggerStart source => source
  | .triggerStop source => source
  | .language name => quote name
  | .functionList _ names => quoteJoin names
  | .efficiency input output _ => quote input ++ "," ++ quote output

def line (call : TextCall) : Text := call.known.1 ++ ' ' :: call.parameters

def refused : TextCall → Bool
  | .functionList _ names => names = []
  | .efficiency _ _ phase => !isAggregate phase
  | _ => false

def throws (call : TextCall) : Bool := call.refused || hasLineTerminator call.line

def firstArgument (args : List Text) : Option Text :=
  args.head?.bind fun raw => if raw = [] then none else some (unquote raw)

def accepts (call : TextCall) (state : State) (args : List Text) : Bool :=
  match call with
  | .syncSource _ => ((firstArgument args).bind syncSourceOf).isSome
  | .triggerStart _ => (firstArgument args).isSome
  | .triggerStop _ => (firstArgument args).isSome
  | .language _ => (firstArgument args).isSome
  | .functionList list _ =>
      match readFunctions args with
      | .error _ => false
      | .ok names => args ≠ [] && !list.conflicts state names
  | .efficiency _ _ _ => 2 ≤ args.length

theorem known_mem (call : TextCall) : call.known ∈ knownHeaders := by
  cases call with
  | functionList list names => exact list.known_mem
  | efficiency input output phase =>
    simp only [known]
    split <;> simp [knownHeaders]
  | _ => simp [known, knownHeaders]

theorem run_of_refused {call : TextCall} (h : call.refused = true) :
    ∃ fault, call.run = Session.throw fault := by
  cases call with
  | functionList list names =>
    obtain rfl : names = [] := of_decide_eq_true h
    exact list.write_nil
  | efficiency input output phase => exact ⟨_, if_pos h⟩
  | _ => cases h

theorem run_eq_send {call : TextCall} (h : call.refused = false) :
    call.run = ScpiClient.send call.line := by
  cases call with
  | functionList list names => exact list.write_eq_send (of_decide_eq_false h)
  | efficiency input output phase =>
    have hphase : (!isAggregate phase) = false := h
    refine (if_neg (by simp [hphase])).trans ?_
    simp only [line, known, parameters]
    split <;> simp only [List.append_assoc] <;> rfl
  | _ => rfl

section Execute

variable {call : TextCall} {a : Access}

theorem argument_eq (command : Command) : command.argument = firstArgument command.args := by
  cases hargs : command.args <;> simp [Command.argument, firstArgument, hargs]

theorem parameter_failed (body : Text → Access) :
    (a.parameter body).command.failed =
      ((firstArgument a.command.args).map fun text => (body text).command.failed).getD true := by
  unfold Access.parameter
  rw [argument_eq]
  cases firstArgument a.command.args <;> simp [Access.fail]

theorem parameter_assign_failed (hfresh : a.command.failed = false) (f : Setting Text)
    (value : Text → Text) :
    (a.parameter fun text => a.assign f (value text)).command.failed =
      !(firstArgument a.command.args).isSome := by
  rw [parameter_failed]
  cases firstArgument a.command.args <;> simp [Access.assign, Access.update, hfresh]

theorem efficiencyReference_failed
    (hsuffixes : a.command.suffixes = [0] ∨ a.command.suffixes = [460])
    (hset : a.command.query = false) (hfresh : a.command.failed = false) :
    a.efficiencyReference.command.failed = !decide (2 ≤ a.command.args.length) := by
  have hsuffix : ¬ (a.command.aggregateSuffix ≠ 0 ∧ a.command.aggregateSuffix ≠ 460) := by
    rcases hsuffixes with h | h <;> simp [Command.aggregateSuffix, h]
  simp only [Access.efficiencyReference, if_neg hsuffix, hset, Bool.false_eq_true, if_false]
  rcases hargs : a.command.args with _ | ⟨input, _ | ⟨output, args⟩⟩
  · simp [Access.fail]
  · simp [Access.fail]
  · simp [Access.assign, Access.update, hfresh]

theorem efficiency_suffixes {input output : Text} {phase : Int} :
    (efficiency input output phase).known.2.2 = [0] ∨
      (efficiency input output phase).known.2.2 = [460] := by
  simp only [known]
  split
  · exact .inr rfl
  · exact .inl rfl

theorem readFunctionList_failed {list : FunctionList} (hfresh : a.command.failed = false) :
    (a.readFunctionList id fun names =>
      if list.conflicts a.sim.state names then
        a.fail kSettingsConflict "Settings conflict;FUNCtion:CONCurrent is OFF"
      else a.assign list.setting names).command.failed =
      !accepts (.functionList list []) a.sim.state a.command.args := by
  unfold Access.readFunctionList
  split
  · next hargs => simp [hargs, Access.fail, accepts, readFunctions]
  · next hargs =>
    simp only [accepts]
    cases readFunctions a.command.args with
    | error raw => simp [Access.illegal, Access.fail]
    | ok names =>
      cases hconflicts : list.conflicts a.sim.state names <;>
        simp [hargs, hconflicts, Access.fail, Access.assign, Access.update, hfresh]

theorem execute_setter (call : TextCall) (hsuffixes : a.command.suffixes = call.known.2.2)
    (hset : a.command.query = false) (hfresh : a.command.failed = false) :
    ∃ b, execute call.known.2.1 a = some b ∧
      b.command.failed = !call.accepts a.sim.state a.command.args := by
  cases call with
  | syncSource source =>
    refine ⟨_, rfl, ?_⟩
    rw [if_neg (by simp [hset]), parameter_failed, accepts]
    cases firstArgument a.command.args with
    | none => rfl
    | some text =>
      cases hsource : syncSourceOf text <;>
        simp [hsource, Access.illegal, Access.fail, Access.assign, Access.update, hfresh]
  | triggerStart source =>
    refine ⟨_, rfl, ?_⟩
    rw [Access.triggerSource, if_neg (by simp [hset])]
    exact parameter_assign_failed hfresh _ _
  | triggerStop source =>
    refine ⟨_, rfl, ?_⟩
    rw [Access.triggerSource, if_neg (by simp [hset])]
    exact parameter_assign_failed hfresh _ _
  | language name =>
    refine ⟨_, rfl, ?_⟩
    rw [if_neg (by simp [hset])]
    exact parameter_assign_failed hfresh _ _
  | functionList list names =>
    refine ⟨_, list.execute_known hsuffixes, ?_⟩
    rw [FunctionList.store, if_neg (by simp [hset])]
    exact readFunctionList_failed hfresh
  | efficiency input output phase =>
    have hkey : (efficiency input output phase).known.2.1 = .calcPowEffRef := by
      simp only [known]
      split <;> rfl
    rw [hkey]
    refine ⟨_, rfl, ?_⟩
    exact efficiencyReference_failed (hsuffixes ▸ efficiency_suffixes) hset hfresh

end Execute

section Line

variable {call : TextCall} {first : Text} {more : List Text}

theorem split_line (h : splitUnquoted call.parameters ';' = first :: more) :
    splitUnquoted call.line ';' = (call.known.1 ++ ' ' :: first) :: more := by
  obtain ⟨hunquoted, -, hsemicolon, -⟩ := knownHeaders_plain _ call.known_mem
  exact split_parameters hunquoted hsemicolon h

theorem trim_first_ne_nil : trim (call.known.1 ++ ' ' :: first) ≠ [] := by
  obtain ⟨-, hspace, -, -, -, -, hne, -⟩ := knownHeaders_plain _ call.known_mem
  rw [trim_parameters hspace hne]
  split <;> simp [hne]

theorem handleCommand_first (call : TextCall) (first : Text) (sim : NormaSimulator) :
    ∃ out, handleCommand sim [] (trim (call.known.1 ++ ' ' :: first)) = some out ∧
      out.response = none ∧ out.stop = !call.accepts sim.state (argumentsOf first) := by
  have hmem : (call.known.1, call.known.2.1, call.known.2.2) ∈ knownHeaders := call.known_mem
  have hsetting := handleCommand_setting hmem sim first
  obtain ⟨b, hexecute, hfailed⟩ := execute_setter call
    (a := received sim ⟨call.known.1, false, argumentsOf first⟩ call.known.2.1 call.known.2.2)
    rfl rfl rfl
  rw [hexecute] at hsetting
  refine ⟨_, hsetting, ?_, hfailed⟩
  have heffect := Outcome.Effect.ofAccess (execute_change rfl hexecute).effect rfl rfl
    (headerTokens [] call.known.1).dropLast
  have hnone := heffect.response_isSome
  change _ = (false && _) at hnone
  rwa [Bool.false_and, Option.isSome_eq_false_iff, Option.isNone_iff_eq_none] at hnone

theorem executed_line (h : splitUnquoted call.parameters ';' = first :: more)
    (sim : NormaSimulator) :
    ∃ step : Step, step.after.response = none ∧
      executed sim [] (splitUnquoted call.line ';') =
        if call.accepts sim.state (argumentsOf first) then
          (executed step.after.sim step.after.path more).map (step :: ·)
        else some [step] := by
  obtain ⟨out, hout, hresponse, hstop⟩ := handleCommand_first call first sim
  refine ⟨⟨sim, [], trim (call.known.1 ++ ' ' :: first), out⟩, hresponse, ?_⟩
  rw [split_line h, executed, if_neg trim_first_ne_nil, hout]
  dsimp only
  rw [hstop]
  cases call.accepts sim.state (argumentsOf first) <;> rfl

end Line

def OneCommand (call : TextCall) (client : SimulatorClient) : Prop :=
  ∃ step after, executed client.sim [] (splitUnquoted call.line ';') = some [step] ∧
    call.run client = some (.ok (), after) ∧
    after.transport.pendingResponses = client.transport.pendingResponses

def Unwritten (call : TextCall) (client : SimulatorClient) : Prop :=
  ∃ fault, call.run client = some (.error fault, client)

def blankTail (call : TextCall) : Prop :=
  ∀ piece ∈ (splitUnquoted call.parameters ';').tail, trim piece = []

def acceptedBy (call : TextCall) (state : State) : Bool :=
  call.accepts state (argumentsOf ((splitUnquoted call.parameters ';').headD []))

theorem unwritten_of_throws {call : TextCall} (h : call.throws = true) (client : SimulatorClient) :
    call.Unwritten client := by
  cases hrefused : call.refused with
  | true =>
    obtain ⟨fault, hrun⟩ := run_of_refused hrefused
    exact ⟨fault, by rw [hrun]; rfl⟩
  | false =>
    have hline : hasLineTerminator call.line = true := by simpa [throws, hrefused] using h
    rw [Unwritten, run_eq_send hrefused]
    exact ⟨_, by rw [ScpiClient.send, ScpiClient.writeLine, if_pos hline]; rfl⟩

theorem run_eq {call : TextCall} (h : call.throws = false) {client : SimulatorClient}
    (hready : client.Ready) :
    call.run client = (client.sim.handleLine call.line).map fun (after, response) =>
      (.ok (), (client.withSim after).withResponse response) := by
  obtain ⟨hrefused, hline⟩ := Bool.or_eq_false_iff.mp h
  rw [run_eq_send hrefused]
  exact writeLine_eq hready.writable hline client.timeout

theorem oneCommand_of_single {call : TextCall} (h : call.throws = false) {client : SimulatorClient}
    (hready : client.Ready) {step : Step} (hresponse : step.after.response = none)
    (hsingle : executed client.sim [] (splitUnquoted call.line ';') = some [step]) :
    call.OneCommand client := by
  refine ⟨step, client.withSim step.after.sim, hsingle, ?_, rfl⟩
  rw [run_eq h hready, handleLine_eq, hsingle]
  simp [joinResponses, hresponse, ScpiClient.withResponse, ScpiClient.withSim]

theorem not_unwritten {call : TextCall} (h : call.throws = false) {client : SimulatorClient}
    (hready : client.Ready) : ¬ call.Unwritten client := by
  rintro ⟨fault, hrun⟩
  rw [run_eq h hready] at hrun
  obtain ⟨result, -, hfault⟩ := Option.map_eq_some_iff.mp hrun
  cases hfault

theorem one_command_iff (call : TextCall) {client : SimulatorClient} (hready : client.Ready) :
    call.Unwritten client ∨ call.OneCommand client ↔
      call.throws = true ∨ call.blankTail ∨ call.acceptedBy client.sim.state = false := by
  cases hthrows : call.throws with
  | true => exact iff_of_true (.inl (unwritten_of_throws hthrows client)) (.inl rfl)
  | false =>
    obtain ⟨first, more, hsplit⟩ := List.exists_cons_of_ne_nil
      (splitUnquoted_ne_nil call.parameters ';')
    obtain ⟨step, hresponse, hexecuted⟩ := executed_line hsplit client.sim
    have htail : call.blankTail ↔ ∀ piece ∈ more, trim piece = [] := by
      rw [blankTail, hsplit, List.tail_cons]
    have haccepted : call.acceptedBy client.sim.state =
        call.accepts client.sim.state (argumentsOf first) := by
      rw [acceptedBy, hsplit, List.headD_cons]
    rw [or_iff_right (not_unwritten hthrows hready), or_iff_right (by simp), htail, haccepted]
    cases haccepts : call.accepts client.sim.state (argumentsOf first) with
    | true =>
      rw [if_pos haccepts] at hexecuted
      rw [or_iff_left (by simp), ← executed_eq_nil step.after.sim step.after.path]
      constructor
      · rintro ⟨other, -, hsingle, -⟩
        rw [hexecuted] at hsingle
        obtain ⟨rest, hrest, hcons⟩ := Option.map_eq_some_iff.mp hsingle
        obtain rfl := (List.cons.inj hcons).2
        exact hrest
      · intro hrest
        rw [hrest] at hexecuted
        exact oneCommand_of_single hthrows hready hresponse hexecuted
    | false =>
      rw [if_neg (by simp [haccepts])] at hexecuted
      exact iff_of_true (oneCommand_of_single hthrows hready hresponse hexecuted) (.inr rfl)

theorem sync_source_smuggles :
    ¬ ∀ (call : TextCall) (client : SimulatorClient), client.Ready → Reachable client.sim →
      call.Unwritten client ∨ call.OneCommand client := by
  intro h
  have hready := (ScpiClient.idle_opened (.new {})).toReady
  rcases h (.syncSource "VOLT1;*IDN?") _ hready (.new {}) with hunwritten | hone
  · exact not_unwritten (by decide +kernel) hready hunwritten
  · obtain ⟨step, -, hsingle, -⟩ := hone
    have htwo : (executed (.new {}) [] (splitUnquoted (line (.syncSource "VOLT1;*IDN?")) ';')).map
        List.length = some 2 := by decide +kernel
    have hlength := congrArg (Option.map List.length) hsingle
    exact absurd (htwo.symm.trans hlength) (by simp)

theorem language_one_command :
    (language "DEUTsch").Unwritten (.opened (.new {})) ∨
      (language "DEUTsch").OneCommand (.opened (.new {})) :=
  (one_command_iff (language "DEUTsch") (ScpiClient.idle_opened (.new {})).toReady).mpr
    (.inr (.inl (by unfold blankTail; decide +kernel)))

end TextCall

end Norma
