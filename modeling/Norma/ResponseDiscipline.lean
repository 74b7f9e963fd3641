import Norma.Efficiency
import Norma.OneFunction
import Norma.Windows

namespace Norma

open CNumber Progression

-- Measuring the functions asks for an efficiency, whose references lead back to one.
def endless (state : State) (signal : SimulatedSignal Float) (functions : List Text) : Bool :=
  circular state signal && functions.any (asksEfficiency state signal)

def Window.overflows (window : Window) (n : Nat) : Bool :=
  let step := max window.sparsing.toNat 1
  let served := taken (toInt32 n).toNat window.count.toNat window.offset.toNat step
  decide (0 < served) && decide (2 ^ 31 ≤ window.offset.toNat + served * step)

namespace Access

def requestedFunctions (a : Access) : Option (List Text) :=
  if a.command.args = [] then some a.sim.state.functions
  else (readFunctions a.command.args).toOption

def requestedCounts (a : Access) (firstArgument : Nat) : Option Window :=
  (readCounts 3 (a.command.args.drop firstArgument)).toOption.map fun counts =>
    ⟨counts.getD 0 0, counts.getD 1 0, counts.getD 2 0⟩

def requestedBlock (a : Access) : Option (Fin 3) :=
  (a.command.args.head?.bind parseNumber).bind fun number =>
    if number != 1 && number != 2 then none else some (if number == 1 then 1 else 2)

def recordedFunctions (a : Access) (block : Fin 3) : List Text :=
  let sweep := a.sim.state.sweep block
  if sweep.functions = [] then a.sim.state.functions else sweep.functions

def stalls (a : Access) (key : Key) : Bool :=
  let state := a.sim.state
  a.command.query &&
    match key with
    | .data | .dataStat =>
        decide (state.dataFormat.format = .ascii) &&
          a.requestedFunctions.any (endless state a.sim.signal)
    | .calcData => (a.requestedCounts 0).any (·.overflows kSpectrumLines)
    | .tracFree => decide (2 ^ 31 ≤ kTraceCapacity - tracePoints state)
    | .trac | .tracStat =>
        a.requestedBlock.any fun block =>
          (a.requestedCounts 1).any fun window =>
            endless state a.sim.signal (a.recordedFunctions block) ||
              window.overflows ((a.recordedFunctions block).length * (tracePoints state).toNat)
    | _ => false

end Access

namespace NormaSimulator

def stalls (sim : NormaSimulator) (path : List Token) (text : Text) : Bool :=
  let p := parseCommand text
  let tokens := headerTokens path p.header
  decide (p.header.head? ≠ some '*') && (findCommand tokens).any fun (key, suffixes) =>
    Access.stalls ⟨sim, p.command tokens key.text suffixes⟩ key

-- No command stalls in the state that those before it leave; the one that fails is the last.
def completes (sim : NormaSimulator) (path : List Token) : List Text → Bool
  | [] => true
  | command :: commands =>
      !sim.stalls path command && (handleCommand sim path command).all fun out =>
        out.stop || out.sim.completes out.path commands

def Disciplined (sim : NormaSimulator) (line : Text) : Prop :=
  ∃ after response, sim.handleLine line = some (after, response) ∧ sim.Responds line response

end NormaSimulator

section Crashes

variable {a : Access} {first second : Handled}

theorem crashes_ite {p : Prop} [Decidable p] :
    (if p then first else second) = .crashes ↔ (p ∧ first = .crashes) ∨ (¬p ∧ second = .crashes) := by
  split
  · next h => simp [h]
  · next h => simp [h]

theorem crashes_orElse :
    first.orElse second = .crashes ↔ first = .crashes ∨ (first = .declined ∧ second = .crashes) := by
  cases first with
  | declined => simp [Handled.orElse]
  | done b => simp [Handled.orElse]
  | crashes => simp [Handled.orElse]

theorem crashes_ofResult {A : Type} {result : Option A} {body : A → Handled} :
    Handled.ofResult result body = .crashes ↔
      result = none ∨ ∃ value, result = some value ∧ body value = .crashes := by
  cases result with
  | none => simp [Handled.ofResult]
  | some value => simp [Handled.ofResult]

theorem endless_iff {state : State} {signal : SimulatedSignal Float} {functions : List Text} :
    endless state signal functions = true ↔
      ¬∀ function ∈ functions, Terminates state signal function := by
  have hreturns {function : Text} : ¬Terminates state signal function ↔
      asksEfficiency state signal function = true ∧ circular state signal = true :=
    (not_congr returns_iff).trans not_not
  simp only [endless, Bool.and_eq_true, List.any_eq_true, not_forall, exists_prop, hreturns]
  constructor
  · rintro ⟨hcircular, function, hmem, hasks⟩
    exact ⟨function, hmem, hasks, hcircular⟩
  · rintro ⟨function, hmem, hasks, hcircular⟩
    exact ⟨hcircular, function, hmem, hasks⟩

theorem measureAll_none_iff {state : State} {signal : SimulatedSignal Float}
    {functions : List Text} :
    measureAll state signal functions = none ↔ endless state signal functions = true := by
  rw [endless_iff, ← not_iff_not, not_not, ← Ne, Option.ne_none_iff_exists']
  constructor
  · rintro ⟨measurements, h⟩
    exact measureAll_isSome h
  · intro h
    obtain ⟨measurements, hall, -⟩ := measureAll_terminates h
    exact ⟨measurements, hall⟩

theorem applyWindow_none_iff (source : List Float) (window : Window) :
    applyWindow source window = none ↔ window.overflows source.length = true := by
  rw [applyWindow_eq]
  simp only [Window.overflows, Bool.and_eq_true, decide_eq_true_eq]
  split
  · next hfits => simpa using hfits
  · next hover => simpa using hover

variable {withStatus : Bool}

theorem measurementResponse_none_iff {state : State} {signal : SimulatedSignal Float}
    {functions : List Text} : measurementResponse state signal functions withStatus = none ↔
      state.dataFormat.format = .ascii ∧ endless state signal functions = true := by
  unfold measurementResponse
  split
  · next hnil => simp [hnil, endless]
  · split
    · next hbinary => simp [hbinary]
    · next hascii =>
      rw [Option.map_eq_none_iff, measureAll_none_iff, and_iff_right (not_not.mp hascii)]

theorem measured_crashes_iff : a.measured withStatus = .crashes ↔
    a.sim.state.dataFormat.format = .ascii ∧
      endless a.sim.state a.sim.signal a.sim.state.functions = true := by
  rw [Access.measured, crashes_ofResult, measurementResponse_none_iff]
  simp

theorem data_crashes_iff :
    a.data withStatus = .crashes ↔ a.stalls (readoutKey withStatus) = true := by
  have hstalls : a.stalls (readoutKey withStatus) = (a.command.query &&
      (decide (a.sim.state.dataFormat.format = .ascii) &&
        a.requestedFunctions.any (endless a.sim.state a.sim.signal))) := by
    cases withStatus <;> rfl
  rw [hstalls, Access.data, Access.requestedFunctions, Access.readFunctionList]
  cases a.command.query with
  | false => simp
  | true =>
    simp only [Bool.not_true, Bool.false_eq_true, if_false, Bool.true_and, Bool.and_eq_true,
      decide_eq_true_eq]
    split
    · exact measured_crashes_iff
    · cases readFunctions a.command.args with
      | error raw => simp [Except.toOption]
      | ok names => exact measured_crashes_iff

theorem readWindow_crashes_iff {firstArgument : Nat} {body : Window → Handled} :
    a.readWindow firstArgument body = .crashes ↔
      ∃ window, a.requestedCounts firstArgument = some window ∧ body window = .crashes := by
  rw [Access.readWindow, Access.requestedCounts]
  cases readCounts 3 (a.command.args.drop firstArgument) with
  | error arg => simp [Except.toOption]
  | ok counts => simp [Except.toOption]

theorem windowed_crashes_iff {source : List Float} {window : Window} {format : Float → Text} :
    a.windowed source window format = .crashes ↔ window.overflows source.length = true := by
  rw [Access.windowed, crashes_ofResult, applyWindow_none_iff]
  simp

theorem traceBlock_crashes_iff {body : Fin 3 → Handled} :
    a.traceBlock body = .crashes ↔
      ∃ block, a.requestedBlock = some block ∧ body block = .crashes := by
  unfold Access.traceBlock Access.requestedBlock
  cases a.command.args with
  | nil => simp
  | cons arg args =>
    dsimp only [List.head?_cons, Option.bind_some]
    cases parseNumber arg with
    | none => simp
    | some number =>
      dsimp only [Option.bind_some]
      split
      · simp
      · simp

theorem recorded_length {functions : List Text} {measurements : List (SimulatedMeasurement Float)}
    {points : Nat} (record : SimulatedMeasurement Float → List Float)
    (hrecord : ∀ m, (record m).length = points)
    (hall : measureAll a.sim.state a.sim.signal functions = some measurements) :
    (measurements.flatMap record).length = functions.length * points := by
  obtain ⟨measurements', hall', hmeasured⟩ := measureAll_terminates (measureAll_isSome hall)
  obtain rfl := Option.some.inj (hall.symm.trans hall')
  simp [List.length_flatMap, hrecord, hmeasured.length_eq]

theorem trace_crashes_iff {status : Bool} {block : Fin 3} : a.trace status block = .crashes ↔
    ∃ window, a.requestedCounts 1 = some window ∧
      (endless a.sim.state a.sim.signal (a.recordedFunctions block) = true ∨
        window.overflows ((a.recordedFunctions block).length *
          (tracePoints a.sim.state).toNat) = true) := by
  rw [Access.trace, readWindow_crashes_iff]
  refine exists_congr fun window => and_congr_right fun _ => ?_
  rw [crashes_ofResult]
  change measureAll a.sim.state a.sim.signal (a.recordedFunctions block) = none ∨
    (∃ measurements, measureAll a.sim.state a.sim.signal (a.recordedFunctions block) =
      some measurements ∧ _) ↔ _
  rw [← measureAll_none_iff]
  cases hall : measureAll a.sim.state a.sim.signal (a.recordedFunctions block) with
  | none => simp
  | some measurements =>
    have hvalues := recorded_length (recordedValues (tracePoints a.sim.state).toNat)
      (fun m => by rw [recordedValues, List.length_map, List.length_range]) hall
    have hstatus := recorded_length (recordedStatus (tracePoints a.sim.state).toNat)
      (fun m => by rw [recordedStatus, List.length_replicate]) hall
    simp only [Option.some.injEq, exists_eq_left', reduceCtorEq, false_or]
    cases status with
    | true => rw [if_pos rfl, windowed_crashes_iff, hstatus]
    | false => rw [if_neg Bool.false_ne_true, windowed_crashes_iff, hvalues]

theorem handleRoute_returns {key : Key} : handleRoute key a ≠ .crashes := by
  simp [handleRoute, crashes_ite]

theorem handleInput_returns {key : Key} : handleInput key a ≠ .crashes := by
  simp [handleInput, crashes_ite]

theorem handleSync_returns {key : Key} : handleSync key a ≠ .crashes := by
  simp [handleSync, crashes_ite]

theorem handleAcquisition_returns {key : Key} : handleAcquisition key a ≠ .crashes := by
  simp [handleAcquisition, crashes_ite]

theorem handleTrigger_returns {key : Key} : handleTrigger key a ≠ .crashes := by
  simp [handleTrigger, crashes_ite]

theorem handleFormat_returns {key : Key} : handleFormat key a ≠ .crashes := by
  simp [handleFormat, crashes_ite]

theorem handleDisplayOutput_returns {key : Key} : handleDisplayOutput key a ≠ .crashes := by
  simp [handleDisplayOutput, crashes_ite]

theorem handleSystem_returns {key : Key} : handleSystem key a ≠ .crashes := by
  simp [handleSystem, crashes_ite]

theorem handleStatus_returns {key : Key} : handleStatus key a ≠ .crashes := by
  unfold handleStatus
  split
  · nofun
  · nofun

theorem handleTimer_returns {key : Key} : handleTimer key a ≠ .crashes := by
  simp [handleTimer, crashes_ite]

theorem handleChannel_returns {key : Key} : handleChannel key a ≠ .crashes := by
  simp [handleChannel, crashes_ite]

theorem handleSweep_returns {key : Key} : handleSweep key a ≠ .crashes := by
  simp [handleSweep, crashes_ite]

theorem handleCommon_returns {key : Text} : handleCommon key a ≠ .crashes := by
  simp [handleCommon, crashes_ite]

theorem transformData_crashes_iff :
    a.transformData = .crashes ↔ a.stalls .calcData = true := by
  rw [Access.transformData, Access.stalls]
  cases a.command.query with
  | false => simp
  | true =>
    have hlength : (Access.spectrum a.sim.signal).length = kSpectrumLines := by
      rw [Access.spectrum, List.length_map, List.length_range]
    rw [if_neg (by decide), readWindow_crashes_iff]
    simp only [windowed_crashes_iff, hlength, Bool.true_and, Option.any_eq_true]

theorem traceFree_crashes_iff : a.traceFree = .crashes ↔ a.stalls .tracFree = true := by
  simp only [Access.traceFree, Access.stalls, crashes_ite]
  cases a.command.query with
  | false => simp
  | true => simp

def traceKey (status : Bool) : Key := if status then .tracStat else .trac

theorem traced_crashes_iff (status : Bool) :
    a.command.query = true ∧ (a.traceBlock fun block => a.trace status block) = .crashes ↔
      a.stalls (traceKey status) = true := by
  have hstalls : a.stalls (traceKey status) = (a.command.query &&
      a.requestedBlock.any fun block => (a.requestedCounts 1).any fun window =>
        endless a.sim.state a.sim.signal (a.recordedFunctions block) ||
          window.overflows ((a.recordedFunctions block).length *
            (tracePoints a.sim.state).toNat)) := by
    cases status <;> rfl
  rw [hstalls, traceBlock_crashes_iff]
  simp only [trace_crashes_iff, Bool.and_eq_true, Bool.or_eq_true, Option.any_eq_true]

theorem handleSense_crashes {key : Key} (h : handleSense key a = .crashes) :
    a.stalls key = true := by
  simp only [handleSense, crashes_ite, handleChannel_returns, handleSweep_returns, reduceCtorEq,
    and_false, false_or] at h
  obtain ⟨-, -, -, -, -, -, -, -, ⟨rfl | rfl, hdata⟩ | hdeclined⟩ := h
  · exact data_crashes_iff.mp hdata
  · exact data_crashes_iff.mp hdata
  · simp at hdeclined

theorem handleCalculate_crashes {key : Key} (h : handleCalculate key a = .crashes) :
    a.stalls key = true := by
  simp only [handleCalculate, crashes_ite, reduceCtorEq, and_false, false_or, or_false] at h
  obtain ⟨-, -, -, -, -, -, -, rfl, hdata⟩ := h
  exact transformData_crashes_iff.mp hdata

theorem handleTrace_crashes {key : Key} (h : handleTrace key a = .crashes) :
    a.stalls key = true := by
  simp only [handleTrace, crashes_ite, reduceCtorEq, and_false, false_or, or_false] at h
  rcases h with ⟨rfl, hfree⟩ | ⟨-, -, -, hkey, hset, hblock⟩
  · exact traceFree_crashes_iff.mp hfree
  · have hquery : a.command.query = true := by simpa using hset
    rcases hkey with rfl | rfl | rfl
    · simp [traceBlock_crashes_iff] at hblock
    · exact (traced_crashes_iff false).mp ⟨hquery, hblock⟩
    · exact (traced_crashes_iff true).mp ⟨hquery, hblock⟩

theorem crashes_of_orElse (h : first.orElse second = .crashes) (hfirst : first ≠ .crashes) :
    second = .crashes := by
  rcases crashes_orElse.mp h with hcrash | ⟨-, hsecond⟩
  · exact absurd hcrash hfirst
  · exact hsecond

theorem dispatch_crashes {key : Key} (h : dispatch key a = .crashes) : a.stalls key = true := by
  have h := crashes_of_orElse (crashes_of_orElse h handleRoute_returns) handleInput_returns
  rcases crashes_orElse.mp h with hsense | ⟨-, h⟩
  · exact handleSense_crashes hsense
  have h := crashes_of_orElse (crashes_of_orElse (crashes_of_orElse h handleSync_returns)
    handleAcquisition_returns) handleTrigger_returns
  rcases crashes_orElse.mp h with hcalculate | ⟨-, h⟩
  · exact handleCalculate_crashes hcalculate
  rcases crashes_orElse.mp h with htrace | ⟨-, h⟩
  · exact handleTrace_crashes htrace
  have h := crashes_of_orElse (crashes_of_orElse (crashes_of_orElse h handleFormat_returns)
    handleDisplayOutput_returns) handleSystem_returns
  exact absurd (crashes_of_orElse h handleStatus_returns) handleTimer_returns

theorem dispatch_traced (status : Bool) (hquery : a.command.query = true)
    (h : (a.traceBlock fun block => a.trace status block) = .crashes) :
    dispatch (traceKey status) a = .crashes := by
  have htrace : handleTrace (traceKey status) a = .crashes := by
    cases status <;> simpa [handleTrace, traceKey, hquery] using h
  cases status <;> exact congrArg (Handled.orElse · _) htrace

theorem dispatch_crashes_iff {key : Key} : dispatch key a = .crashes ↔ a.stalls key = true := by
  refine ⟨dispatch_crashes, fun h => ?_⟩
  have hkey := h
  simp only [Access.stalls] at hkey
  split at hkey
  · exact congrArg (Handled.orElse · _) (data_crashes_iff.mpr h : a.data false = .crashes)
  · exact congrArg (Handled.orElse · _) (data_crashes_iff.mpr h : a.data true = .crashes)
  · exact congrArg (Handled.orElse · _) (transformData_crashes_iff.mpr h)
  · exact congrArg (Handled.orElse · _) (traceFree_crashes_iff.mpr h)
  · obtain ⟨hquery, hblock⟩ := (traced_crashes_iff false).mpr h
    exact dispatch_traced false hquery hblock
  · obtain ⟨hquery, hblock⟩ := (traced_crashes_iff true).mpr h
    exact dispatch_traced true hquery hblock
  · simp at hkey

theorem execute_none_iff {key : Key} : execute key a = none ↔ a.stalls key = true := by
  rw [← dispatch_crashes_iff, execute]
  cases dispatch key a with
  | declined => simp
  | done b => simp
  | crashes => simp

end Crashes

section Lines

variable {sim : NormaSimulator} {path : List Token}

theorem handleCommand_none_iff {text : Text} :
    handleCommand sim path text = none ↔ sim.stalls path text = true := by
  unfold handleCommand NormaSimulator.stalls
  dsimp only
  split
  · next hstar =>
    unfold handleStar
    dsimp only
    split
    · simp [hstar]
    · simp [hstar]
    · next hcrash => exact absurd hcrash handleCommon_returns
  · next hstar =>
    unfold handleTree
    dsimp only
    rw [decide_eq_true hstar, Bool.true_and]
    cases findCommand (headerTokens path (parseCommand text).header) with
    | none => simp
    | some found => simp [execute_none_iff]

theorem executed_isSome {pieces : List Text} : (executed sim path pieces).isSome =
    sim.completes path ((pieces.map trim).filter (· ≠ [])) := by
  induction pieces generalizing sim path with
  | nil => rfl
  | cons piece pieces ih =>
    rw [executed]
    split
    · next hblank => simpa [hblank] using ih
    · next hpiece =>
      have hcommands : ((piece :: pieces).map trim).filter (· ≠ []) =
          trim piece :: (pieces.map trim).filter (· ≠ []) := by
        simp [hpiece]
      rw [hcommands, NormaSimulator.completes]
      cases hout : handleCommand sim path (trim piece) with
      | none => simp [handleCommand_none_iff.mp hout]
      | some out =>
        have hgoes : sim.stalls path (trim piece) = false := by
          rw [← Bool.not_eq_true, ← handleCommand_none_iff, hout]
          exact Option.some_ne_none out
        rw [hgoes]
        cases hstop : out.stop with
        | true => simp [hstop]
        | false => simpa [hstop] using ih

theorem handleLine_isSome (sim : NormaSimulator) (line : Text) :
    (sim.handleLine line).isSome = sim.completes [] (commandsOf line) := by
  rw [handleLine_eq, Option.isSome_map, executed_isSome, commandsOf]

theorem response_discipline_iff (sim : NormaSimulator) (line : Text) :
    sim.Disciplined line ↔ sim.completes [] (commandsOf line) = true := by
  rw [← handleLine_isSome, Option.isSome_iff_exists]
  constructor
  · rintro ⟨after, response, hline, -⟩
    exact ⟨_, hline⟩
  · rintro ⟨⟨after, response⟩, hline⟩
    exact ⟨after, response, hline, handleLine_responds hline⟩

-- The efficiency of the powers refers to itself, and reading it never answers.
theorem own_efficiency_unanswered : ¬∀ sim, Reachable sim → ∀ line, sim.Disciplined line := by
  intro hall
  obtain ⟨after, response, hline, -⟩ := hall _ reachable_ownReference "DATA? \"POW:EFF\""
  have hstalls : ((NormaSimulator.new {}).withReferences "POW:EFF" "POW:EFF").completes []
      (commandsOf "DATA? \"POW:EFF\"") = false := by decide +kernel
  have hsome := handleLine_isSome _ _ ▸ congrArg Option.isSome hline
  rw [hstalls] at hsome
  cases hsome

end Lines

end Norma
