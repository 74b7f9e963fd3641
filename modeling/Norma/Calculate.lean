import Norma.Handlers

namespace Norma

open ErrorCode

def kSpectrumLines : Nat := 32

def toInt (value : Float) : Int := CNumber.toInt32 (CNumber.lround value)

structure Window where
  count : Int
  offset : Int
  sparsing : Int
  deriving DecidableEq

-- `none` when the index leaves `int`, which is undefined.
def applyWindow.go (source : List Float) (count : Int) (step : Nat) :
    Nat → Nat → List Float → Option (List Float)
  | 0, _, _ => none
  | fuel + 1, i, out =>
      if CNumber.toInt32 source.length ≤ i then some out
      else if 0 < count ∧ count ≤ CNumber.toInt32 out.length then some out
      else
        match source[i]? with
        | none => none
        | some value =>
            if i + step < 2 ^ 31 then go source count step fuel (i + step) (out ++ [value])
            else none

def applyWindow (source : List Float) (window : Window) : Option (List Float) :=
  applyWindow.go source window.count (max window.sparsing 1).toNat (source.length + 1)
    (max window.offset 0).toNat []

-- An argument that is missing or empty leaves itself and those behind it at zero.
def readCounts : Nat → List Text → Except Text (List Int)
  | 0, _ => .ok []
  | n + 1, [] => .ok (List.replicate (n + 1) 0)
  | n + 1, arg :: args =>
      if arg = [] then .ok (List.replicate (n + 1) 0)
      else
        match parseNumber arg with
        | none => .error arg
        | some value =>
            if value < 0 then .error arg
            else (readCounts n args).map (toInt value :: ·)

namespace Access

def readWindow (a : Access) (firstArgument : Nat) (body : Window → Handled) : Handled :=
  match readCounts 3 (a.command.args.drop firstArgument) with
  | .error arg => .done (a.illegal arg)
  | .ok counts => body ⟨counts.getD 0 0, counts.getD 1 0, counts.getD 2 0⟩

def windowed (a : Access) (source : List Float) (window : Window) (format : Float → Text) :
    Handled :=
  .ofResult (applyWindow source window) fun values =>
    .done (a.respond (join ',' (values.map format)))

def transformOnce (a : Access) : Access :=
  if a.command.query then a.fail kUndefinedHeader ("Undefined header;" ++ Key.calcTranFreqStat.text)
  else a.parameter fun text =>
    if mnemonicMatches (upper text) "ONCE" then a else a.illegal text

def cycles (a : Access) : Access :=
  if a.command.query then a.respond (toText a.sim.state.transformCycles)
  else a.readInteger 4 12 fun cycles =>
    if cycles ≠ 4 ∧ cycles ≠ 6 ∧ cycles ≠ 8 ∧ cycles ≠ 10 ∧ cycles ≠ 12 then
      a.illegal (toText cycles)
    else a.assign .transformCycles cycles

def spectrum (signal : SimulatedSignal Float) : List Float :=
  let fundamental := if signal.present then (signal.phases 0).voltageRms else 0
  (List.range kSpectrumLines).map fun i => fundamental / Float.ofNat ((i + 1) * (i + 1))

def transformData (a : Access) : Handled :=
  if !a.command.query then .done (a.queryOnly a)
  else a.readWindow 0 fun window =>
    a.windowed (spectrum a.sim.signal) window (formatValue a.sim.state)

def transformPreamble (a : Access) : Access :=
  let state := a.sim.state
  a.queryOnly (a.respond (join ',' [toText kSpectrumLines,
    toText (max state.transformFunctions.length 1), formatSetting a.sim.signal.frequency,
    formatSetting state.transformStart]))

def transformThd (a : Access) : Access :=
  a.queryOnly (if a.sim.state.transformMode ≠ .std then
      a.fail kSettingsConflict "Settings conflict;THD requires TRANsform:FREQuency:MODE STD"
    else a.respond (joinValues
      [(a.sim.signal.phases 0).voltageThd, (a.sim.signal.phases 1).voltageThd,
        (a.sim.signal.phases 2).voltageThd]))

def integralStart (a : Access) : Access :=
  a.commandOnly (if !a.sim.state.integralEnabled then
      a.fail kSettingsConflict "Settings conflict;CALCulate:INTegral:STATe is OFF"
    else a.assign .integralRunning true)

def efficiencyReference (a : Access) : Access :=
  let suffix := a.command.aggregateSuffix
  let state := a.sim.state
  if suffix ≠ 0 ∧ suffix ≠ 460 then
    a.fail kUndefinedHeader ("Undefined header;CALCulate:POWer" ++ toText suffix)
  else if a.command.query then
    a.respond (quote state.efficiencyInput ++ "," ++ quote state.efficiencyOutput)
  else
    match a.command.args with
    | input :: output :: _ => a.assign .efficiency (upper (unquote input), upper (unquote output))
    | _ => a.fail kMissingParameter "Missing parameter;expected <function1>,<function2>"

end Access

def transformModes : List (TransformMode × List Text) :=
  [(.fft, ["FFT"]), (.dft, ["DFT"]), (.std, ["STD"])]

def groupings : List (HarmonicGrouping × List Text) :=
  [(.component, ["COMP", "COMPonent"]), (.harmonic, ["HARM", "HARMonic"]),
    (.hGroup, ["HGR", "HGRoup"]), (.hsGroup, ["HSGR", "HSGRoup"]),
    (.isGroup, ["ISGR", "ISGRoup"]), (.sGroup, ["SGR", "SGRoup"])]

def handleCalculate (key : Key) (a : Access) : Handled :=
  if key = .calcTranFreqStat then .done a.transformOnce
  else if key = .calcTranFreqMode then .done (a.keyword .transformMode transformModes)
  else if key = .calcTranFreqFunc then .done (a.functionList .transformFunctions)
  else if key = .calcTranFreqStar then .done (a.number .transformStart 0 1.0e6)
  else if key = .calcTranFreqStop then .done (a.number .transformStop 0 1.0e6)
  else if key = .calcTranFreqCycl then .done a.cycles
  else if key = .calcTranFreqGro then .done (a.keyword .transformGrouping groupings)
  else if key = .calcData then a.transformData
  else if key = .calcDataPre then .done a.transformPreamble
  else if key = .calcDataThd then .done a.transformThd
  else if key = .calcIntStat then .done (a.boolean .integralEnabled)
  else if key = .calcIntFunc then .done (a.functionList .integralFunctions)
  else if key = .calcIntCle then .done (a.commandOnly (a.assign .timerSeconds 0))
  else if key = .calcIntCleAuto then .done (a.boolean .integralAutoClear)
  else if key = .calcIntStarSour then
    .done (a.keyword .integralStartSource
      [(.command, ["CMD"]), (.time, ["TIME"]), (.manual, ["MAN", "MANual"])])
  else if key = .calcIntStopSour then
    .done (a.keyword .integralStopSource
      [(.command, ["CMD"]), (.time, ["TIME"]), (.manual, ["MAN", "MANual"]),
        (.timeInterval, ["TINT", "TINTerval"])])
  else if key = .calcIntStar then .done a.integralStart
  else if key = .calcIntStop then .done (a.commandOnly (a.assign .integralRunning false))
  else if key = .calcIntStarTime ∨ key = .calcIntStopTime then .done a.timestamp
  else if key = .calcIntStopTint then .done (a.number .integralStopInterval 1.0e-3 9.99e6)
  else if key = .calcHarmOrd then .done (a.integer .harmonicOrder 0 100)
  else if key = .calcPowCorr then
    .done (a.keyword .powerCorrection [(.star, ["STAR"]), (.delta, ["DELT", "DELTa"])])
  else if key = .calcPowEffRef then .done a.efficiencyReference
  else .declined

-- One point per averaging cycle for each function, walking down from the measured value.
def recordedValues (points : Nat) (m : SimulatedMeasurement Float) : List Float :=
  (List.range points).map fun point => m.value * (1.0 - 0.001 * Float.ofNat point)

def recordedStatus (points : Nat) (m : SimulatedMeasurement Float) : List Float :=
  List.replicate points (Float.ofInt m.status)

namespace Access

def traceBlock (a : Access) (body : Fin 3 → Handled) : Handled :=
  match a.command.args with
  | [] => .done (a.fail kMissingParameter "Missing parameter;expected <block>")
  | arg :: _ =>
      match parseNumber arg with
      | none => .done (a.illegal arg)
      | some number =>
          if number != 1 && number != 2 then .done (a.illegal arg)
          else body (if number == 1 then 1 else 2)

-- The points of an aperture that is no number are `INT_MIN`, and what is free leaves `int`.
def traceFree (a : Access) : Handled :=
  let free := kTraceCapacity - tracePoints a.sim.state
  if !a.command.query then .done (a.queryOnly a)
  else if free < 2 ^ 31 then .done (a.respond (toText free))
  else .crashes

def tracePreamble (a : Access) (block : Fin 3) : Access :=
  let sweep := a.sim.state.sweep block
  a.respond (join ',' [toText (tracePoints a.sim.state), toText (max sweep.functions.length 1),
    formatSetting a.sim.state.aperture, formatSetting sweep.offsetTime])

def trace (a : Access) (status : Bool) (block : Fin 3) : Handled :=
  let state := a.sim.state
  let sweep := state.sweep block
  let functions := if sweep.functions = [] then state.functions else sweep.functions
  let points := (tracePoints state).toNat
  a.readWindow 1 fun window =>
    .ofResult (measureAll state a.sim.signal functions) fun measurements =>
      if status then
        a.windowed (measurements.flatMap (recordedStatus points)) window formatSetting
      else
        a.windowed (measurements.flatMap (recordedValues points)) window (formatValue state)

end Access

def handleTrace (key : Key) (a : Access) : Handled :=
  let state := a.sim.state
  if key = .tracFree then a.traceFree
  else if key = .tracCatLen then .done (a.queryOnly (a.respond (toText (tracePoints state))))
  else if key = .tracDelAll then
    .done (a.commandOnly ((a.assign (enableSweep 1) false).assign (enableSweep 2) false))
  else if key = .tracPre ∨ key = .trac ∨ key = .tracStat then
    if !a.command.query then .done (a.queryOnly a)
    else a.traceBlock fun block =>
      if key = .tracPre then .done (a.tracePreamble block) else a.trace (key = .tracStat) block
  else .declined

def statusTarget : Key → Option (StatusRegister × RegisterPart)
  | .statOperCond => some (.operation, .condition)
  | .statOperEven => some (.operation, .event)
  | .statOperEnab => some (.operation, .enable)
  | .statOperPtr => some (.operation, .positiveTransition)
  | .statOperNtr => some (.operation, .negativeTransition)
  | .statQuesCond => some (.questionable, .condition)
  | .statQuesEven => some (.questionable, .event)
  | .statQuesEnab => some (.questionable, .enable)
  | .statQuesPtr => some (.questionable, .positiveTransition)
  | .statQuesNtr => some (.questionable, .negativeTransition)
  | .statQuesVoltCond => some (.questionableVoltage, .condition)
  | .statQuesVoltEven => some (.questionableVoltage, .event)
  | .statQuesVoltEnab => some (.questionableVoltage, .enable)
  | .statQuesVoltPtr => some (.questionableVoltage, .positiveTransition)
  | .statQuesVoltNtr => some (.questionableVoltage, .negativeTransition)
  | .statQuesCurrCond => some (.questionableCurrent, .condition)
  | .statQuesCurrEven => some (.questionableCurrent, .event)
  | .statQuesCurrEnab => some (.questionableCurrent, .enable)
  | .statQuesCurrPtr => some (.questionableCurrent, .positiveTransition)
  | .statQuesCurrNtr => some (.questionableCurrent, .negativeTransition)
  | _ => none

namespace Access

def event (a : Access) (reg : StatusRegister) : Access :=
  let latched := { a with sim := a.sim.latchEvent reg }
  let answered := latched.respond (toText (latched.read (registerState reg)).event)
  answered.assign ((registerState reg).focus RegisterState.eventLens) 0

def registerPart (a : Access) (reg : StatusRegister) : RegisterPart → Access
  | .condition => a.queryOnly (a.respond (toText (condition a.sim.state a.sim.signal reg)))
  | .event => a.queryOnly (a.event reg)
  | .enable => a.integer ((registerState reg).focus RegisterState.enableLens) 0 65535
  | .positiveTransition =>
      a.integer ((registerState reg).focus RegisterState.ptransitionLens) 0 65535
  | .negativeTransition =>
      a.integer ((registerState reg).focus RegisterState.ntransitionLens) 0 65535

end Access

def handleStatus (key : Key) (a : Access) : Handled :=
  match statusTarget key with
  | none => .declined
  | some (reg, part) => .done (a.registerPart reg part)

end Norma
