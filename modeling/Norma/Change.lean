import Norma.OneLine
import Norma.Line

namespace Norma

open ErrorCode

def ErrorCode.raised : List Int :=
  [kMissingParameter, kUndefinedHeader, kExecutionError, kSettingsConflict, kDataOutOfRange,
    kIllegalParameterValue]

structure SimulatorOptions.TextsOneLine (options : SimulatorOptions) : Prop where
  manufacturer : OneLine options.identification.manufacturer
  model : OneLine options.identification.model
  serialNumber : OneLine options.identification.serialNumber
  firmwareVersion : OneLine options.identification.firmwareVersion
  scpiVersion : OneLine options.scpiVersion
  optionsResponse : OneLine options.optionsResponse

structure SimulatorState.TextsOneLine (state : State) : Prop where
  syncSource : OneLine state.syncSource
  triggerStartSource : OneLine state.triggerStartSource
  triggerStopSource : OneLine state.triggerStopSource
  language : OneLine state.language
  efficiencyInput : OneLine state.efficiencyInput
  efficiencyOutput : OneLine state.efficiencyOutput
  functions : ∀ name ∈ state.functions, OneLine name
  transformFunctions : ∀ name ∈ state.transformFunctions, OneLine name
  integralFunctions : ∀ name ∈ state.integralFunctions, OneLine name
  displayFunctions : ∀ name ∈ state.displayFunctions, OneLine name
  sweep : ∀ block, ∀ name ∈ (state.sweep block).functions, OneLine name
  errors : ∀ entry ∈ state.errors, OneLine entry.message

structure Access.TextsOneLine (a : Access) : Prop where
  options : a.sim.options.TextsOneLine
  state : a.sim.state.TextsOneLine
  key : OneLine a.command.key
  args : ∀ arg ∈ a.command.args, OneLine arg

theorem Access.TextsOneLine.argument {a : Access} (h : a.TextsOneLine) {index : Nat} {text : Text}
    (harg : a.command.argument index = some text) : OneLine text := by
  unfold Command.argument at harg
  split at harg
  · cases harg
  · next arg hget =>
    split at harg
    · cases harg
    · cases harg
      exact (h.args arg (List.mem_of_getElem? hget)).unquote

inductive ChannelSetting (options : SimulatorOptions) : Setting (ChannelConfig Float) → Ranges → Prop
  where
  | voltage (phase : Fin (kMaxPhase + 1)) :
      ChannelSetting options (Setting.voltage.entry phase) options.voltageRanges
  | current (phase : Fin (kMaxPhase + 1)) :
      ChannelSetting options (Setting.current.entry phase) options.currentRanges

inductive NumberSetting (a : Access) : Setting Float → Float → Float → Prop where
  | gain (channel : Fin (kMaxInputChannel + 1)) :
      NumberSetting a (Setting.gain.entry channel) 0 1.0e12
  | scale {config : Setting (ChannelConfig Float)} {ranges : Ranges}
      (hconfig : ChannelSetting a.sim.options config ranges) :
      NumberSetting a (config.focus ChannelConfig.scaleLens) 0.9 1.0e7
  | aperture (hkey : a.command.key = Key.aper.text) :
      NumberSetting a .aperture kMinAperture kMaxAperture
  | sweepTime (block : Fin 3) :
      NumberSetting a ((Setting.sweep.entry block).focus SweepConfig.timeLens) 1.0e-3 3600
  | sweepOffsetTime (block : Fin 3) :
      NumberSetting a ((Setting.sweep.entry block).focus SweepConfig.offsetTimeLens) (-3600) 3600
  | syncLevel (hkey : a.command.key = Key.syncLev.text) : NumberSetting a .syncLevel
      (-if a.sim.state.syncLevelUnit = .percent then 150 else 1000)
      (if a.sim.state.syncLevelUnit = .percent then 150 else 1000)
  | syncTimeout : NumberSetting a .syncTimeout 0.015 3600
  | triggerStartLevel : NumberSetting a .triggerStartLevel (-1.0e7) 1.0e7
  | triggerStopLevel : NumberSetting a .triggerStopLevel (-1.0e7) 1.0e7
  | transformStart : NumberSetting a .transformStart 0 1.0e6
  | transformStop : NumberSetting a .transformStop 0 1.0e6
  | integralStopInterval : NumberSetting a .integralStopInterval 1.0e-3 9.99e6

inductive IntegerSetting : Setting Int → Int → Int → Prop where
  | eventStatusEnable : IntegerSetting .eventStatusEnable 0 255
  | sweepCount (block : Fin 3) :
      IntegerSetting ((Setting.sweep.entry block).focus SweepConfig.countLens) 1 1000000
  | sweepSparsing (block : Fin 3) :
      IntegerSetting ((Setting.sweep.entry block).focus SweepConfig.sparsingLens) 1 65535
  | harmonicOrder : IntegerSetting .harmonicOrder 0 100
  | gpibAddress : IntegerSetting .gpibAddress 1 30
  | serialBaud : IntegerSetting .serialBaud 1200 115200

inductive MaskSetting : StatusRegister → Setting Int → Prop where
  | enable (reg : StatusRegister) :
      MaskSetting reg ((registerState reg).focus RegisterState.enableLens)
  | positiveTransition (reg : StatusRegister) :
      MaskSetting reg ((registerState reg).focus RegisterState.ptransitionLens)
  | negativeTransition (reg : StatusRegister) :
      MaskSetting reg ((registerState reg).focus RegisterState.ntransitionLens)

inductive BooleanSetting (options : SimulatorOptions) : Setting Bool → Prop where
  | filter (channel : Fin (kMaxInputChannel + 1)) :
      BooleanSetting options (Setting.filter.entry channel)
  | autorange {config : Setting (ChannelConfig Float)} {ranges : Ranges}
      (hconfig : ChannelSetting options config ranges) :
      BooleanSetting options (config.focus ChannelConfig.autorangeLens)
  | syncEnabled : BooleanSetting options .syncEnabled
  | syncFilter : BooleanSetting options .syncFilter
  | continuous : BooleanSetting options .continuous
  | integralAutoClear : BooleanSetting options .integralAutoClear
  | transpose : BooleanSetting options .transpose
  | displayEnabled : BooleanSetting options .displayEnabled
  | outputEnabled : BooleanSetting options .outputEnabled

inductive KeywordSetting : {A : Type} → Setting A → Prop where
  | coupling (channel : Fin (kMaxInputChannel + 1)) : KeywordSetting (Setting.coupling.entry channel)
  | shunt (channel : Fin (kMaxInputChannel + 1)) : KeywordSetting (Setting.shunt.entry channel)
  | syncSlope : KeywordSetting .syncSlope
  | triggerStartSlope : KeywordSetting .triggerStartSlope
  | triggerStopSlope : KeywordSetting .triggerStopSlope
  | transformMode : KeywordSetting .transformMode
  | transformGrouping : KeywordSetting .transformGrouping
  | integralStartSource : KeywordSetting .integralStartSource
  | integralStopSource : KeywordSetting .integralStopSource
  | powerCorrection : KeywordSetting .powerCorrection
  | byteOrder : KeywordSetting .byteOrder
  | keyLock : KeywordSetting .keyLock

inductive FunctionsSetting : Setting (List Text) → Prop where
  | sweep (block : Fin 3) :
      FunctionsSetting ((Setting.sweep.entry block).focus SweepConfig.functionsLens)
  | transform : FunctionsSetting .transformFunctions
  | integral : FunctionsSetting .integralFunctions
  | display : FunctionsSetting .displayFunctions

inductive SourceSetting : Setting Text → Prop where
  | start : SourceSetting .triggerStartSource
  | stop : SourceSetting .triggerStopSource

inductive FormatPair : Key → Setting DataFormatSetting → Setting DataFormatSetting →
    DataFormat → Prop where
  | data : FormatPair .form .dataFormat .statusFormat .integer
  | status : FormatPair .formStat .statusFormat .dataFormat .real

def levelUnits : List (LevelUnit × List Text) :=
  [(.absolute, ["ABS", "ABSolute"]), (.percent, ["PCT", "PERCent"])]

namespace Access

def AddressesNumber (a : Access) : Prop :=
  let key := a.command.key
  let suffix := a.command.suffix
  key ∈ [Key.aper, .syncLev, .syncTim, .trigStarLev, .trigStopLev, .calcTranFreqStar,
      .calcTranFreqStop, .calcIntStopTint].map Key.text ∨
    (key = Key.inpGain.text ∧ 1 ≤ suffix ∧ suffix ≤ a.sim.options.channels ∧ suffix % 2 ≠ 0) ∨
    (key ∈ [Key.voltScal, .currScal].map Key.text ∧ 1 ≤ suffix ∧ suffix ≤ kMaxPhase) ∨
    (key ∈ [Key.sweTime, .sweOffsTime].map Key.text ∧ 1 ≤ suffix ∧ suffix ≤ 2)

def Given (a : Access) (value : Float) : Prop :=
  ∃ text, a.command.argument = some text ∧ parseNumber text = some value

def GivenInt (a : Access) (value : Int) : Prop := ∃ number, a.Given number ∧ toInt number = value

def GivenBool (a : Access) (value : Bool) : Prop :=
  ∃ text, a.command.argument = some text ∧ parseBoolean text = some value

def GivenUnit (a : Access) (unit : LevelUnit) : Prop :=
  ∃ text names, a.command.argument = some text ∧
    levelUnits.find? (fun s => s.2.any fun name => upper text = upper name) = some (unit, names)

theorem number_given {a : Access} {f : Setting Float} {min max value : Float}
    (hset : a.command.query = false) (hgiven : a.Given value)
    (hrange : ¬(value < min ∨ max < value)) : a.number f min max = a.assign f value := by
  obtain ⟨text, hargument, hparse⟩ := hgiven
  simp only [Access.number, hset, Access.parameter, hargument, hparse, hrange]
  rfl

theorem unit_given {a : Access} {unit : LevelUnit} (hset : a.command.query = false)
    (hgiven : a.GivenUnit unit) :
    a.keyword .syncLevelUnit levelUnits = a.assign .syncLevelUnit unit := by
  obtain ⟨text, names, hargument, hfind⟩ := hgiven
  simp only [Access.keyword, hset, Access.parameter, hargument, hfind]
  rfl

-- A length that is not given is the one in use.
def GivenFormat (a : Access) (current : Int) (format : DataFormat) (length : Int) : Prop :=
  (∃ text, a.command.argument = some text ∧ formatOf text = some format) ∧
    match a.command.args[1]? with
    | none => length = current
    | some arg => ∃ number, parseNumber arg = some number ∧ toInt number = length

def AddressesBlock (a : Access) (block : Fin 3) : Prop :=
  block ≠ 0 ∧ a.command.suffix = (block.val : Int)

def StartsBlock (a : Access) (block : Fin 3) : Prop :=
  (a.command.key = Key.initSeq.text ∧ a.AddressesBlock block) ∨
    (a.command.key = Key.initName.text ∧ block = 1)

def GivenThree (a : Access) (first second third : Float) : Prop :=
  ∃ x y z rest, a.command.args = x :: y :: z :: rest ∧ parseNumber x = some first ∧
    parseNumber y = some second ∧ parseNumber z = some third

end Access

inductive Stored (a : Access) : State → Prop where
  | unchanged : Stored a a.sim.state
  | number {f : Setting Float} {min max value : Float} (hsetting : NumberSetting a f min max)
      (hlow : ¬value < min) (hhigh : ¬max < value) (haddress : a.AddressesNumber)
      (hgiven : a.Given value) : Stored a (f.set a.sim.state value)
  | longestSweep (block : Fin 3) :
      Stored a (((Setting.sweep.entry block).focus SweepConfig.timeLens).set a.sim.state 3600)
  | integer {f : Setting Int} {min max value : Int} (hsetting : IntegerSetting f min max)
      (hlow : min ≤ value) (hhigh : value ≤ max) : Stored a (f.set a.sim.state value)
  | serviceRequestEnable {value : Int} (hlow : 0 ≤ value) (hhigh : value ≤ 255)
      (hkey : a.command.key = "*SRE") (hgiven : a.GivenInt value) :
      Stored a (Setting.serviceRequestEnable.set a.sim.state value)
  | mask {reg : StatusRegister} {f : Setting Int} {value : Int} (hsetting : MaskSetting reg f)
      (hlow : 0 ≤ value) (hhigh : value ≤ 65535) : Stored a (f.set a.sim.state value)
  | boolean {f : Setting Bool} (hsetting : BooleanSetting a.sim.options f) (value : Bool) :
      Stored a (f.set a.sim.state value)
  | keyword {A : Type} {f : Setting A} (hsetting : KeywordSetting f) (value : A) :
      Stored a (f.set a.sim.state value)
  | integralState {value : Bool} (hkey : a.command.key = Key.calcIntStat.text)
      (hgiven : a.GivenBool value) : Stored a (Setting.integralEnabled.set a.sim.state value)
  | syncLevelUnit {unit : LevelUnit} (hkey : a.command.key = Key.syncLevUnit.text)
      (hgiven : a.GivenUnit unit) : Stored a (Setting.syncLevelUnit.set a.sim.state unit)
  | functionList {f : Setting (List Text)} {names : List Text} (hsetting : FunctionsSetting f)
      (hread : readFunctions a.command.args = .ok names) : Stored a (f.set a.sim.state names)
  | functions {names : List Text} (hkey : a.command.key = Key.func.text)
      (hread : readFunctions a.command.args = .ok names)
      (hroom : a.sim.state.concurrent = true ∨ names.length ≤ 1) :
      Stored a (Setting.functions.set a.sim.state names)
  | allFunctions (hkey : a.command.key = Key.funcAll.text) :
      Stored a (Setting.functions.set a.sim.state allFunctions)
  | noFunctions : Stored a (Setting.functions.set a.sim.state [])
  | concurrent {value : Bool}
      (hroom : a.sim.state.concurrent = true → value = false → a.sim.state.functions.length ≤ 1) :
      Stored a (Setting.concurrent.set a.sim.state value)
  | oneFunction (hon : a.sim.state.concurrent = true) :
      Stored a (Setting.functions.set (Setting.concurrent.set a.sim.state false)
        (a.sim.state.functions.take 1))
  | range {config : Setting (ChannelConfig Float)} {ranges : Ranges} {range : Float}
      (hconfig : ChannelSetting a.sim.options config ranges) (hrange : range ∈ ranges.values) :
      Stored a (config.set a.sim.state
        { config.get a.sim.state with range := range, autorange := false })
  | wiringSystem (value : WiringSystem) : Stored a (Setting.wiringSystem.set a.sim.state value)
  | syncSource {text source : Text} (hsource : syncSourceOf text = some source) :
      Stored a (Setting.syncSource.set a.sim.state source)
  | syncFilterFrequency {value : Float} (hvalue : value ∈ ([100, 1.0e3, 1.0e4] : List Float)) :
      Stored a (Setting.syncFilterFrequency.set a.sim.state value)
  | source {f : Setting Text} {text : Text} (hsetting : SourceSetting f)
      (hargument : a.command.argument = some text) : Stored a (f.set a.sim.state (upper text))
  | language {text : Text} (hargument : a.command.argument = some text) :
      Stored a (Setting.language.set a.sim.state text)
  | efficiency {input output : Text} {rest : List Text}
      (hkey : a.command.key = Key.calcPowEffRef.text)
      (hargs : a.command.args = input :: output :: rest) :
      Stored a (Setting.efficiency.set a.sim.state (upper (unquote input), upper (unquote output)))
  | initiated : Stored a (Setting.initiated.set a.sim.state true)
  | sweepState {block : Fin 3} {value : Bool} (hkey : a.command.key = Key.sweStat.text)
      (hblock : a.AddressesBlock block) (hgiven : a.GivenBool value) :
      Stored a ((enableSweep block).set a.sim.state value)
  | sequence {block : Fin 3} (hstarts : a.StartsBlock block) :
      Stored a ((enableSweep block).set a.sim.state true)
  | abort : Stored a ((enableSweep 2).set ((enableSweep 1).set
      (Setting.initiated.set a.sim.state false) false) false)
  | deleteAll : Stored a ((enableSweep 2).set ((enableSweep 1).set a.sim.state false) false)
  | format {key : Key} {f g : Setting DataFormatSetting} {fallback : DataFormat}
      (hsetting : FormatPair key f g fallback) (hkey : a.command.key = key.text)
      {format : DataFormat} {length : Int}
      (hgiven : a.GivenFormat (f.get a.sim.state).length format length) :
      Stored a (g.set (f.set a.sim.state ⟨format, length⟩)
        (coupled (format ≠ .ascii) fallback (g.get (f.set a.sim.state ⟨format, length⟩))))
  | transformCycles {value : Int} (hvalue : value ∈ ([4, 6, 8, 10, 12] : List Int)) :
      Stored a (Setting.transformCycles.set a.sim.state value)
  | timer : Stored a (Setting.timerSeconds.set a.sim.state 0)
  | integralStart (henabled : a.sim.state.integralEnabled = true) :
      Stored a (Setting.integralRunning.set a.sim.state true)
  | integralStop : Stored a (Setting.integralRunning.set a.sim.state false)
  | savedSetup (slot : Fin 25) : Stored a ((Setting.savedSetups.entry slot).set a.sim.state true)
  | date {year month day : Float} (hkey : a.command.key = Key.systDate.text)
      (hgiven : a.GivenThree year month day)
      (hrange : ¬(month < 1 ∨ 12 < month ∨ day < 1 ∨ 31 < day)) :
      Stored a (Setting.date.set a.sim.state ⟨CNumber.truncInt32 year, CNumber.truncInt32 month,
        CNumber.truncInt32 day⟩)
  | time {hours minutes seconds : Float} (hkey : a.command.key = Key.systTime.text)
      (hgiven : a.GivenThree hours minutes seconds)
      (hrange : ¬(hours < 0 ∨ 23 < hours ∨ minutes < 0 ∨ 59 < minutes ∨ seconds < 0 ∨
        59 < seconds)) :
      Stored a (Setting.time.set a.sim.state ⟨CNumber.truncInt32 hours,
        CNumber.truncInt32 minutes, CNumber.truncInt32 seconds⟩)

def eventKey : StatusRegister → Key
  | .operation => .statOperEven
  | .questionable => .statQuesEven
  | .questionableVoltage => .statQuesVoltEven
  | .questionableCurrent => .statQuesCurrEven

inductive Change (a : Access) : Access → Prop where
  | rejected (code : Int) (message : Text) (hcode : code ∈ raised)
      (hmessage : a.TextsOneLine → OneLine message) : Change a (a.fail code message)
  | answered (text : Text) (hquery : a.command.query = true)
      (htext : a.TextsOneLine → OneLine text) : Change a (a.respond text)
  | measured {names : List Text} (text : Text) (hquery : a.command.query = true)
      (hread : readFunctions a.command.args = .ok names) (htext : OneLine text)
      (hkey : a.command.key = Key.data.text ∨ a.command.key = Key.dataStat.text)
      (hargs : a.command.args ≠ []) :
      Change a ((a.assign .functions names).respond text)
  | stored {state : State} (hset : a.command.query = false) (hstored : Stored a state) :
      Change a (a.update fun _ => state)
  | reset (hkey : a.command.key = "*RST") (hset : a.command.query = false) : Change a a.reset
  | clearStatus (hkey : a.command.key = "*CLS") (hset : a.command.query = false) :
      Change a a.clearStatus
  | operationComplete (hkey : a.command.key = "*OPC") (hset : a.command.query = false) :
      Change a a.operationComplete
  | readEventStatus (hkey : a.command.key = "*ESR") (hquery : a.command.query = true) :
      Change a a.readEventStatus
  | statusByte (hkey : a.command.key = "*STB") (hquery : a.command.query = true) :
      Change a a.statusByte
  | event (reg : StatusRegister) (hkey : a.command.key = (eventKey reg).text)
      (hquery : a.command.query = true) : Change a (a.event reg)
  | nextError (hkey : a.command.key = Key.systErr.text) (hquery : a.command.query = true) :
      Change a a.nextError
  | allErrors (hkey : a.command.key = Key.systErrAll.text) (hquery : a.command.query = true) :
      Change a a.allErrors

namespace Change

variable {a : Access}

theorem fail {code : Int} {message : Text} (hcode : code ∈ raised)
    (hmessage : a.TextsOneLine → OneLine message) : Change a (a.fail code message) :=
  .rejected code message hcode hmessage

theorem failFixed {code : Int} {message : Text} (hcode : code ∈ raised)
    (hmessage : OneLine message) : Change a (a.fail code message) :=
  .rejected code message hcode fun _ => hmessage

theorem illegal {text : Text} (htext : a.TextsOneLine → OneLine text) :
    Change a (a.illegal text) :=
  fail (by decide) fun h => OneLine.append_iff.mpr ⟨by decide, htext h⟩

theorem outOfRange {text : Text} (htext : a.TextsOneLine → OneLine text) :
    Change a (a.outOfRange text) :=
  fail (by decide) fun h => OneLine.append_iff.mpr ⟨by decide, htext h⟩

theorem missing {detail : Text} (hdetail : OneLine detail) :
    Change a (a.fail kMissingParameter detail) :=
  failFixed (by decide) hdetail

theorem respond (hquery : a.command.query = true) {text : Text} (htext : OneLine text) :
    Change a (a.respond text) :=
  .answered text hquery fun _ => htext

theorem unchanged (hset : a.command.query = false) : Change a a := .stored hset .unchanged

theorem assign {A : Type} (hset : a.command.query = false) {f : Setting A} {v : A}
    (hstored : Stored a (f.set a.sim.state v)) : Change a (a.assign f v) :=
  .stored hset hstored

theorem parameter {body : Text → Access}
    (hbody : ∀ text, a.command.argument = some text → Change a (body text)) :
    Change a (a.parameter body) := by
  unfold Access.parameter
  split
  · exact missing (by decide)
  · next text hargument => exact hbody text hargument

theorem queryOnly {body : Access} (hbody : a.command.query = true → Change a body) :
    Change a (a.queryOnly body) := by
  unfold Access.queryOnly
  split
  · next hquery => exact hbody hquery
  · exact fail (by decide) fun h => OneLine.append_iff.mpr ⟨by decide, h.key⟩

theorem commandOnly {body : Access} (hbody : a.command.query = false → Change a body) :
    Change a (a.commandOnly body) := by
  unfold Access.commandOnly
  split
  · exact fail (by decide) fun h => OneLine.append_iff.mpr
      ⟨OneLine.append_iff.mpr ⟨by decide, h.key⟩, by decide⟩
  · next hset => exact hbody (by simpa using hset)

theorem queryOr {answer setting : Access} (hanswer : a.command.query = true → Change a answer)
    (hsetting : a.command.query = false → Change a setting) :
    Change a (if a.command.query then answer else setting) := by
  split
  · next hquery => exact hanswer hquery
  · next hset => exact hsetting (by simpa using hset)

theorem answerOr {text : Text} {setting : Access} (htext : a.TextsOneLine → OneLine text)
    (hsetting : a.command.query = false → Change a setting) :
    Change a (if a.command.query then a.respond text else setting) :=
  queryOr (fun hquery => .answered text hquery htext) hsetting

theorem number {f : Setting Float} {min max : Float} (hsetting : NumberSetting a f min max)
    (haddress : a.AddressesNumber) : Change a (a.number f min max) := by
  refine answerOr (fun _ => .formatSetting _) fun hset => parameter fun text hargument => ?_
  split
  · exact illegal fun h => h.argument hargument
  · next value hparse =>
    split
    · exact outOfRange fun h => h.argument hargument
    · next hrange =>
      rw [not_or] at hrange
      exact assign hset (.number hsetting hrange.1 hrange.2 haddress ⟨text, hargument, hparse⟩)

theorem readInteger {min max : Int} {body : Int → Access}
    (hbody : ∀ value, min ≤ value → value ≤ max → a.GivenInt value → Change a (body value)) :
    Change a (a.readInteger min max body) := by
  refine parameter fun text hargument => ?_
  split
  · exact illegal fun h => h.argument hargument
  · next number hparse =>
    dsimp only
    split
    · exact outOfRange fun h => h.argument hargument
    · next hrange =>
      rw [not_or, Int.not_lt, Int.not_lt] at hrange
      exact hbody _ hrange.1 hrange.2 ⟨number, ⟨text, hargument, hparse⟩, rfl⟩

theorem integer {f : Setting Int} {min max : Int}
    (hstored : ∀ value, min ≤ value → value ≤ max → a.GivenInt value →
      Stored a (f.set a.sim.state value)) :
    Change a (a.integer f min max) :=
  answerOr (fun _ => .toText _) fun hset => readInteger fun value hlow hhigh hgiven =>
    assign hset (hstored value hlow hhigh hgiven)

theorem integerSetting {f : Setting Int} {min max : Int} (hsetting : IntegerSetting f min max) :
    Change a (a.integer f min max) :=
  integer fun _ hlow hhigh _ => .integer hsetting hlow hhigh

theorem mask {reg : StatusRegister} {f : Setting Int} (hsetting : MaskSetting reg f) :
    Change a (a.integer f 0 65535) :=
  integer fun _ hlow hhigh _ => .mask hsetting hlow hhigh

theorem booleanOf {f : Setting Bool}
    (hstored : ∀ value, a.GivenBool value → Stored a (f.set a.sim.state value)) :
    Change a (a.boolean f) := by
  refine answerOr (fun _ => .formatBool _) fun hset => parameter fun text hargument => ?_
  split
  · exact illegal fun h => h.argument hargument
  · next value hparse => exact assign hset (hstored value ⟨text, hargument, hparse⟩)

theorem boolean {f : Setting Bool} (hsetting : BooleanSetting a.sim.options f) :
    Change a (a.boolean f) :=
  booleanOf fun _ _ => .boolean hsetting _

theorem keywordOf {A : Type} [DecidableEq A] {f : Setting A} {spellings : List (A × List Text)}
    (hspellings : spellings.all (fun s => (s.2.headD []).all isLineChar) = true)
    (hstored : ∀ text value names, a.command.argument = some text →
      spellings.find? (fun s => s.2.any fun name => upper text = upper name) = some (value, names) →
      Stored a (f.set a.sim.state value)) :
    Change a (a.keyword f spellings) := by
  refine answerOr (fun _ => ?_) fun hset => parameter fun text hargument => ?_
  · cases hfind : spellings.find? (·.1 = a.read f) with
    | none => exact .nil
    | some spelling =>
      exact List.all_eq_true.mp hspellings spelling (List.mem_of_find?_eq_some hfind)
  · split
    · exact illegal fun h => h.argument hargument
    · next value names hfind => exact assign hset (hstored text value names hargument hfind)

theorem keyword {A : Type} [DecidableEq A] {f : Setting A} {spellings : List (A × List Text)}
    (hsetting : KeywordSetting f)
    (hspellings : spellings.all (fun s => (s.2.headD []).all isLineChar) = true) :
    Change a (a.keyword f spellings) :=
  keywordOf hspellings fun _ _ _ _ _ => .keyword hsetting _

theorem readFunctionList {body : List Text → Access}
    (hbody : ∀ names, readFunctions a.command.args = .ok names → Change a (body names)) :
    Change a (a.readFunctionList id body) := by
  unfold Access.readFunctionList
  split
  · exact missing (by decide)
  · split
    · next raw hread => exact illegal fun h => .readFunctions_error h.args hread
    · next names hread => exact hbody names hread

theorem functionList {f : Setting (List Text)} (hsetting : FunctionsSetting f)
    (hnames : a.TextsOneLine → ∀ name ∈ f.get a.sim.state, OneLine name) :
    Change a (a.functionList f) :=
  answerOr (fun h => .quoteJoin (hnames h)) fun hset => readFunctionList fun _ hread =>
    assign hset (.functionList hsetting hread)

theorem range {config : Setting (ChannelConfig Float)} {ranges : Ranges}
    (hconfig : ChannelSetting a.sim.options config ranges) : Change a (a.range config ranges) := by
  refine answerOr (fun _ => .formatSetting _) fun hset => parameter fun text hargument => ?_
  split
  · exact illegal fun h => h.argument hargument
  · next value _ =>
    split
    · exact outOfRange fun h => h.argument hargument
    · refine assign hset (.range hconfig ?_)
      cases hfind : ranges.values.find? fun candidate => value * 0.999 ≤ candidate with
      | none => exact List.getLast_mem ranges.values_ne
      | some range => exact List.mem_of_find?_eq_some hfind

theorem functions (hkey : a.command.key = Key.func.text) : Change a a.functions := by
  refine answerOr (fun h => .quoteJoin h.state.functions) fun hset =>
    readFunctionList fun names hread => ?_
  split
  · exact failFixed (by decide) (by decide)
  · next hroom =>
    refine assign hset (.functions hkey hread ?_)
    simpa [Nat.not_lt, or_iff_not_imp_left] using hroom

theorem fail_concurrent (a : Access) (code : Int) (message : Text) :
    (a.fail code message).sim.state.concurrent = a.sim.state.concurrent := by
  simp only [Access.fail, Access.update, SimulatorState.pushError]
  split <;> rfl

-- A truncated list follows a switch that went through, never a rejected one.
theorem concurrent : Change a a.concurrent := by
  unfold Access.concurrent
  dsimp only
  cases hquery : a.command.query with
  | true =>
    have hanswer : a.boolean .concurrent = a.respond (formatBool (a.read .concurrent)) := by
      simp [Access.boolean, hquery]
    rw [hanswer, if_neg (by simp)]
    exact respond hquery (.formatBool _)
  | false =>
    cases hargument : a.command.argument with
    | none =>
      have hfail : a.boolean .concurrent = a.fail kMissingParameter "Missing parameter" := by
        simp [Access.boolean, Access.parameter, hquery, hargument]
      rw [hfail, fail_concurrent, if_neg (by simp)]
      exact missing (by decide)
    | some text =>
      cases hparse : parseBoolean text with
      | none =>
        have hfail : a.boolean .concurrent = a.illegal text := by
          simp [Access.boolean, Access.parameter, hquery, hargument, hparse]
        rw [hfail, Access.illegal, fail_concurrent, if_neg (by simp)]
        exact illegal fun h => h.argument hargument
      | some value =>
        have hassign : a.boolean .concurrent = a.assign .concurrent value := by
          simp [Access.boolean, Access.parameter, hquery, hargument, hparse]
        rw [hassign]
        split
        · next hoff =>
          simp only [Bool.and_eq_true, Bool.not_eq_true', decide_eq_true_eq] at hoff
          obtain ⟨⟨⟨-, hon⟩, hvalue⟩, -⟩ := hoff
          obtain rfl : value = false := hvalue
          exact .stored hquery (.oneFunction hon)
        · next hroom =>
          refine assign hquery (.concurrent fun hon hvalue => ?_)
          subst hvalue
          by_contra hmany
          have hlong : 1 < a.sim.state.functions.length := by omega
          refine hroom ?_
          rw [hon]
          exact decide_eq_true hlong

theorem syncFilterFrequency : Change a a.syncFilterFrequency := by
  refine answerOr (fun _ => .formatSetting _) fun hset => parameter fun text hargument => ?_
  split
  · exact illegal fun h => h.argument hargument
  · split
    · exact illegal fun h => h.argument hargument
    · next allowed hfind =>
      exact assign hset (.syncFilterFrequency (List.mem_of_find?_eq_some hfind))

theorem triggerSource {f : Setting Text} (hsetting : SourceSetting f)
    (htext : a.TextsOneLine → OneLine (f.get a.sim.state)) : Change a (a.triggerSource f) :=
  answerOr htext fun hset => parameter fun _ hargument =>
    assign hset (.source hsetting hargument)

theorem startSequence {block : Int}
    (hstarts : 1 ≤ block → block ≤ 2 → a.StartsBlock (Fin.ofNat _ block.toNat)) :
    Change a (a.startSequence block) := by
  refine commandOnly fun hset => ?_
  split
  · exact outOfRange fun _ => OneLine.append_iff.mpr ⟨by decide, .toText _⟩
  · next hblock =>
    rw [not_or, Int.not_lt, Int.not_lt] at hblock
    exact assign hset (.sequence (hstarts hblock.1 hblock.2))

theorem timestamp : Change a a.timestamp := by
  refine commandOnly fun hset => ?_
  split
  · exact missing (by decide)
  · exact unchanged hset

theorem format {key : Key} {f g : Setting DataFormatSetting} {fallback : DataFormat}
    (hpair : FormatPair key f g fallback) (hkey : a.command.key = key.text) :
    Change a (a.format f g fallback) := by
  refine answerOr (fun _ => ?_) fun hset => parameter fun text hargument => ?_
  · have hname : OneLine (formatText (a.read f).format) := by
      cases (a.read f).format <;> decide
    exact OneLine.append_iff.mpr ⟨OneLine.append_iff.mpr ⟨hname, by decide⟩, .toText _⟩
  · split
    · exact illegal fun h => h.argument hargument
    · next format hformat =>
      split
      · next hshort =>
        exact .stored hset (.format hpair hkey
          ⟨⟨text, hargument, hformat⟩, by rw [hshort]; rfl⟩)
      · next arg harg =>
        split
        · exact illegal fun h => h.args arg (List.mem_of_getElem? harg)
        · next parsed hparse =>
          exact .stored hset (.format hpair hkey
            ⟨⟨text, hargument, hformat⟩, by rw [harg]; exact ⟨parsed, hparse, rfl⟩⟩)

theorem operationCompleteOr (hkey : a.command.key = "*OPC") : Change a a.operationComplete := by
  cases hquery : a.command.query with
  | true =>
    have hanswer : a.operationComplete = a.respond "1" := by simp [Access.operationComplete, hquery]
    rw [hanswer]
    exact respond hquery (by decide)
  | false => exact .operationComplete hkey hquery

theorem saveSetup (hset : a.command.query = false) : Change a a.saveSetup :=
  readInteger fun _ _ _ _ => assign hset (.savedSetup _)

theorem recallSetup (hset : a.command.query = false) : Change a a.recallSetup := by
  refine readInteger fun slot _ _ _ => ?_
  split
  · exact outOfRange fun _ => by decide
  · exact unchanged hset

theorem identification (hquery : a.command.query = true) : Change a a.identification := by
  refine .answered _ hquery fun h => .joinCommas fun value hvalue => ?_
  simp only [List.mem_cons, List.not_mem_nil, or_false] at hvalue
  rcases hvalue with rfl | rfl | rfl | rfl
  · exact h.options.manufacturer
  · exact h.options.model
  · exact h.options.serialNumber
  · exact h.options.firmwareVersion

theorem learn (hquery : a.command.query = true) : Change a a.learn :=
  .answered _ hquery fun h => .quote (OneLine.append_iff.mpr
    ⟨OneLine.append_iff.mpr ⟨OneLine.append_iff.mpr ⟨by decide, .quoteJoin h.state.functions⟩,
      by decide⟩, .formatSetting _⟩)

theorem integers (values : List Int) : OneLine (join ',' (values.map toText)) := by
  refine .joinCommas fun text htext => ?_
  obtain ⟨value, -, rfl⟩ := List.mem_map.mp htext
  exact .toText value

theorem date (hkey : a.command.key = Key.systDate.text) : Change a a.date := by
  have hname : a.TextsOneLine → OneLine ("SYSTem:DATE" : Text) := fun _ => by decide
  refine answerOr (fun _ => integers [_, _, _]) fun hset => ?_
  split
  · next x y z rest hargs =>
    split
    · next hx hy hz =>
      split
      · exact outOfRange hname
      · next hrange => exact assign hset (.date hkey ⟨x, y, z, rest, hargs, hx, hy, hz⟩ hrange)
    · exact illegal hname
  · exact missing (by decide)

theorem time (hkey : a.command.key = Key.systTime.text) : Change a a.time := by
  have hname : a.TextsOneLine → OneLine ("SYSTem:TIME" : Text) := fun _ => by decide
  refine answerOr (fun _ => integers [_, _, _]) fun hset => ?_
  split
  · next x y z rest hargs =>
    split
    · next hx hy hz =>
      split
      · exact outOfRange hname
      · next hrange => exact assign hset (.time hkey ⟨x, y, z, rest, hargs, hx, hy, hz⟩ hrange)
    · exact illegal hname
  · exact missing (by decide)

theorem transformOnce : Change a a.transformOnce := by
  refine queryOr (fun _ => failFixed (by decide) (by decide)) fun hset =>
    parameter fun text hargument => ?_
  split
  · exact unchanged hset
  · exact illegal fun h => h.argument hargument

theorem cycles : Change a a.cycles := by
  refine answerOr (fun _ => .toText _) fun hset => readInteger fun value _ _ _ => ?_
  split
  · exact illegal fun _ => .toText _
  · next hvalue => exact assign hset (.transformCycles (by simp; omega))

theorem transformPreamble : Change a a.transformPreamble := by
  refine queryOnly fun hquery => respond hquery (.joinCommas fun text htext => ?_)
  simp only [List.mem_cons, List.not_mem_nil, or_false] at htext
  rcases htext with rfl | rfl | rfl | rfl
  · exact .toText _
  · exact .toText _
  · exact .formatSetting _
  · exact .formatSetting _

theorem transformThd : Change a a.transformThd := by
  refine queryOnly fun hquery => ?_
  split
  · exact failFixed (by decide) (by decide)
  · exact respond hquery (.joinValues _)

theorem integralStart : Change a a.integralStart := by
  refine commandOnly fun hset => ?_
  split
  · exact failFixed (by decide) (by decide)
  · next henabled => exact assign hset (.integralStart (by simpa using henabled))

theorem efficiencyReference (hkey : a.command.key = Key.calcPowEffRef.text) :
    Change a a.efficiencyReference := by
  unfold Access.efficiencyReference
  dsimp only
  split
  · exact fail (by decide) fun _ => OneLine.append_iff.mpr ⟨by decide, .toText _⟩
  · refine answerOr (fun h => ?_) fun hset => ?_
    · exact OneLine.append_iff.mpr ⟨OneLine.append_iff.mpr
        ⟨h.state.efficiencyInput.quote, by decide⟩, h.state.efficiencyOutput.quote⟩
    · split
      · next input output rest hargs => exact .stored hset (.efficiency hkey hargs)
      · exact missing (by decide)

theorem registerPart {reg : StatusRegister} {part : RegisterPart}
    (hkey : part = .event → a.command.key = (eventKey reg).text) :
    Change a (a.registerPart reg part) := by
  cases part with
  | condition => exact queryOnly fun hquery => respond hquery (.toText _)
  | event => exact queryOnly fun hquery => .event reg (hkey rfl) hquery
  | enable => exact mask (.enable reg)
  | positiveTransition => exact mask (.positiveTransition reg)
  | negativeTransition => exact mask (.negativeTransition reg)

end Change

end Norma
