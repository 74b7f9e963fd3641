import Norma.Access

namespace Norma

open ErrorCode

namespace Access

def reset (a : Access) : Access := { a with sim := a.sim.reset }

def clearStatus (a : Access) : Access := { a with sim := a.sim.clearStatus }

def statusByte (a : Access) : Access :=
  let latched := { a with sim := a.sim.latchEvent .questionable }
  let state := latched.sim.state
  let stb := setIf (state.errors ≠ []) statusErrorQueueNotEmpty 0
  let stb := setIf (Int.land state.questionable.event state.questionable.enable ≠ 0)
    statusQuestionableSummary stb
  let stb := setIf (Int.land state.eventStatus state.eventStatusEnable ≠ 0)
    statusEventStatusSummary stb
  let stb := setIf (Int.land stb state.serviceRequestEnable ≠ 0) statusMasterStatusSummary stb
  latched.respond (toText stb)

end Access

namespace Access

def identification (a : Access) : Access :=
  let id := a.sim.options.identification
  a.respond (join ',' [id.manufacturer, id.model, id.serialNumber, id.firmwareVersion])

def learn (a : Access) : Access :=
  let state := a.sim.state
  a.respond (quote
    ("FUNC " ++ quoteJoin state.functions ++ ";APER " ++ formatSetting state.aperture))

def operationComplete (a : Access) : Access :=
  if a.command.query then a.respond "1"
  else a.update fun state => { state with eventStatus := Int.lor state.eventStatus (2 ^ 0) }

def readEventStatus (a : Access) : Access :=
  (a.respond (toText a.sim.state.eventStatus)).update fun state => { state with eventStatus := 0 }

def saveSetup (a : Access) : Access :=
  a.readInteger 10 24 fun slot =>
    a.assign (Setting.savedSetups.entry (Fin.ofNat _ slot.toNat)) true

def recallSetup (a : Access) : Access :=
  a.readInteger 1 24 fun slot => if 2 < slot ∧ slot < 10 then a.outOfRange "*RCL" else a

end Access

def handleCommon (key : Text) (a : Access) : Handled :=
  if key = "*IDN" then .done (a.queryOnly a.identification)
  else if key = "*RST" then .done (a.commandOnly a.reset)
  else if key = "*CLS" then .done (a.commandOnly a.clearStatus)
  else if key = "*OPT" then .done (a.queryOnly (a.respond a.sim.options.optionsResponse))
  else if key = "*LRN" then .done (a.queryOnly a.learn)
  else if key = "*OPC" then .done a.operationComplete
  else if key = "*WAI" then .done (a.commandOnly a)
  else if key = "*TRG" then .done (a.commandOnly (a.assign .initiated true))
  else if key = "*ESE" then .done (a.integer .eventStatusEnable 0 255)
  else if key = "*ESR" then .done (a.queryOnly a.readEventStatus)
  else if key = "*SRE" then .done (a.integer .serviceRequestEnable 0 255)
  else if key = "*STB" then .done (a.queryOnly a.statusByte)
  else if key = "*SAV" then .done (a.commandOnly a.saveSetup)
  else if key = "*RCL" then .done (a.commandOnly a.recallSetup)
  else .declined

def handleRoute (key : Key) (a : Access) : Handled :=
  if key = .routSyst then
    .done (if a.command.query then
        a.respond (if a.sim.state.wiringSystem = .twoWattmeter then "\"2W\"" else "\"3W\"")
      else a.parameter fun text =>
        if upper text = "3W" then a.assign .wiringSystem .threeWattmeter
        else if upper text = "2W" then a.assign .wiringSystem .twoWattmeter
        else a.illegal text)
  else .declined

def Key.isInput (key : Key) : Bool :=
  key = .inpCoup ∨ key = .inpGain ∨ key = .inpFiltFreq ∨ key = .inpFiltStat ∨ key = .inpShun

def handleInput (key : Key) (a : Access) : Handled :=
  let channel := a.command.suffix
  let index := Fin.ofNat (kMaxInputChannel + 1) channel.toNat
  if !key.isInput then .declined
  else if channel < 1 ∨ a.sim.options.channels < channel then
    .done (a.outOfRange ("input channel " ++ toText channel))
  else if key = .inpCoup then
    .done (a.keyword (Setting.coupling.entry index) [(.ac, ["AC"]), (.dc, ["DC"])])
  else if key = .inpGain then
    .done (if channel % 2 = 0 then
        a.fail kSettingsConflict "Settings conflict;GAIN applies to current channels only"
      else a.number (Setting.gain.entry index) 0 1.0e12)
  else if key = .inpShun then
    .done (if channel % 2 = 0 then
        a.fail kSettingsConflict "Settings conflict;SHUNt applies to current channels only"
      else a.keyword (Setting.shunt.entry index)
        [(.internal, ["INT", "INTernal"]), (.external, ["EXT", "EXTernal"])])
  else if key = .inpFiltStat then .done (a.boolean (Setting.filter.entry index))
  else if key = .inpFiltFreq then
    .done (a.queryOnly (a.respond (formatSetting a.sim.state.filterFrequency)))
  else .declined

def Key.isVoltage (key : Key) : Bool :=
  key = .voltRangList ∨ key = .voltRangAuto ∨ key = .voltRang ∨ key = .voltScal

def Key.isCurrent (key : Key) : Bool :=
  key = .currRangList ∨ key = .currRangAuto ∨ key = .currRang ∨ key = .currScal

namespace Access

def range (a : Access) (config : Setting (ChannelConfig Float)) (ranges : Ranges) : Access :=
  if a.command.query then a.respond (formatSetting (a.read config).range)
  else a.parameter fun text =>
    match parseNumber text with
    | none => a.illegal text
    | some value =>
        if value < ranges.front * 0.999 ∨ ranges.back * 1.001 < value then a.outOfRange text
        else
          let range := (ranges.values.find? fun candidate => value * 0.999 ≤ candidate).getD
            ranges.back
          a.assign config { a.read config with range := range, autorange := false }

end Access

def handleChannel (key : Key) (a : Access) : Handled :=
  let phase := a.command.suffix
  let index := Fin.ofNat (kMaxPhase + 1) phase.toNat
  let config := if key.isVoltage then Setting.voltage.entry index else Setting.current.entry index
  let ranges := if key.isVoltage then a.sim.options.voltageRanges else a.sim.options.currentRanges
  if phase < 1 ∨ kMaxPhase < phase then .done (a.outOfRange ("phase " ++ toText phase))
  else if key = .voltRang ∨ key = .currRang then .done (a.range config ranges)
  else if key = .voltRangAuto ∨ key = .currRangAuto then
    .done (a.boolean (config.focus ChannelConfig.autorangeLens))
  else if key = .voltRangList ∨ key = .currRangList then
    .done (a.queryOnly (a.respond (joinValues ranges.values)))
  else if key = .voltScal ∨ key = .currScal then
    .done (a.number (config.focus ChannelConfig.scaleLens) 0.9 1.0e7)
  else .declined

def Key.isSweep (key : Key) : Bool :=
  key = .sweOffsPoints ∨ key = .sweOffsTime ∨ key = .swePoints ∨ key = .sweTime ∨
    key = .sweCoun ∨ key = .sweSfac ∨ key = .sweFunc ∨ key = .sweStat

def sweepPoints (state : State) (time : Float) : Text :=
  toText (CNumber.truncInt64 (time / Arith.max state.aperture kMinAperture))

def handleSweep (key : Key) (a : Access) : Handled :=
  let block := a.command.suffix
  let sweep := Setting.sweep.entry (Fin.ofNat _ block.toNat)
  if block < 1 ∨ 2 < block then .done (a.outOfRange ("sweep block " ++ toText block))
  else if key = .sweStat then .done (a.boolean (sweep.focus SweepConfig.enabledLens))
  else if key = .sweTime then
    .done (if !a.command.query && a.command.argument.map upper = some "MAX" then
        a.assign (sweep.focus SweepConfig.timeLens) 3600
      else a.number (sweep.focus SweepConfig.timeLens) 1.0e-3 3600)
  else if key = .sweOffsTime then
    .done (a.number (sweep.focus SweepConfig.offsetTimeLens) (-3600) 3600)
  else if key = .sweCoun then .done (a.integer (sweep.focus SweepConfig.countLens) 1 1000000)
  else if key = .sweSfac then .done (a.integer (sweep.focus SweepConfig.sparsingLens) 1 65535)
  else if key = .sweFunc then .done (a.functionList (sweep.focus SweepConfig.functionsLens))
  else if key = .swePoints then
    .done (a.queryOnly (a.respond (sweepPoints a.sim.state (a.read sweep).time)))
  else if key = .sweOffsPoints then
    .done (a.queryOnly (a.respond (sweepPoints a.sim.state (a.read sweep).offsetTime)))
  else .declined

def allFunctions : List Text :=
  ["VOLT1", "VOLT2", "VOLT3", "CURR1", "CURR2", "CURR3", "POW1:ACT", "POW2:ACT", "POW3:ACT",
    "FREQ", "TIME"]

namespace Access

def functions (a : Access) : Access :=
  if a.command.query then a.respond (quoteJoin a.sim.state.functions)
  else a.readFunctionList id fun functions =>
    if !a.sim.state.concurrent && 1 < functions.length then
      a.fail kSettingsConflict "Settings conflict;FUNCtion:CONCurrent is OFF"
    else a.assign .functions functions

def concurrent (a : Access) : Access :=
  let was := a.sim.state.concurrent
  let b := a.boolean .concurrent
  if !a.command.query && was && !b.sim.state.concurrent && 1 < b.sim.state.functions.length then
    b.assign .functions (b.sim.state.functions.take 1)
  else b

def measured (a : Access) (withStatus : Bool) : Handled :=
  .ofResult (measurementResponse a.sim.state a.sim.signal a.sim.state.functions withStatus)
    fun response => .done (a.respond response)

def data (a : Access) (withStatus : Bool) : Handled :=
  if !a.command.query then .done (a.queryOnly a)
  else if a.command.args = [] then a.measured withStatus
  else a.readFunctionList .done fun requested =>
    (a.assign .functions requested).measured withStatus

end Access

def handleSense (key : Key) (a : Access) : Handled :=
  if key.isVoltage || key.isCurrent then handleChannel key a
  else if key = .aper then .done (a.number .aperture kMinAperture kMaxAperture)
  else if key = .sweFreq then
    .done (a.queryOnly (a.respond (formatSetting a.sim.state.samplingFrequency)))
  else if key = .func then .done a.functions
  else if key = .funcAll then .done (a.commandOnly (a.assign .functions allFunctions))
  else if key = .funcOffAll then .done (a.commandOnly (a.assign .functions []))
  else if key = .funcConc then .done a.concurrent
  else if key = .funcCoun then
    .done (a.queryOnly (a.respond (toText a.sim.state.functions.length)))
  else if key = .data ∨ key = .dataStat then a.data (key = .dataStat)
  else if key.isSweep then handleSweep key a
  else .declined

def slopes : List (Slope × List Text) :=
  [(.positive, ["POS", "POSitive"]), (.negative, ["NEG", "NEGative"])]

def syncSourceOf (text : Text) : Option Text :=
  let token := makeToken text
  let voltage := mnemonicMatches token.text "VOLTage"
  let current := mnemonicMatches token.text "CURRent"
  let node : Text := if voltage then "VOLT" else "CURR"
  if mnemonicMatches token.text "EXTernal" then some "EXT"
  else if (voltage || current) ∧ 1 ≤ token.suffix ∧ token.suffix ≤ kMaxPhase then
    some (node ++ toText token.suffix)
  else if (voltage || current) && !token.hasSuffix then some (node ++ "1")
  else none

namespace Access

def syncFilterFrequency (a : Access) : Access :=
  if a.command.query then a.respond (formatSetting a.sim.state.syncFilterFrequency)
  else a.parameter fun text =>
    match parseNumber text with
    | none => a.illegal text
    | some value =>
        match ([100, 1.0e3, 1.0e4] : List Float).find?
            fun allowed => (value - allowed).abs ≤ allowed * 1e-6 with
        | none => a.illegal text
        | some allowed => a.assign .syncFilterFrequency allowed

end Access

def handleSync (key : Key) (a : Access) : Handled :=
  if key = .syncStat then .done (a.boolean .syncEnabled)
  else if key = .syncSour then
    .done (if a.command.query then a.respond a.sim.state.syncSource
      else a.parameter fun text =>
        match syncSourceOf text with
        | none => a.illegal text
        | some source => a.assign .syncSource source)
  else if key = .syncLev then
    let limit : Float := if a.sim.state.syncLevelUnit = .percent then 150 else 1000
    .done (a.number .syncLevel (-limit) limit)
  else if key = .syncLevUnit then
    .done (a.keyword .syncLevelUnit
      [(.absolute, ["ABS", "ABSolute"]), (.percent, ["PCT", "PERCent"])])
  else if key = .syncSlop then .done (a.keyword .syncSlope slopes)
  else if key = .syncFiltStat then .done (a.boolean .syncFilter)
  else if key = .syncFiltFreq then .done a.syncFilterFrequency
  else if key = .syncTim then .done (a.number .syncTimeout 0.015 3600)
  else .declined

def enableSweep (block : Fin 3) : Setting Bool :=
  (Setting.sweep.entry block).focus SweepConfig.enabledLens

def Access.startSequence (a : Access) (block : Int) : Access :=
  a.commandOnly (if block < 1 ∨ 2 < block then a.outOfRange ("sequence " ++ toText block)
    else a.assign (enableSweep (Fin.ofNat _ block.toNat)) true)

def handleAcquisition (key : Key) (a : Access) : Handled :=
  if key = .initCont then .done (a.boolean .continuous)
  else if key = .init then .done (a.commandOnly (a.assign .initiated true))
  else if key = .initSeq ∨ key = .initName then
    .done (a.startSequence (if key = .initSeq then a.command.suffix else 1))
  else if key = .abor then
    .done (a.commandOnly
      (((a.assign .initiated false).assign (enableSweep 1) false).assign (enableSweep 2) false))
  else .declined

namespace Access

def triggerSource (a : Access) (f : Setting Text) : Access :=
  if a.command.query then a.respond (a.read f)
  else a.parameter fun text => a.assign f (upper text)

def timestamp (a : Access) : Access :=
  a.commandOnly (if a.command.args.length < 6 then
      a.fail kMissingParameter "Missing parameter;expected yyyy,MM,dd,hh,mm,ss"
    else a)

end Access

def handleTrigger (key : Key) (a : Access) : Handled :=
  if key = .trigStarSour then .done (a.triggerSource .triggerStartSource)
  else if key = .trigStopSour then .done (a.triggerSource .triggerStopSource)
  else if key = .trigStarLev then .done (a.number .triggerStartLevel (-1.0e7) 1.0e7)
  else if key = .trigStopLev then .done (a.number .triggerStopLevel (-1.0e7) 1.0e7)
  else if key = .trigStarSlop then .done (a.keyword .triggerStartSlope slopes)
  else if key = .trigStopSlop then .done (a.keyword .triggerStopSlope slopes)
  else if key = .trigStarTime ∨ key = .trigStopTime then .done a.timestamp
  else .declined

def formatText : DataFormat → Text
  | .ascii => "ASC"
  | .integer => "INT"
  | .real => "REAL"

def formatOf (text : Text) : Option DataFormat :=
  let value := upper text
  if value = "ASC" ∨ value = "ASCII" then some .ascii
  else if value = "INT" ∨ value = "INTEGER" then some .integer
  else if value = "REAL" then some .real
  else none

-- A change between text and binary applies to both formats.
def coupled (binary : Bool) (fallback : DataFormat) (other : DataFormatSetting) :
    DataFormatSetting :=
  if (decide (other.format ≠ .ascii)) ≠ binary then
    { other with format := if binary then fallback else .ascii }
  else other

namespace Access

def format (a : Access) (setting other : Setting DataFormatSetting) (fallback : DataFormat) :
    Access :=
  let current := a.read setting
  let store (format : DataFormat) (length : Int) : Access :=
    let b := a.assign setting ⟨format, length⟩
    b.assign other (coupled (format ≠ .ascii) fallback (b.read other))
  if a.command.query then
    a.respond (formatText current.format ++ "," ++ toText current.length)
  else a.parameter fun text =>
    match formatOf text with
    | none => a.illegal text
    | some format =>
        match a.command.args[1]? with
        | none => store format current.length
        | some arg =>
            match parseNumber arg with
            | none => a.illegal arg
            | some parsed => store format (CNumber.toInt32 (CNumber.lround parsed))

end Access

def handleFormat (key : Key) (a : Access) : Handled :=
  if key = .form then .done (a.format .dataFormat .statusFormat .integer)
  else if key = .formStat then .done (a.format .statusFormat .dataFormat .real)
  else if key = .formBord then
    .done (a.keyword .byteOrder [(.normal, ["NORM", "NORMal"]), (.swapped, ["SWAP", "SWAPped"])])
  else if key = .formTran then .done (a.boolean .transpose)
  else .declined

def handleDisplayOutput (key : Key) (a : Access) : Handled :=
  if key = .dispStat then .done (a.boolean .displayEnabled)
  else if key = .dispUserFunc then .done (a.functionList .displayFunctions)
  else if key = .outpStat then
    .done (if a.command.suffix ≠ 9 then
        a.fail kUndefinedHeader ("Undefined header;OUTPut" ++ toText a.command.suffix)
      else a.boolean .outputEnabled)
  else .declined

def errorText (entry : ScpiErrorInfo) : Text := toText entry.code ++ "," ++ quote entry.message

def noErrorText : Text := "0,\"No error\""

namespace Access

def nextError (a : Access) : Access :=
  match a.sim.state.errors with
  | [] => a.respond noErrorText
  | entry :: rest =>
      (a.update fun state => { state with errors := rest }).respond (errorText entry)

def allErrors (a : Access) : Access :=
  match a.sim.state.errors with
  | [] => a.respond noErrorText
  | errors =>
      (a.update fun state => { state with errors := [] }).respond
        (join ',' (errors.map errorText))

def date (a : Access) : Access :=
  let date := a.sim.state.date
  if a.command.query then
    a.respond (join ',' [toText date.year, toText date.month, toText date.day])
  else
    match a.command.args with
    | year :: month :: day :: _ =>
        match parseNumber year, parseNumber month, parseNumber day with
        | some year, some month, some day =>
            if month < 1 ∨ 12 < month ∨ day < 1 ∨ 31 < day then a.outOfRange "SYSTem:DATE"
            else a.assign .date ⟨CNumber.truncInt32 year, CNumber.truncInt32 month,
              CNumber.truncInt32 day⟩
        | _, _, _ => a.illegal "SYSTem:DATE"
    | _ => a.fail kMissingParameter "Missing parameter;expected year,month,day"

def time (a : Access) : Access :=
  let time := a.sim.state.time
  if a.command.query then
    a.respond (join ',' [toText time.hours, toText time.minutes, toText time.seconds])
  else
    match a.command.args with
    | hours :: minutes :: seconds :: _ =>
        match parseNumber hours, parseNumber minutes, parseNumber seconds with
        | some hours, some minutes, some seconds =>
            if hours < 0 ∨ 23 < hours ∨ minutes < 0 ∨ 59 < minutes ∨ seconds < 0 ∨ 59 < seconds
            then a.outOfRange "SYSTem:TIME"
            else a.assign .time ⟨CNumber.truncInt32 hours, CNumber.truncInt32 minutes,
              CNumber.truncInt32 seconds⟩
        | _, _, _ => a.illegal "SYSTem:TIME"
    | _ => a.fail kMissingParameter "Missing parameter;expected hours,minutes,seconds"

end Access

def handleSystem (key : Key) (a : Access) : Handled :=
  if key = .systVers then .done (a.queryOnly (a.respond a.sim.options.scpiVersion))
  else if key = .systErr then .done (a.queryOnly a.nextError)
  else if key = .systErrAll then .done (a.queryOnly a.allErrors)
  else if key = .systKloc then
    .done (a.keyword .keyLock
      [(.off, ["OFF", "0"]), (.on, ["ON", "1"]), (.remote, ["REM", "REMote"])])
  else if key = .systLang then
    .done (if a.command.query then a.respond (quote a.sim.state.language)
      else a.parameter fun text => a.assign .language text)
  else if key = .systDate then .done a.date
  else if key = .systTime then .done a.time
  else if key = .systCommGpibAddr then .done (a.integer .gpibAddress 1 30)
  else if key = .systCommSerBaud then .done (a.integer .serialBaud 1200 115200)
  else .declined

def handleTimer (key : Key) (a : Access) : Handled :=
  if key = .timRes then .done (a.commandOnly (a.assign .timerSeconds 0))
  else if key = .timResTime then
    .done (a.queryOnly (a.respond (formatSetting a.sim.state.timerSeconds)))
  else if key = .timResAuto then
    .done (a.fail kUndefinedHeader "Undefined header;TIMer:RESet:AUTO")
  else .declined

end Norma
