import Norma.Panel

namespace Norma

structure Address where
  header : Text
  key : Key
  suffixes : List Int

def isHeaderChar (c : Char) : Bool := isBareChar c && c != '*' && c != '?'

structure Address.Known (address : Address) : Prop where
  chars : address.header.all isHeaderChar = true
  nonempty : address.header ≠ []
  found : findCommand (headerTokens [] address.header) = some (address.key, address.suffixes)

instance (address : Address) : Decidable address.Known :=
  decidable_of_iff (address.header.all isHeaderChar = true ∧ address.header ≠ [] ∧
      findCommand (headerTokens [] address.header) = some (address.key, address.suffixes))
    ⟨fun h => ⟨h.1, h.2.1, h.2.2⟩, fun h => ⟨h.chars, h.nonempty, h.found⟩⟩

namespace Address

variable {address : Address}

namespace Known

theorem char (h : address.Known) {c : Char} (hc : c ∈ address.header) :
    isBareChar c = true ∧ c ≠ '*' ∧ c ≠ '?' := by
  simpa [isHeaderChar, and_assoc] using List.all_eq_true.mp h.chars c hc

theorem bare (h : address.Known) : Bare address.header :=
  ⟨h.nonempty, fun _ hc => (h.char hc).1⟩

theorem unquoted (h : address.Known) : Unquoted address.header := h.bare.plainField.unquoted

theorem spaceless (h : address.Known) : Spaceless address.header := h.bare.plainField.spaceless

theorem semicolon (h : address.Known) : ';' ∉ address.header :=
  fun hmem => (bareChar (h.bare.chars _ hmem)).2.2.2 rfl

theorem tree (h : address.Known) : address.header.head? ≠ some '*' :=
  fun hhead => (h.char (List.mem_of_head? hhead)).2.1 rfl

theorem command (h : address.Known) : address.header.getLast? ≠ some '?' :=
  fun hlast => (h.char (List.mem_of_getLast? hlast)).2.2 rfl

theorem query_plain (h : address.Known) :
    ScpiClient.hasLineTerminator (address.header ++ ['?']) = false :=
  spaceless_plain (h.spaceless.append (by decide))

theorem setting_plain (h : address.Known) {parameters : Text}
    (hparameters : ScpiClient.hasLineTerminator parameters = false) :
    ScpiClient.hasLineTerminator (address.header ++ ' ' :: parameters) = false := by
  obtain ⟨hnewline, hreturn⟩ := ScpiClient.hasLineTerminator_eq_false.mp hparameters
  obtain ⟨hnewline', hreturn'⟩ := ScpiClient.hasLineTerminator_eq_false.mp h.bare.plain
  exact ScpiClient.hasLineTerminator_eq_false.mpr
    ⟨by simp [hnewline, hnewline'], by simp [hreturn, hreturn']⟩

theorem parse (h : address.Known) : parseCommand address.header = ⟨address.header, false, []⟩ := by
  simp only [parseCommand, splitHeader_alone h.unquoted h.spaceless, if_neg h.command,
    decide_eq_false h.command]
  rfl

theorem parse_query (h : address.Known) :
    parseCommand (address.header ++ ['?']) = ⟨address.header, true, []⟩ := by
  have hunquoted : Unquoted (address.header ++ ['?']) := h.unquoted.append (by decide)
  have hspaceless : Spaceless (address.header ++ ['?']) := h.spaceless.append (by decide)
  simp only [parseCommand, splitHeader_alone hunquoted hspaceless, List.getLast?_concat,
    List.dropLast_concat]
  rfl

end Known

def asked (address : Address) (sim : NormaSimulator) : Access :=
  received sim ⟨address.header, true, []⟩ address.key address.suffixes

def told (address : Address) (sim : NormaSimulator) (args : List Text) : Access :=
  received sim ⟨address.header, false, args⟩ address.key address.suffixes

theorem Known.handleLine_query (h : address.Known) (sim : NormaSimulator) :
    sim.handleLine (address.header ++ ['?']) =
      (execute address.key (address.asked sim)).map fun a => (a.sim, a.command.response) := by
  obtain ⟨c, rest, hcons⟩ := List.exists_cons_of_ne_nil h.nonempty
  have hc : isSpace c = false := h.spaceless c (by simp [hcons])
  have hline : Unquoted (address.header ++ ['?']) := h.unquoted.append (by decide)
  have htrim : trim (address.header ++ ['?']) = address.header ++ ['?'] := by
    rw [hcons]
    exact trim_of_ends hc (by decide) rest
  exact handleLine_known (hline.whole_iff.mpr (by simpa using h.semicolon)) htrim (by simp)
    h.parse_query h.tree h.found

theorem Known.handleLine_setting (h : address.Known) (sim : NormaSimulator) {parameters : Text}
    (hwhole : Whole ';' parameters) :
    sim.handleLine (address.header ++ ' ' :: parameters) =
      (execute address.key (address.told sim (argumentsOf parameters))).map fun a =>
        (a.sim, a.command.response) := by
  have hparse := parseCommand_trim h.unquoted h.spaceless h.nonempty (by rw [h.parse]) parameters
  rw [h.parse] at hparse
  rw [handleLine_whole_parameters h.unquoted h.spaceless h.nonempty h.semicolon hwhole]
  simp only [handleCommand, hparse, if_neg h.tree, handleTree, h.found, Option.map_map]
  rfl

end Address

def Single.address : Single → Address
  | .wiringSystem => ⟨"ROUT:SYST", .routSyst, []⟩
  | .aperture => ⟨"APER", .aper, []⟩
  | .syncEnabled => ⟨"SYNC:STAT", .syncStat, []⟩
  | .syncLevel => ⟨"SYNC:SOUR:LEV", .syncLev, [0]⟩
  | .syncLevelUnit => ⟨"SYNC:LEV:UNIT", .syncLevUnit, []⟩
  | .syncSlope => ⟨"SYNC:SOUR:SLOP", .syncSlop, [0]⟩
  | .syncFilter => ⟨"SYNC:SOUR:FILT:LPAS:STAT", .syncFiltStat, [0]⟩
  | .syncFilterFrequency => ⟨"SYNC:SOUR:FILT:LPAS:FREQ", .syncFiltFreq, [0]⟩
  | .syncTimeout => ⟨"SYNC:TIM", .syncTim, []⟩
  | .byteOrder => ⟨"FORM:BORD", .formBord, []⟩
  | .transpose => ⟨"FORM:TRAN", .formTran, []⟩
  | .displayEnabled => ⟨"DISP:WIND:STAT", .dispStat, []⟩
  | .outputEnabled => ⟨"OUTP9:STAT", .outpStat, [9]⟩
  | .keyLock => ⟨"SYST:KLOC", .systKloc, []⟩
  | .date => ⟨"SYST:DATE", .systDate, []⟩
  | .timeOfDay => ⟨"SYST:TIME", .systTime, []⟩
  | .gpibAddress => ⟨"SYST:COMM:GPIB:ADDR", .systCommGpibAddr, []⟩
  | .serialBaud => ⟨"SYST:COMM:SER:BAUD", .systCommSerBaud, []⟩
  | .concurrent => ⟨"FUNC:CONC", .funcConc, []⟩
  | .continuous => ⟨"INIT:CONT", .initCont, []⟩
  | .triggerStartLevel => ⟨"TRIG:STAR:LEV", .trigStarLev, []⟩
  | .triggerStartSlope => ⟨"TRIG:STAR:SLOP", .trigStarSlop, []⟩
  | .triggerStopLevel => ⟨"TRIG:STOP:LEV", .trigStopLev, []⟩
  | .triggerStopSlope => ⟨"TRIG:STOP:SLOP", .trigStopSlop, []⟩
  | .harmonicOrder => ⟨"CALC:HARM:ORD", .calcHarmOrd, []⟩
  | .transformMode => ⟨"CALC:TRAN:FREQ:MODE", .calcTranFreqMode, []⟩
  | .transformStart => ⟨"CALC:TRAN:FREQ:STAR", .calcTranFreqStar, []⟩
  | .transformStop => ⟨"CALC:TRAN:FREQ:STOP", .calcTranFreqStop, []⟩
  | .transformCycles => ⟨"CALC:TRAN:FREQ:CYCL", .calcTranFreqCycl, []⟩
  | .transformGrouping => ⟨"CALC:TRAN:FREQ:GRO", .calcTranFreqGro, []⟩
  | .integralEnabled => ⟨"CALC:INT:STAT", .calcIntStat, []⟩
  | .integralAutoClear => ⟨"CALC:INT:CLE:AUTO", .calcIntCleAuto, []⟩
  | .integralStartSource => ⟨"CALC:INT:STAR:SOUR", .calcIntStarSour, []⟩
  | .integralStopSource => ⟨"CALC:INT:STOP:SOUR", .calcIntStopSour, []⟩
  | .integralStopInterval => ⟨"CALC:INT:STOP:TINT", .calcIntStopTint, []⟩
  | .powerCorrection => ⟨"CALC:POW:CORR", .calcPowCorr, []⟩

def maskKey : StatusRegister → MaskPart → Key
  | .operation, .enable => .statOperEnab
  | .operation, .positiveTransition => .statOperPtr
  | .operation, .negativeTransition => .statOperNtr
  | .questionable, .enable => .statQuesEnab
  | .questionable, .positiveTransition => .statQuesPtr
  | .questionable, .negativeTransition => .statQuesNtr
  | .questionableVoltage, .enable => .statQuesVoltEnab
  | .questionableVoltage, .positiveTransition => .statQuesVoltPtr
  | .questionableVoltage, .negativeTransition => .statQuesVoltNtr
  | .questionableCurrent, .enable => .statQuesCurrEnab
  | .questionableCurrent, .positiveTransition => .statQuesCurrPtr
  | .questionableCurrent, .negativeTransition => .statQuesCurrNtr

def InputPart.node : InputPart → Text × Key
  | .coupling => (":COUP", .inpCoup)
  | .gain => (":GAIN", .inpGain)
  | .filter => (":FILT:STAT", .inpFiltStat)
  | .shunt => (":SHUN", .inpShun)

def Sensed.base : Sensed → Text
  | .voltage => "VOLT"
  | .current => "CURR"

def SensePart.node : SensePart → Text
  | .range => ":RANG"
  | .autorange => ":RANG:AUTO"
  | .scale => ":SCAL"

def senseKey : Sensed → SensePart → Key
  | .voltage, .range => .voltRang
  | .voltage, .autorange => .voltRangAuto
  | .voltage, .scale => .voltScal
  | .current, .range => .currRang
  | .current, .autorange => .currRangAuto
  | .current, .scale => .currScal

def SweepPart.node : SweepPart → Text × Key
  | .enabled => (":STAT", .sweStat)
  | .time => (":TIME", .sweTime)
  | .offsetTime => (":OFFS:TIME", .sweOffsTime)
  | .count => (":COUN", .sweCoun)
  | .sparsing => (":SFAC", .sweSfac)

namespace Single

def all : List Single :=
  [.wiringSystem, .aperture, .syncEnabled, .syncLevel, .syncLevelUnit, .syncSlope, .syncFilter,
    .syncFilterFrequency, .syncTimeout, .byteOrder, .transpose, .displayEnabled, .outputEnabled,
    .keyLock, .date, .timeOfDay, .gpibAddress, .serialBaud, .concurrent, .continuous,
    .triggerStartLevel, .triggerStartSlope, .triggerStopLevel, .triggerStopSlope, .harmonicOrder,
    .transformMode, .transformStart, .transformStop, .transformCycles, .transformGrouping,
    .integralEnabled, .integralAutoClear, .integralStartSource, .integralStopSource,
    .integralStopInterval, .powerCorrection]

theorem mem_all (r : Single) : r ∈ all := by
  cases r <;> decide

end Single

namespace Register

def address : Register → Address
  | .single r => r.address
  | .mask reg part => ⟨NormaInstrument.statusNode reg part.part, maskKey reg part, []⟩
  | .input channel part =>
      ⟨inputNode (channelNumber channel) ++ part.node.1, part.node.2, [channelNumber channel]⟩
  | .sense sensed phase part =>
      ⟨sensed.base ++ toText (phaseNumber phase) ++ part.node, senseKey sensed part,
        [phaseNumber phase]⟩
  | .sweep block part =>
      ⟨sweepNode block ++ part.node.1, part.node.2, [FunctionList.blockNumber block]⟩

theorem all_known : ∀ r ∈ Single.all, (single r).address.Known := by
  decide +kernel

theorem single_known (r : Single) : (single r).address.Known := all_known r r.mem_all

theorem mask_known (reg : StatusRegister) (part : MaskPart) : (mask reg part).address.Known := by
  have hall : ∀ reg ∈ [.operation, .questionable, .questionableVoltage, .questionableCurrent],
      ∀ part ∈ [.enable, .positiveTransition, .negativeTransition],
        (mask reg part).address.Known := by
    decide +kernel
  exact hall reg (by cases reg <;> decide) part (by cases part <;> decide)

theorem input_known (channel : Fin kMaxInputChannel) (part : InputPart) :
    (input channel part).address.Known := by
  have hall : ∀ part ∈ [.coupling, .gain, .filter, .shunt],
      ∀ channel, (input channel part).address.Known := by
    decide +kernel
  exact hall part (by cases part <;> decide) channel

theorem sense_known (sensed : Sensed) (phase : Fin kMaxPhase) (part : SensePart) :
    (sense sensed phase part).address.Known := by
  have hall : ∀ sensed ∈ [.voltage, .current], ∀ part ∈ [.range, .autorange, .scale],
      ∀ phase, (sense sensed phase part).address.Known := by
    decide +kernel
  exact hall sensed (by cases sensed <;> decide) part (by cases part <;> decide) phase

theorem sweep_known (block : SweepBlock) (part : SweepPart) : (sweep block part).address.Known := by
  have hall : ∀ block ∈ [.block1, .block2],
      ∀ part ∈ [.enabled, .time, .offsetTime, .count, .sparsing],
        (sweep block part).address.Known := by
    decide +kernel
  exact hall block (by cases block <;> decide) part (by cases part <;> decide)

theorem known (r : Register) : r.address.Known := by
  cases r with
  | single r => exact single_known r
  | mask reg part => exact mask_known reg part
  | input channel part => exact input_known channel part
  | sense sensed phase part => exact sense_known sensed phase part
  | sweep block part => exact sweep_known block part

end Register

end Norma
