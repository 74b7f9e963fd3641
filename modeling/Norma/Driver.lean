import Norma.Keywords
import Norma.Manual
import Norma.NumericResponse

namespace Norma

open Session (throw ofExcept)
open ScpiClient

-- `std::to_string` of a double is `%f`.
def fixedText (x : Float) : Text :=
  match x.toModel.unpack with
  | .notANumber => "nan"
  | .infinity s => CNumber.signText false s ++ "inf"
  | .zero s => CNumber.signText false s ++ "0.000000"
  | .finite s m e _ =>
      let (a, b) := CNumber.magnitude m e
      let n := CNumber.roundQuotient (a * 10 ^ 6) b
      let digits := Nat.toDigits 10 (n % 10 ^ 6)
      CNumber.signText false s ++ Nat.toDigits 10 (n / 10 ^ 6) ++
        '.' :: (List.replicate (6 - digits.length) '0' ++ digits)

def formatDouble (value : Float) : Text := CNumber.printG9 value

def inputNode (channel : Int) : Text := "INP" ++ toText channel

def joinInts (values : List Int) : Text := join ',' (values.map toText)

def threeInts (what : Text) (response : Text) : Except Fault (Int × Int × Int) :=
  match splitCsv response with
  | first :: second :: third :: _ => do
      return (← ScpiClient.toInt first, ← ScpiClient.toInt second, ← ScpiClient.toInt third)
  | _ => .error (.protocol ("expected " ++ what ++ ", got \"" ++ response ++ "\""))

namespace NormaInstrument

variable {T : Type} [Transport T]

section Checks

def checkPhase (phase : Int) : Session T Unit :=
  if phase < 1 ∨ kMaxPhase < phase then
    throw (.invalidArgument ("phase must be 1.." ++ toText kMaxPhase ++ ", got " ++ toText phase))
  else pure ()

def checkChannel (channel : Int) : Session T Unit :=
  if channel < 1 ∨ kMaxInputChannel < channel then
    throw (.invalidArgument ("input channel must be 1.." ++ toText kMaxInputChannel ++ ", got " ++
      toText channel))
  else pure ()

def senseNode (base : Text) (phase : Int) : Session T Text := do
  checkPhase phase
  return base ++ toText phase

end Checks

section Common

def reset : Session T Unit := send "*RST"

end Common

section Status

def registerText : StatusRegister → Text
  | .operation => "OPER"
  | .questionable => "QUES"
  | .questionableVoltage => "QUES:VOLT"
  | .questionableCurrent => "QUES:CURR"

def partText : RegisterPart → Text
  | .condition => ":COND"
  | .event => ":EVEN"
  | .enable => ":ENAB"
  | .positiveTransition => ":PTR"
  | .negativeTransition => ":NTR"

def statusNode (reg : StatusRegister) (part : RegisterPart) : Text :=
  "STAT:" ++ registerText reg ++ partText part

def status (reg : StatusRegister) (part : RegisterPart) : Session T Int :=
  queryInt (statusNode reg part ++ "?")

def setStatus (reg : StatusRegister) (part : RegisterPart) (mask : Int) : Session T Unit :=
  if part = .condition ∨ part = .event then
    throw (.invalidArgument "the CONDition and EVENt parts of a status register are read-only")
  else if mask < 0 ∨ 65535 < mask then
    throw (.invalidArgument ("status register mask must be 0..65535, got " ++ toText mask))
  else send (statusNode reg part ++ " " ++ toText mask)

end Status

section Route

def setWiringSystem (system : WiringSystem) : Session T Unit :=
  send (if system = .twoWattmeter then "ROUT:SYST \"2W\"" else "ROUT:SYST \"3W\"")

def parseWiringSystem (text : Text) : Except Fault WiringSystem :=
  let response := unquote text
  if response = "2W" then .ok .twoWattmeter
  else if response = "3W" then .ok .threeWattmeter
  else .error (.protocol ("unexpected ROUT:SYST? response: \"" ++ response ++ "\""))

def wiringSystem : Session T WiringSystem := do
  ofExcept (parseWiringSystem (← ScpiClient.query "ROUT:SYST?"))

end Route

section Input

def setInputCoupling (channel : Int) (coupling : Coupling) : Session T Unit := do
  checkChannel channel
  send (inputNode channel ++ ":COUP " ++ coupling.toScpi)

def inputCoupling (channel : Int) : Session T Coupling := do
  checkChannel channel
  ofExcept (parseCoupling (← ScpiClient.query (inputNode channel ++ ":COUP?")))

def setInputGain (channel : Int) (gain : Float) : Session T Unit := do
  checkChannel channel
  send (inputNode channel ++ ":GAIN " ++ formatDouble gain)

def inputGain (channel : Int) : Session T Float := do
  checkChannel channel
  queryValue (inputNode channel ++ ":GAIN?")

def setInputFilter (channel : Int) (on : Bool) : Session T Unit := do
  checkChannel channel
  send (inputNode channel ++ ":FILT:STAT " ++ formatOn on)

def inputFilter (channel : Int) : Session T Bool := do
  checkChannel channel
  queryBool (inputNode channel ++ ":FILT:STAT?")

def setInputShunt (channel : Int) (shunt : Shunt) : Session T Unit := do
  checkChannel channel
  send (inputNode channel ++ ":SHUN " ++ shunt.toScpi)

def inputShunt (channel : Int) : Session T Shunt := do
  checkChannel channel
  ofExcept (parseShunt (← ScpiClient.query (inputNode channel ++ ":SHUN?")))

end Input

section Sense

def setVoltageRange (phase : Int) (volts : Float) : Session T Unit := do
  send ((← senseNode "VOLT" phase) ++ ":RANG " ++ formatDouble volts)

def voltageRange (phase : Int) : Session T Float := do
  queryValue ((← senseNode "VOLT" phase) ++ ":RANG?")

def setVoltageAutorange (phase : Int) (on : Bool) : Session T Unit := do
  send ((← senseNode "VOLT" phase) ++ ":RANG:AUTO " ++ formatOn on)

def voltageAutorange (phase : Int) : Session T Bool := do
  queryBool ((← senseNode "VOLT" phase) ++ ":RANG:AUTO?")

def setVoltageScale (phase : Int) (ratio : Float) : Session T Unit := do
  send ((← senseNode "VOLT" phase) ++ ":SCAL " ++ formatDouble ratio)

def voltageScale (phase : Int) : Session T Float := do
  queryValue ((← senseNode "VOLT" phase) ++ ":SCAL?")

def setCurrentRange (phase : Int) (amps : Float) : Session T Unit := do
  send ((← senseNode "CURR" phase) ++ ":RANG " ++ formatDouble amps)

def currentRange (phase : Int) : Session T Float := do
  queryValue ((← senseNode "CURR" phase) ++ ":RANG?")

def setCurrentAutorange (phase : Int) (on : Bool) : Session T Unit := do
  send ((← senseNode "CURR" phase) ++ ":RANG:AUTO " ++ formatOn on)

def currentAutorange (phase : Int) : Session T Bool := do
  queryBool ((← senseNode "CURR" phase) ++ ":RANG:AUTO?")

def setCurrentScale (phase : Int) (ratio : Float) : Session T Unit := do
  send ((← senseNode "CURR" phase) ++ ":SCAL " ++ formatDouble ratio)

def currentScale (phase : Int) : Session T Float := do
  queryValue ((← senseNode "CURR" phase) ++ ":SCAL?")

def apertureFault (seconds : Float) : Fault :=
  .invalidArgument ("aperture must be " ++ fixedText kMinAperture ++ ".." ++
    fixedText kMaxAperture ++ " s, got " ++ fixedText seconds)

def setAperture (seconds : Float) : Session T Unit :=
  if kMinAperture ≤ seconds ∧ seconds ≤ kMaxAperture then send ("APER " ++ formatDouble seconds)
  else throw (apertureFault seconds)

def aperture : Session T Float := queryValue "APER?"

end Sense

section Sync

def setSyncEnabled (on : Bool) : Session T Unit := send ("SYNC:STAT " ++ formatOn on)

def syncEnabled : Session T Bool := queryBool "SYNC:STAT?"

def setSyncLevel (level : Float) : Session T Unit := send ("SYNC:SOUR:LEV " ++ formatDouble level)

def syncLevel : Session T Float := queryValue "SYNC:SOUR:LEV?"

def setSyncLevelUnit (unit : LevelUnit) : Session T Unit := send ("SYNC:LEV:UNIT " ++ unit.toScpi)

def syncLevelUnit : Session T LevelUnit := do
  ofExcept (parseLevelUnit (← ScpiClient.query "SYNC:LEV:UNIT?"))

def setSyncSlope (slope : Slope) : Session T Unit := send ("SYNC:SOUR:SLOP " ++ slope.toScpi)

def syncSlope : Session T Slope := do
  ofExcept (parseSlope (← ScpiClient.query "SYNC:SOUR:SLOP?"))

def setSyncFilter (on : Bool) : Session T Unit := send ("SYNC:SOUR:FILT:LPAS:STAT " ++ formatOn on)

def syncFilter : Session T Bool := queryBool "SYNC:SOUR:FILT:LPAS:STAT?"

def setSyncFilterFrequency (hertz : Float) : Session T Unit :=
  send ("SYNC:SOUR:FILT:LPAS:FREQ " ++ formatDouble hertz)

def syncFilterFrequency : Session T Float := queryValue "SYNC:SOUR:FILT:LPAS:FREQ?"

def setSyncTimeout (seconds : Float) : Session T Unit := send ("SYNC:TIM " ++ formatDouble seconds)

def syncTimeout : Session T Float := queryValue "SYNC:TIM?"

end Sync

section Format

def setByteOrder (order : ByteOrder) : Session T Unit := send ("FORM:BORD " ++ order.toScpi)

def byteOrder : Session T ByteOrder := do
  ofExcept (parseByteOrder (← ScpiClient.query "FORM:BORD?"))

def setTranspose (on : Bool) : Session T Unit := send ("FORM:TRAN " ++ formatOn on)

def transpose : Session T Bool := queryBool "FORM:TRAN?"

end Format

section Display

def setDisplayEnabled (on : Bool) : Session T Unit := send ("DISP:WIND:STAT " ++ formatOn on)

def displayEnabled : Session T Bool := queryBool "DISP:WIND:STAT?"

def setOutputEnabled (on : Bool) : Session T Unit := send ("OUTP9:STAT " ++ formatOn on)

def outputEnabled : Session T Bool := queryBool "OUTP9:STAT?"

end Display

section System

def setKeyLock (lock : KeyLock) : Session T Unit := send ("SYST:KLOC " ++ lock.toScpi)

def keyLock : Session T KeyLock := do
  ofExcept (parseKeyLock (← ScpiClient.query "SYST:KLOC?"))

def setDate (date : Date) : Session T Unit :=
  send ("SYST:DATE " ++ joinInts [date.year, date.month, date.day])

def parseDate (response : Text) : Except Fault Date :=
  (threeInts "<year>,<month>,<day> from SYST:DATE?" response).map fun (year, month, day) =>
    ⟨year, month, day⟩

def date : Session T Date := do
  ofExcept (parseDate (← ScpiClient.query "SYST:DATE?"))

def setTime (time : Time) : Session T Unit :=
  send ("SYST:TIME " ++ joinInts [time.hours, time.minutes, time.seconds])

def parseTime (response : Text) : Except Fault Time :=
  (threeInts "<hours>,<minutes>,<seconds> from SYST:TIME?" response).map
    fun (hours, minutes, seconds) => ⟨hours, minutes, seconds⟩

def timeOfDay : Session T Time := do
  ofExcept (parseTime (← ScpiClient.query "SYST:TIME?"))

def gpibFault (address : Int) : Fault :=
  .invalidArgument ("GPIB address must be 1..30, got " ++ toText address)

def setGpibAddress (address : Int) : Session T Unit :=
  if address < 1 ∨ 30 < address then throw (gpibFault address)
  else send ("SYST:COMM:GPIB:ADDR " ++ toText address)

def gpibAddress : Session T Int := queryInt "SYST:COMM:GPIB:ADDR?"

def setSerialBaud (baud : Int) : Session T Unit := send ("SYST:COMM:SER:BAUD " ++ toText baud)

def serialBaud : Session T Int := queryInt "SYST:COMM:SER:BAUD?"

end System

section Acquisition

def concurrent : Session T Bool := queryBool "FUNC:CONC?"

def setContinuous (on : Bool) : Session T Unit :=
  send (if on then "INIT:CONT ON" else "INIT:CONT OFF")

def continuous : Session T Bool := queryBool "INIT:CONT?"

end Acquisition

section Trigger

def setTriggerStartLevel (level : Float) : Session T Unit :=
  send ("TRIG:STAR:LEV " ++ formatDouble level)

def triggerStartLevel : Session T Float := queryValue "TRIG:STAR:LEV?"

def setTriggerStartSlope (slope : Slope) : Session T Unit :=
  send ("TRIG:STAR:SLOP " ++ slope.toScpi)

def triggerStartSlope : Session T Slope := do
  ofExcept (parseSlope (← ScpiClient.query "TRIG:STAR:SLOP?"))

def setTriggerStopLevel (level : Float) : Session T Unit :=
  send ("TRIG:STOP:LEV " ++ formatDouble level)

def triggerStopLevel : Session T Float := queryValue "TRIG:STOP:LEV?"

def setTriggerStopSlope (slope : Slope) : Session T Unit :=
  send ("TRIG:STOP:SLOP " ++ slope.toScpi)

def triggerStopSlope : Session T Slope := do
  ofExcept (parseSlope (← ScpiClient.query "TRIG:STOP:SLOP?"))

end Trigger

section Harmonics

def orderFault (order : Int) : Fault :=
  .invalidArgument ("harmonic order must not be negative, got " ++ toText order)

def setHarmonicOrder (order : Int) : Session T Unit :=
  if order < 0 then throw (orderFault order) else send ("CALC:HARM:ORD " ++ toText order)

def harmonicOrder : Session T Int := queryInt "CALC:HARM:ORD?"

def setTransformMode (mode : TransformMode) : Session T Unit :=
  send ("CALC:TRAN:FREQ:MODE " ++ mode.toScpi)

def transformMode : Session T TransformMode := do
  ofExcept (parseTransformMode (← ScpiClient.query "CALC:TRAN:FREQ:MODE?"))

def setTransformStart (hertz : Float) : Session T Unit :=
  send ("CALC:TRAN:FREQ:STAR " ++ formatDouble hertz)

def transformStart : Session T Float := queryValue "CALC:TRAN:FREQ:STAR?"

def setTransformStop (hertz : Float) : Session T Unit :=
  send ("CALC:TRAN:FREQ:STOP " ++ formatDouble hertz)

def transformStop : Session T Float := queryValue "CALC:TRAN:FREQ:STOP?"

def cyclesFault (cycles : Int) : Fault :=
  .invalidArgument ("transform cycles must be 4, 6, 8, 10 or 12, got " ++ toText cycles)

def setTransformCycles (cycles : Int) : Session T Unit :=
  if cycles = 4 ∨ cycles = 6 ∨ cycles = 8 ∨ cycles = 10 ∨ cycles = 12 then
    send ("CALC:TRAN:FREQ:CYCL " ++ toText cycles)
  else throw (cyclesFault cycles)

def transformCycles : Session T Int := queryInt "CALC:TRAN:FREQ:CYCL?"

def setTransformGrouping (grouping : HarmonicGrouping) : Session T Unit :=
  send ("CALC:TRAN:FREQ:GRO " ++ grouping.toScpi)

def transformGrouping : Session T HarmonicGrouping := do
  ofExcept (parseHarmonicGrouping (← ScpiClient.query "CALC:TRAN:FREQ:GRO?"))

end Harmonics

section Integration

def setIntegralEnabled (on : Bool) : Session T Unit := send ("CALC:INT:STAT " ++ formatOn on)

def integralEnabled : Session T Bool := queryBool "CALC:INT:STAT?"

def setIntegralAutoClear (on : Bool) : Session T Unit := send ("CALC:INT:CLE:AUTO " ++ formatOn on)

def integralAutoClear : Session T Bool := queryBool "CALC:INT:CLE:AUTO?"

def setIntegralStartSource (source : IntegralStartSource) : Session T Unit :=
  send ("CALC:INT:STAR:SOUR " ++ source.toScpi)

def integralStartSource : Session T IntegralStartSource := do
  ofExcept (parseIntegralStartSource (← ScpiClient.query "CALC:INT:STAR:SOUR?"))

def setIntegralStopSource (source : IntegralStopSource) : Session T Unit :=
  send ("CALC:INT:STOP:SOUR " ++ source.toScpi)

def integralStopSource : Session T IntegralStopSource := do
  ofExcept (parseIntegralStopSource (← ScpiClient.query "CALC:INT:STOP:SOUR?"))

def setIntegralStopInterval (seconds : Float) : Session T Unit :=
  send ("CALC:INT:STOP:TINT " ++ formatDouble seconds)

def integralStopInterval : Session T Float := queryValue "CALC:INT:STOP:TINT?"

def setPowerCorrection (correction : PowerCorrection) : Session T Unit :=
  send ("CALC:POW:CORR " ++ correction.toScpi)

def powerCorrection : Session T PowerCorrection := do
  ofExcept (parsePowerCorrection (← ScpiClient.query "CALC:POW:CORR?"))

end Integration

section Sweep

def setSweepEnabled (block : SweepBlock) (on : Bool) : Session T Unit :=
  send (sweepNode block ++ ":STAT " ++ formatOn on)

def sweepEnabled (block : SweepBlock) : Session T Bool := queryBool (sweepNode block ++ ":STAT?")

def setSweepTime (block : SweepBlock) (seconds : Float) : Session T Unit :=
  send (sweepNode block ++ ":TIME " ++ formatDouble seconds)

def sweepTime (block : SweepBlock) : Session T Float := queryValue (sweepNode block ++ ":TIME?")

def setSweepOffsetTime (block : SweepBlock) (seconds : Float) : Session T Unit :=
  send (sweepNode block ++ ":OFFS:TIME " ++ formatDouble seconds)

def sweepOffsetTime (block : SweepBlock) : Session T Float :=
  queryValue (sweepNode block ++ ":OFFS:TIME?")

def countFault (count : Int) : Fault :=
  .invalidArgument ("sweep count must be at least 1, got " ++ toText count)

def setSweepCount (block : SweepBlock) (count : Int) : Session T Unit :=
  if count < 1 then throw (countFault count)
  else send (sweepNode block ++ ":COUN " ++ toText count)

def sweepCount (block : SweepBlock) : Session T Int := queryInt (sweepNode block ++ ":COUN?")

def sparsingFault (factor : Int) : Fault :=
  .invalidArgument ("sparsing factor must be 1..65535, got " ++ toText factor)

def setSweepSparsing (block : SweepBlock) (factor : Int) : Session T Unit :=
  if factor < 1 ∨ 65535 < factor then throw (sparsingFault factor)
  else send (sweepNode block ++ ":SFAC " ++ toText factor)

def sweepSparsing (block : SweepBlock) : Session T Int := queryInt (sweepNode block ++ ":SFAC?")

end Sweep

end NormaInstrument

end Norma
