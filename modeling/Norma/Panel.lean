import Norma.DriverRegister
import Norma.ErrorFifo
import Norma.Parameter
import Norma.Lib.Cells

namespace Norma

open ErrorCode
open CNumber (nineDigits)

instance Single.parameter : (r : Single) → Parameter r.Value
  | .aperture | .syncLevel | .syncFilterFrequency | .syncTimeout | .triggerStartLevel |
    .triggerStopLevel | .transformStart | .transformStop | .integralStopInterval => parameterFloat
  | .syncEnabled | .syncFilter | .transpose | .displayEnabled | .outputEnabled | .concurrent |
    .continuous | .integralEnabled | .integralAutoClear => parameterBool
  | .gpibAddress | .serialBaud | .harmonicOrder | .transformCycles => parameterInt
  | .syncSlope | .triggerStartSlope | .triggerStopSlope => parameterSlope
  | .wiringSystem => parameterWiring
  | .syncLevelUnit => parameterLevelUnit
  | .byteOrder => parameterByteOrder
  | .keyLock => parameterKeyLock
  | .date => parameterDate
  | .timeOfDay => parameterTime
  | .transformMode => parameterTransformMode
  | .transformGrouping => parameterGrouping
  | .integralStartSource => parameterStart
  | .integralStopSource => parameterStop
  | .powerCorrection => parameterCorrection

instance InputPart.parameter : (part : InputPart) → Parameter part.Value
  | .coupling => parameterCoupling
  | .gain => parameterFloat
  | .filter => parameterBool
  | .shunt => parameterShunt

instance SensePart.parameter : (part : SensePart) → Parameter part.Value
  | .range => parameterFloat
  | .autorange => parameterBool
  | .scale => parameterFloat

instance SweepPart.parameter : (part : SweepPart) → Parameter part.Value
  | .enabled => parameterBool
  | .time | .offsetTime => parameterFloat
  | .count | .sparsing => parameterInt

instance Register.parameter : (r : Register) → Parameter r.Value
  | .single r => r.parameter
  | .mask _ _ => parameterInt
  | .input _ part => part.parameter
  | .sense _ _ part => part.parameter
  | .sweep _ part => part.parameter

def dataOutOfRange (text : Text) : ScpiErrorInfo :=
  ⟨kDataOutOfRange, "Data out of range;" ++ text⟩

def illegalValue (text : Text) : ScpiErrorInfo :=
  ⟨kIllegalParameterValue, "Illegal parameter value;" ++ text⟩

abbrev Verdict (A : Type) := Except ScpiErrorInfo A

section Verdicts

def within (low high x : Float) : Verdict Float :=
  if nineDigits x < low ∨ high < nineDigits x then .error (dataOutOfRange (formatDouble x))
  else .ok (nineDigits x)

def between (low high n : Int) : Verdict Int :=
  if n < low ∨ high < n then .error (dataOutOfRange (toText n)) else .ok n

def snapped (ranges : Ranges) (x : Float) : Verdict Float :=
  if nineDigits x < ranges.front * 0.999 ∨ ranges.back * 1.001 < nineDigits x then
    .error (dataOutOfRange (formatDouble x))
  else
    .ok ((ranges.values.find? fun candidate => nineDigits x * 0.999 ≤ candidate).getD ranges.back)

def cutOff (x : Float) : Verdict Float :=
  match ([100, 1.0e3, 1.0e4] : List Float).find?
      fun allowed => (nineDigits x - allowed).abs ≤ allowed * 1e-6 with
  | none => .error (illegalValue (formatDouble x))
  | some allowed => .ok allowed

def evenCycles (n : Int) : Verdict Int :=
  if n < 4 ∨ 12 < n then .error (dataOutOfRange (toText n))
  else if n ≠ 4 ∧ n ≠ 6 ∧ n ≠ 8 ∧ n ≠ 10 ∧ n ≠ 12 then .error (illegalValue (toText n))
  else .ok n

def calendarDate (date : Date) : Verdict Date :=
  if date.month < 1 ∨ 12 < date.month ∨ date.day < 1 ∨ 31 < date.day then
    .error (dataOutOfRange "SYSTem:DATE")
  else .ok date

def clockTime (time : Time) : Verdict Time :=
  if time.hours < 0 ∨ 23 < time.hours ∨ time.minutes < 0 ∨ 59 < time.minutes ∨
      time.seconds < 0 ∨ 59 < time.seconds then .error (dataOutOfRange "SYSTem:TIME")
  else .ok time

end Verdicts

abbrev Memory := (r : Register) → r.Value

def levelLimit : LevelUnit → Float
  | .percent => 150
  | .absolute => 1000

def Single.verdict (memory : Memory) : (r : Single) → r.Value → Verdict r.Value
  | .aperture => within kMinAperture kMaxAperture
  | .syncLevel =>
      within (-levelLimit (memory (.single .syncLevelUnit)))
        (levelLimit (memory (.single .syncLevelUnit)))
  | .syncFilterFrequency => cutOff
  | .syncTimeout => within 0.015 3600
  | .triggerStartLevel | .triggerStopLevel => within (-1.0e7) 1.0e7
  | .transformStart | .transformStop => within 0 1.0e6
  | .integralStopInterval => within 1.0e-3 9.99e6
  | .gpibAddress => between 1 30
  | .serialBaud => between 1200 115200
  | .harmonicOrder => between 0 100
  | .transformCycles => evenCycles
  | .date => calendarDate
  | .timeOfDay => clockTime
  | .wiringSystem | .syncEnabled | .syncLevelUnit | .syncSlope | .syncFilter | .byteOrder |
    .transpose | .displayEnabled | .outputEnabled | .keyLock | .concurrent | .continuous |
    .triggerStartSlope | .triggerStopSlope | .transformMode | .transformGrouping |
    .integralEnabled | .integralAutoClear | .integralStartSource | .integralStopSource |
    .powerCorrection => .ok

def InputPart.verdict : (part : InputPart) → part.Value → Verdict part.Value
  | .gain => within 0 1.0e12
  | .coupling | .filter | .shunt => .ok

def SensePart.verdict (ranges : Ranges) : (part : SensePart) → part.Value → Verdict part.Value
  | .range => snapped ranges
  | .autorange => .ok
  | .scale => within 0.9 1.0e7

def SweepPart.verdict : (part : SweepPart) → part.Value → Verdict part.Value
  | .enabled => .ok
  | .time => within 1.0e-3 3600
  | .offsetTime => within (-3600) 3600
  | .count => between 1 1000000
  | .sparsing => between 1 65535

def Sensed.ranges (options : SimulatorOptions) : Sensed → Ranges
  | .voltage => options.voltageRanges
  | .current => options.currentRanges

def currentOnly (name : Text) : ScpiErrorInfo :=
  ⟨kSettingsConflict, "Settings conflict;" ++ name ++ " applies to current channels only"⟩

def InputPart.unavailable (options : SimulatorOptions) (channel : Int) (part : InputPart) :
    Option ScpiErrorInfo :=
  if options.channels < channel then some (dataOutOfRange ("input channel " ++ toText channel))
  else if channel % 2 ≠ 0 then none
  else
    match part with
    | .gain => some (currentOnly "GAIN")
    | .shunt => some (currentOnly "SHUNt")
    | .coupling | .filter => none

namespace Register

def verdict (options : SimulatorOptions) (memory : Memory) :
    (r : Register) → r.Value → Verdict r.Value
  | .single r => r.verdict memory
  | .mask _ _ => between 0 65535
  | .input _ part => part.verdict
  | .sense sensed _ part => part.verdict (sensed.ranges options)
  | .sweep _ part => part.verdict

-- The inputs that are not there, and the settings that a voltage channel does not have.
def unavailable (options : SimulatorOptions) : Register → Option ScpiErrorInfo
  | .input channel part => part.unavailable options (channelNumber channel)
  | _ => none

def refused : (r : Register) → r.Value → Option Fault
  | .single .aperture, x =>
      if kMinAperture ≤ x ∧ x ≤ kMaxAperture then none
      else some (NormaInstrument.apertureFault x)
  | .single .gpibAddress, n =>
      if n < 1 ∨ 30 < n then some (NormaInstrument.gpibFault n) else none
  | .single .harmonicOrder, n => if n < 0 then some (NormaInstrument.orderFault n) else none
  | .single .transformCycles, n =>
      if n = 4 ∨ n = 6 ∨ n = 8 ∨ n = 10 ∨ n = 12 then none
      else some (NormaInstrument.cyclesFault n)
  | .mask _ _, n =>
      if n < 0 ∨ 65535 < n then
        some (.invalidArgument ("status register mask must be 0..65535, got " ++ toText n))
      else none
  | .sweep _ .count, n => if n < 1 then some (NormaInstrument.countFault n) else none
  | .sweep _ .sparsing, n =>
      if n < 1 ∨ 65535 < n then some (NormaInstrument.sparsingFault n) else none
  | _, _ => none

def cells : Cells State Register Register.Value where
  cell r := r.cell.toLens
  independent hne s v := cell_independent hne s v

end Register

-- A range that is chosen is no longer chosen by the instrument.
def Memory.store (memory : Memory) : (r : Register) → r.Value → Memory
  | .sense sensed phase .range, range =>
      Function.update (Function.update memory (.sense sensed phase .range) range)
        (.sense sensed phase .autorange) false
  | r, value => Function.update memory r value

def Memory.written (options : SimulatorOptions) (memory : Memory) (r : Register)
    (value : r.Value) : r.Value :=
  match r.refused value, r.verdict options memory value with
  | none, .ok kept => kept
  | _, _ => memory r

def factory (options : SimulatorOptions) : Memory :=
  Register.cells.view (NormaSimulator.new options).state

inductive Call where
  | write (r : Register) (value : r.Value)
  | read (r : Register)
  | checkErrors
  | reset
  | clearStatus

inductive Reply where
  | done
  | value (r : Register) (value : r.Value)
  | failed (fault : Fault)

structure Panel where
  memory : Memory
  errors : List ScpiErrorInfo

namespace Panel

def report (panel : Panel) (entry : ScpiErrorInfo) : Panel :=
  { panel with errors := BoundedQueue.push kErrorQueueSize overflowEntry panel.errors entry }

def noResponse (timeout : Int) : Fault :=
  .timeout ("simulated transport: no response pending, read timed out after " ++ toText timeout ++
    " ms")

variable (options : SimulatorOptions) (timeout : Int) (panel : Panel)

def write (r : Register) (value : r.Value) : Reply × Panel :=
  match r.refused value with
  | some fault => (.failed fault, panel)
  | none =>
      match r.unavailable options with
      | some entry => (.done, panel.report entry)
      | none =>
          match r.verdict options panel.memory value with
          | .error entry => (.done, panel.report entry)
          | .ok kept => (.done, { panel with memory := panel.memory.store r kept })

def read (r : Register) : Reply × Panel :=
  match r.unavailable options with
  | some entry => (.failed (noResponse timeout), panel.report entry)
  | none => (.value r (r.parameter.seen (panel.memory r)), panel)

def checkErrors : Reply × Panel :=
  (if panel.errors = [] then .done else .failed (.scpi panel.errors), { panel with errors := [] })

def call : Call → Reply × Panel
  | .write r value => panel.write options r value
  | .read r => panel.read options timeout r
  | .checkErrors => panel.checkErrors
  | .reset => (.done, { panel with memory := factory options })
  | .clearStatus => (.done, { panel with errors := [] })

def reported : Call → Option ScpiErrorInfo
  | .write r value =>
      match r.refused value, r.unavailable options, r.verdict options panel.memory value with
      | none, some entry, _ => some entry
      | none, none, .error entry => some entry
      | _, _, _ => none
  | .read r => r.unavailable options
  | _ => none

end Panel

section Reports

variable (options : SimulatorOptions) (timeout : Int)

def Panel.reports : Panel → List Call → List ScpiErrorInfo
  | _, [] => []
  | panel, call :: calls =>
      (panel.reported options call).toList ++
        reports (panel.call options timeout call).2 calls

end Reports

end Norma
