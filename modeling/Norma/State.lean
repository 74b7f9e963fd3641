import Norma.Lib.Lens
import Norma.Text
import Mathlib.Algebra.GroupWithZero.Nat

namespace Norma

inductive Coupling where
  | ac | dc
  deriving DecidableEq, Repr

inductive Shunt where
  | internal | external
  deriving DecidableEq, Repr

inductive WiringSystem where
  | threeWattmeter | twoWattmeter
  deriving DecidableEq, Repr

inductive Slope where
  | positive | negative
  deriving DecidableEq, Repr

inductive LevelUnit where
  | absolute | percent
  deriving DecidableEq, Repr

inductive DataFormat where
  | ascii | integer | real
  deriving DecidableEq, Repr

inductive ByteOrder where
  | normal | swapped
  deriving DecidableEq, Repr

inductive KeyLock where
  | off | on | remote
  deriving DecidableEq, Repr

inductive TransformMode where
  | fft | dft | std
  deriving DecidableEq, Repr

inductive HarmonicGrouping where
  | component | harmonic | hGroup | hsGroup | isGroup | sGroup
  deriving DecidableEq, Repr

inductive PowerCorrection where
  | star | delta
  deriving DecidableEq, Repr

inductive IntegralStartSource where
  | command | time | manual
  deriving DecidableEq, Repr

inductive IntegralStopSource where
  | command | time | manual | timeInterval
  deriving DecidableEq, Repr

inductive StatusRegister where
  | operation | questionable | questionableVoltage | questionableCurrent
  deriving DecidableEq, Repr

inductive RegisterPart where
  | condition | event | enable | positiveTransition | negativeTransition
  deriving DecidableEq, Repr

def kMinAperture : Float := 0.015
def kMaxAperture : Float := 3600
def kScpiNan : Float := 9.91e37
def kScpiNanThreshold : Float := kScpiNan * 0.999
abbrev kMaxInputChannel : Nat := 12
abbrev kMaxPhase : Nat := 6

-- Channels, phases, sweep blocks and setup slots are numbered; each has its zero.
instance (priority := 2000) neZeroChannels : NeZero (kMaxInputChannel + 1) := ⟨by decide⟩
instance neZeroPhase : NeZero kMaxPhase := ⟨by decide⟩
instance (priority := 2000) neZeroPhases : NeZero (kMaxPhase + 1) := ⟨by decide⟩
instance neZeroBlocks : NeZero 3 := ⟨by decide⟩
instance neZeroSlots : NeZero 25 := ⟨by decide⟩

structure Identification where
  manufacturer : Text
  model : Text
  serialNumber : Text
  firmwareVersion : Text

structure ScpiErrorInfo where
  code : Int
  message : Text
  deriving DecidableEq, Repr

structure DataFormatSetting where
  format : DataFormat
  length : Int
  deriving DecidableEq, Repr

structure Date where
  year : Int
  month : Int
  day : Int
  deriving DecidableEq, Repr

structure Time where
  hours : Int
  minutes : Int
  seconds : Int
  deriving DecidableEq, Repr

structure PhaseSignal (D : Type) where
  voltageRms : D
  currentRms : D
  phaseShiftDeg : D
  voltageDc : D
  currentDc : D
  voltageThd : D
  currentThd : D

structure SimulatedSignal (D : Type) where
  present : Bool
  frequency : D
  phases : Fin kMaxPhase → PhaseSignal D

def SimulatedSignal.initial : SimulatedSignal Float :=
  ⟨true, 50, fun _ => ⟨230, 1, 0, 0, 0, 0, 0⟩⟩

structure Ranges where
  values : List Float
  values_ne : values ≠ [] := by simp

def Ranges.front (ranges : Ranges) : Float := ranges.values.head ranges.values_ne

def Ranges.back (ranges : Ranges) : Float := ranges.values.getLast ranges.values_ne

theorem voltageRanges_ne : [0.3, 1.0, 3.0, 10.0, 30.0, 100.0, 300.0, 1000.0] ≠ ([] : List Float) :=
  List.cons_ne_nil _ _

theorem currentRanges_ne : [0.03, 0.1, 0.3, 1.0, 3.0, 10.0] ≠ ([] : List Float) :=
  List.cons_ne_nil _ _

theorem maxInputChannel_le : kMaxInputChannel ≤ kMaxInputChannel := Nat.le_refl _

structure SimulatorOptions where
  identification : Identification := ⟨"Fluke", "NORMA5000", "KN34512BA", "01.05"⟩
  scpiVersion : Text := "1999.0"
  optionsResponse : Text := "PP54,PI1"
  channels : Nat := kMaxInputChannel
  voltageRanges : Ranges := ⟨[0.3, 1.0, 3.0, 10.0, 30.0, 100.0, 300.0, 1000.0], voltageRanges_ne⟩
  currentRanges : Ranges := ⟨[0.03, 0.1, 0.3, 1.0, 3.0, 10.0], currentRanges_ne⟩
  channels_le : channels ≤ kMaxInputChannel := by first | exact maxInputChannel_le | decide

structure ChannelConfig (D : Type) where
  range : D
  autorange : Bool
  scale : D

structure SweepConfig (D : Type) where
  enabled : Bool
  time : D
  offsetTime : D
  count : Int
  sparsing : Int
  functions : List Text

structure RegisterState where
  event : Int := 0
  enable : Int := 0
  ptransition : Int := 0xFFFF
  ntransition : Int := 0
  previousCondition : Int := 0
  deriving DecidableEq, Repr

structure SimulatorState (D : Type) where
  wiringSystem : WiringSystem
  coupling : Fin (kMaxInputChannel + 1) → Coupling
  shunt : Fin (kMaxInputChannel + 1) → Shunt
  gain : Fin (kMaxInputChannel + 1) → D
  filter : Fin (kMaxInputChannel + 1) → Bool
  filterFrequency : D
  voltage : Fin (kMaxPhase + 1) → ChannelConfig D
  current : Fin (kMaxPhase + 1) → ChannelConfig D
  aperture : D
  samplingFrequency : D
  syncEnabled : Bool
  syncSource : Text
  syncLevel : D
  syncLevelUnit : LevelUnit
  syncSlope : Slope
  syncFilter : Bool
  syncFilterFrequency : D
  syncTimeout : D
  functions : List Text
  concurrent : Bool
  continuous : Bool
  initiated : Bool
  triggerStartSource : Text
  triggerStopSource : Text
  triggerStartLevel : D
  triggerStopLevel : D
  triggerStartSlope : Slope
  triggerStopSlope : Slope
  dataFormat : DataFormatSetting
  statusFormat : DataFormatSetting
  byteOrder : ByteOrder
  transpose : Bool
  harmonicOrder : Int
  transformMode : TransformMode
  transformFunctions : List Text
  transformStart : D
  transformStop : D
  transformCycles : Int
  transformGrouping : HarmonicGrouping
  integralEnabled : Bool
  integralRunning : Bool
  integralAutoClear : Bool
  integralFunctions : List Text
  integralStartSource : IntegralStartSource
  integralStopSource : IntegralStopSource
  integralStopInterval : D
  powerCorrection : PowerCorrection
  efficiencyInput : Text
  efficiencyOutput : Text
  sweep : Fin 3 → SweepConfig D
  displayEnabled : Bool
  displayFunctions : List Text
  outputEnabled : Bool
  keyLock : KeyLock
  date : Date
  time : Time
  gpibAddress : Int
  serialBaud : Int
  language : Text
  timerSeconds : D
  eventStatus : Int
  eventStatusEnable : Int
  serviceRequestEnable : Int
  operation : RegisterState
  questionable : RegisterState
  questionableVoltage : RegisterState
  questionableCurrent : RegisterState
  errors : List ScpiErrorInfo
  savedSetups : Fin 25 → Bool

abbrev State := SimulatorState Float

def SimulatorState.initial : State where
  wiringSystem := .threeWattmeter
  coupling _ := .ac
  shunt _ := .internal
  gain _ := 0
  filter _ := false
  filterFrequency := 3.0e5
  voltage _ := ⟨1000, true, 1⟩
  current _ := ⟨1000, true, 1⟩
  aperture := 0.1
  samplingFrequency := 1.0e5
  syncEnabled := true
  syncSource := "VOLT1"
  syncLevel := 0
  syncLevelUnit := .percent
  syncSlope := .positive
  syncFilter := false
  syncFilterFrequency := 1.0e3
  syncTimeout := 1
  functions := []
  concurrent := true
  continuous := true
  initiated := false
  triggerStartSource := "IMM"
  triggerStopSource := "IMM"
  triggerStartLevel := 0
  triggerStopLevel := 0
  triggerStartSlope := .positive
  triggerStopSlope := .positive
  dataFormat := ⟨.ascii, 6⟩
  statusFormat := ⟨.ascii, 16⟩
  byteOrder := .normal
  transpose := false
  harmonicOrder := 1
  transformMode := .fft
  transformFunctions := []
  transformStart := 0
  transformStop := 5000
  transformCycles := 10
  transformGrouping := .component
  integralEnabled := false
  integralRunning := false
  integralAutoClear := true
  integralFunctions := []
  integralStartSource := .command
  integralStopSource := .command
  integralStopInterval := 60
  powerCorrection := .star
  efficiencyInput := []
  efficiencyOutput := []
  sweep _ := ⟨false, 1, 0, 1, 1, []⟩
  displayEnabled := true
  displayFunctions := []
  outputEnabled := false
  keyLock := .off
  date := ⟨2026, 1, 1⟩
  time := ⟨12, 0, 0⟩
  gpibAddress := 5
  serialBaud := 115200
  language := "DEFault"
  timerSeconds := 0
  eventStatus := 0
  eventStatusEnable := 0
  serviceRequestEnable := 0
  operation := {}
  questionable := {}
  questionableVoltage := {}
  questionableCurrent := {}
  errors := []
  savedSetups _ := false

structure NormaSimulator where
  options : SimulatorOptions
  state : State
  signal : SimulatedSignal Float

namespace NormaSimulator

def reset (sim : NormaSimulator) : NormaSimulator :=
  { sim with
    state := { SimulatorState.initial with
      coupling := fun _ => .dc
      shunt := fun _ => .internal
      gain := fun _ => 1
      filter := fun _ => true
      voltage := fun _ => ⟨sim.options.voltageRanges.back, true, 1⟩
      current := fun _ => ⟨sim.options.currentRanges.back, true, 1⟩
      errors := sim.state.errors } }

def clearStatus (sim : NormaSimulator) : NormaSimulator :=
  { sim with
    state := { sim.state with
      errors := []
      eventStatus := 0
      operation := { sim.state.operation with event := 0 }
      questionable := { sim.state.questionable with event := 0 }
      questionableVoltage := { sim.state.questionableVoltage with event := 0 }
      questionableCurrent := { sim.state.questionableCurrent with event := 0 } } }

def new (options : SimulatorOptions) : NormaSimulator :=
  reset ⟨options, .initial, .initial⟩

end NormaSimulator

end Norma
