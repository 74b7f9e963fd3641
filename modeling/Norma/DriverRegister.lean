import Norma.Driver
import Norma.FunctionList

namespace Norma

open FunctionList (sweepIndex)

inductive Single where
  | wiringSystem
  | aperture
  | syncEnabled
  | syncLevel
  | syncLevelUnit
  | syncSlope
  | syncFilter
  | syncFilterFrequency
  | syncTimeout
  | byteOrder
  | transpose
  | displayEnabled
  | outputEnabled
  | keyLock
  | date
  | timeOfDay
  | gpibAddress
  | serialBaud
  | concurrent
  | continuous
  | triggerStartLevel
  | triggerStartSlope
  | triggerStopLevel
  | triggerStopSlope
  | harmonicOrder
  | transformMode
  | transformStart
  | transformStop
  | transformCycles
  | transformGrouping
  | integralEnabled
  | integralAutoClear
  | integralStartSource
  | integralStopSource
  | integralStopInterval
  | powerCorrection
  deriving DecidableEq

namespace Single

abbrev Value : Single → Type
  | wiringSystem => WiringSystem
  | aperture | syncLevel | syncFilterFrequency | syncTimeout | triggerStartLevel |
  triggerStopLevel | transformStart | transformStop | integralStopInterval => Float
  | syncEnabled | syncFilter | transpose | displayEnabled | outputEnabled | concurrent |
  continuous | integralEnabled | integralAutoClear => Bool
  | syncLevelUnit => LevelUnit
  | syncSlope | triggerStartSlope | triggerStopSlope => Slope
  | byteOrder => ByteOrder
  | keyLock => KeyLock
  | date => Date
  | timeOfDay => Time
  | gpibAddress | serialBaud | harmonicOrder | transformCycles => Int
  | transformMode => TransformMode
  | transformGrouping => HarmonicGrouping
  | integralStartSource => IntegralStartSource
  | integralStopSource => IntegralStopSource
  | powerCorrection => PowerCorrection

section Driver

variable {T : Type} [Transport T]

def write : (r : Single) → r.Value → Session T Unit
  | wiringSystem => NormaInstrument.setWiringSystem
  | aperture => NormaInstrument.setAperture
  | syncEnabled => NormaInstrument.setSyncEnabled
  | syncLevel => NormaInstrument.setSyncLevel
  | syncLevelUnit => NormaInstrument.setSyncLevelUnit
  | syncSlope => NormaInstrument.setSyncSlope
  | syncFilter => NormaInstrument.setSyncFilter
  | syncFilterFrequency => NormaInstrument.setSyncFilterFrequency
  | syncTimeout => NormaInstrument.setSyncTimeout
  | byteOrder => NormaInstrument.setByteOrder
  | transpose => NormaInstrument.setTranspose
  | displayEnabled => NormaInstrument.setDisplayEnabled
  | outputEnabled => NormaInstrument.setOutputEnabled
  | keyLock => NormaInstrument.setKeyLock
  | date => NormaInstrument.setDate
  | timeOfDay => NormaInstrument.setTime
  | gpibAddress => NormaInstrument.setGpibAddress
  | serialBaud => NormaInstrument.setSerialBaud
  | concurrent => NormaInstrument.setConcurrent
  | continuous => NormaInstrument.setContinuous
  | triggerStartLevel => NormaInstrument.setTriggerStartLevel
  | triggerStartSlope => NormaInstrument.setTriggerStartSlope
  | triggerStopLevel => NormaInstrument.setTriggerStopLevel
  | triggerStopSlope => NormaInstrument.setTriggerStopSlope
  | harmonicOrder => NormaInstrument.setHarmonicOrder
  | transformMode => NormaInstrument.setTransformMode
  | transformStart => NormaInstrument.setTransformStart
  | transformStop => NormaInstrument.setTransformStop
  | transformCycles => NormaInstrument.setTransformCycles
  | transformGrouping => NormaInstrument.setTransformGrouping
  | integralEnabled => NormaInstrument.setIntegralEnabled
  | integralAutoClear => NormaInstrument.setIntegralAutoClear
  | integralStartSource => NormaInstrument.setIntegralStartSource
  | integralStopSource => NormaInstrument.setIntegralStopSource
  | integralStopInterval => NormaInstrument.setIntegralStopInterval
  | powerCorrection => NormaInstrument.setPowerCorrection

def read : (r : Single) → Session T r.Value
  | wiringSystem => NormaInstrument.wiringSystem
  | aperture => NormaInstrument.aperture
  | syncEnabled => NormaInstrument.syncEnabled
  | syncLevel => NormaInstrument.syncLevel
  | syncLevelUnit => NormaInstrument.syncLevelUnit
  | syncSlope => NormaInstrument.syncSlope
  | syncFilter => NormaInstrument.syncFilter
  | syncFilterFrequency => NormaInstrument.syncFilterFrequency
  | syncTimeout => NormaInstrument.syncTimeout
  | byteOrder => NormaInstrument.byteOrder
  | transpose => NormaInstrument.transpose
  | displayEnabled => NormaInstrument.displayEnabled
  | outputEnabled => NormaInstrument.outputEnabled
  | keyLock => NormaInstrument.keyLock
  | date => NormaInstrument.date
  | timeOfDay => NormaInstrument.timeOfDay
  | gpibAddress => NormaInstrument.gpibAddress
  | serialBaud => NormaInstrument.serialBaud
  | concurrent => NormaInstrument.concurrent
  | continuous => NormaInstrument.continuous
  | triggerStartLevel => NormaInstrument.triggerStartLevel
  | triggerStartSlope => NormaInstrument.triggerStartSlope
  | triggerStopLevel => NormaInstrument.triggerStopLevel
  | triggerStopSlope => NormaInstrument.triggerStopSlope
  | harmonicOrder => NormaInstrument.harmonicOrder
  | transformMode => NormaInstrument.transformMode
  | transformStart => NormaInstrument.transformStart
  | transformStop => NormaInstrument.transformStop
  | transformCycles => NormaInstrument.transformCycles
  | transformGrouping => NormaInstrument.transformGrouping
  | integralEnabled => NormaInstrument.integralEnabled
  | integralAutoClear => NormaInstrument.integralAutoClear
  | integralStartSource => NormaInstrument.integralStartSource
  | integralStopSource => NormaInstrument.integralStopSource
  | integralStopInterval => NormaInstrument.integralStopInterval
  | powerCorrection => NormaInstrument.powerCorrection

end Driver

def cell : (r : Single) → Setting r.Value
  | wiringSystem => .wiringSystem
  | aperture => .aperture
  | syncEnabled => .syncEnabled
  | syncLevel => .syncLevel
  | syncLevelUnit => .syncLevelUnit
  | syncSlope => .syncSlope
  | syncFilter => .syncFilter
  | syncFilterFrequency => .syncFilterFrequency
  | syncTimeout => .syncTimeout
  | byteOrder => .byteOrder
  | transpose => .transpose
  | displayEnabled => .displayEnabled
  | outputEnabled => .outputEnabled
  | keyLock => .keyLock
  | date => .date
  | timeOfDay => .time
  | gpibAddress => .gpibAddress
  | serialBaud => .serialBaud
  | concurrent => .concurrent
  | continuous => .continuous
  | triggerStartLevel => .triggerStartLevel
  | triggerStartSlope => .triggerStartSlope
  | triggerStopLevel => .triggerStopLevel
  | triggerStopSlope => .triggerStopSlope
  | harmonicOrder => .harmonicOrder
  | transformMode => .transformMode
  | transformStart => .transformStart
  | transformStop => .transformStop
  | transformCycles => .transformCycles
  | transformGrouping => .transformGrouping
  | integralEnabled => .integralEnabled
  | integralAutoClear => .integralAutoClear
  | integralStartSource => .integralStartSource
  | integralStopSource => .integralStopSource
  | integralStopInterval => .integralStopInterval
  | powerCorrection => .powerCorrection

theorem cell_independent {r other : Single} (hne : other ≠ r) (s : State) (v : r.Value) :
    other.cell.get (r.cell.set s v) = other.cell.get s := by
  cases r <;> cases other <;> first
    | rfl
    | exact absurd rfl hne

end Single

inductive MaskPart where
  | enable
  | positiveTransition
  | negativeTransition
  deriving DecidableEq

inductive InputPart where
  | coupling
  | gain
  | filter
  | shunt
  deriving DecidableEq

inductive Sensed where
  | voltage
  | current
  deriving DecidableEq

inductive SensePart where
  | range
  | autorange
  | scale
  deriving DecidableEq

inductive SweepPart where
  | enabled
  | time
  | offsetTime
  | count
  | sparsing
  deriving DecidableEq

-- The settings that the driver writes and reads; channels and phases count from zero here.
inductive Register where
  | single (r : Single)
  | mask (reg : StatusRegister) (part : MaskPart)
  | input (channel : Fin kMaxInputChannel) (part : InputPart)
  | sense (sensed : Sensed) (phase : Fin kMaxPhase) (part : SensePart)
  | sweep (block : SweepBlock) (part : SweepPart)
  deriving DecidableEq

def channelNumber (channel : Fin kMaxInputChannel) : Int := channel.val + 1

def phaseNumber (phase : Fin kMaxPhase) : Int := phase.val + 1

def MaskPart.part : MaskPart → RegisterPart
  | enable => .enable
  | positiveTransition => .positiveTransition
  | negativeTransition => .negativeTransition

def MaskPart.lens : MaskPart → Lens RegisterState Int
  | enable => RegisterState.enableLens
  | positiveTransition => RegisterState.ptransitionLens
  | negativeTransition => RegisterState.ntransitionLens

abbrev InputPart.Value : InputPart → Type
  | coupling => Coupling
  | gain => Float
  | filter => Bool
  | shunt => Shunt

def InputPart.setting : (part : InputPart) → Setting (Fin (kMaxInputChannel + 1) → part.Value)
  | coupling => .coupling
  | gain => .gain
  | filter => .filter
  | shunt => .shunt

def Sensed.setting : Sensed → Setting (Fin (kMaxPhase + 1) → ChannelConfig Float)
  | voltage => .voltage
  | current => .current

abbrev SensePart.Value : SensePart → Type
  | range => Float
  | autorange => Bool
  | scale => Float

def SensePart.lens : (part : SensePart) → Lens (ChannelConfig Float) part.Value
  | range => ChannelConfig.rangeLens
  | autorange => ChannelConfig.autorangeLens
  | scale => ChannelConfig.scaleLens

abbrev SweepPart.Value : SweepPart → Type
  | enabled => Bool
  | time => Float
  | offsetTime => Float
  | count => Int
  | sparsing => Int

def SweepPart.lens : (part : SweepPart) → Lens (SweepConfig Float) part.Value
  | enabled => SweepConfig.enabledLens
  | time => SweepConfig.timeLens
  | offsetTime => SweepConfig.offsetTimeLens
  | count => SweepConfig.countLens
  | sparsing => SweepConfig.sparsingLens

namespace Register

abbrev Value : Register → Type
  | single r => r.Value
  | mask _ _ => Int
  | input _ part => part.Value
  | sense _ _ part => part.Value
  | sweep _ part => part.Value

section Driver

variable {T : Type} [Transport T]

def writeInput (channel : Int) : (part : InputPart) → part.Value → Session T Unit
  | .coupling => NormaInstrument.setInputCoupling channel
  | .gain => NormaInstrument.setInputGain channel
  | .filter => NormaInstrument.setInputFilter channel
  | .shunt => NormaInstrument.setInputShunt channel

def readInput (channel : Int) : (part : InputPart) → Session T part.Value
  | .coupling => NormaInstrument.inputCoupling channel
  | .gain => NormaInstrument.inputGain channel
  | .filter => NormaInstrument.inputFilter channel
  | .shunt => NormaInstrument.inputShunt channel

def writeSense (phase : Int) : Sensed → (part : SensePart) → part.Value → Session T Unit
  | .voltage, .range => NormaInstrument.setVoltageRange phase
  | .voltage, .autorange => NormaInstrument.setVoltageAutorange phase
  | .voltage, .scale => NormaInstrument.setVoltageScale phase
  | .current, .range => NormaInstrument.setCurrentRange phase
  | .current, .autorange => NormaInstrument.setCurrentAutorange phase
  | .current, .scale => NormaInstrument.setCurrentScale phase

def readSense (phase : Int) : Sensed → (part : SensePart) → Session T part.Value
  | .voltage, .range => NormaInstrument.voltageRange phase
  | .voltage, .autorange => NormaInstrument.voltageAutorange phase
  | .voltage, .scale => NormaInstrument.voltageScale phase
  | .current, .range => NormaInstrument.currentRange phase
  | .current, .autorange => NormaInstrument.currentAutorange phase
  | .current, .scale => NormaInstrument.currentScale phase

def writeSweep (block : SweepBlock) : (part : SweepPart) → part.Value → Session T Unit
  | .enabled => NormaInstrument.setSweepEnabled block
  | .time => NormaInstrument.setSweepTime block
  | .offsetTime => NormaInstrument.setSweepOffsetTime block
  | .count => NormaInstrument.setSweepCount block
  | .sparsing => NormaInstrument.setSweepSparsing block

def readSweep (block : SweepBlock) : (part : SweepPart) → Session T part.Value
  | .enabled => NormaInstrument.sweepEnabled block
  | .time => NormaInstrument.sweepTime block
  | .offsetTime => NormaInstrument.sweepOffsetTime block
  | .count => NormaInstrument.sweepCount block
  | .sparsing => NormaInstrument.sweepSparsing block

def write : (r : Register) → r.Value → Session T Unit
  | single r => r.write
  | mask reg part => NormaInstrument.setStatus reg part.part
  | input channel part => writeInput (channelNumber channel) part
  | sense sensed phase part => writeSense (phaseNumber phase) sensed part
  | sweep block part => writeSweep block part

def read : (r : Register) → Session T r.Value
  | single r => r.read
  | mask reg part => NormaInstrument.status reg part.part
  | input channel part => readInput (channelNumber channel) part
  | sense sensed phase part => readSense (phaseNumber phase) sensed part
  | sweep block part => readSweep block part

end Driver

section Cell

def cell : (r : Register) → Setting r.Value
  | single r => r.cell
  | mask reg part => (registerState reg).focus part.lens
  | input channel part => part.setting.entry channel.succ
  | sense sensed phase part => (sensed.setting.entry phase.succ).focus part.lens
  | sweep block part => (Setting.sweep.entry (sweepIndex block)).focus part.lens

theorem entry_other {I A : Type} [DecidableEq I] {i j : I} (h : i ≠ j) (f : Setting (I → A))
    (s : State) (v : A) : (f.entry i).get ((f.entry j).set s v) = (f.entry i).get s := by
  change f.get (f.set s (Function.update (f.get s) j v)) i = f.get s i
  rw [Lens.get_set, Function.update_of_ne h]

theorem part_other {A B C : Type} (f : Setting A) {m : Lens A B} {n : Lens A C}
    (h : ∀ a c, m.get (n.set a c) = m.get a) (s : State) (v : C) :
    (f.focus m).get ((f.focus n).set s v) = (f.focus m).get s := by
  change m.get (f.get (f.set s (n.set (f.get s) v))) = m.get (f.get s)
  rw [Lens.get_set, h]

theorem entry_part_other {I A B C : Type} [DecidableEq I] {i j : I} (h : i ≠ j)
    (f : Setting (I → A)) (m : Lens A B) (n : Lens A C) (s : State) (v : C) :
    ((f.entry i).focus m).get (((f.entry j).focus n).set s v) = ((f.entry i).focus m).get s :=
  congrArg m.get (entry_other h f s (n.set ((f.entry j).get s) v))

theorem sweepIndex_injective : Function.Injective sweepIndex := by
  intro first second
  cases first <;> cases second <;> decide

theorem mask_independent {reg other : StatusRegister} {part part' : MaskPart}
    (hne : mask other part' ≠ mask reg part) (s : State) (v : Int) :
    (mask other part').cell.get ((mask reg part).cell.set s v) =
      (mask other part').cell.get s := by
  by_cases hreg : other = reg
  · subst hreg
    refine part_other (registerState other) ?_ s v
    cases part <;> cases part' <;> first
      | exact absurd rfl hne
      | exact fun _ _ => rfl
  · cases reg <;> cases other <;> first
      | exact absurd rfl hreg
      | rfl

theorem input_independent {channel other : Fin kMaxInputChannel} {part part' : InputPart}
    (hne : input other part' ≠ input channel part) (s : State) (v : part.Value) :
    (input other part').cell.get ((input channel part).cell.set s v) =
      (input other part').cell.get s := by
  by_cases hpart : part' = part
  · subst hpart
    exact entry_other (fun h => hne (by rw [Fin.succ_inj.mp h])) part'.setting s v
  · cases part <;> cases part' <;> first
      | exact absurd rfl hpart
      | rfl

theorem sense_independent {sensed sensed' : Sensed} {phase other : Fin kMaxPhase}
    {part part' : SensePart} (hne : sense sensed' other part' ≠ sense sensed phase part)
    (s : State) (v : part.Value) :
    (sense sensed' other part').cell.get ((sense sensed phase part).cell.set s v) =
      (sense sensed' other part').cell.get s := by
  by_cases hsensed : sensed' = sensed
  · subst hsensed
    by_cases hphase : other = phase
    · subst hphase
      refine part_other (sensed'.setting.entry other.succ) ?_ s v
      cases part <;> cases part' <;> first
        | exact absurd rfl hne
        | exact fun _ _ => rfl
    · exact entry_part_other (fun h => hphase (Fin.succ_inj.mp h)) _ _ _ s v
  · cases sensed <;> cases sensed' <;> first
      | exact absurd rfl hsensed
      | rfl

theorem sweep_independent {block other : SweepBlock} {part part' : SweepPart}
    (hne : sweep other part' ≠ sweep block part) (s : State) (v : part.Value) :
    (sweep other part').cell.get ((sweep block part).cell.set s v) =
      (sweep other part').cell.get s := by
  by_cases hblock : other = block
  · subst hblock
    refine part_other (Setting.sweep.entry (sweepIndex other)) ?_ s v
    cases part <;> cases part' <;> first
      | exact absurd rfl hne
      | exact fun _ _ => rfl
  · exact entry_part_other (fun h => hblock (sweepIndex_injective h)) _ _ _ s v

theorem cell_independent {r other : Register} (hne : other ≠ r) (s : State) (v : r.Value) :
    other.cell.get (r.cell.set s v) = other.cell.get s := by
  cases r with
  | single r =>
    cases other with
    | single other => exact Single.cell_independent (fun h => hne (by rw [h])) s v
    | mask reg _ => cases r <;> cases reg <;> rfl
    | input _ part => cases r <;> cases part <;> rfl
    | sense sensed _ _ => cases r <;> cases sensed <;> rfl
    | sweep _ _ => cases r <;> rfl
  | mask reg part =>
    cases other with
    | single other => cases reg <;> cases other <;> rfl
    | mask other part' => exact mask_independent hne s v
    | input _ part' => cases reg <;> cases part' <;> rfl
    | sense sensed _ _ => cases reg <;> cases sensed <;> rfl
    | sweep _ _ => cases reg <;> rfl
  | input channel part =>
    cases other with
    | single other => cases part <;> cases other <;> rfl
    | mask reg _ => cases part <;> cases reg <;> rfl
    | input other part' => exact input_independent hne s v
    | sense sensed _ _ => cases part <;> cases sensed <;> rfl
    | sweep _ _ => cases part <;> rfl
  | sense sensed phase part =>
    cases other with
    | single other => cases sensed <;> cases other <;> rfl
    | mask reg _ => cases sensed <;> cases reg <;> rfl
    | input _ part' => cases sensed <;> cases part' <;> rfl
    | sense sensed' other part' => exact sense_independent hne s v
    | sweep _ _ => cases sensed <;> rfl
  | sweep block part =>
    cases other with
    | single other => cases other <;> rfl
    | mask reg _ => cases reg <;> rfl
    | input _ part' => cases part' <;> rfl
    | sense sensed _ _ => cases sensed <;> rfl
    | sweep other part' => exact sweep_independent hne s v

end Cell

end Register

end Norma
