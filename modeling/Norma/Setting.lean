import Norma.State

namespace Norma

-- A field of the state other than the error queue and the event status register.
structure Setting (A : Type) extends Lens State A where
  errors_set : ∀ s a, (set s a).errors = s.errors := by intros; rfl
  eventStatus_set : ∀ s a, (set s a).eventStatus = s.eventStatus := by intros; rfl

namespace Setting

variable {A B : Type}

attribute [simp] errors_set eventStatus_set

def focus (f : Setting A) (m : Lens A B) : Setting B where
  toLens := f.toLens.focus m
  errors_set _ _ := f.errors_set _ _
  eventStatus_set _ _ := f.eventStatus_set _ _

def entry {I : Type} [DecidableEq I] (f : Setting (I → A)) (i : I) : Setting A :=
  f.focus (Lens.entry i)

def wiringSystem : Setting WiringSystem where
  get s := s.wiringSystem
  set s v := { s with wiringSystem := v }

def coupling : Setting (Fin (kMaxInputChannel + 1) → Coupling) where
  get s := s.coupling
  set s v := { s with coupling := v }

def shunt : Setting (Fin (kMaxInputChannel + 1) → Shunt) where
  get s := s.shunt
  set s v := { s with shunt := v }

def gain : Setting (Fin (kMaxInputChannel + 1) → Float) where
  get s := s.gain
  set s v := { s with gain := v }

def filter : Setting (Fin (kMaxInputChannel + 1) → Bool) where
  get s := s.filter
  set s v := { s with filter := v }

def voltage : Setting (Fin (kMaxPhase + 1) → ChannelConfig Float) where
  get s := s.voltage
  set s v := { s with voltage := v }

def current : Setting (Fin (kMaxPhase + 1) → ChannelConfig Float) where
  get s := s.current
  set s v := { s with current := v }

def aperture : Setting Float where
  get s := s.aperture
  set s v := { s with aperture := v }

def syncEnabled : Setting Bool where
  get s := s.syncEnabled
  set s v := { s with syncEnabled := v }

def syncSource : Setting Text where
  get s := s.syncSource
  set s v := { s with syncSource := v }

def syncLevel : Setting Float where
  get s := s.syncLevel
  set s v := { s with syncLevel := v }

def syncLevelUnit : Setting LevelUnit where
  get s := s.syncLevelUnit
  set s v := { s with syncLevelUnit := v }

def syncSlope : Setting Slope where
  get s := s.syncSlope
  set s v := { s with syncSlope := v }

def syncFilter : Setting Bool where
  get s := s.syncFilter
  set s v := { s with syncFilter := v }

def syncFilterFrequency : Setting Float where
  get s := s.syncFilterFrequency
  set s v := { s with syncFilterFrequency := v }

def syncTimeout : Setting Float where
  get s := s.syncTimeout
  set s v := { s with syncTimeout := v }

def functions : Setting (List Text) where
  get s := s.functions
  set s v := { s with functions := v }

def concurrent : Setting Bool where
  get s := s.concurrent
  set s v := { s with concurrent := v }

def continuous : Setting Bool where
  get s := s.continuous
  set s v := { s with continuous := v }

def initiated : Setting Bool where
  get s := s.initiated
  set s v := { s with initiated := v }

def triggerStartSource : Setting Text where
  get s := s.triggerStartSource
  set s v := { s with triggerStartSource := v }

def triggerStopSource : Setting Text where
  get s := s.triggerStopSource
  set s v := { s with triggerStopSource := v }

def triggerStartLevel : Setting Float where
  get s := s.triggerStartLevel
  set s v := { s with triggerStartLevel := v }

def triggerStopLevel : Setting Float where
  get s := s.triggerStopLevel
  set s v := { s with triggerStopLevel := v }

def triggerStartSlope : Setting Slope where
  get s := s.triggerStartSlope
  set s v := { s with triggerStartSlope := v }

def triggerStopSlope : Setting Slope where
  get s := s.triggerStopSlope
  set s v := { s with triggerStopSlope := v }

def dataFormat : Setting DataFormatSetting where
  get s := s.dataFormat
  set s v := { s with dataFormat := v }

def statusFormat : Setting DataFormatSetting where
  get s := s.statusFormat
  set s v := { s with statusFormat := v }

def byteOrder : Setting ByteOrder where
  get s := s.byteOrder
  set s v := { s with byteOrder := v }

def transpose : Setting Bool where
  get s := s.transpose
  set s v := { s with transpose := v }

def harmonicOrder : Setting Int where
  get s := s.harmonicOrder
  set s v := { s with harmonicOrder := v }

def transformMode : Setting TransformMode where
  get s := s.transformMode
  set s v := { s with transformMode := v }

def transformFunctions : Setting (List Text) where
  get s := s.transformFunctions
  set s v := { s with transformFunctions := v }

def transformStart : Setting Float where
  get s := s.transformStart
  set s v := { s with transformStart := v }

def transformStop : Setting Float where
  get s := s.transformStop
  set s v := { s with transformStop := v }

def transformCycles : Setting Int where
  get s := s.transformCycles
  set s v := { s with transformCycles := v }

def transformGrouping : Setting HarmonicGrouping where
  get s := s.transformGrouping
  set s v := { s with transformGrouping := v }

def integralEnabled : Setting Bool where
  get s := s.integralEnabled
  set s v := { s with integralEnabled := v }

def integralRunning : Setting Bool where
  get s := s.integralRunning
  set s v := { s with integralRunning := v }

def integralAutoClear : Setting Bool where
  get s := s.integralAutoClear
  set s v := { s with integralAutoClear := v }

def integralFunctions : Setting (List Text) where
  get s := s.integralFunctions
  set s v := { s with integralFunctions := v }

def integralStartSource : Setting IntegralStartSource where
  get s := s.integralStartSource
  set s v := { s with integralStartSource := v }

def integralStopSource : Setting IntegralStopSource where
  get s := s.integralStopSource
  set s v := { s with integralStopSource := v }

def integralStopInterval : Setting Float where
  get s := s.integralStopInterval
  set s v := { s with integralStopInterval := v }

def powerCorrection : Setting PowerCorrection where
  get s := s.powerCorrection
  set s v := { s with powerCorrection := v }

def efficiency : Setting (Text × Text) where
  get s := (s.efficiencyInput, s.efficiencyOutput)
  set s v := { s with efficiencyInput := v.1, efficiencyOutput := v.2 }

def sweep : Setting (Fin 3 → SweepConfig Float) where
  get s := s.sweep
  set s v := { s with sweep := v }

def displayEnabled : Setting Bool where
  get s := s.displayEnabled
  set s v := { s with displayEnabled := v }

def displayFunctions : Setting (List Text) where
  get s := s.displayFunctions
  set s v := { s with displayFunctions := v }

def outputEnabled : Setting Bool where
  get s := s.outputEnabled
  set s v := { s with outputEnabled := v }

def keyLock : Setting KeyLock where
  get s := s.keyLock
  set s v := { s with keyLock := v }

def date : Setting Date where
  get s := s.date
  set s v := { s with date := v }

def time : Setting Time where
  get s := s.time
  set s v := { s with time := v }

def gpibAddress : Setting Int where
  get s := s.gpibAddress
  set s v := { s with gpibAddress := v }

def serialBaud : Setting Int where
  get s := s.serialBaud
  set s v := { s with serialBaud := v }

def language : Setting Text where
  get s := s.language
  set s v := { s with language := v }

def timerSeconds : Setting Float where
  get s := s.timerSeconds
  set s v := { s with timerSeconds := v }

def eventStatusEnable : Setting Int where
  get s := s.eventStatusEnable
  set s v := { s with eventStatusEnable := v }

def serviceRequestEnable : Setting Int where
  get s := s.serviceRequestEnable
  set s v := { s with serviceRequestEnable := v }

def operation : Setting RegisterState where
  get s := s.operation
  set s v := { s with operation := v }

def questionable : Setting RegisterState where
  get s := s.questionable
  set s v := { s with questionable := v }

def questionableVoltage : Setting RegisterState where
  get s := s.questionableVoltage
  set s v := { s with questionableVoltage := v }

def questionableCurrent : Setting RegisterState where
  get s := s.questionableCurrent
  set s v := { s with questionableCurrent := v }

def savedSetups : Setting (Fin 25 → Bool) where
  get s := s.savedSetups
  set s v := { s with savedSetups := v }

end Setting

namespace ChannelConfig

def rangeLens : Lens (ChannelConfig Float) Float where
  get c := c.range
  set c v := { c with range := v }

def autorangeLens : Lens (ChannelConfig Float) Bool where
  get c := c.autorange
  set c v := { c with autorange := v }

def scaleLens : Lens (ChannelConfig Float) Float where
  get c := c.scale
  set c v := { c with scale := v }

end ChannelConfig

namespace SweepConfig

def enabledLens : Lens (SweepConfig Float) Bool where
  get c := c.enabled
  set c v := { c with enabled := v }

def timeLens : Lens (SweepConfig Float) Float where
  get c := c.time
  set c v := { c with time := v }

def offsetTimeLens : Lens (SweepConfig Float) Float where
  get c := c.offsetTime
  set c v := { c with offsetTime := v }

def countLens : Lens (SweepConfig Float) Int where
  get c := c.count
  set c v := { c with count := v }

def sparsingLens : Lens (SweepConfig Float) Int where
  get c := c.sparsing
  set c v := { c with sparsing := v }

def functionsLens : Lens (SweepConfig Float) (List Text) where
  get c := c.functions
  set c v := { c with functions := v }

end SweepConfig

namespace RegisterState

def eventLens : Lens RegisterState Int where
  get r := r.event
  set r v := { r with event := v }

def enableLens : Lens RegisterState Int where
  get r := r.enable
  set r v := { r with enable := v }

def ptransitionLens : Lens RegisterState Int where
  get r := r.ptransition
  set r v := { r with ptransition := v }

def ntransitionLens : Lens RegisterState Int where
  get r := r.ntransition
  set r v := { r with ntransition := v }

end RegisterState

def registerState : StatusRegister → Setting RegisterState
  | .questionable => .questionable
  | .questionableVoltage => .questionableVoltage
  | .questionableCurrent => .questionableCurrent
  | .operation => .operation

end Norma
