import Norma.Measured
import Norma.Lib.FloatOrder
import Mathlib.Analysis.SpecialFunctions.Trigonometric.Inverse

namespace Norma

inductive Exact where
  | number (x : ℝ)
  | nan

namespace Exact

noncomputable section

def lift (f : ℝ → ℝ) : Exact → Exact
  | number x => number (f x)
  | nan => nan

def lift₂ (f : ℝ → ℝ → ℝ) : Exact → Exact → Exact
  | number x, number y => number (f x y)
  | _, _ => nan

def liftOn (p : ℝ → Prop) [DecidablePred p] (f : ℝ → ℝ) : Exact → Exact
  | number x => if p x then number (f x) else nan
  | nan => nan

-- What IEEE arithmetic makes an infinity of is not a number here.
def divide : Exact → Exact → Exact
  | number x, number y => if y = 0 then nan else number (x / y)
  | _, _ => nan

def compare (r : ℝ → ℝ → Prop) [DecidableRel r] : Exact → Exact → Bool
  | number x, number y => r x y
  | _, _ => false

def isNan : Exact → Bool
  | number _ => false
  | nan => true

open Classical in
instance : Arith Exact where
  add := lift₂ (· + ·)
  sub := lift₂ (· - ·)
  mul := lift₂ (· * ·)
  div := divide
  neg := lift (- ·)
  ofScientific mantissa negative exponent :=
    number (OfScientific.ofScientific mantissa negative exponent)
  ofInt n := number n
  lt := compare (· < ·)
  eq := compare (· = ·)
  nan := nan
  isNan := isNan
  abs := lift (|·|)
  sqrt := liftOn (0 ≤ ·) Real.sqrt
  cos := lift Real.cos
  sin := lift Real.sin
  acos := liftOn (fun x => -1 ≤ x ∧ x ≤ 1) Real.arccos
  ceil := lift fun x => ⌈x⌉

theorem isNan_iff (x : Exact) : Arith.isNan x = true ↔ x = nan := by
  cases x with
  | number x => exact iff_of_false Bool.false_ne_true nofun
  | nan => exact iff_of_true rfl rfl

theorem number_div (x : ℝ) {y : ℝ} (h : y ≠ 0) : number x / number y = number (x / y) := if_neg h

def ofFloat (x : Float) : Exact :=
  if x.isFinite then number (FloatOrder.value x / FloatOrder.unitsOfOne) else nan

end

end Exact

section Map

variable {D E : Type}

def PhaseSignal.map (f : D → E) (phase : PhaseSignal D) : PhaseSignal E where
  voltageRms := f phase.voltageRms
  currentRms := f phase.currentRms
  phaseShiftDeg := f phase.phaseShiftDeg
  voltageDc := f phase.voltageDc
  currentDc := f phase.currentDc
  voltageThd := f phase.voltageThd
  currentThd := f phase.currentThd

def SimulatedSignal.map (f : D → E) (signal : SimulatedSignal D) : SimulatedSignal E where
  present := signal.present
  frequency := f signal.frequency
  phases := fun phase => (signal.phases phase).map f

def ChannelConfig.map (f : D → E) (config : ChannelConfig D) : ChannelConfig E where
  range := f config.range
  autorange := config.autorange
  scale := f config.scale

def SweepConfig.map (f : D → E) (sweep : SweepConfig D) : SweepConfig E where
  enabled := sweep.enabled
  time := f sweep.time
  offsetTime := f sweep.offsetTime
  count := sweep.count
  sparsing := sweep.sparsing
  functions := sweep.functions

def SimulatorState.map (f : D → E) (state : SimulatorState D) : SimulatorState E :=
  { state with
    gain := fun channel => f (state.gain channel)
    filterFrequency := f state.filterFrequency
    voltage := fun phase => (state.voltage phase).map f
    current := fun phase => (state.current phase).map f
    aperture := f state.aperture
    samplingFrequency := f state.samplingFrequency
    syncLevel := f state.syncLevel
    syncFilterFrequency := f state.syncFilterFrequency
    syncTimeout := f state.syncTimeout
    triggerStartLevel := f state.triggerStartLevel
    triggerStopLevel := f state.triggerStopLevel
    transformStart := f state.transformStart
    transformStop := f state.transformStop
    integralStopInterval := f state.integralStopInterval
    sweep := fun block => (state.sweep block).map f
    timerSeconds := f state.timerSeconds }

end Map

end Norma
