import Norma.State
import Mathlib.Data.Int.Bitwise

namespace Norma

class Arith (D : Type) extends Add D, Sub D, Mul D, Div D, Neg D, OfScientific D where
  ofInt : Int → D
  lt : D → D → Bool
  eq : D → D → Bool
  nan : D
  isNan : D → Bool
  abs : D → D
  sqrt : D → D
  cos : D → D
  sin : D → D
  acos : D → D
  ceil : D → D

namespace Arith

instance : Arith Float where
  ofInt := Float.ofInt
  lt x y := x < y
  eq x y := x == y
  nan := CNumber.nan
  isNan := Float.isNaN
  abs := Float.abs
  sqrt := Float.sqrt
  cos := Float.cos
  sin := Float.sin
  acos := Float.acos
  ceil := Float.ceil

variable {D : Type} [Arith D]

def max (x y : D) : D := if lt x y then y else x

def min (x y : D) : D := if lt y x then y else x

def clamp (x low high : D) : D := if lt x low then low else if lt high x then high else x

end Arith

open Arith

def kNormal : Int := 0
def kUnderrange : Int := 1
def kOverrange : Int := 2
def kUndefined : Int := 8
def kNotAvailable : Int := 16
def kPowerFactorCapacitive : Int := 128

structure SimulatedMeasurement (D : Type) where
  value : D
  status : Int

structure FunctionName where
  quantity : Text
  suffix : Int
  tail : List Text

def splitFunction (function : Text) : FunctionName :=
  match splitUnquoted function ':' with
  | [] => ⟨[], 0, []⟩
  | head :: tail =>
      let head := makeToken head
      ⟨head.text, head.suffix, tail.map fun node => upper (trim node)⟩

def tailIs (tail expected : List Text) : Bool :=
  tail.length == expected.length && (tail.zipWith mnemonicMatches expected).all id

def endsWith (tail any : List Text) : Bool :=
  match tail.getLast? with
  | none => false
  | some last => any.any (mnemonicMatches last)

def aggregatedPhases (suffix : Int) : List Nat :=
  if 1 ≤ suffix ∧ suffix ≤ kMaxPhase then [suffix.toNat]
  else if suffix = 0 then [1, 2, 3]
  else if suffix = 460 then [4, 5, 6]
  else []

inductive Accumulator where
  | none | positive | negative | both
  deriving DecidableEq

def accumulatorOf (tail : List Text) : Accumulator :=
  if endsWith tail ["IPOSitive"] then .positive
  else if endsWith tail ["INEGative"] then .negative
  else if endsWith tail ["INTegral"] then .both
  else .none

section

variable {D : Type} [Arith D]

def Accumulator.apply (accumulator : Accumulator) (value : D) : D :=
  match accumulator with
  | .positive => Arith.max value 0.0
  | .negative => Arith.min value 0.0
  | .none | .both => value

structure PhaseSums (D : Type) where
  voltageRms : D
  currentRms : D
  voltageDc : D
  currentDc : D
  active : D
  apparent : D
  reactive : D
  voltageThd : D
  currentThd : D
  worstPhaseShift : D

def PhaseSums.add (sums : PhaseSums D) (s : PhaseSignal D) : PhaseSums D :=
  let radians := s.phaseShiftDeg * 3.14159265358979323846 / 180.0
  { voltageRms := sums.voltageRms + s.voltageRms
    currentRms := sums.currentRms + s.currentRms
    voltageDc := sums.voltageDc + s.voltageDc
    currentDc := sums.currentDc + s.currentDc
    active := sums.active + s.voltageRms * s.currentRms * cos radians
    apparent := sums.apparent + s.voltageRms * s.currentRms
    reactive := sums.reactive + s.voltageRms * s.currentRms * sin radians
    voltageThd := sums.voltageThd + s.voltageThd
    currentThd := sums.currentThd + s.currentThd
    worstPhaseShift :=
      if lt (abs sums.worstPhaseShift) (abs s.phaseShiftDeg) then s.phaseShiftDeg
      else sums.worstPhaseShift }

def sumPhases (signal : SimulatedSignal D) (phases : List Nat) : PhaseSums D :=
  phases.foldl (fun sums phase => sums.add (signal.phases (Fin.ofNat _ (phase - 1))))
    ⟨0.0, 0.0, 0.0, 0.0, 0.0, 0.0, 0.0, 0.0, 0.0, 0.0⟩

def unavailable : SimulatedMeasurement D := ⟨nan, kNotAvailable⟩

def undefined : SimulatedMeasurement D := ⟨nan, kUndefined⟩

def measureTime (state : SimulatorState D) (signal : SimulatedSignal D) (synchronized : Bool)
    (tail : List Text) : SimulatedMeasurement D :=
  if tail = [] then
    if synchronized && lt 0.0 signal.frequency then
      let period := 1.0 / signal.frequency
      ⟨ceil (state.aperture / period) * period, kNormal⟩
    else ⟨state.aperture, kNormal⟩
  else if tailIs tail ["RELative"] then ⟨state.timerSeconds, kNormal⟩
  else unavailable

def channelValue (peakHigh : List Text) (tail : List Text) (mean dc thd scale phase : D) :
    Option D :=
  if tail = [] ∨ tailIs tail ["DC"] then some (mean * scale)
  else if tailIs tail ["AC"] then
    some (sqrt (Arith.max (mean * mean - dc * dc) 0.0) * scale)
  else if tailIs tail ["MEAN"] then some (dc * scale)
  else if tailIs tail ["RMEAN"] || tailIs tail ["RMCORR"] then some (mean * 0.900316316 * scale)
  else if tailIs tail ["THD"] then some thd
  else if tailIs tail ["CFACtor"] then some 1.41421356237
  else if tailIs tail ["FFACtor"] then some 1.11072073454
  else if tailIs tail ["PTP"] then some (2.0 * 1.41421356237 * mean * scale)
  else if peakHigh.any (fun mnemonic => tailIs tail [mnemonic]) then
    some (1.41421356237 * mean * scale)
  else if tailIs tail ["PLOW"] then some (-1.41421356237 * mean * scale)
  else if tailIs tail ["PHASe"] then some phase
  else none

def powerFactor (sums : PhaseSums D) : D :=
  if eq sums.apparent 0.0 then 1.0 else sums.active / sums.apparent

def impedance (meanVoltage meanCurrent : D) : D :=
  if eq meanCurrent 0.0 then nan else meanVoltage / meanCurrent

inductive Quantity (D : Type) where
  | unavailable
  | plain (value : D)
  | flagged (value : D) (status : Int)
  | voltage (value : D)
  | current (value : D)
  | efficiency

def Quantity.ofOption (wrap : D → Quantity D) : Option D → Quantity D
  | none => .unavailable
  | some value => wrap value

def powerQuantity (sums : PhaseSums D) (scale : D) (tail : List Text) : Quantity D :=
  if tail = [] ∨ tailIs tail ["ACTive"] then .plain (sums.active * scale)
  else if tailIs tail ["APParent"] then .plain (sums.apparent * scale)
  else if tailIs tail ["REACtive"] then .plain (sums.reactive * scale)
  else if tailIs tail ["FACTor"] then
    .flagged (if eq sums.apparent 0.0 then nan else sums.active / sums.apparent)
      (if lt sums.worstPhaseShift 0.0 then kPowerFactorCapacitive else kNormal)
  else if tailIs tail ["CORRected"] then .plain (sums.active * scale)
  else if tailIs tail ["EFFiciency"] then .efficiency
  else .unavailable

def quantityOf (sums : PhaseSums D) (count voltageScale currentScale : D)
    (quantity : Text) (tail : List Text) : Quantity D :=
  let meanVoltage := sums.voltageRms / count
  let meanCurrent := sums.currentRms / count
  let pf := powerFactor sums
  let z := impedance meanVoltage meanCurrent
  if mnemonicMatches quantity "VOLTage" then
    .ofOption .voltage (channelValue ["PHIGh", "PHIGH"] tail meanVoltage
      (sums.voltageDc / count) (sums.voltageThd / count) voltageScale 0.0)
  else if mnemonicMatches quantity "CURRent" then
    .ofOption .current (channelValue ["PHIGH"] tail meanCurrent
      (sums.currentDc / count) (sums.currentThd / count) currentScale sums.worstPhaseShift)
  else if mnemonicMatches quantity "POWer" then
    powerQuantity sums (voltageScale * currentScale) tail
  else if mnemonicMatches quantity "PHASe" ∧ tail = [] then
    let value := acos (clamp pf (-1.0) 1.0) * 180.0 / 3.14159265358979323846
    .plain (if lt sums.worstPhaseShift 0.0 then -value else value)
  else if mnemonicMatches quantity "IMPedance" ∧ (tail = [] ∨ tailIs tail ["APParent"]) then
    .plain z
  else if mnemonicMatches quantity "RESistance" then
    if tailIs tail ["SERial"] then .plain (z * pf)
    else if tailIs tail ["PARallel"] then .plain (if eq pf 0.0 then nan else z / pf)
    else .unavailable
  else if mnemonicMatches quantity "REACTance" then
    let sine := sqrt (Arith.max (1.0 - pf * pf) 0.0)
    if tailIs tail ["SERial"] then .plain (z * sine)
    else if tailIs tail ["PARallel"] then .plain (if eq sine 0.0 then nan else z / sine)
    else .unavailable
  else .unavailable

def rangeStatus (config : ChannelConfig D) (raw : D) (status : Int) : Int :=
  if config.autorange then status
  else if lt config.range raw then Int.lor status kOverrange
  else if lt raw (config.range * 0.05) then Int.lor status kUnderrange
  else status

def finishMeasurement (accumulator : Accumulator) (factor value : D) (status : Int)
    (rangeOf : Int → Int) : SimulatedMeasurement D :=
  let value := accumulator.apply (value * factor)
  if isNan value then ⟨value, Int.lor status kUndefined⟩ else ⟨value, rangeOf status⟩

def measureEfficiency (recurse : Text → Option (SimulatedMeasurement D)) (state : SimulatorState D)
    (finish : D → Int → (Int → Int) → SimulatedMeasurement D) : Option (SimulatedMeasurement D) :=
  if state.efficiencyInput = [] ∨ state.efficiencyOutput = [] then some unavailable
  else
    match recurse state.efficiencyInput, recurse state.efficiencyOutput with
    | some input, some output =>
        some (finish (if eq input.value 0.0 then nan else output.value / input.value) kNormal id)
    | _, _ => none

def Quantity.measurement (finish : D → Int → (Int → Int) → SimulatedMeasurement D)
    (voltageRange currentRange : Int → Int) (efficiency : Option (SimulatedMeasurement D)) :
    Quantity D → Option (SimulatedMeasurement D)
  | .unavailable => some Norma.unavailable
  | .plain value => some (finish value kNormal id)
  | .flagged value status => some (finish value status id)
  | .voltage value => some (finish value kNormal voltageRange)
  | .current value => some (finish value kNormal currentRange)
  | .efficiency => efficiency

def measurePhases (recurse : Text → Option (SimulatedMeasurement D)) (state : SimulatorState D)
    (signal : SimulatedSignal D) (parsed : FunctionName) (phases : List Nat) :
    Option (SimulatedMeasurement D) :=
  let sums := sumPhases signal phases
  let count := Arith.ofInt phases.length
  let index := Fin.ofNat (kMaxPhase + 1) (phases.headD 0)
  let voltage := state.voltage index
  let current := state.current index
  let accumulator := accumulatorOf parsed.tail
  let tail := if accumulator = .none then parsed.tail else parsed.tail.dropLast
  let harmonic := endsWith tail ["HAR"]
  let tail := if harmonic then tail.dropLast else tail
  let factor : D :=
    if harmonic then
      let order := Arith.ofInt (Max.max state.harmonicOrder 1)
      1.0 / (order * order)
    else 1.0
  let finish := finishMeasurement accumulator factor
  (quantityOf sums count voltage.scale current.scale parsed.quantity tail).measurement finish
    (rangeStatus voltage (sums.voltageRms / count)) (rangeStatus current (sums.currentRms / count))
    (measureEfficiency recurse state finish)

def measureStep (recurse : Text → Option (SimulatedMeasurement D)) (state : SimulatorState D)
    (signal : SimulatedSignal D) (function : Text) : Option (SimulatedMeasurement D) :=
  let parsed := splitFunction function
  let phases := aggregatedPhases parsed.suffix
  let synchronized := signal.present && state.syncEnabled
  let measuring := state.continuous || state.initiated
  if endsWith parsed.tail ["MINimum", "MAXimum"] then some unavailable
  else if endsWith parsed.tail ["IPOSitive", "INEGative", "INTegral"] && !state.integralEnabled then
    some unavailable
  else if !measuring then some undefined
  else if mnemonicMatches parsed.quantity "FREQuency" ∧ parsed.tail = [] then
    some (if synchronized then ⟨signal.frequency, kNormal⟩ else undefined)
  else if mnemonicMatches parsed.quantity "TIME" then
    some (measureTime state signal synchronized parsed.tail)
  else if phases = [] then some unavailable
  else if !synchronized then some undefined
  else measurePhases recurse state signal parsed phases

def measureFuel (state : SimulatorState D) (signal : SimulatedSignal D) :
    Nat → Text → Option (SimulatedMeasurement D)
  | 0, _ => none
  | fuel + 1, function => measureStep (measureFuel state signal fuel) state signal function

-- Two levels settle it: the references are the same at every level, so a recursion that is
-- still running at the third level never ends (`measure_eq_some_iff`).
def measure (state : SimulatorState D) (signal : SimulatedSignal D) (function : Text) :
    Option (SimulatedMeasurement D) :=
  measureFuel state signal 2 function

end

end Norma
