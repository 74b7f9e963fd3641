import Norma.Limits
import Norma.Lib.FloatDivision

namespace Norma

open FloatOrder

structure Unrejected (low high x : Float) : Prop where
  low : ¬x < low
  high : ¬high < x

instance (low high x : Float) : Decidable (Unrejected low high x) :=
  decidable_of_iff (¬x < low ∧ ¬high < x) ⟨fun h => ⟨h.1, h.2⟩, fun h => ⟨h.low, h.high⟩⟩

def SweepConfig.Timed (sweep : SweepConfig Float) : Prop := Unrejected 1.0e-3 3600 sweep.time

structure SimulatorState.Timed (state : State) : Prop where
  aperture : Unrejected kMinAperture kMaxAperture state.aperture
  sweep : ∀ block, (state.sweep block).Timed

section Runs

variable {a : Access} {state : State}

theorem SimulatorState.Timed.of_numbers {s t : State} (h : s.Timed)
    (hnumbers : t.numbers = s.numbers) : t.Timed := by
  simp only [SimulatorState.numbers, Prod.mk.injEq] at hnumbers
  obtain ⟨-, ⟨haperture, -⟩, -, -, hsweep, -⟩ := hnumbers
  refine ⟨haperture ▸ h.aperture, fun block => ?_⟩
  have hblock := congrFun hsweep block
  simp only [Prod.mk.injEq] at hblock
  have hold := h.sweep block
  rw [SweepConfig.Timed, ← hblock.1] at hold
  exact hold

theorem NumberSetting.timed {f : Setting Float} {min max x : Float}
    (h : NumberSetting a f min max) (hs : a.sim.state.Timed) (hlow : ¬x < min)
    (hhigh : ¬max < x) : (f.set a.sim.state x).Timed := by
  cases h with
  | aperture => exact { hs with aperture := ⟨hlow, hhigh⟩ }
  | sweepTime block => exact { hs with sweep := forall_update hs.sweep (show SweepConfig.Timed _ from ⟨hlow, hhigh⟩) }
  | sweepOffsetTime block => exact { hs with sweep := forall_update hs.sweep (hs.sweep block) }
  | scale hconfig => cases hconfig <;> exact ⟨hs.aperture, hs.sweep⟩
  | _ => exact ⟨hs.aperture, hs.sweep⟩

theorem IntegerSetting.timed {f : Setting Int} {min max n : Int} (h : IntegerSetting f min max)
    (hs : a.sim.state.Timed) : (f.set a.sim.state n).Timed := by
  cases h with
  | sweepCount block => exact { hs with sweep := forall_update hs.sweep (hs.sweep block) }
  | sweepSparsing block => exact { hs with sweep := forall_update hs.sweep (hs.sweep block) }
  | _ => exact ⟨hs.aperture, hs.sweep⟩

theorem Stored.timed (h : Stored a state) (hs : a.sim.state.Timed) : state.Timed := by
  cases h with
  | number hsetting hlow hhigh => exact hsetting.timed hs hlow hhigh
  | longestSweep block =>
    have hlongest : Unrejected 1.0e-3 3600 3600 := by decide +kernel
    exact { hs with sweep := forall_update hs.sweep (show SweepConfig.Timed _ from hlongest) }
  | integer hsetting => exact hsetting.timed hs
  | @mask reg _ _ hsetting => cases hsetting <;> cases reg <;> exact ⟨hs.aperture, hs.sweep⟩
  | boolean hsetting value => exact hs.of_numbers (hsetting.numberless _ _)
  | keyword hsetting value => exact hs.of_numbers (hsetting.numberless _ _)
  | functionList hsetting => exact hs.of_numbers (hsetting.numberless _ _)
  | range hconfig => cases hconfig <;> exact ⟨hs.aperture, hs.sweep⟩
  | source hsetting => exact hs.of_numbers (hsetting.numberless _ _)
  | sweepState => exact hs.of_numbers (enableSweep_numberless _ _ _)
  | sequence => exact hs.of_numbers (enableSweep_numberless _ _ _)
  | abort =>
    exact hs.of_numbers ((enableSweep_numberless 2 _ _).trans (enableSweep_numberless 1 _ _))
  | deleteAll =>
    exact hs.of_numbers ((enableSweep_numberless 2 _ _).trans (enableSweep_numberless 1 _ _))
  | format hpair =>
    exact hs.of_numbers ((hpair.numberless.2 _ _).trans (hpair.numberless.1 _ _))
  | _ => exact ⟨hs.aperture, hs.sweep⟩

theorem reset_timed (sim : NormaSimulator) : sim.reset.state.Timed where
  aperture := (by decide +kernel : Unrejected kMinAperture kMaxAperture 0.1)
  sweep _ := (by decide +kernel : Unrejected 1.0e-3 3600 1)

theorem Change.timed {b : Access} (h : Change a b) (hs : a.sim.state.Timed) : b.sim.state.Timed :=
  h.of_numbers (P := fun _ state => state.Timed) (fun _ _ hnumbers hold => hold.of_numbers hnumbers)
    (reset_timed a.sim) (fun _ _ hstored => hstored.timed hs) hs

theorem Move.timed (move : Move) (hvalid : move.Valid) (hs : move.before.state.Timed) :
    move.after.state.Timed := by
  cases move with
  | command step =>
    have hchange := handleCommand_change hvalid
    simp only [Move.after]
    generalize step.after = out at hchange
    cases hchange with
    | undefined rest => exact SimulatorState.Timed.of_numbers hs (pushError_numbers _ _ _)
    | changed rest _ _ _ _ _ _ hchange => exact hchange.timed hs
  | signal sim given => exact hs

theorem Reachable.timed {sim : NormaSimulator} (h : Reachable sim) : sim.state.Timed :=
  h.invariant (fun sim => sim.state.Timed) (fun options => reset_timed ⟨options, .initial, .initial⟩)
    Move.timed

end Runs

section Points

structure SimulatorState.OrdinaryTimes (state : State) : Prop where
  aperture : state.aperture.isNaN = false
  first : (state.sweep 1).time.isNaN = false
  second : (state.sweep 2).time.isNaN = false

def recordedSweep (state : State) : SweepConfig Float :=
  if (state.sweep 1).enabled then state.sweep 1 else state.sweep 2

def RecordsNothing (state : State) : Prop :=
  ((state.sweep 1).enabled = false ∧ (state.sweep 2).enabled = false) ∨
    (recordedSweep state).time < state.aperture

variable {state : State}

theorem limits_value : kMinAperture.isFinite = true ∧ kMaxAperture.isFinite = true ∧
    (1.0e-3 : Float).isFinite = true ∧ (3600 : Float).isFinite = true ∧
    0 < value kMinAperture ∧ 0 < value 1.0e-3 ∧
    (262144 : Float).isFinite = true ∧ value 262144 = 262144 * unitsOfOne ∧
    value 3600 * unitsOfOne ≤ value 262144 * value kMinAperture := by
  decide +kernel

theorem max_aperture (h : ¬state.aperture < kMinAperture) :
    Arith.max state.aperture kMinAperture = state.aperture := by
  change (if decide (state.aperture < kMinAperture) = true then kMinAperture else _) = _
  rw [if_neg (by simpa using h)]

theorem points_bounds {time : Float} (hs : state.Timed) (hordinary : state.aperture.isNaN = false)
    (htime : Unrejected 1.0e-3 3600 time) (hnan : time.isNaN = false) :
    0 ≤ CNumber.truncInt32 (time / state.aperture) ∧
      (CNumber.truncInt32 (time / state.aperture) = 0 ↔ time < state.aperture) := by
  obtain ⟨hmin, hmax, hshort, hlong, hleast, hleast', hhigh, hvalue, hproduct⟩ := limits_value
  have hfinite := finite_of_range hmin hmax hordinary hs.aperture.low hs.aperture.high
  have hfinite' := finite_of_range hshort hlong hnan htime.low htime.high
  obtain ⟨haperture, -⟩ := value_of_range hmin hmax hordinary hs.aperture.low hs.aperture.high
  obtain ⟨hlow, hupper⟩ := value_of_range hshort hlong hnan htime.low htime.high
  have hunit : (0 : Int) < unitsOfOne := Int.natCast_pos.mpr unitsOfOne_pos
  have hbound : value time * unitsOfOne ≤ value 262144 * value state.aperture :=
    calc value time * unitsOfOne ≤ value 3600 * unitsOfOne :=
          Int.mul_le_mul_of_nonneg_right hupper hunit.le
      _ ≤ value 262144 * value kMinAperture := hproduct
      _ ≤ value 262144 * value state.aperture := by
          refine Int.mul_le_mul_of_nonneg_left haperture ?_
          rw [hvalue]
          exact Int.mul_nonneg (by decide) hunit.le
  obtain ⟨hnonneg, -, hzero⟩ := truncInt32_div (hleast'.trans_le hlow) (hleast.trans_le haperture)
    hhigh hvalue (by decide) hbound
  exact ⟨hnonneg, hzero.trans (lt_iff hfinite' hfinite).symm⟩

theorem tracePoints_bounds (hs : state.Timed) (hordinary : state.OrdinaryTimes) :
    0 ≤ tracePoints state ∧ tracePoints state ≤ kTraceCapacity ∧
      (tracePoints state = 0 ↔ RecordsNothing state) := by
  unfold tracePoints RecordsNothing
  split
  · next hoff =>
    simp only [Bool.and_eq_true, Bool.not_eq_true'] at hoff
    exact ⟨Int.le_refl 0, by decide, iff_of_true rfl (.inl hoff)⟩
  · next hon =>
    simp only [Bool.and_eq_true, Bool.not_eq_true'] at hon
    have htime : Unrejected 1.0e-3 3600 (recordedSweep state).time ∧
        (recordedSweep state).time.isNaN = false := by
      unfold recordedSweep
      split
      · exact ⟨hs.sweep 1, hordinary.first⟩
      · exact ⟨hs.sweep 2, hordinary.second⟩
    obtain ⟨hnonneg, hzero⟩ := points_bounds hs hordinary.aperture htime.1 htime.2
    rw [max_aperture hs.aperture.low]
    change 0 ≤ min (CNumber.truncInt32 ((recordedSweep state).time / state.aperture)) 4096 ∧ _ ∧
      (min (CNumber.truncInt32 ((recordedSweep state).time / state.aperture)) 4096 = 0 ↔ _)
    refine ⟨by omega, Int.min_le_right _ _, ?_⟩
    rw [or_iff_right hon, ← hzero]
    omega

end Points

end Norma
