import Norma.Efficiency
import Norma.Exact
import Norma.TracePoints

namespace Norma

open Arith

namespace SimulatedMeasurement

variable {D : Type}

def Flagged (m : SimulatedMeasurement D) : Prop :=
  Int.land m.status kUndefined ≠ 0 ∨ Int.land m.status kNotAvailable ≠ 0

instance (m : SimulatedMeasurement D) : Decidable m.Flagged := by
  unfold Flagged
  infer_instance

def Agrees [Arith D] (m : SimulatedMeasurement D) : Prop := isNan m.value = true ↔ m.Flagged

end SimulatedMeasurement

def Unmarked (status : Int) : Prop :=
  Int.land status kUndefined = 0 ∧ Int.land status kNotAvailable = 0

instance (status : Int) : Decidable (Unmarked status) := by
  unfold Unmarked
  infer_instance

def measuresInterval {D : Type} (state : SimulatorState D) (function : Text) : Bool :=
  let parsed := splitFunction function
  (state.continuous || state.initiated) && mnemonicMatches parsed.quantity "TIME" &&
    parsed.tail == []

section Branches

variable {D : Type} [Arith D] {p : Prop} [Decidable p] {yes no : Option (SimulatedMeasurement D)}

theorem ite_agrees (hyes : p → ∀ m ∈ yes, m.Agrees) (hno : ¬p → ∀ m ∈ no, m.Agrees) :
    ∀ m ∈ (if p then yes else no), m.Agrees := by
  split
  · next hp => exact hyes hp
  · next hp => exact hno hp

theorem some_agrees {measured : SimulatedMeasurement D} (h : measured.Agrees) :
    ∀ m ∈ some measured, m.Agrees := by
  intro m hm
  rwa [← Option.some.inj hm]

theorem rangeStatus_unmarked (config : ChannelConfig D) (raw : D) :
    Unmarked (rangeStatus config raw kNormal) := by
  unfold rangeStatus
  split
  · decide
  · split
    · decide
    · split <;> decide

end Branches

section Steps

variable {state : SimulatorState Exact} {signal : SimulatedSignal Exact}
  {recurse : Text → Option (SimulatedMeasurement Exact)} {function : Text}

theorem unavailable_agrees : (unavailable : SimulatedMeasurement Exact).Agrees :=
  iff_of_true rfl (by decide : (⟨(), kNotAvailable⟩ : SimulatedMeasurement Unit).Flagged)

theorem undefined_agrees : (undefined : SimulatedMeasurement Exact).Agrees :=
  iff_of_true rfl (by decide : (⟨(), kUndefined⟩ : SimulatedMeasurement Unit).Flagged)

theorem value_agrees {value : Exact} (h : value ≠ .nan) {status : Int} (hstatus : Unmarked status) :
    SimulatedMeasurement.Agrees ⟨value, status⟩ := by
  refine iff_of_false (fun hnan => h (value.isNan_iff.mp hnan)) ?_
  simp [SimulatedMeasurement.Flagged, hstatus.1, hstatus.2]

theorem finish_agrees {status : Int} {rangeOf : Int → Int}
    (hundefined : Int.land (Int.lor status kUndefined) kUndefined ≠ 0)
    (hrange : Unmarked (rangeOf status)) (accumulator : Accumulator) (factor value : Exact) :
    (finishMeasurement accumulator factor value status rangeOf).Agrees := by
  unfold finishMeasurement
  dsimp only
  split
  · next hnan => exact iff_of_true hnan (.inl hundefined)
  · next hnan => exact value_agrees (fun hvalue => hnan ((Exact.isNan_iff _).mpr hvalue)) hrange

theorem measureEfficiency_agrees {accumulator : Accumulator} {factor : Exact} :
    ∀ m ∈ measureEfficiency recurse state (finishMeasurement accumulator factor), m.Agrees := by
  intro m hm
  unfold measureEfficiency at hm
  split at hm
  · obtain rfl := Option.some.inj hm
    exact unavailable_agrees
  · split at hm
    · obtain rfl := Option.some.inj hm
      exact finish_agrees (by decide) (by decide) _ _ _
    · cases hm

theorem measurement_agrees {quantity : Quantity Exact} {accumulator : Accumulator} {factor : Exact}
    {voltageRange currentRange : Int → Int} {efficiency : Option (SimulatedMeasurement Exact)}
    (hflags : quantity.Flags) (hvoltage : Unmarked (voltageRange kNormal))
    (hcurrent : Unmarked (currentRange kNormal)) (hefficiency : ∀ m ∈ efficiency, m.Agrees) :
    ∀ m ∈ quantity.measurement (finishMeasurement accumulator factor) voltageRange currentRange
      efficiency, m.Agrees := by
  cases quantity with
  | unavailable => exact some_agrees unavailable_agrees
  | plain value => exact some_agrees (finish_agrees (by decide) (by decide) _ _ _)
  | flagged value status =>
    refine some_agrees ?_
    rcases hflags value status rfl with rfl | rfl
    · exact finish_agrees (by decide) (by decide) _ _ _
    · exact finish_agrees (by decide) (by decide) _ _ _
  | voltage value => exact some_agrees (finish_agrees (by decide) hvoltage _ _ _)
  | current value => exact some_agrees (finish_agrees (by decide) hcurrent _ _ _)
  | efficiency => exact hefficiency

theorem measureTime_interval (state : SimulatorState Exact) {frequency : ℝ} (hfrequency : signal.frequency = .number frequency)
    (hpositive : 0 < frequency) (synchronized : Bool) :
    ((measureTime state signal synchronized []).value = .nan ↔ state.aperture = .nan) ∧
      (measureTime state signal synchronized []).status = kNormal := by
  unfold measureTime
  rw [if_pos rfl]
  split
  · refine ⟨?_, rfl⟩
    have hperiod : (1.0 / signal.frequency : Exact) = .number (1.0 / frequency) := by
      rw [hfrequency]
      exact Exact.number_div 1.0 hpositive.ne'
    have hne : (1.0 / frequency : ℝ) ≠ 0 := by positivity
    dsimp only
    rw [hperiod]
    cases haperture : state.aperture with
    | nan => exact iff_of_true rfl rfl
    | number aperture =>
      refine iff_of_false ?_ nofun
      change ceil (Exact.number aperture / Exact.number (1.0 / frequency)) * _ ≠ Exact.nan
      rw [Exact.number_div aperture hne]
      nofun
  · exact ⟨Iff.rfl, rfl⟩

theorem measure_interval (h : measuresInterval state function = true) :
    measure state signal function =
      some (measureTime state signal (signal.present && state.syncEnabled) []) := by
  simp only [measuresInterval, Bool.and_eq_true, beq_iff_eq] at h
  obtain ⟨⟨hmeasuring, htime⟩, htail⟩ := h
  have hfrequency : mnemonicMatches (splitFunction function).quantity "FREQuency" = false := by
    rcases mnemonic_spelling "TIME" (by decide) rfl htime with hname | hname
    · rw [hname]
      decide
    · rw [hname]
      decide
  have hextreme (any : List Text) : endsWith [] any = false := rfl
  unfold measure measureFuel measureStep
  dsimp only
  rw [htail, if_neg (by simp [hextreme]), if_neg (by simp [hextreme]), if_neg (by simp [hmeasuring]),
    if_neg (by simp [hfrequency]), if_pos htime]

theorem measureStep_agrees {frequency : ℝ} (hfrequency : signal.frequency = .number frequency)
    (htimer : state.timerSeconds ≠ .nan) (hinterval : measuresInterval state function = false) :
    ∀ m ∈ measureStep recurse state signal function, m.Agrees := by
  unfold measureStep
  refine ite_agrees (fun _ => some_agrees unavailable_agrees) fun _ => ?_
  refine ite_agrees (fun _ => some_agrees unavailable_agrees) fun _ => ?_
  refine ite_agrees (fun _ => some_agrees undefined_agrees) fun hmeasuring => ?_
  refine ite_agrees (fun _ => some_agrees ?_) fun _ => ?_
  · split
    · rw [hfrequency]
      exact value_agrees (by nofun) (by decide)
    · exact undefined_agrees
  refine ite_agrees (fun htime => some_agrees ?_) fun _ => ?_
  · have htail : (splitFunction function).tail ≠ [] := by
      intro htail
      refine Bool.false_ne_true (hinterval.symm.trans ?_)
      simp only [Bool.not_eq_true', Bool.not_eq_false] at hmeasuring
      simp [measuresInterval, hmeasuring, htime, htail]
    unfold measureTime
    rw [if_neg htail]
    split
    · exact value_agrees htimer (by decide)
    · exact unavailable_agrees
  refine ite_agrees (fun _ => some_agrees unavailable_agrees) fun _ => ?_
  refine ite_agrees (fun _ => some_agrees undefined_agrees) fun _ => ?_
  exact measurement_agrees (quantityOf_flags _ _ _ _ _ _) (rangeStatus_unmarked _ _)
    (rangeStatus_unmarked _ _) measureEfficiency_agrees

theorem measure_agrees_iff {m : SimulatedMeasurement Exact}
    (h : measure state signal function = some m) {frequency : ℝ}
    (hfrequency : signal.frequency = .number frequency) (hpositive : 0 < frequency)
    (htimer : state.timerSeconds ≠ .nan) :
    m.Agrees ↔ ¬(measuresInterval state function = true ∧ state.aperture = .nan) := by
  cases hinterval : measuresInterval state function with
  | false =>
    exact iff_of_true (measureStep_agrees hfrequency htimer hinterval m h) fun hboth =>
      Bool.false_ne_true hboth.1
  | true =>
    rw [measure_interval hinterval] at h
    obtain rfl := Option.some.inj h
    obtain ⟨hvalue, hstatus⟩ := measureTime_interval state hfrequency hpositive
      (signal.present && state.syncEnabled)
    have hunflagged : ¬(measureTime state signal (signal.present && state.syncEnabled) []).Flagged := by
      rw [SimulatedMeasurement.Flagged, hstatus]
      decide
    rw [SimulatedMeasurement.Agrees, Exact.isNan_iff, hvalue, iff_false_right hunflagged,
      and_iff_right rfl]

end Steps

section Runs

variable {a : Access} {state : State} {step : Step}

def SimulatorState.FlagsAll (state : State) : Prop :=
  ∀ (signal : SimulatedSignal ℝ) (function : Text) (m : SimulatedMeasurement Exact),
    0 < signal.frequency → measure (state.map .ofFloat) (signal.map .number) function = some m →
      m.Agrees

def Step.StoresNan (step : Step) : Prop :=
  step.isQuery = false ∧ step.key = Key.aper.text ∧
    ∃ value, step.received.Given value ∧ value.isNaN = true

theorem Step.StoresNan.not_ordinary (h : step.StoresNan) : ¬step.OrdinaryNumbers := by
  obtain ⟨hset, hkey, value, hgiven, hnan⟩ := h
  intro hordinary
  have haddress : step.received.AddressesNumber :=
    .inl (List.mem_map.mpr ⟨.aper, by simp, hkey.symm⟩)
  exact Bool.false_ne_true (((hordinary hset).number haddress value hgiven).symm.trans hnan)

theorem Stored.aperture (h : Stored a state) : state.aperture = a.sim.state.aperture ∨
    (a.command.key = Key.aper.text ∧ a.Given state.aperture) := by
  cases h with
  | number hsetting hlow hhigh haddress hgiven =>
    cases hsetting with
    | aperture hkey => exact .inr ⟨hkey, hgiven⟩
    | scale hconfig => cases hconfig <;> exact .inl rfl
    | _ => exact .inl rfl
  | integer hsetting => cases hsetting <;> exact .inl rfl
  | @mask reg _ _ hsetting => cases hsetting <;> cases reg <;> exact .inl rfl
  | boolean hsetting =>
    cases hsetting with
    | autorange hconfig => cases hconfig <;> exact .inl rfl
    | _ => exact .inl rfl
  | keyword hsetting => cases hsetting <;> exact .inl rfl
  | functionList hsetting => cases hsetting <;> exact .inl rfl
  | range hconfig => cases hconfig <;> exact .inl rfl
  | source hsetting => cases hsetting <;> exact .inl rfl
  | format hpair => cases hpair <;> exact .inl rfl
  | _ => exact .inl rfl

theorem Step.Valid.aperture (h : step.Valid) (hs : step.before.state.aperture.isNaN = false)
    (hstores : ¬step.StoresNan) : step.after.sim.state.aperture.isNaN = false := by
  rcases h.stateChange with hrecorded | ⟨a, ha, hchange⟩
  · generalize step.after.sim.state = after at hrecorded ⊢
    cases hrecorded
    exact hs
  · rw [← ha.sim] at hs
    generalize step.after.sim.state = after at hchange ⊢
    cases hchange with
    | recorded hrecorded =>
      cases hrecorded
      exact hs
    | measured => exact hs
    | stored hset hstored =>
      rcases hstored.aperture with hsame | ⟨hkey, hgiven⟩
      · rw [hsame]
        exact hs
      · rw [← Bool.not_eq_true]
        rw [Access.Given, Command.argument, ha.args] at hgiven
        exact fun hnan => hstores
          ⟨ha.query.symm.trans hset, ha.key.symm.trans hkey, _, hgiven, hnan⟩
    | reset => exact (by decide +kernel : (0.1 : Float).isNaN = false)

theorem Step.Valid.timer (h : step.Valid) (hs : step.before.state.timerSeconds = 0) :
    step.after.sim.state.timerSeconds = 0 := by
  rcases h.switched with hmodes | ⟨a, ha, hswitched⟩
  · simp only [SimulatorState.modes, Prod.mk.injEq] at hmodes
    obtain ⟨-, -, -, -, -, -, htimer, -⟩ := hmodes
    rw [htimer, hs]
  · rw [← ha.sim] at hs
    generalize step.after.sim.state = after at hswitched ⊢
    cases hswitched with
    | format hset hpair => cases hpair <;> exact hs
    | timer => rfl
    | reset => rfl
    | _ => exact hs

-- What is always true of the numbers that an interval is measured from.
structure SimulatorState.Clocked (state : State) : Prop where
  timed : state.Timed
  timer : state.timerSeconds = 0

theorem new_clocked (options : SimulatorOptions) : (NormaSimulator.new options).state.Clocked :=
  ⟨reset_timed ⟨options, .initial, .initial⟩, rfl⟩

theorem Move.clocked (move : Move) (hvalid : move.Valid) (h : move.before.state.Clocked) :
    move.after.state.Clocked := by
  refine ⟨move.timed hvalid h.timed, ?_⟩
  cases move with
  | command step => exact Step.Valid.timer hvalid h.timer
  | signal sim given => exact h.timer

theorem Usage.clocked {options : SimulatorOptions} {moves : List Move}
    (h : Usage (.new options) moves) : ∀ move ∈ moves, move.after.state.Clocked :=
  h.linked.kept (Q := fun _ => True) (fun sim => sim.state.Clocked)
    (fun step hvalid hs _ => Move.clocked (.command step) hvalid hs) (fun _ _ hs => hs)
    (new_clocked options) fun _ _ => trivial

theorem SimulatorState.Clocked.aperture (h : state.Clocked) :
    Exact.ofFloat state.aperture = .nan ↔ state.aperture.isNaN = true := by
  obtain ⟨hmin, hmax, -⟩ := limits_value
  have hrange := h.timed.aperture
  unfold Exact.ofFloat
  cases hnan : state.aperture.isNaN with
  | false =>
    rw [if_pos (FloatOrder.finite_of_range hmin hmax hnan hrange.low hrange.high)]
    exact iff_of_false (by nofun) Bool.false_ne_true
  | true =>
    refine iff_of_true (if_neg fun hfinite => ?_) rfl
    exact absurd ((FloatOrder.not_nan_of_finite hfinite).symm.trans hnan) Bool.false_ne_true

theorem SimulatorState.Clocked.agrees_iff (h : state.Clocked) {signal : SimulatedSignal ℝ}
    (hpositive : 0 < signal.frequency) {function : Text} {m : SimulatedMeasurement Exact}
    (hm : measure (state.map .ofFloat) (signal.map .number) function = some m) :
    m.Agrees ↔ ¬(measuresInterval state function = true ∧ state.aperture.isNaN = true) := by
  have htimer : Exact.ofFloat state.timerSeconds ≠ .nan := by
    rw [h.timer, Exact.ofFloat, if_pos (by decide +kernel)]
    nofun
  rw [measure_agrees_iff hm rfl hpositive htimer, ← h.aperture]
  rfl

theorem SimulatorState.Clocked.flagsAll (h : state.Clocked)
    (hordinary : state.aperture.isNaN = false) : state.FlagsAll := by
  intro signal function m hpositive hm
  rw [h.agrees_iff hpositive hm, hordinary]
  exact fun hboth => Bool.false_ne_true hboth.2

theorem nan_flagged_iff {options : SimulatorOptions} {moves : List Move}
    (husage : Usage (.new options) moves) :
    (NormaSimulator.new options).state.FlagsAll ∧
      (∀ move ∈ moves, ∀ (signal : SimulatedSignal ℝ) (function : Text)
        (m : SimulatedMeasurement Exact), 0 < signal.frequency →
        measure (move.after.state.map .ofFloat) (signal.map .number) function = some m →
        (m.Agrees ↔ ¬(measuresInterval move.after.state function = true ∧
          move.after.state.aperture.isNaN = true))) ∧
      ((∀ step, .command step ∈ moves → ¬step.StoresNan) →
        ∀ move ∈ moves, move.after.state.FlagsAll) := by
  have hordinary : (NormaSimulator.new options).state.aperture.isNaN = false :=
    (by decide +kernel : (0.1 : Float).isNaN = false)
  refine ⟨(new_clocked options).flagsAll hordinary, ?_, ?_⟩
  · intro move hmove signal function m hpositive hm
    exact (husage.clocked move hmove).agrees_iff hpositive hm
  · intro hstores move hmove
    have hkept := husage.linked.kept (fun sim => sim.state.aperture.isNaN = false)
      (fun _ => Step.Valid.aperture) (fun _ _ hs => hs) hordinary hstores move hmove
    exact (husage.clocked move hmove).flagsAll hkept

theorem aperture_flags_all : ∃ moves, Usage (.new {}) moves ∧ moves ≠ [] ∧
    ∀ move ∈ moves, move.after.state.FlagsAll := by
  have hparse : parseCommand "APER 2" = ⟨"APER", false, ["2"]⟩ := by decide +kernel
  have hnumber : parseNumber (unquote "2") = some 2 := by decide +kernel
  obtain ⟨path, hout⟩ := handleCommand_aperture (.new {}) hparse (by decide) hnumber
    (by decide +kernel)
  have husage := Usage.command (by decide +kernel) (by decide +kernel) (by decide) hout (.done _)
  refine ⟨_, husage, by simp, (nan_flagged_iff husage).2.2 fun step hstep hstores => ?_⟩
  obtain rfl := Move.command.inj (List.mem_singleton.mp hstep)
  exact hstores.not_ordinary (aperture_ordinary rfl rfl)

theorem interval_unflagged : ¬∀ sim, Reachable sim → sim.state.FlagsAll := by
  intro hall
  let sim : NormaSimulator := .new {}
  have hparse : parseCommand "APER nan" = ⟨"APER", false, ["nan"]⟩ := by decide +kernel
  have hnumber : parseNumber (unquote "nan") = some CNumber.nan := by decide +kernel
  obtain ⟨path, hout⟩ := handleCommand_aperture sim hparse (by decide) hnumber (by decide +kernel)
  have hline := handleLine_single (by decide) (by decide) (by decide +kernel) (by decide) hout
  let state := (Setting.aperture.set sim.state CNumber.nan).map Exact.ofFloat
  let signal : SimulatedSignal ℝ := ⟨true, 50, fun _ => ⟨230, 1, 0, 0, 0, 0, 0⟩⟩
  have hpositive : (0 : ℝ) < 50 := by norm_num
  have hnan : state.aperture = .nan := if_neg (by decide +kernel)
  have hinterval : measuresInterval state "TIME" = true := by decide +kernel
  obtain ⟨hvalue, hstatus⟩ := measureTime_interval state
    (rfl : (signal.map Exact.number).frequency = .number 50) hpositive true
  have hmeasured : measure state (signal.map .number) "TIME" =
      some (measureTime state (signal.map .number) true []) := measure_interval hinterval
  have hagrees := hall _ (.line (.new {}) _ hline) signal "TIME" _ hpositive hmeasured
  have hflagged := hagrees.mp ((Exact.isNan_iff _).mpr (hvalue.mpr hnan))
  rw [SimulatedMeasurement.Flagged, hstatus] at hflagged
  exact absurd hflagged (by decide)

end Runs

end Norma
