import Norma.Efficiency
import Norma.Exact
import Norma.Setting

namespace Norma

open Arith

-- The components of the power that add up over the phases.
inductive Power where
  | active | apparent | reactive
  deriving DecidableEq

namespace Power

def node : Power → Text
  | active => "ACTive"
  | apparent => "APParent"
  | reactive => "REACtive"

def Named (power : Power) (suffix : Int) (function : Text) : Prop :=
  let parsed := splitFunction function
  mnemonicMatches parsed.quantity "POWer" = true ∧ parsed.suffix = suffix ∧
    tailIs parsed.tail [power.node] = true

instance (power : Power) (suffix : Int) (function : Text) :
    Decidable (power.Named suffix function) := by
  unfold Named
  infer_instance

section Arithmetic

variable {D : Type} [Arith D] {state : SimulatorState D} {signal : SimulatedSignal D}

def summed : Power → PhaseSums D → D
  | active, sums => sums.active
  | apparent, sums => sums.apparent
  | reactive, sums => sums.reactive

-- One scale for all the phases: that of the first one.
def frontScale (state : SimulatorState D) (phases : List Nat) : D :=
  let index := Fin.ofNat (kMaxPhase + 1) (phases.headD 0)
  (state.voltage index).scale * (state.current index).scale

theorem tail_spelling (power : Power) {tail : List Text} (h : tailIs tail [power.node] = true) :
    tail = [power.node.takeWhile fun c => c.isUpper || c.isDigit] ∨ tail = [upper power.node] := by
  match tail with
  | [] => cases h
  | [node] =>
    have hnode : mnemonicMatches node power.node = true := by simpa [tailIs] using h
    rcases mnemonic_spelling _ rfl rfl hnode with rfl | rfl
    · exact .inl rfl
    · exact .inr rfl
  | _ :: _ :: _ => simp [tailIs] at h

theorem tail_plain (power : Power) {tail : List Text} (h : tailIs tail [power.node] = true) :
    accumulatorOf tail = .none ∧ endsWith tail ["HAR"] = false ∧
      endsWith tail ["MINimum", "MAXimum"] = false ∧
      endsWith tail ["IPOSitive", "INEGative", "INTegral"] = false := by
  rcases power.tail_spelling h with rfl | rfl
  · cases power <;> decide
  · cases power <;> decide

theorem powerQuantity_power (power : Power) (sums : PhaseSums D) (scale : D) {tail : List Text}
    (h : tailIs tail [power.node] = true) :
    powerQuantity sums scale tail = .plain (power.summed sums * scale) := by
  rcases power.tail_spelling h with rfl | rfl
  · cases power <;> rfl
  · cases power <;> rfl

theorem quantityOf_power (power : Power) (sums : PhaseSums D) (count voltageScale currentScale : D)
    {quantity : Text} (hquantity : mnemonicMatches quantity "POWer" = true) {tail : List Text}
    (h : tailIs tail [power.node] = true) :
    quantityOf sums count voltageScale currentScale quantity tail =
      .plain (power.summed sums * (voltageScale * currentScale)) := by
  obtain ⟨-, -, hvoltage, hcurrent⟩ := mnemonicMatches_power hquantity
  unfold quantityOf
  dsimp only
  rw [if_neg (by simp [hvoltage]), if_neg (by simp [hcurrent]), if_pos hquantity,
    power.powerQuantity_power sums _ h]

theorem Named.measured {power : Power} {suffix : Int} {function : Text}
    (h : power.Named suffix function) (hpresent : signal.present = true)
    (hsynchronized : state.syncEnabled = true)
    (hmeasuring : (state.continuous || state.initiated) = true)
    (hphases : aggregatedPhases suffix ≠ []) :
    measure state signal function = some (finishMeasurement .none 1.0
      (power.summed (sumPhases signal (aggregatedPhases suffix)) *
        frontScale state (aggregatedPhases suffix)) kNormal id) := by
  obtain ⟨hquantity, hsuffix, htail⟩ := h
  obtain ⟨haccumulator, hharmonic, hextreme, hintegral⟩ := power.tail_plain htail
  obtain ⟨hfrequency, htime, -, -⟩ := mnemonicMatches_power hquantity
  unfold measure measureFuel measureStep
  dsimp only
  rw [hsuffix, if_neg (by simp [hextreme]), if_neg (by simp [hintegral]),
    if_neg (by simp [hmeasuring]), if_neg (by simp [hfrequency]), if_neg (by simp [htime]),
    if_neg hphases, if_neg (by simp [hpresent, hsynchronized])]
  unfold measurePhases
  dsimp only
  rw [if_pos haccumulator, hharmonic, haccumulator]
  simp only [Bool.false_eq_true, if_false]
  rw [power.quantityOf_power _ _ _ _ hquantity htail]
  rfl

end Arithmetic

section Sums

variable {signal : SimulatedSignal ℝ}

noncomputable def ofPhase (power : Power) (phase : PhaseSignal ℝ) : ℝ :=
  let radians := phase.phaseShiftDeg * 3.14159265358979323846 / 180.0
  match power with
  | active => phase.voltageRms * phase.currentRms * Real.cos radians
  | apparent => phase.voltageRms * phase.currentRms
  | reactive => phase.voltageRms * phase.currentRms * Real.sin radians

noncomputable def across (power : Power) (signal : SimulatedSignal ℝ) (phases : List Nat) : ℝ :=
  (phases.map fun phase => power.ofPhase (signal.phases (Fin.ofNat _ (phase - 1)))).sum

theorem summed_add (power : Power) {sums : PhaseSums Exact} {total : ℝ}
    (h : power.summed sums = .number total) (phase : PhaseSignal ℝ) :
    power.summed (sums.add (phase.map .number)) = .number (total + power.ofPhase phase) := by
  have hradians : (phase.map Exact.number).phaseShiftDeg * 3.14159265358979323846 / 180.0 =
      Exact.number (phase.phaseShiftDeg * 3.14159265358979323846 / 180.0) :=
    Exact.number_div _ (by norm_num)
  unfold PhaseSums.add
  rw [hradians]
  cases power with
  | active =>
    change sums.active + _ = _
    rw [show sums.active = .number total from h]
    rfl
  | apparent =>
    change sums.apparent + _ = _
    rw [show sums.apparent = .number total from h]
    rfl
  | reactive =>
    change sums.reactive + _ = _
    rw [show sums.reactive = .number total from h]
    rfl

theorem summed_foldl (power : Power) (phases : List Nat) {sums : PhaseSums Exact} {total : ℝ}
    (h : power.summed sums = .number total) :
    power.summed (phases.foldl (fun sums phase =>
      sums.add ((signal.map .number).phases (Fin.ofNat _ (phase - 1)))) sums) =
        .number (total + power.across signal phases) := by
  induction phases generalizing sums total with
  | nil =>
    rw [across, List.map_nil, List.sum_nil, add_zero]
    exact h
  | cons phase phases ih =>
    have hsums := power.summed_add h (signal.phases (Fin.ofNat _ (phase - 1)))
    rw [across, List.map_cons, List.sum_cons, ← add_assoc]
    exact ih hsums

theorem summed_sumPhases (power : Power) (signal : SimulatedSignal ℝ) (phases : List Nat) :
    power.summed (sumPhases (signal.map Exact.number) phases) =
      .number (power.across signal phases) := by
  have hzero : (0.0 : ℝ) = 0 := by norm_num
  have hstart : power.summed (⟨0.0, 0.0, 0.0, 0.0, 0.0, 0.0, 0.0, 0.0, 0.0, 0.0⟩ :
      PhaseSums Exact) = .number 0.0 := by
    cases power <;> rfl
  have hsum : _ = Exact.number (0.0 + power.across signal phases) := power.summed_foldl phases hstart
  rwa [hzero, zero_add] at hsum

end Sums

end Power

noncomputable section

variable {state : State} {signal : SimulatedSignal ℝ} {power : Power}

def SimulatorState.powerScale (state : State) (phase : Nat) : Exact :=
  Exact.ofFloat (state.voltage (Fin.ofNat _ phase)).scale *
    Exact.ofFloat (state.current (Fin.ofNat _ phase)).scale

def SimulatorState.EquallyScaled (state : State) (phases : List Nat) : Prop :=
  ∀ phase ∈ phases, state.powerScale phase = state.powerScale (phases.headD 0)

def SimulatorState.OrdinaryScales (state : State) : Prop :=
  ∀ phase, (state.voltage phase).scale.isFinite = true ∧
    (state.current phase).scale.isFinite = true

def SimulatorState.valueOf (state : State) (signal : SimulatedSignal ℝ) (function : Text) :
    Option Exact :=
  (measure (state.map .ofFloat) (signal.map .number) function).map (·.value)

def SimulatorState.AddsUp (state : State) (signal : SimulatedSignal ℝ) (power : Power)
    (suffix : Int) (phases : List Nat) : Prop :=
  ∀ (whole : Text) (part : Nat → Text), power.Named suffix whole →
    (∀ phase ∈ phases, power.Named phase (part phase)) →
    ∃ (total : ℝ) (value : Nat → ℝ), state.valueOf signal whole = some (.number total) ∧
      (∀ phase ∈ phases, state.valueOf signal (part phase) = some (.number (value phase))) ∧
      total = (phases.map value).sum

theorem SimulatorState.OrdinaryScales.powerScale (h : state.OrdinaryScales) (phase : Nat) :
    ∃ scale : ℝ, state.powerScale phase = .number scale := by
  obtain ⟨hvoltage, hcurrent⟩ := h (Fin.ofNat _ phase)
  rw [SimulatorState.powerScale, Exact.ofFloat, if_pos hvoltage, Exact.ofFloat, if_pos hcurrent]
  exact ⟨_, rfl⟩

theorem Power.Named.value {suffix : Int} {function : Text} (h : power.Named suffix function)
    (hpresent : signal.present = true) (hsynchronized : state.syncEnabled = true)
    (hmeasuring : (state.continuous || state.initiated) = true) {phases : List Nat}
    (hphases : aggregatedPhases suffix = phases) (hne : phases ≠ []) {scale : ℝ}
    (hscale : state.powerScale (phases.headD 0) = .number scale) :
    state.valueOf signal function = some (.number (power.across signal phases * scale)) := by
  have hone : (1.0 : ℝ) = 1 := by norm_num
  have hfront : Power.frontScale (state.map Exact.ofFloat) phases = .number scale := hscale
  have hpower : measure (state.map Exact.ofFloat) (signal.map Exact.number) function = _ :=
    h.measured hpresent hsynchronized hmeasuring (by rwa [hphases])
  rw [SimulatorState.valueOf, hpower, hphases, power.summed_sumPhases, hfront]
  change some (Exact.number (power.across signal phases * scale * 1.0)) = _
  rw [hone, mul_one]

theorem addsUp_iff (hpresent : signal.present = true) (hsynchronized : state.syncEnabled = true)
    (hmeasuring : (state.continuous || state.initiated) = true) {suffix : Int} {phases : List Nat}
    (hphases : aggregatedPhases suffix = phases) (hne : phases ≠ [])
    (hsingle : ∀ phase ∈ phases, aggregatedPhases phase = [phase]) {scale : Nat → ℝ}
    (hscale : ∀ phase, state.powerScale phase = .number (scale phase))
    (hnamed : ∃ whole, power.Named suffix whole)
    (hparts : ∃ part : Nat → Text, ∀ phase ∈ phases, power.Named phase (part phase)) :
    state.AddsUp signal power suffix phases ↔
      power.across signal phases * scale (phases.headD 0) =
        (phases.map fun phase => power.across signal [phase] * scale phase).sum := by
  have hwhole {whole : Text} (h : power.Named suffix whole) :=
    h.value hpresent hsynchronized hmeasuring hphases hne (hscale _)
  have hpart {phase : Nat} (hphase : phase ∈ phases) {part : Text}
      (h : power.Named phase part) :=
    h.value hpresent hsynchronized hmeasuring (hsingle phase hphase) (by simp) (hscale _)
  constructor
  · intro hadds
    obtain ⟨whole, hnamed⟩ := hnamed
    obtain ⟨part, hparts⟩ := hparts
    obtain ⟨total, value, htotal, hvalue, hsum⟩ := hadds whole part hnamed hparts
    rw [hwhole hnamed] at htotal
    rw [Exact.number.inj (Option.some.inj htotal), hsum]
    refine congrArg List.sum (List.map_congr_left fun phase hphase => ?_)
    have hmeasured := hvalue phase hphase
    rw [hpart hphase (hparts phase hphase)] at hmeasured
    exact (Exact.number.inj (Option.some.inj hmeasured)).symm
  · intro hsum whole part hnamed hparts
    exact ⟨_, fun phase => power.across signal [phase] * scale phase, hwhole hnamed,
      fun phase hphase => hpart hphase (hparts phase hphase), hsum⟩

theorem Power.across_eq (power : Power) (signal : SimulatedSignal ℝ) (phases : List Nat) :
    power.across signal phases = (phases.map fun phase => power.across signal [phase]).sum := by
  refine congrArg List.sum (List.map_congr_left fun phase _ => ?_)
  rw [Power.across, List.map_singleton, List.sum_singleton]

def SimulatedSignal.onPhase (phase : Nat) : SimulatedSignal ℝ where
  present := true
  frequency := 50
  phases p := if p = Fin.ofNat _ (phase - 1) then ⟨1, 1, 0, 0, 0, 0, 0⟩ else ⟨0, 0, 0, 0, 0, 0, 0⟩

theorem apparent_onPhase {p phase : Nat} (hp : 1 ≤ p ∧ p ≤ kMaxPhase)
    (hphase : 1 ≤ phase ∧ phase ≤ kMaxPhase) :
    Power.apparent.across (.onPhase phase) [p] = if p = phase then 1 else 0 := by
  have hindex : Fin.ofNat kMaxPhase (p - 1) = Fin.ofNat kMaxPhase (phase - 1) ↔ p = phase := by
    rw [Fin.ext_iff, Fin.val_ofNat, Fin.val_ofNat, Nat.mod_eq_of_lt (by omega),
      Nat.mod_eq_of_lt (by omega)]
    omega
  rw [Power.across, List.map_singleton, List.sum_singleton, Power.ofPhase, SimulatedSignal.onPhase]
  dsimp only
  by_cases h : p = phase
  · rw [if_pos (hindex.mpr h), if_pos h, mul_one]
  · rw [if_neg (mt hindex.mp h), if_neg h, mul_zero]

theorem sum_onPhase {phases : List Nat} (hnodup : phases.Nodup)
    (hrange : ∀ phase ∈ phases, 1 ≤ phase ∧ phase ≤ kMaxPhase) {phase : Nat}
    (hphase : phase ∈ phases) (f : Nat → ℝ) :
    (phases.map fun p => Power.apparent.across (.onPhase phase) [p] * f p).sum = f phase := by
  have hterm (p : Nat) (hp : p ∈ phases) :
      Power.apparent.across (.onPhase phase) [p] * f p = if p = phase then f p else 0 := by
    rw [apparent_onPhase (hrange p hp) (hrange phase hphase), ite_mul, one_mul, zero_mul]
  rw [List.map_congr_left hterm, List.sum_map_ite_eq, List.count_eq_one_of_mem hnodup hphase]
  simp

theorem addsUp_forall_iff (hsynchronized : state.syncEnabled = true)
    (hmeasuring : (state.continuous || state.initiated) = true) (hscales : state.OrdinaryScales)
    {suffix : Int} {phases : List Nat} (hphases : aggregatedPhases suffix = phases)
    (hne : phases ≠ []) (hnodup : phases.Nodup)
    (hrange : ∀ phase ∈ phases, 1 ≤ phase ∧ phase ≤ kMaxPhase)
    (hnamed : ∀ power : Power, ∃ whole, power.Named suffix whole)
    (hparts : ∀ power : Power, ∃ part : Nat → Text,
      ∀ phase ∈ phases, power.Named phase (part phase)) :
    (∀ signal : SimulatedSignal ℝ, signal.present = true →
      ∀ power, state.AddsUp signal power suffix phases) ↔ state.EquallyScaled phases := by
  have hsingle (phase : Nat) (hphase : phase ∈ phases) :
      aggregatedPhases (phase : Int) = [phase] := by
    have := hrange phase hphase
    rw [aggregatedPhases, if_pos (by omega), Int.toNat_natCast]
  choose scale hscale using hscales.powerScale
  constructor
  · intro hall phase hphase
    have hsum := (addsUp_iff rfl hsynchronized hmeasuring hphases hne hsingle hscale
      (hnamed .apparent) (hparts .apparent)).mp (hall (.onPhase phase) rfl .apparent)
    rw [sum_onPhase hnodup hrange hphase, Power.across_eq] at hsum
    have hone := sum_onPhase hnodup hrange hphase fun _ => 1
    simp only [mul_one] at hone
    rw [hone, one_mul] at hsum
    rw [hscale, hscale, hsum]
  · intro hequal signal hpresent power
    refine (addsUp_iff hpresent hsynchronized hmeasuring hphases hne hsingle hscale
      (hnamed power) (hparts power)).mpr ?_
    have hscaled (phase : Nat) (hphase : phase ∈ phases) :
        power.across signal [phase] * scale phase =
          power.across signal [phase] * scale (phases.headD 0) := by
      have heq := hequal phase hphase
      rw [hscale, hscale] at heq
      rw [Exact.number.inj heq]
    rw [List.map_congr_left hscaled, List.sum_map_mul_right, ← Power.across_eq]

def Power.text (power : Power) (suffix : Text) : Text :=
  ("POW" : Text) ++ suffix ++ ":" ++ power.node

theorem text_named (power : Power) :
    ∀ phase ∈ [1, 2, 3, 4, 5, 6], power.Named (phase : Nat) (power.text (toText phase)) := by
  cases power <;> decide +kernel

theorem first_adds_up_iff (hsynchronized : state.syncEnabled = true)
    (hmeasuring : (state.continuous || state.initiated) = true)
    (hscales : state.OrdinaryScales) :
    (∀ signal : SimulatedSignal ℝ, signal.present = true →
      ∀ power, state.AddsUp signal power 0 [1, 2, 3]) ↔ state.EquallyScaled [1, 2, 3] := by
  have hrange : ∀ phase ∈ [1, 2, 3], 1 ≤ phase ∧ phase ≤ kMaxPhase := by decide
  refine addsUp_forall_iff hsynchronized hmeasuring hscales rfl (by simp) (by decide) hrange
    (fun power => ⟨power.text [], by cases power <;> decide +kernel⟩)
    fun power => ⟨fun phase => power.text (toText phase), fun phase hphase => ?_⟩
  exact text_named power phase (List.mem_append_left [4, 5, 6] hphase)

theorem second_adds_up_iff (hsynchronized : state.syncEnabled = true)
    (hmeasuring : (state.continuous || state.initiated) = true)
    (hscales : state.OrdinaryScales) :
    (∀ signal : SimulatedSignal ℝ, signal.present = true →
      ∀ power, state.AddsUp signal power 460 [4, 5, 6]) ↔ state.EquallyScaled [4, 5, 6] := by
  have hrange : ∀ phase ∈ [4, 5, 6], 1 ≤ phase ∧ phase ≤ kMaxPhase := by decide
  refine addsUp_forall_iff hsynchronized hmeasuring hscales rfl (by simp) (by decide) hrange
    (fun power => ⟨power.text "460", by cases power <;> decide +kernel⟩)
    fun power => ⟨fun phase => power.text (toText phase), fun phase hphase => ?_⟩
  exact text_named power phase (List.mem_append_right [1, 2, 3] hphase)

theorem aggregate_power_iff (hsynchronized : state.syncEnabled = true)
    (hmeasuring : (state.continuous || state.initiated) = true)
    (hscales : state.OrdinaryScales) :
    ((∀ signal : SimulatedSignal ℝ, signal.present = true →
        ∀ power, state.AddsUp signal power 0 [1, 2, 3]) ↔ state.EquallyScaled [1, 2, 3]) ∧
      ((∀ signal : SimulatedSignal ℝ, signal.present = true →
        ∀ power, state.AddsUp signal power 460 [4, 5, 6]) ↔ state.EquallyScaled [4, 5, 6]) :=
  ⟨first_adds_up_iff hsynchronized hmeasuring hscales,
    second_adds_up_iff hsynchronized hmeasuring hscales⟩

theorem new_power_adds_up :
    (NormaSimulator.new {}).state.AddsUp (.onPhase 2) .active 0 [1, 2, 3] := by
  have hone : (1 : Float).isFinite = true := by decide +kernel
  have hscales : (NormaSimulator.new {}).state.OrdinaryScales := fun _ => ⟨hone, hone⟩
  have hscale (phase : Nat) : (NormaSimulator.new {}).state.powerScale phase =
      Exact.ofFloat 1 * Exact.ofFloat 1 := rfl
  have hequal : (NormaSimulator.new {}).state.EquallyScaled [1, 2, 3] :=
    fun phase _ => (hscale phase).trans (hscale _).symm
  exact (aggregate_power_iff rfl rfl hscales).1.mpr hequal _ rfl .active

def NormaSimulator.withScale (sim : NormaSimulator) (scale : Float) : NormaSimulator :=
  { sim with
    state := ((Setting.voltage.entry 2).focus ChannelConfig.scaleLens).set sim.state scale }

theorem handleCommand_scale (sim : NormaSimulator) :
    ∃ path, handleCommand sim [] "VOLT2:SCAL 2" = some ⟨sim.withScale 2, path, none, false⟩ := by
  have hparse : parseCommand "VOLT2:SCAL 2" = ⟨"VOLT2:SCAL", false, ["2"]⟩ := by decide +kernel
  have hheader : Addresses "VOLT2:SCAL" .voltScal [2] := by decide +kernel
  have hnumber : parseNumber (unquote "2") = some 2 := by decide +kernel
  have hrun (a : Access) (ha : a.command.suffix = 2) : execute .voltScal a =
      some (a.number ((Setting.voltage.entry 2).focus ChannelConfig.scaleLens) 0.9 1.0e7) := by
    have hhandled : handleChannel .voltScal a = .done
        (a.number ((Setting.voltage.entry 2).focus ChannelConfig.scaleLens) 0.9 1.0e7) := by
      unfold handleChannel
      rw [ha]
      rfl
    have hsense : handleSense .voltScal a = handleChannel .voltScal a := rfl
    unfold execute dispatch
    rw [hsense, hhandled]
    rfl
  exact handleCommand_runs hparse hheader ((hrun _ rfl).trans
    (congrArg some (Access.number_given rfl ⟨_, rfl, hnumber⟩ (by decide +kernel))))

theorem scaled_power_differs : ¬∀ sim, Reachable sim → sim.state.syncEnabled = true →
    (sim.state.continuous || sim.state.initiated) = true → sim.state.OrdinaryScales →
    ∀ signal : SimulatedSignal ℝ, signal.present = true → ∀ power,
      sim.state.AddsUp signal power 0 [1, 2, 3] ∧ sim.state.AddsUp signal power 460 [4, 5, 6] := by
  intro hall
  obtain ⟨path, hout⟩ := handleCommand_scale (.new {})
  have hline := handleLine_single (by decide) (by decide) (by decide +kernel) (by decide) hout
  have hone : (1 : Float).isFinite = true := by decide +kernel
  have htwo : (2 : Float).isFinite = true := by decide +kernel
  have hscales : ((NormaSimulator.new {}).withScale 2).state.OrdinaryScales := by
    intro phase
    refine ⟨?_, hone⟩
    change (Function.update (fun _ => (⟨1000, true, 1⟩ : ChannelConfig Float)) 2 ⟨1000, true, 2⟩
      phase).scale.isFinite = true
    rw [Function.update_apply]
    split
    · exact htwo
    · exact hone
  have hequal := (first_adds_up_iff rfl rfl hscales).mp fun signal hpresent power =>
    (hall _ (.line (.new {}) _ hline) rfl rfl hscales signal hpresent power).1
  have hscale : Exact.ofFloat 2 * Exact.ofFloat 1 = Exact.ofFloat 1 * Exact.ofFloat 1 :=
    hequal 2 (by simp)
  rw [Exact.ofFloat, if_pos htwo, Exact.ofFloat, if_pos hone] at hscale
  have hproduct := Exact.number.inj hscale
  have hunits : (FloatOrder.unitsOfOne : ℝ) ≠ 0 := Nat.cast_ne_zero.mpr (by decide +kernel)
  have hvalue : (FloatOrder.value 1 : ℝ) ≠ 0 := Int.cast_ne_zero.mpr (by decide +kernel)
  have hsame := mul_right_cancel₀ (div_ne_zero hvalue hunits) hproduct
  have hvalues : (FloatOrder.value 2 : ℝ) = FloatOrder.value 1 := (div_left_inj' hunits).mp hsame
  have hne : FloatOrder.value 2 ≠ FloatOrder.value 1 := by decide +kernel
  exact hne (Int.cast_injective hvalues)

end

end Norma
