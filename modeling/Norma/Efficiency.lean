import Norma.DataStatus
import Norma.StateChange

namespace Norma

open Arith

-- The nodes that choose the quantity: an accumulator and then a harmonic node are taken off.
def plainTail (tail : List Text) : List Text :=
  let tail := if accumulatorOf tail = .none then tail else tail.dropLast
  if endsWith tail ["HAR"] then tail.dropLast else tail

def namesEfficiency (function : Text) : Bool :=
  let parsed := splitFunction function
  mnemonicMatches parsed.quantity "POWer" && tailIs (plainTail parsed.tail) ["EFFiciency"]

section Asks

variable {D : Type} [Arith D]

def asksEfficiency (state : SimulatorState D) (signal : SimulatedSignal D) (function : Text) :
    Bool :=
  let parsed := splitFunction function
  namesEfficiency function && !endsWith parsed.tail ["MINimum", "MAXimum"] &&
    !(endsWith parsed.tail ["IPOSitive", "INEGative", "INTegral"] && !state.integralEnabled) &&
    (state.continuous || state.initiated) && (signal.present && state.syncEnabled) &&
    aggregatedPhases parsed.suffix != []

def circular (state : SimulatorState D) (signal : SimulatedSignal D) : Bool :=
  state.efficiencyInput != [] && state.efficiencyOutput != [] &&
    (asksEfficiency state signal state.efficiencyInput ||
      asksEfficiency state signal state.efficiencyOutput)

variable {state : SimulatorState D} {signal : SimulatedSignal D} {function : Text}

theorem mnemonic_spelling {token mnemonic long : Text} (short : Text)
    (hshort : mnemonic.takeWhile (fun c => c.isUpper || c.isDigit) = short)
    (hlong : upper mnemonic = long) (h : mnemonicMatches token mnemonic = true) :
    token = short ∨ token = long := by
  rw [mnemonicMatches, Bool.or_eq_true, beq_iff_eq, beq_iff_eq, hshort, hlong] at h
  exact h

theorem mnemonicMatches_power {quantity : Text} (h : mnemonicMatches quantity "POWer" = true) :
    mnemonicMatches quantity "FREQuency" = false ∧ mnemonicMatches quantity "TIME" = false ∧
      mnemonicMatches quantity "VOLTage" = false ∧ mnemonicMatches quantity "CURRent" = false := by
  rcases mnemonic_spelling "POW" (by decide) rfl h with rfl | rfl
  · decide
  · decide

theorem tailIs_efficiency {tail : List Text} (h : tailIs tail ["EFFiciency"] = true) :
    tail = [("EFF" : Text)] ∨ tail = [("EFFICIENCY" : Text)] := by
  match tail with
  | [] => cases h
  | [node] =>
    have hnode : mnemonicMatches node "EFFiciency" = true := by simpa [tailIs] using h
    rcases mnemonic_spelling "EFF" (by decide) rfl hnode with rfl | rfl
    · exact .inl rfl
    · exact .inr rfl
  | _ :: _ :: _ => simp [tailIs] at h

theorem powerQuantity_efficiency_iff (sums : PhaseSums D) (scale : D) (tail : List Text) :
    powerQuantity sums scale tail = .efficiency ↔ tailIs tail ["EFFiciency"] = true := by
  constructor
  · intro h
    unfold powerQuantity at h
    split_ifs at h with _ _ _ _ _ hefficiency
    exact hefficiency
  · intro h
    rcases tailIs_efficiency h with rfl | rfl
    · rfl
    · rfl

omit [Arith D] in
theorem ofOption_efficiency {wrap : D → Quantity D} (hwrap : ∀ value, wrap value ≠ .efficiency)
    (value : Option D) : Quantity.ofOption wrap value ≠ .efficiency := by
  cases value with
  | none => nofun
  | some value => exact hwrap value

omit [Arith D] in
theorem ite_efficiency {p : Prop} [Decidable p] {yes no : Quantity D} (hyes : yes ≠ .efficiency)
    (hno : no ≠ .efficiency) : (if p then yes else no) ≠ .efficiency := by
  split
  · exact hyes
  · exact hno

theorem quantityOf_efficiency_iff (sums : PhaseSums D) (count voltageScale currentScale : D)
    (quantity : Text) (tail : List Text) :
    quantityOf sums count voltageScale currentScale quantity tail = .efficiency ↔
      mnemonicMatches quantity "POWer" = true ∧ tailIs tail ["EFFiciency"] = true := by
  unfold quantityOf
  dsimp only
  by_cases hpower : mnemonicMatches quantity "POWer" = true
  · obtain ⟨-, -, hvoltage, hcurrent⟩ := mnemonicMatches_power hpower
    rw [if_neg (by simp [hvoltage]), if_neg (by simp [hcurrent]), if_pos hpower,
      powerQuantity_efficiency_iff, and_iff_right hpower]
  · rw [if_neg hpower]
    refine iff_of_false ?_ fun h => hpower h.1
    refine ite_efficiency (ofOption_efficiency (by nofun) _) ?_
    refine ite_efficiency (ofOption_efficiency (by nofun) _) ?_
    refine ite_efficiency (by nofun) ?_
    refine ite_efficiency (by nofun) ?_
    refine ite_efficiency (ite_efficiency (by nofun) (ite_efficiency (by nofun) (by nofun))) ?_
    exact ite_efficiency (ite_efficiency (by nofun) (ite_efficiency (by nofun) (by nofun)))
      (by nofun)

theorem measurement_efficiency {quantity : Quantity D} (h : quantity ≠ .efficiency)
    (finish : D → Int → (Int → Int) → SimulatedMeasurement D)
    (voltageRange currentRange : Int → Int) : ∃ m, ∀ efficiency,
      quantity.measurement finish voltageRange currentRange efficiency = some m := by
  cases quantity with
  | efficiency => exact absurd rfl h
  | _ => exact ⟨_, fun _ => rfl⟩

theorem measurePhases_shape (state : SimulatorState D) (signal : SimulatedSignal D)
    (parsed : FunctionName) (phases : List Nat) :
    ∃ (quantity : Quantity D) (finish : D → Int → (Int → Int) → SimulatedMeasurement D)
      (voltageRange currentRange : Int → Int),
      (quantity = .efficiency ↔ mnemonicMatches parsed.quantity "POWer" = true ∧
        tailIs (plainTail parsed.tail) ["EFFiciency"] = true) ∧
      ∀ recurse, measurePhases recurse state signal parsed phases =
        quantity.measurement finish voltageRange currentRange
          (measureEfficiency recurse state finish) :=
  ⟨quantityOf _ _ _ _ parsed.quantity (plainTail parsed.tail),
    finishMeasurement (accumulatorOf parsed.tail) _, _, _, quantityOf_efficiency_iff _ _ _ _ _ _,
    fun _ => rfl⟩

theorem measureStep_asks (h : asksEfficiency state signal function = true) :
    ∃ finish, ∀ recurse, measureStep recurse state signal function =
      measureEfficiency recurse state finish := by
  simp only [asksEfficiency, namesEfficiency, Bool.and_eq_true, Bool.not_eq_true', bne_iff_ne] at h
  obtain ⟨⟨⟨⟨⟨⟨hpower, htail⟩, hextreme⟩, hintegral⟩, hmeasuring⟩, hsynchronized⟩, hphases⟩ := h
  obtain ⟨hfrequency, htime, -, -⟩ := mnemonicMatches_power hpower
  obtain ⟨quantity, finish, voltageRange, currentRange, hquantity, hshape⟩ :=
    measurePhases_shape state signal (splitFunction function)
      (aggregatedPhases (splitFunction function).suffix)
  refine ⟨finish, fun recurse => ?_⟩
  unfold measureStep
  dsimp only
  rw [if_neg (by simp [hextreme]), if_neg (by simp [hintegral]), if_neg (by simp [hmeasuring]),
    if_neg (by simp [hfrequency]), if_neg (by simp [htime]), if_neg hphases,
    if_neg (by simp [hsynchronized]), hshape, hquantity.mpr ⟨hpower, htail⟩]
  rfl

theorem ite_some {A : Type} {p : Prop} [Decidable p] {yes : A} {no : (Text → Option A) → Option A}
    (hno : ¬p → ∃ m, ∀ recurse, no recurse = some m) :
    ∃ m, ∀ recurse, (if p then some yes else no recurse) = some m := by
  by_cases h : p
  · exact ⟨yes, fun _ => if_pos h⟩
  · obtain ⟨m, hm⟩ := hno h
    exact ⟨m, fun recurse => by rw [if_neg h, hm]⟩

theorem measureStep_plain (h : asksEfficiency state signal function = false) :
    ∃ m, ∀ recurse, measureStep recurse state signal function = some m := by
  unfold measureStep
  refine ite_some fun hextreme => ite_some fun hintegral => ite_some fun hmeasuring =>
    ite_some fun _ => ite_some fun _ => ite_some fun hphases => ite_some fun hsynchronized => ?_
  obtain ⟨quantity, finish, voltageRange, currentRange, hquantity, hshape⟩ :=
    measurePhases_shape state signal (splitFunction function)
      (aggregatedPhases (splitFunction function).suffix)
  have hplain : quantity ≠ .efficiency := by
    intro hefficiency
    obtain ⟨hpower, htail⟩ := hquantity.mp hefficiency
    refine Bool.eq_false_iff.mp h ?_
    simp only [Bool.not_eq_true', Bool.not_eq_false] at hmeasuring hsynchronized
    simp only [asksEfficiency, namesEfficiency, Bool.and_eq_true, Bool.not_eq_true', bne_iff_ne]
    exact ⟨⟨⟨⟨⟨⟨hpower, htail⟩, Bool.eq_false_iff.mpr hextreme⟩, Bool.eq_false_iff.mpr hintegral⟩,
      hmeasuring⟩, Bool.and_eq_true_iff.mp hsynchronized⟩, hphases⟩
  obtain ⟨m, hm⟩ := measurement_efficiency hplain finish voltageRange currentRange
  exact ⟨m, fun recurse => by rw [hshape, hm]⟩

def Returns (state : SimulatorState D) (signal : SimulatedSignal D) (function : Text) : Prop :=
  ∃ fuel m, measureFuel state signal fuel function = some m

theorem returns_plain (h : asksEfficiency state signal function = false) :
    Returns state signal function := by
  obtain ⟨m, hm⟩ := measureStep_plain h
  exact ⟨1, m, hm _⟩

theorem measureFuel_circular {reference : Text}
    (hreference : reference = state.efficiencyInput ∨ reference = state.efficiencyOutput)
    (hne : ¬(state.efficiencyInput = [] ∨ state.efficiencyOutput = []))
    (h : asksEfficiency state signal reference = true) (fuel : Nat) :
    measureFuel state signal fuel reference = none := by
  obtain ⟨finish, hstep⟩ := measureStep_asks h
  refine measureFuel_unsettled hreference ?_ fuel
  rw [hstep, measureEfficiency, if_neg hne]

theorem measureEfficiency_none {recurse : Text → Option (SimulatedMeasurement D)}
    {finish : D → Int → (Int → Int) → SimulatedMeasurement D}
    (hne : ¬(state.efficiencyInput = [] ∨ state.efficiencyOutput = []))
    (hnone : recurse state.efficiencyInput = none ∨ recurse state.efficiencyOutput = none) :
    measureEfficiency recurse state finish = none := by
  rw [measureEfficiency, if_neg hne]
  split
  · next hinput houtput =>
    rw [hinput, houtput] at hnone
    simp at hnone
  · rfl

theorem not_returns {reference : Text}
    (hreference : reference = state.efficiencyInput ∨ reference = state.efficiencyOutput)
    (hne : ¬(state.efficiencyInput = [] ∨ state.efficiencyOutput = []))
    (hasks : asksEfficiency state signal function = true)
    (hcircular : asksEfficiency state signal reference = true) :
    ¬Returns state signal function := by
  rintro ⟨fuel, m, hm⟩
  cases fuel with
  | zero => cases hm
  | succ fuel =>
    obtain ⟨finish, hstep⟩ := measureStep_asks hasks
    have hnone := measureFuel_circular hreference hne hcircular fuel
    rw [measureFuel, hstep, measureEfficiency_none hne] at hm
    · cases hm
    · rcases hreference with rfl | rfl
      · exact .inl hnone
      · exact .inr hnone

theorem returns_straight (hasks : asksEfficiency state signal function = true)
    (hinput : asksEfficiency state signal state.efficiencyInput = false)
    (houtput : asksEfficiency state signal state.efficiencyOutput = false) :
    Returns state signal function := by
  obtain ⟨finish, hstep⟩ := measureStep_asks hasks
  obtain ⟨input, hinput⟩ := measureStep_plain hinput
  obtain ⟨output, houtput⟩ := measureStep_plain houtput
  have hlevel : ∃ m, measureFuel state signal 2 function = some m := by
    rw [measureFuel, hstep, measureEfficiency, measureFuel, measureFuel, hinput, houtput]
    split
    · exact ⟨_, rfl⟩
    · exact ⟨_, rfl⟩
  obtain ⟨m, hm⟩ := hlevel
  exact ⟨2, m, hm⟩

-- The references are the same at every level of the recursion.
theorem returns_iff : Returns state signal function ↔
    ¬(asksEfficiency state signal function = true ∧ circular state signal = true) := by
  have hcircular : circular state signal = true ↔
      ¬(state.efficiencyInput = [] ∨ state.efficiencyOutput = []) ∧
        (asksEfficiency state signal state.efficiencyInput = true ∨
          asksEfficiency state signal state.efficiencyOutput = true) := by
    simp only [circular, Bool.and_eq_true, Bool.or_eq_true, bne_iff_ne, not_or]
  rw [hcircular]
  constructor
  · rintro hreturns ⟨hasks, hne, hinput | houtput⟩
    · exact not_returns (.inl rfl) hne hasks hinput hreturns
    · exact not_returns (.inr rfl) hne hasks houtput hreturns
  · intro h
    cases hasks : asksEfficiency state signal function with
    | false => exact returns_plain hasks
    | true =>
      by_cases hempty : state.efficiencyInput = [] ∨ state.efficiencyOutput = []
      · obtain ⟨finish, hstep⟩ := measureStep_asks hasks
        exact ⟨1, unavailable, by rw [measureFuel, hstep, measureEfficiency, if_pos hempty]⟩
      · have hstraight : ¬(asksEfficiency state signal state.efficiencyInput = true ∨
            asksEfficiency state signal state.efficiencyOutput = true) :=
          fun hreference => h ⟨hasks, hempty, hreference⟩
        rw [not_or, Bool.not_eq_true, Bool.not_eq_true] at hstraight
        exact returns_straight hasks hstraight.1 hstraight.2

end Asks

section Runs

variable {state : State} {step : Step}

structure SimulatorState.PlainReferences (state : State) : Prop where
  input : namesEfficiency state.efficiencyInput = false
  output : namesEfficiency state.efficiencyOutput = false

def Step.RefersToEfficiency (step : Step) : Prop :=
  step.isQuery = false ∧ step.key = Key.calcPowEffRef.text ∧
    ∃ input output rest, (parseCommand step.text).args = input :: output :: rest ∧
      (namesEfficiency (upper (unquote input)) = true ∨
        namesEfficiency (upper (unquote output)) = true)

theorem SimulatorState.PlainReferences.straight (h : state.PlainReferences)
    (signal : SimulatedSignal Float) : circular state signal = false := by
  have hasks {function : Text} (hname : namesEfficiency function = false) :
      asksEfficiency state signal function = false := by
    simp [asksEfficiency, hname]
  simp [circular, hasks h.input, hasks h.output]

theorem PlainReferences.of_modes {s t : State} (h : s.PlainReferences)
    (hmodes : t.modes = s.modes) : t.PlainReferences := by
  simp only [SimulatorState.modes, Prod.mk.injEq] at hmodes
  obtain ⟨-, -, -, -, hinput, houtput, -⟩ := hmodes
  exact ⟨by rw [hinput]; exact h.input, by rw [houtput]; exact h.output⟩

theorem Step.Valid.plainReferences (h : step.Valid) (hs : step.before.state.PlainReferences)
    (hplain : ¬step.RefersToEfficiency) : step.after.sim.state.PlainReferences := by
  rcases h.switched with hmodes | ⟨a, ha, hswitched⟩
  · exact PlainReferences.of_modes hs hmodes
  · rw [← ha.sim] at hs
    generalize step.after.sim.state = after at hswitched ⊢
    cases hswitched with
    | @efficiency input output rest hset hkey hargs =>
      have hname : ¬(namesEfficiency (upper (unquote input)) = true ∨
          namesEfficiency (upper (unquote output)) = true) := fun hname =>
        hplain ⟨ha.query.symm.trans hset, ha.key.symm.trans hkey, input, output, rest,
          ha.args.symm.trans hargs, hname⟩
      rw [not_or, Bool.not_eq_true, Bool.not_eq_true] at hname
      exact ⟨hname.1, hname.2⟩
    | format hset hpair => cases hpair <;> exact ⟨hs.input, hs.output⟩
    | reset =>
      exact ⟨(by decide : namesEfficiency [] = false), (by decide : namesEfficiency [] = false)⟩
    | _ => exact ⟨hs.input, hs.output⟩

theorem measure_returns_iff {options : SimulatorOptions} {moves : List Move}
    (husage : Usage (.new options) moves) :
    (∀ move ∈ moves, ∀ function, Terminates move.after.state move.after.signal function ↔
        ¬(asksEfficiency move.after.state move.after.signal function = true ∧
          circular move.after.state move.after.signal = true)) ∧
      ((∀ step, .command step ∈ moves → ¬step.RefersToEfficiency) →
        ∀ move ∈ moves, ∀ function, Terminates move.after.state move.after.signal function) := by
  refine ⟨fun move _ function => returns_iff, fun hplain move hmove function => ?_⟩
  have hnew : (NormaSimulator.new options).state.PlainReferences :=
    ⟨(by decide : namesEfficiency [] = false), (by decide : namesEfficiency [] = false)⟩
  have hkept := husage.linked.kept (fun sim => sim.state.PlainReferences)
    (fun _ => Step.Valid.plainReferences) (fun _ _ hs => hs) hnew hplain move hmove
  have hstraight := hkept.straight move.after.signal
  exact returns_iff.mpr fun h => Bool.false_ne_true (hstraight.symm.trans h.2)

def NormaSimulator.withReferences (sim : NormaSimulator) (input output : Text) : NormaSimulator :=
  { sim with state := { sim.state with efficiencyInput := input, efficiencyOutput := output } }

theorem handleCommand_reference (sim : NormaSimulator) {text : Text} {input output : Text}
    (hparse : parseCommand text = ⟨"CALC:POW:EFF:REF", false, [input, output]⟩) :
    ∃ path, handleCommand sim [] text =
      some ⟨sim.withReferences (upper (unquote input)) (upper (unquote output)), path, none,
        false⟩ := by
  have hheader : Addresses "CALC:POW:EFF:REF" .calcPowEffRef [0] := by decide +kernel
  have hrun (a : Access) : execute .calcPowEffRef a = some a.efficiencyReference := rfl
  exact handleCommand_runs hparse hheader (hrun _)

theorem plain_reference_returns : ∃ moves, Usage (.new {}) moves ∧ moves ≠ [] ∧
    ∀ move ∈ moves, ∀ function, Terminates move.after.state move.after.signal function := by
  have hparse : parseCommand "CALC:POW:EFF:REF \"POW1\",\"POW2\"" =
      ⟨"CALC:POW:EFF:REF", false, ["\"POW1\"", "\"POW2\""]⟩ := by decide +kernel
  obtain ⟨path, hout⟩ := handleCommand_reference (.new {}) hparse
  have husage := Usage.command (by decide +kernel) (by decide +kernel) (by decide) hout (.done _)
  refine ⟨_, husage, by simp, (measure_returns_iff husage).2 fun step hstep hrefers => ?_⟩
  obtain rfl := Move.command.inj (List.mem_singleton.mp hstep)
  obtain ⟨-, -, input, output, rest, hargs, hname⟩ := hrefers
  rw [hparse] at hargs
  cases hargs
  have hplain : namesEfficiency (upper (unquote "\"POW1\"")) = false ∧
      namesEfficiency (upper (unquote "\"POW2\"")) = false := by decide +kernel
  rw [hplain.1, hplain.2] at hname
  simp at hname

theorem reachable_ownReference :
    Reachable ((NormaSimulator.new {}).withReferences "POW:EFF" "POW:EFF") := by
  have hparse : parseCommand "CALC:POW:EFF:REF \"POW:EFF\",\"POW:EFF\"" =
      ⟨"CALC:POW:EFF:REF", false, ["\"POW:EFF\"", "\"POW:EFF\""]⟩ := by decide +kernel
  obtain ⟨path, hout⟩ := handleCommand_reference (.new {}) hparse
  have hwhole : Whole ';' "CALC:POW:EFF:REF \"POW:EFF\",\"POW:EFF\"" :=
    (by decide : (quoting ';').whole none "CALC:POW:EFF:REF \"POW:EFF\",\"POW:EFF\"" = true)
  have htrim : trim "CALC:POW:EFF:REF \"POW:EFF\",\"POW:EFF\"" =
      "CALC:POW:EFF:REF \"POW:EFF\",\"POW:EFF\"" := by decide +kernel
  have hline : (NormaSimulator.new {}).handleLine _ = _ := handleLine_whole hwhole htrim (by decide)
  have hname : upper (unquote "\"POW:EFF\"") = "POW:EFF" := by decide +kernel
  rw [hout, hname] at hline
  exact .line (.new {}) _ hline

theorem efficiency_of_itself : ¬∀ sim, Reachable sim → ∀ function,
    Terminates sim.state sim.signal function := by
  intro hall
  refine returns_iff.mp (hall _ reachable_ownReference "POW:EFF") ⟨?_, ?_⟩
  · decide +kernel
  · decide +kernel

end Runs

end Norma
