import Norma.Measurement

namespace Norma

open Arith

def statusValues : List Int := [kNormal, kUnderrange, kOverrange, kUndefined, kNotAvailable,
  kPowerFactorCapacitive, Int.lor kPowerFactorCapacitive kUndefined]

section Branches

variable {D : Type}

def Quantity.Flags (quantity : Quantity D) : Prop :=
  ∀ value status, quantity = .flagged value status →
    status = kPowerFactorCapacitive ∨ status = kNormal

theorem plain_flags (value : D) : (Quantity.plain value).Flags := by simp [Quantity.Flags]

theorem unavailable_flags : (Quantity.unavailable : Quantity D).Flags := by simp [Quantity.Flags]

theorem ofOption_flags {wrap : D → Quantity D} (h : ∀ value, (wrap value).Flags) (o : Option D) :
    (Quantity.ofOption wrap o).Flags := by
  cases o with
  | none => exact unavailable_flags
  | some value => exact h value

theorem ite_flags {p : Prop} [Decidable p] {yes no : Quantity D} (hyes : yes.Flags)
    (hno : no.Flags) : (if p then yes else no).Flags := by
  split
  · exact hyes
  · exact hno

theorem some_status {measured : SimulatedMeasurement D} (h : measured.status ∈ statusValues) :
    ∀ m ∈ some measured, m.status ∈ statusValues := by
  intro m hm
  rwa [← Option.some.inj hm]

theorem ite_status {p : Prop} [Decidable p] {yes no : Option (SimulatedMeasurement D)}
    (hyes : ∀ m ∈ yes, m.status ∈ statusValues) (hno : ∀ m ∈ no, m.status ∈ statusValues) :
    ∀ m ∈ (if p then yes else no), m.status ∈ statusValues := by
  split
  · exact hyes
  · exact hno

end Branches

section Status

variable {D : Type} [Arith D] {state : SimulatorState D} {signal : SimulatedSignal D}
  {recurse : Text → Option (SimulatedMeasurement D)}

theorem rangeStatus_mem (config : ChannelConfig D) (raw : D) :
    rangeStatus config raw kNormal ∈ statusValues := by
  unfold rangeStatus
  split
  · decide
  · split
    · decide
    · split <;> decide

theorem measureTime_status (synchronized : Bool) (tail : List Text) :
    (measureTime state signal synchronized tail).status ∈ statusValues := by
  have hnormal : kNormal ∈ statusValues := by decide
  have hunavailable : kNotAvailable ∈ statusValues := by decide
  unfold measureTime
  split
  · split
    · exact hnormal
    · exact hnormal
  · split
    · exact hnormal
    · exact hunavailable

theorem powerQuantity_flags (sums : PhaseSums D) (scale : D) (tail : List Text) :
    (powerQuantity sums scale tail).Flags := by
  unfold powerQuantity
  refine ite_flags (plain_flags _) ?_
  refine ite_flags (plain_flags _) ?_
  refine ite_flags (plain_flags _) ?_
  refine ite_flags ?_ ?_
  · rintro value status hflagged
    obtain ⟨-, rfl⟩ := Quantity.flagged.inj hflagged
    split
    · exact .inl rfl
    · exact .inr rfl
  refine ite_flags (plain_flags _) ?_
  refine ite_flags ?_ unavailable_flags
  simp [Quantity.Flags]

theorem quantityOf_flags (sums : PhaseSums D) (count voltageScale currentScale : D)
    (quantity : Text) (tail : List Text) :
    (quantityOf sums count voltageScale currentScale quantity tail).Flags := by
  unfold quantityOf
  refine ite_flags (ofOption_flags (by simp [Quantity.Flags]) _) ?_
  refine ite_flags (ofOption_flags (by simp [Quantity.Flags]) _) ?_
  refine ite_flags (powerQuantity_flags _ _ _) ?_
  refine ite_flags (plain_flags _) ?_
  refine ite_flags (plain_flags _) ?_
  refine ite_flags (ite_flags (plain_flags _) (ite_flags (plain_flags _) unavailable_flags)) ?_
  refine ite_flags ?_ unavailable_flags
  exact ite_flags (plain_flags _) (ite_flags (plain_flags _) unavailable_flags)

theorem finishMeasurement_status {status : Int} {rangeOf : Int → Int}
    (hundefined : Int.lor status kUndefined ∈ statusValues) (hrange : rangeOf status ∈ statusValues)
    (accumulator : Accumulator) (factor value : D) :
    (finishMeasurement accumulator factor value status rangeOf).status ∈ statusValues := by
  unfold finishMeasurement
  dsimp only
  split
  · exact hundefined
  · exact hrange

theorem measureEfficiency_status {accumulator : Accumulator} {factor : D} :
    ∀ m ∈ measureEfficiency recurse state (finishMeasurement accumulator factor),
      m.status ∈ statusValues := by
  intro m hm
  unfold measureEfficiency at hm
  split at hm
  · obtain rfl := Option.some.inj hm
    exact (by decide : kNotAvailable ∈ statusValues)
  · split at hm
    · obtain rfl := Option.some.inj hm
      exact finishMeasurement_status (by decide) (by decide) _ _ _
    · cases hm

theorem measurement_status {quantity : Quantity D} {accumulator : Accumulator} {factor : D}
    {voltageRange currentRange : Int → Int} {efficiency : Option (SimulatedMeasurement D)}
    (hflags : quantity.Flags) (hvoltage : voltageRange kNormal ∈ statusValues)
    (hcurrent : currentRange kNormal ∈ statusValues)
    (hefficiency : ∀ m ∈ efficiency, m.status ∈ statusValues) :
    ∀ m ∈ quantity.measurement (finishMeasurement accumulator factor) voltageRange currentRange
      efficiency, m.status ∈ statusValues := by
  intro m hm
  cases quantity with
  | unavailable =>
    obtain rfl := Option.some.inj hm
    exact (by decide : kNotAvailable ∈ statusValues)
  | plain value =>
    obtain rfl := Option.some.inj hm
    exact finishMeasurement_status (by decide) (by decide) _ _ _
  | flagged value status =>
    obtain rfl := Option.some.inj hm
    rcases hflags value status rfl with rfl | rfl
    · exact finishMeasurement_status (by decide) (by decide) _ _ _
    · exact finishMeasurement_status (by decide) (by decide) _ _ _
  | voltage value =>
    obtain rfl := Option.some.inj hm
    exact finishMeasurement_status (by decide) hvoltage _ _ _
  | current value =>
    obtain rfl := Option.some.inj hm
    exact finishMeasurement_status (by decide) hcurrent _ _ _
  | efficiency => exact hefficiency m hm

theorem measureStep_status (recurse : Text → Option (SimulatedMeasurement D))
    (state : SimulatorState D) (signal : SimulatedSignal D) (function : Text) :
    ∀ m ∈ measureStep recurse state signal function, m.status ∈ statusValues := by
  have hunavailable : (unavailable : SimulatedMeasurement D).status ∈ statusValues :=
    (by decide : kNotAvailable ∈ statusValues)
  have hundefined : (undefined : SimulatedMeasurement D).status ∈ statusValues :=
    (by decide : kUndefined ∈ statusValues)
  unfold measureStep
  refine ite_status (some_status hunavailable) ?_
  refine ite_status (some_status hunavailable) ?_
  refine ite_status (some_status hundefined) ?_
  refine ite_status (some_status ?_) ?_
  · split
    · exact (by decide : kNormal ∈ statusValues)
    · exact hundefined
  refine ite_status (some_status (measureTime_status _ _)) ?_
  refine ite_status (some_status hunavailable) ?_
  refine ite_status (some_status hundefined) ?_
  exact measurement_status (quantityOf_flags _ _ _ _ _ _) (rangeStatus_mem _ _)
    (rangeStatus_mem _ _) measureEfficiency_status

end Status

section Settled

variable {D : Type} [Arith D] {state : SimulatorState D} {signal : SimulatedSignal D}
  {recurse recurse' : Text → Option (SimulatedMeasurement D)} {m : SimulatedMeasurement D}
  {function : Text}

theorem measureStep_congr (hinput : recurse state.efficiencyInput = recurse' state.efficiencyInput)
    (houtput : recurse state.efficiencyOutput = recurse' state.efficiencyOutput) :
    measureStep recurse state signal function = measureStep recurse' state signal function := by
  unfold measureStep measurePhases measureEfficiency
  rw [hinput, houtput]

theorem measureEfficiency_settled {finish : D → Int → (Int → Int) → SimulatedMeasurement D}
    (hnone : recurse state.efficiencyInput = none ∨ recurse state.efficiencyOutput = none)
    (h : measureEfficiency recurse state finish = some m) :
    measureEfficiency recurse' state finish = some m := by
  unfold measureEfficiency at h ⊢
  split at h
  · next hempty => rwa [if_pos hempty]
  · split at h
    · next hinput houtput => simp [hinput, houtput] at hnone
    · cases h

theorem measurement_settled {quantity : Quantity D}
    {finish : D → Int → (Int → Int) → SimulatedMeasurement D} {voltageRange currentRange : Int → Int}
    {efficiency efficiency' : Option (SimulatedMeasurement D)}
    (hefficiency : efficiency = some m → efficiency' = some m)
    (h : quantity.measurement finish voltageRange currentRange efficiency = some m) :
    quantity.measurement finish voltageRange currentRange efficiency' = some m := by
  cases quantity with
  | efficiency => exact hefficiency h
  | _ => exact h

theorem ite_settled {A : Type} {a : A} {p : Prop} [Decidable p] {yes no no' : Option A}
    (hno : no = some a → no' = some a) (h : (if p then yes else no) = some a) :
    (if p then yes else no') = some a := by
  split at h
  · next hp => rwa [if_pos hp]
  · next hp => rw [if_neg hp, hno h]

theorem measureStep_settled
    (hnone : recurse state.efficiencyInput = none ∨ recurse state.efficiencyOutput = none)
    (h : measureStep recurse state signal function = some m) :
    measureStep recurse' state signal function = some m := by
  unfold measureStep at h ⊢
  refine ite_settled (fun h => ?_) h
  refine ite_settled (fun h => ?_) h
  refine ite_settled (fun h => ?_) h
  refine ite_settled (fun h => ?_) h
  refine ite_settled (fun h => ?_) h
  refine ite_settled (fun h => ?_) h
  refine ite_settled (fun h => ?_) h
  exact measurement_settled (measureEfficiency_settled hnone) h

theorem measureFuel_unsettled {reference : Text}
    (hreference : reference = state.efficiencyInput ∨ reference = state.efficiencyOutput)
    (h : measureStep (fun _ => none) state signal reference = none) (fuel : Nat) :
    measureFuel state signal fuel reference = none := by
  induction fuel with
  | zero => rfl
  | succ fuel ih =>
    rw [measureFuel]
    cases hstep : measureStep (measureFuel state signal fuel) state signal reference with
    | none => rfl
    | some m =>
      have hnone : measureFuel state signal fuel state.efficiencyInput = none ∨
          measureFuel state signal fuel state.efficiencyOutput = none := by
        rcases hreference with rfl | rfl
        · exact .inl ih
        · exact .inr ih
      rw [measureStep_settled hnone hstep] at h
      cases h

theorem measureFuel_reference {reference : Text}
    (hreference : reference = state.efficiencyInput ∨ reference = state.efficiencyOutput)
    {fuel : Nat} (h : measureFuel state signal fuel reference = some m) :
    measureFuel state signal 1 reference = some m := by
  cases fuel with
  | zero => cases h
  | succ fuel =>
    cases hsettled : measureStep (fun _ => none) state signal reference with
    | none =>
      rw [measureFuel_unsettled hreference hsettled] at h
      cases h
    | some m' =>
      have hany (recurse' : Text → Option (SimulatedMeasurement D)) :
          measureStep recurse' state signal reference = some m' :=
        measureStep_settled (.inl rfl) hsettled
      rw [measureFuel, hany] at h
      rw [measureFuel, hany, h]

theorem measure_eq_some_iff :
    measure state signal function = some m ↔
      ∃ fuel, measureFuel state signal fuel function = some m := by
  constructor
  · intro h
    exact ⟨2, h⟩
  · rintro ⟨fuel, h⟩
    cases fuel with
    | zero => cases h
    | succ fuel =>
      rw [measureFuel] at h
      rw [measure, measureFuel]
      cases hinput : measureFuel state signal fuel state.efficiencyInput with
      | none => exact measureStep_settled (.inl hinput) h
      | some input =>
        cases houtput : measureFuel state signal fuel state.efficiencyOutput with
        | none => exact measureStep_settled (.inr houtput) h
        | some output =>
          rw [← h]
          apply measureStep_congr
          · rw [hinput, measureFuel_reference (.inl rfl) hinput]
          · rw [houtput, measureFuel_reference (.inr rfl) houtput]

theorem measure_status (h : measure state signal function = some m) : m.status ∈ statusValues :=
  measureStep_status _ state signal function m h

end Settled

end Norma
