import Norma.Efficiency
import Norma.Lib.Bits
import Norma.Lib.FloatIdentity
import Norma.Status

namespace Norma

open Arith

inductive Channel where
  | voltage | current
  deriving DecidableEq

namespace Channel

def node : Channel → Text
  | voltage => "VOLTage"
  | current => "CURRent"

def config (channel : Channel) (state : State) : Fin (kMaxPhase + 1) → ChannelConfig Float :=
  match channel with
  | voltage => state.voltage
  | current => state.current

def raw (channel : Channel) (signal : SimulatedSignal Float) (phase : Fin kMaxPhase) : Float :=
  match channel with
  | voltage => (signal.phases phase).voltageRms
  | current => (signal.phases phase).currentRms

def register : Channel → StatusRegister
  | voltage => .questionableVoltage
  | current => .questionableCurrent

theorem condition_register (channel : Channel) (state : State) (signal : SimulatedSignal Float) :
    condition state signal channel.register =
      channelBits (channel.config state) (channel.raw signal) := by
  cases channel <;> rfl

end Channel

section Register

variable {config : Fin (kMaxPhase + 1) → ChannelConfig Float} {raw : Fin kMaxPhase → Float}

def ChannelConfig.Over (config : ChannelConfig Float) (raw : Float) : Prop :=
  config.autorange = false ∧ config.range < raw

def ChannelConfig.Under (config : ChannelConfig Float) (raw : Float) : Prop :=
  config.autorange = false ∧ ¬config.range < raw ∧ raw < config.range * 0.05

theorem channelBits_testBit (b : Nat) :
    (channelBits config raw).testBit b = true ↔
      (∃ phase : Fin kMaxPhase, (phase : Nat) = b ∧ (config phase.succ).Over (raw phase)) ∨
        ∃ phase : Fin kMaxPhase, (phase : Nat) + 8 = b ∧ (config phase.succ).Under (raw phase) := by
  unfold channelBits
  rw [Bits.foldl_testBit_iff (p := fun phase : Fin kMaxPhase =>
    ((phase : Nat) = b ∧ (config phase.succ).Over (raw phase)) ∨
      ((phase : Nat) + 8 = b ∧ (config phase.succ).Under (raw phase)))]
  · simp [exists_or]
  · intro bits phase
    simp only [ChannelConfig.Over, ChannelConfig.Under, Arith.lt, decide_eq_true_eq]
    cases hauto : (config phase.succ).autorange with
    | true => simp
    | false =>
      rw [if_neg (by simp)]
      split
      · next hhigh =>
        simp [hhigh, Int.testBit_lor, channelOverrange, Bits.testBit_two_pow]
      · next hhigh =>
        split
        · next hlow =>
          simp [hhigh, hlow, Int.testBit_lor, channelUnderrange, Bits.testBit_two_pow]
        · next hlow => simp [hhigh, hlow]

theorem channelBits_over (phase : Fin kMaxPhase) :
    Int.land (channelBits config raw) (channelOverrange phase) ≠ 0 ↔
      (config phase.succ).Over (raw phase) := by
  rw [channelOverrange, Bits.land_two_pow, channelBits_testBit]
  constructor
  · rintro (⟨p, hp, hover⟩ | ⟨p, hp, -⟩)
    · rwa [← Fin.ext hp]
    · have hlt : (phase : Nat) < 6 := phase.isLt
      omega
  · exact fun hover => .inl ⟨phase, rfl, hover⟩

theorem channelBits_under (phase : Fin kMaxPhase) :
    Int.land (channelBits config raw) (channelUnderrange phase) ≠ 0 ↔
      (config phase.succ).Under (raw phase) := by
  rw [channelUnderrange, Bits.land_two_pow, channelBits_testBit]
  constructor
  · rintro (⟨p, hp, -⟩ | ⟨p, hp, hunder⟩)
    · have hlt : (p : Nat) < 6 := p.isLt
      omega
    · have hphase : p = phase := Fin.ext (by omega)
      rwa [← hphase]
  · exact fun hunder => .inr ⟨phase, rfl, hunder⟩

end Register

section Measured

variable {state : State} {signal : SimulatedSignal Float} {function : Text}
  {recurse : Text → Option (SimulatedMeasurement Float)} {m : SimulatedMeasurement Float}

theorem rangeStatus_over (config : ChannelConfig Float) (raw : Float) :
    Int.land (rangeStatus config raw kNormal) kOverrange ≠ 0 ↔ config.Over raw := by
  unfold rangeStatus ChannelConfig.Over
  simp only [Arith.lt, decide_eq_true_eq]
  split
  · next hauto => simp [hauto, kNormal, kOverrange, Int.land]
  · next hauto =>
    split
    · next hhigh => exact iff_of_true (by decide) ⟨by simpa using hauto, hhigh⟩
    · next hhigh =>
      split
      · exact iff_of_false (by decide) fun h => hhigh h.2
      · exact iff_of_false (by decide) fun h => hhigh h.2

theorem rangeStatus_under (config : ChannelConfig Float) (raw : Float) :
    Int.land (rangeStatus config raw kNormal) kUnderrange ≠ 0 ↔ config.Under raw := by
  unfold rangeStatus ChannelConfig.Under
  simp only [Arith.lt, decide_eq_true_eq]
  split
  · next hauto => exact iff_of_false (by decide) fun h => Bool.false_ne_true (h.1.symm.trans hauto)
  · next hauto =>
    split
    · next hhigh => exact iff_of_false (by decide) fun h => h.2.1 hhigh
    · next hhigh =>
      split
      · next hlow => exact iff_of_true (by decide) ⟨by simpa using hauto, hhigh, hlow⟩
      · next hlow => exact iff_of_false (by decide) fun h => hlow h.2.2

theorem measured_else {p : Prop} [Decidable p] {yes no : Option (SimulatedMeasurement Float)}
    (hyes : p → yes ≠ some m) (h : (if p then yes else no) = some m) : no = some m := by
  split at h
  · next hp => exact absurd h (hyes hp)
  · exact h

theorem nan_ne (hvalue : m.value.isNaN = false) (status : Int) :
    some ⟨CNumber.nan, status⟩ ≠ some m := by
  intro h
  have hnan : CNumber.nan.isNaN = true := by decide +kernel
  rw [← Option.some.inj h, hnan] at hvalue
  cases hvalue

theorem measureStep_phases (h : measureStep recurse state signal function = some m)
    (hvalue : m.value.isNaN = false)
    (hfrequency : mnemonicMatches (splitFunction function).quantity "FREQuency" = false)
    (htime : mnemonicMatches (splitFunction function).quantity "TIME" = false) :
    measurePhases recurse state signal (splitFunction function)
      (aggregatedPhases (splitFunction function).suffix) = some m := by
  unfold measureStep at h
  replace h := measured_else (fun _ => nan_ne hvalue _) h
  replace h := measured_else (fun _ => nan_ne hvalue _) h
  replace h := measured_else (fun _ => nan_ne hvalue _) h
  replace h := measured_else (fun hmatch => by simp [hfrequency] at hmatch) h
  replace h := measured_else (fun hmatch => by simp [htime] at hmatch) h
  replace h := measured_else (fun _ => nan_ne hvalue _) h
  exact measured_else (fun _ => nan_ne hvalue _) h

theorem channel_mnemonic (channel : Channel) {quantity : Text}
    (h : mnemonicMatches quantity channel.node = true) :
    mnemonicMatches quantity "FREQuency" = false ∧ mnemonicMatches quantity "TIME" = false ∧
      mnemonicMatches quantity "VOLTage" = decide (channel = .voltage) ∧
      mnemonicMatches quantity "CURRent" = decide (channel = .current) := by
  cases channel with
  | voltage =>
    rcases mnemonic_spelling "VOLT" (by decide) rfl h with rfl | rfl <;> decide
  | current =>
    rcases mnemonic_spelling "CURR" (by decide) rfl h with rfl | rfl <;> decide

theorem finishMeasurement_range {accumulator : Accumulator} {factor value : Float}
    {rangeOf : Int → Int}
    (h : (finishMeasurement accumulator factor value kNormal rangeOf).value.isNaN = false) :
    (finishMeasurement accumulator factor value kNormal rangeOf).status = rangeOf kNormal := by
  unfold finishMeasurement at h ⊢
  dsimp only at h ⊢
  split at h
  · next hnan => exact absurd (h.symm.trans hnan) Bool.false_ne_true
  · next hnan => rw [if_neg hnan]

theorem measurement_range {wrap : Float → Quantity Float} {value : Option Float}
    {accumulator : Accumulator} {factor : Float} {range voltageRange currentRange : Int → Int}
    {efficiency : Option (SimulatedMeasurement Float)}
    (hwrap : ∀ value, (wrap value).measurement (finishMeasurement accumulator factor) voltageRange
      currentRange efficiency = some (finishMeasurement accumulator factor value kNormal range))
    (h : (Quantity.ofOption wrap value).measurement (finishMeasurement accumulator factor)
      voltageRange currentRange efficiency = some m)
    (hvalue : m.value.isNaN = false) : m.status = range kNormal := by
  cases value with
  | none => exact absurd h (nan_ne hvalue _)
  | some value =>
    rw [Quantity.ofOption, hwrap] at h
    obtain rfl := Option.some.inj h
    exact finishMeasurement_range hvalue

def Channel.mean (channel : Channel) (signal : SimulatedSignal Float) (phases : List Nat) : Float :=
  match channel with
  | voltage => (sumPhases signal phases).voltageRms / Arith.ofInt phases.length
  | current => (sumPhases signal phases).currentRms / Arith.ofInt phases.length

theorem measurePhases_range (channel : Channel) {parsed : FunctionName}
    (hquantity : mnemonicMatches parsed.quantity channel.node = true) {phases : List Nat}
    (h : measurePhases recurse state signal parsed phases = some m)
    (hvalue : m.value.isNaN = false) :
    m.status = rangeStatus (channel.config state (Fin.ofNat _ (phases.headD 0)))
      (channel.mean signal phases) kNormal := by
  obtain ⟨-, -, hvoltage, hcurrent⟩ := channel_mnemonic channel hquantity
  unfold measurePhases quantityOf at h
  dsimp only at h
  rw [hvoltage, hcurrent] at h
  cases channel with
  | voltage => exact measurement_range (fun _ => rfl) h hvalue
  | current => exact measurement_range (fun _ => rfl) h hvalue

theorem mean_single (channel : Channel) (signal : SimulatedSignal Float) (phase : Fin kMaxPhase) :
    ∃ zero one : Float, zero.toModel.unpack = .zero .positive ∧
      one.toModel.unpack = .finite .positive (2 ^ 52) (-52) (Nat.two_pow_pos 52) ∧
      channel.mean signal [phase.val + 1] = (zero + channel.raw signal phase) / one := by
  have hphase : Fin.ofNat kMaxPhase (phase.val + 1 - 1) = phase := by
    rw [Nat.add_sub_cancel]
    exact Fin.ext (Nat.mod_eq_of_lt phase.isLt)
  refine ⟨0.0, Float.ofInt 1, rfl, rfl, ?_⟩
  cases channel with
  | voltage =>
    change (0.0 + (signal.phases (Fin.ofNat kMaxPhase (phase.val + 1 - 1))).voltageRms) / _ = _
    rw [hphase]
    rfl
  | current =>
    change (0.0 + (signal.phases (Fin.ofNat kMaxPhase (phase.val + 1 - 1))).currentRms) / _ = _
    rw [hphase]
    rfl

def Channel.Named (channel : Channel) (phase : Fin kMaxPhase) (function : Text) : Prop :=
  mnemonicMatches (splitFunction function).quantity channel.node = true ∧
    (splitFunction function).suffix = phase.val + 1

theorem Channel.Named.status {channel : Channel} {phase : Fin kMaxPhase}
    (h : channel.Named phase function) (hmeasured : measure state signal function = some m)
    (hvalue : m.value.isNaN = false) :
    m.status = rangeStatus (channel.config state phase.succ) (channel.mean signal [phase.val + 1])
      kNormal := by
  obtain ⟨hquantity, hsuffix⟩ := h
  obtain ⟨hfrequency, htime, -, -⟩ := channel_mnemonic channel hquantity
  have hphases := measureStep_phases hmeasured hvalue hfrequency htime
  have hsingle : aggregatedPhases ((phase.val : Int) + 1) = [phase.val + 1] := by
    have hlt : (phase : Nat) < 6 := phase.isLt
    rw [aggregatedPhases, if_pos (by omega)]
    rfl
  rw [hsuffix, hsingle] at hphases
  have hindex : Fin.ofNat (kMaxPhase + 1) (phase.val + 1) = phase.succ :=
    Fin.ext (Nat.mod_eq_of_lt (Nat.succ_lt_succ phase.isLt))
  rw [measurePhases_range channel hquantity hphases hvalue, List.headD_cons, hindex]

theorem range_status_agrees {channel : Channel} {phase : Fin kMaxPhase}
    (hnamed : channel.Named phase function) (hmeasured : measure state signal function = some m)
    (hvalue : m.value.isNaN = false) :
    (Int.land m.status kOverrange ≠ 0 ↔
        Int.land (condition state signal channel.register) (channelOverrange phase) ≠ 0) ∧
      (Int.land m.status kUnderrange ≠ 0 ↔
        Int.land (condition state signal channel.register) (channelUnderrange phase) ≠ 0) := by
  obtain ⟨zero, one, hzero, hone, hmean⟩ := mean_single channel signal phase
  have hlt (y : Float) := FloatOrder.lt_zero_add_div_one (x := channel.raw signal phase) (y := y)
    hzero hone
  rw [channel.condition_register, channelBits_over, channelBits_under,
    hnamed.status hmeasured hvalue, rangeStatus_over, rangeStatus_under, hmean,
    ChannelConfig.Over, ChannelConfig.Over, ChannelConfig.Under, ChannelConfig.Under]
  simp only [hlt, and_self]

theorem overrange_agrees : ∃ (state : State) (m : SimulatedMeasurement Float),
    measure state .initial "VOLT1:DC" = some m ∧ Int.land m.status kOverrange ≠ 0 ∧
      Int.land (condition state .initial .questionableVoltage) (channelOverrange 0) ≠ 0 := by
  let state : State := { (NormaSimulator.new {}).state with voltage := fun _ => ⟨100, false, 1⟩ }
  have hnamed : Channel.voltage.Named 0 "VOLT1:DC" :=
    ⟨by decide +kernel, by decide +kernel⟩
  have hsome : (measure state .initial "VOLT1:DC").isSome = true := by decide +kernel
  obtain ⟨m, hmeasured⟩ := Option.isSome_iff_exists.mp hsome
  have hover : (measure state .initial "VOLT1:DC").all
      (fun m => !m.value.isNaN && m.status == kOverrange) = true := by decide +kernel
  simp only [hmeasured, Option.all_some, Bool.and_eq_true, Bool.not_eq_true', beq_iff_eq] at hover
  have hstatus : Int.land m.status kOverrange ≠ 0 := by
    rw [hover.2]
    decide
  exact ⟨state, m, hmeasured, hstatus, (range_status_agrees hnamed hmeasured hover.1).1.mp hstatus⟩

end Measured

end Norma
