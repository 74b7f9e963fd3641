import Norma.EventLatch
import Norma.Link
import Norma.Lib.FloatOrder

namespace Norma

open FloatOrder

structure Within (low high x : Float) : Prop where
  ordinary : x.isNaN = false
  low : low ≤ x
  high : x ≤ high

structure InRange (low high n : Int) : Prop where
  low : low ≤ n
  high : n ≤ high

instance (low high x : Float) : Decidable (Within low high x) :=
  decidable_of_iff (x.isNaN = false ∧ low ≤ x ∧ x ≤ high)
    ⟨fun h => ⟨h.1, h.2.1, h.2.2⟩, fun h => ⟨h.ordinary, h.low, h.high⟩⟩

instance (low high n : Int) : Decidable (InRange low high n) :=
  decidable_of_iff (low ≤ n ∧ n ≤ high) ⟨fun h => ⟨h.1, h.2⟩, fun h => ⟨h.low, h.high⟩⟩

def isLeapYear (year : Int) : Bool := year % 4 = 0 ∧ (year % 100 ≠ 0 ∨ year % 400 = 0)

def daysInMonth (year month : Int) : Int :=
  if month = 2 then if isLeapYear year then 29 else 28
  else if month ∈ ([4, 6, 9, 11] : List Int) then 30
  else 31

-- The manual's years have four digits.
structure Date.Valid (date : Date) : Prop where
  year : InRange 0 9999 date.year
  month : InRange 1 12 date.month
  day : InRange 1 (daysInMonth date.year date.month) date.day

structure Time.Valid (time : Time) : Prop where
  hours : InRange 0 23 time.hours
  minutes : InRange 0 59 time.minutes
  seconds : InRange 0 59 time.seconds

structure SweepConfig.WithinLimits (sweep : SweepConfig Float) : Prop where
  time : Within 1.0e-3 3600 sweep.time
  offsetTime : Within (-3600) 3600 sweep.offsetTime
  count : InRange 1 1000000 sweep.count
  sparsing : InRange 1 65535 sweep.sparsing

structure RegisterState.WithinLimits (r : RegisterState) : Prop where
  enable : InRange 0 65535 r.enable
  ptransition : InRange 0 65535 r.ptransition
  ntransition : InRange 0 65535 r.ntransition

theorem RegisterState.initial_withinLimits : ({} : RegisterState).WithinLimits where
  enable := (by decide : InRange 0 65535 0)
  ptransition := (by decide : InRange 0 65535 0xFFFF)
  ntransition := (by decide : InRange 0 65535 0)

structure ChannelConfig.WithinLimits (ranges : Ranges) (config : ChannelConfig Float) : Prop where
  scale : Within 0.9 1.0e7 config.scale
  range : config.range ∈ ranges.values

structure SimulatorState.WithinLimits (options : SimulatorOptions) (state : State) : Prop where
  gain : ∀ channel, Within 0 1.0e12 (state.gain channel)
  voltage : ∀ phase, (state.voltage phase).WithinLimits options.voltageRanges
  current : ∀ phase, (state.current phase).WithinLimits options.currentRanges
  aperture : Within kMinAperture kMaxAperture state.aperture
  syncLevel : Within (-1000) 1000 state.syncLevel
  syncFilterFrequency : state.syncFilterFrequency ∈ ([100, 1.0e3, 1.0e4] : List Float)
  syncTimeout : Within 0.015 3600 state.syncTimeout
  triggerStartLevel : Within (-1.0e7) 1.0e7 state.triggerStartLevel
  triggerStopLevel : Within (-1.0e7) 1.0e7 state.triggerStopLevel
  transformStart : Within 0 1.0e6 state.transformStart
  transformStop : Within 0 1.0e6 state.transformStop
  transformCycles : state.transformCycles ∈ ([4, 6, 8, 10, 12] : List Int)
  integralStopInterval : Within 1.0e-3 9.99e6 state.integralStopInterval
  sweep : ∀ block, (state.sweep block).WithinLimits
  harmonicOrder : InRange 0 100 state.harmonicOrder
  gpibAddress : InRange 1 30 state.gpibAddress
  serialBaud : InRange 1200 115200 state.serialBaud
  eventStatusEnable : InRange 0 255 state.eventStatusEnable
  serviceRequestEnable : InRange 0 255 state.serviceRequestEnable
  masterBit : state.serviceRequestEnable.testBit 6 = false
  operation : state.operation.WithinLimits
  questionable : state.questionable.WithinLimits
  questionableVoltage : state.questionableVoltage.WithinLimits
  questionableCurrent : state.questionableCurrent.WithinLimits
  date : state.date.Valid
  time : state.time.Valid

namespace Access

-- What the limits let through: NaN, bit 6 of SRE, and a date that no calendar has.
structure OrdinaryNumbers (a : Access) : Prop where
  number : a.AddressesNumber → ∀ value, a.Given value → value.isNaN = false
  serviceRequest : a.command.key = "*SRE" → ∀ value, a.GivenInt value → 0 ≤ value →
    value ≤ 255 → value.testBit 6 = false
  date : a.command.key = Key.systDate.text → ∀ year month day, a.GivenThree year month day →
    ¬(month < 1 ∨ 12 < month ∨ day < 1 ∨ 31 < day) →
    Date.Valid ⟨CNumber.truncInt32 year, CNumber.truncInt32 month, CNumber.truncInt32 day⟩
  time : a.command.key = Key.systTime.text → ∀ hours minutes seconds,
    a.GivenThree hours minutes seconds →
    ¬(hours < 0 ∨ 23 < hours ∨ minutes < 0 ∨ 59 < minutes ∨ seconds < 0 ∨ 59 < seconds) →
    hours.isNaN = false ∧ minutes.isNaN = false ∧ seconds.isNaN = false

end Access

def Step.received (step : Step) : Access :=
  ⟨step.before, [], step.key, commandSuffixes step.path step.text, step.isQuery,
    (parseCommand step.text).args, none, false⟩

def Step.OrdinaryNumbers (step : Step) : Prop :=
  step.isQuery = false → step.received.OrdinaryNumbers

def RegisterState.masks (r : RegisterState) : Int × Int × Int :=
  (r.enable, r.ptransition, r.ntransition)

def SimulatorState.numbers (state : State) :=
  ((state.gain, fun phase => ((state.voltage phase).scale, (state.voltage phase).range),
      fun phase => ((state.current phase).scale, (state.current phase).range)),
    (state.aperture, state.syncLevel, state.syncFilterFrequency, state.syncTimeout),
    (state.triggerStartLevel, state.triggerStopLevel),
    (state.transformStart, state.transformStop, state.transformCycles,
      state.integralStopInterval),
    (fun block => ((state.sweep block).time, (state.sweep block).offsetTime,
      (state.sweep block).count, (state.sweep block).sparsing)),
    (state.harmonicOrder, state.gpibAddress, state.serialBaud, state.eventStatusEnable,
      state.serviceRequestEnable),
    (state.operation.masks, state.questionable.masks, state.questionableVoltage.masks,
      state.questionableCurrent.masks), state.date, state.time)

section Frame

variable {options : SimulatorOptions}

theorem SimulatorState.WithinLimits.of_numbers {s t : State} (h : s.WithinLimits options)
    (hnumbers : t.numbers = s.numbers) : t.WithinLimits options := by
  simp only [SimulatorState.numbers, Prod.mk.injEq] at hnumbers
  obtain ⟨⟨hgain, hvoltage, hcurrent⟩, ⟨haperture, hlevel, hfilter, htimeout⟩, ⟨hstart, hstop⟩,
    ⟨htransform, htransformStop, hcycles, hinterval⟩, hsweep, ⟨horder, hgpib, hbaud, hese, hsre⟩,
    ⟨hoperation, hquestionable, hques, hquesCurrent⟩, hdate, htime⟩ := hnumbers
  have hchannel {ranges : Ranges} {c d : ChannelConfig Float} (hc : c.WithinLimits ranges)
      (hcd : (d.scale, d.range) = (c.scale, c.range)) : d.WithinLimits ranges := by
    rw [Prod.mk.injEq] at hcd
    exact ⟨hcd.1 ▸ hc.scale, hcd.2 ▸ hc.range⟩
  have hmasks {r r' : RegisterState} (hr : r.WithinLimits) (heq : r'.masks = r.masks) :
      r'.WithinLimits := by
    simp only [RegisterState.masks, Prod.mk.injEq] at heq
    exact ⟨heq.1 ▸ hr.enable, heq.2.1 ▸ hr.ptransition, heq.2.2 ▸ hr.ntransition⟩
  exact {
    gain := hgain ▸ h.gain
    voltage := fun phase => hchannel (h.voltage phase) (congrFun hvoltage phase)
    current := fun phase => hchannel (h.current phase) (congrFun hcurrent phase)
    aperture := haperture ▸ h.aperture
    syncLevel := hlevel ▸ h.syncLevel
    syncFilterFrequency := hfilter ▸ h.syncFilterFrequency
    syncTimeout := htimeout ▸ h.syncTimeout
    triggerStartLevel := hstart ▸ h.triggerStartLevel
    triggerStopLevel := hstop ▸ h.triggerStopLevel
    transformStart := htransform ▸ h.transformStart
    transformStop := htransformStop ▸ h.transformStop
    transformCycles := hcycles ▸ h.transformCycles
    integralStopInterval := hinterval ▸ h.integralStopInterval
    sweep := fun block => by
      have hblock := congrFun hsweep block
      simp only [Prod.mk.injEq] at hblock
      obtain ⟨htime, hoffset, hcount, hsparsing⟩ := hblock
      have hold := h.sweep block
      exact ⟨htime ▸ hold.time, hoffset ▸ hold.offsetTime, hcount ▸ hold.count,
        hsparsing ▸ hold.sparsing⟩
    harmonicOrder := horder ▸ h.harmonicOrder
    gpibAddress := hgpib ▸ h.gpibAddress
    serialBaud := hbaud ▸ h.serialBaud
    eventStatusEnable := hese ▸ h.eventStatusEnable
    serviceRequestEnable := hsre ▸ h.serviceRequestEnable
    masterBit := hsre ▸ h.masterBit
    operation := hmasks h.operation hoperation
    questionable := hmasks h.questionable hquestionable
    questionableVoltage := hmasks h.questionableVoltage hques
    questionableCurrent := hmasks h.questionableCurrent hquesCurrent
    date := hdate ▸ h.date
    time := htime ▸ h.time }

def Setting.Numberless {A : Type} (f : Setting A) : Prop := ∀ s v, (f.set s v).numbers = s.numbers

theorem update_view {I A B : Type} [DecidableEq I] {f : I → A} {i : I} {v : A} {g : A → B}
    (h : g v = g (f i)) : (fun j => g (Function.update f i v j)) = fun j => g (f j) := by
  funext j
  rcases eq_or_ne j i with rfl | hne
  · rw [Function.update_self, h]
  · rw [Function.update_of_ne hne]

theorem sweep_numberless {A : Type} (block : Fin 3) {m : Lens (SweepConfig Float) A}
    (hm : ∀ c v, ((m.set c v).time, (m.set c v).offsetTime, (m.set c v).count,
      (m.set c v).sparsing) = (c.time, c.offsetTime, c.count, c.sparsing)) :
    ((Setting.sweep.entry block).focus m).Numberless := by
  intro s v
  have hview := update_view (f := s.sweep) (i := block) (v := m.set (s.sweep block) v)
    (g := fun c : SweepConfig Float => (c.time, c.offsetTime, c.count, c.sparsing)) (hm _ v)
  exact congrArg (fun sweeps => (s.numbers.1, s.numbers.2.1, s.numbers.2.2.1, s.numbers.2.2.2.1,
    sweeps, s.numbers.2.2.2.2.2)) hview

theorem enableSweep_numberless (block : Fin 3) : (enableSweep block).Numberless :=
  sweep_numberless block fun _ _ => rfl

theorem autorange_numberless {f : Setting (ChannelConfig Float)} {ranges : Ranges}
    (h : ChannelSetting options f ranges) : (f.focus ChannelConfig.autorangeLens).Numberless := by
  intro s v
  have hview (configs : Fin (kMaxPhase + 1) → ChannelConfig Float) (phase : Fin (kMaxPhase + 1)) :=
    update_view (f := configs) (i := phase) (v := ⟨(configs phase).range, v, (configs phase).scale⟩)
      (g := fun c : ChannelConfig Float => (c.scale, c.range)) rfl
  cases h with
  | voltage phase =>
    exact congrArg (fun view => ((s.numbers.1.1, view, s.numbers.1.2.2), s.numbers.2))
      (hview s.voltage phase)
  | current phase =>
    exact congrArg (fun view => ((s.numbers.1.1, s.numbers.1.2.1, view), s.numbers.2))
      (hview s.current phase)

theorem BooleanSetting.numberless {f : Setting Bool} (h : BooleanSetting options f) :
    f.Numberless := by
  cases h with
  | autorange hconfig => exact autorange_numberless hconfig
  | _ => exact fun _ _ => rfl

theorem KeywordSetting.numberless {A : Type} {f : Setting A} (h : KeywordSetting f) :
    f.Numberless := by
  cases h <;> exact fun _ _ => rfl

theorem FunctionsSetting.numberless {f : Setting (List Text)} (h : FunctionsSetting f) :
    f.Numberless := by
  cases h with
  | sweep block => exact sweep_numberless block fun _ _ => rfl
  | _ => exact fun _ _ => rfl

theorem SourceSetting.numberless {f : Setting Text} (h : SourceSetting f) : f.Numberless := by
  cases h <;> exact fun _ _ => rfl

theorem FormatPair.numberless {key : Key} {f g : Setting DataFormatSetting}
    {fallback : DataFormat} (h : FormatPair key f g fallback) : f.Numberless ∧ g.Numberless := by
  cases h <;> exact ⟨fun _ _ => rfl, fun _ _ => rfl⟩

theorem registerState_numbers {s : State} {reg : StatusRegister} {r : RegisterState}
    (h : r.masks = ((registerState reg).get s).masks) :
    ((registerState reg).set s r).numbers = s.numbers := by
  cases reg <;>
    simpa [SimulatorState.numbers, registerState, Setting.operation, Setting.questionable,
      Setting.questionableVoltage, Setting.questionableCurrent] using h

end Frame

section Stored

variable {a : Access} {state : State}

theorem Within.of_range {low high x : Float} (hlow : low.isFinite = true)
    (hhigh : high.isFinite = true) (hnan : x.isNaN = false) (hmin : ¬x < low) (hmax : ¬high < x) :
    Within low high x :=
  ⟨hnan, (mem_range hlow hhigh hnan hmin hmax).1, (mem_range hlow hhigh hnan hmin hmax).2⟩

theorem Within.widen {low high low' high' x : Float} (h : Within low high x)
    (hx : x.isFinite = true) (hlow : low.isFinite = true) (hhigh : high.isFinite = true)
    (hlow' : low'.isFinite = true) (hhigh' : high'.isFinite = true)
    (hless : value low' ≤ value low) (hmore : value high ≤ value high') :
    Within low' high' x :=
  ⟨h.ordinary, (le_iff hlow' hx).mpr (hless.trans ((le_iff hlow hx).mp h.low)),
    (le_iff hx hhigh').mpr (((le_iff hx hhigh).mp h.high).trans hmore)⟩

theorem forall_update {I A : Type} [DecidableEq I] {f : I → A} {i : I} {v : A} {P : A → Prop}
    (h : ∀ j, P (f j)) (hv : P v) (j : I) : P (Function.update f i v j) := by
  rcases eq_or_ne j i with rfl | hne
  · rwa [Function.update_self]
  · rw [Function.update_of_ne hne]
    exact h j

theorem NumberSetting.withinLimits {f : Setting Float} {min max x : Float}
    (h : NumberSetting a f min max) (hs : a.sim.state.WithinLimits a.sim.options)
    (hnan : x.isNaN = false) (hlow : ¬x < min) (hhigh : ¬max < x) :
    (f.set a.sim.state x).WithinLimits a.sim.options := by
  cases h with
  | gain channel =>
    have hx : Within 0 1.0e12 x := .of_range (by decide +kernel) (by decide +kernel) hnan hlow hhigh
    exact { hs with gain := forall_update hs.gain hx }
  | scale hconfig =>
    have hx : Within 0.9 1.0e7 x :=
      .of_range (by decide +kernel) (by decide +kernel) hnan hlow hhigh
    cases hconfig with
    | voltage phase =>
      exact { hs with voltage := forall_update hs.voltage ⟨hx, (hs.voltage phase).range⟩ }
    | current phase =>
      exact { hs with current := forall_update hs.current ⟨hx, (hs.current phase).range⟩ }
  | aperture =>
    exact { hs with
      aperture := .of_range (by decide +kernel) (by decide +kernel) hnan hlow hhigh }
  | sweepTime block =>
    have hx : Within 1.0e-3 3600 x :=
      .of_range (by decide +kernel) (by decide +kernel) hnan hlow hhigh
    exact { hs with sweep := forall_update hs.sweep { hs.sweep block with time := hx } }
  | sweepOffsetTime block =>
    have hx : Within (-3600) 3600 x :=
      .of_range (by decide +kernel) (by decide +kernel) hnan hlow hhigh
    exact { hs with sweep := forall_update hs.sweep { hs.sweep block with offsetTime := hx } }
  | syncLevel =>
    have hx : Within (-1000) 1000 x := by
      cases hunit : a.sim.state.syncLevelUnit with
      | absolute =>
        simp only [hunit] at hlow hhigh
        exact .of_range (by decide +kernel) (by decide +kernel) hnan hlow hhigh
      | percent =>
        simp only [hunit, if_true] at hlow hhigh
        have hfinite : ((-150 : Float).isFinite && (150 : Float).isFinite) = true := by
          decide +kernel
        rw [Bool.and_eq_true] at hfinite
        exact (Within.of_range hfinite.1 hfinite.2 hnan hlow hhigh).widen
          (finite_of_range hfinite.1 hfinite.2 hnan hlow hhigh) hfinite.1 hfinite.2
          (by decide +kernel) (by decide +kernel) (by decide +kernel) (by decide +kernel)
    exact { hs with syncLevel := hx }
  | syncTimeout =>
    exact { hs with
      syncTimeout := .of_range (by decide +kernel) (by decide +kernel) hnan hlow hhigh }
  | triggerStartLevel =>
    exact { hs with
      triggerStartLevel := .of_range (by decide +kernel) (by decide +kernel) hnan hlow hhigh }
  | triggerStopLevel =>
    exact { hs with
      triggerStopLevel := .of_range (by decide +kernel) (by decide +kernel) hnan hlow hhigh }
  | transformStart =>
    exact { hs with
      transformStart := .of_range (by decide +kernel) (by decide +kernel) hnan hlow hhigh }
  | transformStop =>
    exact { hs with
      transformStop := .of_range (by decide +kernel) (by decide +kernel) hnan hlow hhigh }
  | integralStopInterval =>
    exact { hs with
      integralStopInterval := .of_range (by decide +kernel) (by decide +kernel) hnan hlow hhigh }

theorem IntegerSetting.withinLimits {f : Setting Int} {min max n : Int}
    (h : IntegerSetting f min max) (hs : a.sim.state.WithinLimits a.sim.options) (hlow : min ≤ n)
    (hhigh : n ≤ max) : (f.set a.sim.state n).WithinLimits a.sim.options := by
  cases h with
  | eventStatusEnable => exact { hs with eventStatusEnable := ⟨hlow, hhigh⟩ }
  | sweepCount block =>
    exact { hs with
      sweep := forall_update hs.sweep { hs.sweep block with count := ⟨hlow, hhigh⟩ } }
  | sweepSparsing block =>
    exact { hs with
      sweep := forall_update hs.sweep { hs.sweep block with sparsing := ⟨hlow, hhigh⟩ } }
  | harmonicOrder => exact { hs with harmonicOrder := ⟨hlow, hhigh⟩ }
  | gpibAddress => exact { hs with gpibAddress := ⟨hlow, hhigh⟩ }
  | serialBaud => exact { hs with serialBaud := ⟨hlow, hhigh⟩ }

theorem SimulatorState.WithinLimits.register {s : State} {options : SimulatorOptions}
    (h : s.WithinLimits options) (reg : StatusRegister) :
    ((registerState reg).get s).WithinLimits := by
  cases reg with
  | operation => exact h.operation
  | questionable => exact h.questionable
  | questionableVoltage => exact h.questionableVoltage
  | questionableCurrent => exact h.questionableCurrent

theorem register_withinLimits {s : State} {options : SimulatorOptions} {reg : StatusRegister}
    {r : RegisterState} (hs : s.WithinLimits options) (hr : r.WithinLimits) :
    ((registerState reg).set s r).WithinLimits options := by
  cases reg with
  | operation => exact { hs with operation := hr }
  | questionable => exact { hs with questionable := hr }
  | questionableVoltage => exact { hs with questionableVoltage := hr }
  | questionableCurrent => exact { hs with questionableCurrent := hr }

theorem MaskSetting.withinLimits {reg : StatusRegister} {f : Setting Int} {n : Int}
    (h : MaskSetting reg f) (hs : a.sim.state.WithinLimits a.sim.options) (hlow : 0 ≤ n)
    (hhigh : n ≤ 65535) : (f.set a.sim.state n).WithinLimits a.sim.options := by
  have hr := hs.register reg
  cases h with
  | enable => exact register_withinLimits hs { hr with enable := ⟨hlow, hhigh⟩ }
  | positiveTransition => exact register_withinLimits hs { hr with ptransition := ⟨hlow, hhigh⟩ }
  | negativeTransition => exact register_withinLimits hs { hr with ntransition := ⟨hlow, hhigh⟩ }

theorem Time.valid_of_range {hours minutes seconds : Float}
    (hnan : hours.isNaN = false ∧ minutes.isNaN = false ∧ seconds.isNaN = false)
    (hrange : ¬(hours < 0 ∨ 23 < hours ∨ minutes < 0 ∨ 59 < minutes ∨ seconds < 0 ∨
      59 < seconds)) :
    Time.Valid ⟨CNumber.truncInt32 hours, CNumber.truncInt32 minutes,
      CNumber.truncInt32 seconds⟩ := by
  simp only [not_or] at hrange
  obtain ⟨hhours, hhours', hminutes, hminutes', hseconds, hseconds'⟩ := hrange
  have hzero : (0 : Float).isFinite = true ∧ value 0 = 0 * unitsOfOne := by decide +kernel
  have hlast : (23 : Float).isFinite = true ∧ value 23 = 23 * unitsOfOne := by decide +kernel
  have hlast' : (59 : Float).isFinite = true ∧ value 59 = 59 * unitsOfOne := by decide +kernel
  have hbound := truncInt32_bounds hzero.1 hlast.1 hzero.2 hlast.2 (by decide) (by decide)
    hnan.1 hhours hhours'
  have hbound' {x : Float} (hx : x.isNaN = false) (hlow : ¬x < 0) (hhigh : ¬59 < x) :
      InRange 0 59 (CNumber.truncInt32 x) := by
    have h := truncInt32_bounds hzero.1 hlast'.1 hzero.2 hlast'.2 (by decide) (by decide) hx
      hlow hhigh
    exact ⟨h.1, h.2⟩
  exact ⟨⟨hbound.1, hbound.2⟩, hbound' hnan.2.1 hminutes hminutes',
    hbound' hnan.2.2 hseconds hseconds'⟩

theorem Stored.withinLimits (h : Stored a state) (hs : a.sim.state.WithinLimits a.sim.options)
    (ha : a.OrdinaryNumbers) : state.WithinLimits a.sim.options := by
  cases h with
  | unchanged => exact hs
  | number hsetting hlow hhigh haddress hgiven =>
    exact hsetting.withinLimits hs (ha.number haddress _ hgiven) hlow hhigh
  | longestSweep block =>
    have hx : Within 1.0e-3 3600 3600 := by decide +kernel
    exact { hs with sweep := forall_update hs.sweep { hs.sweep block with time := hx } }
  | integer hsetting hlow hhigh => exact hsetting.withinLimits hs hlow hhigh
  | serviceRequestEnable hlow hhigh hkey hgiven =>
    exact { hs with
      serviceRequestEnable := ⟨hlow, hhigh⟩
      masterBit := ha.serviceRequest hkey _ hgiven hlow hhigh }
  | mask hsetting hlow hhigh => exact hsetting.withinLimits hs hlow hhigh
  | boolean hsetting value => exact hs.of_numbers (hsetting.numberless _ _)
  | keyword hsetting value => exact hs.of_numbers (hsetting.numberless _ _)
  | functionList hsetting => exact hs.of_numbers (hsetting.numberless _ _)
  | range hconfig hrange =>
    cases hconfig with
    | voltage phase =>
      exact { hs with voltage := forall_update hs.voltage ⟨(hs.voltage phase).scale, hrange⟩ }
    | current phase =>
      exact { hs with current := forall_update hs.current ⟨(hs.current phase).scale, hrange⟩ }
  | syncFilterFrequency hvalue => exact { hs with syncFilterFrequency := hvalue }
  | source hsetting => exact hs.of_numbers (hsetting.numberless _ _)
  | sweepState => exact hs.of_numbers (enableSweep_numberless _ _ _)
  | sequence => exact hs.of_numbers (enableSweep_numberless _ _ _)
  | abort =>
    exact hs.of_numbers ((enableSweep_numberless 2 _ _).trans (enableSweep_numberless 1 _ _))
  | deleteAll =>
    exact hs.of_numbers ((enableSweep_numberless 2 _ _).trans (enableSweep_numberless 1 _ _))
  | format hpair =>
    exact hs.of_numbers ((hpair.numberless.2 _ _).trans (hpair.numberless.1 _ _))
  | transformCycles hvalue => exact { hs with transformCycles := hvalue }
  | date hkey hgiven hrange => exact { hs with date := ha.date hkey _ _ _ hgiven hrange }
  | time hkey hgiven hrange =>
    exact { hs with time := Time.valid_of_range (ha.time hkey _ _ _ hgiven hrange) hrange }
  | _ => exact hs.of_numbers rfl

theorem pushError_numbers (s : State) (code : Int) (message : Text) :
    (s.pushError code message).numbers = s.numbers := by
  unfold SimulatorState.pushError
  split <;> rfl

theorem reset_withinLimits (sim : NormaSimulator) :
    sim.reset.state.WithinLimits sim.options where
  gain _ := (by decide +kernel : Within 0 1.0e12 1)
  voltage _ := ⟨(by decide +kernel : Within 0.9 1.0e7 1), List.getLast_mem _⟩
  current _ := ⟨(by decide +kernel : Within 0.9 1.0e7 1), List.getLast_mem _⟩
  aperture := (by decide +kernel : Within kMinAperture kMaxAperture 0.1)
  syncLevel := (by decide +kernel : Within (-1000) 1000 0)
  syncFilterFrequency := by simp [NormaSimulator.reset, SimulatorState.initial]
  syncTimeout := (by decide +kernel : Within 0.015 3600 1)
  triggerStartLevel := (by decide +kernel : Within (-1.0e7) 1.0e7 0)
  triggerStopLevel := (by decide +kernel : Within (-1.0e7) 1.0e7 0)
  transformStart := (by decide +kernel : Within 0 1.0e6 0)
  transformStop := (by decide +kernel : Within 0 1.0e6 5000)
  transformCycles := by simp [NormaSimulator.reset, SimulatorState.initial]
  integralStopInterval := (by decide +kernel : Within 1.0e-3 9.99e6 60)
  sweep _ := ⟨(by decide +kernel : Within 1.0e-3 3600 1),
    (by decide +kernel : Within (-3600) 3600 0), (by decide : InRange 1 1000000 1),
    (by decide : InRange 1 65535 1)⟩
  harmonicOrder := (by decide : InRange 0 100 1)
  gpibAddress := (by decide : InRange 1 30 5)
  serialBaud := (by decide : InRange 1200 115200 115200)
  eventStatusEnable := (by decide : InRange 0 255 0)
  serviceRequestEnable := (by decide : InRange 0 255 0)
  masterBit := rfl
  operation := RegisterState.initial_withinLimits
  questionable := RegisterState.initial_withinLimits
  questionableVoltage := RegisterState.initial_withinLimits
  questionableCurrent := RegisterState.initial_withinLimits
  date := ⟨(by decide : InRange 0 9999 2026), (by decide : InRange 1 12 1),
    (by decide : InRange 1 31 1)⟩
  time := ⟨(by decide : InRange 0 23 12), (by decide : InRange 0 59 0),
    (by decide : InRange 0 59 0)⟩

end Stored

section Runs

variable {step : Step}

theorem latch_numbers (sim : NormaSimulator) (reg : StatusRegister) :
    ((registerState reg).set sim.state (sim.latched reg)).numbers = sim.state.numbers :=
  registerState_numbers rfl

theorem Change.of_numbers {P : SimulatorOptions → State → Prop} {a b : Access} (h : Change a b)
    (hframe : ∀ s t : State, t.numbers = s.numbers → P a.sim.options s → P a.sim.options t)
    (hreset : P a.sim.options a.sim.reset.state)
    (hstored : a.command.query = false → ∀ state, Stored a state → P a.sim.options state)
    (hs : P a.sim.options a.sim.state) : P b.sim.options b.sim.state := by
  have hkeep {t : State} (ht : t.numbers = a.sim.state.numbers) : P a.sim.options t :=
    hframe _ _ ht hs
  cases h with
  | rejected code message => exact hkeep (pushError_numbers _ _ _)
  | answered text => exact hs
  | measured text => exact hkeep rfl
  | stored hset hstate => exact hstored hset _ hstate
  | reset => exact hreset
  | clearStatus => exact hkeep rfl
  | operationComplete =>
    unfold Access.operationComplete
    split
    · exact hs
    · exact hkeep rfl
  | readEventStatus => exact hkeep rfl
  | statusByte => exact hkeep (latch_numbers a.sim .questionable)
  | event reg =>
    exact hframe _ _ (registerState_numbers rfl) (hkeep (latch_numbers a.sim reg))
  | nextError =>
    unfold Access.nextError
    split
    · exact hs
    · exact hkeep rfl
  | allErrors =>
    unfold Access.allErrors
    split
    · exact hs
    · exact hkeep rfl

theorem Change.withinLimits {a b : Access} (h : Change a b)
    (hs : a.sim.state.WithinLimits a.sim.options)
    (ha : a.command.query = false → a.OrdinaryNumbers) :
    b.sim.state.WithinLimits b.sim.options :=
  h.of_numbers (P := fun options state => state.WithinLimits options)
    (fun _ _ hnumbers hold => hold.of_numbers hnumbers) (reset_withinLimits a.sim)
    (fun hset _ hstored => hstored.withinLimits hs (ha hset)) hs

theorem Step.Valid.withinLimits (h : step.Valid)
    (hs : step.before.state.WithinLimits step.before.options) (hordinary : step.OrdinaryNumbers) :
    step.after.sim.state.WithinLimits step.after.sim.options := by
  have hchange := handleCommand_change h
  generalize step.after = out at hchange
  cases hchange with
  | undefined rest => exact hs.of_numbers (pushError_numbers _ _ _)
  | @changed command b rest hkey hsuffixes hquery hargs hresponse hfailed hchange =>
    refine hchange.withinLimits hs fun hset => ?_
    have hreceived := hordinary (hquery.symm.trans hset)
    obtain ⟨tokens, key, suffixes, query, args, response, failed⟩ := command
    obtain rfl : key = step.key := hkey
    obtain rfl : suffixes = commandSuffixes step.path step.text := hsuffixes
    obtain rfl : args = (parseCommand step.text).args := hargs
    exact ⟨hreceived.number, hreceived.serviceRequest, hreceived.date, hreceived.time⟩

theorem settings_within_limits {options : SimulatorOptions} {moves : List Move}
    (husage : Usage (.new options) moves)
    (hordinary : ∀ step, .command step ∈ moves → step.OrdinaryNumbers) :
    (NormaSimulator.new options).state.WithinLimits options ∧
      ∀ move ∈ moves, move.after.state.WithinLimits move.after.options := by
  have hnew : (NormaSimulator.new options).state.WithinLimits options :=
    reset_withinLimits ⟨options, .initial, .initial⟩
  exact ⟨hnew, husage.linked.kept (fun sim => sim.state.WithinLimits sim.options)
    (fun _ => Step.Valid.withinLimits) (fun _ _ hs => hs) hnew hordinary⟩

theorem handleCommand_aperture (sim : NormaSimulator) {text argument : Text} {number : Float}
    (hparse : parseCommand text = ⟨"APER", false, [argument]⟩) (hne : argument ≠ [])
    (hnumber : parseNumber (unquote argument) = some number)
    (hrange : ¬(number < kMinAperture ∨ kMaxAperture < number)) :
    ∃ path, handleCommand sim [] text =
      some ⟨{ sim with state := Setting.aperture.set sim.state number }, path, none, false⟩ := by
  have hheader : Addresses "APER" .aper [] := by decide +kernel
  have hrun (a : Access) (hset : a.command.query = false) (hargs : a.command.args = [argument]) :
      execute .aper a = some (a.assign .aperture number) := by
    have hexecute : execute .aper a = some (a.number .aperture kMinAperture kMaxAperture) := rfl
    simp [hexecute, Access.number, Access.parameter, Command.argument, hset, hargs, hne, hnumber,
      hrange]
  exact handleCommand_runs hparse hheader (hrun _ rfl rfl)

theorem aperture_ordinary {step : Step} (hpath : step.path = []) (htext : step.text = "APER 2") :
    step.OrdinaryNumbers := by
  intro hset
  have hkey : step.received.command.key = "APER" := by
    change commandKey step.path step.text = "APER"
    rw [hpath, htext]
    decide +kernel
  have hargs : step.received.command.args = ["2"] := by
    change (parseCommand step.text).args = ["2"]
    rw [htext]
    decide +kernel
  refine ⟨?_, fun h => ?_, fun h => ?_, fun h => ?_⟩
  · rintro - value ⟨text, hargument, hvalue⟩
    have hunquoted : unquote "2" = text := by
      rw [Command.argument, hargs] at hargument
      exact Option.some.inj hargument
    have hnumber : parseNumber (unquote "2") = some 2 := by decide +kernel
    rw [← hunquoted, hnumber, Option.some.injEq] at hvalue
    rw [← hvalue]
    decide +kernel
  all_goals exact absurd (hkey.symm.trans h) (by decide)

theorem aperture_within_limits : ∃ moves, Usage (.new {}) moves ∧ moves ≠ [] ∧
    ∀ move ∈ moves, move.after.state.WithinLimits move.after.options := by
  have hparse : parseCommand "APER 2" = ⟨"APER", false, ["2"]⟩ := by decide +kernel
  have hnumber : parseNumber (unquote "2") = some 2 := by decide +kernel
  obtain ⟨path, hout⟩ := handleCommand_aperture (.new {}) hparse (by decide) hnumber
    (by decide +kernel)
  have husage := Usage.command (by decide +kernel) (by decide +kernel) (by decide) hout (.done _)
  refine ⟨_, husage, by simp, (settings_within_limits husage fun step hstep => ?_).2⟩
  obtain rfl := Move.command.inj (List.mem_singleton.mp hstep)
  exact aperture_ordinary rfl rfl

theorem aperture_not_a_number : ¬∀ sim, Reachable sim → sim.state.WithinLimits sim.options := by
  intro hall
  let sim : NormaSimulator := .new {}
  have hparse : parseCommand "APER nan" = ⟨"APER", false, ["nan"]⟩ := by decide +kernel
  have hnumber : parseNumber (unquote "nan") = some CNumber.nan := by decide +kernel
  obtain ⟨path, hout⟩ := handleCommand_aperture sim hparse (by decide) hnumber (by decide +kernel)
  have hplain : Unquoted ("APER nan" : Text) := by decide
  have htrim : trim "APER nan" = "APER nan" := by decide +kernel
  have hline : sim.handleLine "APER nan" =
      some ({ sim with state := Setting.aperture.set sim.state CNumber.nan }, none) := by
    rw [handleLine_whole (hplain.whole_iff.mpr (by decide)) htrim (by decide), hout]
    rfl
  have hordinary := (hall _ (.line (.new {}) _ hline)).aperture.ordinary
  have hnan : CNumber.nan.isNaN = true := by decide +kernel
  exact absurd (hordinary.symm.trans hnan) (by decide)

end Runs

end Norma
