import Norma.RegisterAddress

namespace Norma

open CNumber (nineDigits)

namespace Access

variable {A : Type}

def judged (a : Access) (store : A → State → State) : Verdict A → Access
  | .ok kept => a.update (store kept)
  | .error entry => a.fail entry.code entry.message

theorem argument_bare {a : Access} {text : Text} (hargs : a.command.args = [text])
    (hbare : Bare text) : a.command.argument = some text := by
  have hsome : a.command.argument = if text = [] then none else some (unquote text) := by
    simp only [Command.argument, hargs]
    rfl
  rw [hsome, if_neg hbare.nonempty, unquote_plainField hbare.plainField]

end Access

structure Handler {A : Type} [Parameter A] (f : Setting A) (verdict : NormaSimulator → A → Verdict A)
    (store : A → State → State) (serve : Access → Access) : Prop where
  asked : ∀ a : Access, a.command.query = true →
    serve a = a.respond (Parameter.answer (a.read f))
  told : ∀ (a : Access) (v : A), a.command.query = false → a.command.args = Parameter.args v →
    Parameter.Fits v → serve a = a.judged store (verdict a.sim v)

namespace Handler

def keep {A : Type} (f : Setting A) (v : A) (s : State) : State := f.set s v

theorem boolean (f : Setting Bool) : Handler f (fun _ => .ok) (keep f) (·.boolean f) where
  asked a hquery := if_pos hquery
  told a on hset hargs _ := by
    have hparse : parseBoolean (formatOn on) = some on := by
      cases on <;> decide +kernel
    simp only [Access.boolean, hset, Bool.false_eq_true, if_false, Access.parameter,
      Access.argument_bare hargs (bare_formatOn on), hparse]
    rfl

theorem keyword (keyword : Keyword) (f : Setting keyword.Value) :
    @Handler keyword.Value keyword.parameter f (fun _ => .ok) (keep f)
      (·.keyword f keyword.offered) := by
  let _ : Parameter keyword.Value := keyword.parameter
  refine ⟨fun a hquery => if_pos hquery, fun a value hset hargs _ => ?_⟩
  have hfind := keyword.toScpi_understood value
  obtain ⟨⟨v, names⟩, hspelled, rfl⟩ := Option.map_eq_some_iff.mp hfind
  simp only [Access.keyword, hset, Bool.false_eq_true, if_false, Access.parameter,
    Access.argument_bare hargs (bare_keyword keyword v), hspelled]
  rfl

theorem numberWithin (f : Setting Float) (low high : NormaSimulator → Float) :
    Handler f (fun sim => within (low sim) (high sim)) (keep f)
      (fun a => a.number f (low a.sim) (high a.sim)) where
  asked a hquery := if_pos hquery
  told a x hset hargs _ := by
    simp only [Access.number, hset, Bool.false_eq_true, if_false, Access.parameter,
      Access.argument_bare hargs (bare_formatDouble x), parseNumber_formatDouble, within]
    split <;> rfl

theorem number (f : Setting Float) (low high : Float) :
    Handler f (fun _ => within low high) (keep f) (·.number f low high) :=
  numberWithin f (fun _ => low) fun _ => high

theorem readInteger_small {a : Access} {n : Int} (hargs : a.command.args = [toText n])
    (h : FitsInt n) (low high : Int) (body : Int → Access) :
    a.readInteger low high body =
      if n < low ∨ high < n then a.outOfRange (toText n) else body n := by
  obtain ⟨x, hparse, hinteger⟩ := parseNumber_small h
  have hrounded : CNumber.toInt32 (CNumber.lround x) = n := hinteger.rounded h
  simp only [Access.readInteger, Access.parameter, Access.argument_bare hargs (bare_toText n),
    hparse, hrounded]

theorem integer (f : Setting Int) (low high : Int) :
    Handler f (fun _ => between low high) (keep f) (·.integer f low high) where
  asked a hquery := if_pos hquery
  told a n hset hargs h := by
    rw [Access.integer, if_neg (by simp [hset]), readInteger_small hargs h, between]
    split <;> rfl

theorem cycles : Handler .transformCycles (fun _ => evenCycles) (keep .transformCycles)
    Access.cycles where
  asked a hquery := if_pos hquery
  told a n hset hargs h := by
    rw [Access.cycles, if_neg (by simp [hset]), readInteger_small hargs h, evenCycles]
    split
    · rfl
    · split <;> rfl

theorem syncFilterFrequency : Handler .syncFilterFrequency (fun _ => cutOff)
    (keep .syncFilterFrequency) Access.syncFilterFrequency where
  asked a hquery := if_pos hquery
  told a x hset hargs _ := by
    simp only [Access.syncFilterFrequency, hset, Bool.false_eq_true, if_false, Access.parameter,
      Access.argument_bare hargs (bare_formatDouble x), parseNumber_formatDouble, cutOff]
    generalize List.find? _ _ = found
    cases found <;> rfl

theorem range (config : Setting (ChannelConfig Float)) (ranges : NormaSimulator → Ranges) :
    Handler (config.focus ChannelConfig.rangeLens) (fun sim => snapped (ranges sim))
      (fun range s => config.set s { config.get s with range, autorange := false })
      (fun a => a.range config (ranges a.sim)) where
  asked a hquery := if_pos hquery
  told a x hset hargs _ := by
    simp only [Access.range, hset, Bool.false_eq_true, if_false, Access.parameter,
      Access.argument_bare hargs (bare_formatDouble x), parseNumber_formatDouble, snapped]
    split <;> rfl

section Fields

theorem isInteger_literal : IsInteger 0 0 ∧ IsInteger 1 1 ∧ IsInteger 12 12 ∧ IsInteger 23 23 ∧
    IsInteger 31 31 ∧ IsInteger 59 59 := by
  refine ⟨⟨?_, ?_⟩, ⟨?_, ?_⟩, ⟨?_, ?_⟩, ⟨?_, ?_⟩, ⟨?_, ?_⟩, ⟨?_, ?_⟩⟩ <;> decide +kernel

theorem date : Handler .date (fun _ => calendarDate) (keep .date) Access.date where
  asked a hquery := if_pos hquery
  told a date hset hargs h := by
    obtain ⟨hyear, hmonth, hday⟩ := h
    obtain ⟨year, hparse, hy⟩ := parseNumber_small hyear
    obtain ⟨month, hparse', hm⟩ := parseNumber_small hmonth
    obtain ⟨day, hparse'', hd⟩ := parseNumber_small hday
    obtain ⟨-, hone, htwelve, -, hlast, -⟩ := isInteger_literal
    have hargs' : a.command.args = [toText date.year, toText date.month, toText date.day] := hargs
    rw [Access.date, if_neg (by simp [hset]), hargs']
    simp only [hparse, hparse', hparse'', hm.lt_iff hone, htwelve.lt_iff hm, hd.lt_iff hone,
      hlast.lt_iff hd, hy.truncated hyear, hm.truncated hmonth, hd.truncated hday, calendarDate]
    split <;> rfl

theorem time : Handler .time (fun _ => clockTime) (keep .time) Access.time where
  asked a hquery := if_pos hquery
  told a time hset hargs h := by
    obtain ⟨hhours, hminutes, hseconds⟩ := h
    obtain ⟨hours, hparse, hh⟩ := parseNumber_small hhours
    obtain ⟨minutes, hparse', hm⟩ := parseNumber_small hminutes
    obtain ⟨seconds, hparse'', hs⟩ := parseNumber_small hseconds
    obtain ⟨hzero, -, -, hlast, -, hlast'⟩ := isInteger_literal
    have hargs' : a.command.args =
        [toText time.hours, toText time.minutes, toText time.seconds] := hargs
    rw [Access.time, if_neg (by simp [hset]), hargs']
    simp only [hparse, hparse', hparse'', hh.lt_iff hzero, hlast.lt_iff hh, hm.lt_iff hzero,
      hlast'.lt_iff hm, hs.lt_iff hzero, hlast'.lt_iff hs, hh.truncated hhours,
      hm.truncated hminutes, hs.truncated hseconds, clockTime]
    split <;> rfl

def wiringServe (a : Access) : Access :=
  if a.command.query then
    a.respond (if a.sim.state.wiringSystem = .twoWattmeter then "\"2W\"" else "\"3W\"")
  else a.parameter fun text =>
    if upper text = "3W" then a.assign .wiringSystem .threeWattmeter
    else if upper text = "2W" then a.assign .wiringSystem .twoWattmeter
    else a.illegal text

theorem wiring : Handler .wiringSystem (fun _ => .ok) (keep .wiringSystem) wiringServe where
  asked a hquery := if_pos hquery
  told a system hset hargs _ := by
    have hargument : a.command.argument =
        some (if system = .twoWattmeter then "2W" else "3W") := by
      have hargs' : a.command.args = [wiringText system] := hargs
      simp only [Command.argument, hargs']
      cases system <;> decide
    rw [wiringServe, if_neg (by simp [hset]), Access.parameter, hargument]
    cases system <;> rfl

end Fields

def keepConcurrent (on : Bool) (s : State) : State :=
  let next := Setting.concurrent.set s on
  if s.concurrent && !on && 1 < s.functions.length then
    Setting.functions.set next (s.functions.take 1)
  else next

theorem concurrent : Handler .concurrent (fun _ => .ok) keepConcurrent Access.concurrent where
  asked a hquery := by
    have hboolean := (boolean .concurrent).asked a hquery
    rw [Access.concurrent, hboolean, hquery]
    rfl
  told a on hset hargs h := by
    have hboolean := (boolean .concurrent).told a on hset hargs h
    rw [Access.concurrent, hboolean, hset]
    change (if a.sim.state.concurrent && !on && 1 < a.sim.state.functions.length then _ else _) =
      a.update (keepConcurrent on)
    by_cases htruncated : (a.sim.state.concurrent && !on && 1 < a.sim.state.functions.length) = true
    · simp only [if_pos htruncated, Access.update, keepConcurrent]
      rfl
    · simp only [if_neg htruncated, Access.update, keepConcurrent]
      rfl

theorem upper_ne_max (x : Float) : upper (formatDouble x) ≠ "MAX" := by
  intro h
  have hmem : 'X' ∈ upper (formatDouble x) := by
    rw [h]
    decide
  obtain ⟨c, hc, hupper⟩ := List.mem_map.mp hmem
  have hsetting := CNumber.printG9_chars x c hc
  rcases toUpper_cases c with hsame | ⟨-, -, hshift⟩
  · rw [← hsame, hupper] at hsetting
    cases hsetting
  · rw [hupper] at hshift
    have hx : c = 'x' := Char.ext (UInt32.toNat_inj.mp hshift.symm)
    rw [hx] at hsetting
    cases hsetting

def sweepTimeServe (f : Setting Float) (a : Access) : Access :=
  if !a.command.query && a.command.argument.map upper = some "MAX" then a.assign f 3600
  else a.number f 1.0e-3 3600

theorem sweepTime (f : Setting Float) :
    Handler f (fun _ => within 1.0e-3 3600) (keep f) (sweepTimeServe f) where
  asked a hquery := by
    rw [sweepTimeServe, if_neg (by simp [hquery])]
    exact if_pos hquery
  told a x hset hargs h := by
    have hargument := Access.argument_bare hargs (bare_formatDouble x)
    rw [sweepTimeServe, if_neg (by simp [hargument, upper_ne_max])]
    exact (number f 1.0e-3 3600).told a x hset hargs h

end Handler

namespace Register

def settle : (r : Register) → r.Value → State → State
  | .single .concurrent => Handler.keepConcurrent
  | .sense sensed phase .range => fun range s =>
      let config := sensed.setting.entry phase.succ
      config.set s { config.get s with range, autorange := false }
  | r => Handler.keep r.cell

def Served (r : Register) : Prop :=
  ∃ serve : Access → Access,
    @Handler r.Value r.parameter r.cell
      (fun sim => r.verdict sim.options (cells.view sim.state)) r.settle serve ∧
    ∀ a : Access, a.command.suffixes = r.address.suffixes → r.unavailable a.sim.options = none →
      execute r.address.key a = some (serve a)

theorem levelLimit_eq (unit : LevelUnit) :
    levelLimit unit = if unit = .percent then 150 else 1000 := by
  cases unit <;> rfl

theorem single_served (r : Single) : (single r).Served := by
  cases r with
  | wiringSystem => exact ⟨_, Handler.wiring, fun _ _ _ => rfl⟩
  | aperture => exact ⟨_, Handler.number _ _ _, fun _ _ _ => rfl⟩
  | syncEnabled => exact ⟨_, Handler.boolean _, fun _ _ _ => rfl⟩
  | syncLevel =>
    refine ⟨_, Handler.numberWithin _ _ _, fun a _ _ => ?_⟩
    have hdone : execute .syncLev a = some (a.number .syncLevel
      (-(if a.sim.state.syncLevelUnit = .percent then 150 else 1000))
      (if a.sim.state.syncLevelUnit = .percent then 150 else 1000)) := rfl
    rw [← levelLimit_eq] at hdone
    exact hdone
  | syncLevelUnit => exact ⟨_, Handler.keyword .levelUnit _, fun _ _ _ => rfl⟩
  | syncSlope => exact ⟨_, Handler.keyword .slope _, fun _ _ _ => rfl⟩
  | syncFilter => exact ⟨_, Handler.boolean _, fun _ _ _ => rfl⟩
  | syncFilterFrequency => exact ⟨_, Handler.syncFilterFrequency, fun _ _ _ => rfl⟩
  | syncTimeout => exact ⟨_, Handler.number _ _ _, fun _ _ _ => rfl⟩
  | byteOrder => exact ⟨_, Handler.keyword .byteOrder _, fun _ _ _ => rfl⟩
  | transpose => exact ⟨_, Handler.boolean _, fun _ _ _ => rfl⟩
  | displayEnabled => exact ⟨_, Handler.boolean _, fun _ _ _ => rfl⟩
  | outputEnabled =>
    refine ⟨_, Handler.boolean _, fun a hsuffixes _ => ?_⟩
    have hsuffix : a.command.suffix = 9 := by
      simp only [Command.suffix, hsuffixes]
      rfl
    have hdone : execute .outpStat a = some (if a.command.suffix ≠ 9 then
        a.fail ErrorCode.kUndefinedHeader ("Undefined header;OUTPut" ++ toText a.command.suffix)
      else a.boolean .outputEnabled) := rfl
    exact hdone.trans (by rw [if_neg (not_not.mpr hsuffix)]; rfl)
  | keyLock => exact ⟨_, Handler.keyword .keyLock _, fun _ _ _ => rfl⟩
  | date => exact ⟨_, Handler.date, fun _ _ _ => rfl⟩
  | timeOfDay => exact ⟨_, Handler.time, fun _ _ _ => rfl⟩
  | gpibAddress => exact ⟨_, Handler.integer _ _ _, fun _ _ _ => rfl⟩
  | serialBaud => exact ⟨_, Handler.integer _ _ _, fun _ _ _ => rfl⟩
  | concurrent => exact ⟨_, Handler.concurrent, fun _ _ _ => rfl⟩
  | continuous => exact ⟨_, Handler.boolean _, fun _ _ _ => rfl⟩
  | triggerStartLevel => exact ⟨_, Handler.number _ _ _, fun _ _ _ => rfl⟩
  | triggerStartSlope => exact ⟨_, Handler.keyword .slope _, fun _ _ _ => rfl⟩
  | triggerStopLevel => exact ⟨_, Handler.number _ _ _, fun _ _ _ => rfl⟩
  | triggerStopSlope => exact ⟨_, Handler.keyword .slope _, fun _ _ _ => rfl⟩
  | harmonicOrder => exact ⟨_, Handler.integer _ _ _, fun _ _ _ => rfl⟩
  | transformMode => exact ⟨_, Handler.keyword .transformMode _, fun _ _ _ => rfl⟩
  | transformStart => exact ⟨_, Handler.number _ _ _, fun _ _ _ => rfl⟩
  | transformStop => exact ⟨_, Handler.number _ _ _, fun _ _ _ => rfl⟩
  | transformCycles => exact ⟨_, Handler.cycles, fun _ _ _ => rfl⟩
  | transformGrouping => exact ⟨_, Handler.keyword .harmonicGrouping _, fun _ _ _ => rfl⟩
  | integralEnabled => exact ⟨_, Handler.boolean _, fun _ _ _ => rfl⟩
  | integralAutoClear => exact ⟨_, Handler.boolean _, fun _ _ _ => rfl⟩
  | integralStartSource => exact ⟨_, Handler.keyword .integralStartSource _, fun _ _ _ => rfl⟩
  | integralStopSource => exact ⟨_, Handler.keyword .integralStopSource _, fun _ _ _ => rfl⟩
  | integralStopInterval => exact ⟨_, Handler.number _ _ _, fun _ _ _ => rfl⟩
  | powerCorrection => exact ⟨_, Handler.keyword .powerCorrection _, fun _ _ _ => rfl⟩

section Numbered

variable {a : Access} {key : Key} {n : Int}

theorem suffix_single (h : a.command.suffixes = [n]) (hn : n ≠ 0) : a.command.suffix = n := by
  simp only [Command.suffix, h]
  exact if_neg hn

theorem execute_input (hkey : key.isInput = true) {b : Access} (h : handleInput key a = .done b) :
    execute key a = some b := by
  have hroute : handleRoute key a = .declined := by
    cases key <;> first
      | rfl
      | cases hkey
  rw [execute, dispatch, hroute, h]
  rfl

theorem execute_sense {b : Access} (hroute : handleRoute key a = .declined)
    (hinput : handleInput key a = .declined) (h : handleSense key a = .done b) :
    execute key a = some b := by
  rw [execute, dispatch, hroute, hinput, h]
  rfl

theorem mask_served (reg : StatusRegister) (part : MaskPart) : (mask reg part).Served := by
  cases part <;> refine ⟨_, Handler.integer _ _ _, fun _ _ _ => ?_⟩ <;> cases reg <;> rfl

theorem channel_index (channel : Fin kMaxInputChannel) :
    Fin.ofNat (kMaxInputChannel + 1) (channelNumber channel).toNat = channel.succ := by
  revert channel
  decide

theorem phase_index (phase : Fin kMaxPhase) :
    Fin.ofNat (kMaxPhase + 1) (phaseNumber phase).toNat = phase.succ := by
  revert phase
  decide

section Input

variable {channel : Fin kMaxInputChannel} {part : InputPart}

theorem input_suffix (h : a.command.suffixes = [channelNumber channel]) :
    a.command.suffix = channelNumber channel ∧ ¬a.command.suffix < 1 := by
  have hpos : 0 < channelNumber channel := by
    unfold channelNumber
    omega
  rw [suffix_single h (Int.ne_of_gt hpos)]
  exact ⟨rfl, by omega⟩

theorem input_present (h : part.unavailable a.sim.options (channelNumber channel) = none) :
    ¬a.sim.options.channels < channelNumber channel := by
  intro habsent
  unfold InputPart.unavailable at h
  rw [if_pos habsent] at h
  cases h

theorem input_current (h : part.unavailable a.sim.options (channelNumber channel) = none)
    (hpart : part = .gain ∨ part = .shunt) : channelNumber channel % 2 ≠ 0 := by
  intro heven
  have hpresent := input_present h
  unfold InputPart.unavailable at h
  rw [if_neg hpresent, if_neg (not_not.mpr heven)] at h
  rcases hpart with rfl | rfl <;> cases h

theorem execute_coupling (hpresent : ¬(a.command.suffix < 1 ∨
    a.sim.options.channels < a.command.suffix)) : execute .inpCoup a =
      some (a.keyword (Setting.coupling.entry (Fin.ofNat _ a.command.suffix.toNat))
        (Keyword.offered .coupling)) := by
  refine execute_input rfl ?_
  unfold handleInput
  rw [if_neg (by decide), if_neg hpresent]
  rfl

theorem execute_filter (hpresent : ¬(a.command.suffix < 1 ∨
    a.sim.options.channels < a.command.suffix)) : execute .inpFiltStat a =
      some (a.boolean (Setting.filter.entry (Fin.ofNat _ a.command.suffix.toNat))) := by
  refine execute_input rfl ?_
  unfold handleInput
  rw [if_neg (by decide), if_neg hpresent]
  rfl

theorem execute_gain (hpresent : ¬(a.command.suffix < 1 ∨
    a.sim.options.channels < a.command.suffix)) : execute .inpGain a =
      some (if a.command.suffix % 2 = 0 then a.fail (currentOnly "GAIN").code
        (currentOnly "GAIN").message
      else a.number (Setting.gain.entry (Fin.ofNat _ a.command.suffix.toNat)) 0 1.0e12) := by
  refine execute_input rfl ?_
  unfold handleInput
  rw [if_neg (by decide), if_neg hpresent]
  rfl

theorem execute_shunt (hpresent : ¬(a.command.suffix < 1 ∨
    a.sim.options.channels < a.command.suffix)) : execute .inpShun a =
      some (if a.command.suffix % 2 = 0 then a.fail (currentOnly "SHUNt").code
        (currentOnly "SHUNt").message
      else a.keyword (Setting.shunt.entry (Fin.ofNat _ a.command.suffix.toNat))
        (Keyword.offered .shunt)) := by
  refine execute_input rfl ?_
  unfold handleInput
  rw [if_neg (by decide), if_neg hpresent]
  rfl

theorem input_served (channel : Fin kMaxInputChannel) (part : InputPart) :
    (input channel part).Served := by
  have hsuffix {a : Access} (h : a.command.suffixes = [channelNumber channel])
      (havailable : part.unavailable a.sim.options (channelNumber channel) = none) :
      a.command.suffix = channelNumber channel ∧
        ¬(a.command.suffix < 1 ∨ a.sim.options.channels < a.command.suffix) := by
    obtain ⟨hsuffix, hone⟩ := input_suffix h
    exact ⟨hsuffix, not_or.mpr ⟨hone, hsuffix ▸ input_present havailable⟩⟩
  cases part with
  | coupling =>
    refine ⟨_, Handler.keyword .coupling _, fun a hsuffixes havailable => ?_⟩
    obtain ⟨hn, hpresent⟩ := hsuffix hsuffixes havailable
    refine (execute_coupling hpresent).trans ?_
    rw [hn, channel_index]
    rfl
  | gain =>
    refine ⟨_, Handler.number _ _ _, fun a hsuffixes havailable => ?_⟩
    obtain ⟨hn, hpresent⟩ := hsuffix hsuffixes havailable
    refine (execute_gain hpresent).trans ?_
    rw [hn, channel_index, if_neg (@input_current a channel .gain havailable (.inl rfl))]
    rfl
  | filter =>
    refine ⟨_, Handler.boolean _, fun a hsuffixes havailable => ?_⟩
    obtain ⟨hn, hpresent⟩ := hsuffix hsuffixes havailable
    refine (execute_filter hpresent).trans ?_
    rw [hn, channel_index]
    rfl
  | shunt =>
    refine ⟨_, Handler.keyword .shunt _, fun a hsuffixes havailable => ?_⟩
    obtain ⟨hn, hpresent⟩ := hsuffix hsuffixes havailable
    refine (execute_shunt hpresent).trans ?_
    rw [hn, channel_index, if_neg (@input_current a channel .shunt havailable (.inr rfl))]
    rfl

theorem input_denied {entry : ScpiErrorInfo} (hsuffixes : a.command.suffixes = [channelNumber channel])
    (h : part.unavailable a.sim.options (channelNumber channel) = some entry) :
    execute part.node.2 a = some (a.fail entry.code entry.message) := by
  obtain ⟨hn, hone⟩ := input_suffix hsuffixes
  unfold InputPart.unavailable at h
  by_cases habsent : a.sim.options.channels < channelNumber channel
  · rw [if_pos habsent] at h
    obtain rfl := Option.some.inj h
    refine execute_input (by cases part <;> rfl) ?_
    unfold handleInput
    rw [if_neg (by cases part <;> decide), if_pos (.inr (hn ▸ habsent)), hn]
    rfl
  · rw [if_neg habsent] at h
    have hpresent : ¬(a.command.suffix < 1 ∨ a.sim.options.channels < a.command.suffix) :=
      not_or.mpr ⟨hone, hn ▸ habsent⟩
    split at h
    · cases h
    · next heven =>
      have heven' : a.command.suffix % 2 = 0 := by
        rw [hn]
        exact not_not.mp heven
      cases part with
      | coupling => cases h
      | filter => cases h
      | gain =>
        obtain rfl := Option.some.inj h
        exact (execute_gain hpresent).trans (congrArg some (if_pos heven'))
      | shunt =>
        obtain rfl := Option.some.inj h
        exact (execute_shunt hpresent).trans (congrArg some (if_pos heven'))

end Input

section Sense

variable {phase : Fin kMaxPhase}

theorem execute_channel (sensed : Sensed) (part : SensePart)
    (h : a.command.suffixes = [phaseNumber phase]) : execute (senseKey sensed part) a =
      some (match part with
        | .range => a.range (sensed.setting.entry phase.succ) (sensed.ranges a.sim.options)
        | .autorange =>
            a.boolean ((sensed.setting.entry phase.succ).focus ChannelConfig.autorangeLens)
        | .scale =>
            a.number ((sensed.setting.entry phase.succ).focus ChannelConfig.scaleLens) 0.9
              1.0e7) := by
  have hpos : 0 < phaseNumber phase ∧ phaseNumber phase ≤ kMaxPhase := by
    unfold phaseNumber
    omega
  have hn := suffix_single h (Int.ne_of_gt hpos.1)
  have hphase : ¬(a.command.suffix < 1 ∨ kMaxPhase < a.command.suffix) := by
    omega
  have hindex : Fin.ofNat (kMaxPhase + 1) a.command.suffix.toNat = phase.succ := by
    rw [hn, phase_index]
  refine execute_sense (by cases sensed <;> cases part <;> rfl)
    (by cases sensed <;> cases part <;> rfl) ?_
  have hchannel : handleSense (senseKey sensed part) a = handleChannel (senseKey sensed part) a := by
    cases sensed <;> cases part <;> rfl
  rw [hchannel, handleChannel, hindex, if_neg hphase]
  cases sensed <;> cases part <;> rfl

theorem sense_served (sensed : Sensed) (phase : Fin kMaxPhase) (part : SensePart) :
    (sense sensed phase part).Served := by
  cases part with
  | range =>
    exact ⟨_, Handler.range _ fun sim => sensed.ranges sim.options,
      fun _ h _ => execute_channel sensed .range h⟩
  | autorange => exact ⟨_, Handler.boolean _, fun _ h _ => execute_channel sensed .autorange h⟩
  | scale => exact ⟨_, Handler.number _ _ _, fun _ h _ => execute_channel sensed .scale h⟩

end Sense

section Sweep

theorem sweep_index (block : SweepBlock) :
    Fin.ofNat 3 (FunctionList.blockNumber block).toNat = FunctionList.sweepIndex block := by
  cases block <;> rfl

theorem execute_sweep {block : SweepBlock} (part : SweepPart)
    (h : a.command.suffixes = [FunctionList.blockNumber block]) : execute part.node.2 a =
      some (match part with
        | .enabled => a.boolean (sweep block .enabled).cell
        | .time => Handler.sweepTimeServe (sweep block .time).cell a
        | .offsetTime => a.number (sweep block .offsetTime).cell (-3600) 3600
        | .count => a.integer (sweep block .count).cell 1 1000000
        | .sparsing => a.integer (sweep block .sparsing).cell 1 65535) := by
  have hn := suffix_single h (by cases block <;> decide)
  have hblock : ¬(a.command.suffix < 1 ∨ 2 < a.command.suffix) := by
    rw [hn]
    cases block <;> decide
  have hindex : Fin.ofNat 3 a.command.suffix.toNat = FunctionList.sweepIndex block := by
    rw [hn, sweep_index]
  refine execute_sense (by cases part <;> rfl) (by cases part <;> rfl) ?_
  have hsweep : handleSense part.node.2 a = handleSweep part.node.2 a := by
    cases part <;> rfl
  rw [hsweep, handleSweep, hindex, if_neg hblock]
  cases part <;> rfl

theorem sweep_served (block : SweepBlock) (part : SweepPart) : (sweep block part).Served := by
  cases part with
  | enabled => exact ⟨_, Handler.boolean _, fun _ h _ => execute_sweep .enabled h⟩
  | time => exact ⟨_, Handler.sweepTime _, fun _ h _ => execute_sweep .time h⟩
  | offsetTime => exact ⟨_, Handler.number _ _ _, fun _ h _ => execute_sweep .offsetTime h⟩
  | count => exact ⟨_, Handler.integer _ _ _, fun _ h _ => execute_sweep .count h⟩
  | sparsing => exact ⟨_, Handler.integer _ _ _, fun _ h _ => execute_sweep .sparsing h⟩

end Sweep

end Numbered

theorem served (r : Register) : r.Served := by
  cases r with
  | single r => exact single_served r
  | mask reg part => exact mask_served reg part
  | input channel part => exact input_served channel part
  | sense sensed phase part => exact sense_served sensed phase part
  | sweep block part => exact sweep_served block part

section Settle

variable (r : Register) (s : State)

theorem settle_errors (v : r.Value) : (r.settle v s).errors = s.errors := by
  unfold settle
  split
  · unfold Handler.keepConcurrent
    dsimp only
    split <;> simp
  · exact Setting.errors_set _ _ _
  · exact Setting.errors_set _ _ _

theorem functions_unseen (names : List Text) :
    cells.view (Setting.functions.set s names) = cells.view s := by
  funext r
  cases r with
  | single r => cases r <;> rfl
  | mask reg part => cases reg <;> rfl
  | input channel part => cases part <;> rfl
  | sense sensed phase part => cases sensed <;> rfl
  | sweep block part => rfl

theorem errors_unseen (errors : List ScpiErrorInfo) (eventStatus : Int) :
    cells.view { s with errors, eventStatus } = cells.view s := by
  funext r
  cases r with
  | single r => cases r <;> rfl
  | mask reg part => cases reg <;> rfl
  | input channel part => cases part <;> rfl
  | sense sensed phase part => cases sensed <;> rfl
  | sweep block part => rfl

theorem events_unseen (sim : NormaSimulator) :
    cells.view sim.clearStatus.state = cells.view sim.state := by
  funext r
  cases r with
  | single r => cases r <;> rfl
  | mask reg part => cases reg <;> cases part <;> rfl
  | input channel part => cases part <;> rfl
  | sense sensed phase part => cases sensed <;> rfl
  | sweep block part => rfl

theorem view_pushError (code : Int) (message : Text) :
    cells.view (s.pushError code message) = cells.view s := by
  obtain ⟨errors, eventStatus, heq⟩ := pushError_frame s code message
  rw [heq]
  exact errors_unseen s errors eventStatus

theorem view_reset (sim : NormaSimulator) : cells.view sim.reset.state = factory sim.options :=
  errors_unseen (NormaSimulator.new sim.options).state sim.state.errors 0

theorem view_keep (v : r.Value) :
    cells.view (Handler.keep r.cell v s) = Function.update (cells.view s) r v :=
  cells.view_set r s v

theorem view_keepConcurrent (on : Bool) : cells.view (Handler.keepConcurrent on s) =
    Function.update (cells.view s) (single .concurrent) on := by
  unfold Handler.keepConcurrent
  dsimp only
  split
  · rw [functions_unseen]
    exact view_keep (single .concurrent) s on
  · exact view_keep (single .concurrent) s on

theorem view_range (sensed : Sensed) (phase : Fin kMaxPhase) (range : Float) :
    cells.view (settle (sense sensed phase .range) range s) =
      Function.update (Function.update (cells.view s) (sense sensed phase .range) range)
        (sense sensed phase .autorange) false := by
  have htwo : settle (sense sensed phase .range) range s =
      Handler.keep (sense sensed phase .autorange).cell false
        (Handler.keep (sense sensed phase .range).cell range s) := by
    let config := sensed.setting.entry phase.succ
    let chosen := { config.get s with range }
    change config.set s { chosen with autorange := false } = config.set (config.set s chosen)
      { config.get (config.set s chosen) with autorange := false }
    rw [config.get_set, config.set_set]
  rw [htwo, view_keep, view_keep]

theorem view_settle (v : r.Value) :
    cells.view (r.settle v s) = Memory.store (cells.view s) r v := by
  unfold Memory.store
  split
  · exact view_range s _ _ _
  · next hrange =>
    unfold settle
    split
    · exact view_keepConcurrent s _
    · exact (hrange _ _ _ rfl HEq.rfl).elim
    · exact view_keep r s v

end Settle

section Line

variable {r : Register} {sim : NormaSimulator} {entry : ScpiErrorInfo}

def stored (r : Register) (sim : NormaSimulator) (v : r.Value) : NormaSimulator :=
  match r.verdict sim.options (cells.view sim.state) v with
  | .ok kept => { sim with state := r.settle kept sim.state }
  | .error entry => sim.pushError entry.code entry.message

theorem stored_ok {v kept : r.Value} (h : r.verdict sim.options (cells.view sim.state) v = .ok kept) :
    r.stored sim v = { sim with state := r.settle kept sim.state } := by
  rw [stored, h]

theorem stored_error {v : r.Value}
    (h : r.verdict sim.options (cells.view sim.state) v = .error entry) :
    r.stored sim v = sim.pushError entry.code entry.message := by
  rw [stored, h]

theorem handleLine_asked (h : r.unavailable sim.options = none) :
    sim.handleLine (r.address.header ++ ['?']) =
      some (sim, some (r.parameter.answer (r.cell.get sim.state))) := by
  obtain ⟨serve, hhandler, hserve⟩ := r.served
  rw [(known r).handleLine_query, hserve _ rfl h, hhandler.asked _ rfl]
  rfl

theorem handleLine_told (h : r.unavailable sim.options = none) {v : r.Value}
    (hfits : r.parameter.Fits v) :
    sim.handleLine (r.address.header ++ ' ' :: r.parameter.text v) = some (r.stored sim v, none) := by
  obtain ⟨serve, hhandler, hserve⟩ := r.served
  rw [(known r).handleLine_setting sim (r.parameter.whole v), r.parameter.argumentsOf_text,
    hserve _ rfl h, hhandler.told _ v rfl rfl hfits]
  change some _ = some (r.stored sim v, none)
  unfold stored
  change some ((Access.judged _ _ (r.verdict sim.options (cells.view sim.state) v)).sim,
    (Access.judged _ _ (r.verdict sim.options (cells.view sim.state) v)).command.response) = _
  cases r.verdict sim.options (cells.view sim.state) v <;> rfl

theorem execute_denied {a : Access} (hsuffixes : a.command.suffixes = r.address.suffixes)
    (h : r.unavailable a.sim.options = some entry) :
    execute r.address.key a = some (a.fail entry.code entry.message) := by
  cases r with
  | input channel part => exact input_denied hsuffixes h
  | _ => cases h

theorem handleLine_asked_denied (h : r.unavailable sim.options = some entry) :
    sim.handleLine (r.address.header ++ ['?']) =
      some (sim.pushError entry.code entry.message, none) := by
  rw [(known r).handleLine_query, execute_denied rfl h]
  rfl

theorem handleLine_told_denied (h : r.unavailable sim.options = some entry) (v : r.Value) :
    sim.handleLine (r.address.header ++ ' ' :: r.parameter.text v) =
      some (sim.pushError entry.code entry.message, none) := by
  rw [(known r).handleLine_setting sim (r.parameter.whole v), execute_denied rfl h]
  rfl

end Line

end Register

end Norma
