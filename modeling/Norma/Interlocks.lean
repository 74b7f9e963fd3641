import Norma.Limits
import Norma.StateChange

namespace Norma

open FloatOrder

def syncLimit (unit : LevelUnit) : Float := if unit = .percent then 150 else 1000

def SimulatorState.LevelWithin (state : State) : Prop :=
  Within (-syncLimit state.syncLevelUnit) (syncLimit state.syncLevelUnit) state.syncLevel

def SimulatorState.IntegratorSwitched (state : State) : Prop :=
  state.integralRunning = true → state.integralEnabled = true

def SimulatorState.interlocks (state : State) :=
  (state.syncLevel, state.syncLevelUnit, state.integralEnabled, state.integralRunning)

inductive Interlocked (a : Access) : State → Prop where
  | level {value : Float} (hset : a.command.query = false)
      (hkey : a.command.key = Key.syncLev.text) (hgiven : a.Given value)
      (hlow : ¬value < -syncLimit a.sim.state.syncLevelUnit)
      (hhigh : ¬syncLimit a.sim.state.syncLevelUnit < value) :
      Interlocked a (Setting.syncLevel.set a.sim.state value)
  | unit {unit : LevelUnit} (hset : a.command.query = false)
      (hkey : a.command.key = Key.syncLevUnit.text) (hgiven : a.GivenUnit unit) :
      Interlocked a (Setting.syncLevelUnit.set a.sim.state unit)
  | integralState {value : Bool} (hset : a.command.query = false)
      (hkey : a.command.key = Key.calcIntStat.text) (hgiven : a.GivenBool value) :
      Interlocked a (Setting.integralEnabled.set a.sim.state value)
  | integralStart (henabled : a.sim.state.integralEnabled = true) :
      Interlocked a (Setting.integralRunning.set a.sim.state true)
  | integralStop : Interlocked a (Setting.integralRunning.set a.sim.state false)
  | reset : Interlocked a a.sim.reset.state

section Frame

variable {a : Access} {s state : State} {step : Step}

theorem Stored.interlocked (h : Stored a state) (hset : a.command.query = false) :
    state.interlocks = a.sim.state.interlocks ∨ Interlocked a state := by
  cases h with
  | number hsetting hlow hhigh haddress hgiven =>
    cases hsetting with
    | syncLevel hkey => exact .inr (.level hset hkey hgiven hlow hhigh)
    | scale hconfig => cases hconfig <;> exact .inl rfl
    | _ => exact .inl rfl
  | integer hsetting => cases hsetting <;> exact .inl rfl
  | @mask reg _ _ hsetting => cases hsetting <;> cases reg <;> exact .inl rfl
  | boolean hsetting =>
    cases hsetting with
    | autorange hconfig => cases hconfig <;> exact .inl rfl
    | _ => exact .inl rfl
  | keyword hsetting => cases hsetting <;> exact .inl rfl
  | integralState hkey hgiven => exact .inr (.integralState hset hkey hgiven)
  | syncLevelUnit hkey hgiven => exact .inr (.unit hset hkey hgiven)
  | functionList hsetting => cases hsetting <;> exact .inl rfl
  | range hconfig => cases hconfig <;> exact .inl rfl
  | source hsetting => cases hsetting <;> exact .inl rfl
  | format hsetting => cases hsetting <;> exact .inl rfl
  | integralStart henabled => exact .inr (.integralStart henabled)
  | integralStop => exact .inr .integralStop
  | _ => exact .inl rfl

theorem Step.Valid.interlocked (h : step.Valid) :
    step.after.sim.state.interlocks = step.before.state.interlocks ∨
      ∃ a, step.Receives a ∧ Interlocked a step.after.sim.state := by
  rcases h.stateChange with hrecorded | ⟨a, ha, hchange⟩
  · generalize step.after.sim.state = after at hrecorded ⊢
    cases hrecorded
    exact .inl rfl
  · rw [← ha.sim]
    generalize step.after.sim.state = after at hchange ⊢
    cases hchange with
    | recorded hrecorded =>
      cases hrecorded
      exact .inl rfl
    | measured => exact .inl rfl
    | stored hset hstored =>
      exact (hstored.interlocked hset).imp_right fun hinterlocked => ⟨a, ha, hinterlocked⟩
    | reset => exact .inr ⟨a, ha, .reset⟩

end Frame

namespace Access

variable {a : Access}

def GivesLevel (a : Access) (value : Float) : Prop :=
  a.command.query = false ∧ a.command.key = Key.syncLev.text ∧ a.Given value

def SelectsUnit (a : Access) (unit : LevelUnit) : Prop :=
  a.command.query = false ∧ a.command.key = Key.syncLevUnit.text ∧ a.GivenUnit unit

def SwitchesIntegral (a : Access) (value : Bool) : Prop :=
  a.command.query = false ∧ a.command.key = Key.calcIntStat.text ∧ a.GivenBool value

end Access

namespace Step

variable {step : Step} {a : Access}

def LosesLevel (step : Step) : Prop :=
  (∃ value, step.received.GivesLevel value ∧ value.isNaN = true) ∨
    step.received.SelectsUnit .percent ∧ ¬Within (-150) 150 step.before.state.syncLevel

def StrandsIntegrator (step : Step) : Prop :=
  step.received.SwitchesIntegral false ∧ step.before.state.integralRunning = true

theorem Receives.argument (h : step.Receives a) :
    a.command.argument = step.received.command.argument := by
  rw [Command.argument, h.args]
  rfl

theorem Receives.givesLevel (h : step.Receives a) {value : Float} :
    a.GivesLevel value ↔ step.received.GivesLevel value := by
  rw [Access.GivesLevel, Access.Given, h.query, h.key, h.argument]
  rfl

theorem Receives.selectsUnit (h : step.Receives a) {unit : LevelUnit} :
    a.SelectsUnit unit ↔ step.received.SelectsUnit unit := by
  rw [Access.SelectsUnit, Access.GivenUnit, h.query, h.key, h.argument]
  rfl

theorem Receives.switchesIntegral (h : step.Receives a) {value : Bool} :
    a.SwitchesIntegral value ↔ step.received.SwitchesIntegral value := by
  rw [Access.SwitchesIntegral, Access.GivenBool, h.query, h.key, h.argument]
  rfl

end Step

theorem interlockKey_of_text : ∀ key ∈ [Key.syncLev, .syncLevUnit, .calcIntStat],
    ∀ spec ∈ commandSpecs, spec.key.text = key.text → spec.key = key := by
  decide +kernel

section Level

variable {a : Access} {s t : State} {step : Step}

theorem SimulatorState.LevelWithin.of_interlocks (h : s.LevelWithin)
    (hsame : t.interlocks = s.interlocks) : t.LevelWithin := by
  simp only [SimulatorState.interlocks, Prod.mk.injEq] at hsame
  rwa [SimulatorState.LevelWithin, hsame.1, hsame.2.1]

theorem syncLimit_finite (unit : LevelUnit) :
    (-syncLimit unit).isFinite = true ∧ (syncLimit unit).isFinite = true := by
  cases unit <;> decide +kernel

theorem Within.absolute {x : Float} (h : Within (-syncLimit .percent) (syncLimit .percent) x) :
    Within (-syncLimit .absolute) (syncLimit .absolute) x := by
  obtain ⟨hlow, hhigh⟩ := syncLimit_finite .percent
  obtain ⟨hlow', hhigh'⟩ := syncLimit_finite .absolute
  exact h.widen (finite_of_le hlow hhigh h.low h.high) hlow hhigh hlow' hhigh' (by decide +kernel)
    (by decide +kernel)

theorem Interlocked.levelWithin (h : Interlocked a t) (hs : a.sim.state.LevelWithin)
    (hnumber : ∀ value, a.GivesLevel value → value.isNaN = false)
    (hpercent : a.SelectsUnit .percent →
      Within (-syncLimit .percent) (syncLimit .percent) a.sim.state.syncLevel) :
    t.LevelWithin := by
  cases h with
  | level hset hkey hgiven hlow hhigh =>
    obtain ⟨hfinite, hfinite'⟩ := syncLimit_finite a.sim.state.syncLevelUnit
    exact .of_range hfinite hfinite' (hnumber _ ⟨hset, hkey, hgiven⟩) hlow hhigh
  | @unit unit hset hkey hgiven =>
    change Within (-syncLimit unit) (syncLimit unit) a.sim.state.syncLevel
    cases unit with
    | percent => exact hpercent ⟨hset, hkey, hgiven⟩
    | absolute =>
      change Within (-syncLimit a.sim.state.syncLevelUnit) _ _ at hs
      cases hunit : a.sim.state.syncLevelUnit with
      | absolute => rwa [hunit] at hs
      | percent =>
        rw [hunit] at hs
        exact hs.absolute
  | reset => exact (by decide +kernel : Within (-150) 150 0)
  | _ => exact hs

theorem Step.Valid.levelWithin (h : step.Valid) (hs : step.before.state.LevelWithin)
    (hkeeps : ¬step.LosesLevel) : step.after.sim.state.LevelWithin := by
  rcases h.interlocked with hsame | ⟨a, ha, hinterlocked⟩
  · exact hs.of_interlocks hsame
  · refine hinterlocked.levelWithin (by rwa [ha.sim]) (fun value hgives => ?_) fun hselects => ?_
    · rw [ha.givesLevel] at hgives
      exact Bool.eq_false_iff.mpr fun hnan => hkeeps (.inl ⟨value, hgives, hnan⟩)
    · rw [ha.selectsUnit] at hselects
      rw [ha.sim]
      exact Classical.byContradiction fun hout => hkeeps (.inr ⟨hselects, hout⟩)

theorem Step.Valid.givesLevel {value : Float} (hvalid : step.Valid)
    (h : step.received.GivesLevel value) (hnan : value.isNaN = true) :
    step.after.sim.state = Setting.syncLevel.set step.before.state value := by
  obtain ⟨a, b, rest, ha, hexecute, hafter⟩ :=
    hvalid.executed (interlockKey_of_text .syncLev (by simp)) h.2.1
  obtain ⟨hset, -, hgiven⟩ := ha.givesLevel.mpr h
  have hrun : execute .syncLev a =
      some (a.number .syncLevel (-syncLimit a.sim.state.syncLevelUnit)
        (syncLimit a.sim.state.syncLevelUnit)) := rfl
  rw [hrun, Access.number_given hset hgiven (by simp [not_lt_nan hnan, nan_not_lt hnan])] at hexecute
  obtain rfl := Option.some.inj hexecute
  rw [hafter, ← ha.sim]
  rfl

theorem Step.Valid.selectsUnit {unit : LevelUnit} (hvalid : step.Valid)
    (h : step.received.SelectsUnit unit) :
    step.after.sim.state = Setting.syncLevelUnit.set step.before.state unit := by
  obtain ⟨a, b, rest, ha, hexecute, hafter⟩ :=
    hvalid.executed (interlockKey_of_text .syncLevUnit (by simp)) h.2.1
  obtain ⟨hset, -, hgiven⟩ := ha.selectsUnit.mpr h
  have hrun : execute .syncLevUnit a = some (a.keyword .syncLevelUnit levelUnits) := rfl
  rw [hrun, Access.unit_given hset hgiven] at hexecute
  obtain rfl := Option.some.inj hexecute
  rw [hafter, ← ha.sim]
  rfl

theorem Step.LosesLevel.not_levelWithin (h : step.LosesLevel) (hvalid : step.Valid) :
    ¬step.after.sim.state.LevelWithin := by
  intro hwithin
  rcases h with ⟨value, hgives, hnan⟩ | ⟨hselects, hout⟩
  · rw [hvalid.givesLevel hgives hnan] at hwithin
    exact Bool.false_ne_true (hwithin.ordinary.symm.trans hnan)
  · rw [hvalid.selectsUnit hselects] at hwithin
    exact hout hwithin

theorem level_within_iff {options : SimulatorOptions} {moves : List Move}
    (husage : Usage (.new options) moves) :
    (∀ move ∈ moves, move.after.state.LevelWithin) ↔
      ∀ step, .command step ∈ moves → ¬step.LosesLevel := by
  have hnew : (NormaSimulator.new options).state.LevelWithin :=
    (by decide +kernel : Within (-150) 150 0)
  exact husage.linked.forall_iff (P := SimulatorState.LevelWithin)
    (fun step hvalid hs => ⟨fun hwithin hloses => hloses.not_levelWithin hvalid hwithin,
      fun hkeeps => hvalid.levelWithin hs hkeeps⟩) hnew

def unitText (percent : Bool) : Text :=
  if percent then "SYNC:LEV:UNIT PCT" else "SYNC:LEV:UNIT ABS"

def unitOf (percent : Bool) : LevelUnit := if percent then .percent else .absolute

def NormaSimulator.withUnit (sim : NormaSimulator) (unit : LevelUnit) : NormaSimulator :=
  { sim with state := Setting.syncLevelUnit.set sim.state unit }

def NormaSimulator.withLevel (sim : NormaSimulator) (level : Float) : NormaSimulator :=
  { sim with state := Setting.syncLevel.set sim.state level }

theorem handleCommand_unit (sim : NormaSimulator) (percent : Bool) :
    ∃ path, handleCommand sim [] (unitText percent) =
      some ⟨sim.withUnit (unitOf percent), path, none, false⟩ := by
  have hparse : parseCommand (unitText percent) =
      ⟨"SYNC:LEV:UNIT", false, [if percent then "PCT" else "ABS"]⟩ := by
    cases percent <;> decide +kernel
  have hheader : Addresses "SYNC:LEV:UNIT" .syncLevUnit [] := by decide +kernel
  have hunit : levelUnits.find? (fun s => s.2.any fun name =>
      upper (unquote (if percent then "PCT" else "ABS")) = upper name) =
      some (unitOf percent, if percent then [("PCT" : Text), ("PERCent" : Text)]
        else [("ABS" : Text), ("ABSolute" : Text)]) := by
    cases percent <;> decide +kernel
  have hrun (a : Access) : execute .syncLevUnit a = some (a.keyword .syncLevelUnit levelUnits) := rfl
  exact handleCommand_runs hparse hheader ((hrun _).trans
    (congrArg some (Access.unit_given rfl ⟨_, _, by cases percent <;> rfl, hunit⟩)))

theorem handleCommand_level (sim : NormaSimulator) (hunit : sim.state.syncLevelUnit = .absolute) :
    ∃ path, handleCommand sim [] "SYNC:LEV 500" =
      some ⟨sim.withLevel 500, path, none, false⟩ := by
  have hparse : parseCommand "SYNC:LEV 500" = ⟨"SYNC:LEV", false, ["500"]⟩ := by decide +kernel
  have hheader : Addresses "SYNC:LEV" .syncLev [] := by decide +kernel
  have hnumber : parseNumber (unquote "500") = some 500 := by decide +kernel
  have hrun (a : Access) (ha : a.sim.state.syncLevelUnit = .absolute) : execute .syncLev a =
      some (a.number .syncLevel (-syncLimit .absolute) (syncLimit .absolute)) := by
    rw [← ha]
    rfl
  exact handleCommand_runs hparse hheader ((hrun _ hunit).trans
    (congrArg some (Access.number_given rfl ⟨_, rfl, hnumber⟩ (by decide +kernel))))

theorem unit_level_kept : ∃ moves, Usage (.new {}) moves ∧ moves ≠ [] ∧
    ∀ move ∈ moves, move.after.state.LevelWithin := by
  obtain ⟨path, hout⟩ := handleCommand_unit (.new {}) false
  have husage := Usage.command (by decide +kernel) (by decide +kernel) (by decide) hout (.done _)
  refine ⟨_, husage, by simp, (level_within_iff husage).mpr fun step hstep hloses => ?_⟩
  obtain rfl := Move.command.inj (List.mem_singleton.mp hstep)
  have hkey : commandKey [] (unitText false) = "SYNC:LEV:UNIT" := by decide +kernel
  rcases hloses with ⟨value, hgives, -⟩ | ⟨-, hout⟩
  · exact absurd (hkey.symm.trans hgives.2.1) (by decide)
  · exact hout (by decide +kernel : Within (-150) 150 0)

theorem level_beyond_unit : ¬∀ sim, Reachable sim → sim.state.LevelWithin := by
  intro hall
  obtain ⟨path, habsolute⟩ := handleCommand_unit (.new {}) false
  obtain ⟨path', hlevel⟩ := handleCommand_level ((NormaSimulator.new {}).withUnit .absolute) rfl
  obtain ⟨path'', hpercent⟩ := handleCommand_unit
    (((NormaSimulator.new {}).withUnit .absolute).withLevel 500) true
  have hline := handleLine_single (by decide) (by decide) (by decide +kernel) (by decide) habsolute
  have hline' := handleLine_single (by decide) (by decide) (by decide +kernel) (by decide) hlevel
  have hline'' := handleLine_single (by decide) (by decide) (by decide +kernel) (by decide) hpercent
  have hwithin := hall _ (.line (.line (.line (.new {}) _ hline) _ hline') _ hline'')
  have hhigh : (500 : Float) ≤ syncLimit .percent := hwithin.high
  exact absurd hhigh (by decide +kernel)

end Level

section Integrator

variable {a : Access} {s t : State} {step : Step}

theorem SimulatorState.IntegratorSwitched.of_interlocks (h : s.IntegratorSwitched)
    (hsame : t.interlocks = s.interlocks) : t.IntegratorSwitched := by
  simp only [SimulatorState.interlocks, Prod.mk.injEq] at hsame
  rwa [SimulatorState.IntegratorSwitched, hsame.2.2.1, hsame.2.2.2]

theorem Interlocked.integratorSwitched (h : Interlocked a t)
    (hs : a.sim.state.IntegratorSwitched)
    (hstops : a.SwitchesIntegral false → a.sim.state.integralRunning = false) :
    t.IntegratorSwitched := by
  cases h with
  | @integralState value hset hkey hgiven =>
    intro hrunning
    cases value with
    | true => rfl
    | false => exact absurd (hstops ⟨hset, hkey, hgiven⟩) (ne_true_of_eq_false · hrunning)
  | integralStart henabled => exact fun _ => henabled
  | integralStop => exact fun hrunning => absurd hrunning Bool.false_ne_true
  | reset => exact fun hrunning => absurd hrunning Bool.false_ne_true
  | _ => exact hs

theorem Step.Valid.integratorSwitched (h : step.Valid)
    (hs : step.before.state.IntegratorSwitched) (hkeeps : ¬step.StrandsIntegrator) :
    step.after.sim.state.IntegratorSwitched := by
  rcases h.interlocked with hsame | ⟨a, ha, hinterlocked⟩
  · exact hs.of_interlocks hsame
  · refine hinterlocked.integratorSwitched (by rwa [ha.sim]) fun hswitches => ?_
    rw [ha.switchesIntegral] at hswitches
    rw [ha.sim]
    exact Bool.eq_false_iff.mpr fun hrunning => hkeeps ⟨hswitches, hrunning⟩

theorem Step.Valid.switchesIntegral {value : Bool} (hvalid : step.Valid)
    (h : step.received.SwitchesIntegral value) :
    step.after.sim.state = Setting.integralEnabled.set step.before.state value := by
  obtain ⟨a, b, rest, ha, hexecute, hafter⟩ :=
    hvalid.executed (interlockKey_of_text .calcIntStat (by simp)) h.2.1
  obtain ⟨hset, -, hgiven⟩ := ha.switchesIntegral.mpr h
  have hrun : execute .calcIntStat a = some (a.boolean .integralEnabled) := rfl
  rw [hrun, Access.boolean_given hset hgiven] at hexecute
  obtain rfl := Option.some.inj hexecute
  rw [hafter, ← ha.sim]
  rfl

theorem Step.StrandsIntegrator.not_integratorSwitched (h : step.StrandsIntegrator)
    (hvalid : step.Valid) : ¬step.after.sim.state.IntegratorSwitched := by
  intro hswitched
  rw [hvalid.switchesIntegral h.1] at hswitched
  exact Bool.false_ne_true (hswitched h.2)

theorem integrator_switched_iff {options : SimulatorOptions} {moves : List Move}
    (husage : Usage (.new options) moves) :
    (∀ move ∈ moves, move.after.state.IntegratorSwitched) ↔
      ∀ step, .command step ∈ moves → ¬step.StrandsIntegrator := by
  have hnew : (NormaSimulator.new options).state.IntegratorSwitched :=
    fun hrunning => absurd hrunning Bool.false_ne_true
  exact husage.linked.forall_iff (P := SimulatorState.IntegratorSwitched)
    (fun step hvalid hs => ⟨fun hswitched hstrands =>
      hstrands.not_integratorSwitched hvalid hswitched,
      fun hkeeps => hvalid.integratorSwitched hs hkeeps⟩) hnew

def integralText (on : Bool) : Text := if on then "CALC:INT:STAT ON" else "CALC:INT:STAT OFF"

def NormaSimulator.withIntegral (sim : NormaSimulator) (on : Bool) : NormaSimulator :=
  { sim with state := Setting.integralEnabled.set sim.state on }

def NormaSimulator.integrating (sim : NormaSimulator) : NormaSimulator :=
  { sim with state := Setting.integralRunning.set sim.state true }

theorem handleCommand_integral (sim : NormaSimulator) (on : Bool) :
    ∃ path, handleCommand sim [] (integralText on) =
      some ⟨sim.withIntegral on, path, none, false⟩ := by
  have hparse : parseCommand (integralText on) =
      ⟨"CALC:INT:STAT", false, [if on then "ON" else "OFF"]⟩ := by
    cases on <;> decide +kernel
  have hheader : Addresses "CALC:INT:STAT" .calcIntStat [] := by decide +kernel
  have hvalue : parseBoolean (unquote (if on then "ON" else "OFF")) = some on := by
    cases on <;> decide +kernel
  have hrun (a : Access) : execute .calcIntStat a = some (a.boolean .integralEnabled) := rfl
  exact handleCommand_runs hparse hheader ((hrun _).trans
    (congrArg some (Access.boolean_given rfl ⟨_, by cases on <;> rfl, hvalue⟩)))

theorem handleCommand_integralStart (sim : NormaSimulator)
    (henabled : sim.state.integralEnabled = true) :
    ∃ path, handleCommand sim [] "CALC:INT:STAR" =
      some ⟨sim.integrating, path, none, false⟩ := by
  have hparse : parseCommand "CALC:INT:STAR" = ⟨"CALC:INT:STAR", false, []⟩ := by decide +kernel
  have hheader : Addresses "CALC:INT:STAR" .calcIntStar [] := by decide +kernel
  have hrun (a : Access) (ha : a.sim.state.integralEnabled = true) (hset : a.command.query = false) :
      execute .calcIntStar a = some (a.assign .integralRunning true) := by
    have hexecute : execute .calcIntStar a = some a.integralStart := rfl
    rw [hexecute, Access.integralStart, Access.commandOnly, if_neg (by simp [hset]),
      if_neg (by simp [ha])]
  exact handleCommand_runs hparse hheader (hrun _ henabled rfl)

theorem integral_started : ∃ moves, Usage (.new {}) moves ∧ moves ≠ [] ∧
    ∀ move ∈ moves, move.after.state.IntegratorSwitched := by
  obtain ⟨path, hout⟩ := handleCommand_integral (.new {}) true
  have husage := Usage.command (by decide +kernel) (by decide +kernel) (by decide) hout (.done _)
  refine ⟨_, husage, by simp, (integrator_switched_iff husage).mpr fun step hstep hstrands => ?_⟩
  obtain rfl := Move.command.inj (List.mem_singleton.mp hstep)
  exact Bool.false_ne_true hstrands.2

theorem integral_stranded : ¬∀ sim, Reachable sim → sim.state.IntegratorSwitched := by
  intro hall
  obtain ⟨path, hon⟩ := handleCommand_integral (.new {}) true
  obtain ⟨path', hstart⟩ := handleCommand_integralStart
    ((NormaSimulator.new {}).withIntegral true) rfl
  obtain ⟨path'', hoff⟩ := handleCommand_integral
    ((NormaSimulator.new {}).withIntegral true).integrating false
  have hline := handleLine_single (by decide) (by decide) (by decide +kernel) (by decide) hon
  have hline' := handleLine_single (by decide) (by decide) (by decide +kernel) (by decide) hstart
  have hline'' := handleLine_single (by decide) (by decide) (by decide +kernel) (by decide) hoff
  exact Bool.false_ne_true (hall _ (.line (.line (.line (.new {}) _ hline) _ hline') _ hline'') rfl)

end Integrator

end Norma
