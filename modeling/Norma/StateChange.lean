import Norma.EventLatch

namespace Norma

inductive Recorded (s : State) : State → Prop where
  | mk (errors : List ScpiErrorInfo) (eventStatus : Int) (operation questionable
      questionableVoltage questionableCurrent : RegisterState) :
      Recorded s { s with
        errors, eventStatus, operation, questionable, questionableVoltage, questionableCurrent }

theorem Recorded.pushError (s : State) (code : Int) (message : Text) :
    Recorded s (s.pushError code message) := by
  unfold SimulatorState.pushError
  split
  · exact .mk _ s.eventStatus s.operation s.questionable s.questionableVoltage
      s.questionableCurrent
  · exact .mk _ _ s.operation s.questionable s.questionableVoltage s.questionableCurrent

inductive StateChange (a : Access) : State → Prop where
  | recorded {state : State} (hrecorded : Recorded a.sim.state state) : StateChange a state
  | measured {names : List Text} (hquery : a.command.query = true)
      (hread : readFunctions a.command.args = .ok names)
      (hkey : a.command.key = Key.data.text ∨ a.command.key = Key.dataStat.text) :
      StateChange a (Setting.functions.set a.sim.state names)
  | stored {state : State} (hset : a.command.query = false) (hstored : Stored a state) :
      StateChange a state
  | reset (hkey : a.command.key = "*RST") (hset : a.command.query = false) :
      StateChange a a.sim.reset.state

theorem Change.stateChange {a b : Access} (h : Change a b) : StateChange a b.sim.state := by
  let s := a.sim.state
  have hsame : Recorded s s := .mk s.errors s.eventStatus s.operation s.questionable
    s.questionableVoltage s.questionableCurrent
  cases h with
  | rejected code message => exact .recorded (.pushError s code message)
  | answered text => exact .recorded hsame
  | measured text hquery hread htext hkey hargs => exact .measured hquery hread hkey
  | stored hset hstored => exact .stored hset hstored
  | reset hkey hset => exact .reset hkey hset
  | clearStatus => exact .recorded (.mk _ _ _ _ _ _)
  | operationComplete =>
    unfold Access.operationComplete
    split
    · exact .recorded hsame
    · exact .recorded (.mk s.errors _ s.operation s.questionable s.questionableVoltage
        s.questionableCurrent)
  | readEventStatus =>
    exact .recorded (.mk s.errors _ s.operation s.questionable s.questionableVoltage
      s.questionableCurrent)
  | statusByte =>
    exact .recorded (.mk s.errors s.eventStatus s.operation _ s.questionableVoltage
      s.questionableCurrent)
  | event reg =>
    cases reg with
    | operation =>
      exact .recorded (.mk s.errors s.eventStatus _ s.questionable s.questionableVoltage
        s.questionableCurrent)
    | questionable =>
      exact .recorded (.mk s.errors s.eventStatus s.operation _ s.questionableVoltage
        s.questionableCurrent)
    | questionableVoltage =>
      exact .recorded (.mk s.errors s.eventStatus s.operation s.questionable _
        s.questionableCurrent)
    | questionableCurrent =>
      exact .recorded (.mk s.errors s.eventStatus s.operation s.questionable
        s.questionableVoltage _)
  | nextError =>
    unfold Access.nextError
    split
    · exact .recorded hsame
    · exact .recorded (.mk _ s.eventStatus s.operation s.questionable s.questionableVoltage
        s.questionableCurrent)
  | allErrors =>
    unfold Access.allErrors
    split
    · exact .recorded hsame
    · exact .recorded (.mk _ s.eventStatus s.operation s.questionable s.questionableVoltage
        s.questionableCurrent)

theorem Access.boolean_given {a : Access} {f : Setting Bool} {value : Bool}
    (hset : a.command.query = false) (hgiven : a.GivenBool value) :
    a.boolean f = a.assign f value := by
  obtain ⟨text, hargument, hparse⟩ := hgiven
  simp only [Access.boolean, hset, Access.parameter, hargument, hparse]
  rfl

namespace Step

structure Receives (step : Step) (a : Access) : Prop where
  sim : a.sim = step.before
  key : a.command.key = step.key
  suffixes : a.command.suffixes = commandSuffixes step.path step.text
  query : a.command.query = step.isQuery
  args : a.command.args = (parseCommand step.text).args
  response : a.command.response = none
  failed : a.command.failed = false

variable {step : Step}

theorem Valid.stateChange (h : step.Valid) :
    Recorded step.before.state step.after.sim.state ∨
      ∃ a, step.Receives a ∧ StateChange a step.after.sim.state := by
  have hchange := handleCommand_change h
  generalize step.after = out at hchange
  cases hchange with
  | undefined rest => exact .inl (.pushError _ _ _)
  | @changed command b rest hkey hsuffixes hquery hargs hresponse hfailed hchange =>
    exact .inr ⟨_, ⟨rfl, hkey, hsuffixes, hquery, hargs, hresponse, hfailed⟩, hchange.stateChange⟩

theorem Valid.executed (h : step.Valid) {key : Key}
    (hunique : ∀ spec ∈ commandSpecs, spec.key.text = key.text → spec.key = key)
    (hkey : step.key = key.text) :
    ∃ a b rest, step.Receives a ∧ execute key a = some b ∧ step.after = b.outcome rest := by
  obtain ⟨hne, hhead⟩ := text_ends key
  have hstar : (parseCommand step.text).header.head? ≠ some '*' := by
    intro hstar
    rw [Step.key, commandKey, if_pos hstar] at hkey
    exact hhead (hkey ▸ upper_head hstar)
  have hcommand := h
  rw [Step.Valid, handleCommand, if_neg hstar, handleTree] at hcommand
  rw [Step.key, commandKey, if_neg hstar] at hkey
  split at hcommand
  · next hfind =>
    rw [hfind] at hkey
    exact absurd hkey.symm hne
  · next key' suffixes hfind =>
    obtain ⟨spec, hspec, rfl⟩ := findCommand_spec hfind
    rw [hfind] at hkey
    obtain rfl := hunique spec hspec hkey
    obtain ⟨b, hexecute, hout⟩ := Option.map_eq_some_iff.mp hcommand
    refine ⟨_, b, _, ⟨rfl, ?_, ?_, rfl, rfl, rfl, rfl⟩, hexecute, hout.symm⟩
    · rw [Step.key, commandKey, if_neg hstar, hfind]
      rfl
    · rw [commandSuffixes, if_neg hstar, hfind]
      rfl

end Step

def SimulatorState.modes (state : State) :=
  (state.functions, state.concurrent, state.dataFormat, state.statusFormat,
    state.efficiencyInput, state.efficiencyOutput, state.timerSeconds,
    fun block => (state.sweep block).enabled)

inductive Switched (a : Access) : State → Prop where
  | requested {names : List Text} (hquery : a.command.query = true)
      (hread : readFunctions a.command.args = .ok names)
      (hkey : a.command.key = Key.data.text ∨ a.command.key = Key.dataStat.text) :
      Switched a (Setting.functions.set a.sim.state names)
  | functions {names : List Text} (hset : a.command.query = false)
      (hkey : a.command.key = Key.func.text) (hread : readFunctions a.command.args = .ok names)
      (hroom : a.sim.state.concurrent = true ∨ names.length ≤ 1) :
      Switched a (Setting.functions.set a.sim.state names)
  | allFunctions (hset : a.command.query = false) (hkey : a.command.key = Key.funcAll.text) :
      Switched a (Setting.functions.set a.sim.state allFunctions)
  | noFunctions : Switched a (Setting.functions.set a.sim.state [])
  | concurrent {value : Bool}
      (hroom : a.sim.state.concurrent = true → value = false → a.sim.state.functions.length ≤ 1) :
      Switched a (Setting.concurrent.set a.sim.state value)
  | oneFunction : Switched a (Setting.functions.set (Setting.concurrent.set a.sim.state false)
      (a.sim.state.functions.take 1))
  | efficiency {input output : Text} {rest : List Text} (hset : a.command.query = false)
      (hkey : a.command.key = Key.calcPowEffRef.text)
      (hargs : a.command.args = input :: output :: rest) : Switched a
      (Setting.efficiency.set a.sim.state (upper (unquote input), upper (unquote output)))
  | sweepState {block : Fin 3} {value : Bool} (hset : a.command.query = false)
      (hkey : a.command.key = Key.sweStat.text) (hblock : a.AddressesBlock block)
      (hgiven : a.GivenBool value) : Switched a ((enableSweep block).set a.sim.state value)
  | sequence {block : Fin 3} (hset : a.command.query = false) (hstarts : a.StartsBlock block) :
      Switched a ((enableSweep block).set a.sim.state true)
  | abort : Switched a ((enableSweep 2).set ((enableSweep 1).set
      (Setting.initiated.set a.sim.state false) false) false)
  | deleteAll : Switched a ((enableSweep 2).set ((enableSweep 1).set a.sim.state false) false)
  | format {key : Key} {f g : Setting DataFormatSetting} {fallback : DataFormat}
      (hset : a.command.query = false) (hsetting : FormatPair key f g fallback)
      (hkey : a.command.key = key.text) {format : DataFormat} {length : Int}
      (hgiven : a.GivenFormat (f.get a.sim.state).length format length) :
      Switched a (g.set (f.set a.sim.state ⟨format, length⟩)
        (coupled (format ≠ .ascii) fallback (g.get (f.set a.sim.state ⟨format, length⟩))))
  | timer : Switched a (Setting.timerSeconds.set a.sim.state 0)
  | reset (hkey : a.command.key = "*RST") (hset : a.command.query = false) :
      Switched a a.sim.reset.state

section Modes

variable {a : Access} {s state : State} {step : Step}

theorem sweepSetting_modes {A : Type} {m : Lens (SweepConfig Float) A}
    (hm : ∀ c v, (m.set c v).enabled = c.enabled) (block : Fin 3) (v : A) :
    (((Setting.sweep.entry block).focus m).set s v).modes = s.modes := by
  have henabled : (fun other => (Function.update s.sweep block (m.set (s.sweep block) v)
      other).enabled) = fun other => (s.sweep other).enabled := by
    funext other
    rcases eq_or_ne other block with rfl | hne
    · rw [Function.update_self, hm]
    · rw [Function.update_of_ne hne]
  exact congrArg (fun enabled => (s.functions, s.concurrent, s.dataFormat, s.statusFormat,
    s.efficiencyInput, s.efficiencyOutput, s.timerSeconds, enabled)) henabled

theorem Stored.switched (h : Stored a state) (hset : a.command.query = false) :
    state.modes = a.sim.state.modes ∨ Switched a state := by
  cases h with
  | number hsetting =>
    refine .inl ?_
    cases hsetting with
    | scale hconfig => cases hconfig <;> rfl
    | sweepTime block => exact sweepSetting_modes (fun _ _ => rfl) block _
    | sweepOffsetTime block => exact sweepSetting_modes (fun _ _ => rfl) block _
    | _ => rfl
  | longestSweep block => exact .inl (sweepSetting_modes (fun _ _ => rfl) block _)
  | integer hsetting =>
    refine .inl ?_
    cases hsetting with
    | sweepCount block => exact sweepSetting_modes (fun _ _ => rfl) block _
    | sweepSparsing block => exact sweepSetting_modes (fun _ _ => rfl) block _
    | _ => rfl
  | @mask reg _ _ hsetting => cases hsetting <;> cases reg <;> exact .inl rfl
  | boolean hsetting =>
    refine .inl ?_
    cases hsetting with
    | autorange hconfig => cases hconfig <;> rfl
    | _ => rfl
  | keyword hsetting => cases hsetting <;> exact .inl rfl
  | functionList hsetting =>
    refine .inl ?_
    cases hsetting with
    | sweep block => exact sweepSetting_modes (fun _ _ => rfl) block _
    | _ => rfl
  | range hconfig => cases hconfig <;> exact .inl rfl
  | source hsetting => cases hsetting <;> exact .inl rfl
  | functions hkey hread hroom => exact .inr (.functions hset hkey hread hroom)
  | allFunctions hkey => exact .inr (.allFunctions hset hkey)
  | noFunctions => exact .inr .noFunctions
  | concurrent hroom => exact .inr (.concurrent hroom)
  | oneFunction => exact .inr .oneFunction
  | efficiency hkey hargs => exact .inr (.efficiency hset hkey hargs)
  | sweepState hkey hblock hgiven => exact .inr (.sweepState hset hkey hblock hgiven)
  | sequence hstarts => exact .inr (.sequence hset hstarts)
  | abort => exact .inr .abort
  | deleteAll => exact .inr .deleteAll
  | format hsetting hkey hgiven => exact .inr (.format hset hsetting hkey hgiven)
  | timer => exact .inr .timer
  | _ => exact .inl rfl

theorem Step.Valid.switched (h : step.Valid) :
    step.after.sim.state.modes = step.before.state.modes ∨
      ∃ a, step.Receives a ∧ Switched a step.after.sim.state := by
  rcases h.stateChange with hrecorded | ⟨a, ha, hchange⟩
  · generalize step.after.sim.state = after at hrecorded ⊢
    cases hrecorded
    exact .inl rfl
  · rw [← ha.sim]
    generalize step.after.sim.state = after at hchange ⊢
    cases hchange with
    | recorded hrecorded =>
      cases hrecorded
      exact .inl rfl
    | measured hquery hread hkey => exact .inr ⟨a, ha, .requested hquery hread hkey⟩
    | stored hset hstored =>
      exact (hstored.switched hset).imp_right fun hswitched => ⟨a, ha, hswitched⟩
    | reset hkey hset => exact .inr ⟨a, ha, .reset hkey hset⟩

end Modes

theorem Linked.forall_iff {P : State → Prop} {Q : Step → Prop} {sim : NormaSimulator}
    {moves : List Move} (hstep : ∀ step : Step, step.Valid → P step.before.state →
      (P step.after.sim.state ↔ Q step)) (h : Linked sim moves) (hsim : P sim.state) :
    (∀ move ∈ moves, P move.after.state) ↔ ∀ step, .command step ∈ moves → Q step := by
  induction moves generalizing sim with
  | nil => simp
  | cons move moves ih =>
    obtain ⟨rfl, hvalid, hrest⟩ := h
    cases move with
    | signal sim given =>
      simp only [List.mem_cons, forall_eq_or_imp, reduceCtorEq, false_or]
      rw [ih hrest hsim]
      exact and_iff_right hsim
    | command step =>
      have hone := hstep step hvalid hsim
      simp only [List.mem_cons, Move.command.injEq, forall_eq_or_imp]
      constructor
      · rintro ⟨hafter, hmoves⟩
        exact ⟨hone.mp hafter, (ih hrest hafter).mp hmoves⟩
      · rintro ⟨hmeets, hmoves⟩
        have hafter : P step.after.sim.state := hone.mpr hmeets
        exact ⟨hafter, (ih hrest hafter).mpr hmoves⟩

theorem Linked.before {P : State → Prop} {sim : NormaSimulator} {moves : List Move}
    (h : Linked sim moves) (hsim : P sim.state) (hafter : ∀ move ∈ moves, P move.after.state) :
    ∀ step, .command step ∈ moves → step.Valid ∧ P step.before.state := by
  induction moves generalizing sim with
  | nil => simp
  | cons move moves ih =>
    obtain ⟨rfl, hvalid, hrest⟩ := h
    intro step hstep
    rcases List.mem_cons.mp hstep with rfl | hmem
    · exact ⟨hvalid, hsim⟩
    · exact ih hrest (hafter move List.mem_cons_self)
        (fun other hother => hafter other (List.mem_cons_of_mem _ hother)) step hmem

end Norma
