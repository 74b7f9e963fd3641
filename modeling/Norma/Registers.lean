import Norma.Run

namespace Norma

open ErrorCode

namespace NormaSimulator

def registers (sim : NormaSimulator) (reg : StatusRegister) : RegisterState :=
  (registerState reg).get sim.state

def conditionOf (sim : NormaSimulator) (reg : StatusRegister) : Int :=
  condition sim.state sim.signal reg

-- The EVENt part as a read of it would find it.
def latched (sim : NormaSimulator) (reg : StatusRegister) : RegisterState :=
  (sim.registers reg).latch (sim.conditionOf reg)

end NormaSimulator

section Registers

-- A setting that is stored away from the four status registers.
def Setting.Apart {A : Type} (f : Setting A) : Prop :=
  ∀ s v reg, (registerState reg).get (f.set s v) = (registerState reg).get s

theorem Setting.Apart.focus {A B : Type} {f : Setting A} (h : f.Apart) (m : Lens A B) :
    (f.focus m).Apart :=
  fun s _ reg => h s _ reg

variable {sim : NormaSimulator} {reg : StatusRegister}

theorem registerState_set (reg reg' : StatusRegister) (state : State) (r : RegisterState) :
    (registerState reg).get ((registerState reg').set state r) =
      if reg = reg' then r else (registerState reg).get state := by
  cases reg <;> cases reg' <;> rfl

theorem ChannelSetting.apart {options : SimulatorOptions} {f : Setting (ChannelConfig Float)}
    {ranges : Ranges} (h : ChannelSetting options f ranges) : f.Apart := by
  cases h <;> (intro s v reg; cases reg <;> rfl)

theorem NumberSetting.apart {a : Access} {f : Setting Float} {min max : Float}
    (h : NumberSetting a f min max) : f.Apart := by
  cases h with
  | scale hconfig => exact hconfig.apart.focus _
  | _ => intro s v reg; cases reg <;> rfl

theorem IntegerSetting.apart {f : Setting Int} {min max : Int} (h : IntegerSetting f min max) :
    f.Apart := by
  cases h <;> (intro s v reg; cases reg <;> rfl)

theorem BooleanSetting.apart {options : SimulatorOptions} {f : Setting Bool}
    (h : BooleanSetting options f) : f.Apart := by
  cases h with
  | autorange hconfig => exact hconfig.apart.focus _
  | _ => intro s v reg; cases reg <;> rfl

theorem KeywordSetting.apart {A : Type} {f : Setting A} (h : KeywordSetting f) : f.Apart := by
  cases h <;> (intro s v reg; cases reg <;> rfl)

theorem FunctionsSetting.apart {f : Setting (List Text)} (h : FunctionsSetting f) : f.Apart := by
  cases h <;> (intro s v reg; cases reg <;> rfl)

theorem SourceSetting.apart {f : Setting Text} (h : SourceSetting f) : f.Apart := by
  cases h <;> (intro s v reg; cases reg <;> rfl)

structure SameLatch (before after : RegisterState) : Prop where
  event : after.event = before.event
  previousCondition : after.previousCondition = before.previousCondition

theorem SameLatch.of_eq {before after : RegisterState} (h : after = before) :
    SameLatch before after :=
  ⟨by rw [h], by rw [h]⟩

theorem MaskSetting.sameLatch {reg' : StatusRegister} {f : Setting Int}
    (h : MaskSetting reg' f) (state : State) (value : Int) :
    SameLatch ((registerState reg).get state) ((registerState reg).get (f.set state value)) := by
  cases h <;>
    (rw [show ∀ m : Lens RegisterState Int, ((registerState reg').focus m).set state value =
      (registerState reg').set state (m.set ((registerState reg').get state) value) from
        fun _ => rfl, registerState_set]
     split
     · next heq =>
       subst heq
       exact ⟨rfl, rfl⟩
     · exact ⟨rfl, rfl⟩)

theorem Stored.sameLatch {a : Access} {state : State} (h : Stored a state) :
    SameLatch ((registerState reg).get a.sim.state) ((registerState reg).get state) := by
  cases h with
  | number hsetting => exact .of_eq (hsetting.apart _ _ reg)
  | integer hsetting => exact .of_eq (hsetting.apart _ _ reg)
  | mask hsetting => exact hsetting.sameLatch _ _
  | boolean hsetting value => exact .of_eq (hsetting.apart _ _ reg)
  | keyword hsetting value => exact .of_eq (hsetting.apart _ _ reg)
  | functionList hsetting => exact .of_eq (hsetting.apart _ _ reg)
  | range hconfig => exact .of_eq (hconfig.apart _ _ reg)
  | source hsetting => exact .of_eq (hsetting.apart _ _ reg)
  | format hpair => cases hpair <;> cases reg <;> exact ⟨rfl, rfl⟩
  | _ => cases reg <;> exact ⟨rfl, rfl⟩

theorem conditionOf_latch (reg reg' : StatusRegister) (r : RegisterState) :
    NormaSimulator.conditionOf { sim with state := (registerState reg').set sim.state r } reg =
      sim.conditionOf reg := by
  cases reg' <;> rfl

theorem pushError_registers (state : State) (code : Int) (message : Text) :
    (registerState reg).get (state.pushError code message) = (registerState reg).get state := by
  unfold SimulatorState.pushError
  split <;> cases reg <;> rfl

end Registers

namespace Step

variable (step : Step) (reg : StatusRegister)

def key : Text := commandKey step.path step.text

def readsEvent : Bool := step.isQuery && step.key == (eventKey reg).text

def clears : Bool := !step.isQuery && step.key == "*CLS"

def resets : Bool := !step.isQuery && step.key == "*RST"

variable {step reg}

theorem readsEvent_iff :
    step.readsEvent reg = true ↔ step.isQuery = true ∧ step.key = (eventKey reg).text := by
  simp [readsEvent]

theorem clears_iff : step.clears = true ↔ step.isQuery = false ∧ step.key = "*CLS" := by
  simp [clears]

theorem resets_iff : step.resets = true ↔ step.isQuery = false ∧ step.key = "*RST" := by
  simp [resets]

end Step

section Keys

-- No other pattern of the table is written like one of these.
theorem key_of_text : ∀ key ∈ [Key.systErr, .systErrAll, .data, .dataStat, .statOperEven,
    .statQuesEven, .statQuesVoltEven, .statQuesCurrEven],
    ∀ spec ∈ commandSpecs, spec.key.text = key.text → spec.key = key := by
  decide +kernel

theorem eventKey_of_text (reg : StatusRegister) : ∀ spec ∈ commandSpecs,
    spec.key.text = (eventKey reg).text → spec.key = eventKey reg := by
  cases reg <;> exact key_of_text _ (by simp [eventKey])

theorem text_ends (key : Key) : key.text ≠ [] ∧ key.text.head? ≠ some '*' := by
  cases key <;> decide

theorem findCommand_spec {tokens : List Token} {key : Key} {suffixes : List Int}
    (h : findCommand tokens = some (key, suffixes)) : ∃ spec ∈ commandSpecs, spec.key = key := by
  obtain ⟨row, hrow, hmatch⟩ := List.exists_of_findSome?_eq_some h
  obtain ⟨spec, hspec, rfl⟩ := List.mem_map.mp hrow
  obtain ⟨found, -, hpair⟩ := Option.map_eq_some_iff.mp hmatch
  cases hpair
  exact ⟨spec, hspec, rfl⟩

theorem upper_head {header : Text} (h : header.head? = some '*') :
    (upper header).head? = some '*' := by
  obtain ⟨rest, rfl⟩ := List.head?_eq_some_iff.mp h
  rfl

theorem execute_event (reg : StatusRegister) (a : Access) :
    execute (eventKey reg) a = some (a.registerPart reg .event) := by
  cases reg <;> rfl

variable {sim : NormaSimulator} {path : List Token} {text : Text} {out : Outcome}

theorem handleCommand_of_key (sim : NormaSimulator) {key : Key}
    (hunique : ∀ spec ∈ commandSpecs, spec.key.text = key.text → spec.key = key)
    (hkey : commandKey path text = key.text) :
    ∃ (command : Command) (rest : List Token),
      command.query = (parseCommand text).query ∧ command.args = (parseCommand text).args ∧
        command.failed = false ∧
        handleCommand sim path text = (execute key ⟨sim, command⟩).map (·.outcome rest) := by
  obtain ⟨hne, hhead⟩ := text_ends key
  unfold commandKey at hkey
  dsimp only at hkey
  split at hkey
  · next hstar => exact absurd (hkey ▸ upper_head hstar) hhead
  · next hstar =>
    cases hfind : findCommand (headerTokens path (parseCommand text).header) with
    | none => exact absurd (by rw [← hkey, hfind]) hne
    | some found =>
      obtain ⟨key', suffixes⟩ := found
      obtain ⟨spec, hspec, rfl⟩ := findCommand_spec hfind
      rw [hfind] at hkey
      obtain rfl := hunique spec hspec hkey
      let tokens := headerTokens path (parseCommand text).header
      refine ⟨(parseCommand text).command tokens spec.key.text suffixes, tokens.dropLast,
        rfl, rfl, rfl, ?_⟩
      simp only [handleCommand, if_neg hstar, handleTree, hfind]
      rfl

theorem handleCommand_event {reg : StatusRegister}
    (hkey : commandKey path text = (eventKey reg).text) (hquery : (parseCommand text).query = true)
    (h : handleCommand sim path text = some out) :
    out.response = some (toText (sim.latched reg).event) ∧
      out.sim = { sim with
        state := (registerState reg).set sim.state { sim.latched reg with event := 0 } } := by
  obtain ⟨command, rest, hcommand, -, -, hrun⟩ :=
    handleCommand_of_key sim (eventKey_of_text reg) hkey
  rw [execute_event, Option.map_some, h, Option.some.injEq] at hrun
  rw [hrun]
  simp only [Access.registerPart, Access.queryOnly, hcommand, hquery, if_true]
  cases reg <;> exact ⟨rfl, rfl⟩

theorem commandKey_star (hstar : (commandKey path text).head? = some '*') :
    (parseCommand text).header.head? = some '*' ∧
      upper (parseCommand text).header = commandKey path text := by
  unfold commandKey at hstar ⊢
  dsimp only at hstar ⊢
  by_cases hheader : (parseCommand text).header.head? = some '*'
  · exact ⟨hheader, by rw [if_pos hheader]⟩
  · rw [if_neg hheader] at hstar
    cases hfind : findCommand (headerTokens path (parseCommand text).header) with
    | none => simp [hfind] at hstar
    | some found =>
      obtain ⟨key, suffixes⟩ := found
      obtain ⟨spec, hspec, rfl⟩ := findCommand_spec hfind
      rw [hfind] at hstar
      exact absurd hstar (text_ends spec.key).2

theorem handleCommand_star (hstar : (commandKey path text).head? = some '*') :
    handleCommand sim path text = handleStar sim path text (parseCommand text) :=
  if_pos (commandKey_star hstar).1

theorem handleCommand_common (sim : NormaSimulator) {key : Text} {body : Access → Access}
    (hdone : ∀ a, handleCommon key a = .done (body a)) (hstar : key.head? = some '*')
    (hkey : commandKey path text = key) :
    ∃ command : Command, command.query = (parseCommand text).query ∧
      handleCommand sim path text = some ((body ⟨sim, command⟩).outcome path) := by
  have hhead : (commandKey path text).head? = some '*' := by rw [hkey, hstar]
  have hheader := (commandKey_star hhead).2
  rw [hkey] at hheader
  rw [handleCommand_star hhead]
  unfold handleStar
  rw [hheader]
  dsimp only
  rw [hdone]
  exact ⟨_, rfl, rfl⟩

theorem handleCommand_clears (sim : NormaSimulator) (hkey : commandKey path text = "*CLS")
    (hset : (parseCommand text).query = false) :
    ∃ out, handleCommand sim path text = some out ∧ out.sim = sim.clearStatus := by
  have hdone (a : Access) : handleCommon "*CLS" a = .done (a.commandOnly a.clearStatus) := rfl
  obtain ⟨command, hcommand, hout⟩ := handleCommand_common sim hdone rfl hkey
  rw [Access.commandOnly, if_neg (by simp [hcommand, hset])] at hout
  exact ⟨_, hout, rfl⟩

theorem handleCommand_resets (sim : NormaSimulator) (hkey : commandKey path text = "*RST")
    (hset : (parseCommand text).query = false) :
    ∃ out, handleCommand sim path text = some out ∧ out.sim = sim.reset := by
  have hdone (a : Access) : handleCommon "*RST" a = .done (a.commandOnly a.reset) := rfl
  obtain ⟨command, hcommand, hout⟩ := handleCommand_common sim hdone rfl hkey
  rw [Access.commandOnly, if_neg (by simp [hcommand, hset])] at hout
  exact ⟨_, hout, rfl⟩

end Keys

structure Step.Ordinary (step : Step) (reg : StatusRegister) : Prop where
  reads : step.readsEvent reg = false
  clears : step.clears = false
  resets : step.resets = false

inductive RegisterStep (reg : StatusRegister) (step : Step) : Prop where
  | read (hreads : step.readsEvent reg = true)
      (hresponse : step.after.response = some (toText (step.before.latched reg).event))
      (hafter : step.after.sim.registers reg = { step.before.latched reg with event := 0 })
      (hcondition : step.after.sim.conditionOf reg = step.before.conditionOf reg)
  | cleared (hreads : step.readsEvent reg = false) (hclears : step.clears = true)
      (hafter : step.after.sim.registers reg = { step.before.registers reg with event := 0 })
      (hcondition : step.after.sim.conditionOf reg = step.before.conditionOf reg)
  | reset (hreads : step.readsEvent reg = false) (hclears : step.clears = false)
      (hresets : step.resets = true) (hafter : step.after.sim = step.before.reset)
  | latched (hordinary : step.Ordinary reg)
      (hafter : step.after.sim.registers reg = step.before.latched reg)
      (hcondition : step.after.sim.conditionOf reg = step.before.conditionOf reg)
  | kept (hordinary : step.Ordinary reg)
      (hsame : SameLatch (step.before.registers reg) (step.after.sim.registers reg))

section Steps

variable {step : Step} {reg : StatusRegister}

theorem Change.registerStep {sim : NormaSimulator} {command : Command} {b : Access}
    (h : Change ⟨sim, command⟩ b) (hquery : command.query = step.isQuery)
    (hkey : command.key = step.key) (hbefore : step.before = sim) (hafter : step.after.sim = b.sim)
    (hordinary : step.Ordinary reg) : RegisterStep reg step := by
  have hsame (hregisters : b.sim.registers reg = sim.registers reg) : RegisterStep reg step :=
    .kept hordinary (.of_eq (by rw [hafter, hbefore, hregisters]))
  cases h with
  | rejected code message => exact hsame (pushError_registers ..)
  | answered text => exact hsame rfl
  | measured text => exact hsame (by cases reg <;> rfl)
  | stored hset hstored =>
    refine .kept hordinary ?_
    rw [hafter, hbefore]
    exact hstored.sameLatch
  | reset hname hset =>
    have hresets := Step.resets_iff.mpr ⟨hquery.symm.trans hset, hkey.symm.trans hname⟩
    rw [hordinary.resets] at hresets
    cases hresets
  | clearStatus hname hset =>
    have hclears := Step.clears_iff.mpr ⟨hquery.symm.trans hset, hkey.symm.trans hname⟩
    rw [hordinary.clears] at hclears
    cases hclears
  | operationComplete hname hset =>
    refine hsame ?_
    unfold Access.operationComplete
    split <;> cases reg <;> rfl
  | readEventStatus hname => exact hsame (by cases reg <;> rfl)
  | statusByte hname =>
    cases reg with
    | questionable =>
      exact .latched hordinary (by rw [hafter, hbefore]; rfl) (by rw [hafter, hbefore]; rfl)
    | _ => exact hsame rfl
  | event reg' hname hread =>
    have hne : reg ≠ reg' := by
      rintro rfl
      have hreads := Step.readsEvent_iff.mpr ⟨hquery.symm.trans hread, hkey.symm.trans hname⟩
      rw [hordinary.reads] at hreads
      cases hreads
    refine hsame ?_
    change (registerState reg).get ((registerState reg').set ((registerState reg').set _ _) _) = _
    rw [registerState_set, if_neg hne, registerState_set, if_neg hne]
    rfl
  | nextError hname =>
    refine hsame ?_
    simp only [Access.nextError]
    split <;> cases reg <;> rfl
  | allErrors hname =>
    refine hsame ?_
    simp only [Access.allErrors]
    split <;> cases reg <;> rfl

theorem Step.Valid.registerStep (h : step.Valid) (reg : StatusRegister) :
    RegisterStep reg step := by
  by_cases hreads : step.readsEvent reg = true
  · obtain ⟨hquery, hkey⟩ := Step.readsEvent_iff.mp hreads
    obtain ⟨hresponse, hafter⟩ := handleCommand_event hkey hquery h
    refine .read hreads hresponse ?_ ?_
    · rw [hafter, NormaSimulator.registers, registerState_set, if_pos rfl]
    · rw [hafter, conditionOf_latch]
  · rw [Bool.not_eq_true] at hreads
    by_cases hclears : step.clears = true
    · obtain ⟨hset, hkey⟩ := Step.clears_iff.mp hclears
      obtain ⟨out, hout, hclear⟩ := handleCommand_clears step.before hkey hset
      have hafter : step.after.sim = step.before.clearStatus := by
        rw [← hclear, Option.some.inj (h.symm.trans hout)]
      refine .cleared hreads hclears ?_ ?_
      · rw [hafter]
        cases reg <;> rfl
      · rw [hafter]
        rfl
    · rw [Bool.not_eq_true] at hclears
      by_cases hresets : step.resets = true
      · obtain ⟨hset, hkey⟩ := Step.resets_iff.mp hresets
        obtain ⟨out, hout, hreset⟩ := handleCommand_resets step.before hkey hset
        exact .reset hreads hclears hresets (by rw [← hreset, Option.some.inj (h.symm.trans hout)])
      · rw [Bool.not_eq_true] at hresets
        have hordinary : step.Ordinary reg := ⟨hreads, hclears, hresets⟩
        generalize hout : step.after = out
        have hchange := handleCommand_change h
        rw [hout] at hchange
        cases hchange with
        | undefined rest =>
          refine .kept hordinary (.of_eq ?_)
          rw [hout]
          exact pushError_registers ..
        | changed rest hkey hsuffixes hquery hargs hresponse hfailed hchange =>
          exact hchange.registerStep hquery hkey rfl (by rw [hout]; rfl) hordinary

end Steps

end Norma
