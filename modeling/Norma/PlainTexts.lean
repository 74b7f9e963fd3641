import Norma.Reach
import Norma.Registers
import Norma.SharedPath

namespace Norma

open ErrorCode

structure NormaSimulator.TextsOneLine (sim : NormaSimulator) : Prop where
  options : sim.options.TextsOneLine
  state : sim.state.TextsOneLine

inductive PlainReachable : NormaSimulator → Prop where
  | new {options : SimulatorOptions} (hoptions : options.TextsOneLine) :
      PlainReachable (.new options)
  | line {sim after : NormaSimulator} {line : Text} {response : Option Text}
      (hsim : PlainReachable sim) (hplain : OneLine line)
      (hline : sim.handleLine line = some (after, response)) : PlainReachable after
  | signal {sim : NormaSimulator} (hsim : PlainReachable sim) (given : SimulatedSignal Float) :
      PlainReachable { sim with signal := given }

def SimulatorState.texts (state : State) :
    (Text × Text × Text × Text) × (Text × Text) × (List Text × List Text × List Text × List Text) ×
      (Fin 3 → List Text) × List ScpiErrorInfo :=
  ((state.syncSource, state.triggerStartSource, state.triggerStopSource, state.language),
    (state.efficiencyInput, state.efficiencyOutput),
    (state.functions, state.transformFunctions, state.integralFunctions, state.displayFunctions),
    (fun block => (state.sweep block).functions), state.errors)

theorem SimulatorState.TextsOneLine.of_texts {s t : State} (h : s.TextsOneLine)
    (htexts : t.texts = s.texts) : t.TextsOneLine := by
  simp only [SimulatorState.texts, Prod.mk.injEq] at htexts
  obtain ⟨⟨hsync, hstart, hstop, hlanguage⟩, ⟨hinput, houtput⟩,
    ⟨hfunctions, htransform, hintegral, hdisplay⟩, hsweep, herrors⟩ := htexts
  exact {
    syncSource := hsync ▸ h.syncSource
    triggerStartSource := hstart ▸ h.triggerStartSource
    triggerStopSource := hstop ▸ h.triggerStopSource
    language := hlanguage ▸ h.language
    efficiencyInput := hinput ▸ h.efficiencyInput
    efficiencyOutput := houtput ▸ h.efficiencyOutput
    functions := hfunctions ▸ h.functions
    transformFunctions := htransform ▸ h.transformFunctions
    integralFunctions := hintegral ▸ h.integralFunctions
    displayFunctions := hdisplay ▸ h.displayFunctions
    sweep := fun block => congrFun hsweep block ▸ h.sweep block
    errors := herrors ▸ h.errors }

section Settings

def Setting.Textless {A : Type} (f : Setting A) : Prop := ∀ s v, (f.set s v).texts = s.texts

theorem Setting.Textless.focus {A B : Type} {f : Setting A} (h : f.Textless) (m : Lens A B) :
    (f.focus m).Textless :=
  fun s _ => h s _

theorem sweep_textless {A : Type} (block : Fin 3) {m : Lens (SweepConfig Float) A}
    (hm : ∀ c v, (m.set c v).functions = c.functions) :
    ((Setting.sweep.entry block).focus m).Textless := by
  intro s v
  have hsweep : (fun other => (Function.update s.sweep block (m.set (s.sweep block) v) other).functions) =
      fun other => (s.sweep other).functions := by
    funext other
    rcases eq_or_ne other block with rfl | hne
    · rw [Function.update_self, hm]
    · rw [Function.update_of_ne hne]
  exact congrArg (fun names => (s.texts.1, s.texts.2.1, s.texts.2.2.1, names, s.texts.2.2.2.2)) hsweep

theorem ChannelSetting.textless {options : SimulatorOptions} {f : Setting (ChannelConfig Float)}
    {ranges : Ranges} (h : ChannelSetting options f ranges) : f.Textless := by
  cases h <;> exact fun _ _ => rfl

theorem NumberSetting.textless {a : Access} {f : Setting Float} {min max : Float}
    (h : NumberSetting a f min max) : f.Textless := by
  cases h with
  | scale hconfig => exact hconfig.textless.focus _
  | sweepTime block => exact sweep_textless block fun _ _ => rfl
  | sweepOffsetTime block => exact sweep_textless block fun _ _ => rfl
  | _ => exact fun _ _ => rfl

theorem IntegerSetting.textless {f : Setting Int} {min max : Int} (h : IntegerSetting f min max) :
    f.Textless := by
  cases h with
  | sweepCount block => exact sweep_textless block fun _ _ => rfl
  | sweepSparsing block => exact sweep_textless block fun _ _ => rfl
  | _ => exact fun _ _ => rfl

theorem registerState_textless (reg : StatusRegister) : (registerState reg).Textless := by
  cases reg <;> exact fun _ _ => rfl

theorem MaskSetting.textless {reg : StatusRegister} {f : Setting Int} (h : MaskSetting reg f) :
    f.Textless := by
  cases h <;> exact (registerState_textless reg).focus _

theorem enableSweep_textless (block : Fin 3) : (enableSweep block).Textless :=
  sweep_textless block fun _ _ => rfl

theorem BooleanSetting.textless {options : SimulatorOptions} {f : Setting Bool}
    (h : BooleanSetting options f) : f.Textless := by
  cases h with
  | autorange hconfig => exact hconfig.textless.focus _
  | _ => exact fun _ _ => rfl

theorem KeywordSetting.textless {A : Type} {f : Setting A} (h : KeywordSetting f) :
    f.Textless := by
  cases h <;> exact fun _ _ => rfl

theorem FormatPair.textless {key : Key} {f g : Setting DataFormatSetting}
    {fallback : DataFormat} (h : FormatPair key f g fallback) : f.Textless ∧ g.Textless := by
  cases h <;> exact ⟨fun _ _ => rfl, fun _ _ => rfl⟩

end Settings

section Commands

variable {a b : Access} {state : State}

theorem Stored.textsOneLine (h : Stored a state) (ha : a.TextsOneLine) : state.TextsOneLine := by
  have hs := ha.state
  cases h with
  | unchanged => exact hs
  | number hsetting => exact hs.of_texts (hsetting.textless _ _)
  | longestSweep block => exact hs.of_texts (sweep_textless block (fun _ _ => rfl) _ _)
  | integer hsetting => exact hs.of_texts (hsetting.textless _ _)
  | serviceRequestEnable => exact hs.of_texts rfl
  | mask hsetting => exact hs.of_texts (hsetting.textless _ _)
  | boolean hsetting value => exact hs.of_texts (hsetting.textless _ _)
  | keyword hsetting value => exact hs.of_texts (hsetting.textless _ _)
  | integralState => exact hs.of_texts rfl
  | syncLevelUnit => exact hs.of_texts rfl
  | functionList hsetting hread =>
    have hnames := OneLine.readFunctions_ok ha.args hread
    cases hsetting with
    | sweep block =>
      refine { hs with sweep := fun other => ?_ }
      change ∀ name ∈ (Function.update a.sim.state.sweep block _ other).functions, OneLine name
      rcases eq_or_ne other block with rfl | hne
      · rw [Function.update_self]
        exact hnames
      · rw [Function.update_of_ne hne]
        exact hs.sweep other
    | transform => exact { hs with transformFunctions := hnames }
    | integral => exact { hs with integralFunctions := hnames }
    | display => exact { hs with displayFunctions := hnames }
  | functions hkey hread =>
    exact { hs with functions := OneLine.readFunctions_ok ha.args hread }
  | allFunctions =>
    have hnames : ∀ name ∈ Norma.allFunctions, OneLine name := by decide
    exact { hs with functions := hnames }
  | noFunctions => exact { hs with functions := by simp [Setting.functions] }
  | concurrent => exact hs.of_texts rfl
  | oneFunction =>
    exact { hs with functions := fun name hname => hs.functions name (List.mem_of_mem_take hname) }
  | range hconfig => exact hs.of_texts (hconfig.textless _ _)
  | wiringSystem value => exact hs.of_texts rfl
  | syncSource hsource => exact { hs with syncSource := syncSourceOf_oneLine hsource }
  | syncFilterFrequency => exact hs.of_texts rfl
  | source hsetting hargument =>
    have htext := (ha.argument hargument).upper
    cases hsetting with
    | start => exact { hs with triggerStartSource := htext }
    | stop => exact { hs with triggerStopSource := htext }
  | language hargument => exact { hs with language := ha.argument hargument }
  | efficiency hkey hargs =>
    refine { hs with efficiencyInput := ?_, efficiencyOutput := ?_ }
    · exact (ha.args _ (by simp [hargs])).unquote.upper
    · exact (ha.args _ (by simp [hargs])).unquote.upper
  | initiated => exact hs.of_texts rfl
  | sweepState => exact hs.of_texts (enableSweep_textless _ _ _)
  | sequence => exact hs.of_texts (enableSweep_textless _ _ _)
  | abort =>
    exact hs.of_texts ((enableSweep_textless 2 _ _).trans (enableSweep_textless 1 _ _))
  | deleteAll =>
    exact hs.of_texts ((enableSweep_textless 2 _ _).trans (enableSweep_textless 1 _ _))
  | format hpair =>
    exact hs.of_texts ((hpair.textless.2 _ _).trans (hpair.textless.1 _ _))
  | transformCycles => exact hs.of_texts rfl
  | timer => exact hs.of_texts rfl
  | integralStart => exact hs.of_texts rfl
  | integralStop => exact hs.of_texts rfl
  | savedSetup slot => exact hs.of_texts rfl
  | date value => exact hs.of_texts rfl
  | time value => exact hs.of_texts rfl

theorem pushError_textsOneLine {s : State} (hs : s.TextsOneLine) (code : Int) {message : Text}
    (hmessage : OneLine message) : (s.pushError code message).TextsOneLine := by
  unfold SimulatorState.pushError
  split
  · refine { hs with errors := fun entry hentry => ?_ }
    rcases List.mem_append.mp hentry with hold | hnew
    · exact hs.errors entry ((List.dropLast_sublist _).subset hold)
    · rw [List.mem_singleton.mp hnew]
      exact (by decide : OneLine "Queue overflow")
  · refine { hs with errors := fun entry hentry => ?_ }
    rcases List.mem_append.mp hentry with hold | hnew
    · exact hs.errors entry hold
    · rw [List.mem_singleton.mp hnew]
      exact hmessage

theorem initial_textsOneLine : SimulatorState.initial.TextsOneLine where
  syncSource := by decide
  triggerStartSource := by decide
  triggerStopSource := by decide
  language := by decide
  efficiencyInput := .nil
  efficiencyOutput := .nil
  functions := by simp [SimulatorState.initial]
  transformFunctions := by simp [SimulatorState.initial]
  integralFunctions := by simp [SimulatorState.initial]
  displayFunctions := by simp [SimulatorState.initial]
  sweep := by simp [SimulatorState.initial]
  errors := by simp [SimulatorState.initial]

theorem reset_textsOneLine {sim : NormaSimulator} (h : sim.state.TextsOneLine) :
    sim.reset.state.TextsOneLine :=
  { initial_textsOneLine with errors := h.errors }

theorem errorText_oneLine {entry : ScpiErrorInfo} (h : OneLine entry.message) :
    OneLine (errorText entry) :=
  OneLine.append_iff.mpr ⟨OneLine.append_iff.mpr ⟨.toText _, by decide⟩, h.quote⟩

structure Access.Plain (a : Access) : Prop where
  sim : a.sim.TextsOneLine
  response : ∀ text, a.command.response = some text → OneLine text

theorem Access.Plain.respond {sim : NormaSimulator} {command : Command} {text : Text}
    (hsim : sim.TextsOneLine) (htext : OneLine text) :
    (Access.mk sim { command with response := some text }).Plain where
  sim := hsim
  response other hother := by
    obtain rfl : text = other := Option.some.inj hother
    exact htext

theorem Access.Plain.silent {sim : NormaSimulator} {command : Command}
    (hsim : sim.TextsOneLine) (hnone : command.response = none) :
    (Access.mk sim command).Plain where
  sim := hsim
  response other hother := by
    rw [hnone] at hother
    cases hother

theorem Change.plain (h : Change a b) (ha : a.TextsOneLine) (hnone : a.command.response = none) :
    b.Plain := by
  cases h with
  | rejected code message hcode hmessage =>
    exact .silent ⟨ha.options, pushError_textsOneLine ha.state code (hmessage ha)⟩ hnone
  | answered text hquery htext => exact .respond ⟨ha.options, ha.state⟩ (htext ha)
  | measured text hquery hread htext =>
    exact .respond ⟨ha.options,
      { ha.state with functions := OneLine.readFunctions_ok ha.args hread }⟩ htext
  | stored hset hstored => exact .silent ⟨ha.options, hstored.textsOneLine ha⟩ hnone
  | reset => exact .silent ⟨ha.options, reset_textsOneLine ha.state⟩ hnone
  | clearStatus =>
    exact .silent ⟨ha.options, { ha.state with errors := fun entry hentry => by cases hentry }⟩ hnone
  | operationComplete =>
    unfold Access.operationComplete
    split
    · exact .respond ⟨ha.options, ha.state⟩ (by decide)
    · exact .silent ⟨ha.options, ha.state.of_texts rfl⟩ hnone
  | readEventStatus => exact .respond ⟨ha.options, ha.state.of_texts rfl⟩ (.toText _)
  | statusByte =>
    exact .respond ⟨ha.options, ha.state.of_texts (registerState_textless .questionable _ _)⟩
      (.toText _)
  | event reg =>
    exact .respond ⟨ha.options, ha.state.of_texts ((registerState_textless reg _ _).trans
      (registerState_textless reg _ _))⟩ (.toText _)
  | nextError =>
    unfold Access.nextError
    split
    · exact .respond ⟨ha.options, ha.state⟩ (by decide)
    · next entry rest herrors =>
      have hall := ha.state.errors
      rw [herrors] at hall
      exact .respond ⟨ha.options, { ha.state with
        errors := fun e he => hall e (List.mem_cons_of_mem _ he) }⟩
        (errorText_oneLine (hall entry List.mem_cons_self))
  | allErrors =>
    unfold Access.allErrors
    split
    · exact .respond ⟨ha.options, ha.state⟩ (by decide)
    · next errors hne =>
      refine .respond ⟨ha.options, { ha.state with errors := fun e he => by cases he }⟩
        (.joinCommas fun text htext => ?_)
      obtain ⟨entry, hentry, rfl⟩ := List.mem_map.mp htext
      exact errorText_oneLine (ha.state.errors entry hentry)

end Commands

section Lines

variable {sim : NormaSimulator} {path : List Token} {text : Text}

theorem splitHeader_suffix (quote : Option Char) (text : Text) :
    (splitHeader quote text).2 <:+ text := by
  induction text generalizing quote with
  | nil => cases quote <;> exact List.nil_suffix
  | cons c text ih =>
    cases quote with
    | some q => exact (ih _).trans (List.suffix_cons c text)
    | none =>
      simp only [splitHeader]
      split
      · exact (ih _).trans (List.suffix_cons c text)
      · split
        · exact List.suffix_cons c text
        · exact (ih _).trans (List.suffix_cons c text)

theorem OneLine.piece {separator : Char} (hsep : isQuote separator = false) (h : OneLine text)
    {piece : Text} (hpiece : piece ∈ splitUnquoted text separator) : OneLine piece := by
  obtain ⟨front, back, rfl, -⟩ := front_of_mem_splitUnquoted hsep hpiece
  exact (append_iff.mp (append_iff.mp h).2).1

theorem OneLine.header (h : OneLine text) : OneLine (parseCommand text).header := by
  have hheader : OneLine (splitHeader none text).1 := h.sublist (splitHeader_front none text).sublist
  unfold parseCommand
  dsimp only
  split
  · exact hheader.sublist (List.dropLast_sublist _)
  · exact hheader

theorem OneLine.arguments (h : OneLine text) : ∀ arg ∈ (parseCommand text).args, OneLine arg := by
  have hparameters : OneLine (Norma.trim (splitHeader none text).2) :=
    (h.sublist (splitHeader_suffix none text).sublist).trim
  intro arg harg
  unfold parseCommand at harg
  dsimp only at harg
  split at harg
  · cases harg
  · obtain ⟨piece, hpiece, rfl⟩ := List.mem_map.mp harg
    exact (hparameters.piece (by decide) hpiece).trim

theorem keyText_oneLine : ∀ spec ∈ commandSpecs, OneLine spec.key.text := by decide +kernel

theorem commandKey_oneLine (h : OneLine text) : OneLine (commandKey path text) := by
  unfold commandKey
  dsimp only
  split
  · exact h.header.upper
  · split
    · exact .nil
    · next hfind =>
      obtain ⟨spec, hspec, rfl⟩ := findCommand_spec hfind
      exact keyText_oneLine spec hspec

structure Outcome.Plain (out : Outcome) : Prop where
  sim : out.sim.TextsOneLine
  response : ∀ text ∈ out.response, OneLine text

theorem Outcome.Change.plain {out : Outcome} (h : Outcome.Change sim path text out)
    (hsim : sim.TextsOneLine) (htext : OneLine text) : out.Plain := by
  cases h with
  | undefined rest =>
    refine ⟨⟨hsim.options, pushError_textsOneLine hsim.state _ ?_⟩, nofun⟩
    exact OneLine.append_iff.mpr ⟨by decide, htext⟩
  | changed rest hkey hsuffixes hquery hargs hresponse hfailed hchange =>
    have hplain := hchange.plain
      { options := hsim.options
        state := hsim.state
        key := hkey ▸ commandKey_oneLine htext
        args := hargs ▸ htext.arguments } hresponse
    exact ⟨hplain.sim, hplain.response⟩

theorem Chained.plain {steps : List Step} (h : Chained sim path steps)
    (htexts : ∀ step ∈ steps, OneLine step.text) (hsim : sim.TextsOneLine) :
    (finalSim sim steps).TextsOneLine ∧ ∀ response ∈ responsesOf steps, OneLine response := by
  induction steps generalizing sim path with
  | nil => exact ⟨hsim, nofun⟩
  | cons step steps ih =>
    obtain ⟨rfl, -, hvalid, hrest⟩ := h
    have hstep := (handleCommand_change hvalid).plain hsim (htexts step List.mem_cons_self)
    obtain ⟨hfinal, hresponses⟩ :=
      ih hrest (fun other hother => htexts other (List.mem_cons_of_mem _ hother)) hstep.sim
    rw [finalSim_cons, responsesOf_cons]
    refine ⟨hfinal, fun response hmem => ?_⟩
    rcases List.mem_append.mp hmem with hfirst | hlater
    · exact hstep.response response (Option.mem_toList.mp hfirst)
    · exact hresponses response hlater

end Lines

section Answering

variable {sim after : NormaSimulator} {line : Text} {response : Option Text}

theorem handleLine_plain (h : sim.handleLine line = some (after, response))
    (hsim : sim.TextsOneLine) (hline : OneLine line) :
    after.TextsOneLine ∧ ∀ text ∈ response, OneLine text := by
  rw [handleLine_eq] at h
  obtain ⟨steps, hsteps, hpair⟩ := Option.map_eq_some_iff.mp h
  cases hpair
  have htexts : ∀ step ∈ steps, OneLine step.text := by
    intro step hstep
    obtain ⟨-, rest, hcommands, -⟩ := executed_texts hsteps
    have hmem : step.text ∈ ((splitUnquoted line ';').map trim).filter (· ≠ []) := by
      rw [hcommands]
      exact List.mem_append_left _ (List.mem_map_of_mem hstep)
    obtain ⟨piece, hpiece, heq⟩ := List.mem_map.mp (List.mem_filter.mp hmem).1
    rw [← heq]
    exact (hline.piece (by decide) hpiece).trim
  obtain ⟨hfinal, hresponses⟩ := (executed_chained hsteps).plain htexts hsim
  refine ⟨hfinal, fun text htext => ?_⟩
  unfold joinResponses at htext
  split at htext
  · cases htext
  · cases htext
    exact .join (by decide) hresponses

theorem PlainReachable.textsOneLine {sim : NormaSimulator} (h : PlainReachable sim) :
    sim.TextsOneLine := by
  induction h with
  | new hoptions => exact ⟨hoptions, reset_textsOneLine initial_textsOneLine⟩
  | line hsim hplain hline ih => exact (handleLine_plain hline ih hplain).1
  | signal hsim given ih => exact ⟨ih.options, ih.state⟩

end Answering

end Norma
