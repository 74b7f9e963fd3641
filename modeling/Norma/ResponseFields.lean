import Norma.Client
import Norma.Compound
import Norma.PlainTexts
import Norma.Tidy

namespace Norma

open ScpiClient

-- Each text stands in one field, and each but the last leaves its quotes closed.
structure KeptApart (separator : Char) (texts : List Text) : Prop where
  whole : ∀ text ∈ texts, Whole separator text
  closed : ∀ text ∈ texts.dropLast, quoteAfter text = none

section Fields

variable {separator : Char}

theorem splitUnquoted_join_iff (hsep : isQuote separator = false) {texts : List Text}
    (hne : texts ≠ []) : splitUnquoted (join separator texts) separator = texts ↔
      KeptApart separator texts := by
  constructor
  · intro h
    refine ⟨fun text htext => ?_, fun text htext => ?_⟩
    · rw [← h] at htext
      exact whole_of_mem_splitUnquoted hsep htext
    · rw [← h] at htext
      exact closed_of_mem_splitUnquoted hsep htext
  · intro h
    exact splitUnquoted_join hsep hne h.whole h.closed

theorem dropWhile_filter (text : Text) :
    (text.dropWhile isSpace).filter (!isSpace ·) = text.filter (!isSpace ·) := by
  induction text with
  | nil => rfl
  | cons c text ih =>
    cases hc : isSpace c with
    | true => simpa [hc] using ih
    | false => simp [hc]

theorem trim_filter (text : Text) :
    (trim text).filter (!isSpace ·) = text.filter (!isSpace ·) := by
  rw [trim, List.rdropWhile, List.filter_reverse, dropWhile_filter, List.filter_reverse,
    List.reverse_reverse, dropWhile_filter]

theorem extension_nil (hspace : isSpace separator = false) {field extra tail : Text}
    {rest : List Text} (htrim : trim field = trim (field ++ extra))
    (htail : (rest.map (separator :: ·)).flatten = extra ++ tail) : extra = [] := by
  cases extra with
  | nil => rfl
  | cons c extra =>
    have hc : c = separator := by
      cases rest with
      | nil => simp at htail
      | cons value rest => exact (List.cons.inj htail).1.symm
    have hfilter := congrArg (List.filter (!isSpace ·)) htrim
    rw [trim_filter, trim_filter, List.filter_append] at hfilter
    have hkept := List.append_right_eq_self.mp hfilter.symm
    simp [hc, hspace] at hkept

theorem flatten_injective (hspace : isSpace separator = false) {first second : List Text}
    (htrim : first.map trim = second.map trim)
    (hjoin : (first.map (separator :: ·)).flatten = (second.map (separator :: ·)).flatten) :
    first = second := by
  induction first generalizing second with
  | nil => exact (List.map_eq_nil_iff.mp htrim.symm).symm
  | cons field first ih =>
    cases second with
    | nil => simp at htrim
    | cons field' second =>
      simp only [List.map_cons, List.cons.injEq] at htrim
      simp only [List.map_cons, List.flatten_cons, List.cons_append, List.cons.injEq,
        true_and] at hjoin
      rcases List.append_eq_append_iff.mp hjoin with ⟨extra, rfl, htail⟩ | ⟨extra, rfl, htail⟩
      · obtain rfl := extension_nil hspace htrim.1 htail
        rw [List.append_nil, ih htrim.2 htail]
      · obtain rfl := extension_nil hspace htrim.1.symm htail
        rw [List.append_nil, ih htrim.2 htail.symm]

theorem join_injective (hspace : isSpace separator = false) {first second : List Text}
    (hne : second ≠ []) (htrim : first.map trim = second.map trim)
    (hjoin : join separator first = join separator second) : first = second := by
  refine flatten_injective hspace htrim ?_
  obtain ⟨field', second, rfl⟩ := List.exists_cons_of_ne_nil hne
  obtain ⟨field, first, rfl⟩ := List.exists_cons_of_ne_nil (show first ≠ [] by
    rintro rfl
    simp at htrim)
  rw [join_cons, join_cons] at hjoin
  rw [List.map_cons, List.map_cons, List.flatten_cons, List.flatten_cons, List.cons_append,
    List.cons_append, hjoin]

theorem mem_join {texts : List Text} (hmany : 1 < texts.length) :
    separator ∈ join separator texts := by
  match texts with
  | first :: second :: rest =>
    rw [join_cons]
    simp

theorem splitFields_join_iff (hsep : isQuote separator = false)
    (hspace : isSpace separator = false) {texts : List Text} (hne : texts ≠ []) :
    splitFields (join separator texts) separator = texts.map trim ↔
      KeptApart separator texts ∧ ∀ text, texts = [text] → trim text ≠ [] := by
  unfold splitFields
  split
  · next hblank =>
    have hshort : ¬1 < texts.length := fun hmany => by
      obtain ⟨c, hc, -⟩ : ∃ c ∈ trim (join separator texts), c = separator := by
        refine ⟨separator, List.mem_of_mem_filter (p := (!isSpace ·)) ?_, rfl⟩
        rw [trim_filter]
        exact List.mem_filter.mpr ⟨mem_join hmany, by simp [hspace]⟩
      simp [hblank] at hc
    obtain ⟨text, rfl⟩ : ∃ text, texts = [text] := by
      match texts, hne with
      | [text], _ => exact ⟨text, rfl⟩
      | _ :: _ :: _, _ => simp at hshort
    have hjoin : join separator [text] = text := by simp [join]
    rw [hjoin] at hblank
    simp [hblank]
  · next hfields =>
    rw [← splitUnquoted_join_iff hsep hne]
    constructor
    · intro h
      refine ⟨join_injective hspace hne h (join_splitUnquoted _ _), ?_⟩
      rintro text rfl hblank
      exact hfields (by simpa [join] using hblank)
    · rintro ⟨h, -⟩
      rw [h]

theorem keptApart_of_tidy {texts : List Text} (h : ∀ text ∈ texts, Tidy text) :
    KeptApart ';' texts :=
  ⟨fun text htext => (h text htext).whole,
    fun text htext => (h text ((List.dropLast_sublist _).subset htext)).closed⟩

end Fields

section SyncSource

theorem syncSourceOf_plain {text source : Text} (h : syncSourceOf text = some source) :
    Plain source := by
  unfold syncSourceOf at h
  have hnode (voltage : Bool) : Plain (if voltage then "VOLT" else "CURR" : Text) := by
    cases voltage <;> decide
  dsimp only at h
  split at h
  · cases h
    decide
  · split at h
    · cases h
      exact (hnode _).append (.toText _)
    · split at h
      · cases h
        exact (hnode _).append (by decide)
      · cases h

theorem syncSource_of_texts {s t : State} (h : t.texts = s.texts) : t.syncSource = s.syncSource :=
  congrArg (fun texts => texts.1.1) h

theorem Stored.syncSource_plain {a : Access} {state : State} (h : Stored a state)
    (hplain : Plain a.sim.state.syncSource) : Plain state.syncSource := by
  have hsame (htexts : state.texts = a.sim.state.texts) : Plain state.syncSource := by
    rw [syncSource_of_texts htexts]
    exact hplain
  cases h with
  | number hsetting => exact hsame (hsetting.textless _ _)
  | longestSweep block => exact hsame (sweep_textless block (fun _ _ => rfl) _ _)
  | integer hsetting => exact hsame (hsetting.textless _ _)
  | mask hsetting => exact hsame (hsetting.textless _ _)
  | boolean hsetting value => exact hsame (hsetting.textless _ _)
  | keyword hsetting value => exact hsame (hsetting.textless _ _)
  | functionList hsetting => cases hsetting <;> exact hplain
  | range hconfig => exact hsame (hconfig.textless _ _)
  | syncSource hsource => exact syncSourceOf_plain hsource
  | source hsetting => cases hsetting <;> exact hplain
  | sweepState => exact hsame (enableSweep_textless _ _ _)
  | sequence => exact hsame (enableSweep_textless _ _ _)
  | format hpair =>
    exact hsame ((hpair.textless.2 _ _).trans (hpair.textless.1 _ _))
  | _ => exact hplain

theorem pushError_texts (state : State) (code : Int) (message : Text) :
    (state.pushError code message).syncSource = state.syncSource := by
  unfold SimulatorState.pushError
  split <;> rfl

theorem Change.syncSource_plain {a b : Access} (h : Change a b)
    (hplain : Plain a.sim.state.syncSource) : Plain b.sim.state.syncSource := by
  cases h with
  | rejected code message =>
    change Plain (a.sim.state.pushError code message).syncSource
    rw [pushError_texts]
    exact hplain
  | stored hset hstored => exact hstored.syncSource_plain hplain
  | reset => exact show Plain ("VOLT1" : Text) by decide
  | operationComplete =>
    unfold Access.operationComplete
    split <;> exact hplain
  | event reg => cases reg <;> exact hplain
  | nextError =>
    unfold Access.nextError
    split <;> exact hplain
  | allErrors =>
    unfold Access.allErrors
    split <;> exact hplain
  | _ => exact hplain

theorem Move.syncSource_plain (move : Move) (hvalid : move.Valid)
    (hplain : Plain move.before.state.syncSource) : Plain move.after.state.syncSource := by
  cases move with
  | command step =>
    have hchange := handleCommand_change hvalid
    simp only [Move.after]
    generalize step.after = out at hchange
    cases hchange with
    | undefined rest =>
      change Plain (step.before.state.pushError _ _).syncSource
      rw [pushError_texts]
      exact hplain
    | changed rest _ _ _ _ _ _ hchange => exact hchange.syncSource_plain hplain
  | signal sim given => exact hplain

theorem Reachable.syncSource_plain {sim : NormaSimulator} (h : Reachable sim) :
    Plain sim.state.syncSource :=
  h.invariant (fun sim => Plain sim.state.syncSource)
    (fun _ => show Plain ("VOLT1" : Text) by decide) Move.syncSource_plain

end SyncSource

structure NormaSimulator.PlainTexts (sim : NormaSimulator) : Prop where
  options : sim.options.Plain
  state : sim.state.Plain

section Line

variable {sim : NormaSimulator} {line : Text} {steps : List Step}

theorem responses_tidy (hreachable : Reachable sim)
    (hsteps : executed sim [] (splitUnquoted line ';') = some steps)
    (hplain : ∀ step ∈ Answers steps, step.before.PlainTexts) :
    ∀ text ∈ responsesOf steps, Tidy text := by
  intro text htext
  obtain ⟨step, hstep, hresponse⟩ := List.mem_flatMap.mp htext
  have hvalid := executed_valid hsteps step hstep
  have hresponse' : step.after.response = some text := Option.mem_toList.mp hresponse
  have hsome := hvalid.effect.response_isSome
  rw [hresponse'] at hsome
  have hanswers : step ∈ Answers steps := List.mem_filter.mpr ⟨hstep, hsome.symm⟩
  have hlinked := (executed_chained hsteps).linked (show Linked (finalSim sim steps) [] from trivial)
  have hsource := hlinked.invariant (fun sim => Plain sim.state.syncSource) Move.syncSource_plain
    hreachable.syncSource_plain (.command step)
    (List.mem_append_left [] (List.mem_map_of_mem hstep))
  obtain ⟨hoptions, hstate⟩ := hplain step hanswers
  exact handleCommand_tidy ⟨hoptions, hstate, hsource⟩ hvalid hresponse'

theorem responses_taken_apart (hreachable : Reachable sim)
    (hsteps : executed sim [] (splitUnquoted line ';') = some steps) (hanswers : Answers steps ≠ []) :
    ∃ response, sim.handleLine line = some (finalSim sim steps, some response) ∧
      (responsesOf steps).map some = (Answers steps).map (·.after.response) ∧
      (trim response = [] → splitSemicolons response = []) ∧
      (splitSemicolons response = (responsesOf steps).map trim ↔
        KeptApart ';' (responsesOf steps) ∧ ∀ text, responsesOf steps = [text] → trim text ≠ []) ∧
      ((∀ step ∈ Answers steps, step.before.PlainTexts) → KeptApart ';' (responsesOf steps)) := by
  have hall := responsesOf_eq_answers (executed_valid hsteps)
  have hne : responsesOf steps ≠ [] := by
    intro hnil
    rw [hnil, List.map_nil] at hall
    exact hanswers (List.map_eq_nil_iff.mp hall.symm)
  have hline : sim.handleLine line =
      some (finalSim sim steps, some (join ';' (responsesOf steps))) := by
    rw [handleLine_eq, hsteps, Option.map_some, joinResponses, if_neg hne]
  refine ⟨_, hline, hall, fun hblank => if_pos hblank, ?_, fun hplain => ?_⟩
  · exact splitFields_join_iff (by decide) (by decide) hne
  · exact keptApart_of_tidy (responses_tidy hreachable hsteps hplain)

theorem new_plain : (NormaSimulator.new {}).PlainTexts where
  options := {
    manufacturer := by decide +kernel
    model := by decide +kernel
    serialNumber := by decide +kernel
    firmwareVersion := by decide +kernel
    scpiVersion := by decide +kernel
    optionsResponse := by decide +kernel }
  state := {
    triggerStartSource := by decide +kernel
    triggerStopSource := by decide +kernel
    functions := by decide +kernel
    language := by decide +kernel
    efficiencyInput := by decide +kernel
    efficiencyOutput := by decide +kernel
    transformFunctions := by decide +kernel
    integralFunctions := by decide +kernel
    displayFunctions := by decide +kernel
    sweep := by decide +kernel
    errors := by decide +kernel }

theorem options_taken_apart : ∃ response,
    (NormaSimulator.new {}).handleLine "*OPT?;*OPC?" = some (.new {}, some response) ∧
      splitSemicolons response = [("PP54,PI1" : Text), ("1" : Text)] := by
  have hsteps : executed (.new {}) [] (splitUnquoted "*OPT?;*OPC?" ';') = some
      [⟨.new {}, [], "*OPT?", ⟨.new {}, [], some "PP54,PI1", false⟩⟩,
        ⟨.new {}, [], "*OPC?", ⟨.new {}, [], some "1", false⟩⟩] := rfl
  obtain ⟨response, hline, -, -, hfields, hplain⟩ :=
    responses_taken_apart (.new {}) hsteps (by decide)
  have hkept := hplain fun step hstep => by
    have hmem := List.mem_of_mem_filter hstep
    simp only [List.mem_cons, List.not_mem_nil, or_false] at hmem
    rcases hmem with rfl | rfl
    · exact new_plain
    · exact new_plain
  refine ⟨response, hline, (hfields.mpr ⟨hkept, fun text htext => ?_⟩).trans (by decide +kernel)⟩
  cases htext

theorem executed_data : executed (.new {}) [] (splitUnquoted "DATA?" ';') = some
    [⟨.new {}, [], "DATA?", ⟨.new {}, [], some [], false⟩⟩] := by
  have hparse : parseCommand "DATA?" = ⟨"DATA", true, []⟩ := by decide +kernel
  have hstar : ("DATA" : Text).head? ≠ some '*' := by decide
  have hfind : findCommand (headerTokens [] "DATA") = some (.data, []) := by decide +kernel
  have hout : handleCommand (.new {}) [] "DATA?" = some ⟨.new {}, [], some [], false⟩ :=
    (handleCommand_found hparse hstar hfind).trans rfl
  have hsplit : splitUnquoted "DATA?" ';' = [("DATA?" : Text)] := by decide +kernel
  have htrim : trim "DATA?" = "DATA?" := by decide +kernel
  rw [← htrim] at hout
  rw [hsplit, executed_last (by rw [htrim]; decide) hout rfl, htrim]

theorem empty_response_no_field : ¬∀ sim, Reachable sim → ∀ line steps,
    executed sim [] (splitUnquoted line ';') = some steps → Answers steps ≠ [] →
      ∃ after response, sim.handleLine line = some (after, some response) ∧
        splitSemicolons response = (responsesOf steps).map trim := by
  intro h
  obtain ⟨after, response, hline, hfields⟩ :=
    h _ (.new {}) "DATA?" _ executed_data (by decide +kernel)
  have hempty : (NormaSimulator.new {}).handleLine "DATA?" = some (.new {}, some []) := by
    rw [handleLine_eq, executed_data]
    rfl
  have hresponse : ([] : Text) = response := by
    have hpair := Option.some.inj (hempty.symm.trans hline)
    exact Option.some.inj (congrArg Prod.snd hpair)
  rw [← hresponse] at hfields
  exact absurd hfields (by decide +kernel)

end Line

end Norma
