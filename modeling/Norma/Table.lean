import Norma.Lib.OptionalNodes
import Norma.SharedPath
import Mathlib.Data.List.Pairwise
import Mathlib.Data.List.Perm.Basic

namespace Norma

open OptionalNodes

def spellings (mnemonic : Text) : List Text :=
  [mnemonic.takeWhile fun c => c.isUpper || c.isDigit, upper mnemonic]

namespace PatternNode

def forms (node : PatternNode) : List Text := node.mnemonics.flatMap spellings

def clash (node other : PatternNode) : Bool := node.forms.any fun form => other.forms.contains form

def collected (node : PatternNode) (token : Token) : List Int :=
  if node.suffixed then [token.suffix] else []

theorem mem_forms {node : PatternNode} {token : Token} (h : nodeAccepts node token = true) :
    token.text ∈ node.forms := by
  unfold nodeAccepts at h
  split at h
  · cases h
  · obtain ⟨mnemonic, hmem, hmatch⟩ := List.any_eq_true.mp h
    rw [mnemonicMatches, Bool.or_eq_true, beq_iff_eq, beq_iff_eq] at hmatch
    exact List.mem_flatMap.mpr ⟨mnemonic, hmem, by simpa [spellings] using hmatch⟩

theorem clash_of_accepts (node other : PatternNode) (token : Token)
    (hnode : nodeAccepts node token = true) (hother : nodeAccepts other token = true) :
    node.clash other = true :=
  List.any_eq_true.mpr ⟨token.text, mem_forms hnode, by simpa using mem_forms hother⟩

end PatternNode

abbrev Reads (pattern : List PatternNode) (tokens : List Token) (suffixes : List Int) : Prop :=
  Derives (PatternNode.isOptional · = true) (fun node token => nodeAccepts node token = true)
    PatternNode.collected pattern tokens suffixes

section Match

variable {pattern : List PatternNode} {tokens : List Token} {suffixes found out : List Int}

theorem matchPattern_reads (h : matchPattern pattern tokens suffixes = some found) :
    ∃ out, found = suffixes ++ out ∧ Reads pattern tokens out := by
  induction pattern generalizing tokens suffixes with
  | nil =>
    rw [matchPattern] at h
    split at h
    · next htokens =>
      cases h
      subst htokens
      exact ⟨[], by simp, .done⟩
    · cases h
  | cons node pattern ih =>
    cases tokens with
    | nil =>
      rw [matchPattern] at h
      split at h
      · next homit =>
        obtain ⟨out, hfound, hreads⟩ := ih h
        exact ⟨out, hfound, .absent homit hreads⟩
      · cases h
    | cons token tokens =>
      rw [matchPattern] at h
      split at h
      · next hpresent =>
        cases h
        split at hpresent
        · next haccepts =>
          obtain ⟨out, rfl, hreads⟩ := ih hpresent
          refine ⟨node.collected token ++ out, ?_, .present haccepts hreads⟩
          unfold PatternNode.collected
          split
          · simp
          · simp
        · cases hpresent
      · split at h
        · next homit =>
          obtain ⟨out, hfound, hreads⟩ := ih h
          exact ⟨out, hfound, .absent homit hreads⟩
        · cases h

theorem Reads.matchPattern (h : Reads pattern tokens out) :
    (matchPattern pattern tokens suffixes).isSome = true := by
  induction h generalizing suffixes with
  | done => rfl
  | @present node token pattern tokens out haccepts hrest ih =>
    rw [Norma.matchPattern, if_pos haccepts]
    split
    · rfl
    · next hnone =>
      rw [← Option.not_isSome_iff_eq_none] at hnone
      exact absurd ih hnone
  | @absent node pattern tokens out homissible hrest ih =>
    cases tokens with
    | nil =>
      rw [Norma.matchPattern, if_pos homissible]
      exact ih
    | cons token tokens =>
      rw [Norma.matchPattern, if_pos homissible]
      split
      · rfl
      · exact ih

theorem matchPattern_eq_none :
    matchPattern pattern tokens suffixes = none ↔ ∀ out, ¬ Reads pattern tokens out := by
  constructor
  · intro hnone out hreads
    have hsome : (matchPattern pattern tokens suffixes).isSome = true := hreads.matchPattern
    rw [hnone] at hsome
    cases hsome
  · intro hnone
    cases hmatch : matchPattern pattern tokens suffixes with
    | none => rfl
    | some found =>
      obtain ⟨out, -, hreads⟩ := matchPattern_reads hmatch
      exact absurd hreads (hnone out)

end Match

namespace Handled

variable {a : Access} {first second taken rest : Handled}

theorem declined_orElse :
    first.orElse second = .declined ↔ first = .declined ∧ second = .declined := by
  cases first with
  | declined => simp [orElse]
  | done b => simp [orElse]
  | crashes => simp [orElse]

theorem declined_ite {p : Prop} [Decidable p] (htaken : taken ≠ .declined) :
    (if p then taken else rest) = .declined ↔ ¬ p ∧ rest = .declined := by
  split
  · next hp => simp [hp, htaken]
  · next hp => simp [hp]

theorem ofResult_taken {A : Type} {result : Option A} {body : A → Handled}
    (hbody : ∀ value, body value ≠ .declined) : Handled.ofResult result body ≠ .declined := by
  cases result with
  | none => nofun
  | some value => exact hbody value

theorem readWindow_taken {firstArgument : Nat} {body : Window → Handled}
    (hbody : ∀ window, body window ≠ .declined) : a.readWindow firstArgument body ≠ .declined := by
  unfold Access.readWindow
  split
  · nofun
  · exact hbody _

theorem windowed_taken (source : List Float) (window : Window) (format : Float → Text) :
    a.windowed source window format ≠ .declined :=
  ofResult_taken fun _ => nofun

theorem measured_taken (withStatus : Bool) : a.measured withStatus ≠ .declined :=
  ofResult_taken fun _ => nofun

theorem data_taken (withStatus : Bool) : a.data withStatus ≠ .declined := by
  unfold Access.data
  split
  · nofun
  · split
    · exact measured_taken withStatus
    · unfold Access.readFunctionList
      split
      · nofun
      · split
        · nofun
        · exact measured_taken withStatus

theorem traceFree_taken : a.traceFree ≠ .declined := by
  unfold Access.traceFree
  dsimp only
  split
  · nofun
  · split
    · nofun
    · nofun

theorem transformData_taken : a.transformData ≠ .declined := by
  unfold Access.transformData
  split
  · nofun
  · exact readWindow_taken fun window => windowed_taken _ _ _

theorem trace_taken (status : Bool) (block : Fin 3) : a.trace status block ≠ .declined := by
  unfold Access.trace
  refine readWindow_taken fun window => ofResult_taken fun measurements => ?_
  split
  · exact windowed_taken _ _ _
  · exact windowed_taken _ _ _

theorem traceBlock_taken {body : Fin 3 → Handled} (hbody : ∀ block, body block ≠ .declined) :
    a.traceBlock body ≠ .declined := by
  unfold Access.traceBlock
  split
  · nofun
  · split
    · nofun
    · split
      · nofun
      · exact hbody _

end Handled

section Handlers

open Handled

variable {key : Key} {a : Access}

theorem handleRoute_declined (h : handleRoute key a = .declined) : key ≠ .routSyst := by
  simpa [handleRoute] using h

theorem handleInput_declined (h : handleInput key a = .declined) : key.isInput = false := by
  by_contra hkey
  rw [Bool.not_eq_false] at hkey
  have hmember := hkey
  simp only [Key.isInput, decide_eq_true_eq] at hmember
  simp [handleInput, hkey, declined_ite] at h
  tauto

theorem handleChannel_taken (hkey : (key.isVoltage || key.isCurrent) = true) :
    handleChannel key a ≠ .declined := by
  simp only [Key.isVoltage, Key.isCurrent, Bool.or_eq_true, decide_eq_true_eq] at hkey
  intro h
  simp [handleChannel, declined_ite] at h
  tauto

theorem handleSweep_taken (hkey : key.isSweep = true) : handleSweep key a ≠ .declined := by
  simp only [Key.isSweep, decide_eq_true_eq] at hkey
  intro h
  simp [handleSweep, declined_ite] at h
  tauto

theorem handleSense_declined (h : handleSense key a = .declined) :
    key.isVoltage = false ∧ key.isCurrent = false ∧ key.isSweep = false ∧
      key ∉ ([.aper, .sweFreq, .func, .funcAll, .funcOffAll, .funcConc, .funcCoun, .data,
        .dataStat] : List Key) := by
  by_cases hchannel : (key.isVoltage || key.isCurrent) = true
  · rw [handleSense, if_pos hchannel] at h
    exact absurd h (handleChannel_taken hchannel)
  · rw [handleSense, if_neg hchannel] at h
    simp only [Bool.or_eq_true, not_or, Bool.not_eq_true] at hchannel
    by_cases hsweep : key.isSweep = true
    · simp [declined_ite, data_taken, handleSweep_taken hsweep] at h
      simp [hsweep] at h
    · simpa [declined_ite, data_taken, hsweep, hchannel] using h

theorem handleSync_declined (h : handleSync key a = .declined) :
    key ∉ ([.syncStat, .syncSour, .syncLev, .syncLevUnit, .syncSlop, .syncFiltStat, .syncFiltFreq,
      .syncTim] : List Key) := by
  simpa [handleSync, declined_ite] using h

theorem handleAcquisition_declined (h : handleAcquisition key a = .declined) :
    key ∉ ([.initCont, .init, .initSeq, .initName, .abor] : List Key) := by
  simpa [handleAcquisition, declined_ite, and_assoc] using h

theorem handleTrigger_declined (h : handleTrigger key a = .declined) :
    key ∉ ([.trigStarSour, .trigStopSour, .trigStarLev, .trigStopLev, .trigStarSlop,
      .trigStopSlop, .trigStarTime, .trigStopTime] : List Key) := by
  simpa [handleTrigger, declined_ite] using h

theorem handleCalculate_declined (h : handleCalculate key a = .declined) :
    key ∉ ([.calcTranFreqStat, .calcTranFreqMode, .calcTranFreqFunc, .calcTranFreqStar,
      .calcTranFreqStop, .calcTranFreqCycl, .calcTranFreqGro, .calcData, .calcDataPre,
      .calcDataThd, .calcIntStat, .calcIntFunc, .calcIntCle, .calcIntCleAuto, .calcIntStarSour,
      .calcIntStopSour, .calcIntStar, .calcIntStop, .calcIntStarTime, .calcIntStopTime,
      .calcIntStopTint, .calcHarmOrd, .calcPowCorr, .calcPowEffRef] : List Key) := by
  simpa [handleCalculate, declined_ite, transformData_taken, and_assoc] using h

theorem handleTrace_declined (h : handleTrace key a = .declined) :
    key ∉ ([.tracFree, .tracCatLen, .tracDelAll, .tracPre, .trac, .tracStat] : List Key) := by
  have hblock : a.traceBlock (fun block =>
      if key = .tracPre then .done (a.tracePreamble block)
      else a.trace (key = .tracStat) block) ≠ .declined := by
    refine traceBlock_taken fun block => ?_
    split
    · nofun
    · exact trace_taken _ _
  have hdata : (if (!a.command.query) = true then Handled.done (a.queryOnly a) else
      a.traceBlock fun block => if key = .tracPre then .done (a.tracePreamble block)
        else a.trace (key = .tracStat) block) ≠ .declined := by
    split
    · nofun
    · exact hblock
  have hdone (b : Access) : Handled.done b ≠ .declined := nofun
  rw [handleTrace, declined_ite traceFree_taken, declined_ite (hdone _), declined_ite (hdone _),
    declined_ite hdata] at h
  simpa using h

theorem handleFormat_declined (h : handleFormat key a = .declined) :
    key ∉ ([.form, .formStat, .formBord, .formTran] : List Key) := by
  simpa [handleFormat, declined_ite] using h

theorem handleDisplayOutput_declined (h : handleDisplayOutput key a = .declined) :
    key ∉ ([.dispStat, .dispUserFunc, .outpStat] : List Key) := by
  simpa [handleDisplayOutput, declined_ite] using h

theorem handleSystem_declined (h : handleSystem key a = .declined) :
    key ∉ ([.systVers, .systErr, .systErrAll, .systKloc, .systLang, .systDate, .systTime,
      .systCommGpibAddr, .systCommSerBaud] : List Key) := by
  simpa [handleSystem, declined_ite] using h

theorem handleStatus_declined (h : handleStatus key a = .declined) : statusTarget key = none := by
  unfold handleStatus at h
  split at h
  · next hnone => exact hnone
  · cases h

theorem handleTimer_declined (h : handleTimer key a = .declined) :
    key ∉ ([.timRes, .timResTime, .timResAuto] : List Key) := by
  simpa [handleTimer, declined_ite] using h

theorem dispatch_handled (key : Key) (a : Access) : dispatch key a ≠ .declined := by
  intro h
  simp only [dispatch, declined_orElse] at h
  obtain ⟨hroute, hinput, hsense, hsync, hacquisition, htrigger, hcalculate, htrace, hformat,
    hdisplay, hsystem, hstatus, htimer⟩ := h
  replace hroute := handleRoute_declined hroute
  replace hinput := handleInput_declined hinput
  replace hsense := handleSense_declined hsense
  replace hsync := handleSync_declined hsync
  replace hacquisition := handleAcquisition_declined hacquisition
  replace htrigger := handleTrigger_declined htrigger
  replace hcalculate := handleCalculate_declined hcalculate
  replace htrace := handleTrace_declined htrace
  replace hformat := handleFormat_declined hformat
  replace hdisplay := handleDisplayOutput_declined hdisplay
  replace hsystem := handleSystem_declined hsystem
  replace hstatus := handleStatus_declined hstatus
  replace htimer := handleTimer_declined htimer
  cases key <;> simp_all [statusTarget, Key.isInput, Key.isVoltage, Key.isCurrent, Key.isSweep]

end Handlers

section Order

def findCommandIn (specs : List CommandSpec) (tokens : List Token) : Option (Key × List Int) :=
  (specs.map fun spec => (spec.key, compilePattern spec.pattern)).findSome? fun (key, pattern) =>
    (matchPattern pattern tokens []).map fun suffixes => (key, suffixes)

def handleTreeIn (specs : List CommandSpec) (sim : NormaSimulator) (path : List Token)
    (text : Text) (p : Parsed) : Option Outcome :=
  let tokens := headerTokens path p.header
  match findCommandIn specs tokens with
  | none => some (undefinedHeader sim tokens.dropLast text)
  | some (key, suffixes) =>
      (execute key ⟨sim, p.command tokens key.text suffixes⟩).map (·.outcome tokens.dropLast)

def handleCommandIn (specs : List CommandSpec) (sim : NormaSimulator) (path : List Token)
    (text : Text) : Option Outcome :=
  let p := parseCommand text
  if p.header.head? = some '*' then handleStar sim path text p
  else handleTreeIn specs sim path text p

def handlePiecesIn (specs : List CommandSpec) (sim : NormaSimulator) (path : List Token) :
    List Text → Option (NormaSimulator × List Text)
  | [] => some (sim, [])
  | piece :: pieces =>
      if trim piece = [] then handlePiecesIn specs sim path pieces
      else
        match handleCommandIn specs sim path (trim piece) with
        | none => none
        | some out =>
            if out.stop then some (out.sim, out.response.toList)
            else
              (handlePiecesIn specs out.sim out.path pieces).map fun (sim, responses) =>
                (sim, out.response.toList ++ responses)

def handleLineIn (specs : List CommandSpec) (sim : NormaSimulator) (line : Text) :
    Option (NormaSimulator × Option Text) :=
  (handlePiecesIn specs sim [] (splitUnquoted line ';')).map fun (sim, responses) =>
    (sim, joinResponses responses)

variable {specs : List CommandSpec}

theorem findSome?_perm {A B : Type} {f : A → Option B} {l l' : List A} (hperm : l.Perm l')
    (hone : l.Pairwise fun a b => f a = none ∨ f b = none) : l.findSome? f = l'.findSome? f := by
  induction hperm with
  | nil => rfl
  | cons a hperm ih => rw [List.findSome?_cons, List.findSome?_cons, ih hone.of_cons]
  | swap a b l =>
    have hab := List.rel_of_pairwise_cons hone List.mem_cons_self
    rcases hab with h | h
    · simp [List.findSome?_cons, h]
    · simp [List.findSome?_cons, h]
  | trans hfirst hsecond ihfirst ihsecond =>
    have hsymm {a b : A} (h : f a = none ∨ f b = none) : f b = none ∨ f a = none := h.symm
    rw [ihfirst hone, ihsecond (hfirst.pairwise hone hsymm)]

section Rows

variable {row row' : Key × List PatternNode} {tokens : List Token} {suffixes suffixes' : List Int}

theorem rows_apart : compiledSpecs.Pairwise fun row row' =>
    apart PatternNode.isOptional PatternNode.clash row.2 row'.2 = true := by
  decide +kernel

theorem rows_unambiguous : ∀ row ∈ compiledSpecs,
    unambiguous PatternNode.isOptional PatternNode.clash row.2 = true := by
  decide +kernel

theorem reads_unique (hrow : row ∈ compiledSpecs) (h : Reads row.2 tokens suffixes)
    (h' : Reads row.2 tokens suffixes') : suffixes = suffixes' :=
  unambiguous_sound PatternNode.clash_of_accepts (rows_unambiguous row hrow) h h'

def Exclusive (row row' : Key × List PatternNode) : Prop :=
  ∀ tokens suffixes suffixes', Reads row.2 tokens suffixes → ¬ Reads row'.2 tokens suffixes'

instance : Std.Symm Exclusive where
  symm _ _ h tokens suffixes suffixes' hreads hreads' := h tokens suffixes' suffixes hreads' hreads

theorem rows_exclusive : compiledSpecs.Pairwise Exclusive :=
  List.Pairwise.imp (fun hapart _ _ _ h => apart_sound PatternNode.clash_of_accepts hapart h)
    rows_apart

theorem reads_row (hrow : row ∈ compiledSpecs) (hrow' : row' ∈ compiledSpecs)
    (h : Reads row.2 tokens suffixes) (h' : Reads row'.2 tokens suffixes') : row = row' := by
  by_contra hne
  exact List.Pairwise.forall rows_exclusive hrow hrow' hne _ _ _ h h'

theorem matchPattern_row (hrow : row ∈ compiledSpecs) :
    matchPattern row.2 tokens [] = some suffixes ↔ Reads row.2 tokens suffixes := by
  constructor
  · intro h
    obtain ⟨out, rfl, hreads⟩ := matchPattern_reads h
    exact hreads
  · intro h
    have hsome : (matchPattern row.2 tokens []).isSome = true := h.matchPattern
    obtain ⟨found, hfound⟩ := Option.isSome_iff_exists.mp hsome
    obtain ⟨out, rfl, hreads⟩ := matchPattern_reads hfound
    rw [hfound, reads_unique hrow h hreads]

end Rows

theorem findCommandIn_perm (hperm : specs.Perm commandSpecs) :
    findCommandIn specs = findCommand := by
  funext tokens
  refine (findSome?_perm (hperm.symm.map _) (List.Pairwise.imp (fun {row row'} h => ?_) rows_exclusive)).symm
  obtain ⟨key, pattern⟩ := row
  obtain ⟨key', pattern'⟩ := row'
  by_cases hrow : matchPattern pattern tokens [] = none
  · exact .inl (Option.map_eq_none_iff.mpr hrow)
  · obtain ⟨suffixes, hmatch⟩ := Option.ne_none_iff_exists'.mp hrow
    obtain ⟨out, -, hreads⟩ := matchPattern_reads hmatch
    have hnone : matchPattern pattern' tokens [] = none :=
      matchPattern_eq_none.mpr fun out' => h tokens out out' hreads
    exact .inr (Option.map_eq_none_iff.mpr hnone)

theorem handleTreeIn_perm (hperm : specs.Perm commandSpecs) (sim : NormaSimulator)
    (path : List Token) (text : Text) (p : Parsed) :
    handleTreeIn specs sim path text p = handleTree sim path text p := by
  cases hfind : findCommand (headerTokens path p.header) with
  | none => simp only [handleTreeIn, handleTree, findCommandIn_perm hperm, hfind]
  | some found => simp only [handleTreeIn, handleTree, findCommandIn_perm hperm, hfind]

theorem handleCommandIn_perm (hperm : specs.Perm commandSpecs) (sim : NormaSimulator)
    (path : List Token) (text : Text) :
    handleCommandIn specs sim path text = handleCommand sim path text := by
  simp only [handleCommandIn, handleCommand, handleTreeIn_perm hperm]

theorem handlePiecesIn_perm (hperm : specs.Perm commandSpecs) (sim : NormaSimulator)
    (path : List Token) (pieces : List Text) :
    handlePiecesIn specs sim path pieces = handlePieces sim path pieces := by
  induction pieces generalizing sim path with
  | nil => rfl
  | cons piece pieces ih =>
    by_cases hblank : trim piece = []
    · simp only [handlePiecesIn, handlePieces, if_pos hblank, ih]
    · cases hout : handleCommand sim path (trim piece) with
      | none =>
        simp only [handlePiecesIn, handlePieces, if_neg hblank, handleCommandIn_perm hperm, hout]
      | some out =>
        simp only [handlePiecesIn, handlePieces, if_neg hblank, handleCommandIn_perm hperm, hout,
          ih]

theorem table_order_irrelevant :
    (∀ tokens, ∀ row ∈ compiledSpecs, ∀ row' ∈ compiledSpecs, ∀ suffixes suffixes',
      Reads row.2 tokens suffixes → Reads row'.2 tokens suffixes' →
        row.1 = row'.1 ∧ suffixes = suffixes') ∧
    (∀ row ∈ compiledSpecs, ∀ tokens suffixes,
      matchPattern row.2 tokens [] = some suffixes ↔ Reads row.2 tokens suffixes) ∧
    (∀ key a, dispatch key a ≠ .declined) ∧
    ∀ specs : List CommandSpec, specs.Perm commandSpecs →
      ∀ (sim : NormaSimulator) line, handleLineIn specs sim line = sim.handleLine line := by
  refine ⟨?_, fun row hrow tokens suffixes => matchPattern_row hrow, dispatch_handled, ?_⟩
  · intro tokens row hrow row' hrow' suffixes suffixes' h h'
    obtain rfl := reads_row hrow hrow' h h'
    exact ⟨rfl, reads_unique hrow h h'⟩
  · intro specs hperm sim line
    rw [handleLineIn, NormaSimulator.handleLine, handlePiecesIn_perm hperm]

theorem reversed_table :
    handleLineIn commandSpecs.reverse (NormaSimulator.new {}) "SENS:VOLT1:RANG:UPP?" =
      (NormaSimulator.new {}).handleLine "SENS:VOLT1:RANG:UPP?" :=
  table_order_irrelevant.2.2.2 _ (List.reverse_perm _) _ _

end Order

end Norma
