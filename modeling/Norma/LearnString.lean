import Norma.ApertureText
import Norma.ErrorFifo
import Norma.LetterCount
import Norma.MeasurementsView

namespace Norma

open ErrorCode

def learned (state : State) : Text :=
  "FUNC " ++ quoteJoin state.functions ++ ";APER " ++ formatSetting state.aperture

-- What the first simulator reports, sent to the second one as a command line, queues no error
-- and leaves the second one with the functions of the first and with an aperture that is
-- reported with the same digits.
def Restores (s t : NormaSimulator) : Prop :=
  ∃ content steps after response,
    s.handleLine "*LRN?" = some (s, some (quote content)) ∧
    executed t [] (splitUnquoted content ';') = some steps ∧
    t.handleLine content = some (after, response) ∧
    (∀ step ∈ steps, step.reported = none) ∧
    after.state.functions = s.state.functions ∧
    formatSetting after.state.aperture = formatSetting s.state.aperture

-- Between quotes the name is one field: the quotes it has itself come in pairs, and no comma or
-- semicolon stands outside them.
structure Intact (name : Text) : Prop where
  semicolon : Whole ';' (quote name)
  comma : Whole ',' (quote name)
  closed : quoteAfter (quote name) = none

theorem Intact.of_notMem {name : Text} (h : '"' ∉ name) : Intact name :=
  ⟨whole_quote h, whole_quote h, quoteAfter_quote h⟩

theorem handleLine_learn (sim : NormaSimulator) :
    sim.handleLine "*LRN?" = some (sim, some (quote (learned sim.state))) := by
  have hdone (a : Access) : handleCommon "*LRN" a = .done (a.queryOnly a.learn) := rfl
  have hkey : commandKey [] "*LRN?" = "*LRN" := by decide +kernel
  have hquery : (parseCommand "*LRN?").query = true := by decide +kernel
  obtain ⟨command, hcommand, hout⟩ := handleCommand_common sim hdone rfl hkey
  rw [hquery] at hcommand
  rw [Access.queryOnly, if_pos hcommand] at hout
  exact handleLine_single (by decide) (by decide) (by decide) (by decide) hout

section FirstPiece

variable {t : NormaSimulator} {names : List Text} {aperture : Float}

theorem handleCommand_functions (t : NormaSimulator) (piece : Text) :
    handleCommand t [] (trim ("FUNC" ++ ' ' :: piece)) =
      some ((FunctionList.measured.store
        (received t ⟨"FUNC", false, argumentsOf piece⟩ .func [])).outcome []) := by
  have hmem : (("FUNC" : Text), Key.func, ([] : List Int)) ∈ knownHeaders :=
    FunctionList.measured.known_mem
  have hpath : (headerTokens [] "FUNC").dropLast = [] := by decide +kernel
  have hexecute := FunctionList.measured.execute_known
    (a := received t ⟨"FUNC", false, argumentsOf piece⟩ .func []) rfl
  have hcommand := handleCommand_setting hmem t piece
  rw [hpath] at hcommand
  rw [hcommand]
  exact congrArg (Option.map (·.outcome [])) hexecute

theorem store_passes {a : Access} (hset : a.command.query = false)
    (hfailed : (FunctionList.measured.store a).command.failed = false) :
    ∃ names, names ≠ [] ∧ readFunctions a.command.args = .ok names ∧
      (a.sim.state.concurrent = true ∨ names.length ≤ 1) ∧
      FunctionList.measured.store a = a.assign .functions names := by
  rw [FunctionList.store, if_neg (by simp [hset]), Access.readFunctionList] at hfailed ⊢
  split at hfailed
  · cases hfailed
  · next hargs =>
    rw [if_neg hargs]
    cases hread : readFunctions a.command.args with
    | error raw =>
      rw [hread] at hfailed
      cases hfailed
    | ok names =>
      rw [hread] at hfailed
      dsimp only at hfailed ⊢
      split at hfailed
      · cases hfailed
      · next hroom =>
        rw [if_neg hroom]
        refine ⟨names, readFunctions_ne_nil hargs hread, rfl, ?_, rfl⟩
        simpa [FunctionList.conflicts, or_iff_not_imp_left] using hroom

end FirstPiece

section Fields

variable {field : Text}

theorem argumentsOf_plainField (h : PlainField field) : argumentsOf field = [field] := by
  have htrim := trim_of_spaceless h.spaceless
  have hwhole : Whole ',' field := h.unquoted.whole_iff.mpr h.comma
  rw [argumentsOf, htrim, if_neg h.nonempty, hwhole.split, List.map_singleton, htrim]

theorem unquote_plainField (h : PlainField field) : unquote field = field := by
  rw [unquote, trim_of_spaceless h.spaceless]
  refine if_neg ?_
  rintro ⟨-, hhead, -⟩
  have hquote : ∃ c ∈ field, isQuote c = true := by
    rcases hhead with hhead | hhead
    · exact ⟨_, List.mem_of_head? hhead, rfl⟩
    · exact ⟨_, List.mem_of_head? hhead, rfl⟩
  obtain ⟨c, hc, hquoted⟩ := hquote
  rw [h.unquoted c hc] at hquoted
  cases hquoted

end Fields

section Sent

variable {s t : NormaSimulator} {names : List Text}

theorem argumentsOf_intact (hne : names ≠ []) (hintact : ∀ name ∈ names, Intact name) :
    argumentsOf (quoteJoin names) = names.map quote := by
  obtain ⟨inner, hinner⟩ := quoteJoin_ends hne
  have hblank : quoteJoin names ≠ [] := by simp [hinner, quote]
  have hsplit := splitUnquoted_closed hne fun name hname =>
    ⟨(hintact name hname).comma, (hintact name hname).closed⟩
  rw [argumentsOf, trim_quoteJoin hne, if_neg hblank, hsplit, List.map_map]
  exact List.map_congr_left fun name _ => trim_quote name

theorem learned_eq (state : State) : learned state = "FUNC" ++ ' ' ::
    (quoteJoin state.functions ++ ';' :: ("APER" ++ ' ' :: formatSetting state.aperture)) := by
  simp only [learned, List.append_assoc]
  rfl

theorem split_learned {state : State} (hintact : ∀ name ∈ state.functions, Intact name) :
    splitUnquoted (learned state) ';' =
      [("FUNC" : Text) ++ ' ' :: quoteJoin state.functions,
        ("APER" : Text) ++ ' ' :: formatSetting state.aperture] := by
  have hcomma : ';' ≠ ',' := by decide
  obtain ⟨hwhole, hclosed⟩ := quoteJoin_closed hcomma fun name hname =>
    ⟨(hintact name hname).semicolon, (hintact name hname).closed⟩
  have haperture : PlainField (formatSetting state.aperture) := plainField_formatSetting _
  have hsetting : Unquoted ("APER" ++ ' ' :: formatSetting state.aperture) :=
    Unquoted.append (by decide) (List.forall_mem_cons.mpr ⟨rfl, haperture.unquoted⟩)
  have hsemicolon : ';' ∉ "APER" ++ ' ' :: formatSetting state.aperture := by
    have hvalue : ';' ∉ formatSetting state.aperture := fun hmem => by
      cases formatSetting_chars _ _ hmem
    have hheader : ';' ∉ ("APER" : Text) := by decide
    simpa [hheader] using hvalue
  rw [learned_eq]
  refine split_parameters (by decide) (by decide) ?_
  have hlast : Whole ';' ("APER" ++ ' ' :: formatSetting state.aperture) :=
    hsetting.whole_iff.mpr hsemicolon
  rw [splitUnquoted_append (by decide) hclosed, hwhole.split, hlast.split]
  rfl

theorem executed_learned {state : State} (hne : state.functions ≠ [])
    (hupper : ∀ name ∈ state.functions, upper name = name)
    (hroom : t.state.concurrent = true ∨ state.functions.length = 1)
    (hintact : ∀ name ∈ state.functions, Intact name) {y : Float}
    (hparse : parseNumber (formatSetting state.aperture) = some y)
    (hrange : ¬(y < kMinAperture ∨ kMaxAperture < y)) :
    ∃ steps, executed t [] (splitUnquoted (learned state) ';') = some steps ∧
      (∀ step ∈ steps, step.after.stop = false) ∧
      (finalSim t steps).state.functions = state.functions ∧
      (finalSim t steps).state.aperture = y := by
  have hargs := argumentsOf_intact hne hintact
  have hnames : state.functions.map upper = state.functions :=
    (List.map_congr_left hupper).trans (List.map_id _)
  have hallowed : FunctionList.measured.conflicts t.state (state.functions.map upper) = false := by
    rcases hroom with hon | hone
    · simp [FunctionList.conflicts, hon]
    · simp [FunctionList.conflicts, hone]
  have hfirst := handleCommand_functions t (quoteJoin state.functions)
  rw [FunctionList.store_setting .measured rfl hne hargs hallowed, hnames] at hfirst
  have hplain := plainField_formatSetting state.aperture
  have hhead : parseCommand "APER" = ⟨"APER", false, []⟩ := by decide +kernel
  have hparsed := parseCommand_trim (by decide) (by decide) (by decide) (congrArg Parsed.args hhead)
    (formatSetting state.aperture)
  rw [hhead, argumentsOf_plainField hplain] at hparsed
  obtain ⟨path, hsecond⟩ := handleCommand_aperture
    (FunctionList.measured.stored t state.functions) hparsed hplain.nonempty
    (by rw [unquote_plainField hplain, hparse]) hrange
  have hfunctions : trim ("FUNC" ++ ' ' :: quoteJoin state.functions) ≠ [] :=
    trim_cons_ne_nil rfl _
  have haperture : trim ("APER" ++ ' ' :: formatSetting state.aperture) ≠ [] :=
    trim_cons_ne_nil rfl _
  have hrest := executed_last haperture hsecond rfl
  rw [split_learned hintact, executed_cons hfunctions hfirst rfl]
  refine ⟨_, congrArg (Option.map _) hrest, ?_, rfl, rfl⟩
  simp only [List.forall_mem_cons, List.not_mem_nil, false_imp_iff, implies_true, and_true]
  rfl

end Sent

section Fields

variable {name text : Text} {names fields read : List Text} {more : Text}

theorem quotes_of_prefix {text : Text} (h : text <+: '"' :: upper text) : ∀ c ∈ text, c = '"' := by
  induction text using List.reverseRecOn with
  | nil => simp
  | append_singleton text c ih =>
    have hupper : '"' :: upper (text ++ [c]) = ('"' :: upper text) ++ [c.toUpper] := by
      rw [upper, List.map_append]
      rfl
    rw [hupper] at h
    have hsame : text ++ [c] = '"' :: upper text := by
      have hlength : (text ++ [c]).length = ('"' :: upper text).length := by simp [upper]
      exact (List.prefix_of_prefix_length_le h (List.prefix_append _ _) hlength.le).eq_of_length
        hlength
    have hquotes := ih (hsame ▸ List.prefix_append text [c])
    intro d hd
    rw [hsame] at hd
    rcases List.mem_cons.mp hd with rfl | hmem
    · rfl
    · obtain ⟨e, he, rfl⟩ := List.mem_map.mp hmem
      rw [hquotes e he]
      rfl

theorem eq_quote_of_prefix {tail : Text} (hlong : 2 ≤ text.length) (htrim : trim text = text)
    (hname : upper (unquote text) = name) (hfront : text <+: quote name ++ tail) :
    text = quote name := by
  rw [unquote, htrim] at hname
  split at hname
  · have hlength : text.length = (quote name).length := by
      rw [← hname]
      simp [quote, upper]
      omega
    exact (List.prefix_of_prefix_length_le hfront (List.prefix_append _ _) hlength.le).eq_of_length
      hlength
  · next hopen =>
    have hpre : text <+: '"' :: upper text := by
      rw [hname]
      refine List.prefix_of_prefix_length_le hfront ⟨'"' :: tail, by simp [quote]⟩ ?_
      rw [← hname]
      simp [upper]
    have hquotes := quotes_of_prefix hpre
    have hne : text ≠ [] := List.ne_nil_of_length_pos (by omega)
    have hhead : text.head? = some '"' := by
      rw [List.head?_eq_some_head hne, hquotes _ (List.head_mem hne)]
    have hlast : text.getLast? = some '"' := by
      rw [List.getLast?_eq_some_getLast hne, hquotes _ (List.getLast_mem hne)]
    exact absurd ⟨hlong, .inl hhead, hlast.trans hhead.symm⟩ hopen

theorem eq_rdropWhile_of_prefix {d : Char} {tail : Text} (hd : isSpace d = false)
    (hfront : text <+: text.rdropWhile isSpace ++ d :: tail) :
    text = text.rdropWhile isSpace := by
  have hsplit : text.rdropWhile isSpace ++ text.rtakeWhile isSpace = text :=
    List.rdropWhile_append_rtakeWhile
  cases hblank : text.rtakeWhile isSpace with
  | nil =>
    rw [hblank, List.append_nil] at hsplit
    exact hsplit.symm
  | cons e blank =>
    have he : isSpace e = true := List.mem_rtakeWhile_imp (hblank ▸ List.mem_cons_self)
    rw [hblank] at hsplit
    have hmore : text.rdropWhile isSpace ++ e :: blank <+:
        text.rdropWhile isSpace ++ d :: tail := by
      rw [hsplit]
      exact hfront
    obtain ⟨rfl, -⟩ := List.cons_prefix_cons.mp ((List.prefix_append_right_inj _).mp hmore)
    rw [he] at hd
    cases hd

theorem join_two (first second : Text) (rest : List Text) :
    join ',' (first :: second :: rest) = first ++ ',' :: join ',' (second :: rest) := by
  simp [join, List.intercalate_cons_of_ne_nil]

theorem field_of_name {d : Char} {tail field : Text} (hd : isSpace d = false)
    (hlong : 2 ≤ (trim field).length) (hname : upper (unquote (trim field)) = name)
    (hfront : field <+: quote name ++ d :: tail) : field = quote name := by
  obtain ⟨c, rest, rfl⟩ : ∃ c rest, field = c :: rest := by
    cases field with
    | nil => exact absurd hlong (by decide)
    | cons c rest => exact ⟨c, rest, rfl⟩
  obtain ⟨rfl, -⟩ := List.cons_prefix_cons.mp hfront
  have htrim : trim ('"' :: rest) = ('"' :: rest).rdropWhile isSpace := trim_of_head rfl rest
  have hkept : trim ('"' :: rest) <+: quote name ++ d :: tail := by
    rw [htrim]
    exact (List.rdropWhile_prefix _ _).trans hfront
  have hquote := eq_quote_of_prefix hlong (trim_trim _) hname hkept
  have hwhole : '"' :: rest = ('"' :: rest).rdropWhile isSpace :=
    eq_rdropWhile_of_prefix hd (by rw [← htrim, hquote]; exact hfront)
  rw [hwhole, ← htrim, hquote]

theorem fields_of_names (hne : names ≠ []) (hread : readFunctions (fields.map trim) = .ok read)
    (hnames : names <+: read) (hfront : join ',' fields <+: quoteJoin names ++ ';' :: more) :
    fields = names.map quote := by
  induction names generalizing fields read with
  | nil => exact absurd rfl hne
  | cons name names ih =>
    cases fields with
    | nil =>
      cases hread
      cases List.prefix_nil.mp hnames
    | cons field fields =>
      obtain ⟨hlong, rest, hrest, rfl⟩ := readFunctions_cons hread
      rw [trim_trim] at hlong hnames
      obtain ⟨hname, hothers⟩ := List.cons_prefix_cons.mp hnames
      have hfirst : field <+: join ',' (field :: fields) := by
        rw [join_cons]
        exact List.prefix_append _ _
      by_cases hlast : names = []
      · subst hlast
        have hsingle : quoteJoin [name] = quote name := by simp [quoteJoin, join]
        rw [hsingle] at hfront
        obtain rfl := field_of_name (by decide) hlong hname.symm (hfirst.trans hfront)
        cases fields with
        | nil => rfl
        | cons second fields =>
          rw [join_two, List.prefix_append_right_inj] at hfront
          exact absurd (List.cons_prefix_cons.mp hfront).1 (by decide)
      · rw [quoteJoin_cons name hlast, List.append_assoc, List.cons_append] at hfront
        obtain rfl := field_of_name (by decide) hlong hname.symm (hfirst.trans hfront)
        cases fields with
        | nil =>
          cases hrest
          exact absurd (List.prefix_nil.mp hothers) hlast
        | cons second fields =>
          rw [join_two, List.prefix_append_right_inj] at hfront
          rw [ih hlast hrest hothers (List.cons_prefix_cons.mp hfront).2, List.map_cons]

theorem intact_of_split (hfields : splitUnquoted (quoteJoin names) ',' = names.map quote)
    (hwhole : Whole ';' (quoteJoin names)) (hclosed : quoteAfter (quoteJoin names) = none) :
    ∀ name ∈ names, Intact name := by
  intro name hname
  have hmem : quote name ∈ splitUnquoted (quoteJoin names) ',' := by
    rw [hfields]
    exact List.mem_map_of_mem hname
  obtain ⟨front, back, hparts, hfront⟩ := front_of_mem_splitUnquoted rfl hmem
  have hfollowed : quote name ∈ (splitUnquoted (quoteJoin names ++ ',' :: []) ',').dropLast := by
    rw [splitUnquoted_append rfl hclosed, List.dropLast_append_of_ne_nil (splitUnquoted_ne_nil _ _)]
    exact List.mem_append_left _ hmem
  refine ⟨?_, whole_of_mem_splitUnquoted rfl hmem, closed_of_mem_splitUnquoted rfl hfollowed⟩
  rw [hparts, Whole.append_iff hfront] at hwhole
  have hpart := hwhole.2
  rw [Whole, Cut.Scanner.whole_append, Bool.and_eq_true] at hpart
  exact hpart.1

theorem intact_of_read {piece : Text} {pieces : List Text} (hne : names ≠ [])
    (hsplit : splitUnquoted (quoteJoin names ++ ';' :: more) ';' = piece :: pieces)
    (hread : readFunctions (argumentsOf piece) = .ok read) (hnames : names <+: read) :
    ∀ name ∈ names, Intact name := by
  have hfront : piece <+: quoteJoin names ++ ';' :: more := by
    have hfirst : splitUnquoted (quoteJoin names ++ ';' :: more) ';' = [] ++ piece :: pieces :=
      hsplit
    simpa [join] using prefix_of_splitUnquoted hfirst
  obtain ⟨inner, hinner⟩ := quoteJoin_ends hne
  have hblank : trim piece ≠ [] := by
    intro hnil
    rw [argumentsOf, if_pos hnil] at hread
    cases hread
    exact hne (List.prefix_nil.mp hnames)
  rw [argumentsOf, if_neg hblank] at hread
  obtain ⟨rest, rfl⟩ : ∃ rest, piece = '"' :: rest := by
    cases piece with
    | nil => exact absurd rfl hblank
    | cons c rest =>
      have hhead := hfront
      rw [hinner] at hhead
      obtain ⟨rfl, -⟩ := List.cons_prefix_cons.mp hhead
      exact ⟨rest, rfl⟩
  have htrim : trim ('"' :: rest) = ('"' :: rest).rdropWhile isSpace := trim_of_head rfl rest
  have hkept : trim ('"' :: rest) <+: quoteJoin names ++ ';' :: more := by
    rw [htrim]
    exact (List.rdropWhile_prefix _ _).trans hfront
  have hfields := fields_of_names hne hread hnames (by rwa [join_splitUnquoted])
  have hlist : trim ('"' :: rest) = quoteJoin names := by
    rw [← join_splitUnquoted (trim ('"' :: rest)) ',', hfields]
    rfl
  have hwhole : '"' :: rest = ('"' :: rest).rdropWhile isSpace :=
    eq_rdropWhile_of_prefix (d := ';') rfl (by rw [← htrim, hlist]; exact hfront)
  rw [hlist] at hfields
  rw [hwhole, ← htrim, hlist] at hsplit
  have hmore : pieces ≠ [] := by
    rintro rfl
    have hlength := congrArg List.length (join_splitUnquoted (quoteJoin names ++ ';' :: more) ';')
    rw [hsplit] at hlength
    simp [join] at hlength
  have hmem : quoteJoin names ∈ (splitUnquoted (quoteJoin names ++ ';' :: more) ';').dropLast := by
    rw [hsplit, List.dropLast_cons_of_ne_nil hmore]
    exact List.mem_cons_self
  exact intact_of_split hfields
    (whole_of_mem_splitUnquoted rfl (List.dropLast_subset _ hmem))
    (closed_of_mem_splitUnquoted rfl hmem)

end Fields

section Later

variable {names first functions : List Text} {step : Step}

-- What the functions can be once the first command has given its list: names without quotes,
-- the start of that list, or too few letters for the names that were reported.
def Explained (names first functions : List Text) : Prop :=
  (∀ name ∈ functions, '"' ∉ name) ∨ functions <+: first ∨
    ∃ head ∈ listHeads, letterTotal head.2 functions < letterTotal head.2 names

theorem Explained.take (h : Explained names first functions) (n : Nat) :
    Explained names first (functions.take n) := by
  rcases h with hplain | hfirst | ⟨head, hhead, hfew⟩
  · exact .inl fun name hname => hplain name (List.mem_of_mem_take hname)
  · exact .inr (.inl ((List.take_prefix n functions).trans hfirst))
  · refine .inr (.inr ⟨head, hhead, ?_⟩)
    exact lt_of_le_of_lt (letterTotal_sublist head.2 (List.take_sublist n functions)) hfew

theorem Step.Valid.explained (h : step.Valid)
    (hs : Explained names first step.before.state.functions)
    (hbudget : ∀ head ∈ listHeads, tokenTotal head.2 step.path + letterCount head.2 step.text ≤
      letterTotal head.2 names) :
    Explained names first step.after.sim.state.functions := by
  have hshort {key : Key} {letter : Char} {given : List Text} (hhead : (key, letter) ∈ listHeads)
      (hkey : step.key = key.text)
      (hread : readFunctions (parseCommand step.text).args = .ok given) :
      Explained names first given :=
    .inr (.inr ⟨_, hhead, lt_of_lt_of_le (letterTotal_lt hhead hkey hread) (hbudget _ hhead)⟩)
  rcases h.switched with hmodes | ⟨a, ha, hswitched⟩
  · simp only [SimulatorState.modes, Prod.mk.injEq] at hmodes
    rw [hmodes.1]
    exact hs
  · rw [← ha.sim] at hs
    generalize step.after.sim.state = after at hswitched ⊢
    cases hswitched with
    | requested hquery hread hkey =>
      rw [ha.args] at hread
      rw [ha.key] at hkey
      rcases hkey with hkey | hkey
      · exact hshort (by decide : (Key.data, 'T') ∈ listHeads) hkey hread
      · exact hshort (by decide : (Key.dataStat, 'T') ∈ listHeads) hkey hread
    | functions hset hkey hread hroom =>
      rw [ha.args] at hread
      rw [ha.key] at hkey
      exact hshort (by decide : (Key.func, 'F') ∈ listHeads) hkey hread
    | allFunctions hset hkey =>
      have hplain : ∀ name ∈ Norma.allFunctions, '"' ∉ name := by decide
      exact .inl hplain
    | noFunctions => exact .inl fun name hname => absurd hname List.not_mem_nil
    | oneFunction => exact hs.take 1
    | reset hkey hset => exact .inl fun name hname => absurd hname List.not_mem_nil
    | format hset hpair => cases hpair <;> exact hs
    | _ => exact hs

theorem executed_explained {sim : NormaSimulator} {path : List Token} {pieces : List Text}
    {steps : List Step} (h : executed sim path pieces = some steps)
    (hs : Explained names first sim.state.functions)
    (hbudget : ∀ head ∈ listHeads, tokenTotal head.2 path + letterTotal head.2 pieces ≤
      letterTotal head.2 names) :
    Explained names first (finalSim sim steps).state.functions := by
  induction pieces generalizing sim path steps with
  | nil =>
    obtain rfl := Option.some.inj h
    exact hs
  | cons piece pieces ih =>
    have hspent (head) (hhead : head ∈ listHeads) := hbudget head hhead
    simp only [letterTotal_cons] at hspent
    rw [executed] at h
    split at h
    · refine ih h hs fun head hhead => ?_
      have hpiece := hspent head hhead
      omega
    · split at h
      · cases h
      · next out hout =>
        let step : Step := ⟨sim, path, trim piece, out⟩
        have hvalid : step.Valid := hout
        have hstep := hvalid.explained hs fun head hhead => by
          have hpiece := hspent head hhead
          have htrim := letterCount_trim head.2 piece
          change tokenTotal head.2 path + letterCount head.2 (trim piece) ≤ _
          omega
        split at h
        · obtain rfl := Option.some.inj h
          exact hstep
        · obtain ⟨rest, hrest, rfl⟩ := Option.map_eq_some_iff.mp h
          rw [finalSim_cons]
          refine ih hrest hstep fun head hhead => ?_
          have hpiece := hspent head hhead
          have htrim := letterCount_trim head.2 piece
          have hpath := tokenTotal_path (listHeads_rows head hhead).1 hout
          omega

end Later

section Restore

variable {s t : NormaSimulator}

theorem letterCount_aperture {x : Float} (h : Unrejected kMinAperture kMaxAperture x) :
    ∀ head ∈ listHeads, letterCount head.2 ("APER" ++ ' ' :: formatSetting x) = 0 := by
  intro head hhead
  have hheader : ("APER" : Text).all hasNoHeadLetter = true := by decide
  have hchars : ∀ c ∈ "APER" ++ ' ' :: formatSetting x, hasNoHeadLetter c = true :=
    List.forall_mem_append.mpr
      ⟨List.all_eq_true.mp hheader, List.forall_mem_cons.mpr ⟨rfl, aperture_noHeadLetter h⟩⟩
  have hnone (letter : Char) (hletter : letter = 'F' ∨ letter = 'T') :
      letterCount letter ("APER" ++ ' ' :: formatSetting x) = 0 := by
    refine List.count_eq_zero.mpr fun hmem => ?_
    obtain ⟨c, hc, hupper⟩ := List.mem_map.mp hmem
    have hchar := hchars c hc
    rw [hasNoHeadLetter, Bool.and_eq_true, bne_iff_ne, bne_iff_ne] at hchar
    rcases hletter with rfl | rfl
    · exact hchar.1 hupper
    · exact hchar.2 hupper
  have hletters : ∀ head ∈ listHeads, head.2 = 'F' ∨ head.2 = 'T' := by decide
  exact hnone head.2 (hletters head hhead)

theorem executed_first {piece : Text} {pieces : List Text} {steps : List Step}
    (h : executed t [] (("FUNC" ++ ' ' :: piece) :: pieces) = some steps)
    (hquiet : ∀ step ∈ steps, step.reported = none) :
    ∃ read rest, read ≠ [] ∧ readFunctions (argumentsOf piece) = .ok read ∧
      (t.state.concurrent = true ∨ read.length ≤ 1) ∧
      executed (FunctionList.measured.stored t read) [] pieces = some rest ∧
      finalSim t steps = finalSim (FunctionList.measured.stored t read) rest := by
  let a := received t ⟨"FUNC", false, argumentsOf piece⟩ .func []
  have hpiece : trim ("FUNC" ++ ' ' :: piece) ≠ [] := trim_cons_ne_nil rfl _
  have hfirst := handleCommand_functions t piece
  cases hfailed : (FunctionList.measured.store a).command.failed with
  | true =>
    have hsteps := Option.some.inj ((executed_stop hpiece hfirst hfailed pieces).symm.trans h)
    have hnone := hquiet _ (hsteps ▸ List.mem_cons_self)
    have hvalid : Step.Valid ⟨t, [], _, _⟩ := hfirst
    rcases hvalid.reported with ⟨entry, hentry, -⟩ | ⟨-, hgo⟩
    · cases hnone.symm.trans hentry
    · cases hfailed.symm.trans hgo
  | false =>
    obtain ⟨read, hne, hread, hroom, hstore⟩ := store_passes rfl hfailed
    rw [hstore] at hfirst
    rw [executed_cons hpiece hfirst rfl] at h
    obtain ⟨rest, hrest, rfl⟩ := Option.map_eq_some_iff.mp h
    exact ⟨read, rest, hne, hread, hroom, hrest, finalSim_cons _ _ _⟩

theorem Restores.intact (hs : Reachable s) (h : Restores s t) :
    ∃ piece pieces read, splitUnquoted (learned s.state) ';' = ("FUNC" ++ ' ' :: piece) :: pieces ∧
      readFunctions (argumentsOf piece) = .ok read ∧ read ≠ [] ∧
      (t.state.concurrent = true ∨ read.length ≤ 1) ∧
      ∀ name ∈ s.state.functions, Intact name := by
  obtain ⟨content, steps, after, response, hlearn, hexecuted, hline, hquiet, hfunctions, -⟩ := h
  obtain rfl : learned s.state = content := by
    have hpair := Option.some.inj ((handleLine_learn s).symm.trans hlearn)
    have hquote := congrArg unquote (Option.some.inj (congrArg Prod.snd hpair))
    rwa [unquote_quote, unquote_quote] at hquote
  obtain ⟨piece, pieces, hsplit⟩ := List.exists_cons_of_ne_nil (splitUnquoted_ne_nil
    (quoteJoin s.state.functions ++ ';' :: ("APER" ++ ' ' :: formatSetting s.state.aperture)) ';')
  have hpieces : splitUnquoted (learned s.state) ';' = ("FUNC" ++ ' ' :: piece) :: pieces := by
    rw [learned_eq]
    exact split_parameters (by decide) (by decide) hsplit
  have hfinal : finalSim t steps = after := by
    rw [handleLine_eq, hexecuted] at hline
    exact congrArg Prod.fst (Option.some.inj hline)
  rw [hpieces] at hexecuted
  obtain ⟨read, rest, hne, hread, hroom, hrest, hlast⟩ := executed_first hexecuted hquiet
  refine ⟨piece, pieces, read, hpieces, hread, hne, hroom, ?_⟩
  have hstart : Explained s.state.functions read
      (FunctionList.measured.stored t read).state.functions :=
    .inr (.inl List.prefix_rfl)
  have hexplained := executed_explained hrest hstart fun head hhead => by
    have hletter := (listHeads_rows head hhead).1
    have htotal := letterTotal_split hletter (by decide : isLetter ';' = false)
      (quoteJoin s.state.functions ++ ';' :: ("APER" ++ ' ' :: formatSetting s.state.aperture))
    rw [hsplit, letterTotal_cons, letterCount_append, letterCount_quoteJoin hletter,
      letterCount_other hletter rfl, letterCount_aperture hs.timed.aperture head hhead] at htotal
    change 0 + letterTotal head.2 pieces ≤ _
    omega
  rw [← hlast, hfinal, hfunctions] at hexplained
  rcases hexplained with hplain | hprefix | ⟨head, -, hfew⟩
  · exact fun name hname => .of_notMem (hplain name hname)
  · by_cases hnone : s.state.functions = []
    · rw [hnone]
      exact fun name hname => absurd hname List.not_mem_nil
    · exact intact_of_read hnone hsplit hread hprefix
  · exact absurd hfew (Nat.lt_irrefl _)

theorem restores_iff (hs : Reachable s) (t : NormaSimulator) : Restores s t ↔
    s.state.functions ≠ [] ∧ (t.state.concurrent = true ∨ s.state.functions.length = 1) ∧
      ∀ name ∈ s.state.functions, Intact name := by
  constructor
  · intro h
    obtain ⟨piece, pieces, read, hpieces, hread, hne, hroom, hintact⟩ := h.intact hs
    rw [split_learned hintact, List.cons.injEq, List.append_cancel_left_eq, List.cons.injEq]
      at hpieces
    obtain rfl := hpieces.1.2
    have hfunctions : s.state.functions ≠ [] := by
      intro hnone
      rw [hnone] at hread
      cases hread
      exact hne rfl
    rw [argumentsOf_intact hfunctions hintact, FunctionList.readFunctions_quoted] at hread
    cases hread
    rw [List.length_map] at hroom
    have hlength := List.length_pos_of_ne_nil hfunctions
    exact ⟨hfunctions, hroom.imp id fun hone => by omega, hintact⟩
  · rintro ⟨hne, hroom, hintact⟩
    obtain ⟨y, hparse, hrange, hsame⟩ := aperture_readBack hs.timed.aperture
    obtain ⟨steps, hexecuted, hgo, hfunctions, haperture⟩ :=
      executed_learned hne hs.upperNames hroom hintact hparse hrange
    have hline : t.handleLine (learned s.state) =
        some (finalSim t steps, joinResponses (responsesOf steps)) := by
      rw [handleLine_eq, hexecuted]
      rfl
    refine ⟨_, steps, _, _, handleLine_learn s, hexecuted, hline, ?_, hfunctions, ?_⟩
    · intro step hstep
      have hvalid := executed_valid hexecuted step hstep
      rcases hvalid.reported with ⟨entry, -, -, hstop, -⟩ | ⟨hnone, -⟩
      · cases (hgo step hstep).symm.trans hstop
      · exact hnone
    · rw [haperture, hsame]

theorem voltage_restored : Restores Interop.voltageOnly (.new {}) := by
  have hplain : ∀ name ∈ Interop.voltageOnly.state.functions, '"' ∉ name := by decide
  exact (restores_iff Interop.voltageOnly_reachable (.new {})).mpr
    ⟨by decide, .inl rfl, fun name hname => .of_notMem (hplain name hname)⟩

theorem empty_list_not_restored : ¬∀ s t, Reachable s → Reachable t → Restores s t := by
  intro hall
  obtain ⟨piece, pieces, read, hpieces, hread, hne, -⟩ :=
    (hall _ _ (.new {}) (.new {})).intact (.new {})
  have hsplit : splitUnquoted (learned (NormaSimulator.new {}).state) ';' =
      [("FUNC " : Text), "APER 0.1"] := by decide +kernel
  rw [hsplit, List.cons.injEq] at hpieces
  obtain rfl : [] = piece := congrArg (List.drop 5) hpieces.1
  cases hread
  exact hne rfl

end Restore

end Norma
