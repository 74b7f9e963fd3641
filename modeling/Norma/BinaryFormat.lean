import Norma.LateResponse
import Norma.PreambleData

namespace Norma

open ScpiClient
open Cut (Scanner)
open History (query_eq query_none readLine_cases)

section Block

theorem trim_block (text : Text) : ∃ rest, trim ('#' :: text) = '#' :: rest := by
  have hne : trim ('#' :: text) ≠ [] := trim_cons_ne_nil rfl text
  have hprefix : trim ('#' :: text) <+: '#' :: text := by
    rw [trim_of_head rfl]
    exact List.rdropWhile_prefix _ _
  obtain ⟨c, rest, hcons⟩ := List.exists_cons_of_ne_nil hne
  rw [hcons, List.cons_prefix_cons] at hprefix
  exact ⟨rest, by rw [hcons, hprefix.1]⟩

-- The mark of a block is no number, whatever the digits of its length say.
theorem toDouble_block (text : Text) :
    ∃ message, toDouble ('#' :: text) = .error (.protocol message) := by
  obtain ⟨rest, htrim⟩ := trim_block text
  have hcstr : CNumber.cstr ('#' :: rest) = '#' :: CNumber.cstr rest := rfl
  have hnone (s : Text) : CNumber.strtod ('#' :: s) = none := rfl
  refine ⟨"expected numeric value, got \"" ++ '#' :: rest ++ "\"", ?_⟩
  simp only [toDouble, htrim, hcstr, hnone]
  rfl

theorem splitUnquoted_head {c separator : Char} (hne : c ≠ separator) (text : Text) :
    ∃ piece pieces, splitUnquoted (c :: text) separator = (c :: piece) :: pieces := by
  have hcut : ¬(quoting separator).cut none c = true := fun h => hne (quoting_cut h)
  rw [splitUnquoted_eq, Scanner.pieces, if_neg hcut]
  cases (quoting separator).pieces ((quoting separator).next none c) text with
  | nil => exact ⟨_, _, rfl⟩
  | cons piece pieces => exact ⟨_, _, rfl⟩

theorem parseValues_block (text : Text) :
    ∃ message, parseValues ('#' :: text) = .error (.protocol message) := by
  have hcomma : '#' ≠ ',' := by decide
  obtain ⟨piece, pieces, hsplit⟩ := splitUnquoted_head hcomma text
  obtain ⟨first, htrim⟩ := trim_block piece
  obtain ⟨message, hfirst⟩ := toDouble_block first
  have hfields : splitCsv ('#' :: text) = ('#' :: first) :: pieces.map trim := by
    rw [splitCsv, splitFields, if_neg (trim_cons_ne_nil rfl text), hsplit, List.map_cons, htrim]
  refine ⟨message, ?_⟩
  rw [parseValues, hfields, List.mapM_cons, hfirst]
  rfl

theorem join_block {first : Text} (responses : List Text) : ∃ rest,
    join ';' (('#' :: first) :: responses) = '#' :: rest :=
  ⟨_, join_cons ';' ('#' :: first) responses⟩

end Block

section Simulator

variable {sim : NormaSimulator} {header : Text} {key : Key} {suffixes : List Int}

theorem handleLine_first (h : (header, key, suffixes) ∈ knownHeaders) (sim : NormaSimulator)
    {parameters piece : Text} {pieces : List Text}
    (hsplit : splitUnquoted parameters ';' = piece :: pieces) :
    sim.handleLine (header ++ ['?'] ++ ' ' :: parameters) =
      ((execute key (received sim ⟨header, true, argumentsOf piece⟩ key suffixes)).bind fun a =>
        if a.command.failed then some (a.sim, a.command.response.toList)
        else (handlePieces a.sim (headerTokens [] header).dropLast pieces).map
          fun (sim, responses) => (sim, a.command.response.toList ++ responses)).map
        fun (sim, responses) => (sim, joinResponses responses) := by
  obtain ⟨hunquoted, hspace, hsemicolon, -⟩ := knownHeaders_plain _ h
  have hline := split_parameters (hunquoted.append (by decide : Unquoted ['?']))
    (by simp [hsemicolon]) hsplit
  have hspace' : Spaceless (header ++ ['?']) := hspace.append (by decide)
  have htrim : trim (header ++ ['?'] ++ ' ' :: piece) ≠ [] := by
    rw [trim_parameters hspace' (by simp)]
    split <;> simp
  rw [NormaSimulator.handleLine, hline]
  simp only [handlePieces, if_neg htrim, handleCommand_query h]
  cases execute key (received sim ⟨header, true, argumentsOf piece⟩ key suffixes) with
  | none => rfl
  | some a => rfl

def dataHeader : Bool → Text
  | false => "DATA"
  | true => "DATA:STAT"

def dataKey : Bool → Key
  | false => .data
  | true => .dataStat

def dataLine (withStatus : Bool) (names : List Text) : Text :=
  dataHeader withStatus ++ ['?'] ++ if names = [] then [] else ' ' :: quoteJoin names

-- What the instrument takes for the list ends at a semicolon outside quotes.
def firstArguments (names : List Text) : List Text :=
  argumentsOf ((splitUnquoted (quoteJoin names) ';').headD [])

theorem dataHeader_mem (withStatus : Bool) :
    (dataHeader withStatus, dataKey withStatus, ([] : List Int)) ∈ knownHeaders := by
  cases withStatus <;> simp [dataHeader, dataKey, knownHeaders]

theorem execute_dataKey {withStatus : Bool} {a : Access} {result : Option Access}
    (hreturns : (a.data withStatus).Returns result) :
    execute (dataKey withStatus) a = result := by
  have hsense : handleSense (dataKey withStatus) a = a.data withStatus := by
    cases withStatus <;> rfl
  have hfirst : handleRoute (dataKey withStatus) a = .declined ∧
      handleInput (dataKey withStatus) a = .declined := by
    cases withStatus <;> exact ⟨rfl, rfl⟩
  rw [execute, dispatch, hfirst.1, hfirst.2, hsense]
  generalize a.data withStatus = handled at hreturns
  cases hreturns <;> rfl

theorem readFunctions_ne_nil {args functions : List Text} (hargs : args ≠ [])
    (h : readFunctions args = .ok functions) : functions ≠ [] := by
  cases args with
  | nil => exact absurd rfl hargs
  | cons arg args =>
    obtain ⟨-, rest, -, rfl⟩ := readFunctions_cons h
    exact List.cons_ne_nil _ _

section Access

variable {a : Access} {withStatus : Bool}

theorem measured_binary (hbinary : a.sim.state.dataFormat.format ≠ .ascii)
    (hfunctions : a.sim.state.functions ≠ []) : a.measured withStatus =
      .done (a.respond (binaryBlock a.sim.state.functions.length)) := by
  rw [Access.measured, measurementResponse, if_neg hfunctions, if_pos hbinary]
  rfl

theorem data_rejected (hquery : a.command.query = true) (hargs : a.command.args ≠ [])
    {raw : Text} (h : readFunctions a.command.args = .error raw) :
    a.data withStatus = .done (a.illegal raw) := by
  rw [Access.data, if_neg (by simp [hquery]), if_neg hargs, Access.readFunctionList, if_neg hargs, h]

theorem data_accepted (hquery : a.command.query = true) (hargs : a.command.args ≠ [])
    (hbinary : a.sim.state.dataFormat.format ≠ .ascii) {functions : List Text}
    (h : readFunctions a.command.args = .ok functions) : a.data withStatus =
      .done ((a.assign .functions functions).respond (binaryBlock functions.length)) := by
  rw [Access.data, if_neg (by simp [hquery]), if_neg hargs, Access.readFunctionList, if_neg hargs, h]
  exact measured_binary (a := a.assign .functions functions) hbinary (readFunctions_ne_nil hargs h)

end Access

theorem firstArguments_ne_nil {names : List Text} (hne : names ≠ []) : firstArguments names ≠ [] := by
  obtain ⟨name, names, rfl⟩ := List.exists_cons_of_ne_nil hne
  have hquoted : ∃ text, quoteJoin (name :: names) = '"' :: text :=
    ⟨_, join_cons ',' (quote name) (names.map quote)⟩
  obtain ⟨text, htext⟩ := hquoted
  have hsemicolon : '"' ≠ ';' := by decide
  obtain ⟨piece, pieces, hsplit⟩ := splitUnquoted_head hsemicolon text
  rw [firstArguments, htext, hsplit, List.headD_cons, argumentsOf,
    if_neg (trim_cons_ne_nil rfl piece), Ne, List.map_eq_nil_iff]
  exact splitUnquoted_ne_nil _ _

section Lines

variable {sim : NormaSimulator} {withStatus : Bool} {names : List Text}

theorem handleLine_data_alone (hbinary : sim.state.dataFormat.format ≠ .ascii) :
    sim.handleLine (dataLine withStatus []) = some (sim,
      some (if sim.state.functions = [] then [] else binaryBlock sim.state.functions.length)) := by
  have hreturns (a : Access) (hquery : a.command.query = true) (hargs : a.command.args = [])
      (hformat : a.sim.state.dataFormat.format ≠ .ascii) : (a.data withStatus).Returns (some
        (a.respond (if a.sim.state.functions = [] then []
          else binaryBlock a.sim.state.functions.length))) := by
    rw [Access.data, if_neg (by simp [hquery]), if_pos hargs]
    by_cases hnone : a.sim.state.functions = []
    · rw [if_pos hnone, Access.measured, measurementResponse, if_pos hnone]
      exact .done _
    · rw [if_neg hnone, measured_binary hformat hnone]
      exact .done _
  have hline : dataLine withStatus [] = dataHeader withStatus ++ ['?'] := by
    rw [dataLine, if_pos rfl, List.append_nil]
  rw [hline]
  refine (handleLine_query (dataHeader_mem withStatus) sim).trans ?_
  rw [execute_dataKey (hreturns _ rfl rfl hbinary)]
  rfl

theorem handleLine_data_list (hne : names ≠ []) :
    ∃ pieces, sim.handleLine (dataLine withStatus names) =
      ((execute (dataKey withStatus) (received sim ⟨dataHeader withStatus, true,
        firstArguments names⟩ (dataKey withStatus) [])).bind fun a =>
          if a.command.failed then some (a.sim, a.command.response.toList)
          else (handlePieces a.sim (headerTokens [] (dataHeader withStatus)).dropLast pieces).map
            fun (sim, responses) => (sim, a.command.response.toList ++ responses)).map
          fun (sim, responses) => (sim, joinResponses responses) := by
  obtain ⟨piece, pieces, hsplit⟩ :=
    List.exists_cons_of_ne_nil (splitUnquoted_ne_nil (quoteJoin names) ';')
  have hfirst : firstArguments names = argumentsOf piece := by
    rw [firstArguments, hsplit, List.headD_cons]
  refine ⟨pieces, ?_⟩
  rw [dataLine, if_neg hne, hfirst]
  exact handleLine_first (dataHeader_mem withStatus) sim hsplit

theorem handleLine_data_rejected (hne : names ≠ []) {raw : Text}
    (h : readFunctions (firstArguments names) = .error raw) :
    ∃ after, sim.handleLine (dataLine withStatus names) = some (after, none) := by
  obtain ⟨pieces, hline⟩ := @handleLine_data_list sim withStatus names hne
  have hdata := @data_rejected (received sim ⟨dataHeader withStatus, true, firstArguments names⟩
    (dataKey withStatus) []) withStatus rfl (firstArguments_ne_nil hne) raw h
  rw [execute_dataKey (by rw [hdata]; exact .done _)] at hline
  exact ⟨_, hline⟩

theorem handleLine_data_accepted (hbinary : sim.state.dataFormat.format ≠ .ascii) (hne : names ≠ [])
    {functions : List Text} (h : readFunctions (firstArguments names) = .ok functions)
    {after : NormaSimulator} {response : Option Text}
    (hafter : sim.handleLine (dataLine withStatus names) = some (after, response)) :
    ∃ rest, response = some ('#' :: rest) := by
  obtain ⟨pieces, hline⟩ := @handleLine_data_list sim withStatus names hne
  have hdata := @data_accepted (received sim ⟨dataHeader withStatus, true, firstArguments names⟩
    (dataKey withStatus) []) withStatus rfl (firstArguments_ne_nil hne) hbinary functions h
  rw [execute_dataKey (by rw [hdata]; exact .done _), hafter, Option.bind_some] at hline
  obtain ⟨⟨last, responses⟩, hpieces, hpair⟩ := Option.map_eq_some_iff.mp hline.symm
  obtain ⟨⟨last', others⟩, -, hpair'⟩ := Option.map_eq_some_iff.mp hpieces
  cases hpair'
  cases hpair
  obtain ⟨rest, hrest⟩ := join_block others
  exact ⟨rest, congrArg some hrest⟩

end Lines

end Simulator

section Client

variable {client : SimulatorClient}

def Answered (sim : NormaSimulator) (withStatus : Bool) (names : List Text) : Prop :=
  names = [] ∨ hasLineTerminator (dataLine withStatus names) = false ∧
    (∃ functions, readFunctions (firstArguments names) = .ok functions) ∧
    (sim.handleLine (dataLine withStatus names)).isSome

inductive BinaryResult (sim : NormaSimulator) (withStatus : Bool) (names : List Text) :
    Option (Except Fault (List Float) × SimulatorClient) → Prop where
  | empty (hnames : names = []) (hnone : sim.state.functions = []) (after : SimulatorClient) :
      BinaryResult sim withStatus names (some (.ok [], after))
  | block (hanswered : Answered sim withStatus names) (message : Text) (after : SimulatorClient) :
      BinaryResult sim withStatus names (some (.error (.protocol message), after))
  | unanswered (hanswered : ¬Answered sim withStatus names) {fault : Fault}
      (hfault : ∀ message, fault ≠ .protocol message) (after : SimulatorClient) :
      BinaryResult sim withStatus names (some (.error fault, after))
  | running (hanswered : ¬Answered sim withStatus names) : BinaryResult sim withStatus names none

theorem query_unanswered (hidle : client.Idle) {command : Text}
    (hplain : hasLineTerminator command = false) {after : NormaSimulator}
    (hline : client.sim.handleLine command = some (after, none)) :
    ∃ fault final, query command client = some (.error fault, final) ∧
      ∀ message, fault ≠ .protocol message := by
  have hquery := query_eq hidle.writable hplain hline
  rcases readLine_cases (t := ((client.withSim after).withResponse none).transport) hidle.isOpen
      client.timeout with ⟨fault, hread, hfault, -⟩ | ⟨line, rest, hresponses, -⟩
  · rw [hread] at hquery
    refine ⟨fault, _, hquery, ?_⟩
    rintro message rfl
    cases hfault
  · have hempty : ((client.withSim after).withResponse none).transport.responses = [] := by
      simp [withResponse, withSim, hidle.responses]
    rw [hempty] at hresponses
    cases hresponses

theorem queryValues_blocked (hidle : client.Idle) {command rest : Text}
    (hplain : hasLineTerminator command = false) {after : NormaSimulator}
    (hline : client.sim.handleLine command = some (after, some ('#' :: rest))) :
    ∃ message, queryValues command client =
      some (.error (.protocol message), client.withSim after) := by
  obtain ⟨message, hparse⟩ := parseValues_block rest
  have hvalues := ofExcept_query parseValues (query_idle hidle hplain hline)
  rw [hparse] at hvalues
  exact ⟨message, hvalues⟩

theorem queryValues_alone (hidle : client.Idle)
    (hbinary : client.sim.state.dataFormat.format ≠ .ascii) (withStatus : Bool) :
    BinaryResult client.sim withStatus [] (queryValues (dataLine withStatus []) client) := by
  have hplain : hasLineTerminator (dataLine withStatus []) = false := by
    cases withStatus <;> decide +kernel
  have hline := @handleLine_data_alone client.sim withStatus hbinary
  by_cases hnone : client.sim.state.functions = []
  · rw [if_pos hnone] at hline
    have hvalues : queryValues (dataLine withStatus []) client = some (.ok [], client) :=
      ofExcept_query parseValues (query_idle hidle hplain hline)
    rw [hvalues]
    exact .empty rfl hnone client
  · rw [if_neg hnone] at hline
    obtain ⟨message, hvalues⟩ := queryValues_blocked hidle hplain hline
    rw [hvalues]
    exact .block (.inl rfl) message _

theorem queryValues_list (hidle : client.Idle)
    (hbinary : client.sim.state.dataFormat.format ≠ .ascii) (withStatus : Bool) {names : List Text}
    (hnames : names ≠ []) : BinaryResult client.sim withStatus names
      (queryValues (dataLine withStatus names) client) := by
  by_cases hplain : hasLineTerminator (dataLine withStatus names) = false
  · cases hread : readFunctions (firstArguments names) with
    | error raw =>
      obtain ⟨after, hline⟩ := handleLine_data_rejected hnames hread
      obtain ⟨fault, final, hquery, hfault⟩ := query_unanswered hidle hplain hline
      have hunanswered : ¬Answered client.sim withStatus names := by
        rintro (hnil | ⟨-, ⟨functions, hfunctions⟩, -⟩)
        · exact hnames hnil
        · rw [hread] at hfunctions
          cases hfunctions
      rw [queryValues, Session.bind_error hquery]
      exact .unanswered hunanswered hfault final
    | ok functions =>
      cases hline : client.sim.handleLine (dataLine withStatus names) with
      | none =>
        have hunanswered : ¬Answered client.sim withStatus names := by
          rintro (hnil | ⟨-, -, hsome⟩)
          · exact hnames hnil
          · rw [hline] at hsome
            cases hsome
        rw [queryValues, Session.bind_none (query_none hidle.writable hplain hline)]
        exact .running hunanswered
      | some outcome =>
        obtain ⟨after, response⟩ := outcome
        obtain ⟨rest, rfl⟩ := handleLine_data_accepted hbinary hnames hread hline
        obtain ⟨message, hvalues⟩ := queryValues_blocked hidle hplain hline
        rw [hvalues]
        exact .block (.inr ⟨hplain, ⟨functions, hread⟩, by rw [hline]; rfl⟩) message _
  · have hunanswered : ¬Answered client.sim withStatus names := by
      rintro (hnil | ⟨hterminated, -⟩)
      · exact hnames hnil
      · exact hplain hterminated
    rw [Bool.not_eq_false] at hplain
    obtain ⟨message, hquery⟩ := query_rejected client hplain
    rw [queryValues, Session.bind_error hquery]
    exact .unanswered hunanswered (by simp) client

theorem queryValues_binary (hidle : client.Idle)
    (hbinary : client.sim.state.dataFormat.format ≠ .ascii) (withStatus : Bool)
    (names : List Text) : BinaryResult client.sim withStatus names
      (queryValues (dataLine withStatus names) client) := by
  by_cases hnames : names = []
  · subst hnames
    exact queryValues_alone hidle hbinary withStatus
  · exact queryValues_list hidle hbinary withStatus hnames

-- The query reports that it cannot read the response, or there is nothing to report.
def NotMisread {A : Type} (nothing : Prop) (empty : A → Prop)
    (result : Option (Except Fault A × SimulatorClient)) : Prop :=
  (∃ message after, result = some (.error (.protocol message), after)) ∨
    ∃ a after, result = some (.ok a, after) ∧ empty a ∧ nothing

section NotMisread

variable {A : Type} {nothing : Prop} {empty : A → Prop} {after : SimulatorClient}

theorem notMisread_ok {a : A} :
    NotMisread nothing empty (some (.ok a, after)) ↔ empty a ∧ nothing := by
  simp [NotMisread]

theorem notMisread_protocol {message : Text} :
    NotMisread nothing empty (some (.error (.protocol message), after)) := .inl ⟨_, _, rfl⟩

theorem not_notMisread_fault {fault : Fault} (h : ∀ message, fault ≠ .protocol message) :
    ¬NotMisread nothing empty (some (.error fault, after)) := by
  simp [NotMisread, h]

theorem not_notMisread_none : ¬NotMisread nothing empty none := by simp [NotMisread]

theorem BinaryResult.notMisread {sim : NormaSimulator} {withStatus : Bool} {names : List Text}
    {result : Option (Except Fault (List Float) × SimulatorClient)}
    {final : Option (Except Fault A × SimulatorClient)} (h : BinaryResult sim withStatus names result)
    (hnone : result = none → final = none)
    (herror : ∀ fault after, result = some (.error fault, after) → final = some (.error fault, after))
    (hok : ∀ after, result = some (.ok [], after) → ∃ a, final = some (.ok a, after) ∧ empty a) :
    NotMisread (names = [] ∧ sim.state.functions = []) empty final ↔
      Answered sim withStatus names := by
  cases h with
  | empty hnames hfunctions after =>
    obtain ⟨a, rfl, ha⟩ := hok after rfl
    exact iff_of_true (notMisread_ok.mpr ⟨ha, hnames, hfunctions⟩) (.inl hnames)
  | block hanswered message after =>
    rw [herror _ _ rfl]
    exact iff_of_true notMisread_protocol hanswered
  | unanswered hanswered hfault after =>
    rw [herror _ _ rfl]
    exact iff_of_false (not_notMisread_fault hfault) hanswered
  | running hanswered =>
    rw [hnone rfl]
    exact iff_of_false not_notMisread_none hanswered

end NotMisread

theorem data_notMisread_iff (hidle : client.Idle)
    (hbinary : client.sim.state.dataFormat.format ≠ .ascii) (names : List Text) :
    NotMisread (names = [] ∧ client.sim.state.functions = []) (· = [])
        (NormaInstrument.data names client) ↔ Answered client.sim false names := by
  have hline : NormaInstrument.data names client = queryValues (dataLine false names) client := by
    rw [NormaInstrument.data, dataLine]
    split <;> rfl
  rw [hline]
  exact (queryValues_binary hidle hbinary false names).notMisread id (fun _ _ => id)
    fun _ h => ⟨[], h, rfl⟩

theorem dataWithStatus_notMisread_iff (hidle : client.Idle)
    (hbinary : client.sim.state.dataFormat.format ≠ .ascii) (names : List Text) :
    NotMisread (names = [] ∧ client.sim.state.functions = [])
        (fun reading : Reading => reading.values = [] ∧ reading.status = [])
        (NormaInstrument.dataWithStatus names client) ↔ Answered client.sim true names := by
  have hline : (if names = [] then ("DATA:STAT?" : Text) else "DATA:STAT? " ++ quoteJoin names) =
      dataLine true names := by
    rw [dataLine]
    split <;> rfl
  have hresult := queryValues_binary hidle hbinary true names
  rw [← hline] at hresult
  exact hresult.notMisread (fun h => Session.bind_none h _) (fun _ _ h => Session.bind_error h _)
    fun _ h => ⟨⟨[], []⟩, Session.bind_ok h _, rfl, rfl⟩

section Windows

variable {count offset sparsing : IntegerField}

def Beyond (length : Nat) (count offset : Int) : Prop :=
  (length : Int) ≤ if 0 < count then max offset 0 else 0

theorem requestedWindow_offset (count offset sparsing : Int) :
    max (requestedWindow count offset sparsing).offset 0 =
      if 0 < count then max offset 0 else 0 := by
  rw [requestedWindow]
  split <;> split <;> simp <;> omega

theorem beyond_toInt32 {length : Nat} (h : Beyond length count.value offset.value) :
    CNumber.toInt32 length ≤ if 0 < count.value then max offset.value 0 else 0 := by
  have hlow := offset.high
  have hsame : CNumber.toInt32 length = length := by
    refine CNumber.toInt32_eq_self (by omega) ?_
    rw [Beyond] at h
    split at h <;> omega
  rw [hsame]
  exact h

theorem windowed_notMisread_iff (hidle : client.Idle) {command : Text}
    (hplain : hasLineTerminator command = false) {source : List Float}
    (hline : client.sim.handleLine command =
      (applyWindow source (requestedWindow count.value offset.value sparsing.value)).map
        fun values => (client.sim, some (shown client.sim values))) :
    NotMisread (Beyond source.length count.value offset.value) (· = [])
        (queryValues command client) ↔ Beyond source.length count.value offset.value := by
  have hnil : Beyond source.length count.value offset.value → applyWindow source
      (requestedWindow count.value offset.value sparsing.value) = some [] := fun h => by
    rw [applyWindow_nil, requestedWindow_offset]
    exact beyond_toInt32 h
  cases hwindow : applyWindow source (requestedWindow count.value offset.value sparsing.value) with
  | none =>
    rw [hwindow] at hline hnil
    rw [queryValues, Session.bind_none (query_none hidle.writable hplain hline)]
    exact iff_of_false not_notMisread_none fun h => by cases hnil h
  | some values =>
    rw [hwindow] at hline hnil
    obtain ⟨parsed, hparsed, hlength⟩ := queryValues_shown hidle hplain hline
    rw [hparsed, notMisread_ok]
    refine and_iff_right_of_imp fun h => ?_
    rw [Option.some.inj (hnil h), List.length_nil] at hlength
    exact List.length_eq_zero_iff.mp hlength

theorem transformData_notMisread_iff (hidle : client.Idle) (count offset : IntegerField) :
    NotMisread (Beyond kSpectrumLines count.value offset.value) (· = [])
        (NormaInstrument.transformData count.value offset.value client) ↔
      0 < count.value ∧ 32 ≤ offset.value := by
  have hspectrum : (Access.spectrum client.sim.signal).length = kSpectrumLines := by
    rw [Access.spectrum, List.length_map, List.length_range]
  have hrejected : ¬Rejected count.value offset.value IntegerField.zero.value :=
    fun h => absurd h.2.1 (by decide)
  have hline := @handleLine_calcData client.sim count offset .zero hrejected
  generalize Access.spectrum client.sim.signal = source at hline hspectrum
  have hwindow := windowed_notMisread_iff hidle calcData_plain hline
  rw [hspectrum] at hwindow
  refine hwindow.trans ?_
  have hlines : ((kSpectrumLines : Nat) : Int) = 32 := rfl
  rw [Beyond, hlines]
  split <;> omega

theorem traceData_notMisread_iff (hidle : client.Idle) (block : SweepBlock)
    (count offset sparsing : IntegerField) :
    NotMisread (Beyond ((tracePoints client.sim.state).toNat *
          (tracedFunctions client.sim.state block).length) count.value offset.value) (· = [])
        (NormaInstrument.traceData block count.value offset.value sparsing.value client) ↔
      (∀ function ∈ tracedFunctions client.sim.state block,
        Terminates client.sim.state client.sim.signal function) ∧
      ¬Rejected count.value offset.value sparsing.value ∧
      Beyond ((tracePoints client.sim.state).toNat *
        (tracedFunctions client.sim.state block).length) count.value offset.value := by
  have hline := @handleLine_trac client.sim block count offset sparsing
  have hplain := @trac_plain block count.value offset.value sparsing.value
  by_cases hrejected : Rejected count.value offset.value sparsing.value
  · rw [if_pos hrejected] at hline
    obtain ⟨fault, final, hquery, hfault⟩ := query_unanswered hidle hplain hline
    rw [NormaInstrument.traceData, queryValues, Session.bind_error hquery]
    exact iff_of_false (not_notMisread_fault hfault) fun h => h.2.1 hrejected
  rw [if_neg hrejected] at hline
  by_cases hterminates : ∀ function ∈ tracedFunctions client.sim.state block,
      Terminates client.sim.state client.sim.signal function
  · obtain ⟨source, hsource, hlength⟩ := tracedValues_terminates hterminates
    rw [hsource, Option.bind_some] at hline
    have hwindow := windowed_notMisread_iff hidle hplain hline
    rw [hlength] at hwindow
    rw [and_iff_right hterminates, and_iff_right hrejected]
    exact hwindow
  · cases hsource : tracedValues client.sim block with
    | none =>
      rw [hsource] at hline
      rw [NormaInstrument.traceData, queryValues,
        Session.bind_none (query_none hidle.writable hplain hline)]
      exact iff_of_false not_notMisread_none fun h => hterminates h.1
    | some source =>
      obtain ⟨measurements, hall, -⟩ := Option.map_eq_some_iff.mp hsource
      exact absurd (measureAll_isSome hall) hterminates

end Windows

-- Whatever the block holds, a call that returns has no number to return.
theorem data_numberless (hidle : client.Idle)
    (hbinary : client.sim.state.dataFormat.format ≠ .ascii) (withStatus : Bool) {names : List Text}
    {values : List Float} {after : SimulatorClient}
    (h : queryValues (dataLine withStatus names) client = some (.ok values, after)) :
    values = [] := by
  have hresult := queryValues_binary hidle hbinary withStatus names
  rw [h] at hresult
  cases hresult
  rfl

theorem answered_plain {sim : NormaSimulator} (hbinary : sim.state.dataFormat.format ≠ .ascii)
    (withStatus : Bool) {names : List Text}
    (hnames : ∀ name ∈ names, '"' ∉ name ∧ '\n' ∉ name ∧ '\r' ∉ name) :
    Answered sim withStatus names := by
  by_cases hne : names = []
  · exact .inl hne
  have hquoted : ∀ name ∈ names, '"' ∉ name := fun name hname => (hnames name hname).1
  have hwhole : Whole ';' (quoteJoin names) := (quoteJoin_quoting (by decide) hquoted).1
  have hargs : firstArguments names = names.map quote := by
    rw [firstArguments, hwhole.split, List.headD_cons, FunctionList.argumentsOf_quoteJoin hne hquoted]
  have hread : readFunctions (firstArguments names) = .ok (names.map upper) := by
    rw [hargs, FunctionList.readFunctions_quoted]
  refine .inr ⟨?_, ⟨_, hread⟩, ?_⟩
  · have hhead : hasLineTerminator (dataHeader withStatus ++ ['?', ' ']) = false := by
      cases withStatus <;> decide +kernel
    have hplain := quoteJoin_plain hhead fun name hname => (hnames name hname).2
    rw [dataLine, if_neg hne, List.append_assoc]
    rw [List.append_assoc] at hplain
    exact hplain
  · rw [dataLine, if_neg hne, handleLine_request (dataHeader_mem withStatus) sim hwhole,
      FunctionList.argumentsOf_quoteJoin hne hquoted, ← hargs]
    have hdata := @data_accepted (received sim ⟨dataHeader withStatus, true, firstArguments names⟩
      (dataKey withStatus) []) withStatus rfl (firstArguments_ne_nil hne) hbinary _ hread
    rw [execute_dataKey (by rw [hdata]; exact .done _)]
    rfl

theorem binary_notMisread_iff (hidle : client.Idle)
    (hbinary : client.sim.state.dataFormat.format ≠ .ascii) :
    (∀ names, NotMisread (names = [] ∧ client.sim.state.functions = []) (· = [])
        (NormaInstrument.data names client) ↔ Answered client.sim false names) ∧
    (∀ names, NotMisread (names = [] ∧ client.sim.state.functions = [])
        (fun reading : Reading => reading.values = [] ∧ reading.status = [])
        (NormaInstrument.dataWithStatus names client) ↔ Answered client.sim true names) ∧
    (∀ count offset : IntegerField,
      NotMisread (Beyond kSpectrumLines count.value offset.value) (· = [])
        (NormaInstrument.transformData count.value offset.value client) ↔
      0 < count.value ∧ 32 ≤ offset.value) ∧
    ∀ (block : SweepBlock) (count offset sparsing : IntegerField),
      NotMisread (Beyond ((tracePoints client.sim.state).toNat *
          (tracedFunctions client.sim.state block).length) count.value offset.value) (· = [])
        (NormaInstrument.traceData block count.value offset.value sparsing.value client) ↔
      (∀ function ∈ tracedFunctions client.sim.state block,
        Terminates client.sim.state client.sim.signal function) ∧
      ¬Rejected count.value offset.value sparsing.value ∧
      Beyond ((tracePoints client.sim.state).toNat *
        (tracedFunctions client.sim.state block).length) count.value offset.value :=
  ⟨data_notMisread_iff hidle hbinary, dataWithStatus_notMisread_iff hidle hbinary,
    transformData_notMisread_iff hidle, traceData_notMisread_iff hidle⟩

def realFormat : NormaSimulator :=
  let sim := NormaSimulator.new {}
  { sim with state := { sim.state with dataFormat := ⟨.real, 6⟩, statusFormat := ⟨.integer, 16⟩ } }

theorem realFormat_reachable : Reachable realFormat := by
  have hmem : (("FORM" : Text), Key.form, ([] : List Int)) ∈ knownHeaders := by simp [knownHeaders]
  have hwhole : Whole ';' "REAL" := by
    unfold Whole
    decide +kernel
  have hline : (NormaSimulator.new {}).handleLine ("FORM" ++ ' ' :: "REAL") =
      some (realFormat, none) := (handleLine_setting hmem _ hwhole).trans rfl
  exact .line (.new {}) _ hline

theorem real_data_unread : ∃ message after,
    NormaInstrument.data [("VOLT1" : Text)] (opened realFormat) =
      some (.error (.protocol message), after) := by
  have hbinary : realFormat.state.dataFormat.format ≠ .ascii := by decide
  have hplain : ∀ name ∈ [("VOLT1" : Text)], '"' ∉ name ∧ '\n' ∉ name ∧ '\r' ∉ name := by
    decide +kernel
  rcases ((binary_notMisread_iff (idle_opened realFormat) hbinary).1 [("VOLT1" : Text)]).mpr
      (answered_plain hbinary false hplain) with hprotocol | ⟨values, after, -, -, hnone, -⟩
  · exact hprotocol
  · cases hnone

theorem real_transform_misread : (∃ values,
    NormaInstrument.transformData 0 0 (opened realFormat) = some (.ok values, opened realFormat) ∧
      values.length = 32) ∧ ¬ ∀ client : SimulatorClient, client.Idle → Reachable client.sim →
    client.sim.state.dataFormat.format ≠ .ascii →
    (∀ names, NotMisread (names = [] ∧ client.sim.state.functions = []) (· = [])
        (NormaInstrument.data names client)) ∧
    (∀ names, NotMisread (names = [] ∧ client.sim.state.functions = [])
        (fun reading : Reading => reading.values = [] ∧ reading.status = [])
        (NormaInstrument.dataWithStatus names client)) ∧
    (∀ count offset : IntegerField,
      NotMisread (Beyond kSpectrumLines count.value offset.value) (· = [])
        (NormaInstrument.transformData count.value offset.value client)) ∧
    ∀ (block : SweepBlock) (count offset sparsing : IntegerField),
      NotMisread (Beyond ((tracePoints client.sim.state).toNat *
          (tracedFunctions client.sim.state block).length) count.value offset.value) (· = [])
        (NormaInstrument.traceData block count.value offset.value sparsing.value client) := by
  have hidle := idle_opened realFormat
  obtain ⟨values, hvalues, hlength⟩ := transformData_all hidle
  refine ⟨⟨values, hvalues, hlength⟩, fun h => ?_⟩
  obtain ⟨-, -, htransform, -⟩ := h (opened realFormat) hidle realFormat_reachable (by decide)
  have hzero : NormaInstrument.transformData IntegerField.zero.value IntegerField.zero.value
      (opened realFormat) = some (.ok values, opened realFormat) := hvalues
  have hnone := htransform .zero .zero
  rw [hzero, notMisread_ok] at hnone
  rw [hnone.1] at hlength
  cases hlength

end Client

end Norma
