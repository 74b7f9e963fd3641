import Norma.Known
import Norma.Upper

namespace Norma

open ErrorCode

inductive FunctionList where
  | measured
  | transform
  | integral
  | sweep (block : SweepBlock)
  | display
  deriving DecidableEq

namespace FunctionList

def write : FunctionList → List Text → Session SimulatorTransport Unit
  | .measured => NormaInstrument.setFunctions
  | .transform => NormaInstrument.setTransformFunctions
  | .integral => NormaInstrument.setIntegralFunctions
  | .sweep block => NormaInstrument.setSweepFunctions block
  | .display => NormaInstrument.setDisplayFunctions

def read : FunctionList → Session SimulatorTransport (List Text)
  | .measured => NormaInstrument.functions
  | .transform => NormaInstrument.transformFunctions
  | .integral => NormaInstrument.integralFunctions
  | .sweep block => NormaInstrument.sweepFunctions block
  | .display => NormaInstrument.displayFunctions

def known : FunctionList → Text × Key × List Int
  | .measured => ("FUNC", .func, [])
  | .transform => ("CALC:TRAN:FREQ:FUNC", .calcTranFreqFunc, [])
  | .integral => ("CALC:INT:FUNC", .calcIntFunc, [])
  | .sweep .block1 => ("SWE1:FUNC", .sweFunc, [1])
  | .sweep .block2 => ("SWE2:FUNC", .sweFunc, [2])
  | .display => ("DISP:USER:FUNC", .dispUserFunc, [])

def sweepIndex : SweepBlock → Fin 3
  | .block1 => 1
  | .block2 => 2

def setting : FunctionList → Setting (List Text)
  | .measured => .functions
  | .transform => .transformFunctions
  | .integral => .integralFunctions
  | .sweep block => (Setting.sweep.entry (sweepIndex block)).focus SweepConfig.functionsLens
  | .display => .displayFunctions

def conflicts (list : FunctionList) (state : State) (names : List Text) : Bool :=
  list = .measured && !state.concurrent && 1 < names.length

def store (list : FunctionList) (a : Access) : Access :=
  if a.command.query then a.respond (quoteJoin (a.read list.setting))
  else a.readFunctionList id fun names =>
    if list.conflicts a.sim.state names then
      a.fail kSettingsConflict "Settings conflict;FUNCtion:CONCurrent is OFF"
    else a.assign list.setting names

variable (list : FunctionList)

theorem known_mem : list.known ∈ knownHeaders := by
  cases list with
  | sweep block => cases block <;> simp [known, knownHeaders]
  | _ => simp [known, knownHeaders]

def blockNumber : SweepBlock → Int
  | .block1 => 1
  | .block2 => 2

theorem handleSweep_functions {a : Access} {block : SweepBlock}
    (h : a.command.suffixes = [blockNumber block]) :
    handleSweep .sweFunc a = .done (a.functionList (setting (.sweep block))) := by
  cases block with
  | block1 =>
    have hsuffix : a.command.suffix = 1 := by
      simp only [Command.suffix, h]
      rfl
    simp only [handleSweep, hsuffix]
    rfl
  | block2 =>
    have hsuffix : a.command.suffix = 2 := by
      simp only [Command.suffix, h]
      rfl
    simp only [handleSweep, hsuffix]
    rfl

theorem execute_known {a : Access} (h : a.command.suffixes = list.known.2.2) :
    execute list.known.2.1 a = some (list.store a) := by
  cases list with
  | sweep block =>
    have hsuffixes : a.command.suffixes = [blockNumber block] := by
      cases block <;> exact h
    have hkey : (sweep block).known.2.1 = .sweFunc := by
      cases block <;> rfl
    have hdispatch : dispatch .sweFunc a = .done (a.functionList (setting (.sweep block))) := by
      have hsense : handleSense .sweFunc a = handleSweep .sweFunc a := rfl
      simp only [dispatch, hsense, handleSweep_functions hsuffixes]
      rfl
    rw [hkey, execute, hdispatch]
    rfl
  | _ => rfl

theorem write_nil : ∃ fault, list.write [] = Session.throw fault := by
  cases list <;> exact ⟨_, rfl⟩

theorem requireFunctions_then {names : List Text} (h : names ≠ []) (what : Text)
    (next : Session SimulatorTransport Unit) :
    (NormaInstrument.requireFunctions what names >>= fun _ => next) = next := by
  funext client
  exact Session.bind_ok (by simp [NormaInstrument.requireFunctions, h]; rfl) _

theorem write_eq_send {names : List Text} (h : names ≠ []) :
    list.write names = ScpiClient.send (list.known.1 ++ ' ' :: quoteJoin names) := by
  cases list with
  | measured => exact if_neg h
  | sweep block => cases block <;> exact requireFunctions_then h _ _
  | _ => exact requireFunctions_then h _ _

theorem read_eq_query : list.read = ScpiClient.queryStrings (list.known.1 ++ ['?']) := by
  cases list with
  | sweep block => cases block <;> rfl
  | _ => rfl

def stored (list : FunctionList) (sim : NormaSimulator) (names : List Text) : NormaSimulator :=
  { sim with state := list.setting.set sim.state names }

section RoundTrip

variable {names : List Text} {client : SimulatorClient}

theorem quote_notMem_upper {name : Text} (h : '"' ∉ name) : '"' ∉ upper name := by
  intro hmem
  obtain ⟨c, hc, hupper⟩ := List.mem_map.mp hmem
  have hquote := toUpper_beq (d := '"') (by decide) c
  rw [hupper, beq_self_eq_true] at hquote
  exact h (beq_iff_eq.mp hquote.symm ▸ hc)

theorem argumentsOf_quoteJoin (hne : names ≠ []) (h : ∀ name ∈ names, '"' ∉ name) :
    argumentsOf (quoteJoin names) = names.map quote := by
  obtain ⟨inner, hinner⟩ := quoteJoin_ends hne
  have hblank : quoteJoin names ≠ [] := by simp [hinner, quote]
  rw [argumentsOf, trim_quoteJoin hne, if_neg hblank, splitUnquoted_quoteJoin hne h, List.map_map]
  exact List.map_congr_left fun name _ => trim_quote name

theorem readFunctions_quoted (names : List Text) :
    readFunctions (names.map quote) = .ok (names.map upper) := by
  induction names with
  | nil => rfl
  | cons name names ih =>
    have hquoted : ¬ ((quote name).length < 2 ∨
        ((quote name).head? ≠ some '"' ∧ (quote name).head? ≠ some '\'')) := by
      simp [quote]
    rw [List.map_cons, readFunctions, trim_quote, if_neg hquoted, ih, unquote_quote]
    rfl

theorem store_setting {a : Access} (hset : a.command.query = false) (hne : names ≠ [])
    (hargs : a.command.args = names.map quote)
    (hallowed : list.conflicts a.sim.state (names.map upper) = false) :
    list.store a = a.assign list.setting (names.map upper) := by
  have hargs' : a.command.args ≠ [] := by simpa [hargs] using hne
  rw [store, if_neg (by simp [hset]), Access.readFunctionList, if_neg hargs', hargs,
    readFunctions_quoted]
  simp only [hallowed, Bool.false_eq_true, if_false]

theorem handleLine_write {sim : NormaSimulator} (hne : names ≠ [])
    (h : ∀ name ∈ names, '"' ∉ name)
    (hallowed : list.conflicts sim.state (names.map upper) = false) :
    sim.handleLine (list.known.1 ++ ' ' :: quoteJoin names) =
      some (list.stored sim (names.map upper), none) := by
  have hmem : (list.known.1, list.known.2.1, list.known.2.2) ∈ knownHeaders := list.known_mem
  have hwhole : Whole ';' (quoteJoin names) := (quoteJoin_quoting (by decide) h).1
  rw [handleLine_setting hmem sim hwhole, argumentsOf_quoteJoin hne h, list.execute_known rfl,
    list.store_setting rfl hne rfl hallowed]
  rfl

theorem handleLine_read (sim : NormaSimulator) :
    sim.handleLine (list.known.1 ++ ['?']) =
      some (sim, some (quoteJoin (list.setting.get sim.state))) := by
  have hmem : (list.known.1, list.known.2.1, list.known.2.2) ∈ knownHeaders := list.known_mem
  rw [handleLine_query hmem, list.execute_known rfl]
  rfl

theorem unquoted_splitCsv (hne : names ≠ []) (h : ∀ name ∈ names, '"' ∉ name) :
    (ScpiClient.splitCsv (quoteJoin names)).map unquote = names := by
  obtain ⟨inner, hinner⟩ := quoteJoin_ends hne
  have hblank : quoteJoin names ≠ [] := by simp [hinner, quote]
  rw [ScpiClient.splitCsv, splitFields, trim_quoteJoin hne, if_neg hblank,
    splitUnquoted_quoteJoin hne h, List.map_map, List.map_map]
  refine (List.map_congr_left fun name _ => ?_).trans (List.map_id names)
  simp only [Function.comp_apply, trim_quote, unquote_quote, id]

theorem query_plain : ScpiClient.hasLineTerminator (list.known.1 ++ ['?']) = false := by
  obtain ⟨-, -, -, -, -, -, -, hheader⟩ := knownHeaders_plain _ list.known_mem
  obtain ⟨hnewline, hreturn⟩ := ScpiClient.hasLineTerminator_eq_false.mp hheader
  exact ScpiClient.hasLineTerminator_eq_false.mpr (by simp [hnewline, hreturn])

theorem line_plain (h : ∀ name ∈ names, '\n' ∉ name ∧ '\r' ∉ name) :
    ScpiClient.hasLineTerminator (list.known.1 ++ ' ' :: quoteJoin names) = false := by
  obtain ⟨-, -, -, -, -, -, -, hheader⟩ := knownHeaders_plain _ list.known_mem
  obtain ⟨hnewline, hreturn⟩ := ScpiClient.hasLineTerminator_eq_false.mp hheader
  refine ScpiClient.hasLineTerminator_eq_false.mpr ⟨?_, ?_⟩
  · simp [hnewline, notMem_quoteJoin (by decide) (by decide) fun name hname => (h name hname).1]
  · simp [hreturn, notMem_quoteJoin (by decide) (by decide) fun name hname => (h name hname).2]

theorem write_then_read (hready : client.Ready) (hne : names ≠ [])
    (hnames : ∀ name ∈ names, '"' ∉ name ∧ '\n' ∉ name ∧ '\r' ∉ name)
    (hallowed : client.sim.state.concurrent = true ∨ names.length = 1) :
    ∃ written : SimulatorClient,
      list.write names client = some (.ok (), written) ∧
      written = client.withSim (list.stored client.sim (names.map upper)) ∧
      written.sim.state.errors = client.sim.state.errors ∧
      list.setting.set written.sim.state (list.setting.get client.sim.state) = client.sim.state ∧
      (client.transport.responses = [] →
        list.read written = some (.ok (names.map upper), written)) := by
  have hquotes : ∀ name ∈ names, '"' ∉ name := fun name hname => (hnames name hname).1
  have hterminators : ∀ name ∈ names, '\n' ∉ name ∧ '\r' ∉ name := fun name hname =>
    (hnames name hname).2
  have hfree : list.conflicts client.sim.state (names.map upper) = false := by
    rcases hallowed with hon | hone
    · simp [conflicts, hon]
    · simp [conflicts, hone]
  refine ⟨_, ?_, rfl, ?_, ?_, ?_⟩
  · rw [write_eq_send list hne]
    exact ScpiClient.send_ready hready (list.line_plain hterminators)
      (list.handleLine_write hne hquotes hfree)
  · exact list.setting.errors_set _ _
  · rw [ScpiClient.sim_withSim, stored, Lens.set_set, Lens.set_get]
  · intro hresponses
    have hupper : ∀ name ∈ names.map upper, '"' ∉ name := by
      intro name hname
      obtain ⟨original, horiginal, rfl⟩ := List.mem_map.mp hname
      exact quote_notMem_upper (hquotes original horiginal)
    have hidle : (client.withSim (list.stored client.sim (names.map upper))).Idle :=
      ScpiClient.Idle.withSim ⟨hready, hresponses⟩ _
    have hline := list.handleLine_read (list.stored client.sim (names.map upper))
    have hvalue : list.setting.get (list.stored client.sim (names.map upper)).state =
        names.map upper := Lens.get_set _ _ _
    rw [hvalue] at hline
    have hquery := ScpiClient.query_idle hidle list.query_plain hline
    rw [read_eq_query, ScpiClient.queryStrings, Session.map_ok hquery,
      unquoted_splitCsv (by simpa using hne) hupper]
    rfl

theorem display_names_survive : ∃ written : SimulatorClient,
    display.write ["volt1;x", " 'a,b", []] (.opened (.new {})) = some (.ok (), written) ∧
      display.read written = some (.ok ["VOLT1;X", " 'A,B", []], written) := by
  obtain ⟨written, hwrite, -, -, -, hread⟩ :=
    display.write_then_read (ScpiClient.idle_opened (.new {})).toReady
      (by decide : [("volt1;x" : Text), " 'a,b", []] ≠ []) (by decide +kernel) (.inl rfl)
  exact ⟨written, hwrite, hread rfl⟩

end RoundTrip

end FunctionList

end Norma
