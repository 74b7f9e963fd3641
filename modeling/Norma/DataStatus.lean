import Norma.FunctionList
import Norma.Reach

namespace Norma

open ScpiClient

section Simulator

variable {sim : NormaSimulator} {names : List Text} {response : Text}

def requested (sim : NormaSimulator) (names : List Text) : NormaSimulator :=
  if names = [] then sim else FunctionList.measured.stored sim (names.map upper)

def statusCommand (names : List Text) : Text :=
  if names = [] then "DATA:STAT?" else "DATA:STAT? " ++ quoteJoin names

theorem execute_dataStat {a b : Access} (h : a.data true = .done b) :
    execute .dataStat a = some b := by
  have hsense : handleSense .dataStat a = a.data true := rfl
  rw [execute, dispatch, hsense, h]
  rfl

theorem data_configured {a : Access} (hquery : a.command.query = true) (hargs : a.command.args = [])
    (h : measurementResponse a.sim.state a.sim.signal a.sim.state.functions true = some response) :
    a.data true = .done (a.respond response) := by
  rw [Access.data, if_neg (by simp [hquery]), if_pos hargs, Access.measured, h, Handled.ofResult]

theorem data_requested {a : Access} (hquery : a.command.query = true) (hne : names ≠ [])
    (hargs : a.command.args = names.map quote)
    (h : measurementResponse (a.assign .functions (names.map upper)).sim.state a.sim.signal
      (names.map upper) true = some response) :
    a.data true = .done ((a.assign .functions (names.map upper)).respond response) := by
  have hargs' : a.command.args ≠ [] := by simpa [hargs] using hne
  rw [Access.data, if_neg (by simp [hquery]), if_neg hargs', Access.readFunctionList, if_neg hargs',
    hargs, FunctionList.readFunctions_quoted]
  change Handled.ofResult (measurementResponse _ _ (names.map upper) true) _ = _
  exact congrArg (fun result => Handled.ofResult result _) h

theorem handleLine_dataStat (hnames : ∀ name ∈ names, '"' ∉ name)
    (h : measurementResponse (requested sim names).state (requested sim names).signal
      (requested sim names).state.functions true = some response) :
    sim.handleLine (statusCommand names) = some (requested sim names, some response) := by
  have hmem : (("DATA:STAT" : Text), Key.dataStat, ([] : List Int)) ∈ knownHeaders := by
    simp [knownHeaders]
  unfold statusCommand
  unfold requested at h ⊢
  split
  · next hempty =>
    rw [if_pos hempty] at h
    have hdata := data_configured (a := received sim ⟨"DATA:STAT", true, []⟩ .dataStat []) rfl rfl h
    refine (handleLine_query hmem sim).trans ?_
    rw [execute_dataStat hdata]
    rfl
  · next hne =>
    rw [if_neg hne] at h
    have hwhole : Whole ';' (quoteJoin names) :=
      (quoteJoin_quoting (by decide) hnames).1
    have hdata := data_requested
      (a := received sim ⟨"DATA:STAT", true, names.map quote⟩ .dataStat []) rfl hne rfl h
    refine (handleLine_request hmem sim hwhole).trans ?_
    rw [FunctionList.argumentsOf_quoteJoin hne hnames, execute_dataStat hdata]
    rfl

end Simulator

section Fields

structure PlainField (field : Text) : Prop where
  unquoted : Unquoted field
  spaceless : Spaceless field
  comma : ',' ∉ field
  nonempty : field ≠ []

theorem splitCsv_join {fields : List Text} (h : ∀ field ∈ fields, PlainField field) :
    splitCsv (join ',' fields) = fields := by
  by_cases hne : fields = []
  · subst hne
    rfl
  have hsplit : splitUnquoted (join ',' fields) ',' = fields := by
    refine splitUnquoted_join (by decide) hne ?_ ?_
    · intro field hfield
      exact (h field hfield).unquoted.whole_iff.mpr (h field hfield).comma
    · intro field hfield
      exact (h field ((List.dropLast_sublist _).subset hfield)).unquoted.quoteAfter
  have hblank : trim (join ',' fields) ≠ [] := by
    obtain ⟨field, fields, rfl⟩ := List.exists_cons_of_ne_nil hne
    obtain ⟨c, rest, rfl⟩ := List.exists_cons_of_ne_nil (h field (by simp)).nonempty
    rw [join_cons, List.cons_append]
    exact trim_cons_ne_nil ((h (c :: rest) (by simp)).spaceless c (by simp)) _
  rw [splitCsv, splitFields, if_neg hblank, hsplit]
  refine (List.map_congr_left fun field hfield => ?_).trans (List.map_id fields)
  exact trim_of_spaceless (h field hfield).spaceless

theorem plainField_of_chars {field : Text} (hne : field ≠ [])
    (h : ∀ c ∈ field, CNumber.isNumberChar c = true) : PlainField field where
  unquoted c hc := by
    have hnumber := h c hc
    rw [isQuote, Bool.or_eq_false_iff]
    constructor
    · rw [beq_eq_false_iff_ne]
      rintro rfl
      cases hnumber
    · rw [beq_eq_false_iff_ne]
      rintro rfl
      cases hnumber
  spaceless c hc := CNumber.isSpace_of_isNumberChar (h c hc)
  comma hmem := by cases h ',' hmem
  nonempty := hne

theorem toDouble_printed {field : Text} (hprinted : CNumber.Printed field)
    (hplain : PlainField field) : ∃ value, toDouble field = .ok value := by
  have htrim := trim_of_spaceless hplain.spaceless
  obtain ⟨⟨value, rest⟩, hvalue⟩ := Option.isSome_iff_exists.mp hprinted.strtod_isSome
  refine ⟨if kScpiNanThreshold ≤ value.abs then CNumber.nan else value, ?_⟩
  simp only [toDouble, htrim, if_neg hplain.nonempty, hvalue]

theorem formatValue_printed (state : State) (value : Float) :
    CNumber.Printed (formatValue state value) := by
  unfold formatValue
  split
  · exact CNumber.printE_printed _ _
  · split
    · exact (CNumber.printE_printed _ _).take (by decide)
    · exact CNumber.printE_printed _ _

theorem formatValue_plain (state : State) (value : Float) :
    PlainField (formatValue state value) := by
  have hne : formatValue state value ≠ [] := by
    intro hnil
    have hprinted := formatValue_printed state value
    rw [hnil] at hprinted
    cases hprinted
  refine plainField_of_chars hne ?_
  unfold formatValue
  split
  · exact CNumber.printE_chars _ _
  · split
    · exact fun c hc => CNumber.printE_chars _ _ c (List.mem_of_mem_take hc)
    · exact CNumber.printE_chars _ _

theorem toDouble_nan : (toDouble (CNumber.printE 5 kScpiNan)).map Float.isNaN = .ok true := by
  decide +kernel

theorem decoded_nan {state : State} {value decoded : Float} (hnan : value.isNaN = true)
    (h : toDouble (formatValue state value) = .ok decoded) : decoded.isNaN = true := by
  rw [formatValue, if_pos hnan] at h
  have hmap := toDouble_nan
  rw [h] at hmap
  exact Except.ok.inj hmap

theorem statusValues_decoded : ∀ status ∈ statusValues,
    (toDouble (toText status)).map CNumber.truncInt32 = .ok status := by
  decide +kernel

theorem statusValues_plain : ∀ status ∈ statusValues, toText status ≠ [] ∧
    (toText status).all CNumber.isNumberChar = true := by
  decide +kernel

end Fields

section Reading

theorem mapM_forall₂ {M : Type → Type} [Monad M] [LawfulMonad M] {A B : Type} {f : A → M B}
    {xs : List A} (h : ∀ x ∈ xs, ∃ y, f x = pure y) :
    ∃ ys, xs.mapM f = pure ys ∧ List.Forall₂ (fun x y => f x = pure y) xs ys := by
  induction xs with
  | nil => exact ⟨[], rfl, .nil⟩
  | cons x xs ih =>
    obtain ⟨y, hy⟩ := h x (by simp)
    obtain ⟨ys, hys, hforall⟩ := ih fun x' hx' => h x' (by simp [hx'])
    exact ⟨y :: ys, by simp [List.mapM_cons, hy, hys], .cons hy hforall⟩

variable {state : State} {signal : SimulatedSignal Float}
  {measurements : List (SimulatedMeasurement Float)}

def Terminates (state : State) (signal : SimulatedSignal Float) (function : Text) : Prop :=
  ∃ fuel m, measureFuel state signal fuel function = some m

def valueFields (state : State) (measurements : List (SimulatedMeasurement Float)) : List Text :=
  measurements.map fun m => formatValue state m.value

def statusFields (measurements : List (SimulatedMeasurement Float)) : List Text :=
  measurements.map fun m => toText m.status

theorem measureAll_terminates {functions : List Text}
    (h : ∀ function ∈ functions, Terminates state signal function) :
    ∃ measurements, measureAll state signal functions = some measurements ∧
      List.Forall₂ (fun function m => measure state signal function = some m) functions
        measurements := by
  refine mapM_forall₂ fun function hfunction => ?_
  obtain ⟨fuel, m, hm⟩ := h function hfunction
  exact ⟨m, measure_eq_some_iff.mpr ⟨fuel, hm⟩⟩

theorem measureAll_isSome {state : State} {signal : SimulatedSignal Float} {functions : List Text}
    {measurements : List (SimulatedMeasurement Float)}
    (h : measureAll state signal functions = some measurements) :
    ∀ function ∈ functions, Terminates state signal function := by
  induction functions generalizing measurements with
  | nil => simp
  | cons first functions ih =>
    rw [measureAll, List.mapM_cons] at h
    obtain ⟨m, hfirst, hrest⟩ := Option.bind_eq_some_iff.mp h
    obtain ⟨rest, hrest, -⟩ := Option.bind_eq_some_iff.mp hrest
    intro function hfunction
    rcases List.mem_cons.mp hfunction with rfl | hmem
    · obtain ⟨fuel, hfuel⟩ := measure_eq_some_iff.mp hfirst
      exact ⟨fuel, m, hfuel⟩
    · exact ih hrest function hmem

theorem measurementResponse_fields {functions : List Text}
    (hascii : state.dataFormat.format = .ascii)
    (h : measureAll state signal functions = some measurements)
    (hlength : measurements.length = functions.length) :
    measurementResponse state signal functions true =
      some (join ',' (valueFields state measurements ++ statusFields measurements)) := by
  by_cases hne : functions = []
  · subst hne
    obtain rfl := List.length_eq_zero_iff.mp hlength
    rfl
  · have hvalues : valueFields state measurements ≠ [] := by
      rw [valueFields, Ne, List.map_eq_nil_iff, ← List.length_eq_zero_iff, hlength,
        List.length_eq_zero_iff]
      exact hne
    rw [measurementResponse, if_neg hne, if_neg (by simp [hascii]), h, join_append _ hvalues]
    rfl

theorem fields_plain (h : ∀ m ∈ measurements, m.status ∈ statusValues) :
    ∀ field ∈ valueFields state measurements ++ statusFields measurements, PlainField field := by
  refine List.forall_mem_append.mpr ⟨fun field hfield => ?_, fun field hfield => ?_⟩
  · obtain ⟨m, -, rfl⟩ := List.mem_map.mp hfield
    exact formatValue_plain _ _
  · obtain ⟨m, hm, rfl⟩ := List.mem_map.mp hfield
    obtain ⟨hne, hchars⟩ := statusValues_plain m.status (h m hm)
    exact plainField_of_chars hne (List.all_eq_true.mp hchars)

theorem values_decoded (state : State) (measurements : List (SimulatedMeasurement Float)) :
    ∃ values, (valueFields state measurements).mapM toDouble = .ok values ∧
      List.Forall₂ (fun m value => toDouble (formatValue state m.value) = .ok value) measurements
        values := by
  have hfields : ∀ field ∈ valueFields state measurements, ∃ value,
      toDouble field = pure value := by
    intro field hfield
    obtain ⟨m, -, rfl⟩ := List.mem_map.mp hfield
    exact toDouble_printed (formatValue_printed _ _) (formatValue_plain _ _)
  obtain ⟨values, hvalues, hforall⟩ := mapM_forall₂ hfields
  exact ⟨values, hvalues, List.forall₂_map_left_iff.mp hforall⟩

theorem statuses_decoded (h : ∀ m ∈ measurements, m.status ∈ statusValues) :
    ∃ statuses, (statusFields measurements).mapM toDouble = .ok statuses ∧
      statuses.map CNumber.truncInt32 = measurements.map (·.status) := by
  induction measurements with
  | nil => exact ⟨[], rfl, rfl⟩
  | cons m measurements ih =>
    obtain ⟨statuses, hstatuses, hmap⟩ := ih fun m' hm' => h m' (by simp [hm'])
    have hdecoded := statusValues_decoded m.status (h m (by simp))
    cases hvalue : toDouble (toText m.status) with
    | error fault =>
      rw [hvalue] at hdecoded
      cases hdecoded
    | ok value =>
      rw [hvalue] at hdecoded
      refine ⟨value :: statuses, ?_, ?_⟩
      · rw [statusFields, List.map_cons, List.mapM_cons, hvalue]
        change (do let rest ← (statusFields measurements).mapM toDouble; pure (value :: rest)) = _
        rw [hstatuses]
        rfl
      · rw [List.map_cons, List.map_cons, hmap, Except.ok.inj hdecoded]

theorem parseValues_response (state : State) (h : ∀ m ∈ measurements, m.status ∈ statusValues) :
    ∃ values statuses,
      parseValues (join ',' (valueFields state measurements ++ statusFields measurements)) =
        .ok (values ++ statuses) ∧
      List.Forall₂ (fun m value => toDouble (formatValue state m.value) = .ok value) measurements
        values ∧
      statuses.map CNumber.truncInt32 = measurements.map (·.status) := by
  obtain ⟨values, hvalues, hforall⟩ := values_decoded state measurements
  obtain ⟨statuses, hstatuses, hmap⟩ := statuses_decoded h
  refine ⟨values, statuses, ?_, hforall, hmap⟩
  rw [parseValues, splitCsv_join (fields_plain h), List.mapM_append, hvalues, hstatuses]
  rfl

structure Reading.Reports (reading : Reading) (sim : NormaSimulator) : Prop where
  values_length : reading.values.length = sim.state.functions.length
  status_length : reading.status.length = sim.state.functions.length
  entry : ∀ i (hi : i < sim.state.functions.length), ∃ m value,
    measure sim.state sim.signal (sim.state.functions[i]) = some m ∧
    reading.status[i]? = some m.status ∧ reading.values[i]? = some value ∧
    toDouble (formatValue sim.state m.value) = .ok value ∧
    (m.value.isNaN = true → value.isNaN = true)

theorem quoteJoin_plain {head : Text} (hhead : hasLineTerminator head = false) {names : List Text}
    (h : ∀ name ∈ names, '\n' ∉ name ∧ '\r' ∉ name) :
    hasLineTerminator (head ++ quoteJoin names) = false := by
  have hnewline : '\n' ∉ quoteJoin names :=
    notMem_quoteJoin (by decide) (by decide) fun name hname => (h name hname).1
  have hreturn : '\r' ∉ quoteJoin names :=
    notMem_quoteJoin (by decide) (by decide) fun name hname => (h name hname).2
  obtain ⟨hnewline', hreturn'⟩ := hasLineTerminator_eq_false.mp hhead
  exact hasLineTerminator_eq_false.mpr (by simp [hnewline, hreturn, hnewline', hreturn'])

theorem statusCommand_plain {names : List Text} (h : ∀ name ∈ names, '\n' ∉ name ∧ '\r' ∉ name) :
    hasLineTerminator (statusCommand names) = false := by
  unfold statusCommand
  split
  · decide +kernel
  · have hcommand : hasLineTerminator "DATA:STAT? " = false := by decide +kernel
    exact quoteJoin_plain hcommand h

theorem statuses_valid {functions : List Text}
    (h : List.Forall₂ (fun function m => measure state signal function = some m) functions
      measurements) : ∀ m ∈ measurements, m.status ∈ statusValues := by
  induction h with
  | nil => simp
  | cons hmeasure _ ih => exact List.forall_mem_cons.mpr ⟨measure_status hmeasure, ih⟩

theorem reports_of_fields {sim : NormaSimulator} {values : List Float} {status : List Int}
    (hmeasured : List.Forall₂ (fun function m => measure sim.state sim.signal function = some m)
      sim.state.functions measurements)
    (hvalues : List.Forall₂ (fun m value => toDouble (formatValue sim.state m.value) = .ok value)
      measurements values)
    (hstatus : status = measurements.map (·.status)) :
    Reading.Reports ⟨values, status⟩ sim where
  values_length := by rw [hmeasured.length_eq, hvalues.length_eq]
  status_length := by rw [hmeasured.length_eq, hstatus, List.length_map]
  entry i hi := by
    have hm : i < measurements.length := hmeasured.length_eq ▸ hi
    have hv : i < values.length := hvalues.length_eq ▸ hm
    have hvalue := hvalues.get hm hv
    refine ⟨measurements[i], values[i], hmeasured.get hi hm, ?_, ?_, hvalue, ?_⟩
    · simp [hstatus, hm]
    · exact List.getElem?_eq_getElem hv
    · intro hnan
      exact decoded_nan hnan hvalue

theorem dataWithStatus_ok {client after : SimulatorClient} {names : List Text} {values : List Float}
    {statuses : List Float} (hlength : statuses.length = values.length)
    (h : queryValues (statusCommand names) client = some (.ok (values ++ statuses), after)) :
    NormaInstrument.dataWithStatus names client =
      some (.ok ⟨values, statuses.map CNumber.truncInt32⟩, after) := by
  have heven : (values ++ statuses).length = 2 * values.length := by
    simp [hlength]
    omega
  have hcount : (values ++ statuses).length / 2 = values.length := by omega
  change (queryValues (statusCommand names) >>= _) client = _
  rw [Session.bind_ok h, if_neg (by omega)]
  simp only [hcount, List.take_left, List.drop_left]
  rfl

theorem requested_dataFormat (sim : NormaSimulator) (names : List Text) :
    (requested sim names).state.dataFormat = sim.state.dataFormat := by
  unfold requested
  split <;> rfl

theorem requested_functions (sim : NormaSimulator) (names : List Text) :
    (requested sim names).state.functions =
      if names = [] then sim.state.functions else names.map upper := by
  unfold requested
  split <;> rfl

theorem dataWithStatus_idle {client : SimulatorClient} (hidle : client.Idle) {names : List Text}
    (hnames : ∀ name ∈ names, '"' ∉ name ∧ '\n' ∉ name ∧ '\r' ∉ name)
    (hascii : client.sim.state.dataFormat.format = .ascii)
    (hterminates : ∀ function ∈ (requested client.sim names).state.functions,
      Terminates (requested client.sim names).state (requested client.sim names).signal function) :
    ∃ reading, NormaInstrument.dataWithStatus names client =
        some (.ok reading, client.withSim (requested client.sim names)) ∧
      reading.Reports (requested client.sim names) := by
  rw [← requested_dataFormat client.sim names] at hascii
  obtain ⟨measurements, hall, hmeasured⟩ := measureAll_terminates hterminates
  have hstatus := statuses_valid hmeasured
  have hresponse := measurementResponse_fields hascii hall hmeasured.length_eq.symm
  obtain ⟨values, statuses, hparse, hvalues, hstatuses⟩ :=
    parseValues_response (requested client.sim names).state hstatus
  have hline := handleLine_dataStat (fun name hname => (hnames name hname).1) hresponse
  have hquery := query_idle hidle (statusCommand_plain fun name hname => (hnames name hname).2) hline
  have hraw : queryValues (statusCommand names) client =
      some (.ok (values ++ statuses), client.withSim (requested client.sim names)) := by
    rw [queryValues, Session.bind_ok hquery, Session.ofExcept, hparse]
  have hlength : statuses.length = values.length := by
    have hcount := congrArg List.length hstatuses
    rw [List.length_map, List.length_map] at hcount
    rw [hcount, hvalues.length_eq]
  exact ⟨_, dataWithStatus_ok hlength hraw, reports_of_fields hmeasured hvalues hstatuses⟩

theorem measureFuel_requested (sim : NormaSimulator) (names : List Text) (fuel : Nat)
    (function : Text) :
    measureFuel (requested sim names).state (requested sim names).signal fuel function =
      measureFuel sim.state sim.signal fuel function := by
  by_cases hempty : names = []
  · rw [requested, if_pos hempty]
  · rw [requested, if_neg hempty]
    induction fuel generalizing function with
    | zero => rfl
    | succ fuel ih =>
      rw [measureFuel, measureFuel, funext ih]
      rfl

theorem terminates_requested {sim : NormaSimulator} {names : List Text}
    (h : ∀ name ∈ if names = [] then sim.state.functions else names,
      Terminates sim.state sim.signal name) :
    ∀ function ∈ (requested sim names).state.functions,
      Terminates (requested sim names).state (requested sim names).signal function := by
  intro function hfunction
  rw [requested_functions] at hfunction
  simp only [Terminates, measureFuel_requested]
  by_cases hempty : names = []
  · rw [if_pos hempty] at h hfunction
    exact h function hfunction
  · rw [if_neg hempty] at h hfunction
    obtain ⟨name, hname, rfl⟩ := List.mem_map.mp hfunction
    simp only [measureFuel_upper]
    exact h name hname

theorem data_with_status_reports {client : SimulatorClient} (hidle : client.Idle)
    {names : List Text} (hnames : ∀ name ∈ names, '"' ∉ name ∧ '\n' ∉ name ∧ '\r' ∉ name)
    (hascii : client.sim.state.dataFormat.format = .ascii)
    (hterminates : ∀ name ∈ if names = [] then client.sim.state.functions else names,
      Terminates client.sim.state client.sim.signal name) :
    ∃ (reading : Reading) (after : SimulatorClient),
      NormaInstrument.dataWithStatus names client = some (.ok reading, after) ∧
      reading.Reports after.sim ∧
      after.sim.state.functions =
        if names = [] then client.sim.state.functions else names.map upper := by
  obtain ⟨reading, hrun, hreports⟩ :=
    dataWithStatus_idle hidle hnames hascii (terminates_requested hterminates)
  exact ⟨reading, _, hrun, hreports, requested_functions _ _⟩

theorem volt1_terminates :
    Terminates (NormaSimulator.new {}).state (NormaSimulator.new {}).signal "volt1" :=
  ⟨1, Option.isSome_iff_exists.mp (by decide +kernel)⟩

theorem volt1_reported : ∃ (reading : Reading) (after : SimulatorClient),
    NormaInstrument.dataWithStatus [("volt1" : Text)] (opened (.new {})) =
      some (.ok reading, after) ∧
    reading.Reports after.sim ∧ after.sim.state.functions = [("VOLT1" : Text)] :=
  data_with_status_reports (idle_opened (.new {})) (by decide +kernel) rfl fun name hname => by
    rw [List.mem_singleton.mp hname]
    exact volt1_terminates

theorem data_list_not_verbatim :
    ¬ ∀ (client : SimulatorClient) (names : List Text), client.Idle → Reachable client.sim →
      client.sim.state.dataFormat.format = .ascii → names ≠ [] →
      (∀ name ∈ names, '"' ∉ name ∧ '\n' ∉ name ∧ '\r' ∉ name) →
      (∀ name ∈ names, Terminates client.sim.state client.sim.signal name) →
      ∃ reading after, NormaInstrument.dataWithStatus names client = some (.ok reading, after) ∧
        after.sim.state.functions = names := by
  intro h
  have hplain : ∀ name ∈ [("volt1" : Text)], '"' ∉ name ∧ '\n' ∉ name ∧ '\r' ∉ name := by
    decide +kernel
  have hterminates : ∀ name ∈ [("volt1" : Text)],
      Terminates (NormaSimulator.new {}).state (NormaSimulator.new {}).signal name := by
    intro name hname
    rw [List.mem_singleton.mp hname]
    exact volt1_terminates
  have hidle := idle_opened (.new {})
  obtain ⟨reading, after, hrun, hfunctions⟩ :=
    h _ [("volt1" : Text)] hidle (.new {}) rfl (by decide) hplain hterminates
  obtain ⟨reading', hrun', -⟩ :=
    dataWithStatus_idle hidle hplain rfl (terminates_requested hterminates)
  rw [hrun'] at hrun
  have hafter : _ = after := congrArg Prod.snd (Option.some.inj hrun)
  rw [← hafter] at hfunctions
  have hupper : [("VOLT1" : Text)] = [("volt1" : Text)] := hfunctions
  exact absurd hupper (by decide)

end Reading

end Norma
