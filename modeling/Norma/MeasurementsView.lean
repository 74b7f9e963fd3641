import Norma.OneExchange
import Norma.DataStatus
import Norma.LateResponse
import Norma.OneFunction
import Norma.BinaryFormat

namespace Norma

section Names

def SimulatorState.UpperNames (state : State) : Prop :=
  ∀ name ∈ state.functions, upper name = name

theorem readFunctions_upper {args names : List Text} (h : readFunctions args = .ok names) :
    ∀ name ∈ names, upper name = name := by
  induction args generalizing names with
  | nil =>
    cases h
    simp
  | cons argument args ih =>
    obtain ⟨-, rest, hrest, rfl⟩ := readFunctions_cons h
    exact List.forall_mem_cons.mpr ⟨upper_upper _, ih hrest⟩

variable {a : Access} {state : State}

theorem Stored.upperNames (h : Stored a state) (hs : a.sim.state.UpperNames) :
    state.UpperNames := by
  cases h with
  | functions hkey hread hroom => exact readFunctions_upper hread
  | allFunctions hkey =>
    have hall : ∀ name ∈ Norma.allFunctions, upper name = name := by decide +kernel
    exact hall
  | noFunctions => exact fun name hname => absurd hname List.not_mem_nil
  | oneFunction hon => exact fun name hname => hs name (List.mem_of_mem_take hname)
  | number hsetting =>
    cases hsetting with
    | scale hconfig => cases hconfig <;> exact hs
    | _ => exact hs
  | integer hsetting => cases hsetting <;> exact hs
  | @mask reg _ _ hsetting => cases hsetting <;> cases reg <;> exact hs
  | boolean hsetting =>
    cases hsetting with
    | autorange hconfig => cases hconfig <;> exact hs
    | _ => exact hs
  | keyword hsetting => cases hsetting <;> exact hs
  | functionList hsetting => cases hsetting <;> exact hs
  | range hconfig => cases hconfig <;> exact hs
  | source hsetting => cases hsetting <;> exact hs
  | format hsetting => cases hsetting <;> exact hs
  | _ => exact hs

theorem Step.Valid.upperNames {step : Step} (h : step.Valid)
    (hs : step.before.state.UpperNames) : step.after.sim.state.UpperNames := by
  rcases h.stateChange with hrecorded | ⟨a, ha, hchange⟩
  · generalize step.after.sim.state = after at hrecorded ⊢
    cases hrecorded
    exact hs
  · rw [← ha.sim] at hs
    generalize step.after.sim.state = after at hchange ⊢
    cases hchange with
    | recorded hrecorded =>
      cases hrecorded
      exact hs
    | measured hquery hread hkey => exact readFunctions_upper hread
    | stored hset hstored => exact hstored.upperNames hs
    | reset hkey hset => exact fun name hname => absurd hname List.not_mem_nil

theorem Reachable.upperNames {sim : NormaSimulator} (h : Reachable sim) :
    sim.state.UpperNames :=
  h.invariant (fun sim => sim.state.UpperNames)
    (fun _ name hname => absurd hname List.not_mem_nil) fun move hvalid hs => by
      cases move with
      | command step => exact hvalid.upperNames hs
      | signal sim given => exact hs

end Names

namespace Interop

open Capi (Handle Status normaQuery normaReadData normaWrite)
open CNumber (cstr)

structure MeasurementRow where
  index : Nat
  function : ManagedText
  value : Float

def trimWhere (p : Char → Bool) (text : ManagedText) : ManagedText :=
  (text.dropWhile p).rdropWhile p

def splitEntries (separator : Char) (text : ManagedText) : List ManagedText :=
  ((text.splitOn separator).map (trimWhere isWhiteSpace)).filter (· ≠ [])

def parseFunctionNames (response : ManagedText) : List ManagedText :=
  ((splitEntries ',' response).map (trimWhere (· == '"'))).filter (0 < ·.length)

def rowFunction (names : List ManagedText) (i : Nat) : ManagedText :=
  if h : i < names.length then names[i] else "value ".toList ++ toText (i + 1)

def measurementRows (names : List ManagedText) (values : List Float) : List MeasurementRow :=
  values.mapIdx fun i value => ⟨i + 1, rowFunction names i, value⟩

structure InstrumentSession (T : Type) where
  instrument : Option (Handle T) := none

namespace InstrumentSession

section

variable {T A : Type}

def invoke (action : Handle T → Option (Except Exception A × Handle T))
    (session : InstrumentSession T) : Option (Except Exception A × InstrumentSession T) :=
  match session.instrument with
  | none => some (.error (.invalidOperation "Not connected.".toList), session)
  | some h => (action h).map fun (result, h) => (result, { instrument := some h })

variable [Transport T]

def queryAsync (scpiQuery : ManagedText) :
    InstrumentSession T → Option (Except Exception ManagedText × InstrumentSession T) :=
  invoke fun h => (query scpiQuery h).map fun (result, _, h) => (result, h)

def writeAsync (scpiCommand : ManagedText) :
    InstrumentSession T → Option (Except Exception Unit × InstrumentSession T) :=
  invoke (write scpiCommand)

def readDataAsync : InstrumentSession T →
    Option (Except Exception (List Float) × InstrumentSession T) :=
  invoke readData

-- `candidate` is what the native library connects to; it is kept when it says what it is.
def connectAsync (candidate : Except Exception (Handle T)) (session : InstrumentSession T) :
    Option (Except Exception Unit × InstrumentSession T) :=
  match session.instrument, candidate with
  | some _, _ => some (.error (.invalidOperation "Already connected.".toList), session)
  | none, .error exception => some (.error exception, session)
  | none, .ok h =>
      (query "*IDN?".toList h).map fun (result, _, h) =>
        match result with
        | .ok _ => (.ok (), { instrument := some h })
        | .error exception => (.error exception, session)

def disconnectAsync (_ : InstrumentSession T) : InstrumentSession T := { instrument := none }

end

end InstrumentSession

-- What another user does with the session while it holds the gate.
inductive SessionCall (T : Type) where
  | connect (candidate : Except Exception (Handle T))
  | disconnect
  | write (scpiCommand : ManagedText)
  | query (scpiQuery : ManagedText)
  | readData

section

variable {T : Type} [Transport T]

open InstrumentSession

def SessionCall.run : SessionCall T → InstrumentSession T → Option (InstrumentSession T)
  | .connect candidate, session => (connectAsync candidate session).map (·.2)
  | .disconnect, session => some session.disconnectAsync
  | .write scpiCommand, session => (writeAsync scpiCommand session).map (·.2)
  | .query scpiQuery, session => (queryAsync scpiQuery session).map (·.2)
  | .readData, session => session.readDataAsync.map (·.2)

def runCalls : List (SessionCall T) → InstrumentSession T → Option (InstrumentSession T)
  | [], session => some session
  | call :: calls, session => (call.run session).bind (runCalls calls)

def functionQuery : ManagedText := "SENSe:FUNCtion?".toList

-- The calls of `between` are those that get the gate between the two of the read.
def readAsync (between : List (SessionCall T)) (session : InstrumentSession T) :
    Option (Except Exception (List MeasurementRow) × InstrumentSession T) :=
  (session.queryAsync functionQuery).bind fun (functionsResponse, session) =>
    match functionsResponse with
    | .error exception => some (.error exception, session)
    | .ok functionsResponse =>
        let names := parseFunctionNames functionsResponse
        (runCalls between session).bind fun session =>
          session.readDataAsync.map fun (values, session) =>
            (values.map (measurementRows names), session)

end

section Exchange

open ScpiClient (hasLineTerminator query_idle parseValues queryValues splitCsv)
open History (query_none)

variable {sim : NormaSimulator} {h after : Handle SimulatorTransport} {text response : Text}

theorem caught_instrument {T : Type} (h : Handle T) (thrown : Capi.Thrown) :
    (h.caught thrown).2.instrument = h.instrument := by
  cases thrown with
  | library fault => cases fault <;> rfl
  | standard what => rfl
  | other => rfl

theorem call_instrument {T : Type} {entry : Capi.Entry T} {h after : Handle T} {status : Status}
    {output : Capi.Output} (hcall : entry.call h = some (status, output, after)) :
    after = h ∨ ∃ result, entry.fn h.instrument = some (result, after.instrument) := by
  rw [Capi.Entry.call] at hcall
  split at hcall
  · cases hcall
    exact .inl rfl
  · obtain ⟨⟨result, instrument⟩, hfn, hpair⟩ := Option.map_eq_some_iff.mp hcall
    refine .inr ⟨result, hfn.trans ?_⟩
    cases result with
    | error fault =>
      cases hpair
      have hsame := caught_instrument { h with instrument } (.library fault)
      exact congrArg (fun left => some (Except.error fault, left)) hsame.symm
    | ok value =>
      obtain ⟨output, shortage⟩ := value
      cases shortage <;> cases hpair <;> rfl

theorem queryWith_repeated {sizes : List Nat} (hidle : h.instrument.Idle)
    (hplain : hasLineTerminator (cstr text) = false)
    (hline : h.instrument.sim.handleLine (cstr text) = some (h.instrument.sim, some response))
    (hsizes : ∀ size ∈ sizes, size ≠ 0) {result : ManagedText} {sent : List Text}
    (hquery : queryWith text sizes h = some (.ok result, sent, after)) :
    result = Utf8.decode (cstr response) ∧ after.instrument = h.instrument := by
  induction sizes generalizing h sent with
  | nil => cases hquery
  | cons size sizes ih =>
    have hexchange := query_idle hidle hplain hline
    by_cases hshort : response.length < size
    · obtain ⟨after', hafter, hreturned⟩ : ∃ after' : Handle _, after'.instrument = _ ∧
          queryWith text (size :: sizes) h = _ := queryWith_short hshort hexchange
      rw [hreturned] at hquery
      cases hquery
      exact ⟨rfl, hafter⟩
    · obtain ⟨mid, hmid, hcall⟩ := call_query (hsizes size List.mem_cons_self) hexchange
      rw [queryWith, hcall, if_neg hshort] at hquery
      obtain ⟨⟨result', rest, after'⟩, hrest, heq⟩ := Option.map_eq_some_iff.mp hquery
      cases heq
      have hsame : mid.instrument = h.instrument := hmid
      rw [← hsame] at hidle hline ⊢
      exact ih hidle hline (fun size hsize => hsizes size (List.mem_cons_of_mem _ hsize)) hrest

theorem functionQuery_bytes : Utf8.encode functionQuery = ("SENSe:FUNCtion?" : Text) := by
  decide +kernel

theorem handleLine_functionQuery (sim : NormaSimulator) : sim.handleLine "SENSe:FUNCtion?" =
    some (sim, some (quoteJoin sim.state.functions)) := by
  have hparse : parseCommand "SENSe:FUNCtion?" = ⟨"SENSe:FUNCtion", true, []⟩ := by decide +kernel
  have hfind : findCommand (headerTokens [] "SENSe:FUNCtion") = some (.func, []) := by
    decide +kernel
  have hplain : Unquoted "SENSe:FUNCtion?" := by decide +kernel
  rw [handleLine_known (hplain.whole_iff.mpr (by decide +kernel)) (by decide +kernel) (by decide)
    hparse (by decide) hfind]
  rfl

theorem query_functions (hidle : h.instrument.Idle) {result : ManagedText} {sent : List Text}
    (hquery : query functionQuery h = some (.ok result, sent, after)) :
    result = Utf8.decode (cstr (quoteJoin h.instrument.sim.state.functions)) ∧
      after.instrument = h.instrument := by
  have hgiven : isNullOrWhiteSpace functionQuery = false := by decide +kernel
  have hwhole : cstr ("SENSe:FUNCtion?" : Text) = "SENSe:FUNCtion?" := by decide +kernel
  rw [query_given h hgiven, functionQuery_bytes] at hquery
  refine queryWith_repeated hidle ?_ ?_ ?_ hquery
  · rw [hwhole]
    decide +kernel
  · rw [hwhole]
    exact handleLine_functionQuery _
  · rw [bufferSizes_eq]
    decide

theorem execute_data_configured {a : Access} (hquery : a.command.query = true)
    (hargs : a.command.args = []) : execute .data a =
      (measurementResponse a.sim.state a.sim.signal a.sim.state.functions false).map a.respond := by
  have hdata : a.data false = a.measured false := by
    rw [Access.data, if_neg (by simp [hquery]), if_pos hargs]
  have hsense : handleSense .data a = a.data false := rfl
  have hroute : handleRoute .data a = .declined ∧ handleInput .data a = .declined := ⟨rfl, rfl⟩
  rw [execute, dispatch, hroute.1, hroute.2, hsense, hdata, Access.measured]
  cases measurementResponse a.sim.state a.sim.signal a.sim.state.functions false with
  | none => rfl
  | some text => rfl

theorem handleLine_data (sim : NormaSimulator) : sim.handleLine "DATA?" =
    (measurementResponse sim.state sim.signal sim.state.functions false).map fun response =>
      (sim, some response) := by
  have hmem : (("DATA" : Text), Key.data, ([] : List Int)) ∈ knownHeaders := by
    simp [knownHeaders]
  refine (handleLine_query hmem sim).trans ?_
  rw [execute_data_configured rfl rfl, Option.map_map]
  rfl

theorem data_idle {client : SimulatorClient} (hidle : client.Idle) :
    NormaInstrument.data [] client =
      (measurementResponse client.sim.state client.sim.signal client.sim.state.functions
        false).map fun response => (parseValues response, client) := by
  have hplain : hasLineTerminator "DATA?" = false := by decide +kernel
  have hline := handleLine_data client.sim
  change queryValues "DATA?" client = _
  generalize measurementResponse client.sim.state client.sim.signal client.sim.state.functions
    false = result at hline ⊢
  cases result with
  | none => exact Session.bind_none (query_none hidle.writable hplain hline) _
  | some response => exact ofExcept_query parseValues (query_idle hidle hplain hline)

theorem measured_length {state : State} {signal : SimulatedSignal Float} {functions : List Text}
    (hresponse : measurementResponse state signal functions false = some response)
    {values : List Float} (hparse : parseValues response = .ok values) :
    values.length = functions.length := by
  by_cases hnone : functions = []
  · subst hnone
    cases hresponse
    cases hparse
    rfl
  · rw [measurementResponse, if_neg hnone] at hresponse
    by_cases hascii : state.dataFormat.format = .ascii
    · rw [if_neg (by simp [hascii])] at hresponse
      obtain ⟨measurements, hall, hjoin⟩ := Option.map_eq_some_iff.mp hresponse
      obtain ⟨measurements', hall', hmeasured⟩ := measureAll_terminates (measureAll_isSome hall)
      obtain rfl := Option.some.inj (hall.symm.trans hall')
      have hfields : splitCsv (join ',' (valueFields state measurements)) =
          valueFields state measurements := by
        refine splitCsv_join fun field hfield => ?_
        obtain ⟨m, -, rfl⟩ := List.mem_map.mp hfield
        exact formatValue_plain _ _
      have htext : response = join ',' (valueFields state measurements) := by
        rw [← hjoin]
        exact List.append_nil _
      obtain ⟨values', hvalues, hforall⟩ := values_decoded state measurements
      rw [htext, parseValues, hfields, hvalues] at hparse
      obtain rfl := Except.ok.inj hparse
      rw [← hforall.length_eq, hmeasured.length_eq]
    · rw [if_pos hascii] at hresponse
      obtain rfl := Option.some.inj hresponse
      obtain ⟨message, hblock⟩ := parseValues_block _
      rw [binaryBlock, hblock] at hparse
      cases hparse

theorem call_readData (capacity : Nat) {values : List Float}
    (hdata : NormaInstrument.data [] h.instrument = some (.ok values, h.instrument)) :
    ∃ after, after.instrument = h.instrument ∧ (normaReadData true true capacity).call h =
      some (if capacity < values.length then .bufferTooSmall else .ok,
        .values (values.take capacity) values.length, after) := by
  have hfn : (normaReadData true true capacity).fn h.instrument =
      some (.ok (.values (values.take capacity) values.length,
        if capacity < values.length then
          some ("value buffer too small (" ++ toText values.length ++ " values)")
        else none), h.instrument) := Session.bind_ok hdata _
  rw [Capi.Entry.call, if_neg (by simp [normaReadData]), Capi.guarded, hfn]
  by_cases hshort : capacity < values.length
  · rw [if_pos hshort, if_pos hshort]
    refine ⟨_, ?_, rfl⟩
    rfl
  · rw [if_neg hshort, if_neg hshort]
    refine ⟨_, ?_, rfl⟩
    rfl

theorem readData_ok {values : List Float}
    (hdata : NormaInstrument.data [] h.instrument = some (.ok values, h.instrument)) :
    ∃ after, after.instrument = h.instrument ∧ readData h = some (.ok values, after) := by
  obtain ⟨mid, hmid, hcall⟩ := call_readData InitialDataCapacity hdata
  by_cases hshort : InitialDataCapacity < values.length
  · rw [if_pos hshort] at hcall
    rw [← hmid] at hdata
    obtain ⟨after, hafter, hrepeated⟩ := call_readData values.length hdata
    rw [if_neg (Nat.lt_irrefl _), List.take_length] at hrepeated
    refine ⟨after, hafter.trans hmid, ?_⟩
    simp only [readData, hcall]
    rw [if_pos ⟨trivial, hshort⟩]
    exact congrArg _ hrepeated
  · rw [if_neg hshort, List.take_of_length_le (Nat.not_lt.mp hshort)] at hcall
    exact ⟨mid, hmid, by simp only [readData, hcall]; rfl⟩

theorem readData_failed {fault : Fault}
    (hdata : NormaInstrument.data [] h.instrument = some (.error fault, h.instrument)) :
    ∃ exception after, after.instrument = h.instrument ∧
      readData h = some (.error exception, after) := by
  have hfn : (normaReadData true true InitialDataCapacity).fn h.instrument =
      some (.error fault, h.instrument) := Session.bind_error hdata _
  have hcall : (normaReadData true true InitialDataCapacity).call h =
      some ((h.caught (.library fault)).1, .values [] 0, (h.caught (.library fault)).2) := by
    rw [Capi.Entry.call, if_neg (by simp [normaReadData]), Capi.guarded, hfn]
    rfl
  have hstatus := (Capi.caught_reports h (.library fault)).1
  refine ⟨errorOf (h.caught (.library fault)).1 (h.caught (.library fault)).2, _,
    caught_instrument h (.library fault), ?_⟩
  simp only [readData, hcall]
  rw [if_neg (fun hcount => absurd hcount.2 (by decide)), if_neg hstatus]

theorem readData_idle (hidle : h.instrument.Idle) {result : Except Exception (List Float)}
    (hread : readData h = some (result, after)) : after.instrument = h.instrument ∧
      ∀ values, result = .ok values → values.length = h.instrument.sim.state.functions.length := by
  have hdata := data_idle hidle
  cases hresponse : measurementResponse h.instrument.sim.state h.instrument.sim.signal
      h.instrument.sim.state.functions false with
  | none =>
    rw [hresponse] at hdata
    have hfn : (normaReadData true true InitialDataCapacity).fn h.instrument = none :=
      Session.bind_none hdata _
    have hcall : (normaReadData true true InitialDataCapacity).call h = none := by
      rw [Capi.Entry.call, if_neg (by simp [normaReadData]), Capi.guarded, hfn]
      rfl
    simp only [readData, hcall] at hread
    cases hread
  | some response =>
    rw [hresponse] at hdata
    cases hparse : parseValues response with
    | error fault =>
      obtain ⟨exception, after', hafter, hfailed⟩ := @readData_failed h fault
        (by rw [hdata, Option.map_some, hparse])
      rw [hfailed] at hread
      cases hread
      exact ⟨hafter, fun values hvalues => by cases hvalues⟩
    | ok values' =>
      obtain ⟨after', hafter, hok⟩ := @readData_ok h values'
        (by rw [hdata, Option.map_some, hparse])
      rw [hok] at hread
      cases hread
      refine ⟨hafter, fun values hvalues => ?_⟩
      cases hvalues
      exact measured_length hresponse hparse

end Exchange

section Rows

variable {names : List ManagedText} {values : List Float} {functions : List Text} {i : Nat}

def Paired (rows : List MeasurementRow) (functions : List Text) : Prop :=
  ∀ (i : Nat) (row : MeasurementRow), rows[i]? = some row →
    ∃ name, functions[i]? = some name ∧ row.function = Utf8.decode name

theorem toUpper_ne (c : Char) : c.toUpper ≠ 'v' := by
  intro hv
  rcases toUpper_cases c with hsame | ⟨-, hhigh, hshift⟩
  · obtain rfl := hsame.symm.trans hv
    exact absurd hv (by decide)
  · rw [hv] at hshift
    have hsmall : 'v'.toNat = 118 := rfl
    omega

-- The text for a value without a name is no name of a function, which has no small letter.
theorem upper_ne_numbered {name : Text} (hupper : upper name = name) (text : ManagedText) :
    "value ".toList ++ text ≠ Utf8.decode name := by
  intro heq
  have hread : 'v' ∈ Utf8.decode name := by
    rw [← heq]
    exact List.mem_append_left _ (by decide +kernel)
  have hmem : 'v' ∈ upper name := by
    rw [hupper]
    exact Utf8.mem_decode (by decide) (by decide) hread
  obtain ⟨c, -, hc⟩ := List.mem_map.mp hmem
  exact toUpper_ne c hc

theorem rowFunction_iff {name : Text} (hupper : upper name = name) :
    rowFunction names i = Utf8.decode name ↔ names[i]? = some (Utf8.decode name) := by
  rw [rowFunction, List.getElem?_eq_some_iff]
  split
  · next hi => simp [hi]
  · next hi =>
    exact iff_of_false (upper_ne_numbered hupper _) fun ⟨hlt, _⟩ => hi hlt

theorem measurementRows_getElem? (names : List ManagedText) (values : List Float) (i : Nat) :
    (measurementRows names values)[i]? =
      values[i]?.map fun value => ⟨i + 1, rowFunction names i, value⟩ := by
  rw [measurementRows, List.getElem?_mapIdx]

theorem paired_iff (hupper : ∀ name ∈ functions, upper name = name)
    (hlength : values.length = functions.length) :
    Paired (measurementRows names values) functions ↔ functions.map Utf8.decode <+: names := by
  rw [List.prefix_iff_getElem?]
  constructor
  · intro hpaired i hi
    rw [List.length_map] at hi
    have hvalue : i < values.length := hlength ▸ hi
    obtain ⟨name, hname, hrow⟩ := hpaired i _
      (by rw [measurementRows_getElem?, List.getElem?_eq_getElem hvalue]; rfl)
    rw [List.getElem?_eq_getElem hi] at hname
    obtain rfl := Option.some.inj hname
    rw [List.getElem_map]
    exact (rowFunction_iff (hupper _ (List.getElem_mem hi))).mp hrow
  · intro hnames i row hrow
    rw [measurementRows_getElem?] at hrow
    obtain ⟨value, hvalue, rfl⟩ := Option.map_eq_some_iff.mp hrow
    obtain ⟨hi, -⟩ := List.getElem?_eq_some_iff.mp hvalue
    have hi' : i < functions.length := hlength ▸ hi
    refine ⟨functions[i], List.getElem?_eq_getElem hi', ?_⟩
    refine (rowFunction_iff (hupper _ (List.getElem_mem hi'))).mpr ?_
    rw [hnames i (by rw [List.length_map]; exact hi'), List.getElem_map]

end Rows

section Plain

variable {names : List ManagedText} {name : ManagedText}

structure PlainName (name : ManagedText) : Prop where
  nonempty : name ≠ []
  comma : ',' ∉ name
  head : name.head? ≠ some '"'
  last : name.getLast? ≠ some '"'

theorem trimWhere_of_ends {p : Char → Bool} {c d : Char} (hc : p c = false) (hd : p d = false)
    (text : ManagedText) : trimWhere p (c :: (text ++ [d])) = c :: (text ++ [d]) := by
  rw [trimWhere, List.dropWhile_cons_of_neg (by simp [hc])]
  exact List.rdropWhile_concat_neg p (c :: text) d (by simp [hd])

theorem trimWhere_quote (hplain : PlainName name) : trimWhere (· == '"') (quote name) = name := by
  obtain ⟨c, rest, rfl⟩ := List.exists_cons_of_ne_nil hplain.nonempty
  have hc : ¬(c == '"') = true := by
    simpa using hplain.head
  rw [trimWhere, quote, List.dropWhile_cons_of_pos rfl, List.cons_append,
    @List.dropWhile_cons_of_neg _ (· == '"') _ _ hc, ← List.cons_append,
    List.rdropWhile_concat_pos _ _ _ rfl, List.rdropWhile_eq_self_iff]
  intro hne hlast
  refine hplain.last ?_
  rw [List.getLast?_eq_getLast_of_ne_nil hne]
  exact congrArg some (beq_iff_eq.mp hlast)

theorem splitEntries_quoteJoin (h : ∀ name ∈ names, ',' ∉ name) :
    splitEntries ',' (quoteJoin names) = names.map quote := by
  by_cases hne : names = []
  · subst hne
    rfl
  · have hcomma : ∀ entry ∈ names.map quote, ',' ∉ entry := by
      intro entry hentry
      obtain ⟨name, hname, rfl⟩ := List.mem_map.mp hentry
      simpa [quote] using h name hname
    have hsplit : (quoteJoin names).splitOn ',' = names.map quote :=
      List.splitOn_intercalate ',' hcomma (by simpa using hne)
    have htrim : (names.map quote).map (trimWhere isWhiteSpace) = names.map quote := by
      rw [List.map_map]
      exact List.map_congr_left fun name _ => trimWhere_of_ends (by decide) (by decide) name
    rw [splitEntries, hsplit, htrim, List.filter_eq_self]
    intro entry hentry
    obtain ⟨name, -, rfl⟩ := List.mem_map.mp hentry
    simp [quote]

theorem parseFunctionNames_quoteJoin (h : ∀ name ∈ names, PlainName name) :
    parseFunctionNames (quoteJoin names) = names := by
  have htrim : (names.map quote).map (trimWhere (· == '"')) = names := by
    rw [List.map_map]
    exact (List.map_congr_left fun name hname => trimWhere_quote (h name hname)).trans
      (List.map_id names)
  rw [parseFunctionNames, splitEntries_quoteJoin fun name hname => (h name hname).comma, htrim,
    List.filter_eq_self]
  intro name hname
  simpa using List.length_pos_of_ne_nil (h name hname).nonempty

theorem decode_cut {n : Nat} (hn : n < 0x80) (pre post : Text) :
    Utf8.decode (pre ++ Char.ofNat n :: post) =
      Utf8.decode pre ++ Char.ofNat n :: Utf8.decode post :=
  Utf8.decodeFrom_ascii hn none pre post

theorem decode_quote (name post : Text) :
    Utf8.decode (quote name ++ post) = quote (Utf8.decode name) ++ Utf8.decode post := by
  have hopening := decode_cut (n := 34) (by decide) [] (name ++ '"' :: post)
  have hclosing := decode_cut (n := 34) (by decide) name post
  have hmark : Char.ofNat 34 = '"' := rfl
  rw [hmark] at hopening hclosing
  rw [hclosing] at hopening
  have hnil : Utf8.decode [] = [] := rfl
  simpa [quote, hnil] using hopening

theorem decode_quoteJoin (functions : List Text) :
    Utf8.decode (quoteJoin functions) = quoteJoin (functions.map Utf8.decode) := by
  induction functions with
  | nil => rfl
  | cons name functions ih =>
    by_cases hne : functions = []
    · subst hne
      have hquote := decode_quote name []
      simpa [quoteJoin, join, Utf8.decode, Utf8.decodeFrom] using hquote
    · have hcomma := decode_cut (n := 44) (by decide) (quote name) (quoteJoin functions)
      have hquote := decode_quote name []
      have hmark : Char.ofNat 44 = ',' := rfl
      rw [hmark, ih] at hcomma
      rw [List.append_nil] at hquote
      rw [quoteJoin_cons name hne, List.map_cons, quoteJoin_cons _ (by simpa using hne), hcomma,
        hquote]
      simp [Utf8.decode, Utf8.decodeFrom]

theorem parseFunctionNames_plain {functions : List Text} (hnul : ∀ name ∈ functions, '\x00' ∉ name)
    (hplain : ∀ name ∈ functions, PlainName (Utf8.decode name)) :
    parseFunctionNames (Utf8.decode (cstr (quoteJoin functions))) = functions.map Utf8.decode := by
  have hwhole : '\x00' ∉ quoteJoin functions :=
    notMem_quoteJoin (by decide) (by decide) hnul
  rw [CNumber.cstr_eq_self hwhole, decode_quoteJoin]
  refine parseFunctionNames_quoteJoin fun name hname => ?_
  obtain ⟨bytes, hbytes, rfl⟩ := List.mem_map.mp hname
  exact hplain bytes hbytes

end Plain

section Read

variable {between : List (SessionCall SimulatorTransport)}
  {session first mid last : InstrumentSession SimulatorTransport} {h h' : Handle SimulatorTransport}
  {response : ManagedText} {rows : List MeasurementRow}

theorem readAsync_rows (hsession : session.instrument = some h) (hidle : h.instrument.Idle)
    (hfirst : session.queryAsync functionQuery = some (.ok response, first))
    (hbetween : runCalls between first = some mid) (hmid : mid.instrument = some h')
    (hidle' : h'.instrument.Idle)
    (hread : readAsync between session = some (.ok rows, last)) :
    ∃ values, rows = measurementRows (parseFunctionNames
        (Utf8.decode (cstr (quoteJoin h.instrument.sim.state.functions)))) values ∧
      values.length = h'.instrument.sim.state.functions.length := by
  rw [readAsync, hfirst, Option.bind_some] at hread
  dsimp only at hread
  rw [hbetween, Option.bind_some] at hread
  obtain ⟨⟨values, after⟩, hvalues, hpair⟩ := Option.map_eq_some_iff.mp hread
  cases values with
  | error exception => cases hpair
  | ok values =>
    cases hpair
    rw [InstrumentSession.readDataAsync, InstrumentSession.invoke, hmid] at hvalues
    obtain ⟨⟨result, last⟩, hdata, heq⟩ := Option.map_eq_some_iff.mp hvalues
    cases heq
    rw [InstrumentSession.queryAsync, InstrumentSession.invoke, hsession] at hfirst
    obtain ⟨⟨result, handle⟩, hquery, heq⟩ := Option.map_eq_some_iff.mp hfirst
    obtain ⟨⟨result, sent, handle⟩, hsent, heq'⟩ := Option.map_eq_some_iff.mp hquery
    cases heq'
    cases heq
    rw [(query_functions hidle hsent).1]
    exact ⟨values, rfl, (readData_idle hidle' hdata).2 values rfl⟩

theorem rows_paired_iff (hsession : session.instrument = some h) (hidle : h.instrument.Idle)
    (hfirst : session.queryAsync functionQuery = some (.ok response, first))
    (hbetween : runCalls between first = some mid) (hmid : mid.instrument = some h')
    (hidle' : h'.instrument.Idle) (hreachable : Reachable h'.instrument.sim)
    (hread : readAsync between session = some (.ok rows, last)) :
    Paired rows h'.instrument.sim.state.functions ↔
      h'.instrument.sim.state.functions.map Utf8.decode <+: parseFunctionNames
        (Utf8.decode (cstr (quoteJoin h.instrument.sim.state.functions))) := by
  obtain ⟨values, rfl, hlength⟩ :=
    readAsync_rows hsession hidle hfirst hbetween hmid hidle' hread
  exact paired_iff hreachable.upperNames hlength

end Read

section Quiet

open ScpiClient (hasLineTerminator writeLine_eq writeLine_rejected send_ready query_idle
  query_rejected)
open History (query_none)

variable {h after : Handle SimulatorTransport} {functions : List Text}
  {session last : InstrumentSession SimulatorTransport}

theorem send_none {client : SimulatorClient} {command : Text} (hwritable : client.Writable)
    (hplain : hasLineTerminator command = false) (hline : client.sim.handleLine command = none) :
    ScpiClient.send command client = none := by
  rw [ScpiClient.send, writeLine_eq hwritable hplain, hline]
  rfl

structure Settled (h : Handle SimulatorTransport) (functions : List Text) : Prop where
  idle : h.instrument.Idle
  reachable : Reachable h.instrument.sim
  functions : h.instrument.sim.state.functions = functions

theorem Settled.of_instrument (hsettled : Settled h functions)
    (hsame : after.instrument = h.instrument) : Settled after functions := by
  obtain ⟨hidle, hreachable, hfunctions⟩ := hsettled
  rw [← hsame] at hidle hreachable hfunctions
  exact ⟨hidle, hreachable, hfunctions⟩

theorem Settled.of_line (hsettled : Settled h functions) {line : Text} {sim : NormaSimulator}
    {response : Option Text} (hline : h.instrument.sim.handleLine line = some (sim, response))
    (hkept : sim.state.functions = h.instrument.sim.state.functions)
    (hafter : after.instrument = h.instrument.withSim sim) : Settled after functions where
  idle := hafter ▸ hsettled.idle.withSim sim
  reachable := by
    rw [hafter]
    exact .line hsettled.reachable line hline
  functions := by
    rw [hafter]
    exact hkept.trans hsettled.functions

def SessionCall.Quiet (h : Handle SimulatorTransport) : SessionCall SimulatorTransport → Prop
  | .connect _ => True
  | .disconnect => False
  | .write scpiCommand => ∀ sim response,
      h.instrument.sim.handleLine (cstr (Utf8.encode scpiCommand)) = some (sim, response) →
        response = none ∧ sim.state.functions = h.instrument.sim.state.functions
  | .query scpiQuery => ∀ sim response,
      h.instrument.sim.handleLine (cstr (Utf8.encode scpiQuery)) = some (sim, response) →
        (∃ text, response = some text ∧ text.length < InitialQueryBufferBytes) ∧
          sim.state.functions = h.instrument.sim.state.functions
  | .readData => True

theorem write_quiet (hsettled : Settled h functions) {scpiCommand : ManagedText}
    (hquiet : (SessionCall.write scpiCommand).Quiet h) {result : Except Exception Unit}
    (hwrite : write scpiCommand h = some (result, after)) : Settled after functions := by
  rw [write] at hwrite
  split at hwrite
  · cases hwrite
    exact hsettled
  obtain ⟨⟨status, output, after'⟩, hcall, heq⟩ := Option.map_eq_some_iff.mp hwrite
  cases heq
  rcases call_instrument hcall with rfl | ⟨result, hfn⟩
  · exact hsettled
  let line := cstr (Utf8.encode scpiCommand)
  by_cases hplain : hasLineTerminator line = false
  · cases hline : h.instrument.sim.handleLine line with
    | none =>
      have hnone : (normaWrite (some (Utf8.encode scpiCommand))).fn h.instrument = none :=
        Session.bind_none (send_none hsettled.idle.writable hplain hline) _
      rw [hnone] at hfn
      cases hfn
    | some outcome =>
      obtain ⟨sim, response⟩ := outcome
      obtain ⟨rfl, hkept⟩ := hquiet sim response hline
      have hsome : (normaWrite (some (Utf8.encode scpiCommand))).fn h.instrument = _ :=
        Session.bind_ok (send_ready hsettled.idle.toReady hplain hline) _
      rw [hsome] at hfn
      have hpair : h.instrument.withSim sim = after.instrument :=
        congrArg Prod.snd (Option.some.inj hfn)
      exact hsettled.of_line hline hkept hpair.symm
  · obtain ⟨message, hsend⟩ := writeLine_rejected h.instrument
      (Bool.not_eq_false _ ▸ hplain) h.instrument.timeout
    have hsome : (normaWrite (some (Utf8.encode scpiCommand))).fn h.instrument = _ :=
      Session.bind_error hsend _
    rw [hsome] at hfn
    exact hsettled.of_instrument (congrArg Prod.snd (Option.some.inj hfn)).symm

theorem query_quiet (hsettled : Settled h functions) {scpiQuery : ManagedText}
    (hquiet : (SessionCall.query scpiQuery).Quiet h) {result : Except Exception ManagedText}
    {sent : List Text} (hquery : query scpiQuery h = some (result, sent, after)) :
    Settled after functions := by
  rw [query] at hquery
  split at hquery
  · cases hquery
    exact hsettled
  let line := cstr (Utf8.encode scpiQuery)
  obtain ⟨sizes, hsizes⟩ : ∃ sizes, bufferSizes = 1024 :: sizes := ⟨_, bufferSizes_eq⟩
  rw [hsizes] at hquery
  by_cases hplain : hasLineTerminator line = false
  · cases hline : h.instrument.sim.handleLine line with
    | none =>
      have hnone : (normaQuery (some (Utf8.encode scpiQuery)) true 1024).call h = none := by
        have hfn : (normaQuery (some (Utf8.encode scpiQuery)) true 1024).fn h.instrument = none :=
          Session.bind_none (query_none hsettled.idle.writable hplain hline) _
        rw [Capi.Entry.call, if_neg (by simp [normaQuery]), Capi.guarded, hfn]
        rfl
      rw [queryWith, hnone] at hquery
      cases hquery
    | some outcome =>
      obtain ⟨sim, response⟩ := outcome
      obtain ⟨⟨text, rfl, hshort⟩, hkept⟩ := hquiet sim response hline
      obtain ⟨after', hafter, hreturned⟩ : ∃ after' : Handle _, after'.instrument = _ ∧
          queryWith (Utf8.encode scpiQuery) (1024 :: sizes) h = _ :=
        queryWith_short hshort (query_idle hsettled.idle hplain hline)
      rw [hreturned] at hquery
      cases hquery
      exact hsettled.of_line hline hkept hafter
  · obtain ⟨message, hrejected⟩ := query_rejected h.instrument (Bool.not_eq_false _ ▸ hplain)
    have hcall : (normaQuery (some (Utf8.encode scpiQuery)) true 1024).call h =
        some ((h.caught (.library (.invalidArgument message))).1, .buffer none,
          (h.caught (.library (.invalidArgument message))).2) := by
      have hfn : (normaQuery (some (Utf8.encode scpiQuery)) true 1024).fn h.instrument =
          some (.error (.invalidArgument message), h.instrument) := Session.bind_error hrejected _
      rw [Capi.Entry.call, if_neg (by simp [normaQuery]), Capi.guarded, hfn]
      rfl
    rw [queryWith, hcall] at hquery
    cases hquery
    exact hsettled.of_instrument (caught_instrument _ _)

theorem run_quiet {call : SessionCall SimulatorTransport} (hsession : session.instrument = some h)
    (hsettled : Settled h functions) (hquiet : call.Quiet h) (hrun : call.run session = some last) :
    ∃ h', last.instrument = some h' ∧ Settled h' functions := by
  cases call with
  | connect candidate =>
    have hrefused : InstrumentSession.connectAsync candidate session =
        some (.error (.invalidOperation "Already connected.".toList), session) := by
      simp [InstrumentSession.connectAsync, hsession]
    rw [SessionCall.run, hrefused] at hrun
    cases hrun
    exact ⟨h, hsession, hsettled⟩
  | disconnect => cases hquiet
  | write scpiCommand =>
    rw [SessionCall.run, InstrumentSession.writeAsync, InstrumentSession.invoke, hsession] at hrun
    obtain ⟨⟨result, after⟩, hinvoke, rfl⟩ := Option.map_eq_some_iff.mp hrun
    obtain ⟨⟨result, h'⟩, hwrite, heq⟩ := Option.map_eq_some_iff.mp hinvoke
    cases heq
    exact ⟨h', rfl, write_quiet hsettled hquiet hwrite⟩
  | query scpiQuery =>
    rw [SessionCall.run, InstrumentSession.queryAsync, InstrumentSession.invoke, hsession] at hrun
    obtain ⟨⟨result, after⟩, hinvoke, rfl⟩ := Option.map_eq_some_iff.mp hrun
    obtain ⟨⟨result, h'⟩, hasked, heq⟩ := Option.map_eq_some_iff.mp hinvoke
    obtain ⟨⟨result, sent, h''⟩, hquery, heq'⟩ := Option.map_eq_some_iff.mp hasked
    cases heq'
    cases heq
    exact ⟨_, rfl, query_quiet hsettled hquiet hquery⟩
  | readData =>
    rw [SessionCall.run, InstrumentSession.readDataAsync, InstrumentSession.invoke,
      hsession] at hrun
    obtain ⟨⟨result, after⟩, hinvoke, rfl⟩ := Option.map_eq_some_iff.mp hrun
    obtain ⟨⟨result, h'⟩, hread, heq⟩ := Option.map_eq_some_iff.mp hinvoke
    cases heq
    exact ⟨h', rfl, hsettled.of_instrument (readData_idle hsettled.idle hread).1⟩

def Undisturbed : List (SessionCall SimulatorTransport) → InstrumentSession SimulatorTransport →
    Prop
  | [], _ => True
  | call :: calls, session =>
      (∀ h, session.instrument = some h → call.Quiet h) ∧
        ∀ after, call.run session = some after → Undisturbed calls after

theorem runCalls_quiet {calls : List (SessionCall SimulatorTransport)}
    (hsession : session.instrument = some h) (hsettled : Settled h functions)
    (hundisturbed : Undisturbed calls session) (hrun : runCalls calls session = some last) :
    ∃ h', last.instrument = some h' ∧ Settled h' functions := by
  induction calls generalizing session h with
  | nil =>
    cases hrun
    exact ⟨h, hsession, hsettled⟩
  | cons call calls ih =>
    obtain ⟨hquiet, hrest⟩ := hundisturbed
    obtain ⟨mid, hcall, hcalls⟩ := Option.bind_eq_some_iff.mp hrun
    obtain ⟨h', hmid, hsettled'⟩ := run_quiet hsession hsettled (hquiet h hsession) hcall
    exact ih hmid hsettled' (hrest mid hcall) hcalls

-- A read that no other call gets in the way of shows every value with its own function.
theorem undisturbed_rows_paired {between : List (SessionCall SimulatorTransport)}
    {rows : List MeasurementRow} (hsession : session.instrument = some h)
    (hsettled : Settled h functions) (hnul : ∀ name ∈ functions, '\x00' ∉ name)
    (hplain : ∀ name ∈ functions, PlainName (Utf8.decode name))
    (hundisturbed : ∀ response first,
      session.queryAsync functionQuery = some (.ok response, first) → Undisturbed between first)
    (hread : readAsync between session = some (.ok rows, last)) : Paired rows functions := by
  obtain ⟨⟨result, first⟩, hfirst, hrest⟩ := Option.bind_eq_some_iff.mp hread
  cases result with
  | error exception => cases hrest
  | ok response =>
    obtain ⟨mid, hbetween, -⟩ := Option.bind_eq_some_iff.mp hrest
    have hasked := hfirst
    rw [InstrumentSession.queryAsync, InstrumentSession.invoke, hsession] at hasked
    obtain ⟨⟨result, handle⟩, hquery, heq⟩ := Option.map_eq_some_iff.mp hasked
    obtain ⟨⟨result, sent, handle⟩, hsent, heq'⟩ := Option.map_eq_some_iff.mp hquery
    cases heq'
    cases heq
    have hsettled' := hsettled.of_instrument (query_functions hsettled.idle hsent).2
    obtain ⟨h', hmid, hquiet⟩ :=
      runCalls_quiet rfl hsettled' (hundisturbed _ _ hfirst) hbetween
    obtain ⟨values, rfl, hlength⟩ :=
      readAsync_rows hsession hsettled.idle hfirst hbetween hmid hquiet.idle hread
    rw [hquiet.functions] at hlength
    rw [hsettled.functions, parseFunctionNames_plain hnul hplain]
    refine (paired_iff ?_ hlength).mpr (List.prefix_refl _)
    rw [← hsettled.functions]
    exact hsettled.reachable.upperNames

end Quiet

section Runs

open Capi (connected)
open ScpiClient (hasLineTerminator opened idle_opened query_idle send_ready parseValues)

variable {h h' : Handle SimulatorTransport} {sim : NormaSimulator}
  {session first : InstrumentSession SimulatorTransport}

theorem queryAsync_functions (hsession : session.instrument = some h) (hidle : h.instrument.Idle)
    (hshort : (quoteJoin h.instrument.sim.state.functions).length < InitialQueryBufferBytes) :
    ∃ response h', session.queryAsync functionQuery =
        some (.ok response, { instrument := some h' }) ∧ h'.instrument = h.instrument := by
  have hplain : hasLineTerminator "SENSe:FUNCtion?" = false := by decide +kernel
  have hexchange := query_idle hidle hplain (handleLine_functionQuery h.instrument.sim)
  rw [← functionQuery_bytes] at hexchange
  obtain ⟨h', hsame, hquery⟩ :=
    query_short (by decide +kernel) (by decide +kernel) hexchange hshort
  refine ⟨Utf8.decode (cstr (quoteJoin h.instrument.sim.state.functions)), h', ?_, hsame⟩
  rw [InstrumentSession.queryAsync, InstrumentSession.invoke, hsession]
  simp only [hquery]
  rfl

theorem readDataAsync_ascii (hsession : session.instrument = some h) (hidle : h.instrument.Idle)
    (hascii : h.instrument.sim.state.dataFormat.format = .ascii)
    (hterminates : ∀ function ∈ h.instrument.sim.state.functions,
      Terminates h.instrument.sim.state h.instrument.sim.signal function) :
    ∃ values h', session.readDataAsync = some (.ok values, { instrument := some h' }) ∧
      values.length = h.instrument.sim.state.functions.length ∧ h'.instrument = h.instrument := by
  let state := h.instrument.sim.state
  obtain ⟨measurements, hall, hmeasured⟩ := measureAll_terminates hterminates
  obtain ⟨response, hresponse, values, hparse⟩ : ∃ response, measurementResponse state
      h.instrument.sim.signal state.functions false = some response ∧
      ∃ values, parseValues response = .ok values := by
    by_cases hnone : state.functions = []
    · exact ⟨[], by rw [measurementResponse, if_pos hnone], [], rfl⟩
    · refine ⟨join ',' (valueFields state measurements), ?_, ?_⟩
      · rw [measurementResponse, if_neg hnone, if_neg (by simp [state, hascii]), hall]
        simp [valueFields]
      · obtain ⟨values, hvalues, -⟩ := values_decoded state measurements
        refine ⟨values, ?_⟩
        rw [parseValues, splitCsv_join, hvalues]
        intro field hfield
        obtain ⟨m, -, rfl⟩ := List.mem_map.mp hfield
        exact formatValue_plain _ _
  have hdata := data_idle hidle
  rw [hresponse, Option.map_some, hparse] at hdata
  obtain ⟨h', hsame, hread⟩ := readData_ok hdata
  refine ⟨values, h', ?_, measured_length hresponse hparse, hsame⟩
  rw [InstrumentSession.readDataAsync, InstrumentSession.invoke, hsession]
  simp only [hread]
  rfl

theorem writeAsync_ok (hsession : session.instrument = some h) (hidle : h.instrument.Idle)
    {scpiCommand : ManagedText} {line : Text} (hgiven : isNullOrWhiteSpace scpiCommand = false)
    (hbytes : cstr (Utf8.encode scpiCommand) = line) (hplain : hasLineTerminator line = false)
    (hline : h.instrument.sim.handleLine line = some (sim, none)) :
    ∃ h', session.writeAsync scpiCommand = some (.ok (), { instrument := some h' }) ∧
      h'.instrument = h.instrument.withSim sim := by
  have hfn : (normaWrite (some (Utf8.encode scpiCommand))).fn h.instrument =
      some (.ok (.nothing, none), h.instrument.withSim sim) := by
    subst hbytes
    exact Session.bind_ok (send_ready hidle.toReady hplain hline) _
  have hcall : (normaWrite (some (Utf8.encode scpiCommand))).call h =
      some (.ok, .nothing, { h with instrument := h.instrument.withSim sim }) := by
    rw [Capi.Entry.call, if_neg (by simp [normaWrite]), Capi.guarded, hfn]
    rfl
  refine ⟨{ h with instrument := h.instrument.withSim sim }, ?_, rfl⟩
  rw [InstrumentSession.writeAsync, InstrumentSession.invoke, hsession]
  simp only [write, hgiven, Bool.false_eq_true, if_false, hcall]
  rfl

def connectedTo (sim : NormaSimulator) : InstrumentSession SimulatorTransport where
  instrument := some (connected sim)

def voltageOnly : NormaSimulator := FunctionList.measured.stored (.new {}) [("VOLT1" : Text)]

def currentOnly : NormaSimulator := FunctionList.measured.stored voltageOnly [("CURR1" : Text)]

theorem voltageOnly_reachable : Reachable voltageOnly :=
  .line (.new {}) _ (@FunctionList.handleLine_write .measured [("VOLT1" : Text)] (.new {})
    (by decide) (by decide) rfl)

theorem handleLine_currentOnly : voltageOnly.handleLine "FUNC \"CURR1\"" =
    some (currentOnly, none) :=
  @FunctionList.handleLine_write .measured [("CURR1" : Text)] voltageOnly (by decide) (by decide)
    rfl

theorem currentOnly_reachable : Reachable currentOnly :=
  .line voltageOnly_reachable _ handleLine_currentOnly

theorem voltageOnly_terminates : ∀ function ∈ voltageOnly.state.functions,
    Terminates voltageOnly.state voltageOnly.signal function := by
  intro function hfunction
  rw [List.mem_singleton.mp hfunction]
  exact ⟨1, Option.isSome_iff_exists.mp (by decide +kernel)⟩

theorem currentOnly_terminates : ∀ function ∈ currentOnly.state.functions,
    Terminates currentOnly.state currentOnly.signal function := by
  intro function hfunction
  rw [List.mem_singleton.mp hfunction]
  exact ⟨1, Option.isSome_iff_exists.mp (by decide +kernel)⟩

def changeList : SessionCall SimulatorTransport := .write "FUNC \"CURR1\"".toList

theorem voltage_read {between : List (SessionCall SimulatorTransport)} {after : NormaSimulator}
    (hascii : after.state.dataFormat.format = .ascii)
    (hterminates : ∀ function ∈ after.state.functions,
      Terminates after.state after.signal function)
    (hbetween : ∀ h, h.instrument = opened voltageOnly → ∃ h', h'.instrument = opened after ∧
      runCalls between { instrument := some h } = some { instrument := some h' }) :
    ∃ response first mid h' rows last,
      (connectedTo voltageOnly).queryAsync functionQuery = some (.ok response, first) ∧
      runCalls between first = some mid ∧ mid.instrument = some h' ∧
      h'.instrument = opened after ∧ rows.length = after.state.functions.length ∧
      readAsync between (connectedTo voltageOnly) = some (.ok rows, last) := by
  have hidle : (connected voltageOnly).instrument.Idle := idle_opened voltageOnly
  have hshort : (quoteJoin voltageOnly.state.functions).length < InitialQueryBufferBytes := by
    decide +kernel
  obtain ⟨response, h, hquery, hsame⟩ :=
    @queryAsync_functions (connected voltageOnly) (connectedTo voltageOnly) rfl hidle hshort
  obtain ⟨h', hafter, hcalls⟩ := hbetween h hsame
  have hsim : h'.instrument.sim = after := by
    rw [hafter]
    rfl
  have hidle' : h'.instrument.Idle := by
    rw [hafter]
    exact idle_opened after
  rw [← hsim] at hascii hterminates
  obtain ⟨values, h'', hread, hlength, -⟩ :=
    @readDataAsync_ascii h' { instrument := some h' } rfl hidle' hascii hterminates
  refine ⟨response, _, _, h', measurementRows (parseFunctionNames response) values,
    { instrument := some h'' }, hquery, hcalls, rfl, hafter, ?_, ?_⟩
  · rw [measurementRows, List.length_mapIdx, hlength, hsim]
  · rw [readAsync, hquery, Option.bind_some]
    dsimp only
    rw [hcalls, Option.bind_some, hread]
    rfl

theorem voltage_row_paired : ∃ rows last,
    readAsync [] (connectedTo voltageOnly) = some (.ok rows, last) ∧ rows.length = 1 ∧
      Paired rows [("VOLT1" : Text)] := by
  obtain ⟨response, first, mid, h', rows, last, hfirst, hbetween, hmid, hafter, hlength, hread⟩ :=
    @voltage_read [] voltageOnly rfl voltageOnly_terminates fun h hsame => ⟨h, hsame, rfl⟩
  have hpaired := rows_paired_iff (h := connected voltageOnly) rfl (idle_opened voltageOnly) hfirst
    hbetween hmid (hafter ▸ idle_opened voltageOnly) (hafter ▸ voltageOnly_reachable) hread
  rw [hafter] at hpaired
  exact ⟨rows, last, hread, hlength, hpaired.mpr (by decide +kernel)⟩

theorem changed_list_mislabels : ¬∀ (between : List (SessionCall SimulatorTransport))
    (session first mid last : InstrumentSession SimulatorTransport)
    (h h' : Handle SimulatorTransport) (response : ManagedText) (rows : List MeasurementRow),
    session.instrument = some h → h.instrument.Idle → Reachable h.instrument.sim →
    session.queryAsync functionQuery = some (.ok response, first) →
    runCalls between first = some mid → mid.instrument = some h' → h'.instrument.Idle →
    Reachable h'.instrument.sim → readAsync between session = some (.ok rows, last) →
    Paired rows h'.instrument.sim.state.functions := by
  intro hall
  have hchange : ∀ h, h.instrument = opened voltageOnly → ∃ h',
      h'.instrument = opened currentOnly ∧
      runCalls [changeList] { instrument := some h } = some { instrument := some h' } := by
    intro h hsame
    have hidle : h.instrument.Idle := hsame ▸ idle_opened voltageOnly
    have hline : h.instrument.sim.handleLine "FUNC \"CURR1\"" = some (currentOnly, none) := by
      rw [hsame]
      exact handleLine_currentOnly
    obtain ⟨h', hwrite, hafter⟩ := @writeAsync_ok h currentOnly { instrument := some h } rfl hidle
      "FUNC \"CURR1\"".toList _ (by decide +kernel) (by decide +kernel) (by decide +kernel) hline
    refine ⟨h', ?_, ?_⟩
    · rw [hafter, hsame]
      rfl
    · rw [runCalls, changeList, SessionCall.run, hwrite]
      rfl
  obtain ⟨response, first, mid, h', rows, last, hfirst, hbetween, hmid, hafter, hlength, hread⟩ :=
    voltage_read rfl currentOnly_terminates hchange
  have hidle' : h'.instrument.Idle := hafter ▸ idle_opened currentOnly
  have hreachable' : Reachable h'.instrument.sim := by
    rw [hafter]
    exact currentOnly_reachable
  have hpaired := hall _ _ _ _ _ (connected voltageOnly) _ _ _ rfl (idle_opened voltageOnly)
    voltageOnly_reachable hfirst hbetween hmid hidle' hreachable' hread
  obtain ⟨values, rfl, hvalues⟩ :=
    readAsync_rows rfl (idle_opened voltageOnly) hfirst hbetween hmid hidle' hread
  have hnames := (paired_iff hreachable'.upperNames hvalues).mp hpaired
  rw [hafter] at hnames
  exact absurd hnames (by decide +kernel)

end Runs

end Interop

end Norma
