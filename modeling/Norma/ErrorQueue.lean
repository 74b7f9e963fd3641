import Norma.Known
import Norma.Reach

namespace Norma

open ErrorCode
open ScpiClient

section Field

variable {message tail field : Text}

theorem quote_length (message : Text) : (quote message).length = message.length + 2 := by
  simp [quote]

theorem cons_ne_concat {a b : Char} (hab : a ≠ b) (s : Text) : a :: s ≠ s ++ [b] := by
  induction s with
  | nil => simpa using hab
  | cons c s ih =>
    intro h
    obtain ⟨rfl, htail⟩ := List.cons.inj h
    exact ih htail

theorem unquote_ne_of_cut {missing : Text} (h : field ++ ',' :: missing = quote message) :
    unquote field ≠ message := by
  intro hfield
  have hmissing : missing ≠ [] := by
    rintro rfl
    have hlast := congrArg List.getLast? h
    rw [quote_getLast?, List.getLast?_concat] at hlast
    simp at hlast
  have hpos := List.length_pos_iff.mpr hmissing
  have hlength := congrArg List.length h
  simp only [List.length_append, List.length_cons, quote_length] at hlength
  have htrim := (trim_sublist field).length_le
  rcases unquote_cases field with hplain | hstripped
  · rw [hfield] at hplain
    have heq : trim field = field := (trim_sublist field).eq_of_length_le (by rw [← hplain]; omega)
    rw [heq] at hplain
    subst hplain
    obtain ⟨last, rfl⟩ := List.length_eq_one_iff.mp (show missing.length = 1 by omega)
    have hcons : '"' :: message ++ ['"'] = message ++ [','] ++ [last] := by
      simpa [quote] using h.symm
    exact cons_ne_concat (by decide) message (List.append_inj' hcons rfl).1
  · rw [hfield] at hstripped
    omega

theorem unquote_ne_of_longer {d : Char} (hd : isSpace d = false) (message extra : Text) :
    unquote (quote message ++ d :: extra) ≠ message := by
  intro hfield
  have hlong := rdropWhile_keeps hd (quote message) extra
  have htrim : trim (quote message ++ d :: extra) =
      (quote message ++ [d] ++ extra).rdropWhile isSpace := by
    rw [List.append_assoc, quote, List.cons_append, trim_of_head (by decide)]
    rfl
  have hlength := unquote_length (quote message ++ d :: extra)
  rw [hfield, htrim] at hlength
  simp only [List.length_append, List.length_singleton, quote_length] at hlong hlength
  omega

theorem field_eq_quote {fields : List Text} (htail : tail = [] ∨ ∃ rest, tail = ',' :: rest)
    (h : splitUnquoted (quote message ++ tail) ',' = field :: fields)
    (hfield : unquote field = message) : field = quote message := by
  rw [splitUnquoted_eq] at h
  obtain ⟨-, ⟨-, heq⟩ | ⟨c, rest, heq, hcut, -⟩⟩ := (quoting ',').pieces_eq_cons h
  · rcases htail with rfl | ⟨rest, rfl⟩
    · simpa using heq.symm
    · exact absurd (heq ▸ hfield) (unquote_ne_of_longer (by decide) message rest)
  · obtain rfl := quoting_cut hcut
    have hprefix : field <+: quote message ++ tail := ⟨',' :: rest, heq.symm⟩
    rcases List.prefix_or_prefix_of_prefix hprefix (List.prefix_append _ tail) with
      ⟨missing, hmissing⟩ | ⟨extra, rfl⟩
    · cases missing with
      | nil => simpa using hmissing
      | cons d missing =>
        rw [← hmissing, List.append_assoc] at heq
        obtain rfl := (List.cons.inj (List.append_cancel_left heq)).1
        exact absurd hfield (unquote_ne_of_cut hmissing)
    · cases extra with
      | nil => simp
      | cons d extra =>
        rw [List.append_assoc] at heq
        have hextra := List.append_cancel_left heq
        rcases htail with rfl | ⟨rest', rfl⟩
        · simp at hextra
        · obtain rfl := (List.cons.inj hextra).1
          exact absurd hfield (unquote_ne_of_longer (by decide) message extra)

theorem field_eq_quote_iff {fields : List Text} (htail : tail = [] ∨ ∃ rest, tail = ',' :: rest)
    (h : splitUnquoted (quote message ++ tail) ',' = field :: fields) :
    field = quote message ↔
      Whole ',' (quote message) ∧ (tail ≠ [] → quoteAfter (quote message) = none) := by
  rw [splitUnquoted_eq] at h
  obtain ⟨hwhole, hrest⟩ := (quoting ',').pieces_eq_cons h
  constructor
  · rintro rfl
    refine ⟨hwhole, fun hne => ?_⟩
    rcases hrest with ⟨-, heq⟩ | ⟨c, rest, -, hcut, -⟩
    · exact absurd (by simpa using heq) hne
    · obtain rfl := quoting_cut hcut
      exact (cut_iff (by decide) _).mp hcut
  · rintro ⟨hquote, hclosed⟩
    rw [← splitUnquoted_eq] at h
    rcases htail with rfl | ⟨rest, rfl⟩
    · rw [List.append_nil, hquote.split] at h
      exact (List.cons.inj h).1.symm
    · rw [splitUnquoted_append (by decide) (hclosed (by simp)), hquote.split] at h
      exact (List.cons.inj h).1.symm

end Field

section Decode

theorem queued_codes : ∀ code ∈ queued, errorCode (toText code) = some code ∧ code ≠ 0 ∧
    trim (toText code) = toText code ∧ Unquoted (toText code) ∧
    ',' ∉ toText code ∧ toText code ≠ [] := by
  decide +kernel

theorem splitUnquoted_code {code : Int} (hcode : code ∈ queued) (rest : Text) :
    splitUnquoted (toText code ++ ',' :: rest) ',' = toText code :: splitUnquoted rest ',' := by
  obtain ⟨-, -, -, hunquoted, hcomma, -⟩ := queued_codes code hcode
  have hwhole : Whole ',' (toText code) := hunquoted.whole_iff.mpr hcomma
  rw [splitUnquoted_append (by decide) hunquoted.quoteAfter, hwhole.split]
  rfl

theorem trim_code_ne_nil {code : Int} (hcode : code ∈ queued) (rest : Text) :
    trim (toText code ++ rest) ≠ [] := by
  obtain ⟨-, -, htrim, -, -, hne⟩ := queued_codes code hcode
  obtain ⟨c, digits, hcons, hc⟩ := trim_head (htrim.symm ▸ hne)
  rw [htrim] at hcons
  rw [hcons, List.cons_append]
  exact trim_cons_ne_nil hc _

def decodedMessage (message : Text) : Text :=
  unquote ((splitUnquoted (quote message) ',').headD [])

theorem decodedMessage_iff (message : Text) :
    decodedMessage message = message ↔ Whole ',' (quote message) := by
  obtain ⟨field, fields, hsplit⟩ := List.exists_cons_of_ne_nil
    (splitUnquoted_ne_nil (quote message) ',')
  have hsplit' : splitUnquoted (quote message ++ []) ',' = field :: fields := by simpa using hsplit
  have hiff := field_eq_quote_iff (.inl rfl) hsplit'
  rw [decodedMessage, hsplit, List.headD_cons]
  constructor
  · intro h
    exact (hiff.mp (field_eq_quote (.inl rfl) hsplit' h)).1
  · intro h
    rw [hiff.mpr ⟨h, by simp⟩, unquote_quote]

theorem parseError_errorText {entry : ScpiErrorInfo} (hcode : entry.code ∈ queued) :
    parseError (errorText entry) = .ok ⟨entry.code, decodedMessage entry.message⟩ := by
  obtain ⟨hparse, -, htrim, -⟩ := queued_codes entry.code hcode
  have htext : errorText entry = toText entry.code ++ ',' :: quote entry.message := by
    simp only [errorText, List.append_assoc]
    rfl
  have hfields : splitCsv (errorText entry) =
      toText entry.code :: (splitUnquoted (quote entry.message) ',').map trim := by
    rw [splitCsv, splitFields, htext, if_neg (trim_code_ne_nil hcode _), splitUnquoted_code hcode,
      List.map_cons, htrim]
  rw [parseError, hfields]
  simp only [hparse, decodedMessage]
  cases splitUnquoted (quote entry.message) ',' with
  | nil => rfl
  | cons field fields =>
    rw [List.map_cons, List.headD_cons, List.headD_cons, unquote_trim]

-- Every message stands in one field, and each but the last leaves its quotes closed.
structure Separable (errors : List ScpiErrorInfo) : Prop where
  whole : ∀ entry ∈ errors, Whole ',' (quote entry.message)
  closed : ∀ entry ∈ errors.dropLast, quoteAfter (quote entry.message) = none

theorem separable_cons (entry : ScpiErrorInfo) (errors : List ScpiErrorInfo) :
    Separable (entry :: errors) ↔
      (Whole ',' (quote entry.message) ∧
        (errors ≠ [] → quoteAfter (quote entry.message) = none)) ∧ Separable errors := by
  constructor
  · intro h
    refine ⟨⟨h.whole entry (by simp), fun hne => h.closed entry ?_⟩,
      fun e he => h.whole e (by simp [he]), fun e he => h.closed e ?_⟩
    · simp [List.dropLast_cons_of_ne_nil hne]
    · cases errors with
      | nil => simp at he
      | cons f errors => simp [List.dropLast_cons_of_ne_nil, he]
  · rintro ⟨⟨hwhole, hclosed⟩, hrest⟩
    refine ⟨fun e he => ?_, fun e he => ?_⟩
    · rcases List.mem_cons.mp he with rfl | hmem
      · exact hwhole
      · exact hrest.whole e hmem
    · by_cases hne : errors = []
      · simp [hne] at he
      · rw [List.dropLast_cons_of_ne_nil hne] at he
        rcases List.mem_cons.mp he with rfl | hmem
        · exact hclosed hne
        · exact hrest.closed e hmem

def tailText (errors : List ScpiErrorInfo) : Text :=
  if errors = [] then [] else ',' :: join ',' (errors.map errorText)

theorem tailText_cases (errors : List ScpiErrorInfo) :
    tailText errors = [] ∨ ∃ rest, tailText errors = ',' :: rest := by
  unfold tailText
  split
  · exact .inl rfl
  · exact .inr ⟨_, rfl⟩

theorem tailText_ne_nil (errors : List ScpiErrorInfo) : tailText errors ≠ [] ↔ errors ≠ [] := by
  unfold tailText
  split <;> simp_all

theorem join_errorText (entry : ScpiErrorInfo) (errors : List ScpiErrorInfo) :
    join ',' ((entry :: errors).map errorText) =
      toText entry.code ++ ',' :: (quote entry.message ++ tailText errors) := by
  have htext : errorText entry = toText entry.code ++ ',' :: quote entry.message := by
    simp only [errorText, List.append_assoc]
    rfl
  unfold tailText
  split
  · next hnil => simp [hnil, join, htext]
  · next hne =>
    have hmap : errors.map errorText ≠ [] := by simpa using hne
    rw [List.map_cons, join, List.intercalate_cons_of_ne_nil hmap, htext]
    simp [join]

theorem errorPairs_iff (malformed : Fault) {errors : List ScpiErrorInfo}
    (hcodes : ∀ entry ∈ errors, entry.code ∈ queued) (hne : errors ≠ []) :
    errorPairs malformed ((splitUnquoted (join ',' (errors.map errorText)) ',').map trim) =
      .ok errors ↔ Separable errors := by
  induction errors with
  | nil => exact absurd rfl hne
  | cons entry errors ih =>
    have hcode := hcodes entry (by simp)
    obtain ⟨hparse, hzero, htrim, -⟩ := queued_codes entry.code hcode
    obtain ⟨field, fields, hsplit⟩ := List.exists_cons_of_ne_nil
      (splitUnquoted_ne_nil (quote entry.message ++ tailText errors) ',')
    have hfield := field_eq_quote_iff (tailText_cases errors) hsplit
    rw [tailText_ne_nil] at hfield
    rw [join_errorText, splitUnquoted_code hcode, hsplit, List.map_cons, List.map_cons, htrim,
      separable_cons, ← hfield]
    simp only [errorPairs, hparse, hzero, if_false, unquote_trim]
    have hrest (hquote : field = quote entry.message) :
        errorPairs malformed (fields.map trim) = .ok errors ↔ Separable errors := by
      by_cases hnil : errors = []
      · subst hnil
        have hwhole := (hfield.mp hquote).1
        have htail : tailText [] = [] := rfl
        rw [htail, List.append_nil, hwhole.split] at hsplit
        obtain ⟨-, rfl⟩ := List.cons.inj hsplit
        exact ⟨fun _ => ⟨by simp, by simp⟩, fun _ => rfl⟩
      · have hquoted := hfield.mp hquote
        have htail : tailText errors = ',' :: join ',' (errors.map errorText) := if_neg hnil
        rw [htail, splitUnquoted_append (by decide) (hquoted.2 hnil), hquoted.1.split] at hsplit
        obtain ⟨-, hfields⟩ := List.cons.inj hsplit
        rw [← hfields]
        exact ih (fun e he => hcodes e (by simp [he])) hnil
    constructor
    · intro h
      cases hpairs : errorPairs malformed (fields.map trim) with
      | error fault =>
        rw [hpairs] at h
        cases h
      | ok rest =>
        rw [hpairs] at h
        obtain ⟨hhead, rfl⟩ := List.cons.inj (Except.ok.inj h)
        have hmessage : unquote field = entry.message := congrArg ScpiErrorInfo.message hhead
        have hquote := field_eq_quote (tailText_cases rest) hsplit hmessage
        exact ⟨hquote, (hrest hquote).mp hpairs⟩
    · rintro ⟨hquote, hseparable⟩
      rw [(hrest hquote).mpr hseparable, hquote, unquote_quote]
      rfl

theorem parseErrors_iff {errors : List ScpiErrorInfo}
    (hcodes : ∀ entry ∈ errors, entry.code ∈ queued) (hne : errors ≠ []) :
    parseErrors (join ',' (errors.map errorText)) = .ok errors ↔ Separable errors := by
  have hblank : trim (join ',' (errors.map errorText)) ≠ [] := by
    obtain ⟨entry, rest, rfl⟩ := List.exists_cons_of_ne_nil hne
    rw [join_errorText]
    exact trim_code_ne_nil (hcodes entry (by simp)) _
  have hfields : splitCsv (join ',' (errors.map errorText)) =
      (splitUnquoted (join ',' (errors.map errorText)) ',').map trim := if_neg hblank
  simp only [parseErrors, hfields]
  rw [← errorPairs_iff _ hcodes hne]
  constructor
  · intro h
    split at h
    · cases h
    · next pairs hpairs =>
      split at h
      · cases h
      · rw [hpairs, Except.ok.inj h]
  · intro h
    rw [h]
    simp [hne]

end Decode

def NormaSimulator.withErrors (sim : NormaSimulator) (errors : List ScpiErrorInfo) :
    NormaSimulator :=
  { sim with state := { sim.state with errors } }

@[simp] theorem withErrors_self (sim : NormaSimulator) :
    sim.withErrors sim.state.errors = sim := rfl

@[simp] theorem withErrors_errors (sim : NormaSimulator) (errors : List ScpiErrorInfo) :
    (sim.withErrors errors).state.errors = errors := rfl

@[simp] theorem withErrors_withErrors (sim : NormaSimulator) (first second : List ScpiErrorInfo) :
    (sim.withErrors first).withErrors second = sim.withErrors second := rfl

theorem withErrors_of_eq {sim : NormaSimulator} {errors : List ScpiErrorInfo}
    (h : sim.state.errors = errors) : sim.withErrors errors = sim := by
  rw [← h, withErrors_self]

section Read

variable {sim : NormaSimulator}

theorem handleLine_systErr (sim : NormaSimulator) :
    sim.handleLine "SYST:ERR?" = some (match sim.state.errors with
      | [] => (sim, some noErrorText)
      | entry :: rest => (sim.withErrors rest, some (errorText entry))) := by
  have hmem : (("SYST:ERR" : Text), Key.systErr, ([] : List Int)) ∈ knownHeaders := by simp [knownHeaders]
  have hline := handleLine_query hmem sim
  refine Eq.trans hline ?_
  change some _ = _
  simp only [Access.queryOnly, received, Parsed.command, if_true, Access.nextError]
  cases sim.state.errors <;> rfl

theorem handleLine_systErrAll (sim : NormaSimulator) :
    sim.handleLine "SYST:ERR:ALL?" = some (match sim.state.errors with
      | [] => (sim, some noErrorText)
      | errors => (sim.withErrors [], some (join ',' (errors.map errorText)))) := by
  have hmem : (("SYST:ERR:ALL" : Text), Key.systErrAll, ([] : List Int)) ∈ knownHeaders := by
    simp [knownHeaders]
  have hline := handleLine_query hmem sim
  refine Eq.trans hline ?_
  change some _ = _
  simp only [Access.queryOnly, received, Parsed.command, if_true, Access.allErrors]
  cases sim.state.errors <;> rfl

theorem parseError_noErrorText : parseError noErrorText = .ok ⟨0, "No error"⟩ := by
  decide +kernel

theorem parseErrors_noErrorText : parseErrors noErrorText = .ok [] := by
  decide +kernel

def decodedEntry (entry : ScpiErrorInfo) : ScpiErrorInfo :=
  ⟨entry.code, decodedMessage entry.message⟩

theorem drainErrors_idle {client : SimulatorClient} (hidle : client.Idle)
    {errors : List ScpiErrorInfo} (herrors : client.sim.state.errors = errors)
    (hcodes : ∀ entry ∈ errors, entry.code ∈ queued) {n : Nat} (hn : errors.length < n)
    (drained : List ScpiErrorInfo) :
    drainErrors n drained client =
      some (.ok (drained ++ errors.map decodedEntry),
        client.withSim (client.sim.withErrors [])) := by
  induction errors generalizing client n drained with
  | nil =>
    obtain ⟨m, rfl⟩ := Nat.exists_eq_add_one_of_ne_zero (Nat.ne_of_gt hn)
    have hline := handleLine_systErr client.sim
    rw [herrors] at hline
    have hquery := query_idle hidle (by decide +kernel) hline
    rw [drainErrors, Session.bind_ok hquery, Session.bind_ofExcept_ok parseError_noErrorText,
      withErrors_of_eq herrors]
    simp only [if_true, List.map_nil, List.append_nil]
    rfl
  | cons entry errors ih =>
    obtain ⟨m, rfl⟩ := Nat.exists_eq_add_one_of_ne_zero (Nat.ne_of_gt (Nat.zero_lt_of_lt hn))
    have hcode := hcodes entry (by simp)
    have hline := handleLine_systErr client.sim
    rw [herrors] at hline
    have hquery := query_idle hidle (by decide +kernel) hline
    have hzero : entry.code ≠ 0 := (queued_codes entry.code hcode).2.1
    rw [drainErrors, Session.bind_ok hquery,
      Session.bind_ofExcept_ok (parseError_errorText hcode), if_neg hzero]
    have hrest := ih (hidle.withSim (client.sim.withErrors errors)) rfl
      (fun e he => hcodes e (by simp [he])) (by simpa using hn)
      (drained ++ [⟨entry.code, decodedMessage entry.message⟩])
    rw [hrest]
    simp [decodedEntry]

theorem readErrors_idle {client : SimulatorClient} (hidle : client.Idle)
    (hqueue : QueueValid client.sim.state.errors) :
    NormaInstrument.readErrors client =
      some (.ok (client.sim.state.errors.map decodedEntry),
        client.withSim (client.sim.withErrors [])) := by
  have hlength : client.sim.state.errors.length < kMaxErrorQueueDrain :=
    hqueue.length_le.trans_lt (by decide)
  exact drainErrors_idle hidle rfl hqueue.codes hlength []

theorem readErrorsAtOnce_idle {client : SimulatorClient} (hidle : client.Idle) :
    NormaInstrument.readErrorsAtOnce client =
      some (if client.sim.state.errors = [] then .ok []
        else parseErrors (join ',' (client.sim.state.errors.map errorText)),
        client.withSim (client.sim.withErrors [])) := by
  have hline := handleLine_systErrAll client.sim
  cases herrors : client.sim.state.errors with
  | nil =>
    rw [herrors] at hline
    have hquery := query_idle hidle (by decide +kernel) hline
    rw [NormaInstrument.readErrorsAtOnce, Session.bind_ok hquery, Session.ofExcept,
      parseErrors_noErrorText, withErrors_of_eq herrors, if_pos rfl]
  | cons entry errors =>
    rw [herrors] at hline
    have hquery := query_idle hidle (by decide +kernel) hline
    rw [NormaInstrument.readErrorsAtOnce, Session.bind_ok hquery, Session.ofExcept, if_neg (by simp)]

def ReadsQueue (read : Session SimulatorTransport (List ScpiErrorInfo)) (client : SimulatorClient) :
    Prop :=
  ∃ after, read client = some (.ok client.sim.state.errors, after) ∧ after.sim.state.errors = []

theorem map_decodedEntry_iff (errors : List ScpiErrorInfo) :
    errors.map decodedEntry = errors ↔ ∀ entry ∈ errors, Whole ',' (quote entry.message) := by
  have hentry (entry : ScpiErrorInfo) :
      decodedEntry entry = entry ↔ Whole ',' (quote entry.message) := by
    rw [← decodedMessage_iff]
    obtain ⟨code, message⟩ := entry
    simp [decodedEntry]
  have hmap := List.map_inj_left (f := decodedEntry) (g := id) (l := errors)
  simpa [hentry] using hmap

theorem readErrors_reads_iff {client : SimulatorClient} (hidle : client.Idle)
    (hqueue : QueueValid client.sim.state.errors) :
    ReadsQueue NormaInstrument.readErrors client ↔
      ∀ entry ∈ client.sim.state.errors, Whole ',' (quote entry.message) := by
  rw [← map_decodedEntry_iff]
  constructor
  · rintro ⟨after, hread, -⟩
    rw [readErrors_idle hidle hqueue] at hread
    exact Except.ok.inj (congrArg Prod.fst (Option.some.inj hread))
  · intro h
    exact ⟨_, by rw [readErrors_idle hidle hqueue, h], rfl⟩

theorem readErrorsAtOnce_reads_iff {client : SimulatorClient} (hidle : client.Idle)
    (hqueue : QueueValid client.sim.state.errors) :
    ReadsQueue NormaInstrument.readErrorsAtOnce client ↔ Separable client.sim.state.errors := by
  have hread := readErrorsAtOnce_idle hidle
  by_cases hnil : client.sim.state.errors = []
  · rw [if_pos hnil] at hread
    refine ⟨fun _ => ?_, fun _ => ⟨_, by rw [hread, hnil], rfl⟩⟩
    rw [hnil]
    exact ⟨by simp, by simp⟩
  · rw [if_neg hnil] at hread
    rw [← parseErrors_iff hqueue.codes hnil]
    constructor
    · rintro ⟨after, hafter, -⟩
      rw [hread] at hafter
      exact congrArg Prod.fst (Option.some.inj hafter)
    · intro h
      exact ⟨_, by rw [hread, h], rfl⟩

theorem error_queue_read_iff {client : SimulatorClient} (hidle : client.Idle)
    (hreachable : Reachable client.sim) :
    ReadsQueue NormaInstrument.readErrors client ∧
        ReadsQueue NormaInstrument.readErrorsAtOnce client ↔
      Separable client.sim.state.errors := by
  have hqueue := hreachable.queueValid
  rw [readErrors_reads_iff hidle hqueue, readErrorsAtOnce_reads_iff hidle hqueue]
  exact ⟨And.right, fun h => ⟨h.whole, h⟩⟩

theorem plain_error_reads :
    ReadsQueue NormaInstrument.readErrors
        (opened ((NormaSimulator.new {}).pushError kUndefinedHeader "Undefined header;*BOGUS")) ∧
      ReadsQueue NormaInstrument.readErrorsAtOnce
        (opened ((NormaSimulator.new {}).pushError kUndefinedHeader "Undefined header;*BOGUS")) := by
  have hline : (NormaSimulator.new {}).handleLine "*BOGUS" = some
      ((NormaSimulator.new {}).pushError kUndefinedHeader "Undefined header;*BOGUS", none) := rfl
  have hreachable := (Reachable.new {}).line "*BOGUS" hline
  have hwhole : Whole ',' (quote "Undefined header;*BOGUS") := by
    unfold Whole
    decide +kernel
  refine (error_queue_read_iff (idle_opened _) hreachable).mpr ⟨?_, ?_⟩
  · intro entry hentry
    rw [List.mem_singleton.mp hentry]
    exact hwhole
  · intro entry hentry
    cases hentry

theorem quoted_error_misread : ¬ ∀ client : SimulatorClient, client.Idle → Reachable client.sim →
    ReadsQueue NormaInstrument.readErrors client ∧
      ReadsQueue NormaInstrument.readErrorsAtOnce client := by
  intro h
  have hline : (NormaSimulator.new {}).handleLine "*A\",B" = some
      ((NormaSimulator.new {}).pushError kUndefinedHeader "Undefined header;*A\",B", none) := rfl
  have hreachable := (Reachable.new {}).line "*A\",B" hline
  have hidle := idle_opened
    ((NormaSimulator.new {}).pushError kUndefinedHeader "Undefined header;*A\",B")
  have hread := (readErrors_reads_iff hidle hreachable.queueValid).mp (h _ hidle hreachable).1
  have hwhole := hread ⟨kUndefinedHeader, "Undefined header;*A\",B"⟩ (List.mem_singleton.mpr rfl)
  have hcut : ¬ Whole ',' (quote "Undefined header;*A\",B") := by
    unfold Whole
    decide +kernel
  exact hcut hwhole

end Read

end Norma
