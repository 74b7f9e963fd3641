import Norma.CapiErrors
import Norma.Interop

namespace Norma

namespace Interop

open Capi (Handle Status normaQuery)
open CNumber (cstr)

section

variable {T : Type} [Transport T] {h after : Handle T} {text response : Text}
  {instrument : ScpiClient T} {size : Nat} {sizes : List Nat}

-- The query is handed over once, and what comes back is the response of that one exchange.
def OneExchange (scpiQuery : ManagedText) (h : Handle T) (response : Text)
    (instrument : ScpiClient T) : Prop :=
  ∃ text after, query scpiQuery h = some (.ok text, [Utf8.encode scpiQuery], after) ∧
    Utf8.encode text = response ∧ after.instrument = instrument

theorem call_query (hsize : size ≠ 0)
    (hexchange : ScpiClient.query (cstr text) h.instrument = some (.ok response, instrument)) :
    ∃ after, after.instrument = instrument ∧
      (normaQuery (some text) true size).call h =
        some (if response.length < size then .ok else .bufferTooSmall,
          .buffer (some (response.take (size - 1))), after) := by
  have hfn : (normaQuery (some text) true size).fn h.instrument = some (.ok (.buffer (some (response.take (size - 1))),
      if (response.take (size - 1)).length < response.length then
        some ("response truncated (" ++ toText (response.length + 1) ++ " bytes needed)")
      else none), instrument) := Session.bind_ok hexchange _
  have hgiven : ¬(normaQuery (some text) true size : Capi.Entry T).refused = true := by
    simp [normaQuery, hsize]
  rw [Capi.Entry.call, if_neg hgiven, Capi.guarded, hfn]
  by_cases hshort : response.length < size
  · have hcopied : ¬(response.take (size - 1)).length < response.length := by
      rw [List.length_take]
      omega
    rw [if_neg hcopied, if_pos hshort]
    exact ⟨_, rfl, rfl⟩
  · have hcopied : (response.take (size - 1)).length < response.length := by
      rw [List.length_take]
      omega
    rw [if_pos hcopied, if_neg hshort]
    exact ⟨_, rfl, rfl⟩

theorem queryWith_short (hsize : response.length < size)
    (hexchange : ScpiClient.query (cstr text) h.instrument = some (.ok response, instrument)) :
    ∃ after, after.instrument = instrument ∧
      queryWith text (size :: sizes) h =
        some (.ok (Utf8.decode (cstr response)), [cstr text], after) := by
  obtain ⟨after, hafter, hcall⟩ := call_query (Nat.ne_of_gt (Nat.zero_lt_of_lt hsize)) hexchange
  refine ⟨after, hafter, ?_⟩
  rw [queryWith, hcall, if_pos hsize]
  change some (Except.ok (Utf8.decode (cstr (response.take (size - 1)))), [cstr text], after) = _
  rw [List.take_of_length_le (by omega)]

theorem queryWith_sent {result : Except Exception ManagedText} {sent : List Text}
    (h : queryWith text (size :: sizes) h = some (result, sent, after)) : sent ≠ [] := by
  rw [queryWith] at h
  split at h
  · cases h
  · obtain ⟨⟨result, sent, after⟩, -, heq⟩ := Option.map_eq_some_iff.mp h
    cases heq
    exact List.cons_ne_nil _ _
  · cases h
    exact List.cons_ne_nil _ _
  · cases h
    exact List.cons_ne_nil _ _

theorem queryWith_long {next : Nat} (hsize : size ≠ 0) (hlong : size ≤ response.length)
    (hexchange : ScpiClient.query (cstr text) h.instrument = some (.ok response, instrument))
    {result : Except Exception ManagedText} {sent : List Text}
    (hquery : queryWith text (size :: next :: sizes) h = some (result, sent, after)) :
    2 ≤ sent.length := by
  obtain ⟨mid, -, hcall⟩ := call_query hsize hexchange
  rw [queryWith, hcall, if_neg (Nat.not_lt.mpr hlong)] at hquery
  obtain ⟨⟨result, rest, after⟩, hrest, heq⟩ := Option.map_eq_some_iff.mp hquery
  cases heq
  have hpos := List.length_pos_of_ne_nil (queryWith_sent hrest)
  rw [List.length_cons]
  omega

theorem queryWith_texts {result : Except Exception ManagedText} {sent : List Text}
    (hquery : queryWith text sizes h = some (result, sent, after)) : ∀ line ∈ sent, line = cstr text := by
  induction sizes generalizing h sent with
  | nil =>
    cases hquery
    simp
  | cons size sizes ih =>
    rw [queryWith] at hquery
    split at hquery
    · cases hquery
    · obtain ⟨⟨result, rest, after⟩, hrest, heq⟩ := Option.map_eq_some_iff.mp hquery
      cases heq
      exact List.forall_mem_cons.mpr ⟨rfl, ih hrest⟩
    · cases hquery
      simp
    · cases hquery
      simp

theorem bufferSizes_eq : bufferSizes = [1024, 2048, 4096, 8192, 16384, 32768, 65536, 131072, 262144,
    524288, 1048576] := by
  decide

variable {scpiQuery : ManagedText}

theorem query_given (h : Handle T) (hgiven : isNullOrWhiteSpace scpiQuery = false) :
    query scpiQuery h = queryWith (Utf8.encode scpiQuery) bufferSizes h := by
  rw [query, if_neg (Bool.eq_false_iff.mp hgiven)]

theorem cstr_encode (hplain : '\x00' ∉ scpiQuery) :
    cstr (Utf8.encode scpiQuery) = Utf8.encode scpiQuery :=
  CNumber.cstr_eq_self fun hnul => hplain (Utf8.nul_mem_encode.mp hnul)

theorem cstr_split (h : '\x00' ∈ response) :
    ∃ post, response = cstr response ++ '\x00' :: post := by
  induction response with
  | nil => cases h
  | cons c response ih =>
    by_cases hc : c = '\x00'
    · exact ⟨response, by simp [cstr, hc]⟩
    · obtain ⟨post, hpost⟩ := ih ((List.mem_cons.mp h).resolve_left (Ne.symm hc))
      exact ⟨post, by simpa [cstr, hc] using hpost⟩

theorem query_short (hgiven : isNullOrWhiteSpace scpiQuery = false) (hplain : '\x00' ∉ scpiQuery)
    (hexchange : ScpiClient.query (Utf8.encode scpiQuery) h.instrument =
      some (.ok response, instrument)) (hshort : response.length < InitialQueryBufferBytes) :
    ∃ after, after.instrument = instrument ∧ query scpiQuery h =
      some (.ok (Utf8.decode (cstr response)), [Utf8.encode scpiQuery], after) := by
  rw [← cstr_encode hplain] at hexchange
  rw [query_given h hgiven, bufferSizes_eq]
  obtain ⟨after, hafter, hquery⟩ := queryWith_short hshort hexchange
  rw [cstr_encode hplain] at hquery
  exact ⟨after, hafter, hquery⟩

theorem query_once {result : ManagedText}
    (hexchange : ScpiClient.query (Utf8.encode scpiQuery) h.instrument =
      some (.ok response, instrument))
    (hquery : query scpiQuery h = some (.ok result, [Utf8.encode scpiQuery], after)) :
    isNullOrWhiteSpace scpiQuery = false ∧ '\x00' ∉ scpiQuery ∧
      response.length < InitialQueryBufferBytes := by
  have hgiven : isNullOrWhiteSpace scpiQuery = false := by
    rw [Bool.eq_false_iff]
    intro hblank
    rw [query, if_pos hblank] at hquery
    cases hquery
  rw [query_given h hgiven, bufferSizes_eq] at hquery
  have hplain : '\x00' ∉ scpiQuery := by
    intro hnul
    have hsent := queryWith_texts hquery (Utf8.encode scpiQuery) List.mem_cons_self
    have hcut := List.mem_takeWhile_imp (hsent ▸ Utf8.nul_mem_encode.mpr hnul)
    simp at hcut
  refine ⟨hgiven, hplain, Nat.lt_of_not_le fun hlong => ?_⟩
  rw [← cstr_encode hplain] at hexchange
  have hsent := queryWith_long (by decide) hlong hexchange hquery
  rw [List.length_singleton] at hsent
  exact absurd hsent (by decide)

theorem OneExchange.short (hone : OneExchange scpiQuery h response instrument)
    (hexchange : ScpiClient.query (Utf8.encode scpiQuery) h.instrument =
      some (.ok response, instrument)) : response.length < InitialQueryBufferBytes := by
  obtain ⟨result, after, hquery, hrest⟩ := hone
  exact (query_once hexchange hquery).2.2

theorem one_exchange_iff (hexchange : ScpiClient.query (Utf8.encode scpiQuery) h.instrument =
      some (.ok response, instrument)) :
    OneExchange scpiQuery h response instrument ↔
      isNullOrWhiteSpace scpiQuery = false ∧ '\x00' ∉ scpiQuery ∧
        response.length < InitialQueryBufferBytes ∧ '\x00' ∉ response ∧
        ∃ text, Utf8.encode text = response := by
  constructor
  · rintro ⟨text, after, hquery, htext, -⟩
    obtain ⟨hgiven, hplain, hshort⟩ := query_once hexchange hquery
    refine ⟨hgiven, hplain, hshort, fun hnul => ?_, text, htext⟩
    obtain ⟨after', -, hreturned⟩ := query_short hgiven hplain hexchange hshort
    rw [hquery] at hreturned
    have hread : text = Utf8.decode (cstr response) := by
      injection hreturned with hpair
      injection hpair with hok
      injection hok
    obtain ⟨post, hpost⟩ := cstr_split hnul
    have hless := Utf8.decode_nul_length (cstr response) post
    rw [← hpost, ← htext, Utf8.decode_encode, htext, ← hread] at hless
    exact absurd hless (Nat.lt_irrefl _)
  · rintro ⟨hgiven, hplain, hshort, hnul, text, htext⟩
    obtain ⟨after, hafter, hquery⟩ := query_short hgiven hplain hexchange hshort
    rw [CNumber.cstr_eq_self hnul, ← htext, Utf8.decode_encode] at hquery
    exact ⟨text, after, hquery, htext, hafter⟩

end

section Simulator

open Capi (bogus connected)
open ScpiClient (opened idle_opened query_idle)

theorem handleCommon_long {key : Text} (h : 4 < key.length) (a : Access) :
    handleCommon key a = .declined := by
  have hne {name : Text} (hname : name.length ≤ 4) : key ≠ name := by
    rintro rfl
    omega
  unfold handleCommon
  repeat rw [if_neg (hne (by decide))]

def overlong : Text := '*' :: List.replicate 1024 'A'

theorem overlong_line (sim : NormaSimulator) :
    sim.handleLine overlong = some ((undefinedHeader sim [] overlong).sim, none) := by
  have hparse : parseCommand overlong = ⟨overlong, false, []⟩ := by decide +kernel
  have hlength : 4 < (upper overlong).length := by decide +kernel
  have hcommand : handleCommand sim [] overlong = some (undefinedHeader sim [] overlong) := by
    rw [handleCommand, hparse, if_pos (by rfl), handleStar]
    simp only [handleCommon_long hlength]
  exact handleLine_single (by decide +kernel) (by decide +kernel) (by decide +kernel)
    (List.cons_ne_nil _ _) hcommand

def allErrorsQuery : ManagedText := "SYST:ERR:ALL?".toList

theorem encode_allErrorsQuery : Utf8.encode allErrorsQuery = ("SYST:ERR:ALL?" : Text) := by
  decide +kernel

theorem allErrors_exchange (sim : NormaSimulator) {entry : ScpiErrorInfo}
    {rest : List ScpiErrorInfo} (herrors : sim.state.errors = entry :: rest) :
    ScpiClient.query "SYST:ERR:ALL?" (opened sim) =
      some (.ok (join ',' ((entry :: rest).map errorText)), opened (sim.withErrors [])) := by
  have hline := handleLine_systErrAll sim
  rw [herrors] at hline
  exact query_idle (idle_opened sim) (by decide +kernel) hline

theorem bogus_errors_read : OneExchange allErrorsQuery (connected bogus)
    "-113,\"Undefined header;*BOGUS\"" (opened (bogus.withErrors [])) := by
  have hexchange := allErrors_exchange bogus rfl
  rw [← encode_allErrorsQuery] at hexchange
  have hone := (one_exchange_iff (h := connected bogus) hexchange).mpr ⟨by decide +kernel,
    by decide +kernel, by decide +kernel, by decide +kernel,
    "-113,\"Undefined header;*BOGUS\"".toList, by decide +kernel⟩
  have hresponse : join ',' ([⟨-113, "Undefined header;*BOGUS"⟩].map errorText) =
      "-113,\"Undefined header;*BOGUS\"" := by decide +kernel
  rwa [← hresponse]

theorem long_lost (sim : NormaSimulator) {message : Text} {limit : Nat}
    (herrors : sim.state.errors = [⟨-113, message⟩])
    (hlength : (join ',' ([⟨-113, message⟩].map errorText)).length = limit)
    (hlong : InitialQueryBufferBytes ≤ limit) (hlimit : limit ≤ MaxQueryBufferBytes) :
    ∃ response, ScpiClient.query (Utf8.encode allErrorsQuery) (connected sim).instrument =
        some (.ok response, opened (sim.withErrors [])) ∧
      response.length ≤ MaxQueryBufferBytes ∧
      ¬OneExchange allErrorsQuery (connected sim) response (opened (sim.withErrors [])) := by
  have hexchange := allErrors_exchange sim herrors
  rw [← encode_allErrorsQuery] at hexchange
  refine ⟨_, hexchange, ?_, ?_⟩
  · rw [hlength]
    exact hlimit
  · intro hone
    have hshort := hone.short hexchange
    rw [hlength] at hshort
    exact Nat.not_lt.mpr hlong hshort

-- The first call empties the queue, and the second one, with more room, finds it empty.
theorem long_error_lost : ¬∀ sim, Reachable sim → ∀ scpiQuery response instrument,
    isNullOrWhiteSpace scpiQuery = false →
    ScpiClient.query (Utf8.encode scpiQuery) (connected sim).instrument =
      some (.ok response, instrument) → response.length ≤ MaxQueryBufferBytes →
    OneExchange scpiQuery (connected sim) response instrument := by
  intro hall
  have hreachable : Reachable (undefinedHeader (.new {}) [] overlong).sim :=
    .line (.new {}) _ (overlong_line (.new {}))
  have hlength : (join ',' ([⟨-113, "Undefined header;" ++ overlong⟩].map errorText)).length =
      1049 := by decide +kernel
  obtain ⟨response, hexchange, hfits, hlost⟩ :=
    long_lost (undefinedHeader (.new {}) [] overlong).sim rfl hlength (by decide)
      (by decide)
  exact hlost (hall _ hreachable _ _ _ (by decide +kernel) hexchange hfits)

end Simulator

end Interop

end Norma
