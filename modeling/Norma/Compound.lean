import Norma.Quoting
import Norma.Run

namespace Norma

open ErrorCode

def commandsOf (line : Text) : List Text :=
  ((splitUnquoted line ';').map trim).filter (· ≠ [])

def Chained (sim : NormaSimulator) (path : List Token) : List Step → Prop
  | [] => True
  | step :: steps =>
      step.before = sim ∧ step.path = path ∧ step.Valid ∧
        Chained step.after.sim step.after.path steps

theorem executed_chained {sim : NormaSimulator} {path : List Token} {pieces : List Text}
    {steps : List Step} (h : executed sim path pieces = some steps) : Chained sim path steps := by
  induction pieces generalizing sim path steps with
  | nil =>
    obtain rfl := Option.some.inj h
    trivial
  | cons piece pieces ih =>
    simp only [executed] at h
    split at h
    · exact ih h
    · split at h
      · cases h
      · next out hout =>
        split at h
        · obtain rfl := Option.some.inj h
          exact ⟨rfl, rfl, hout, trivial⟩
        · obtain ⟨rest, hrest, rfl⟩ := Option.map_eq_some_iff.mp h
          exact ⟨rfl, rfl, hout, ih hrest⟩

theorem executed_texts {sim : NormaSimulator} {path : List Token} {pieces : List Text}
    {steps : List Step} (h : executed sim path pieces = some steps) :
    (∀ step ∈ steps.dropLast, step.after.stop = false) ∧
      ∃ rest, (pieces.map trim).filter (· ≠ []) = steps.map (·.text) ++ rest ∧
        ((∀ step ∈ steps, step.after.stop = false) → rest = []) := by
  induction pieces generalizing sim path steps with
  | nil =>
    obtain rfl := Option.some.inj h
    simp
  | cons piece pieces ih =>
    simp only [executed] at h
    split at h
    · next hblank => simpa [hblank] using ih h
    · next hblank =>
      split at h
      · cases h
      · next out hout =>
        split at h
        · next hstop =>
          obtain rfl := Option.some.inj h
          refine ⟨by simp, (pieces.map trim).filter (· ≠ []), by simp [hblank], ?_⟩
          intro hgo
          simp [hstop] at hgo
        · next hstop =>
          obtain ⟨tail, htail, rfl⟩ := Option.map_eq_some_iff.mp h
          obtain ⟨hlast, rest, htexts, hrest⟩ := ih htail
          refine ⟨?_, rest, by simp [hblank, ← htexts], fun hgo => hrest ?_⟩
          · intro step hstep
            cases tail with
            | nil => simp at hstep
            | cons t ts =>
              rw [List.dropLast_cons_of_ne_nil (by simp)] at hstep
              rcases List.mem_cons.mp hstep with rfl | hmem
              · simpa using hstop
              · exact hlast step hmem
          · exact fun step hstep => hgo step (List.mem_cons_of_mem _ hstep)

def Answers (steps : List Step) : List Step :=
  steps.filter fun step => step.isQuery && !step.after.stop

theorem responsesOf_eq_answers {steps : List Step} (hvalid : ∀ step ∈ steps, step.Valid) :
    (responsesOf steps).map some = (Answers steps).map (·.after.response) := by
  induction steps with
  | nil => rfl
  | cons step steps ih =>
    have hsome := (hvalid step (by simp)).effect.response_isSome
    have hrest := ih fun s hs => hvalid s (List.mem_cons_of_mem _ hs)
    rw [responsesOf_cons, List.map_append, hrest, Answers, Answers, List.filter_cons, ← hsome]
    cases hr : step.after.response <;> simp [hr]

def NormaSimulator.Responds (sim : NormaSimulator) (line : Text) (response : Option Text) : Prop :=
  ∃ steps rest, Chained sim [] steps ∧ commandsOf line = steps.map (·.text) ++ rest ∧
    ((∀ step ∈ steps, step.after.stop = false) → rest = []) ∧
    (∀ step ∈ steps.dropLast, step.after.stop = false) ∧
    (∀ step ∈ steps, Outcome.Effect step.before step.isQuery step.after) ∧
    (response = none ↔ Answers steps = []) ∧
    (Answers steps ≠ [] → ∃ segments : List Text,
      (Answers steps).map (·.after.response) = segments.map some ∧
        response = some (join ';' segments))

theorem handleLine_responds {sim after : NormaSimulator} {line : Text} {response : Option Text}
    (h : sim.handleLine line = some (after, response)) : sim.Responds line response := by
  rw [handleLine_eq] at h
  obtain ⟨steps, hsteps, hpair⟩ := Option.map_eq_some_iff.mp h
  obtain ⟨hlast, rest, htexts, hrest⟩ := executed_texts hsteps
  have hvalid := executed_valid hsteps
  have hanswers := responsesOf_eq_answers hvalid
  have hresponse : joinResponses (responsesOf steps) = response := congrArg Prod.snd hpair
  have hempty : responsesOf steps = [] ↔ Answers steps = [] := by
    rw [← List.map_eq_nil_iff (f := some), hanswers, List.map_eq_nil_iff]
  refine ⟨steps, rest, executed_chained hsteps, htexts, hrest, hlast,
    fun step hstep => (hvalid step hstep).effect, ?_, ?_⟩
  · rw [← hresponse, ← hempty]
    simp [joinResponses]
  · intro hne
    refine ⟨responsesOf steps, hanswers.symm, ?_⟩
    rw [← hresponse, joinResponses, if_neg (mt hempty.mp hne)]

theorem executed_stop {sim : NormaSimulator} {path : List Token} {piece : Text} {out : Outcome}
    (hpiece : trim piece ≠ []) (hout : handleCommand sim path (trim piece) = some out)
    (hstop : out.stop = true) (post : List Text) :
    executed sim path (piece :: post) = some [⟨sim, path, trim piece, out⟩] := by
  simp [executed, hpiece, hout, hstop]

theorem failed_command_is_last {sim : NormaSimulator} {line piece : Text} {pre post : List Text}
    {steps : List Step} {out : Outcome}
    (hline : splitUnquoted line ';' = pre ++ piece :: post) (hpiece : trim piece ≠ [])
    (hpre : executed sim [] pre = some steps) (hgo : ∀ step ∈ steps, step.after.stop = false)
    (hout : handleCommand (finalSim sim steps) (finalPath [] steps) (trim piece) = some out) :
    let before := finalSim sim steps
    (out.stop = false ∧ out.sim.state.errors <:+ before.state.errors) ∨
      (out.stop = true ∧
        (∃ code ∈ raised, ∃ message, out.sim = before.pushError code message) ∧
        out.sim = { before with state := { before.state with
          errors := out.sim.state.errors, eventStatus := out.sim.state.eventStatus } } ∧
        sim.handleLine line = some (out.sim, joinResponses (responsesOf steps)) ∧
        join ';' (pre ++ [piece]) <+: line ∧
        sim.handleLine line = sim.handleLine (join ';' (pre ++ [piece]))) := by
  intro before
  have heffect := handleCommand_effect hout
  cases hstop : out.stop with
  | false => exact .inl ⟨rfl, (heffect.kept_of_continue hstop).errors⟩
  | true =>
    obtain ⟨hresponse, code, hcode, message, hsim⟩ := heffect.rejected_of_stop hstop
    have hrun (rest : List Text) : executed sim [] (pre ++ piece :: rest) =
        some (steps ++ [⟨before, finalPath [] steps, trim piece, out⟩]) := by
      rw [executed_append hpre hgo, executed_stop hpiece hout hstop]
      rfl
    have hhandled : sim.handleLine line = some (out.sim, joinResponses (responsesOf steps)) := by
      simp [handleLine_eq, hline, hrun, hresponse]
    refine .inr ⟨rfl, ⟨code, hcode, message, hsim⟩, ?_, hhandled, prefix_of_splitUnquoted hline, ?_⟩
    · rw [hsim]
      simp only [NormaSimulator.pushError, SimulatorState.pushError]
      split <;> rfl
    · rw [hhandled, handleLine_eq, splitUnquoted_join_front hline, hrun]
      simp [hresponse]

theorem bogus_command_is_last :
    (NormaSimulator.new {}).handleLine "*CLS;*BOGUS;*RST" =
      (NormaSimulator.new {}).handleLine "*CLS;*BOGUS" := by
  have hline : splitUnquoted "*CLS;*BOGUS;*RST" ';' =
      [("*CLS" : Text)] ++ ("*BOGUS" : Text) :: [("*RST" : Text)] := by
    decide +kernel
  have hpiece : trim "*BOGUS" ≠ [] := by decide +kernel
  have hpre : executed (.new {}) [] [("*CLS" : Text)] =
      some [⟨.new {}, [], "*CLS", ⟨(NormaSimulator.new {}).clearStatus, [], none, false⟩⟩] := rfl
  have hout : handleCommand (NormaSimulator.new {}).clearStatus [] "*BOGUS" =
      some (undefinedHeader (NormaSimulator.new {}).clearStatus [] "*BOGUS") := rfl
  have hlast := failed_command_is_last hline hpiece hpre (by simp) hout
  rcases hlast with ⟨hstop, -⟩ | ⟨-, -, -, -, -, hcut⟩
  · cases hstop
  · exact hcut

def appendResponses : Option Text → Option Text → Option Text
  | none, second => second
  | first, none => first
  | some first, some second => some (first ++ ';' :: second)

def NormaSimulator.handleInTurn (sim : NormaSimulator) (first second : Text) :
    Option (NormaSimulator × Option Text) :=
  (sim.handleLine first).bind fun (mid, firstResponse) =>
    (mid.handleLine second).map fun (after, secondResponse) =>
      (after, appendResponses firstResponse secondResponse)

theorem joinResponses_append (xs ys : List Text) :
    joinResponses (xs ++ ys) = appendResponses (joinResponses xs) (joinResponses ys) := by
  cases ys with
  | nil => cases xs <;> simp [joinResponses, appendResponses]
  | cons y ys =>
    induction xs with
    | nil => simp [joinResponses, appendResponses]
    | cons x xs ih =>
      cases xs with
      | nil => simp [joinResponses, appendResponses, join, List.intercalate_cons_of_ne_nil]
      | cons x' xs =>
        simp only [joinResponses, appendResponses, join] at ih ⊢
        simp_all [List.intercalate_cons_of_ne_nil]

theorem splitHeader_cons {c : Char} (hquote : isQuote c = false) (hspace : isSpace c = false)
    (text : Text) :
    splitHeader none (c :: text) = (c :: (splitHeader none text).1, (splitHeader none text).2) := by
  simp [splitHeader, hquote, hspace]

theorem parseCommand_head {c : Char} (hquote : isQuote c = false) (hspace : isSpace c = false)
    (hquery : c ≠ '?') (text : Text) : (parseCommand (c :: text)).header.head? = some c := by
  simp only [parseCommand, splitHeader_cons hquote hspace]
  split
  · next hlast =>
    cases hrest : (splitHeader none text).1 with
    | nil => simp [hrest, hquery] at hlast
    | cons d rest => rfl
  · rfl

theorem parseCommand_of_head {c : Char} (hquote : isQuote c = false) (hspace : isSpace c = false)
    (hquery : c ≠ '?') {text : Text} (h : text.head? = some c) :
    (parseCommand text).header.head? = some c := by
  obtain ⟨rest, rfl⟩ := List.head?_eq_some_iff.mp h
  exact parseCommand_head hquote hspace hquery rest

theorem handleStar_path (sim : NormaSimulator) (path path' : List Token) (text : Text)
    (p : Parsed) :
    handleStar sim path text p = (handleStar sim path' text p).map ({ · with path := path }) := by
  unfold handleStar
  dsimp only
  split <;> rfl

theorem handleTree_absolute {p : Parsed} (h : p.header.head? = some ':') (sim : NormaSimulator)
    (path path' : List Token) (text : Text) :
    handleTree sim path text p = handleTree sim path' text p := by
  obtain ⟨rest, hrest⟩ := List.head?_eq_some_iff.mp h
  simp only [handleTree, headerTokens, hrest]

def startsAbsolute : List Text → Bool
  | [] => true
  | command :: commands =>
      if command.head? = some '*' then startsAbsolute commands else command.head? = some ':'

theorem handlePieces_path {pieces : List Text}
    (h : startsAbsolute ((pieces.map trim).filter (· ≠ [])) = true) (sim : NormaSimulator)
    (path path' : List Token) : handlePieces sim path pieces = handlePieces sim path' pieces := by
  induction pieces generalizing sim path path' with
  | nil => rfl
  | cons piece pieces ih =>
    simp only [handlePieces]
    split
    · next hblank => exact ih (by simpa [hblank] using h) sim path path'
    · next hblank =>
      simp only [List.map_cons, List.filter_cons, ne_eq, hblank, not_false_eq_true, decide_true,
        if_true, startsAbsolute] at h
      split at h
      · next hstar =>
        have hhead := parseCommand_of_head (by decide) (by decide) (by decide) hstar
        simp only [handleCommand, hhead, if_true]
        rw [handleStar_path sim path path']
        cases handleStar sim path' (trim piece) (parseCommand (trim piece)) with
        | none => rfl
        | some out => simp only [Option.map_some, ih h out.sim path out.path]
      · next hstar =>
        have hcolon : (trim piece).head? = some ':' := by simpa using h
        have hhead := parseCommand_of_head (by decide) (by decide) (by decide) hcolon
        simp only [handleCommand, hhead, Option.some.injEq, Char.reduceEq, if_false]
        rw [handleTree_absolute hhead sim path path']

theorem handlePieces_append {sim : NormaSimulator} {path : List Token} {pre post : List Text}
    (hgo : ∀ steps, executed sim path pre = some steps → ∀ step ∈ steps, step.after.stop = false)
    (habsolute : startsAbsolute ((post.map trim).filter (· ≠ [])) = true) :
    handlePieces sim path (pre ++ post) =
      (handlePieces sim path pre).bind fun (mid, first) =>
        (handlePieces mid [] post).map fun (after, second) => (after, first ++ second) := by
  induction pre generalizing sim path with
  | nil =>
    rw [List.nil_append, handlePieces_path habsolute sim path []]
    simp [handlePieces]
  | cons piece pre ih =>
    simp only [List.cons_append, handlePieces]
    simp only [executed] at hgo
    split
    · next hblank => exact ih (by simpa [hblank] using hgo)
    · next hblank =>
      rw [if_neg hblank] at hgo
      cases hout : handleCommand sim path (trim piece) with
      | none => rfl
      | some out =>
        have hstop : out.stop = false := by
          by_contra hstop
          refine hstop (hgo [⟨sim, path, trim piece, out⟩] ?_ _ (List.mem_singleton_self _))
          simp [hout, hstop]
        have htail : ∀ steps, executed out.sim out.path pre = some steps →
            ∀ step ∈ steps, step.after.stop = false := by
          intro steps hsteps step hstep
          refine hgo (⟨sim, path, trim piece, out⟩ :: steps) ?_ step (List.mem_cons_of_mem _ hstep)
          simp [hout, hstop, hsteps]
        simp only [hstop, ih htail]
        cases handlePieces out.sim out.path pre with
        | none => rfl
        | some result =>
          simp [Option.map_map, Function.comp_def]

theorem handleLine_compound {sim : NormaSimulator} {first second : Text}
    (hclosed : quoteAfter first = none)
    (hgo : ∀ steps, executed sim [] (splitUnquoted first ';') = some steps →
      ∀ step ∈ steps, step.after.stop = false)
    (habsolute : startsAbsolute (commandsOf second) = true) :
    sim.handleLine (first ++ ';' :: second) = sim.handleInTurn first second := by
  have hsep : isQuote ';' = false := by decide
  have hsplit := splitUnquoted_append hsep hclosed second
  simp only [NormaSimulator.handleInTurn, NormaSimulator.handleLine, hsplit, handlePieces_append hgo habsolute]
  cases handlePieces sim [] (splitUnquoted first ';') with
  | none => rfl
  | some result => simp [Option.map_map, Function.comp_def, joinResponses_append]

theorem handleLine_clear_then_query :
    (NormaSimulator.new {}).handleLine ("*CLS" ++ ';' :: ":SYST:ERR?") =
      (NormaSimulator.new {}).handleInTurn "*CLS" ":SYST:ERR?" := by
  have hrun : executed (.new {}) [] (splitUnquoted "*CLS" ';') =
      some [⟨.new {}, [], "*CLS", ⟨(NormaSimulator.new {}).clearStatus, [], none, false⟩⟩] := rfl
  have hclosed : quoteAfter "*CLS" = none := rfl
  have habsolute : startsAbsolute (commandsOf ":SYST:ERR?") = true := by decide +kernel
  refine handleLine_compound hclosed (fun steps hsteps => ?_) habsolute
  rw [hrun] at hsteps
  obtain rfl := Option.some.inj hsteps
  simp

end Norma
