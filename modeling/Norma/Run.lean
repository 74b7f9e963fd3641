import Norma.Effect

namespace Norma

open ErrorCode

def NormaSimulator.pushError (sim : NormaSimulator) (code : Int) (message : Text) :
    NormaSimulator :=
  { sim with state := sim.state.pushError code message }

inductive Outcome.Effect (sim : NormaSimulator) (query : Bool) : Outcome → Prop where
  | rejected (code : Int) (message : Text) (path : List Token) (hcode : code ∈ raised) :
      Effect sim query ⟨sim.pushError code message, path, none, true⟩
  | answered (after : NormaSimulator) (path : List Token) (text : Text) (hquery : query = true)
      (hkept : Kept sim after) : Effect sim query ⟨after, path, some text, false⟩
  | applied (after : NormaSimulator) (path : List Token) (hset : query = false)
      (hkept : Kept sim after) : Effect sim query ⟨after, path, none, false⟩

namespace Outcome.Effect

theorem ofAccess {a b : Access} (h : Norma.Effect a b) (hresponse : a.command.response = none)
    (hfailed : a.command.failed = false) (path : List Token) :
    Outcome.Effect a.sim a.command.query (b.outcome path) := by
  cases h with
  | rejected code message hcode =>
    rw [Access.outcome, Access.fail, hresponse]
    exact .rejected code message path hcode
  | answered after text hquery hkept =>
    rw [Access.outcome, hfailed]
    exact .answered after path text hquery hkept
  | applied after hset hkept =>
    rw [Access.outcome, hfailed, hresponse]
    exact .applied after path hset hkept

variable {sim : NormaSimulator} {query : Bool} {out : Outcome}

theorem rejected_of_stop (h : Outcome.Effect sim query out) (hstop : out.stop = true) :
    out.response = none ∧ ∃ code ∈ raised, ∃ message, out.sim = sim.pushError code message := by
  cases h with
  | rejected code message path hcode => exact ⟨rfl, code, hcode, message, rfl⟩
  | answered after path text => simp at hstop
  | applied after path => simp at hstop

theorem kept_of_continue (h : Outcome.Effect sim query out) (hstop : out.stop = false) :
    Kept sim out.sim := by
  cases h with
  | rejected code message path => simp at hstop
  | answered after path text hquery hkept => exact hkept
  | applied after path hset hkept => exact hkept

theorem response_isSome (h : Outcome.Effect sim query out) :
    out.response.isSome = (query && !out.stop) := by
  cases h with
  | rejected => simp
  | answered after path text hquery => simp [hquery]
  | applied after path hset => simp [hset]

end Outcome.Effect

def commandKey (path : List Token) (text : Text) : Text :=
  let p := parseCommand text
  if p.header.head? = some '*' then upper p.header
  else
    match findCommand (headerTokens path p.header) with
    | none => []
    | some (key, _) => key.text

def commandSuffixes (path : List Token) (text : Text) : List Int :=
  let p := parseCommand text
  if p.header.head? = some '*' then []
  else
    match findCommand (headerTokens path p.header) with
    | none => []
    | some (_, suffixes) => suffixes

inductive Outcome.Change (sim : NormaSimulator) (path : List Token) (text : Text) :
    Outcome → Prop where
  | undefined (rest : List Token) : Outcome.Change sim path text (undefinedHeader sim rest text)
  | changed {command : Command} {b : Access} (rest : List Token)
      (hkey : command.key = commandKey path text)
      (hsuffixes : command.suffixes = commandSuffixes path text)
      (hquery : command.query = (parseCommand text).query)
      (hargs : command.args = (parseCommand text).args)
      (hresponse : command.response = none) (hfailed : command.failed = false)
      (hchange : Norma.Change ⟨sim, command⟩ b) :
      Outcome.Change sim path text (b.outcome rest)

def Handled.outcome (handled : Handled) (path : List Token) (undefined : Outcome) :
    Option Outcome :=
  match handled with
  | .done a => some (a.outcome path)
  | .declined => some undefined
  | .crashes => none

theorem handleStar_change {sim : NormaSimulator} {path : List Token} {text : Text}
    {out : Outcome} (hstar : (parseCommand text).header.head? = some '*')
    (h : handleStar sim path text (parseCommand text) = some out) :
    Outcome.Change sim path text out := by
  let p := parseCommand text
  let a : Access := ⟨sim, p.command [⟨upper p.header, 0, false⟩] (upper p.header) []⟩
  have hkey : a.command.key = commandKey path text := by
    rw [commandKey, if_pos hstar]
    rfl
  have hsuffixes : a.command.suffixes = commandSuffixes path text := by
    rw [commandSuffixes, if_pos hstar]
    rfl
  have hchanged := handleCommon_changed (a := a) rfl
  unfold handleStar at h
  dsimp only at h
  change (handleCommon a.command.key a).outcome path (undefinedHeader sim path text) =
    some out at h
  generalize handleCommon a.command.key a = handled at h hchanged
  cases hchanged with
  | done hchange =>
    obtain rfl := Option.some.inj h
    exact .changed path hkey hsuffixes rfl rfl rfl rfl hchange
  | declined =>
    obtain rfl := Option.some.inj h
    exact .undefined path
  | crashes => cases h

theorem handleTree_change {sim : NormaSimulator} {path : List Token} {text : Text}
    {out : Outcome} (hstar : (parseCommand text).header.head? ≠ some '*')
    (h : handleTree sim path text (parseCommand text) = some out) :
    Outcome.Change sim path text out := by
  unfold handleTree at h
  dsimp only at h
  split at h
  · obtain rfl := Option.some.inj h
    exact .undefined _
  · next key suffixes hfind =>
    obtain ⟨b, hexecute, rfl⟩ := Option.map_eq_some_iff.mp h
    have hkey : key.text = commandKey path text := by
      rw [commandKey, if_neg hstar, hfind]
    have hsuffixes : suffixes = commandSuffixes path text := by
      rw [commandSuffixes, if_neg hstar, hfind]
    exact .changed _ hkey hsuffixes rfl rfl rfl rfl (execute_change rfl hexecute)

theorem handleCommand_change {sim : NormaSimulator} {path : List Token} {text : Text}
    {out : Outcome} (h : handleCommand sim path text = some out) :
    Outcome.Change sim path text out := by
  unfold handleCommand at h
  dsimp only at h
  split at h
  · next hstar => exact handleStar_change hstar h
  · next hstar => exact handleTree_change hstar h

theorem handleCommand_effect {sim : NormaSimulator} {path : List Token} {text : Text}
    {out : Outcome} (h : handleCommand sim path text = some out) :
    Outcome.Effect sim (parseCommand text).query out := by
  cases handleCommand_change h with
  | undefined rest => exact .rejected _ _ rest (by decide)
  | changed rest hkey hsuffixes hquery hargs hresponse hfailed hchange =>
    rw [← hquery]
    exact .ofAccess hchange.effect hresponse hfailed rest

structure Step where
  before : NormaSimulator
  path : List Token
  text : Text
  after : Outcome

namespace Step

def isQuery (step : Step) : Bool := (parseCommand step.text).query

def Valid (step : Step) : Prop :=
  handleCommand step.before step.path step.text = some step.after

theorem Valid.effect {step : Step} (h : step.Valid) :
    Outcome.Effect step.before step.isQuery step.after :=
  handleCommand_effect h

end Step

-- The commands of a line that are executed; the last one may fail.
def executed (sim : NormaSimulator) (path : List Token) : List Text → Option (List Step)
  | [] => some []
  | piece :: pieces =>
      if trim piece = [] then executed sim path pieces
      else
        match handleCommand sim path (trim piece) with
        | none => none
        | some out =>
            let step : Step := ⟨sim, path, trim piece, out⟩
            if out.stop then some [step]
            else (executed out.sim out.path pieces).map (step :: ·)

def finalSim (sim : NormaSimulator) (steps : List Step) : NormaSimulator :=
  (steps.getLast?.map (·.after.sim)).getD sim

def finalPath (path : List Token) (steps : List Step) : List Token :=
  (steps.getLast?.map (·.after.path)).getD path

def responsesOf (steps : List Step) : List Text := steps.flatMap (·.after.response.toList)

@[simp] theorem finalSim_nil (sim : NormaSimulator) : finalSim sim [] = sim := rfl

@[simp] theorem finalPath_nil (path : List Token) : finalPath path [] = path := rfl

@[simp] theorem responsesOf_nil : responsesOf [] = [] := rfl

@[simp] theorem responsesOf_cons (step : Step) (steps : List Step) :
    responsesOf (step :: steps) = step.after.response.toList ++ responsesOf steps := rfl

@[simp] theorem responsesOf_append (xs ys : List Step) :
    responsesOf (xs ++ ys) = responsesOf xs ++ responsesOf ys := by
  simp [responsesOf]

@[simp] theorem finalSim_cons (sim : NormaSimulator) (step : Step) (steps : List Step) :
    finalSim sim (step :: steps) = finalSim step.after.sim steps := by
  simp [finalSim, List.getLast?_cons]

@[simp] theorem finalPath_cons (path : List Token) (step : Step) (steps : List Step) :
    finalPath path (step :: steps) = finalPath step.after.path steps := by
  simp [finalPath, List.getLast?_cons]

@[simp] theorem finalSim_append (sim : NormaSimulator) (xs ys : List Step) :
    finalSim sim (xs ++ ys) = finalSim (finalSim sim xs) ys := by
  induction xs generalizing sim with
  | nil => rfl
  | cons x xs ih => simp [ih]

theorem executed_cons {sim : NormaSimulator} {path : List Token} {piece : Text}
    {pieces : List Text} {out : Outcome} (hpiece : trim piece ≠ [])
    (hout : handleCommand sim path (trim piece) = some out) (hgo : out.stop = false) :
    executed sim path (piece :: pieces) =
      (executed out.sim out.path pieces).map (⟨sim, path, trim piece, out⟩ :: ·) := by
  rw [executed, if_neg hpiece, hout]
  dsimp only
  rw [hgo]
  rfl

theorem executed_last {sim : NormaSimulator} {path : List Token} {piece : Text} {out : Outcome}
    (hpiece : trim piece ≠ []) (hout : handleCommand sim path (trim piece) = some out)
    (hgo : out.stop = false) :
    executed sim path [piece] = some [⟨sim, path, trim piece, out⟩] := by
  rw [executed_cons hpiece hout hgo]
  rfl

theorem executed_valid {sim : NormaSimulator} {path : List Token} {pieces : List Text}
    {steps : List Step} (h : executed sim path pieces = some steps) :
    ∀ step ∈ steps, step.Valid := by
  induction pieces generalizing sim path steps with
  | nil =>
    obtain rfl := Option.some.inj h
    simp
  | cons piece pieces ih =>
    simp only [executed] at h
    split at h
    · exact ih h
    · split at h
      · cases h
      · next out hout =>
        split at h
        · obtain rfl := Option.some.inj h
          simpa [Step.Valid] using hout
        · obtain ⟨rest, hrest, rfl⟩ := Option.map_eq_some_iff.mp h
          intro step hstep
          rcases List.mem_cons.mp hstep with rfl | hmem
          · exact hout
          · exact ih hrest step hmem

theorem executed_eq_nil (sim : NormaSimulator) (path : List Token) (pieces : List Text) :
    executed sim path pieces = some [] ↔ ∀ piece ∈ pieces, trim piece = [] := by
  induction pieces with
  | nil => simp [executed]
  | cons piece pieces ih =>
    simp only [executed]
    by_cases hblank : trim piece = []
    · simp [hblank, ih]
    · rw [if_neg hblank]
      cases handleCommand sim path (trim piece) with
      | none => simp [hblank]
      | some out =>
        dsimp only
        split <;> simp [hblank]

theorem handlePieces_eq (sim : NormaSimulator) (path : List Token) (pieces : List Text) :
    handlePieces sim path pieces =
      (executed sim path pieces).map fun steps => (finalSim sim steps, responsesOf steps) := by
  induction pieces generalizing sim path with
  | nil => rfl
  | cons piece pieces ih =>
    simp only [handlePieces, executed]
    split
    · exact ih sim path
    · cases handleCommand sim path (trim piece) with
      | none => rfl
      | some out =>
        dsimp only
        split
        · simp
        · rw [ih, Option.map_map, Option.map_map]
          congr 1
          funext steps
          simp

theorem handleLine_eq (sim : NormaSimulator) (line : Text) :
    sim.handleLine line = (executed sim [] (splitUnquoted line ';')).map fun steps =>
      (finalSim sim steps, joinResponses (responsesOf steps)) := by
  simp [NormaSimulator.handleLine, handlePieces_eq, Option.map_map, Function.comp_def]

theorem executed_append {sim : NormaSimulator} {path : List Token} {pre : List Text}
    {steps : List Step} (h : executed sim path pre = some steps)
    (hgo : ∀ step ∈ steps, step.after.stop = false) (post : List Text) :
    executed sim path (pre ++ post) =
      (executed (finalSim sim steps) (finalPath path steps) post).map (steps ++ ·) := by
  induction pre generalizing sim path steps with
  | nil =>
    obtain rfl := Option.some.inj h
    simp
  | cons piece pre ih =>
    simp only [executed, List.cons_append] at h ⊢
    split at h
    · next hblank => rw [if_pos hblank, ih h hgo]
    · next hblank =>
      rw [if_neg hblank]
      split at h
      · cases h
      · next out hout =>
        split at h
        · next hstop =>
          obtain rfl := Option.some.inj h
          simp [hstop] at hgo
        · next hstop =>
          obtain ⟨rest, hrest, rfl⟩ := Option.map_eq_some_iff.mp h
          have hrec := ih hrest fun step hstep => hgo step (List.mem_cons_of_mem _ hstep)
          simp only [hstop, hrec, Option.map_map]
          simp only [Bool.false_eq_true, ↓reduceIte, finalSim_cons, finalPath_cons]
          rfl

end Norma
