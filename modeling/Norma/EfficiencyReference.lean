import Norma.Efficiency

namespace Norma

inductive ReferenceNode where
  | first
  | second
  deriving DecidableEq

namespace ReferenceNode

def suffix : ReferenceNode → Int
  | .first => 0
  | .second => 460

def other : ReferenceNode → ReferenceNode
  | .first => .second
  | .second => .first

def header : ReferenceNode → Text
  | .first => "CALC:POW:EFF:REF"
  | .second => "CALC:POW460:EFF:REF"

def function : ReferenceNode → Text
  | .first => "POW:EFF"
  | .second => "POW460:EFF"

end ReferenceNode

abbrev Names := Text × Text

def SimulatorState.references (state : State) : Names :=
  (state.efficiencyInput, state.efficiencyOutput)

def referencesText (names : Names) : Text := quote names.1 ++ "," ++ quote names.2

namespace NormaSimulator

variable (sim : NormaSimulator) (node : ReferenceNode)

def referenceAnswer : Option Text := (sim.handleLine (node.header ++ ['?'])).bind (·.2)

def efficiency : Option (SimulatedMeasurement Float) :=
  measure sim.state sim.signal node.function

end NormaSimulator

namespace Step

variable (step : Step)

def namesSet (node : ReferenceNode) : Option Names :=
  if step.isQuery = false ∧ step.key = Key.calcPowEffRef.text ∧
      (commandSuffixes step.path step.text)[0]?.getD 0 = node.suffix then
    match (parseCommand step.text).args with
    | input :: output :: _ => some (upper (unquote input), upper (unquote output))
    | _ => none
  else none

def nextNames (node : ReferenceNode) (current : Names) : Names :=
  (step.namesSet node).getD (if step.resets then ([], []) else current)

def KeepsOther : Prop :=
  ∀ node names, step.namesSet node = some names →
    step.after.sim.referenceAnswer node.other = step.before.referenceAnswer node.other ∧
      step.after.sim.efficiency node.other = step.before.efficiency node.other

def Repeats : Prop :=
  ∀ node names, step.namesSet node = some names → names = step.before.state.references

end Step

def lastNames (node : ReferenceNode) : Names → List Move → Names
  | current, [] => current
  | current, .command step :: moves => lastNames node (step.nextNames node current) moves
  | current, .signal _ _ :: moves => lastNames node current moves

structure ReferencesIndependent (start : NormaSimulator) (moves : List Move) : Prop where
  frame : ∀ step, .command step ∈ moves → step.KeepsOther
  last : ∀ pre post, moves = pre ++ post → ∀ node, (endOf start pre).referenceAnswer node =
    some (referencesText (lastNames node start.state.references pre))

section Answers

theorem referenceAnswer_eq (sim : NormaSimulator) (node : ReferenceNode) :
    sim.referenceAnswer node = some (referencesText sim.state.references) := by
  cases node with
  | first =>
    have hmem : (("CALC:POW:EFF:REF" : Text), Key.calcPowEffRef, ([0] : List Int)) ∈
        knownHeaders := by simp [knownHeaders]
    rw [NormaSimulator.referenceAnswer, ReferenceNode.header, handleLine_query hmem]
    rfl
  | second =>
    have hmem : (("CALC:POW460:EFF:REF" : Text), Key.calcPowEffRef, ([460] : List Int)) ∈
        knownHeaders := by simp [knownHeaders]
    rw [NormaSimulator.referenceAnswer, ReferenceNode.header, handleLine_query hmem]
    rfl

theorem quote_plain_injective {x y s t : Text} (hx : '"' ∉ x) (hy : '"' ∉ y)
    (h : x ++ '"' :: s = y ++ '"' :: t) : x = y ∧ s = t := by
  induction x generalizing y with
  | nil =>
    cases y with
    | nil => exact ⟨rfl, (List.cons.inj h).2⟩
    | cons c y => exact absurd (by rw [← (List.cons.inj h).1]; exact List.mem_cons_self) hy
  | cons c x ih =>
    cases y with
    | nil => exact absurd (by rw [(List.cons.inj h).1]; exact List.mem_cons_self) hx
    | cons d y =>
      obtain ⟨rfl, hrest⟩ := List.cons.inj h
      obtain ⟨rfl, rfl⟩ := ih (fun hmem => hx (List.mem_cons_of_mem _ hmem))
        (fun hmem => hy (List.mem_cons_of_mem _ hmem)) hrest
      exact ⟨rfl, rfl⟩

def PlainNames (names : Names) : Prop := '"' ∉ names.1 ∧ '"' ∉ names.2

theorem referencesText_injective {first second : Names} (hfirst : PlainNames first)
    (hsecond : PlainNames second) (h : referencesText first = referencesText second) :
    first = second := by
  obtain ⟨input, output⟩ := first
  obtain ⟨input', output'⟩ := second
  have hcomma : literal "," = [','] := rfl
  simp only [referencesText, quote, hcomma, List.cons_append, List.append_assoc,
    List.nil_append, List.cons.injEq, true_and] at h
  obtain ⟨rfl, hrest⟩ := quote_plain_injective hfirst.1 hsecond.1 h
  simp only [List.cons.injEq, true_and] at hrest
  obtain ⟨rfl, -⟩ := quote_plain_injective hfirst.2 hsecond.2 hrest
  rfl

end Answers

section Steps

variable {step : Step} {node : ReferenceNode} {names : Names}

inductive ReferenceStep (step : Step) : Prop where
  | set (node : ReferenceNode) (names : Names) (hset : step.namesSet node = some names)
      (hother : step.namesSet node.other = none) (hresets : step.resets = false)
      (hafter : step.after.sim = { step.before with
        state := Setting.efficiency.set step.before.state names })
  | reset (hnone : ∀ node, step.namesSet node = none) (hresets : step.resets = true)
      (hafter : step.after.sim.state.references = ([], []))
  | kept (hnone : ∀ node, step.namesSet node = none) (hresets : step.resets = false)
      (hafter : step.after.sim.state.references = step.before.state.references)

theorem referenceKey_of_text : ∀ spec ∈ commandSpecs,
    spec.key.text = Key.calcPowEffRef.text → spec.key = .calcPowEffRef := by
  decide +kernel

theorem references_of_modes {s t : State} (h : t.modes = s.modes) : t.references = s.references := by
  simp only [SimulatorState.modes, Prod.mk.injEq] at h
  obtain ⟨-, -, -, -, hinput, houtput, -⟩ := h
  rw [SimulatorState.references, hinput, houtput, SimulatorState.references]

theorem pushError_references (s : State) (code : Int) (message : Text) :
    (s.pushError code message).references = s.references := by
  unfold SimulatorState.pushError
  split <;> rfl

theorem namesSet_eq_none (h : step.isQuery = true ∨ step.key ≠ Key.calcPowEffRef.text ∨
      (commandSuffixes step.path step.text)[0]?.getD 0 ≠ node.suffix ∨
      ∀ input output rest, (parseCommand step.text).args ≠ input :: output :: rest) :
    step.namesSet node = none := by
  rw [Step.namesSet]
  split
  · next hset =>
    obtain ⟨hquery, hkey, hsuffix⟩ := hset
    rcases h with hq | hk | hs | hargs
    · exact absurd (hquery.symm.trans hq) Bool.false_ne_true
    · exact absurd hkey hk
    · exact absurd hsuffix hs
    · split
      · next input output rest hlist => exact absurd hlist (hargs input output rest)
      · rfl
  · rfl

theorem node_of_suffix {suffix : Int} (h : ¬(suffix ≠ 0 ∧ suffix ≠ 460)) :
    ∃ node : ReferenceNode, suffix = node.suffix := by
  rcases eq_or_ne suffix 0 with h0 | h0
  · exact ⟨.first, h0⟩
  · exact ⟨.second, not_not.mp fun h460 => h ⟨h0, h460⟩⟩

theorem ReferenceNode.suffix_ne (node : ReferenceNode) : node.suffix ≠ node.other.suffix := by
  cases node <;> decide

theorem Step.Valid.referenceStep_named (h : step.Valid)
    (hkey : step.key = Key.calcPowEffRef.text) : ReferenceStep step := by
  obtain ⟨a, b, rest, ha, hexecute, hafter⟩ := h.executed referenceKey_of_text hkey
  have hrun : execute .calcPowEffRef a = some a.efficiencyReference := rfl
  rw [hrun] at hexecute
  obtain rfl := Option.some.inj hexecute
  have hresets : step.resets = false := by
    have hname : (step.key == literal "*RST") = false := by
      rw [hkey]
      decide
    rw [Step.resets, hname, Bool.and_false]
  have hsim : step.after.sim = a.efficiencyReference.sim := by rw [hafter]; rfl
  have hsuffix : a.command.aggregateSuffix = (commandSuffixes step.path step.text)[0]?.getD 0 := by
    rw [Command.aggregateSuffix, ha.suffixes]
  have hfail (code : Int) (message : Text) (hsim : step.after.sim = (a.fail code message).sim) :
      step.after.sim.state.references = step.before.state.references := by
    rw [hsim, ← ha.sim]
    exact pushError_references _ _ _
  rw [Access.efficiencyReference] at hsim
  split at hsim
  · next hother =>
    refine .kept (fun node => namesSet_eq_none (.inr (.inr (.inl ?_)))) hresets
      (hfail _ _ hsim)
    rw [← hsuffix]
    rintro heq
    cases node with
    | first => exact hother.1 heq
    | second => exact hother.2 heq
  · next hsystem =>
    split at hsim
    · next hquery =>
      refine .kept (fun node => namesSet_eq_none (.inl (ha.query.symm.trans hquery))) hresets ?_
      rw [hsim, ← ha.sim]
      rfl
    · next hset =>
      have hset : step.isQuery = false := ha.query.symm.trans (Bool.eq_false_iff.mpr hset)
      split at hsim
      · next input output more hargs =>
        obtain ⟨node, hnode⟩ := node_of_suffix hsystem
        rw [hsuffix] at hnode
        refine .set node (upper (unquote input), upper (unquote output)) ?_
          (namesSet_eq_none (.inr (.inr (.inl ?_)))) hresets ?_
        · rw [Step.namesSet, if_pos ⟨hset, hkey, hnode⟩, ← ha.args, hargs]
        · rw [hnode]
          exact node.suffix_ne
        · rw [hsim, ← ha.sim]
          rfl
      · next hargs =>
        refine .kept (fun node => namesSet_eq_none (.inr (.inr (.inr ?_)))) hresets
          (hfail _ _ hsim)
        rw [← ha.args]
        exact hargs

theorem Step.Valid.references_kept (h : step.Valid) (hkey : step.key ≠ Key.calcPowEffRef.text)
    (hresets : step.resets = false) :
    step.after.sim.state.references = step.before.state.references := by
  rcases h.switched with hmodes | ⟨a, ha, hswitched⟩
  · exact references_of_modes hmodes
  · rw [← ha.sim]
    generalize step.after.sim.state = after at hswitched ⊢
    cases hswitched with
    | efficiency hset hname => exact absurd (ha.key.symm.trans hname) hkey
    | format hset hpair => cases hpair <;> rfl
    | reset hname hset =>
      have hreset := Step.resets_iff.mpr ⟨ha.query.symm.trans hset, ha.key.symm.trans hname⟩
      exact absurd (hresets.symm.trans hreset) Bool.false_ne_true
    | _ => rfl

theorem Step.Valid.referenceStep (h : step.Valid) : ReferenceStep step := by
  by_cases hkey : step.key = Key.calcPowEffRef.text
  · exact h.referenceStep_named hkey
  · have hnone (node : ReferenceNode) : step.namesSet node = none :=
      namesSet_eq_none (.inr (.inl hkey))
    by_cases hresets : step.resets = true
    · obtain ⟨hset, hname⟩ := Step.resets_iff.mp hresets
      obtain ⟨out, hout, hreset⟩ := handleCommand_resets step.before hname hset
      obtain rfl := Option.some.inj (h.symm.trans hout)
      exact .reset hnone hresets (by rw [hreset]; rfl)
    · rw [Bool.not_eq_true] at hresets
      exact .kept hnone hresets (h.references_kept hkey hresets)

theorem ReferenceStep.references (h : ReferenceStep step)
    (hset : step.namesSet node = some names) :
    step.after.sim = { step.before with
      state := Setting.efficiency.set step.before.state names } := by
  cases h with
  | set node' names' hset' hother _ hafter =>
    have hnode : node = node' := by
      cases node <;> cases node' <;> first | rfl | exact absurd (hset.symm.trans hother) (by simp)
    rw [hnode] at hset
    obtain rfl := Option.some.inj (hset.symm.trans hset')
    exact hafter
  | reset hnone => exact absurd (hset.symm.trans (hnone node)) (by simp)
  | kept hnone => exact absurd (hset.symm.trans (hnone node)) (by simp)

theorem Step.Valid.unchanged (h : step.Valid) (hset : step.namesSet node = some names)
    (hrepeats : step.Repeats) : step.after.sim = step.before := by
  rw [h.referenceStep.references hset, hrepeats node names hset]
  rfl

theorem Step.Valid.keepsOther (h : step.Valid) (hrepeats : step.Repeats) : step.KeepsOther := by
  intro node names hset
  rw [h.unchanged hset hrepeats]
  exact ⟨rfl, rfl⟩

theorem Step.Valid.nextNames (h : step.Valid) (hrepeats : step.Repeats) (node : ReferenceNode) :
    step.nextNames node step.before.state.references = step.after.sim.state.references := by
  rw [Step.nextNames]
  cases h.referenceStep with
  | set node' names hset hother hresets hafter =>
    have hsame := congrArg (fun sim => sim.state.references) (h.unchanged hset hrepeats)
    have hnames := hrepeats node' names hset
    rw [hsame, hresets, if_neg Bool.false_ne_true]
    cases hnext : step.namesSet node with
    | none => rfl
    | some other => exact hrepeats node other hnext
  | reset hnone hresets hafter => rw [hnone, hresets, hafter]; rfl
  | kept hnone hresets hafter => rw [hnone, hresets, hafter]; rfl

theorem Step.KeepsOther.repeats (h : step.KeepsOther) (hvalid : step.Valid)
    (hbefore : PlainNames step.before.state.references)
    (hplain : ∀ node names, step.namesSet node = some names → PlainNames names) :
    step.Repeats := by
  intro node names hset
  have hanswer := (h node names hset).1
  rw [hvalid.referenceStep.references hset, referenceAnswer_eq, referenceAnswer_eq] at hanswer
  exact referencesText_injective (hplain node names hset) hbefore (Option.some.inj hanswer)

theorem Step.Valid.plainNames (h : step.Valid) (hbefore : PlainNames step.before.state.references)
    (hplain : ∀ node names, step.namesSet node = some names → PlainNames names) :
    PlainNames step.after.sim.state.references := by
  cases h.referenceStep with
  | set node names hset _ _ hafter =>
    rw [hafter]
    exact hplain node names hset
  | reset _ _ hafter =>
    rw [hafter]
    exact ⟨List.not_mem_nil, List.not_mem_nil⟩
  | kept _ _ hafter => rwa [hafter]

end Steps

section Runs

variable {sim : NormaSimulator} {moves : List Move}

theorem Linked.lastNames (h : Linked sim moves)
    (hrepeats : ∀ step, .command step ∈ moves → step.Repeats) (node : ReferenceNode) :
    lastNames node sim.state.references moves = (endOf sim moves).state.references := by
  induction moves generalizing sim with
  | nil => rfl
  | cons move moves ih =>
    obtain ⟨rfl, hvalid, hrest⟩ := h
    have hlater := ih hrest fun step hstep => hrepeats step (List.mem_cons_of_mem _ hstep)
    rw [endOf_cons, ← hlater]
    cases move with
    | signal sim given => rfl
    | command step =>
      have hnext := Step.Valid.nextNames hvalid (hrepeats step List.mem_cons_self) node
      exact congrArg (fun names => Norma.lastNames node names moves) hnext

theorem Linked.repeats (h : Linked sim moves) (hsim : PlainNames sim.state.references)
    (hplain : ∀ step, .command step ∈ moves → ∀ node names, step.namesSet node = some names →
      PlainNames names)
    (hkeeps : ∀ step, .command step ∈ moves → step.KeepsOther) :
    ∀ step, .command step ∈ moves → step.Repeats := by
  have hkept := h.kept (fun sim => PlainNames sim.state.references)
    (fun _ => Step.Valid.plainNames) (fun _ _ hnames => hnames) hsim hplain
  intro step hstep
  obtain ⟨hvalid, hbefore⟩ := h.before (P := fun state => PlainNames state.references) hsim hkept
    step hstep
  exact (hkeeps step hstep).repeats hvalid hbefore (hplain step hstep)

theorem references_independent {start : NormaSimulator} (husage : Usage start moves) :
    ((∀ step, .command step ∈ moves → step.Repeats) → ReferencesIndependent start moves) ∧
      (PlainNames start.state.references →
        (∀ step, .command step ∈ moves → ∀ node names, step.namesSet node = some names →
          PlainNames names) →
        (ReferencesIndependent start moves ↔ ∀ step, .command step ∈ moves → step.Repeats)) := by
  have hlinked := husage.linked
  have hsufficient (hrepeats : ∀ step, .command step ∈ moves → step.Repeats) :
      ReferencesIndependent start moves := by
    refine ⟨fun step hstep => ?_, fun pre post hmoves node => ?_⟩
    · have hvalid := (hlinked.before (P := fun _ => True) trivial (fun _ _ => trivial) step hstep).1
      exact hvalid.keepsOther (hrepeats step hstep)
    · subst hmoves
      have hpre := (linked_append.mp hlinked).1
      rw [referenceAnswer_eq, hpre.lastNames fun step hstep =>
        hrepeats step (List.mem_append_left _ hstep)]
  refine ⟨hsufficient, fun hstart hplain => ⟨fun hindependent => ?_, hsufficient⟩⟩
  exact hlinked.repeats hstart hplain hindependent.frame

theorem same_references_independent : ∃ moves,
    Usage ((NormaSimulator.new {}).withReferences "POW1" "POW2") moves ∧ moves ≠ [] ∧
      ReferencesIndependent ((NormaSimulator.new {}).withReferences "POW1" "POW2") moves := by
  have hparse : parseCommand "CALC:POW:EFF:REF \"POW1\",\"POW2\"" =
      ⟨"CALC:POW:EFF:REF", false, ["\"POW1\"", "\"POW2\""]⟩ := by decide +kernel
  obtain ⟨path, hout⟩ :=
    handleCommand_reference ((NormaSimulator.new {}).withReferences "POW1" "POW2") hparse
  have husage := Usage.command (by decide +kernel) (by decide +kernel) (by decide) hout (.done _)
  refine ⟨_, husage, by simp, (references_independent husage).1 fun step hstep => ?_⟩
  obtain rfl := Move.command.inj (List.mem_singleton.mp hstep)
  intro node names hset
  rw [Step.namesSet, hparse] at hset
  split at hset
  · rw [← Option.some.inj hset]
    exact (by decide +kernel : (upper (unquote "\"POW1\""), upper (unquote "\"POW2\"")) =
      (("POW1" : Text), ("POW2" : Text)))
  · cases hset

theorem references_shared : ¬∀ start, Reachable start → ∀ moves, Usage start moves →
    ReferencesIndependent start moves := by
  intro hall
  have hparse : parseCommand "CALC:POW:EFF:REF \"POW1\",\"POW2\"" =
      ⟨"CALC:POW:EFF:REF", false, ["\"POW1\"", "\"POW2\""]⟩ := by decide +kernel
  obtain ⟨path, hout⟩ := handleCommand_reference (.new {}) hparse
  have husage := Usage.command (by decide +kernel) (by decide +kernel) (by decide) hout (.done _)
  have hkeeps := (hall _ (.new {}) _ husage).frame _ List.mem_cons_self
  have hkey : commandKey [] "CALC:POW:EFF:REF \"POW1\",\"POW2\"" = Key.calcPowEffRef.text := by
    decide +kernel
  have hsuffixes : commandSuffixes [] "CALC:POW:EFF:REF \"POW1\",\"POW2\"" = [0] := by
    decide +kernel
  have hset (after : Outcome) : Step.namesSet ⟨.new {}, [],
      "CALC:POW:EFF:REF \"POW1\",\"POW2\"", after⟩ .first =
      some (upper (unquote "\"POW1\""), upper (unquote "\"POW2\"")) := by
    simp only [Step.namesSet, Step.isQuery, Step.key, hparse, hkey, hsuffixes]
    rfl
  have hanswer := (hkeeps .first _ (hset _)).1
  rw [referenceAnswer_eq, referenceAnswer_eq] at hanswer
  have hne : referencesText (upper (unquote "\"POW1\""), upper (unquote "\"POW2\"")) ≠
      referencesText ([], []) := by
    decide +kernel
  exact hne (Option.some.inj hanswer)

end Runs

end Norma
