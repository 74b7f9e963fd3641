import Norma.Grammar
import Norma.Link
import Norma.Reach

namespace Norma

structure InputConfig where
  coupling : Coupling
  shunt : Shunt
  gain : Float
  filter : Bool

def Setting.input : Setting (Fin (kMaxInputChannel + 1) → InputConfig) where
  get s i := ⟨s.coupling i, s.shunt i, s.gain i, s.filter i⟩
  set s v := { s with
    coupling := fun i => (v i).coupling
    shunt := fun i => (v i).shunt
    gain := fun i => (v i).gain
    filter := fun i => (v i).filter }

namespace InputConfig

def couplingLens : Lens InputConfig Coupling where
  get c := c.coupling
  set c v := { c with coupling := v }

def shuntLens : Lens InputConfig Shunt where
  get c := c.shunt
  set c v := { c with shunt := v }

def gainLens : Lens InputConfig Float where
  get c := c.gain
  set c v := { c with gain := v }

def filterLens : Lens InputConfig Bool where
  get c := c.filter
  set c v := { c with filter := v }

end InputConfig

inductive Family where
  | input | voltage | current | sweep | sequence
  deriving DecidableEq

namespace Family

def last : Family → Nat
  | input => kMaxInputChannel
  | voltage => kMaxPhase
  | current => kMaxPhase
  | sweep => 2
  | sequence => 2

def Entry : Family → Type
  | input => InputConfig
  | voltage => ChannelConfig Float
  | current => ChannelConfig Float
  | sweep => SweepConfig Float
  | sequence => SweepConfig Float

def array : (f : Family) → Setting (Fin (f.last + 1) → f.Entry)
  | input => .input
  | voltage => .voltage
  | current => .current
  | sweep => .sweep
  | sequence => .sweep

def entry (f : Family) (i : Fin (f.last + 1)) : Setting f.Entry := f.array.entry i

def available (options : SimulatorOptions) : Family → Nat
  | input => options.channels
  | f => f.last

def keys : Family → List Key
  | input => [.inpCoup, .inpGain, .inpFiltFreq, .inpFiltStat, .inpShun]
  | voltage => [.voltRangList, .voltRangAuto, .voltRang, .voltScal]
  | current => [.currRangList, .currRangAuto, .currRang, .currScal]
  | sweep => [.sweOffsPoints, .sweOffsTime, .swePoints, .sweTime, .sweCoun, .sweSfac, .sweFunc,
      .sweStat]
  | sequence => [.initSeq]

def handler : Family → Key → Access → Handled
  | input => handleInput
  | voltage => handleSense
  | current => handleSense
  | sweep => handleSense
  | sequence => handleAcquisition

variable (f : Family)

theorem available_le (options : SimulatorOptions) : f.available options ≤ f.last := by
  cases f with
  | input => exact options.channels_le
  | _ => exact Nat.le_refl _

theorem entry_comm {i j : Fin (f.last + 1)} (h : i ≠ j) (s : State) (v w : f.Entry) :
    (f.entry i).set ((f.entry j).set s w) v = (f.entry j).set ((f.entry i).set s v) w := by
  unfold entry Setting.entry Setting.focus
  simp only [Lens.focus_set, Lens.get_set, Lens.set_set]
  exact congrArg (f.array.set s) (Function.update_comm h.symm _ _ _)

theorem entry_get {i j : Fin (f.last + 1)} (h : i ≠ j) (s : State) (w : f.Entry) :
    (f.entry i).get ((f.entry j).set s w) = (f.entry i).get s := by
  unfold entry Setting.entry Setting.focus
  simp only [Lens.focus_set, Lens.focus_get, Lens.get_set]
  exact Function.update_of_ne h _ _

end Family

inductive EntryAction (A : Type) where
  | fail (code : Int) (message : Text)
  | respond (text : Text)
  | store (value : A)

def EntryAction.apply {A : Type} (E : Setting A) : EntryAction A → Access → Access
  | fail code message, a => a.fail code message
  | respond text, a => a.respond text
  | store value, a => a.assign E value

structure Keeps {A : Type} (E : Setting A) (g : State → State) : Prop where
  get : ∀ s, E.get (g s) = E.get s
  aperture : ∀ s, (g s).aperture = s.aperture
  filterFrequency : ∀ s, (g s).filterFrequency = s.filterFrequency

-- The same is done with the entry in two states that agree on it.
def Served {A : Type} (E : Setting A) (a : Access) (g : State → State) (b b' : Access) : Prop :=
  ∃ action : EntryAction A, b = action.apply E a ∧ b' = action.apply E (a.update g)

namespace Served

variable {A B : Type} {E : Setting A} {a : Access} {g : State → State} {b b' c c' : Access}

theorem fail (code : Int) (message : Text) :
    Served E a g (a.fail code message) ((a.update g).fail code message) :=
  ⟨.fail code message, rfl, rfl⟩

theorem respond (text : Text) : Served E a g (a.respond text) ((a.update g).respond text) :=
  ⟨.respond text, rfl, rfl⟩

theorem assign (value : A) : Served E a g (a.assign E value) ((a.update g).assign E value) :=
  ⟨.store value, rfl, rfl⟩

theorem ite {p p' : Prop} [Decidable p] [Decidable p'] (hp : p ↔ p') (hyes : Served E a g b b')
    (hno : Served E a g c c') :
    Served E a g (if p then b else c) (if p' then b' else c') := by
  by_cases h : p
  · rw [if_pos h, if_pos (hp.mp h)]
    exact hyes
  · rw [if_neg h, if_neg fun h' => h (hp.mpr h')]
    exact hno

theorem queryOnly (h : Served E a g b b') :
    Served E a g (a.queryOnly b) ((a.update g).queryOnly b') :=
  .ite Iff.rfl h (.fail _ _)

theorem commandOnly (h : Served E a g b b') :
    Served E a g (a.commandOnly b) ((a.update g).commandOnly b') :=
  .ite Iff.rfl (.fail _ _) h

theorem parameter {body body' : Text → Access}
    (hbody : ∀ text, Served E a g (body text) (body' text)) :
    Served E a g (a.parameter body) ((a.update g).parameter body') := by
  have hargument : (a.update g).command.argument = a.command.argument := rfl
  unfold Access.parameter
  rw [hargument]
  cases a.command.argument with
  | none => exact .fail _ _
  | some text => exact hbody text

section Focus

variable (hg : Keeps E g)
include hg

theorem read (m : Lens A B) (text : B → Text) :
    Served E a g (a.respond (text (a.read (E.focus m))))
      ((a.update g).respond (text ((a.update g).read (E.focus m)))) := by
  have hget : (a.update g).read (E.focus m) = a.read (E.focus m) :=
    congrArg m.get (hg.get a.sim.state)
  rw [hget]
  exact .respond _

theorem assignFocus (m : Lens A B) (value : B) :
    Served E a g (a.assign (E.focus m) value) ((a.update g).assign (E.focus m) value) := by
  refine ⟨.store (m.set (E.get a.sim.state) value), rfl, ?_⟩
  have hget : E.get (g a.sim.state) = E.get a.sim.state := hg.get a.sim.state
  simp only [EntryAction.apply, Access.assign, Access.update, Setting.focus, Lens.focus_set, hget]

theorem number (m : Lens A Float) (min max : Float) :
    Served E a g (a.number (E.focus m) min max) ((a.update g).number (E.focus m) min max) := by
  refine .ite Iff.rfl (.read hg m _) (.parameter fun text => ?_)
  cases parseNumber text with
  | none => exact .fail _ _
  | some value => exact .ite Iff.rfl (.fail _ _) (.assignFocus hg m value)

theorem integer (m : Lens A Int) (min max : Int) :
    Served E a g (a.integer (E.focus m) min max) ((a.update g).integer (E.focus m) min max) := by
  refine .ite Iff.rfl (.read hg m _) (.parameter fun text => ?_)
  cases parseNumber text with
  | none => exact .fail _ _
  | some value => exact .ite Iff.rfl (.fail _ _) (.assignFocus hg m _)

theorem boolean (m : Lens A Bool) :
    Served E a g (a.boolean (E.focus m)) ((a.update g).boolean (E.focus m)) := by
  refine .ite Iff.rfl (.read hg m _) (.parameter fun text => ?_)
  cases parseBoolean text with
  | none => exact .fail _ _
  | some value => exact .assignFocus hg m value

theorem keyword [DecidableEq B] (m : Lens A B) (spellings : List (B × List Text)) :
    Served E a g (a.keyword (E.focus m) spellings)
      ((a.update g).keyword (E.focus m) spellings) := by
  refine .ite Iff.rfl
    (.read hg m fun value => ((spellings.find? (·.1 = value)).map fun s => s.2.headD []).getD [])
    (.parameter fun text => ?_)
  cases spellings.find? (fun s => s.2.any fun name => upper text = upper name) with
  | none => exact .fail _ _
  | some found => exact .assignFocus hg m found.1

theorem functionList (m : Lens A (List Text)) :
    Served E a g (a.functionList (E.focus m)) ((a.update g).functionList (E.focus m)) := by
  refine .ite Iff.rfl (.read hg m _) (.ite Iff.rfl (.fail _ _) ?_)
  have hargs : (a.update g).command.args = a.command.args := rfl
  rw [hargs]
  cases readFunctions a.command.args with
  | error raw => exact .fail _ _
  | ok functions => exact .assignFocus hg m functions

end Focus

theorem range {E : Setting (ChannelConfig Float)} (hg : Keeps E g) (ranges : Ranges) :
    Served E a g (a.range E ranges) ((a.update g).range E ranges) := by
  refine .ite Iff.rfl (.read hg ChannelConfig.rangeLens _) (.parameter fun text => ?_)
  cases parseNumber text with
  | none => exact .fail _ _
  | some value =>
    have hread : (a.update g).read E = a.read E := hg.get a.sim.state
    refine .ite Iff.rfl (.fail _ _) ?_
    rw [hread]
    exact .assign _

end Served

def Handled.Served {A : Type} (E : Setting A) (a : Access) (g : State → State)
    (handled handled' : Handled) : Prop :=
  ∃ b b', handled = .done b ∧ handled' = .done b' ∧ Norma.Served E a g b b'

namespace Handled.Served

variable {A : Type} {E : Setting A} {a : Access} {g : State → State}

theorem done {b b' : Access} (h : Norma.Served E a g b b') :
    Handled.Served E a g (.done b) (.done b') :=
  ⟨b, b', rfl, rfl, h⟩

theorem ite {p p' : Prop} [Decidable p] [Decidable p'] (hp : p ↔ p')
    {handled handled' other other' : Handled} (hyes : Handled.Served E a g handled handled')
    (hno : Handled.Served E a g other other') :
    Handled.Served E a g (if p then handled else other) (if p' then handled' else other') := by
  by_cases h : p
  · rw [if_pos h, if_pos (hp.mp h)]
    exact hyes
  · rw [if_neg h, if_neg fun h' => h (hp.mpr h')]
    exact hno

end Handled.Served

section Input

variable (i : Fin (kMaxInputChannel + 1))

theorem setting_ext {A : Type} {f g : Setting A} (hget : f.get = g.get) (hset : f.set = g.set) :
    f = g := by
  cases f with | mk f => cases g with | mk g => cases f; cases g; cases hget; cases hset; rfl

theorem update_field {B : Type} (field : InputConfig → B) (v : InputConfig)
    (values : Fin (kMaxInputChannel + 1) → InputConfig) :
    (fun j => field (Function.update values i v j)) =
      Function.update (fun j => field (values j)) i (field v) :=
  Function.comp_update field values i v

theorem coupling_focus : Setting.coupling.entry i =
    (Setting.input.entry i).focus InputConfig.couplingLens := by
  refine setting_ext rfl ?_
  funext s v
  simp only [Setting.entry, Setting.focus, Setting.coupling, Setting.input, Lens.focus, Lens.entry,
    InputConfig.couplingLens, update_field, Function.update_eq_self]

theorem shunt_focus : Setting.shunt.entry i =
    (Setting.input.entry i).focus InputConfig.shuntLens := by
  refine setting_ext rfl ?_
  funext s v
  simp only [Setting.entry, Setting.focus, Setting.shunt, Setting.input, Lens.focus, Lens.entry,
    InputConfig.shuntLens, update_field, Function.update_eq_self]

theorem gain_focus : Setting.gain.entry i =
    (Setting.input.entry i).focus InputConfig.gainLens := by
  refine setting_ext rfl ?_
  funext s v
  simp only [Setting.entry, Setting.focus, Setting.gain, Setting.input, Lens.focus, Lens.entry,
    InputConfig.gainLens, update_field, Function.update_eq_self]

theorem filter_focus : Setting.filter.entry i =
    (Setting.input.entry i).focus InputConfig.filterLens := by
  refine setting_ext rfl ?_
  funext s v
  simp only [Setting.entry, Setting.focus, Setting.filter, Setting.input, Lens.focus, Lens.entry,
    InputConfig.filterLens, update_field, Function.update_eq_self]

end Input

section Handlers

variable {key : Key} {a : Access} {g : State → State}

def Family.addressed (f : Family) (a : Access) : Setting f.Entry :=
  f.entry (Fin.ofNat _ a.command.suffix.toNat)

theorem isInput_of_mem (hkey : key ∈ Family.input.keys) : key.isInput = true := by
  revert key
  decide

theorem isVoltage_of_mem (hkey : key ∈ Family.voltage.keys) : key.isVoltage = true := by
  revert key
  decide

theorem isCurrent_of_mem (hkey : key ∈ Family.current.keys) :
    key.isCurrent = true ∧ key.isVoltage = false := by
  revert key
  decide

theorem handleSense_sweep (hkey : key ∈ Family.sweep.keys) (a : Access) :
    handleSense key a = handleSweep key a := by
  simp only [Family.keys, List.mem_cons, List.not_mem_nil, or_false] at hkey
  rcases hkey with rfl | rfl | rfl | rfl | rfl | rfl | rfl | rfl <;> rfl

theorem handleInput_served (hkey : key ∈ Family.input.keys)
    (hg : Keeps (Family.input.addressed a) g) :
    (handleInput key a).Served (Family.input.addressed a) a g (handleInput key (a.update g)) := by
  have hinput := isInput_of_mem hkey
  have hfilter : (a.update g).sim.state.filterFrequency = a.sim.state.filterFrequency :=
    hg.filterFrequency _
  simp only [Family.keys, List.mem_cons, List.not_mem_nil, or_false] at hkey
  simp only [handleInput, hinput, coupling_focus, gain_focus, shunt_focus, filter_focus, hfilter,
    Bool.not_true, Bool.false_eq_true, if_false]
  refine .ite Iff.rfl (.done (.fail _ _)) ?_
  rcases hkey with rfl | rfl | rfl | rfl | rfl
  · exact .done (.keyword hg _ _)
  · exact .done (.ite Iff.rfl (.fail _ _) (.number hg _ _ _))
  · exact .done (.queryOnly (.respond _))
  · exact .done (.boolean hg _)
  · exact .done (.ite Iff.rfl (.fail _ _) (.keyword hg _ _))

theorem handleVoltage_served (hkey : key ∈ Family.voltage.keys)
    (hg : Keeps (Family.voltage.addressed a) g) :
    (handleSense key a).Served (Family.voltage.addressed a) a g (handleSense key (a.update g)) := by
  have hvoltage := isVoltage_of_mem hkey
  simp only [Family.keys, List.mem_cons, List.not_mem_nil, or_false] at hkey
  simp only [handleSense, hvoltage, Bool.true_or, if_true, handleChannel]
  refine .ite Iff.rfl (.done (.fail _ _)) ?_
  rcases hkey with rfl | rfl | rfl | rfl
  · exact .done (.queryOnly (.respond _))
  · exact .done (.boolean hg _)
  · exact .done (.range hg _)
  · exact .done (.number hg _ _ _)

theorem handleCurrent_served (hkey : key ∈ Family.current.keys)
    (hg : Keeps (Family.current.addressed a) g) :
    (handleSense key a).Served (Family.current.addressed a) a g (handleSense key (a.update g)) := by
  have hcurrent := isCurrent_of_mem hkey
  simp only [Family.keys, List.mem_cons, List.not_mem_nil, or_false] at hkey
  simp only [handleSense, hcurrent, Bool.or_true, if_true, handleChannel, Bool.false_eq_true,
    if_false]
  refine .ite Iff.rfl (.done (.fail _ _)) ?_
  rcases hkey with rfl | rfl | rfl | rfl
  · exact .done (.queryOnly (.respond _))
  · exact .done (.boolean hg _)
  · exact .done (.range hg _)
  · exact .done (.number hg _ _ _)

theorem sweepPoints_kept (hg : Keeps (Family.sweep.addressed a) g)
    (m : Lens (SweepConfig Float) Float) :
    sweepPoints (a.update g).sim.state ((a.update g).read ((Family.sweep.addressed a).focus m)) =
      sweepPoints a.sim.state (a.read ((Family.sweep.addressed a).focus m)) := by
  have hget : (a.update g).read ((Family.sweep.addressed a).focus m) =
      a.read ((Family.sweep.addressed a).focus m) := congrArg m.get (hg.get a.sim.state)
  have haperture : (a.update g).sim.state.aperture = a.sim.state.aperture := hg.aperture _
  unfold sweepPoints
  rw [hget, haperture]

theorem handleSweep_served (hkey : key ∈ Family.sweep.keys)
    (hg : Keeps (Family.sweep.addressed a) g) :
    (handleSense key a).Served (Family.sweep.addressed a) a g (handleSense key (a.update g)) := by
  have hsweep := handleSense_sweep hkey
  simp only [Family.keys, List.mem_cons, List.not_mem_nil, or_false] at hkey
  simp only [hsweep, handleSweep]
  refine .ite Iff.rfl (.done (.fail _ _)) ?_
  rcases hkey with rfl | rfl | rfl | rfl | rfl | rfl | rfl | rfl
  · refine .done (.queryOnly ?_)
    have h := sweepPoints_kept hg SweepConfig.offsetTimeLens
    exact h ▸ .respond _
  · exact .done (.number hg _ _ _)
  · refine .done (.queryOnly ?_)
    have h := sweepPoints_kept hg SweepConfig.timeLens
    exact h ▸ .respond _
  · exact .done (.ite Iff.rfl (.assignFocus hg _ _) (.number hg _ _ _))
  · exact .done (.integer hg _ _ _)
  · exact .done (.integer hg _ _ _)
  · exact .done (.functionList hg _)
  · exact .done (.boolean hg _)

theorem startSequence_served (hg : Keeps (Family.sequence.addressed a) g) :
    (handleAcquisition .initSeq a).Served (Family.sequence.addressed a) a g
      (handleAcquisition .initSeq (a.update g)) :=
  .done (.commandOnly (.ite Iff.rfl (.fail _ _) (.assignFocus hg _ _)))

theorem Family.served (f : Family) (hkey : key ∈ f.keys) (hg : Keeps (f.addressed a) g) :
    (f.handler key a).Served (f.addressed a) a g (f.handler key (a.update g)) := by
  cases f with
  | input => exact handleInput_served hkey hg
  | voltage => exact handleVoltage_served hkey hg
  | current => exact handleCurrent_served hkey hg
  | sweep => exact handleSweep_served hkey hg
  | sequence =>
    obtain rfl := List.mem_singleton.mp hkey
    exact startSequence_served hg

theorem handleRoute_family {f : Family} (hkey : key ∈ f.keys) (a : Access) :
    handleRoute key a = .declined := by
  have hroute : key ≠ .routSyst := by
    cases f <;> revert key <;> decide
  exact if_neg hroute

theorem handleInput_family {f : Family} (hf : f ≠ .input) (hkey : key ∈ f.keys) (a : Access) :
    handleInput key a = .declined := by
  have hinput : key.isInput = false := by
    cases f with
    | input => exact absurd rfl hf
    | _ => revert key; decide
  simp only [handleInput, hinput, Bool.not_false, if_true]

theorem Family.execute_eq (f : Family) (hkey : key ∈ f.keys) {b : Access}
    (h : f.handler key a = .done b) : execute key a = some b := by
  have hroute := handleRoute_family hkey a
  have hdispatch : dispatch key a = .done b := by
    cases f with
    | input =>
      have hinput : handleInput key a = .done b := h
      rw [dispatch, hroute, hinput]
      rfl
    | sequence =>
      obtain rfl := List.mem_singleton.mp hkey
      have hacquisition : handleAcquisition .initSeq a = .done b := h
      have hsense : handleSense .initSeq a = .declined := rfl
      have hsync : handleSync .initSeq a = .declined := rfl
      rw [dispatch, hroute, handleInput_family (by decide) hkey, hsense, hsync, hacquisition]
      rfl
    | voltage | current | sweep =>
      have hsense : handleSense key a = .done b := h
      rw [dispatch, hroute, handleInput_family (by decide) hkey, hsense]
      rfl
  rw [execute, hdispatch]

end Handlers

section Suffix

variable {f : Family} {key : Key} {tokens : List Token} {suffixes : List Int} {token : Token}

theorem Reads.suffix_mem {pattern : List PatternNode} (h : Reads pattern tokens suffixes) :
    suffixes.length ≤ pattern.countP (·.suffixed) ∧
      ∀ token ∈ tokens, token.hasSuffix = true → token.suffix ∈ suffixes := by
  induction h with
  | done => exact ⟨Nat.le_refl _, nofun⟩
  | @present node token pattern tokens out haccepts hrest ih =>
    have hcollected : node.collected token = if node.suffixed then [token.suffix] else [] := rfl
    rw [List.countP_cons, hcollected]
    constructor
    · split <;> simp [*]
    · intro other hother hsuffix
      rcases List.mem_cons.mp hother with rfl | hmem
      · have hnode : node.suffixed = true := by
          by_contra hplain
          simp [nodeAccepts, hsuffix, hplain] at haccepts
        simp [hnode]
      · exact List.mem_append_right _ (ih.2 other hmem hsuffix)
  | @absent node pattern tokens out homissible hrest ih =>
    rw [List.countP_cons]
    exact ⟨by omega, ih.2⟩

theorem family_rows : ∀ row ∈ compiledSpecs,
    ∀ f ∈ [Family.input, .voltage, .current, .sweep, .sequence], row.1 ∈ f.keys →
      row.2.countP (·.suffixed) = 1 := by
  decide +kernel

theorem Family.suffixes_eq (hfind : findCommand tokens = some (key, suffixes)) (hkey : key ∈ f.keys)
    (htoken : token ∈ tokens) (hsuffix : token.hasSuffix = true) : suffixes = [token.suffix] := by
  obtain ⟨row, hrow, rfl, hreads⟩ := findCommand_iff.mp hfind
  obtain ⟨hlength, hmem⟩ := hreads.suffix_mem
  rw [family_rows row hrow f (by cases f <;> decide) hkey] at hlength
  have hin := hmem token htoken hsuffix
  match suffixes with
  | [suffix] => rw [List.mem_singleton.mp hin]

end Suffix

section Numerals

variable {digits : Text}

def Numbered (digits node : Text) : Prop :=
  ∃ spelling, trim node = spelling ++ digits ∧ spelling ≠ [] ∧
    spelling.rdropWhile Char.isDigit = spelling

def suffixIndex (digits : Text) : Int :=
  if CNumber.atoi digits = 0 then 1 else CNumber.atoi digits

theorem makeToken_numbered {node : Text} (hne : digits ≠ [])
    (hdigits : ∀ c ∈ digits, c.isDigit = true) (h : Numbered digits node) :
    (makeToken node).hasSuffix = true ∧ (makeToken node).suffix = CNumber.atoi digits := by
  obtain ⟨spelling, htrim, hspelling, hlast⟩ := h
  have hdigit : Char.isDigit ∘ Char.toUpper = Char.isDigit := funext isDigit_toUpper
  have hupper : upper (trim node) = upper spelling ++ digits := by
    rw [htrim, upper, List.map_append, ← upper, ← upper, upper_digits hdigits]
  have hdrop : (upper spelling ++ digits).rdropWhile Char.isDigit = upper spelling := by
    rw [rdropWhile_append_blank hdigits, upper, List.rdropWhile, ← List.map_reverse,
      List.dropWhile_map, hdigit, ← List.map_reverse, ← List.rdropWhile, hlast]
  have hupperne : upper spelling ≠ [] := by simpa [upper] using hspelling
  unfold makeToken
  simp [hupper, hdrop, hne, hupperne]

theorem atoi_digits (hne : digits ≠ []) (hdigits : ∀ c ∈ digits, c.isDigit = true)
    (hsmall : Nat.ofDigitChars 10 digits 0 < 2 ^ 31) :
    CNumber.atoi digits = Nat.ofDigitChars 10 digits 0 := by
  have hmin : min CNumber.longMax (Nat.ofDigitChars 10 digits 0 : Int) =
      Nat.ofDigitChars 10 digits 0 := by
    have hmax : CNumber.longMax = 9223372036854775807 := rfl
    omega
  rw [CNumber.atoi, CNumber.strtol_digits hne hdigits, Option.getD_some, hmin, CNumber.toInt32]
  exact Int.bmod_eq_of_le (by omega) (by omega)

end Numerals

def NormaSimulator.put {A : Type} (sim : NormaSimulator) (E : Setting A) (v : A) :
    NormaSimulator :=
  { sim with state := E.set sim.state v }

-- No entry but the given one is read or written.
def Confined (f : Family) (i : Fin (f.last + 1)) (run : NormaSimulator → Option Outcome)
    (sim : NormaSimulator) : Prop :=
  ∃ out v, run sim = some out ∧ out.sim = sim.put (f.entry i) v ∧
    ∀ j, j ≠ i → ∀ w,
      run (sim.put (f.entry j) w) = some { out with sim := out.sim.put (f.entry j) w }

def Refused (run : NormaSimulator → Option Outcome) (sim : NormaSimulator) : Prop :=
  ∃ out code message, run sim = some out ∧ out.stop = true ∧ out.response = none ∧
    out.sim = sim.pushError code message

namespace Family

variable (f : Family)

def Addressed (digits : Text) (previous : List Text) (text : Text) : Prop :=
  ∃ nodes key, TreeCommand previous text nodes ∧ dispatchedTo nodes = some key ∧ key ∈ f.keys ∧
    ∃ node ∈ nodes, Numbered digits node

def OwnIndex (n : Nat) (run : NormaSimulator → Option Outcome) (sim : NormaSimulator) : Prop :=
  (∃ i : Fin (f.last + 1), i.val = n ∧ i ≠ 0 ∧ Confined f i run sim) ∨ Refused run sim

-- The numeral is taken for the number it is, or for one that is out of range.
def Unaliased (options : SimulatorOptions) (digits : Text) : Prop :=
  suffixIndex digits = Nat.ofDigitChars 10 digits 0 ∨
    suffixIndex digits < 1 ∨ f.available options < suffixIndex digits

variable {f} {key : Key} {a : Access} {g : State → State}

theorem out_of_range (hkey : key ∈ f.keys)
    (hout : a.command.suffix < 1 ∨ f.available a.sim.options < a.command.suffix) :
    ∃ code message, f.handler key a = .done (a.fail code message) := by
  cases f with
  | input =>
    have hrejected : handleInput key a =
        .done (a.outOfRange ("input channel " ++ toText a.command.suffix)) := by
      simp only [handleInput, isInput_of_mem hkey, Bool.not_true, Bool.false_eq_true, if_false]
      exact if_pos hout
    exact ⟨_, _, hrejected⟩
  | voltage =>
    have hrejected : handleSense key a =
        .done (a.outOfRange ("phase " ++ toText a.command.suffix)) := by
      simp only [handleSense, isVoltage_of_mem hkey, Bool.true_or, if_true, handleChannel]
      exact if_pos hout
    exact ⟨_, _, hrejected⟩
  | current =>
    have hrejected : handleSense key a =
        .done (a.outOfRange ("phase " ++ toText a.command.suffix)) := by
      simp only [handleSense, isCurrent_of_mem hkey, Bool.or_true, if_true, handleChannel]
      exact if_pos hout
    exact ⟨_, _, hrejected⟩
  | sweep =>
    have hrejected : handleSense key a =
        .done (a.outOfRange ("sweep block " ++ toText a.command.suffix)) := by
      rw [handleSense_sweep hkey, handleSweep]
      exact if_pos hout
    exact ⟨_, _, hrejected⟩
  | sequence =>
    obtain rfl := List.mem_singleton.mp hkey
    have hstart : handleAcquisition .initSeq a = .done (a.startSequence a.command.suffix) := rfl
    change ∃ code message, handleAcquisition .initSeq a = .done (a.fail code message)
    have hrange : a.command.suffix < 1 ∨ 2 < a.command.suffix := hout
    rw [hstart, Access.startSequence, Access.commandOnly, if_pos hrange]
    split
    · exact ⟨_, _, rfl⟩
    · exact ⟨_, _, rfl⟩

theorem keeps (i : Fin (f.last + 1)) {j : Fin (f.last + 1)} (h : j ≠ i) (w : f.Entry) :
    Keeps (f.entry i) fun s => (f.entry j).set s w := by
  refine ⟨fun s => f.entry_get h.symm s w, ?_, ?_⟩
  · cases f <;> exact fun _ => rfl
  · cases f <;> exact fun _ => rfl

end Family

section Commands

variable {f : Family} {digits text : Text} {previous : List Text} {sim : NormaSimulator}

theorem Family.Addressed.runs (h : f.Addressed digits previous text) (hne : digits ≠ [])
    (hdigits : ∀ c ∈ digits, c.isDigit = true) :
    ∃ key ∈ f.keys, ∃ command : Command, command.suffix = suffixIndex digits ∧
      command.failed = false ∧ command.response = none ∧ ∃ rest, ∀ sim b,
        f.handler key ⟨sim, command⟩ = .done b →
          handleCommand sim (previous.dropLast.map makeToken) text = some (b.outcome rest) := by
  obtain ⟨nodes, key, htree, hdispatched, hkey, node, hnode, hnumbered⟩ := h
  obtain ⟨⟨found, suffixes⟩, hfind, rfl⟩ := Option.map_eq_some_iff.mp hdispatched
  obtain ⟨hsuffixed, hsuffix⟩ := makeToken_numbered hne hdigits hnumbered
  have hsuffixes := f.suffixes_eq hfind hkey (List.mem_map_of_mem hnode) hsuffixed
  refine ⟨found, hkey, (parseCommand text).command (nodes.map makeToken) found.text suffixes, ?_,
    rfl, rfl, (nodes.map makeToken).dropLast, fun sim b hb => ?_⟩
  · rw [Command.suffix, Parsed.command, hsuffixes, hsuffix]
    rfl
  · rw [htree.handleCommand, hfind]
    simp only [f.execute_eq hkey hb, Option.map_some]

theorem Served.commutes {A : Type} {E : Setting A} {a b b' : Access} {g : State → State}
    (h : Served E a g b b') (hset : ∀ s v, E.set (g s) v = g (E.set s v))
    (hpassed : b.command.failed = false) : b' = b.update g := by
  obtain ⟨action, rfl, rfl⟩ := h
  cases action with
  | fail code message => cases hpassed
  | respond text => rfl
  | store value => simp only [EntryAction.apply, Access.assign, Access.update, hset]

theorem Served.confined {A : Type} {E : Setting A} {a b b' : Access} {g : State → State}
    (h : Served E a g b b') :
    (∃ code message, b = a.fail code message) ∨
      b.command.failed = a.command.failed ∧ ∃ v, b.sim = a.sim.put E v := by
  obtain ⟨action, rfl, -⟩ := h
  cases action with
  | fail code message => exact .inl ⟨code, message, rfl⟩
  | respond text =>
    refine .inr ⟨rfl, E.get a.sim.state, ?_⟩
    simp only [NormaSimulator.put, Lens.set_get]
    rfl
  | store value => exact .inr ⟨rfl, value, rfl⟩

theorem Family.ownIndex_of_unaliased (hne : digits ≠ [])
    (hdigits : ∀ c ∈ digits, c.isDigit = true) (hunaliased : f.Unaliased sim.options digits)
    (haddressed : f.Addressed digits previous text) :
    f.OwnIndex (Nat.ofDigitChars 10 digits 0)
      (handleCommand · (previous.dropLast.map makeToken) text) sim := by
  obtain ⟨key, hkey, command, hsuffix, hfailed, hresponse, rest, hrun⟩ :=
    haddressed.runs hne hdigits
  let a : Access := ⟨sim, command⟩
  have hrejected {b : Access} (hb : f.handler key a = .done b)
      (hfail : ∃ code message, b = a.fail code message) :
      Refused (handleCommand · (previous.dropLast.map makeToken) text) sim := by
    obtain ⟨code, message, rfl⟩ := hfail
    exact ⟨_, code, message, hrun sim _ hb, rfl, hresponse, rfl⟩
  by_cases hout : a.command.suffix < 1 ∨ f.available a.sim.options < a.command.suffix
  · obtain ⟨code, message, hb⟩ := f.out_of_range hkey hout
    exact .inr (hrejected hb ⟨code, message, rfl⟩)
  · have hnumber : command.suffix = Nat.ofDigitChars 10 digits 0 :=
      hsuffix.trans (hunaliased.resolve_right (hsuffix ▸ hout))
    let i : Fin (f.last + 1) := Fin.ofNat _ command.suffix.toNat
    have hlast := f.available_le sim.options
    have hrange : 1 ≤ command.suffix ∧ command.suffix ≤ f.available sim.options := by
      rw [not_or, Int.not_lt, Int.not_lt] at hout
      exact hout
    have hi : i.val = Nat.ofDigitChars 10 digits 0 := by
      have hmod : command.suffix.toNat % (f.last + 1) = command.suffix.toNat :=
        Nat.mod_eq_of_lt (by omega)
      change command.suffix.toNat % (f.last + 1) = _
      omega
    have hserved (j : Fin (f.last + 1)) (hj : j ≠ i) (w : f.Entry) :=
      f.served hkey (a := a) (Family.keeps i hj w)
    have hzero : i ≠ 0 := fun h => by
      have hval : i.val = 0 := congrArg Fin.val h
      omega
    obtain ⟨b, b', hb, -, hown⟩ := hserved 0 hzero.symm ((f.entry 0).get sim.state)
    rcases hown.confined with hfail | ⟨hpassed, v, hv⟩
    · exact .inr (hrejected hb hfail)
    · refine .inl ⟨i, hi, hzero, b.outcome rest, v, hrun sim b hb, hv, fun j hj w => ?_⟩
      obtain ⟨c, c', hc, hc', hother⟩ := hserved j hj w
      obtain rfl := Handled.done.inj (hb.symm.trans hc)
      have hcommute := hother.commutes (fun s u => f.entry_comm hj.symm s u w)
        (hpassed.trans hfailed)
      exact (hrun (sim.put (f.entry j) w) c' hc').trans
        (congrArg (fun b : Access => some (b.outcome rest)) hcommute)

end Commands

namespace Family

-- A command of each family that is not rejected where the entry exists.
def probeKey : Family → Key
  | input => .inpFiltStat
  | voltage => .voltRangAuto
  | current => .currRangAuto
  | sweep => .sweStat
  | sequence => .initSeq

def probeNodes (digits : Text) : Family → List Text
  | input => ["INP" ++ digits, "FILT", "STAT"]
  | voltage => ["VOLT" ++ digits, "RANG", "AUTO"]
  | current => ["CURR" ++ digits, "RANG", "AUTO"]
  | sweep => ["SWE" ++ digits, "STAT"]
  | sequence => ["INIT", "SEQ" ++ digits]

def asks : Family → Bool
  | sequence => false
  | _ => true

def probe (f : Family) (digits : Text) : Text :=
  join ':' (f.probeNodes digits) ++ if f.asks then ['?'] else []

variable (f : Family) {digits : Text}

theorem probe_handled {a : Access} (hquery : a.command.query = f.asks)
    (hrange : ¬(a.command.suffix < 1 ∨ f.available a.sim.options < a.command.suffix)) :
    ∃ b, f.handler f.probeKey a = .done b ∧ b.command.failed = a.command.failed := by
  cases f with
  | input =>
    have hq : a.command.query = true := hquery
    have h : handleInput .inpFiltStat a = .done (a.boolean (Setting.filter.entry _)) :=
      if_neg hrange
    exact ⟨_, h, by rw [Access.boolean, if_pos hq]; rfl⟩
  | voltage =>
    have hq : a.command.query = true := hquery
    have h : handleSense .voltRangAuto a = .done (a.boolean _) := if_neg hrange
    exact ⟨_, h, by rw [Access.boolean, if_pos hq]; rfl⟩
  | current =>
    have hq : a.command.query = true := hquery
    have h : handleSense .currRangAuto a = .done (a.boolean _) := if_neg hrange
    exact ⟨_, h, by rw [Access.boolean, if_pos hq]; rfl⟩
  | sweep =>
    have hq : a.command.query = true := hquery
    have h : handleSense .sweStat a = .done (a.boolean _) := if_neg hrange
    exact ⟨_, h, by rw [Access.boolean, if_pos hq]; rfl⟩
  | sequence =>
    have hq : a.command.query = false := hquery
    have h : handleAcquisition .initSeq a = .done (a.startSequence a.command.suffix) := rfl
    have hstart : a.startSequence a.command.suffix =
        a.assign (enableSweep (Fin.ofNat _ a.command.suffix.toNat)) true := by
      rw [Access.startSequence, Access.commandOnly, if_neg (by simp [hq])]
      exact if_neg hrange
    exact ⟨_, h, by rw [hstart]; rfl⟩

section Probe

theorem plain_letters {name : Text} (hname : name.all isLetter = true) :
    ∀ c ∈ name, isQuote c = false ∧ isSpace c = false ∧ c ≠ ':' ∧ c ≠ '?' := by
  intro c hmem
  have hc := List.all_eq_true.mp hname c hmem
  refine ⟨isLetter_isQuote hc, isLetter_space hc, ?_, ?_⟩ <;> rintro rfl <;> cases hc

variable (hdigits : ∀ c ∈ digits, c.isDigit = true)
include hdigits

theorem probeNodes_plain : ∀ node ∈ f.probeNodes digits,
    ∀ c ∈ node, isQuote c = false ∧ isSpace c = false ∧ c ≠ ':' ∧ c ≠ '?' := by
  have hplain {name : Text} (hname : name.all isLetter = true) : ∀ c ∈ name ++ digits,
      isQuote c = false ∧ isSpace c = false ∧ c ≠ ':' ∧ c ≠ '?' := by
    intro c hc
    rcases List.mem_append.mp hc with hletter | hdigit
    · exact plain_letters hname c hletter
    · have hc := hdigits c hdigit
      refine ⟨(isDigit_plain hc).2, (isDigit_plain hc).1, ?_, ?_⟩ <;> rintro rfl <;> cases hc
  cases f <;>
    simp only [probeNodes, List.forall_mem_cons, List.not_mem_nil, false_imp_iff, implies_true,
      and_true]
  · exact ⟨hplain rfl, plain_letters rfl, plain_letters rfl⟩
  · exact ⟨hplain rfl, plain_letters rfl, plain_letters rfl⟩
  · exact ⟨hplain rfl, plain_letters rfl, plain_letters rfl⟩
  · exact ⟨hplain rfl, plain_letters rfl⟩
  · exact ⟨plain_letters rfl, hplain rfl⟩

theorem parse_probe :
    parseCommand (f.probe digits) = ⟨join ':' (f.probeNodes digits), f.asks, []⟩ := by
  have hplain : ∀ c ∈ join ':' (f.probeNodes digits),
      isQuote c = false ∧ isSpace c = false ∧ c ≠ '?' :=
    forall_mem_join (by decide) fun node hnode c hc => by
      obtain ⟨hquote, hspace, -, hmark⟩ := f.probeNodes_plain hdigits node hnode c hc
      exact ⟨hquote, hspace, hmark⟩
  have hprobe : ∀ c ∈ f.probe digits, isQuote c = false ∧ isSpace c = false := by
    intro c hc
    rcases List.mem_append.mp hc with hheader | hmark
    · exact ⟨(hplain c hheader).1, (hplain c hheader).2.1⟩
    · have hquestion : c = '?' := by
        split at hmark
        · exact List.mem_singleton.mp hmark
        · cases hmark
      rw [hquestion]
      decide
  have hlast : (join ':' (f.probeNodes digits)).getLast? ≠ some '?' := fun h =>
    (hplain _ (List.mem_of_getLast? h)).2.2 rfl
  rw [parseCommand, splitHeader_alone (fun c hc => (hprobe c hc).1) fun c hc => (hprobe c hc).2]
  unfold probe
  cases hasks : f.asks with
  | true => simp [trim]
  | false => simp [trim, hlast]

theorem nodesOf_probe : nodesOf [] (join ':' (f.probeNodes digits)) = f.probeNodes digits := by
  have hsplit : splitUnquoted (join ':' (f.probeNodes digits)) ':' = f.probeNodes digits := by
    refine splitUnquoted_join (by decide) (by cases f <;> simp [probeNodes]) ?_ ?_
    · intro node hnode
      have h := f.probeNodes_plain hdigits node hnode
      have hunquoted : Unquoted node := fun c hc => (h c hc).1
      exact hunquoted.whole_iff.mpr fun hc => (h ':' hc).2.2.1 rfl
    · intro node hnode
      have h := f.probeNodes_plain hdigits node (List.dropLast_subset _ hnode)
      exact Unquoted.quoteAfter fun c hc => (h c hc).1
  have hhead : ∀ rest, join ':' (f.probeNodes digits) ≠ ':' :: rest := by
    intro rest h
    cases f <;> cases h
  unfold nodesOf
  split
  · next heq => exact absurd heq (hhead _)
  · rw [hsplit]
    rfl

theorem probe_tree : TreeCommand [] (f.probe digits) (f.probeNodes digits) := by
  refine ⟨?_, ?_⟩
  · rw [f.parse_probe hdigits]
    cases f <;> exact fun h => by cases h
  · rw [f.parse_probe hdigits]
    exact f.nodesOf_probe hdigits

theorem probeNodes_numbered : ∃ node ∈ f.probeNodes digits, Numbered digits node := by
  have hnumbered {name : Text} (hmem : name ++ digits ∈ f.probeNodes digits) (hname : name ≠ [])
      (hlast : name.rdropWhile Char.isDigit = name) :
      ∃ node ∈ f.probeNodes digits, Numbered digits node :=
    ⟨_, hmem, name, trim_of_spaceless fun c hc => (f.probeNodes_plain hdigits _ hmem c hc).2.1,
      hname, hlast⟩
  cases f with
  | input => exact @hnumbered "INP" (by simp [probeNodes]) (by decide) (by decide)
  | voltage => exact @hnumbered "VOLT" (by simp [probeNodes]) (by decide) (by decide)
  | current => exact @hnumbered "CURR" (by simp [probeNodes]) (by decide) (by decide)
  | sweep => exact @hnumbered "SWE" (by simp [probeNodes]) (by decide) (by decide)
  | sequence => exact @hnumbered "SEQ" (by simp [probeNodes]) (by decide) (by decide)

variable (hne : digits ≠ [])
include hne

theorem findCommand_probe : findCommand ((f.probeNodes digits).map makeToken) =
    some (f.probeKey, [CNumber.atoi digits]) := by
  have hnode {name : Text} (hmem : name ++ digits ∈ f.probeNodes digits) (hname : name ≠ [])
      (hupper : upper name = name) (hlast : name.rdropWhile Char.isDigit = name) :
      makeToken (name ++ digits) = ⟨name, CNumber.atoi digits, true⟩ := by
    have htrim : trim (name ++ digits) = name ++ digits :=
      trim_of_spaceless fun c hc => (f.probeNodes_plain hdigits _ hmem c hc).2.1
    obtain ⟨htext, -⟩ := makeToken_of_split htrim hname hlast hdigits
    obtain ⟨hsuffixed, hsuffix⟩ := makeToken_numbered hne hdigits ⟨name, htrim, hname, hlast⟩
    rw [hupper] at htext
    generalize makeToken (name ++ digits) = token at htext hsuffixed hsuffix
    cases token
    cases htext
    cases hsuffixed
    cases hsuffix
    rfl
  cases f with
  | input =>
    have h := @hnode "INP" (by simp [probeNodes]) (by decide) (by decide) (by decide)
    rw [probeNodes, List.map_cons, h]
    rfl
  | voltage =>
    have h := @hnode "VOLT" (by simp [probeNodes]) (by decide) (by decide) (by decide)
    rw [probeNodes, List.map_cons, h]
    rfl
  | current =>
    have h := @hnode "CURR" (by simp [probeNodes]) (by decide) (by decide) (by decide)
    rw [probeNodes, List.map_cons, h]
    rfl
  | sweep =>
    have h := @hnode "SWE" (by simp [probeNodes]) (by decide) (by decide) (by decide)
    rw [probeNodes, List.map_cons, h]
    rfl
  | sequence =>
    have h := @hnode "SEQ" (by simp [probeNodes]) (by decide) (by decide) (by decide)
    rw [probeNodes, List.map_cons, List.map_cons, h]
    rfl

theorem probe_addressed : f.Addressed digits [] (f.probe digits) := by
  refine ⟨f.probeNodes digits, f.probeKey, f.probe_tree hdigits, ?_, by cases f <;> decide,
    f.probeNodes_numbered hdigits⟩
  rw [dispatchedTo, f.findCommand_probe hdigits hne]
  rfl

theorem probe_passes {sim : NormaSimulator}
    (hrange : ¬(suffixIndex digits < 1 ∨ f.available sim.options < suffixIndex digits)) :
    ∃ out, handleCommand sim [] (f.probe digits) = some out ∧ out.stop = false := by
  let a : Access := ⟨sim, (parseCommand (f.probe digits)).command
    ((f.probeNodes digits).map makeToken) f.probeKey.text [CNumber.atoi digits]⟩
  have hquery : a.command.query = f.asks := congrArg Parsed.query (f.parse_probe hdigits)
  obtain ⟨b, hb, hfailed⟩ := f.probe_handled (a := a) hquery hrange
  have hkey : f.probeKey ∈ f.keys := by cases f <;> decide
  have hrun := (f.probe_tree hdigits).handleCommand sim
  rw [f.findCommand_probe hdigits hne] at hrun
  refine ⟨b.outcome ((f.probeNodes digits).map makeToken).dropLast, hrun.trans ?_, hfailed⟩
  exact congrArg (Option.map _) (f.execute_eq hkey hb)

end Probe

end Family

section Addresses

variable {f : Family} {digits : Text} {sim : NormaSimulator}

theorem suffixIndex_small (hne : digits ≠ []) (hdigits : ∀ c ∈ digits, c.isDigit = true)
    (hpos : 0 < Nat.ofDigitChars 10 digits 0) (hsmall : Nat.ofDigitChars 10 digits 0 < 2 ^ 31) :
    suffixIndex digits = Nat.ofDigitChars 10 digits 0 := by
  rw [suffixIndex, atoi_digits hne hdigits hsmall, if_neg (by omega)]

theorem suffix_own_index_iff (hne : digits ≠ []) (hdigits : ∀ c ∈ digits, c.isDigit = true) :
    (∀ previous text, f.Addressed digits previous text →
      f.OwnIndex (Nat.ofDigitChars 10 digits 0)
        (handleCommand · (previous.dropLast.map makeToken) text) sim) ↔
      f.Unaliased sim.options digits := by
  constructor
  · intro hown
    rcases hown [] _ (f.probe_addressed hdigits hne) with ⟨i, hi, hzero, -⟩ | hrefused
    · have hlast : f.last < 2 ^ 31 := by cases f <;> decide
      have hpos : i.val ≠ 0 := fun h => hzero (Fin.ext h)
      exact .inl (suffixIndex_small hne hdigits (by omega) (by omega))
    · obtain ⟨out, code, message, hout, hstop, -⟩ := hrefused
      by_contra hunaliased
      have hprobe : ∃ out, handleCommand sim [] (f.probe digits) = some out ∧ out.stop = false :=
        f.probe_passes hdigits hne fun h => hunaliased (.inr h)
      obtain ⟨out', hout', hpassed⟩ := hprobe
      obtain rfl := Option.some.inj (hout.symm.trans hout')
      exact Bool.false_ne_true (hpassed.symm.trans hstop)
  · intro hunaliased previous text haddressed
    exact Family.ownIndex_of_unaliased hne hdigits hunaliased haddressed

theorem second_phase : Family.voltage.OwnIndex 2 (handleCommand · [] "VOLT2:RANG:AUTO?")
    (.new {}) := by
  have hdigits : ∀ c ∈ ("2" : Text), c.isDigit = true := List.all_eq_true.mp rfl
  have hunaliased : Family.voltage.Unaliased (NormaSimulator.new {}).options "2" :=
    .inl (by decide +kernel)
  exact (suffix_own_index_iff (by decide) hdigits).mpr hunaliased []
    (Family.voltage.probe "2") (Family.voltage.probe_addressed hdigits (by decide))

-- The recording that starts is the first one.
theorem sequence_zero_starts : ¬∀ sim, Reachable sim → ∀ (f : Family) (digits : Text),
    digits ≠ [] → (∀ c ∈ digits, c.isDigit = true) → ∀ previous text,
      f.Addressed digits previous text → f.OwnIndex (Nat.ofDigitChars 10 digits 0)
        (handleCommand · (previous.dropLast.map makeToken) text) sim := by
  intro hall
  have hdigits : ∀ c ∈ ("0" : Text), c.isDigit = true := List.all_eq_true.mp rfl
  have hown := hall _ (.new {}) .sequence "0" (by decide) hdigits [] _
    (Family.sequence.probe_addressed hdigits (by decide))
  rcases hown with ⟨i, hi, hzero, -⟩ | hrefused
  · exact hzero (Fin.ext hi)
  · obtain ⟨out, code, message, hout, hstop, -⟩ := hrefused
    have hrange : ¬(suffixIndex "0" < 1 ∨
        Family.sequence.available (NormaSimulator.new {}).options < suffixIndex "0") := by
      decide +kernel
    obtain ⟨out', hout', hpassed⟩ :=
      Family.sequence.probe_passes hdigits (by decide) hrange
    obtain rfl := Option.some.inj (hout.symm.trans hout')
    exact Bool.false_ne_true (hpassed.symm.trans hstop)

end Addresses

end Norma
