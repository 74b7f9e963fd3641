import Norma.Limits
import Norma.StateChange

namespace Norma

-- The lengths of the manual, by format, for values and for status information.
def DataLength : DataFormat → Int → Prop
  | .ascii, length => 0 ≤ length ∧ length ≤ 8
  | .integer, length => length = 16
  | .real, length => length = 32 ∨ length = 64

def StatusLength : DataFormat → Int → Prop
  | .ascii, _ => True
  | .integer, length => length = 8 ∨ length = 16 ∨ length = 32
  | .real, _ => False

instance : (format : DataFormat) → (length : Int) → Decidable (DataLength format length)
  | .ascii, length => inferInstanceAs (Decidable (0 ≤ length ∧ length ≤ 8))
  | .integer, length => inferInstanceAs (Decidable (length = 16))
  | .real, length => inferInstanceAs (Decidable (length = 32 ∨ length = 64))

instance : (format : DataFormat) → (length : Int) → Decidable (StatusLength format length)
  | .ascii, _ => inferInstanceAs (Decidable True)
  | .integer, length => inferInstanceAs (Decidable (length = 8 ∨ length = 16 ∨ length = 32))
  | .real, _ => inferInstanceAs (Decidable False)

structure SimulatorState.FormatsLegal (s : State) : Prop where
  coupled : s.dataFormat.format = .ascii ↔ s.statusFormat.format = .ascii
  data : DataLength s.dataFormat.format s.dataFormat.length
  status : StatusLength s.statusFormat.format s.statusFormat.length

structure Lengths where
  data : DataFormat → Option Int
  status : Option Int

namespace Lengths

def none : Lengths := ⟨fun _ => .none, .none⟩

def seen (m : Lengths) (s : State) : Lengths where
  data format :=
    if format = s.dataFormat.format ∧ DataLength format s.dataFormat.length then
      some s.dataFormat.length
    else m.data format
  status :=
    if s.statusFormat.format = .integer ∧ StatusLength .integer s.statusFormat.length then
      some s.statusFormat.length
    else m.status

def after (m : Lengths) : Move → Lengths
  | .signal _ _ => m
  | .command step =>
      if step.resets then none.seen step.after.sim.state else m.seen step.after.sim.state

structure Current (m : Lengths) (s : State) : Prop where
  data : m.data s.dataFormat.format = some s.dataFormat.length
  status : s.statusFormat.format = .integer → m.status = some s.statusFormat.length

theorem seen_current (m : Lengths) {s : State} (h : s.FormatsLegal) : (m.seen s).Current s where
  data := if_pos ⟨rfl, h.data⟩
  status hbinary := if_pos ⟨hbinary, hbinary ▸ h.status⟩

end Lengths

namespace Step

def SetsFormat (step : Step) (key : Key) (current : Int) (format : DataFormat) (length : Int) :
    Prop :=
  step.isQuery = false ∧ step.key = key.text ∧ step.received.GivenFormat current format length

def GivesLength (step : Step) (key : Key) : Prop :=
  step.key = key.text ∧ (parseCommand step.text).args[1]? ≠ none

-- What the manual says of a command; a format that is given no length takes its last one.
structure FormatsDocumented (m : Lengths) (step : Step) : Prop where
  legal : step.after.sim.state.FormatsLegal
  rejected : step.after.stop = true →
    step.after.sim.state.dataFormat = step.before.state.dataFormat ∧
      step.after.sim.state.statusFormat = step.before.state.statusFormat
  data : step.resets = false → ¬step.GivesLength .form → ∀ length,
    m.data step.after.sim.state.dataFormat.format = some length →
      step.after.sim.state.dataFormat.length = length
  status : step.resets = false → ¬step.GivesLength .formStat →
    step.after.sim.state.statusFormat.format = .integer → ∀ length, m.status = some length →
      step.after.sim.state.statusFormat.length = length

structure KeepsFormats (m : Lengths) (step : Step) : Prop where
  -- A length that is given has to be legal; without one the type has to stay.
  data : ∀ format length,
    step.SetsFormat .form step.before.state.dataFormat.length format length →
      (step.GivesLength .form → DataLength format length) ∧
      (¬step.GivesLength .form → format = step.before.state.dataFormat.format)
  -- The status format that becomes binary has kept a legal length, the last one.
  indirect : ∀ format length,
    step.SetsFormat .form step.before.state.dataFormat.length format length →
      format ≠ .ascii → step.before.state.statusFormat.format = .ascii →
        StatusLength .integer step.before.state.statusFormat.length ∧
          ∀ last, m.status = some last → step.before.state.statusFormat.length = last
  -- The data format would keep a length of the other kind.
  status : ∀ format length,
    step.SetsFormat .formStat step.before.state.statusFormat.length format length →
      StatusLength format length ∧
        (format = .ascii ↔ step.before.state.dataFormat.format = .ascii)

end Step

def Documented (m : Lengths) : List Move → Prop
  | [] => True
  | .signal sim given :: moves => Documented (m.after (.signal sim given)) moves
  | .command step :: moves => step.FormatsDocumented m ∧ Documented (m.after (.command step)) moves

def FormatsKept (m : Lengths) : List Move → Prop
  | [] => True
  | .signal sim given :: moves => FormatsKept (m.after (.signal sim given)) moves
  | .command step :: moves => step.KeepsFormats m ∧ FormatsKept (m.after (.command step)) moves

section Formats

variable {a b : Access} {step : Step} {key : Key} {f g : Setting DataFormatSetting}
  {fallback format : DataFormat} {length : Int} {m : Lengths}

theorem DataLength.unique {format' : DataFormat} (h : DataLength format length)
    (h' : DataLength format' length) : format = format' := by
  cases format <;> cases format' <;> simp only [DataLength] at h h' <;> first | rfl | omega

theorem Step.Receives.givenFormat (h : step.Receives a) {current : Int} :
    a.GivenFormat current format length ↔ step.received.GivenFormat current format length := by
  rw [Access.GivenFormat, Command.argument, h.args]
  rfl

theorem format_given (hset : a.command.query = false)
    (hgiven : a.GivenFormat (f.get a.sim.state).length format length) :
    a.format f g fallback = (a.assign f ⟨format, length⟩).assign g
      (coupled (format ≠ .ascii) fallback ((a.assign f ⟨format, length⟩).read g)) := by
  obtain ⟨⟨text, hargument, hformat⟩, hlength⟩ := hgiven
  unfold Access.format Access.parameter
  dsimp only
  rw [if_neg (by simp [hset]), hargument]
  dsimp only
  rw [hformat]
  dsimp only
  cases harg : a.command.args[1]? with
  | none =>
    rw [harg] at hlength
    rw [hlength]
    rfl
  | some arg =>
    rw [harg] at hlength
    obtain ⟨number, hnumber, rfl⟩ := hlength
    dsimp only
    rw [hnumber]
    rfl

theorem formatKey_of_text : ∀ key ∈ [Key.form, .formStat], ∀ spec ∈ commandSpecs,
    spec.key.text = key.text → spec.key = key := by
  decide +kernel

theorem FormatPair.execute (hpair : FormatPair key f g fallback) (a : Access) :
    execute key a = some (a.format f g fallback) := by
  cases hpair <;> rfl

theorem FormatPair.of_text (hpair : FormatPair key f g fallback) : ∀ spec ∈ commandSpecs,
    spec.key.text = key.text → spec.key = key := by
  cases hpair <;> exact formatKey_of_text _ (by simp)

theorem Step.SetsFormat.state (h : step.SetsFormat key (f.get step.before.state).length format length)
    (hpair : FormatPair key f g fallback) (hvalid : step.Valid) :
    step.after.sim.state = g.set (f.set step.before.state ⟨format, length⟩)
      (coupled (format ≠ .ascii) fallback (g.get (f.set step.before.state ⟨format, length⟩))) := by
  obtain ⟨hset, hkey, hgiven⟩ := h
  obtain ⟨a, b, rest, ha, hexecute, hafter⟩ := hvalid.executed hpair.of_text hkey
  rw [← ha.sim, ← ha.givenFormat] at hgiven
  rw [hpair.execute, format_given (ha.query.trans hset) hgiven] at hexecute
  obtain rfl := Option.some.inj hexecute
  rw [hafter, ← ha.sim]
  rfl

structure SameFormats (s t : State) : Prop where
  data : t.dataFormat = s.dataFormat
  status : t.statusFormat = s.statusFormat

theorem SameFormats.of_modes {s t : State} (h : t.modes = s.modes) : SameFormats s t := by
  simp only [SimulatorState.modes, Prod.mk.injEq] at h
  obtain ⟨-, -, hdata, hstatus, -⟩ := h
  exact ⟨hdata, hstatus⟩

theorem Step.Valid.formats (h : step.Valid) :
    (∃ format length, step.SetsFormat .form step.before.state.dataFormat.length format length) ∨
    (∃ format length,
      step.SetsFormat .formStat step.before.state.statusFormat.length format length) ∨
    (step.resets = true ∧ step.after.sim.state = step.before.reset.state) ∨
    SameFormats step.before.state step.after.sim.state := by
  rcases h.switched with hmodes | ⟨a, ha, hswitched⟩
  · exact .inr (.inr (.inr (.of_modes hmodes)))
  · have hgives (key : Key) (current : Int) (hset : a.command.query = false)
        (hkey : a.command.key = key.text) {format : DataFormat} {length : Int}
        (hgiven : a.GivenFormat current format length) : step.SetsFormat key current format length :=
      ⟨ha.query.symm.trans hset, ha.key.symm.trans hkey, ha.givenFormat.mp hgiven⟩
    rw [← ha.sim]
    generalize step.after.sim.state = after at hswitched ⊢
    cases hswitched with
    | format hset hpair hkey hgiven =>
      cases hpair with
      | data => exact .inl ⟨_, _, hgives .form _ hset hkey hgiven⟩
      | status => exact .inr (.inl ⟨_, _, hgives .formStat _ hset hkey hgiven⟩)
    | reset hkey hset =>
      exact .inr (.inr (.inl
        ⟨Step.resets_iff.mpr ⟨ha.query.symm.trans hset, ha.key.symm.trans hkey⟩, rfl⟩))
    | _ => exact .inr (.inr (.inr ⟨rfl, rfl⟩))

theorem Step.Valid.rejected_sameFormats (h : step.Valid) (hstop : step.after.stop = true) :
    SameFormats step.before.state step.after.sim.state := by
  obtain ⟨-, code, -, message, hsim⟩ := h.effect.rejected_of_stop hstop
  rw [hsim]
  change SameFormats step.before.state (step.before.state.pushError code message)
  unfold SimulatorState.pushError
  split <;> exact ⟨rfl, rfl⟩

theorem reset_formatsLegal (sim : NormaSimulator) : sim.reset.state.FormatsLegal where
  coupled := Iff.rfl
  data := (by decide : DataLength .ascii 6)
  status := trivial

theorem SameFormats.legal {s t : State} (h : SameFormats s t) (hs : s.FormatsLegal) :
    t.FormatsLegal where
  coupled := by rw [h.data, h.status]; exact hs.coupled
  data := by rw [h.data]; exact hs.data
  status := by rw [h.status]; exact hs.status

end Formats

section Exact

variable {step : Step} {m : Lengths} {format : DataFormat} {length : Int}

theorem Step.SetsFormat.not_resets {key : Key} {current : Int}
    (h : step.SetsFormat key current format length) : step.resets = false := by
  rw [Bool.eq_false_iff]
  intro hresets
  have hkey := h.2.1.symm.trans (Step.resets_iff.mp hresets).2
  exact (text_ends key).2 (hkey ▸ rfl)

theorem Step.SetsFormat.lengthless {key : Key} {current : Int}
    (h : step.SetsFormat key current format length) (hshort : ¬step.GivesLength key) :
    length = current := by
  have hnone : step.received.command.args[1]? = none := by
    by_contra hsome
    exact hshort ⟨h.2.1, hsome⟩
  have hlength := h.2.2.2
  rw [hnone] at hlength
  exact hlength

theorem coupled_format (binary : Bool) {fallback : DataFormat} (hfallback : fallback ≠ .ascii)
    (other : DataFormatSetting) :
    (coupled binary fallback other).format = .ascii ↔ binary = false := by
  unfold coupled
  obtain ⟨format, length⟩ := other
  cases binary <;> cases format <;> simp [hfallback]

theorem coupled_length (binary : Bool) (fallback : DataFormat) (other : DataFormatSetting) :
    (coupled binary fallback other).length = other.length := by
  unfold coupled
  split <;> rfl

theorem Step.SetsFormat.after_data (h : step.SetsFormat .form step.before.state.dataFormat.length
    format length) (hvalid : step.Valid) :
    step.after.sim.state.dataFormat = ⟨format, length⟩ ∧
      step.after.sim.state.statusFormat =
        coupled (format ≠ .ascii) .integer step.before.state.statusFormat := by
  rw [Step.SetsFormat.state h .data hvalid]
  exact ⟨rfl, rfl⟩

theorem Step.SetsFormat.after_status (h : step.SetsFormat .formStat
    step.before.state.statusFormat.length format length) (hvalid : step.Valid) :
    step.after.sim.state.statusFormat = ⟨format, length⟩ ∧
      step.after.sim.state.dataFormat =
        coupled (format ≠ .ascii) .real step.before.state.dataFormat := by
  rw [Step.SetsFormat.state h .status hvalid]
  exact ⟨rfl, rfl⟩

theorem coupled_same {fallback : DataFormat} {other : DataFormatSetting}
    (h : format = .ascii ↔ other.format = .ascii) :
    coupled (format ≠ .ascii) fallback other = other := by
  refine if_neg ?_
  simp [h]

theorem coupled_binary {fallback : DataFormat} {other : DataFormatSetting} (hformat : format ≠ .ascii)
    (hother : other.format = .ascii) :
    coupled (format ≠ .ascii) fallback other = ⟨fallback, other.length⟩ := by
  simp [coupled, hformat, hother]

theorem SimulatorState.FormatsLegal.status_integer {s : State} (h : s.FormatsLegal)
    (hbinary : s.statusFormat.format ≠ .ascii) : s.statusFormat.format = .integer := by
  have hlegal := h.status
  cases hformat : s.statusFormat.format with
  | ascii => exact absurd hformat hbinary
  | integer => rfl
  | real =>
    rw [hformat] at hlegal
    exact hlegal.elim

theorem Step.FormatsDocumented.keeps (h : step.FormatsDocumented m) (hvalid : step.Valid)
    (hs : step.before.state.FormatsLegal) : step.KeepsFormats m where
  data format length hsets := by
    have hlegal := h.legal.data
    rw [(hsets.after_data hvalid).1] at hlegal
    refine ⟨fun _ => hlegal, fun hshort => ?_⟩
    obtain rfl := hsets.lengthless hshort
    exact hlegal.unique hs.data
  indirect format length hsets hbinary hascii := by
    have hstatus := (hsets.after_data hvalid).2.trans (coupled_binary hbinary hascii)
    have hlegal := h.legal.status
    have hother : ¬step.GivesLength .formStat := fun hgives =>
      absurd (hsets.2.1.symm.trans hgives.1) (by decide)
    have hlast := h.status hsets.not_resets hother (by rw [hstatus])
    rw [hstatus] at hlegal hlast
    exact ⟨hlegal, hlast⟩
  status format length hsets := by
    obtain ⟨hstatus, hdata⟩ := hsets.after_status hvalid
    have hlegal := h.legal.data
    have hsame : step.after.sim.state.dataFormat.format = step.before.state.dataFormat.format := by
      refine DataLength.unique hlegal ?_
      rw [hdata, coupled_length]
      exact hs.data
    refine ⟨?_, ?_⟩
    · have hlength := h.legal.status
      rwa [hstatus] at hlength
    · have hcoupled := h.legal.coupled
      rw [hsame, hstatus] at hcoupled
      exact hcoupled.symm

inductive StatusFollows (format : DataFormat) (before : DataFormatSetting) :
    DataFormatSetting → Prop where
  | ascii (htext : format = .ascii) {after : DataFormatSetting} (hafter : after.format = .ascii) :
      StatusFollows format before after
  | changed (hbinary : format ≠ .ascii) (hbefore : before.format = .ascii) :
      StatusFollows format before ⟨.integer, before.length⟩
  | same (hbinary : format ≠ .ascii) (hbefore : before.format ≠ .ascii) :
      StatusFollows format before before

theorem statusFollows (format : DataFormat) (before : DataFormatSetting) :
    StatusFollows format before (coupled (format ≠ .ascii) .integer before) := by
  rcases eq_or_ne format .ascii with rfl | hbinary
  · exact .ascii rfl ((coupled_format _ (by decide) _).mpr (by simp))
  · rcases eq_or_ne before.format .ascii with hbefore | hbefore
    · rw [coupled_binary hbinary hbefore]
      exact .changed hbinary hbefore
    · rw [coupled_same (by simp [hbinary, hbefore])]
      exact .same hbinary hbefore

theorem Step.KeepsFormats.setsData (h : step.KeepsFormats m) (hvalid : step.Valid)
    (hs : step.before.state.FormatsLegal) (hm : m.Current step.before.state)
    (hsets : step.SetsFormat .form step.before.state.dataFormat.length format length) :
    step.FormatsDocumented m := by
  obtain ⟨hdata, hstatus⟩ := hsets.after_data hvalid
  obtain ⟨hgiven, hshort⟩ := h.data format length hsets
  have hindirect := h.indirect format length hsets
  have hfollows := statusFollows format step.before.state.statusFormat
  rw [← hstatus] at hfollows
  have hlength : DataLength format length := by
    by_cases hgives : step.GivesLength .form
    · exact hgiven hgives
    · rw [hshort hgives, hsets.lengthless hgives]
      exact hs.data
  refine ⟨⟨?_, by rwa [hdata], ?_⟩, ?_, ?_, ?_⟩
  · rw [hdata, hstatus, coupled_format _ (by decide)]
    simp
  · generalize step.after.sim.state.statusFormat = status at hfollows
    cases hfollows with
    | ascii htext hafter =>
      rw [hafter]
      trivial
    | changed hbinary hbefore => exact (hindirect hbinary hbefore).1
    | same => exact hs.status
  · intro hstop
    exact ⟨(hvalid.rejected_sameFormats hstop).data, (hvalid.rejected_sameFormats hstop).status⟩
  · intro _ hgives last hlast
    rw [hdata, hshort hgives, hm.data] at hlast
    rw [hdata, hsets.lengthless hgives]
    exact Option.some.inj hlast
  · intro _ _ hinteger last hlast
    generalize step.after.sim.state.statusFormat = status at hfollows hinteger ⊢
    cases hfollows with
    | ascii htext hafter => rw [hafter] at hinteger; cases hinteger
    | changed hbinary hbefore => exact (hindirect hbinary hbefore).2 last hlast
    | same =>
      rw [hm.status hinteger] at hlast
      exact Option.some.inj hlast

theorem Step.KeepsFormats.setsStatus (h : step.KeepsFormats m) (hvalid : step.Valid)
    (hs : step.before.state.FormatsLegal) (hm : m.Current step.before.state)
    (hsets : step.SetsFormat .formStat step.before.state.statusFormat.length format length) :
    step.FormatsDocumented m := by
  obtain ⟨hstatus, hdata⟩ := hsets.after_status hvalid
  obtain ⟨hlength, hkind⟩ := h.status format length hsets
  rw [coupled_same hkind] at hdata
  refine ⟨⟨?_, ?_, by rwa [hstatus]⟩, ?_, ?_, ?_⟩
  · rw [hdata, hstatus]
    exact hkind.symm
  · rw [hdata]
    exact hs.data
  · intro hstop
    exact ⟨(hvalid.rejected_sameFormats hstop).data, (hvalid.rejected_sameFormats hstop).status⟩
  · intro _ _ last hlast
    rw [hdata, hm.data] at hlast
    rw [hdata]
    exact Option.some.inj hlast
  · intro _ hgives hinteger last hlast
    rw [hstatus] at hinteger ⊢
    obtain rfl : format = .integer := hinteger
    have hbefore : step.before.state.statusFormat.format ≠ .ascii := by
      rw [Ne, ← hs.coupled, ← hkind]
      decide
    rw [hm.status (hs.status_integer hbefore)] at hlast
    rw [hsets.lengthless hgives]
    exact Option.some.inj hlast

theorem SameFormats.documented (h : SameFormats step.before.state step.after.sim.state)
    (hs : step.before.state.FormatsLegal) (hm : m.Current step.before.state) :
    step.FormatsDocumented m where
  legal := h.legal hs
  rejected _ := ⟨h.data, h.status⟩
  data _ _ last hlast := by
    rw [h.data, hm.data] at hlast
    rw [h.data]
    exact Option.some.inj hlast
  status _ _ hinteger last hlast := by
    rw [h.status] at hinteger ⊢
    rw [hm.status hinteger] at hlast
    exact Option.some.inj hlast

theorem Step.KeepsFormats.documented (h : step.KeepsFormats m) (hvalid : step.Valid)
    (hs : step.before.state.FormatsLegal) (hm : m.Current step.before.state) :
    step.FormatsDocumented m := by
  rcases hvalid.formats with ⟨format, length, hsets⟩ | ⟨format, length, hsets⟩ |
    ⟨hresets, hstate⟩ | hsame
  · exact h.setsData hvalid hs hm hsets
  · exact h.setsStatus hvalid hs hm hsets
  · refine ⟨?_, ?_, fun hnot => ?_, fun hnot => ?_⟩
    · rw [hstate]
      exact reset_formatsLegal step.before
    · intro hstop
      exact ⟨(hvalid.rejected_sameFormats hstop).data, (hvalid.rejected_sameFormats hstop).status⟩
    · rw [hresets] at hnot
      cases hnot
    · rw [hresets] at hnot
      cases hnot
  · exact hsame.documented hs hm

end Exact

section Runs

variable {sim : NormaSimulator} {moves : List Move} {m : Lengths}

theorem documented_iff (h : Linked sim moves) (hs : sim.state.FormatsLegal)
    (hm : m.Current sim.state) : Documented m moves ↔ FormatsKept m moves := by
  induction moves generalizing sim m with
  | nil => exact Iff.rfl
  | cons move moves ih =>
    obtain ⟨rfl, hvalid, hrest⟩ := h
    cases move with
    | signal sim given => exact ih hrest hs hm
    | command step =>
      have hnext (hlegal : step.after.sim.state.FormatsLegal) :
          (m.after (.command step)).Current step.after.sim.state := by
        rw [Lengths.after]
        split
        · exact Lengths.seen_current _ hlegal
        · exact Lengths.seen_current _ hlegal
      constructor
      · rintro ⟨hstep, hmoves⟩
        exact ⟨hstep.keeps hvalid hs, (ih hrest hstep.legal (hnext hstep.legal)).mp hmoves⟩
      · rintro ⟨hkeeps, hmoves⟩
        have hstep := hkeeps.documented hvalid hs hm
        exact ⟨hstep, (ih hrest hstep.legal (hnext hstep.legal)).mpr hmoves⟩

theorem format_coupling_iff {options : SimulatorOptions}
    (husage : Usage (.new options) moves) :
    (NormaSimulator.new options).state.FormatsLegal ∧
      (Documented (Lengths.none.seen (NormaSimulator.new options).state) moves ↔
        FormatsKept (Lengths.none.seen (NormaSimulator.new options).state) moves) := by
  have hnew : (NormaSimulator.new options).state.FormatsLegal :=
    reset_formatsLegal ⟨options, .initial, .initial⟩
  exact ⟨hnew, documented_iff husage.linked hnew (Lengths.seen_current _ hnew)⟩

def NormaSimulator.withFormats (sim : NormaSimulator) (data status : DataFormatSetting) :
    NormaSimulator :=
  { sim with state := { sim.state with dataFormat := data, statusFormat := status } }

theorem handleCommand_format (sim : NormaSimulator) {text : Text} {args : List Text}
    {format : DataFormat} {length : Int} (hparse : parseCommand text = ⟨"FORM", false, args⟩)
    (hgiven : ∀ a : Access, a.command.args = args →
      a.GivenFormat sim.state.dataFormat.length format length) :
    ∃ path, handleCommand sim [] text = some ⟨sim.withFormats ⟨format, length⟩
      (coupled (format ≠ .ascii) .integer sim.state.statusFormat), path, none, false⟩ := by
  have hheader : Addresses "FORM" .form [] := by decide +kernel
  exact handleCommand_runs hparse hheader
    ((FormatPair.data.execute _).trans (congrArg some (format_given rfl (hgiven _ rfl))))

theorem real64_given (a : Access) (h : a.command.args = ["REAL", "64"]) (current : Int) :
    a.GivenFormat current .real 64 := by
  have hformat : formatOf (unquote "REAL") = some .real := by decide +kernel
  have hnumber : parseNumber "64" = some 64 := by decide +kernel
  have hlength : toInt 64 = 64 := by decide +kernel
  rw [Access.GivenFormat, Command.argument, h]
  exact ⟨⟨_, rfl, hformat⟩, 64, hnumber, hlength⟩

theorem givenFormat_unique {a : Access} {current : Int} {format format' : DataFormat}
    {length length' : Int} (h : a.GivenFormat current format length)
    (h' : a.GivenFormat current format' length') : format = format' ∧ length = length' := by
  obtain ⟨⟨text, hargument, hformat⟩, hlength⟩ := h
  obtain ⟨⟨text', hargument', hformat'⟩, hlength'⟩ := h'
  rw [hargument, Option.some.injEq] at hargument'
  subst hargument'
  rw [hformat, Option.some.injEq] at hformat'
  refine ⟨hformat', ?_⟩
  cases harg : a.command.args[1]? with
  | none =>
    rw [harg] at hlength hlength'
    exact hlength.trans hlength'.symm
  | some arg =>
    rw [harg] at hlength hlength'
    obtain ⟨number, hnumber, rfl⟩ := hlength
    obtain ⟨number', hnumber', rfl⟩ := hlength'
    rw [hnumber, Option.some.injEq] at hnumber'
    rw [hnumber']

theorem real64_documented : ∃ moves, Usage (.new {}) moves ∧ moves ≠ [] ∧
    Documented (Lengths.none.seen (NormaSimulator.new {}).state) moves := by
  have hparse : parseCommand "FORM REAL,64" = ⟨"FORM", false, ["REAL", "64"]⟩ := by
    decide +kernel
  obtain ⟨path, hout⟩ := handleCommand_format (.new {}) hparse fun a h => real64_given a h _
  have husage := Usage.command (by decide +kernel) (by decide +kernel) (by decide) hout (.done _)
  refine ⟨_, husage, by simp, (format_coupling_iff husage).2.mpr ⟨?_, trivial⟩⟩
  have hkey : commandKey [] "FORM REAL,64" = "FORM" := by decide +kernel
  have hargs : (parseCommand "FORM REAL,64").args = [("REAL" : Text), "64"] := by rw [hparse]
  refine ⟨fun format length hsets => ?_, fun format length hsets _ _ => ?_,
    fun format length hsets => ?_⟩
  · obtain ⟨rfl, rfl⟩ := givenFormat_unique hsets.2.2 (real64_given _ hargs _)
    refine ⟨fun _ => by decide, fun hshort => absurd ⟨hkey, ?_⟩ hshort⟩
    rw [hargs]
    simp
  · exact ⟨(by decide : StatusLength .integer 16), fun last hlast => by cases hlast⟩
  · exact absurd (hkey.symm.trans hsets.2.1) (by decide)

theorem real_keeps_text_length : ¬∀ sim, Reachable sim → sim.state.FormatsLegal := by
  intro hall
  have hparse : parseCommand "FORM REAL" = ⟨"FORM", false, ["REAL"]⟩ := by decide +kernel
  have hformat : formatOf (unquote "REAL") = some .real := by decide +kernel
  have hgiven (a : Access) (h : a.command.args = ["REAL"]) : a.GivenFormat 6 .real 6 := by
    rw [Access.GivenFormat, Command.argument, h]
    exact ⟨⟨_, rfl, hformat⟩, rfl⟩
  obtain ⟨path, hout⟩ := handleCommand_format (.new {}) hparse hgiven
  have hline := handleLine_single (by decide) (by decide) (by decide +kernel) (by decide) hout
  have hlegal : DataLength .real 6 := (hall _ (.line (.new {}) _ hline)).data
  exact absurd hlegal (by decide)

end Runs

end Norma
