import Norma.Limits
import Norma.StateChange

namespace Norma

open ErrorCode

def SimulatorState.Recording (state : State) (block : Fin 3) : Prop :=
  (state.sweep block).enabled = true

def SimulatorState.OneRecording (state : State) : Prop :=
  ¬(state.Recording 1 ∧ state.Recording 2)

namespace Access

-- The command turns the recording of a block on: SWEep#:STATe ON or INITiate.
def Enables (a : Access) (block : Fin 3) : Prop :=
  a.command.query = false ∧
    (a.command.key = Key.sweStat.text ∧ a.AddressesBlock block ∧ a.GivenBool true ∨
      a.StartsBlock block)

end Access

namespace Step

def EnablesSecond (step : Step) : Prop :=
  step.received.Enables 1 ∧ step.before.state.Recording 2 ∨
    step.received.Enables 2 ∧ step.before.state.Recording 1

def RejectsConflict (step : Step) : Prop :=
  ∃ message, step.after.sim = step.before.pushError kSettingsConflict message

section Receives

variable {step : Step} {a : Access} {block : Fin 3}

theorem Receives.addressesBlock (h : step.Receives a) :
    a.AddressesBlock block ↔ step.received.AddressesBlock block := by
  rw [Access.AddressesBlock, Command.suffix, h.suffixes]
  rfl

theorem Receives.givenBool (h : step.Receives a) {value : Bool} :
    a.GivenBool value ↔ step.received.GivenBool value := by
  rw [Access.GivenBool, Command.argument, h.args]
  rfl

theorem Receives.enables (h : step.Receives a) :
    a.Enables block ↔ step.received.Enables block := by
  rw [Access.Enables, Access.StartsBlock, h.query, h.key, h.addressesBlock, h.givenBool]
  rfl

end Receives

end Step

section Blocks

variable {a b : Access} {s t : State} {block : Fin 3}

theorem enableSweep_recording (s : State) (block other : Fin 3) (value : Bool) :
    ((enableSweep block).set s value).Recording other ↔
      if other = block then value = true else s.Recording other := by
  change (Function.update s.sweep block _ other).enabled = true ↔ _
  split
  · next heq =>
    rw [heq, Function.update_self]
    rfl
  · next hne =>
    rw [Function.update_of_ne hne]
    rfl

theorem SimulatorState.OneRecording.of_modes (h : s.OneRecording) (hmodes : t.modes = s.modes) :
    t.OneRecording := by
  simp only [SimulatorState.modes, Prod.mk.injEq] at hmodes
  obtain ⟨-, -, -, -, -, -, -, henabled⟩ := hmodes
  have hsame (block : Fin 3) : t.Recording block ↔ s.Recording block := by
    rw [SimulatorState.Recording, SimulatorState.Recording, ← congrFun henabled block]
  exact fun hboth => h ⟨(hsame 1).mp hboth.1, (hsame 2).mp hboth.2⟩

theorem enableSweep_oneRecording {value : Bool} (hblock : block ≠ 0) (hother : value = true →
      (block = 1 → ¬s.Recording 2) ∧ (block = 2 → ¬s.Recording 1)) :
    ((enableSweep block).set s value).OneRecording := by
  rintro ⟨hone, htwo⟩
  rw [enableSweep_recording] at hone htwo
  obtain rfl | rfl : block = 1 ∨ block = 2 := by omega
  · rw [if_pos rfl] at hone
    rw [if_neg (by decide)] at htwo
    exact (hother hone).1 rfl htwo
  · rw [if_neg (by decide)] at hone
    rw [if_pos rfl] at htwo
    exact (hother htwo).2 rfl hone

theorem Access.StartsBlock.ne_zero (h : a.StartsBlock block) : block ≠ 0 := by
  rcases h with h | ⟨-, rfl⟩
  · exact h.2.1
  · decide

theorem both_off (s : State) :
    ((enableSweep 2).set ((enableSweep 1).set s false) false).OneRecording := by
  refine fun hboth => absurd ((enableSweep_recording _ _ _ _).mp hboth.2) ?_
  simp

theorem Switched.oneRecording (h : Switched a t) (hs : a.sim.state.OneRecording)
    (hother : ∀ block, a.Enables block → (block = 1 → ¬a.sim.state.Recording 2) ∧
      (block = 2 → ¬a.sim.state.Recording 1)) : t.OneRecording := by
  cases h with
  | sweepState hset hkey hblock hgiven =>
    refine enableSweep_oneRecording hblock.1 fun hon =>
      hother _ ⟨hset, .inl ⟨hkey, hblock, ?_⟩⟩
    rw [← hon]
    exact hgiven
  | sequence hset hstarts =>
    exact enableSweep_oneRecording hstarts.ne_zero fun _ => hother _ ⟨hset, .inr hstarts⟩
  | abort => exact both_off _
  | deleteAll => exact both_off _
  | format hset hpair => cases hpair <;> exact hs
  | reset => exact fun hboth => Bool.false_ne_true hboth.1
  | _ => exact hs

end Blocks

section Steps

variable {step : Step} {a b : Access} {block : Fin 3}

theorem recordingKey_of_text : ∀ key ∈ [Key.sweStat, .initSeq, .initName],
    ∀ spec ∈ commandSpecs, spec.key.text = key.text → spec.key = key := by
  decide +kernel

theorem recordingKey_text : ∀ key ∈ [Key.sweStat, .initSeq, .initName],
    ∀ key' ∈ [Key.sweStat, .initSeq, .initName], key'.text = key.text → key' = key := by
  decide

theorem Access.AddressesBlock.range (h : a.AddressesBlock block) :
    1 ≤ a.command.suffix ∧ a.command.suffix ≤ 2 ∧
      Fin.ofNat 3 a.command.suffix.toNat = block := by
  obtain ⟨hne, hsuffix⟩ := h
  rw [hsuffix]
  obtain rfl | rfl : block = 1 ∨ block = 2 := by omega
  · decide
  · decide

theorem execute_sweStat (h : a.AddressesBlock block) :
    execute .sweStat a = some (a.boolean (enableSweep block)) := by
  obtain ⟨hlow, hhigh, hblock⟩ := h.range
  have hsweep : handleSweep .sweStat a = .done (a.boolean (enableSweep block)) := by
    rw [← hblock]
    exact if_neg (by omega)
  have hsense : handleSense .sweStat a = handleSweep .sweStat a := rfl
  rw [execute, dispatch, hsense, hsweep]
  rfl

theorem startSequence_starts {number : Int} (hset : a.command.query = false) (hlow : 1 ≤ number)
    (hhigh : number ≤ 2) :
    a.startSequence number = a.assign (enableSweep (Fin.ofNat _ number.toNat)) true := by
  rw [Access.startSequence, Access.commandOnly, if_neg (by simp [hset]), if_neg (by omega)]

theorem execute_enables {key : Key} (hkey : a.command.key = key.text)
    (hunique : ∀ key' ∈ [Key.sweStat, .initSeq, .initName], key'.text = key.text → key' = key)
    (h : a.Enables block) : execute key a = some (a.assign (enableSweep block) true) := by
  obtain ⟨hset, ⟨hname, hblock, hgiven⟩ | ⟨hname, hblock⟩ | ⟨hname, rfl⟩⟩ := h
  · obtain rfl := hunique .sweStat (by simp) (hname.symm.trans hkey)
    rw [execute_sweStat hblock, Access.boolean_given hset hgiven]
  · obtain rfl := hunique .initSeq (by simp) (hname.symm.trans hkey)
    obtain ⟨hlow, hhigh, hfin⟩ := hblock.range
    have hstart := startSequence_starts hset hlow hhigh
    rw [hfin] at hstart
    rw [← hstart]
    rfl
  · obtain rfl := hunique .initName (by simp) (hname.symm.trans hkey)
    have hstart : a.startSequence 1 = _ := startSequence_starts hset (by decide) (by decide)
    exact congrArg some hstart

theorem Step.Valid.enabled (hvalid : step.Valid) (h : step.received.Enables block) :
    step.after.sim.state = (enableSweep block).set step.before.state true := by
  have hkey : ∃ key ∈ [Key.sweStat, .initSeq, .initName], step.key = key.text := by
    obtain ⟨-, ⟨hname, -⟩ | ⟨hname, -⟩ | ⟨hname, -⟩⟩ := h
    · exact ⟨.sweStat, by simp, hname⟩
    · exact ⟨.initSeq, by simp, hname⟩
    · exact ⟨.initName, by simp, hname⟩
  obtain ⟨key, hmem, hname⟩ := hkey
  have hunique := recordingKey_of_text key hmem
  obtain ⟨a, b, rest, ha, hexecute, hafter⟩ := hvalid.executed hunique hname
  rw [execute_enables (ha.key.trans hname) (recordingKey_text key hmem) (ha.enables.mpr h)] at hexecute
  obtain rfl := Option.some.inj hexecute
  rw [hafter, ← ha.sim]
  rfl

theorem Step.EnablesSecond.not_oneRecording (h : step.EnablesSecond) (hvalid : step.Valid) :
    ¬step.after.sim.state.OneRecording := by
  refine fun hone => hone ?_
  rcases h with ⟨henables, hother⟩ | ⟨henables, hother⟩
  · rw [hvalid.enabled henables]
    exact ⟨(enableSweep_recording _ _ _ _).mpr (by simp),
      (enableSweep_recording _ _ _ _).mpr hother⟩
  · rw [hvalid.enabled henables]
    exact ⟨(enableSweep_recording _ _ _ _).mpr hother,
      (enableSweep_recording _ _ _ _).mpr (by simp)⟩

theorem Step.Valid.oneRecording (h : step.Valid) (hs : step.before.state.OneRecording)
    (hfirst : ¬step.EnablesSecond) : step.after.sim.state.OneRecording := by
  rcases h.switched with hmodes | ⟨a, ha, hswitched⟩
  · exact SimulatorState.OneRecording.of_modes hs hmodes
  · refine hswitched.oneRecording (by rw [ha.sim]; exact hs) fun block henables => ?_
    rw [ha.enables] at henables
    rw [ha.sim]
    constructor
    · rintro rfl hrecording
      exact hfirst (.inl ⟨henables, hrecording⟩)
    · rintro rfl hrecording
      exact hfirst (.inr ⟨henables, hrecording⟩)

theorem one_recording_iff {options : SimulatorOptions} {moves : List Move}
    (husage : Usage (.new options) moves) :
    ((∀ move ∈ moves, move.after.state.OneRecording) ∧
        ∀ step, .command step ∈ moves → step.EnablesSecond → step.RejectsConflict) ↔
      ∀ step, .command step ∈ moves → ¬step.EnablesSecond := by
  have hnew : (NormaSimulator.new options).state.OneRecording :=
    fun hboth => Bool.false_ne_true hboth.1
  have hiff := husage.linked.forall_iff (P := SimulatorState.OneRecording)
    (Q := fun step => ¬step.EnablesSecond)
    (fun step hvalid hs => ⟨fun hone hsecond => hsecond.not_oneRecording hvalid hone,
      fun hfirst => hvalid.oneRecording hs hfirst⟩) hnew
  constructor
  · exact fun h => hiff.mp h.1
  · intro hfirst
    exact ⟨hiff.mpr hfirst, fun step hstep hsecond => absurd hsecond (hfirst step hstep)⟩

def NormaSimulator.recording (sim : NormaSimulator) (block : Fin 3) : NormaSimulator :=
  { sim with state := (enableSweep block).set sim.state true }

def recordText (second : Bool) : Text := if second then "SWE2 ON" else "SWE1 ON"

def recordBlock (second : Bool) : Fin 3 := if second then 2 else 1

theorem handleCommand_record (sim : NormaSimulator) (second : Bool) :
    ∃ path, handleCommand sim [] (recordText second) =
      some ⟨sim.recording (recordBlock second), path, none, false⟩ := by
  have hparse : parseCommand (recordText second) =
      ⟨if second then "SWE2" else "SWE1", false, ["ON"]⟩ := by
    cases second <;> decide +kernel
  have hheader : Addresses (if second then "SWE2" else "SWE1") .sweStat
      [if second then 2 else 1] := by
    cases second <;> decide +kernel
  have hon : parseBoolean (unquote "ON") = some true := by decide +kernel
  have haddress (a : Access) (hsuffixes : a.command.suffixes = [if second then 2 else 1]) :
      a.AddressesBlock (recordBlock second) := by
    rw [Access.AddressesBlock, Command.suffix, hsuffixes]
    cases second <;> decide
  exact handleCommand_runs hparse hheader ((execute_sweStat (haddress _ rfl)).trans
    (congrArg some (Access.boolean_given rfl ⟨unquote "ON", rfl, hon⟩)))

theorem first_recording : ∃ moves, Usage (.new {}) moves ∧ moves ≠ [] ∧
    (∀ move ∈ moves, move.after.state.OneRecording ∧ move.after.state.Recording 1) := by
  obtain ⟨path, hout⟩ := handleCommand_record (.new {}) false
  have husage := Usage.command (by decide +kernel) (by decide +kernel) (by decide) hout (.done _)
  refine ⟨_, husage, by simp, fun move hmove => ⟨?_, ?_⟩⟩
  · refine ((one_recording_iff husage).mpr fun step hstep hsecond => ?_).1 move hmove
    obtain rfl := Move.command.inj (List.mem_singleton.mp hstep)
    rcases hsecond with ⟨-, hrecording⟩ | ⟨-, hrecording⟩
    · exact Bool.false_ne_true hrecording
    · exact Bool.false_ne_true hrecording
  · obtain rfl := List.mem_singleton.mp hmove
    exact (enableSweep_recording _ _ _ _).mpr rfl

theorem both_recording : ¬∀ sim, Reachable sim → sim.state.OneRecording := by
  intro hall
  obtain ⟨path, hfirst⟩ := handleCommand_record (.new {}) false
  obtain ⟨path', hsecond⟩ := handleCommand_record ((NormaSimulator.new {}).recording 1) true
  have hline := handleLine_single (by decide) (by decide) (by decide +kernel) (by decide) hfirst
  have hline' := handleLine_single (by decide) (by decide) (by decide +kernel) (by decide) hsecond
  refine hall _ (.line (.line (.new {}) _ hline) _ hline') ⟨?_, ?_⟩
  · exact (enableSweep_recording _ _ _ _).mpr ((enableSweep_recording _ _ _ _).mpr rfl)
  · exact (enableSweep_recording _ _ _ _).mpr rfl

end Steps

end Norma
