import Norma.RegisterServe
import Norma.Prepare

namespace Norma

open ErrorCode
open ScpiClient
open Session (throw ofExcept)

namespace Register

section Checked

variable {T : Type}

theorem checked_then {A : Type} {check : Session T Unit} (h : check = pure ())
    (next : Session T A) : (check >>= fun _ => next) = next := by
  rw [h]
  rfl

theorem checkChannel_present (channel : Fin kMaxInputChannel) :
    NormaInstrument.checkChannel (channelNumber channel) = (pure () : Session T Unit) := by
  refine if_neg ?_
  unfold channelNumber
  omega

theorem senseNode_then {A : Type} (base : Text) (phase : Fin kMaxPhase)
    (next : Text → Session T A) : (NormaInstrument.senseNode base (phaseNumber phase) >>= next) =
      next (base ++ toText (phaseNumber phase)) := by
  have hnode : NormaInstrument.senseNode base (phaseNumber phase) =
      (pure (base ++ toText (phaseNumber phase)) : Session T Text) := by
    refine checked_then (if_neg ?_) _
    unfold phaseNumber
    omega
  rw [hnode]
  rfl

end Checked

section Driver

variable {T : Type} [Transport T]

def sendOr (fault : Option Fault) (line : Text) : Session T Unit :=
  match fault with
  | some fault => throw fault
  | none => send line

theorem sendOr_ite {p : Prop} [Decidable p] (fault : Fault) (line : Text) :
    (if p then throw fault else send line : Session T Unit) =
      sendOr (if p then some fault else none) line := by
  split <;> rfl

theorem sendOr_ite_not {p : Prop} [Decidable p] (fault : Fault) (line : Text) :
    (if p then send line else throw fault : Session T Unit) =
      sendOr (if p then none else some fault) line := by
  split <;> rfl

theorem write_single (r : Single) (v : r.Value) : (r.write v : Session T Unit) =
    sendOr (refused (single r) v) (r.address.header ++ ' ' :: r.parameter.text v) := by
  cases r with
  | aperture => exact sendOr_ite_not _ _
  | gpibAddress => exact sendOr_ite _ _
  | harmonicOrder => exact sendOr_ite _ _
  | transformCycles => exact sendOr_ite_not _ _
  | wiringSystem => cases v <;> rfl
  | continuous => cases v <;> rfl
  | _ => rfl

theorem write_mask (reg : StatusRegister) (part : MaskPart) (n : Int) :
    (NormaInstrument.setStatus reg part.part n : Session T Unit) =
      sendOr (refused (mask reg part) n) ((mask reg part).address.header ++ ' ' :: toText n) := by
  have hline : NormaInstrument.statusNode reg part.part ++ " " ++ toText n =
      (mask reg part).address.header ++ ' ' :: toText n := List.append_assoc _ _ _
  have hwritable : ¬(part.part = .condition ∨ part.part = .event) := by
    cases part <;> decide
  rw [NormaInstrument.setStatus, if_neg hwritable, hline]
  exact sendOr_ite _ _

omit [Transport T] in
theorem told_eq {node part line text : Text} (h : line = part ++ [' ']) :
    node ++ line ++ text = node ++ part ++ ' ' :: text := by
  simp [h]

omit [Transport T] in
theorem asked_eq {node part line : Text} (h : line = part ++ ['?']) :
    node ++ line = node ++ part ++ ['?'] := by
  simp [h]

theorem write_input (channel : Fin kMaxInputChannel) (part : InputPart) (v : part.Value) :
    (writeInput (channelNumber channel) part v : Session T Unit) =
      send ((input channel part).address.header ++ ' ' :: part.parameter.text v) := by
  cases part <;>
    exact (checked_then (checkChannel_present channel) _).trans (congrArg send (told_eq rfl))

theorem write_sense (sensed : Sensed) (phase : Fin kMaxPhase) (part : SensePart) (v : part.Value) :
    (writeSense (phaseNumber phase) sensed part v : Session T Unit) =
      send ((sense sensed phase part).address.header ++ ' ' :: part.parameter.text v) := by
  cases sensed <;> cases part <;>
    exact (senseNode_then _ phase _).trans (congrArg send (told_eq rfl))

theorem write_sweep (block : SweepBlock) (part : SweepPart) (v : part.Value) :
    (writeSweep block part v : Session T Unit) = sendOr (refused (sweep block part) v)
      ((sweep block part).address.header ++ ' ' :: part.parameter.text v) := by
  cases part with
  | count => exact (sendOr_ite _ _).trans (congrArg (sendOr _) (told_eq rfl))
  | sparsing => exact (sendOr_ite _ _).trans (congrArg (sendOr _) (told_eq rfl))
  | _ => exact congrArg send (told_eq rfl)

theorem write_eq (r : Register) (v : r.Value) : (r.write v : Session T Unit) =
    sendOr (r.refused v) (r.address.header ++ ' ' :: r.parameter.text v) := by
  cases r with
  | single r => exact write_single r v
  | mask reg part => exact write_mask reg part v
  | input channel part => exact write_input channel part v
  | sense sensed phase part => exact write_sense sensed phase part v
  | sweep block part => exact write_sweep block part v

theorem queried {A : Type} {line line' : Text} (h : line = line')
    (parse : Text → Except Fault A) :
    (query line >>= fun text => ofExcept (parse text) : Session T A) =
      (query line' >>= fun text => ofExcept (parse text)) := by
  rw [h]

theorem read_input (channel : Fin kMaxInputChannel) (part : InputPart) :
    (readInput (channelNumber channel) part : Session T part.Value) =
      (query ((input channel part).address.header ++ ['?']) >>= fun line =>
        ofExcept (part.parameter.parse line)) := by
  cases part <;> refine (checked_then (checkChannel_present channel) _).trans ?_ <;>
    refine queried (asked_eq ?_) _ <;> rfl

theorem read_sense (sensed : Sensed) (phase : Fin kMaxPhase) (part : SensePart) :
    (readSense (phaseNumber phase) sensed part : Session T part.Value) =
      (query ((sense sensed phase part).address.header ++ ['?']) >>= fun line =>
        ofExcept (part.parameter.parse line)) := by
  cases sensed <;> cases part <;>
    refine (senseNode_then _ phase _).trans ?_ <;> refine queried (asked_eq ?_) _ <;> rfl

theorem read_eq (r : Register) : (r.read : Session T r.Value) =
    (query (r.address.header ++ ['?']) >>= fun line => ofExcept (r.parameter.parse line)) := by
  cases r with
  | single r => cases r <;> rfl
  | mask reg part => cases reg <;> cases part <;> rfl
  | input channel part => exact read_input channel part
  | sense sensed phase part => exact read_sense sensed phase part
  | sweep block part => cases block <;> cases part <;> rfl

end Driver

section Verdicts

structure Reportable (entry : ScpiErrorInfo) : Prop where
  code : entry.code ∈ raised
  plain : '"' ∉ entry.message

theorem bare_notMem {text : Text} (h : Bare text) : '"' ∉ text := fun hmem => by
  have hquote := (bareChar (h.chars _ hmem)).1
  cases hquote

theorem reportable_outOfRange {text : Text} (h : '"' ∉ text) : Reportable (dataOutOfRange text) :=
  ⟨(by decide : kDataOutOfRange ∈ raised), fun hmem => (List.mem_append.mp hmem).elim (by decide) h⟩

theorem reportable_illegal {text : Text} (h : '"' ∉ text) : Reportable (illegalValue text) :=
  ⟨(by decide : kIllegalParameterValue ∈ raised),
    fun hmem => (List.mem_append.mp hmem).elim (by decide) h⟩

structure Sound {A : Type} [Parameter A] (verdict : A → Verdict A) : Prop where
  rejected : ∀ v entry, verdict v = .error entry → Reportable entry
  accepted : ∀ v kept, Parameter.Fits v → verdict v = .ok kept → Parameter.Fits kept

theorem sound_ok {A : Type} [Parameter A] : Sound (Except.ok : A → Verdict A) where
  rejected v entry h := by cases h
  accepted v kept hv h := by
    cases h
    exact hv

theorem sound_within (low high : Float) : Sound (within low high) where
  rejected x entry h := by
    unfold within at h
    split at h
    · cases h
      exact reportable_outOfRange (bare_notMem (bare_formatDouble x))
    · cases h
  accepted _ _ _ _ := trivial

theorem sound_between (low high : Int) : Sound (between low high) where
  rejected n entry h := by
    unfold between at h
    split at h
    · cases h
      exact reportable_outOfRange (bare_notMem (bare_toText n))
    · cases h
  accepted n kept hn h := by
    unfold between at h
    split at h
    · cases h
    · cases h
      exact hn

theorem sound_snapped (ranges : Ranges) : Sound (snapped ranges) where
  rejected x entry h := by
    unfold snapped at h
    split at h
    · cases h
      exact reportable_outOfRange (bare_notMem (bare_formatDouble x))
    · cases h
  accepted _ _ _ _ := trivial

theorem sound_cutOff : Sound cutOff where
  rejected x entry h := by
    unfold cutOff at h
    split at h
    · cases h
      exact reportable_illegal (bare_notMem (bare_formatDouble x))
    · cases h
  accepted _ _ _ _ := trivial

theorem sound_evenCycles : Sound evenCycles where
  rejected n entry h := by
    unfold evenCycles at h
    split at h
    · cases h
      exact reportable_outOfRange (bare_notMem (bare_toText n))
    · split at h
      · cases h
        exact reportable_illegal (bare_notMem (bare_toText n))
      · cases h
  accepted n kept hn h := by
    unfold evenCycles at h
    split at h
    · cases h
    · split at h
      · cases h
      · cases h
        exact hn

theorem sound_calendarDate : Sound calendarDate where
  rejected date entry h := by
    unfold calendarDate at h
    split at h
    · cases h
      exact reportable_outOfRange (by decide)
    · cases h
  accepted date kept hdate h := by
    unfold calendarDate at h
    split at h
    · cases h
    · cases h
      exact hdate

theorem sound_clockTime : Sound clockTime where
  rejected time entry h := by
    unfold clockTime at h
    split at h
    · cases h
      exact reportable_outOfRange (by decide)
    · cases h
  accepted time kept htime h := by
    unfold clockTime at h
    split at h
    · cases h
    · cases h
      exact htime

theorem sound_verdict (options : SimulatorOptions) (memory : Memory) (r : Register) :
    @Sound r.Value r.parameter (r.verdict options memory) := by
  cases r with
  | single r =>
    cases r <;> first
      | exact sound_ok
      | exact sound_within _ _
      | exact sound_between _ _
      | exact sound_cutOff
      | exact sound_evenCycles
      | exact sound_calendarDate
      | exact sound_clockTime
  | mask reg part => exact sound_between _ _
  | input channel part =>
    cases part <;> first
      | exact sound_ok
      | exact sound_within _ _
  | sense sensed phase part =>
    cases part <;> first
      | exact sound_ok
      | exact sound_within _ _
      | exact sound_snapped _
  | sweep block part =>
    cases part <;> first
      | exact sound_ok
      | exact sound_within _ _
      | exact sound_between _ _

theorem reportable_unavailable {options : SimulatorOptions} {r : Register} {entry : ScpiErrorInfo}
    (h : r.unavailable options = some entry) : Reportable entry := by
  cases r with
  | input channel part =>
    change part.unavailable options (channelNumber channel) = some entry at h
    unfold InputPart.unavailable at h
    split at h
    · cases h
      refine reportable_outOfRange fun hmem => ?_
      exact (List.mem_append.mp hmem).elim (by decide) (bare_notMem (bare_toText _))
    · split at h
      · cases h
      · cases part with
        | gain =>
          cases h
          exact ⟨by decide, by decide⟩
        | shunt =>
          cases h
          exact ⟨by decide, by decide⟩
        | coupling => cases h
        | filter => cases h
  | _ => cases h

end Verdicts

end Register

end Norma
