import Norma.Change
import Norma.Lib.Numeral

namespace Norma

open CNumber FloatOrder ErrorCode

def Access.IntegerByValue (a : Access) (f : Setting Int) (min max : Int) (v : ℚ) : Prop :=
  let b := a.integer f min max
  if min ≤ nearest v ∧ nearest v ≤ max then b = a.assign f (nearest v)
  else (∃ message, b = a.fail kDataOutOfRange message) ∧ f.get b.sim.state = f.get a.sim.state

-- What arrives in an `int`: the nearest integer modulo 2^32, and 0 where it is not a `long`.
def narrowed (x : Float) : Int :=
  if x.isFinite = true ∧ longMin ≤ nearest (rational x) ∧ nearest (rational x) ≤ longMax then
    Int.bmod (nearest (rational x)) (2 ^ 32)
  else 0

def Setting.Unqueued (f : Setting Int) : Prop :=
  ∀ (s : State) code message, f.get (s.pushError code message) = f.get s

section Settings

variable {f : Setting Int} {reg : StatusRegister} {min max : Int}

theorem unqueued_of_fields (h : ∀ (s : State) errors eventStatus,
    f.get { s with errors, eventStatus } = f.get s) : f.Unqueued := by
  intro s code message
  unfold SimulatorState.pushError
  split
  · exact h s _ s.eventStatus
  · exact h s _ _

theorem IntegerSetting.unqueued (h : IntegerSetting f min max) : f.Unqueued := by
  apply unqueued_of_fields
  cases h <;> exact fun _ _ _ => rfl

theorem MaskSetting.unqueued (h : MaskSetting reg f) : f.Unqueued := by
  apply unqueued_of_fields
  cases h <;> cases reg <;> exact fun _ _ _ => rfl

end Settings

section Integer

variable {a : Access} {f : Setting Int} {min max : Int} {d : Numeral}

theorem parseNumber_numeral (d : Numeral) : parseNumber d.text = some d.float := by
  rw [parseNumber, cstr_numeral, strtod_numeral]
  rfl

theorem toInt32_lround (x : Float) : toInt32 (lround x) = narrowed x := by
  rw [lround_eq, narrowed]
  split
  · rfl
  · decide

theorem narrowed_small {x : Float} (hfinite : x.isFinite = true)
    (hlow : -2 ^ 31 ≤ nearest (rational x)) (hhigh : nearest (rational x) < 2 ^ 31) :
    narrowed x = nearest (rational x) := by
  have hlong : longMin ≤ nearest (rational x) ∧ nearest (rational x) ≤ longMax := by
    simp only [longMin, longMax]
    omega
  rw [narrowed, if_pos ⟨hfinite, hlong⟩]
  exact Int.bmod_eq_of_le (by omega) (by omega)

theorem integer_numeral (hset : a.command.query = false)
    (hargument : a.command.argument = some d.text) :
    a.integer f min max =
      if narrowed d.float < min ∨ max < narrowed d.float then a.outOfRange d.text
      else a.assign f (narrowed d.float) := by
  simp only [Access.integer, hset, Bool.false_eq_true, if_false, Access.readInteger,
    Access.parameter, hargument, parseNumber_numeral, toInt32_lround]

theorem assign_ne_fail (hfailed : a.command.failed = false) (value : Int) (code : Int)
    (message : Text) : a.assign f value ≠ a.fail code message := by
  intro h
  have hcommand : a.command.failed = true := congrArg (·.command.failed) h
  exact Bool.false_ne_true (hfailed.symm.trans hcommand)

theorem assign_injective {value value' : Int} (h : a.assign f value = a.assign f value') :
    value = value' := by
  have hget : f.get (f.set a.sim.state value) = f.get (f.set a.sim.state value') :=
    congrArg (fun b : Access => f.get b.sim.state) h
  rwa [f.get_set, f.get_set] at hget

theorem integer_by_value_iff (hset : a.command.query = false) (hfailed : a.command.failed = false)
    (hargument : a.command.argument = some d.text) (hfield : f.Unqueued) :
    a.IntegerByValue f min max d.value ↔
      narrowed d.float = nearest d.value ∨
        (narrowed d.float < min ∨ max < narrowed d.float) ∧
          (nearest d.value < min ∨ max < nearest d.value) := by
  have hread : a.integer f min max = _ := integer_numeral hset hargument
  unfold Access.IntegerByValue
  dsimp only
  rw [hread]
  split
  · next hallowed =>
    split
    · next hout =>
      refine iff_of_false (fun h => assign_ne_fail hfailed _ _ _ h.symm) ?_
      rintro (heq | ⟨-, hrejected⟩)
      · omega
      · omega
    · next hin =>
      constructor
      · exact fun h => .inl (assign_injective h)
      · rintro (heq | ⟨hout, -⟩)
        · rw [heq]
        · exact absurd hout hin
  · next hrejected =>
    split
    · next hout =>
      refine iff_of_true ⟨⟨_, rfl⟩, hfield _ _ _⟩ (.inr ⟨hout, ?_⟩)
      omega
    · next hin =>
      refine iff_of_false (fun h => ?_) ?_
      · obtain ⟨message, hfail⟩ := h.1
        exact assign_ne_fail hfailed _ _ _ hfail
      · rintro (heq | ⟨hout, -⟩)
        · omega
        · exact hin hout

def digitsNumeral (digits : List Char) (hne : digits ≠ [])
    (hdigits : ∀ c ∈ digits, c.isDigit = true) : Numeral where
  sign := .none
  whole := digits
  fraction := none
  exponent := none
  digits_ne := by simpa using hne
  isDigit := by simpa using hdigits

def enabling (sim : NormaSimulator) (argument : Text) : Access :=
  ⟨sim, [], "*ESE", [], false, [argument], none, false⟩

theorem enable_two_hundred : (enabling (.new {}) "200").IntegerByValue .eventStatusEnable 0 255
    (digitsNumeral "200" (by decide) (List.all_eq_true.mp rfl)).value := by
  let d := digitsNumeral "200" (by decide) (List.all_eq_true.mp rfl)
  have hargument : (enabling (.new {}) "200").command.argument = some d.text := by decide +kernel
  have hvalue : nearest d.value = 200 := by decide +kernel
  have hnarrowed : narrowed d.float = 200 := by decide +kernel
  exact (integer_by_value_iff rfl rfl hargument IntegerSetting.eventStatusEnable.unqueued).mpr
    (.inl (hnarrowed.trans hvalue.symm))

-- The number arrives as 1.
theorem enable_beyond_int : ¬∀ (a : Access) (f : Setting Int) (min max : Int) (d : Numeral),
    a.command.query = false → a.command.failed = false → a.command.argument = some d.text →
    f.Unqueued → a.IntegerByValue f min max d.value := by
  intro hall
  let d := digitsNumeral "4294967297" (by decide) (List.all_eq_true.mp rfl)
  let a := enabling (.new {}) "4294967297"
  have hargument : a.command.argument = some d.text := by decide +kernel
  have hvalue : nearest d.value = 4294967297 := by decide +kernel
  have hnarrowed : narrowed d.float = 1 := by decide +kernel
  have hbyvalue := hall a .eventStatusEnable 0 255 d rfl rfl hargument
    IntegerSetting.eventStatusEnable.unqueued
  unfold Access.IntegerByValue at hbyvalue
  rw [hvalue, if_neg (by decide), integer_numeral rfl hargument, hnarrowed,
    if_neg (by decide)] at hbyvalue
  obtain ⟨⟨message, hfail⟩, -⟩ := hbyvalue
  exact assign_ne_fail rfl _ _ _ hfail

end Integer

end Norma
