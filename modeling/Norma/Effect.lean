import Norma.Dispatch

namespace Norma

open ErrorCode

structure Kept (before after : NormaSimulator) : Prop where
  options : after.options = before.options
  signal : after.signal = before.signal
  errors : after.state.errors <:+ before.state.errors

namespace Kept

theorem refl (sim : NormaSimulator) : Kept sim sim := ⟨rfl, rfl, List.suffix_refl _⟩

theorem trans {a b c : NormaSimulator} (hab : Kept a b) (hbc : Kept b c) : Kept a c :=
  ⟨hbc.options.trans hab.options, hbc.signal.trans hab.signal, hbc.errors.trans hab.errors⟩

theorem reset (sim : NormaSimulator) : Kept sim sim.reset := ⟨rfl, rfl, List.suffix_refl _⟩

theorem clearStatus (sim : NormaSimulator) : Kept sim sim.clearStatus :=
  ⟨rfl, rfl, List.nil_suffix⟩

theorem set {A : Type} (sim : NormaSimulator) (f : Setting A) (v : A) :
    Kept sim { sim with state := f.set sim.state v } :=
  ⟨rfl, rfl, by simp⟩

theorem latchEvent (sim : NormaSimulator) (reg : StatusRegister) :
    Kept sim (sim.latchEvent reg) :=
  set sim (registerState reg) _

theorem assign {A : Type} (a : Access) (f : Setting A) (v : A) : Kept a.sim (a.assign f v).sim :=
  set a.sim f v

end Kept

inductive Effect (a : Access) : Access → Prop where
  | rejected (code : Int) (message : Text) (hcode : code ∈ raised) :
      Effect a (a.fail code message)
  | answered (sim : NormaSimulator) (text : Text) (hquery : a.command.query = true)
      (hkept : Kept a.sim sim) :
      Effect a ⟨sim, { a.command with response := some text }⟩
  | applied (sim : NormaSimulator) (hset : a.command.query = false) (hkept : Kept a.sim sim) :
      Effect a ⟨sim, a.command⟩

variable {a b : Access}

theorem Stored.errors {state : State} (h : Stored a state) :
    state.errors = a.sim.state.errors := by
  cases h <;> simp

theorem Kept.stored {state : State} (h : Stored a state) : Kept a.sim { a.sim with state } :=
  ⟨rfl, rfl, by simp [h.errors]⟩

theorem Effect.nextError (hquery : a.command.query = true) : Effect a a.nextError := by
  unfold Access.nextError
  split
  · exact .answered a.sim _ hquery (.refl a.sim)
  · next entry rest herrors =>
    exact .answered _ _ hquery ⟨rfl, rfl, by simp [Access.update, herrors]⟩

theorem Effect.allErrors (hquery : a.command.query = true) : Effect a a.allErrors := by
  unfold Access.allErrors
  split
  · exact .answered a.sim _ hquery (.refl a.sim)
  · exact .answered _ _ hquery ⟨rfl, rfl, List.nil_suffix⟩

theorem Effect.operationComplete (hset : a.command.query = false) :
    Effect a a.operationComplete := by
  rw [Access.operationComplete, if_neg (by simp [hset])]
  exact .applied _ hset ⟨rfl, rfl, List.suffix_refl _⟩

theorem Change.effect (h : Change a b) : Effect a b := by
  cases h with
  | rejected code message hcode => exact .rejected code message hcode
  | answered text hquery => exact .answered a.sim text hquery (.refl a.sim)
  | measured text hquery => exact .answered _ text hquery (.assign a _ _)
  | stored hset hstored => exact .applied _ hset (.stored hstored)
  | reset hkey hset => exact .applied _ hset (.reset a.sim)
  | clearStatus hkey hset => exact .applied _ hset (.clearStatus a.sim)
  | operationComplete hkey hset => exact .operationComplete hset
  | readEventStatus hkey hquery => exact .answered _ _ hquery ⟨rfl, rfl, List.suffix_refl _⟩
  | statusByte hkey hquery => exact .answered _ _ hquery (.latchEvent a.sim _)
  | event reg hkey hquery =>
    exact .answered _ _ hquery ((Kept.latchEvent a.sim reg).trans (.set _ _ _))
  | nextError hkey hquery => exact .nextError hquery
  | allErrors hkey hquery => exact .allErrors hquery

end Norma
