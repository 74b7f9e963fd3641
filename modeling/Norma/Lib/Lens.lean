import Mathlib.Logic.Function.Basic

structure Lens (S A : Type) where
  get : S → A
  set : S → A → S
  get_set : ∀ s a, get (set s a) = a := by intros; rfl
  set_get : ∀ s, set s (get s) = s := by intros; rfl
  set_set : ∀ s a b, set (set s a) b = set s b := by intros; rfl

namespace Lens

variable {S A B : Type}

attribute [simp] get_set set_get set_set

def focus (l : Lens S A) (m : Lens A B) : Lens S B where
  get s := m.get (l.get s)
  set s b := l.set s (m.set (l.get s) b)
  get_set s b := by simp
  set_get s := by simp
  set_set s b c := by simp

def entry {I : Type} [DecidableEq I] (i : I) : Lens (I → A) A where
  get f := f i
  set f a := Function.update f i a
  get_set f a := Function.update_self i a f
  set_get f := Function.update_eq_self i f
  set_set f a b := Function.update_idem a b f

@[simp] theorem focus_get (l : Lens S A) (m : Lens A B) (s : S) :
    (l.focus m).get s = m.get (l.get s) := rfl

@[simp] theorem focus_set (l : Lens S A) (m : Lens A B) (s : S) (b : B) :
    (l.focus m).set s b = l.set s (m.set (l.get s) b) := rfl

end Lens
