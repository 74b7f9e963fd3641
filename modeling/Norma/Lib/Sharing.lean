import Mathlib.Data.List.Basic

namespace Sharing

variable {I A : Type} [DecidableEq I]

def shareOf (i : I) (log : List (I × A)) : List A :=
  (log.filter fun entry => entry.1 = i).map Prod.snd

@[simp] theorem shareOf_nil (i : I) : shareOf i ([] : List (I × A)) = [] := rfl

@[simp] theorem shareOf_take_self (i : I) (log : List (I × A)) (a : A) :
    shareOf i (log ++ [(i, a)]) = shareOf i log ++ [a] := by
  simp [shareOf]

theorem shareOf_take_other {i j : I} (h : j ≠ i) (log : List (I × A)) (a : A) :
    shareOf i (log ++ [(j, a)]) = shareOf i log := by
  simp [shareOf, h]

theorem shareOf_sublist (i : I) (log : List (I × A)) :
    (shareOf i log).Sublist (log.map Prod.snd) :=
  List.filter_sublist.map Prod.snd

end Sharing
