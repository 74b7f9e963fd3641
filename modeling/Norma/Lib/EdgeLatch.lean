import Mathlib.Data.List.Infix

namespace EdgeLatch

def edge (positive negative before after : Bool) : Bool :=
  (!before && after && positive) || (before && !after && negative)

-- What a latch that only looks now and then has recorded of one signal.
structure Latch where
  event : Bool
  previous : Bool
  deriving DecidableEq

variable (positive negative : Bool)

def Latch.read (l : Latch) (current : Bool) : Bool :=
  l.event || edge positive negative l.previous current

def Moved {A : Type} (bit : A → Bool) (window : List A) : Prop :=
  ∃ x y, [x, y] <:+: window ∧ edge positive negative (bit x) (bit y) = true

-- A move that the latch has not looked at is taken back.
def Latch.Missed (l : Latch) (before after : Bool) : Prop :=
  l.event = false ∧ before ≠ l.previous ∧ after = l.previous ∧
    (positive = true ∨ negative = true)

section

variable {positive negative} {A : Type} {bit : A → Bool}

@[simp] theorem edge_self (x : Bool) : edge positive negative x x = false := by
  cases x <;> simp [edge]

theorem not_moved_singleton (x : A) : ¬Moved positive negative bit [x] := by
  rintro ⟨y, z, hinfix, -⟩
  have hlength := hinfix.length_le
  simp at hlength

theorem moved_append_singleton {window : List A} {x : A} (hlast : window.getLast? = some x)
    (y : A) : Moved positive negative bit (window ++ [y]) ↔
      Moved positive negative bit window ∨ edge positive negative (bit x) (bit y) = true := by
  obtain ⟨front, rfl⟩ := List.getLast?_eq_some_iff.mp hlast
  constructor
  · rintro ⟨u, v, hinfix, hedge⟩
    rcases List.infix_concat_iff.mp hinfix with hsuffix | hold
    · have hsplit : [u, v] <:+ front ++ [x, y] := by simpa using hsuffix
      have htail : [x, y] <:+ front ++ [x, y] := List.suffix_append front [x, y]
      have hpair : [u, v] = [x, y] :=
        List.IsSuffix.eq_of_length (List.suffix_of_suffix_length_le hsplit htail (by simp)) rfl
      obtain ⟨rfl, rfl⟩ : u = x ∧ v = y := by simpa using hpair
      exact .inr hedge
    · exact .inl ⟨u, v, hold, hedge⟩
  · rintro (⟨u, v, hinfix, hedge⟩ | hedge)
    · exact ⟨u, v, hinfix.trans (List.prefix_append _ _).isInfix, hedge⟩
    · exact ⟨x, y, ⟨front, [], by simp⟩, hedge⟩

theorem Latch.read_step (l : Latch) (before after : Bool) :
    l.read positive negative after =
        (l.read positive negative before || edge positive negative before after) ↔
      ¬l.Missed positive negative before after := by
  rcases l with ⟨event, previous⟩
  revert event previous before after positive negative
  simp only [Latch.read, Latch.Missed, edge]
  decide

end

end EdgeLatch
