import Mathlib.Data.List.Basic

namespace BoundedQueue

variable {A : Type}

inductive Event (A : Type) where
  | push (entry : A)
  | pop
  | clear
  | keep

-- A full queue gives up its newest entry for the mark that something was lost.
def push (capacity : Nat) (overflow : A) (queue : List A) (entry : A) : List A :=
  if capacity ≤ queue.length then queue.dropLast ++ [overflow] else queue ++ [entry]

def step (capacity : Nat) (overflow : A) (queue : List A) : Event A → List A
  | .push entry => push capacity overflow queue entry
  | .pop => queue.tail
  | .clear => []
  | .keep => queue

def capped (capacity : Nat) (overflow : A) (entries : List A) : List A :=
  if entries.length ≤ capacity then entries else entries.take (capacity - 1) ++ [overflow]

def run (capacity : Nat) (overflow : A) (queue : List A) (events : List (Event A)) : List A :=
  events.foldl (step capacity overflow) queue

section

variable {capacity : Nat} {overflow : A} {queue : List A}

@[simp] theorem run_nil : run capacity overflow queue [] = queue := rfl

@[simp] theorem run_cons (event : Event A) (events : List (Event A)) :
    run capacity overflow queue (event :: events) =
      run capacity overflow (step capacity overflow queue event) events := rfl

theorem push_length_le (hcapacity : 0 < capacity) (h : queue.length ≤ capacity) (entry : A) :
    (push capacity overflow queue entry).length ≤ capacity := by
  unfold push
  split
  · simp only [List.length_append, List.length_dropLast, List.length_singleton]
    omega
  · next hroom =>
    simp only [List.length_append, List.length_singleton]
    omega

theorem step_length_le (hcapacity : 0 < capacity) (h : queue.length ≤ capacity)
    (event : Event A) : (step capacity overflow queue event).length ≤ capacity := by
  cases event with
  | push entry => exact push_length_le hcapacity h entry
  | pop => exact Nat.le_trans queue.tail_sublist.length_le h
  | clear => exact Nat.zero_le _
  | keep => exact h

theorem run_length_le (hcapacity : 0 < capacity) (h : queue.length ≤ capacity)
    (events : List (Event A)) : (run capacity overflow queue events).length ≤ capacity := by
  induction events generalizing queue with
  | nil => exact h
  | cons event events ih => exact ih (step_length_le hcapacity h event)

theorem capped_eq_nil {entries : List A} :
    capped capacity overflow entries = [] ↔ entries = [] := by
  unfold capped
  split
  · rfl
  · next hlong =>
    refine ⟨fun h => absurd h (by simp), ?_⟩
    rintro rfl
    exact absurd (Nat.zero_le capacity) hlong

theorem push_full (hcapacity : 0 < capacity) (h : queue.length = capacity) (entry : A)
    (entries : List A) : capped capacity overflow (push capacity overflow queue entry ++ entries) =
      capped capacity overflow (queue ++ entry :: entries) := by
  have htake : (queue.dropLast ++ [overflow] ++ entries).take (capacity - 1) = queue.dropLast := by
    rw [List.append_assoc, List.take_append_of_le_length (by simp [h]), List.take_of_length_le (by simp [h])]
  have htake' : (queue ++ entry :: entries).take (capacity - 1) = queue.dropLast := by
    rw [List.take_append_of_le_length (by omega), ← h, List.dropLast_eq_take]
  have hlong : ¬(queue ++ entry :: entries).length ≤ capacity := by
    simp only [List.length_append, List.length_cons]
    omega
  rw [push, if_pos (Nat.le_of_eq h.symm), capped, capped, if_neg hlong, htake, htake']
  split
  · next hfits =>
    have hnone : entries = [] := by
      simp only [List.length_append, List.length_dropLast, List.length_singleton] at hfits
      exact List.length_eq_zero_iff.mp (by omega)
    simp [hnone]
  · rfl

theorem foldl_push (hcapacity : 0 < capacity) (h : queue.length ≤ capacity) (entries : List A) :
    entries.foldl (push capacity overflow) queue = capped capacity overflow (queue ++ entries) := by
  induction entries generalizing queue with
  | nil => simp [capped, h]
  | cons entry entries ih =>
    rw [List.foldl_cons, ih (push_length_le hcapacity h entry)]
    by_cases hfull : queue.length = capacity
    · exact push_full hcapacity hfull entry entries
    · have hroom : ¬capacity ≤ queue.length := by omega
      rw [push, if_neg hroom, List.append_assoc, List.singleton_append]
end

end BoundedQueue
