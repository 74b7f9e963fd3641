import Norma.Lib.Lens

-- A state seen as a memory of cells with values of different types.
structure Cells (S R : Type) (V : R → Type) where
  cell : (r : R) → Lens S (V r)
  independent : ∀ {r other : R}, other ≠ r → ∀ (s : S) (v : V r),
    (cell other).get ((cell r).set s v) = (cell other).get s

namespace Cells

variable {S R : Type} {V : R → Type} (cells : Cells S R V)

def view (s : S) : (r : R) → V r := fun r => (cells.cell r).get s

theorem view_set [DecidableEq R] (r : R) (s : S) (v : V r) :
    cells.view ((cells.cell r).set s v) = Function.update (cells.view s) r v := by
  funext other
  by_cases h : other = r
  · subst h
    rw [Function.update_self]
    exact (cells.cell other).get_set s v
  · rw [Function.update_of_ne h]
    exact cells.independent h s v

end Cells

-- A machine that answers calls; `none` when a call does not return.
structure Machine (S C O : Type) where
  step : S → C → Option (O × S)

namespace Machine

variable {S S' C O : Type}

def run (machine : Machine S C O) (s : S) : List C → Option (List O × S)
  | [] => some ([], s)
  | call :: calls =>
      match machine.step s call with
      | none => none
      | some (out, after) => (run machine after calls).map fun (outs, final) => (out :: outs, final)

theorem run_cons {machine : Machine S C O} {s final : S} {call : C} {calls : List C}
    {outs : List O} (h : machine.run s (call :: calls) = some (outs, final)) :
    ∃ out after rest, machine.step s call = some (out, after) ∧
      machine.run after calls = some (rest, final) ∧ outs = out :: rest := by
  cases hstep : machine.step s call with
  | none => simp [run, hstep] at h
  | some found =>
    obtain ⟨out, after⟩ := found
    simp only [run, hstep] at h
    obtain ⟨⟨rest, last⟩, hrest, hpair⟩ := Option.map_eq_some_iff.mp h
    cases hpair
    exact ⟨out, after, rest, rfl, hrest, rfl⟩

theorem run_preserves {machine : Machine S C O} {P : S → Prop} {Allowed : C → Prop}
    (hstep : ∀ {s call out after}, P s → Allowed call → machine.step s call = some (out, after) →
      P after) {calls : List C} (hcalls : ∀ call ∈ calls, Allowed call) {s final : S}
    {outs : List O} (hs : P s) (hrun : machine.run s calls = some (outs, final)) : P final := by
  induction calls generalizing s outs with
  | nil =>
    cases hrun
    exact hs
  | cons call calls ih =>
    obtain ⟨out, after, rest, hfirst, hrest, -⟩ := run_cons hrun
    exact ih (fun other hother => hcalls other (by simp [hother]))
      (hstep hs (hcalls call (by simp)) hfirst) hrest

structure Refines (machine : Machine S C O) (model : Machine S' C O) (Related : S → S' → Prop)
    (Allowed : C → Prop) : Prop where
  step : ∀ {s s' call}, Related s s' → Allowed call → ∃ out after after',
    machine.step s call = some (out, after) ∧ model.step s' call = some (out, after') ∧
      Related after after'

theorem Refines.run {machine : Machine S C O} {model : Machine S' C O} {Related : S → S' → Prop}
    {Allowed : C → Prop} (h : machine.Refines model Related Allowed) {calls : List C}
    (hcalls : ∀ call ∈ calls, Allowed call) {s : S} {s' : S'} (hs : Related s s') :
    ∃ outs after after', machine.run s calls = some (outs, after) ∧
      model.run s' calls = some (outs, after') ∧ Related after after' := by
  induction calls generalizing s s' with
  | nil => exact ⟨[], s, s', rfl, rfl, hs⟩
  | cons call calls ih =>
    obtain ⟨out, after, after', hstep, hmodel, hafter⟩ := h.step hs (hcalls call (by simp))
    obtain ⟨outs, final, final', hrun, hrun', hfinal⟩ :=
      ih (fun other hother => hcalls other (by simp [hother])) hafter
    exact ⟨out :: outs, final, final', by simp [Machine.run, hstep, hrun],
      by simp [Machine.run, hmodel, hrun'], hfinal⟩

end Machine
