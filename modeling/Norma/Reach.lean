import Norma.Compound

namespace Norma

open ErrorCode

inductive Reachable : NormaSimulator → Prop where
  | new (options : SimulatorOptions) : Reachable (.new options)
  | line {sim after : NormaSimulator} {response : Option Text} (hsim : Reachable sim) (line : Text)
      (hline : sim.handleLine line = some (after, response)) : Reachable after
  | signal {sim : NormaSimulator} (hsim : Reachable sim) (signal : SimulatedSignal Float) :
      Reachable { sim with signal }

def queued : List Int := kQueueOverflow :: raised

structure QueueValid (errors : List ScpiErrorInfo) : Prop where
  codes : ∀ entry ∈ errors, entry.code ∈ queued
  length_le : errors.length ≤ kErrorQueueSize

namespace QueueValid

variable {errors : List ScpiErrorInfo}

theorem suffix {rest : List ScpiErrorInfo} (h : QueueValid errors) (hrest : rest <:+ errors) :
    QueueValid rest :=
  ⟨fun entry hentry => h.codes entry (hrest.subset hentry), hrest.length_le.trans h.length_le⟩

theorem pushError {state : State} (h : QueueValid state.errors) {code : Int}
    (hcode : code ∈ raised) (message : Text) : QueueValid (state.pushError code message).errors := by
  unfold SimulatorState.pushError
  split
  · next hfull =>
    refine ⟨fun entry hentry => ?_, ?_⟩
    · rcases List.mem_append.mp hentry with hold | hnew
      · exact h.codes entry ((List.dropLast_sublist _).subset hold)
      · rw [List.mem_singleton.mp hnew]
        exact List.mem_cons_self
    · have hlength := h.length_le
      have hpos : 0 < kErrorQueueSize := by decide
      simp only [List.length_append, List.length_dropLast, List.length_singleton]
      omega
  · next hroom =>
    refine ⟨fun entry hentry => ?_, ?_⟩
    · rcases List.mem_append.mp hentry with hold | hnew
      · exact h.codes entry hold
      · rw [List.mem_singleton.mp hnew]
        exact List.mem_cons_of_mem _ hcode
    · simp only [List.length_append, List.length_singleton]
      omega

theorem outcome {sim : NormaSimulator} {query : Bool} {out : Outcome}
    (h : QueueValid sim.state.errors) (heffect : Outcome.Effect sim query out) :
    QueueValid out.sim.state.errors := by
  cases heffect with
  | rejected code message path hcode => exact h.pushError hcode message
  | answered after path text hquery hkept => exact h.suffix hkept.errors
  | applied after path hset hkept => exact h.suffix hkept.errors

theorem finalSim {sim : NormaSimulator} {path : List Token} {steps : List Step}
    (h : QueueValid sim.state.errors) (hchain : Chained sim path steps) :
    QueueValid (finalSim sim steps).state.errors := by
  induction steps generalizing sim path with
  | nil => exact h
  | cons step steps ih =>
    obtain ⟨rfl, -, hvalid, hrest⟩ := hchain
    rw [finalSim_cons]
    exact ih (h.outcome hvalid.effect) hrest

end QueueValid

theorem handleLine_steps {sim after : NormaSimulator} {line : Text} {response : Option Text}
    (h : sim.handleLine line = some (after, response)) :
    ∃ steps, Chained sim [] steps ∧ finalSim sim steps = after := by
  rw [handleLine_eq] at h
  obtain ⟨steps, hsteps, hpair⟩ := Option.map_eq_some_iff.mp h
  exact ⟨steps, executed_chained hsteps, congrArg Prod.fst hpair⟩

theorem Reachable.queueValid {sim : NormaSimulator} (h : Reachable sim) :
    QueueValid sim.state.errors := by
  induction h with
  | new options => exact ⟨by simp [NormaSimulator.new, NormaSimulator.reset, SimulatorState.initial],
      Nat.zero_le _⟩
  | line hsim line hline ih =>
    obtain ⟨steps, hchain, rfl⟩ := handleLine_steps hline
    exact ih.finalSim hchain
  | signal hsim signal ih => exact ih

end Norma
