import Norma.ErrorFifo
import Norma.Lib.Bits

namespace Norma

open ErrorCode Bits

abbrev CommandError (code : Int) : Prop := -199 ≤ code ∧ code ≤ -100

abbrev ExecutionError (code : Int) : Prop := -299 ≤ code ∧ code ≤ -200

def NormaSimulator.commandBit (sim : NormaSimulator) : Bool := sim.state.eventStatus.testBit 5

def NormaSimulator.executionBit (sim : NormaSimulator) : Bool := sim.state.eventStatus.testBit 4

structure ShowsClass (before after : NormaSimulator) (code : Int) : Prop where
  command : CommandError code → after.commandBit = true
  execution : ExecutionError code → after.executionBit = true
  notExecution : CommandError code → before.executionBit = false → after.executionBit = false
  notCommand : ExecutionError code → before.commandBit = false → after.commandBit = false

section Bits

variable (state : State) (code : Int) (message : Text)

theorem pushError_eventStatus : (state.pushError code message).eventStatus =
    if state.errors.length < kErrorQueueSize then Int.lor state.eventStatus (2 ^ 5)
    else state.eventStatus := by
  unfold SimulatorState.pushError
  split
  · next hfull => rw [if_neg (Nat.not_lt.mpr hfull)]
  · next hroom => rw [if_pos (Nat.not_le.mp hroom)]

theorem pushError_testBit (b : Nat) : (state.pushError code message).eventStatus.testBit b =
    (state.eventStatus.testBit b ||
      decide (state.errors.length < kErrorQueueSize) && decide (5 = b)) := by
  rw [pushError_eventStatus]
  split
  · next hroom => rw [Int.testBit_lor, testBit_two_pow, decide_eq_true hroom, Bool.true_and]
  · next hfull => simp [hfull]

theorem raised_class {code : Int} (hcode : code ∈ raised) :
    CommandError code ∧ ¬ExecutionError code ∨ ¬CommandError code ∧ ExecutionError code := by
  have hrange : ∀ code ∈ raised, (-199 ≤ code ∧ code ≤ -100) ∨ -299 ≤ code ∧ code ≤ -200 := by
    decide
  unfold CommandError ExecutionError
  rcases hrange code hcode with h | h <;> omega

theorem Stored.eventStatus {a : Access} {state : State} (h : Stored a state) :
    state.eventStatus = a.sim.state.eventStatus := by
  cases h <;> simp

end Bits

section Runs

theorem Change.executionBit {a b : Access} (h : Change a b)
    (hclear : a.sim.executionBit = false) : b.sim.executionBit = false := by
  unfold NormaSimulator.executionBit at hclear ⊢
  cases h with
  | rejected code message =>
    refine (pushError_testBit a.sim.state code message 4).trans ?_
    simpa using hclear
  | answered => exact hclear
  | measured => exact hclear
  | @stored state hset hstored =>
    change state.eventStatus.testBit 4 = false
    rw [hstored.eventStatus, hclear]
  | reset => exact zero_testBit 4
  | clearStatus => exact zero_testBit 4
  | operationComplete hkey hset =>
    rw [Access.operationComplete, if_neg (by simp [hset])]
    change (Int.lor a.sim.state.eventStatus (2 ^ 0)).testBit 4 = false
    rw [Int.testBit_lor, hclear, testBit_two_pow]
    rfl
  | readEventStatus => exact zero_testBit 4
  | statusByte => exact hclear
  | event reg => cases reg <;> exact hclear
  | nextError =>
    unfold Access.nextError
    split <;> exact hclear
  | allErrors =>
    unfold Access.allErrors
    split <;> exact hclear

theorem Move.executionBit (move : Move) (hvalid : move.Valid)
    (hclear : move.before.executionBit = false) : move.after.executionBit = false := by
  cases move with
  | command step =>
    have hchange := handleCommand_change hvalid
    simp only [Move.after]
    generalize step.after = out at hchange
    cases hchange with
    | undefined rest =>
      refine (pushError_testBit _ _ _ 4).trans ?_
      simpa using show step.before.state.eventStatus.testBit 4 = false from hclear
    | changed rest _ _ _ _ _ _ hchange => exact hchange.executionBit hclear
  | signal sim given => exact hclear

theorem Reachable.executionBit {sim : NormaSimulator} (h : Reachable sim) :
    sim.executionBit = false :=
  h.invariant (fun sim => sim.executionBit = false) (fun _ => zero_testBit 4) Move.executionBit

theorem shows_class_iff {start : NormaSimulator} (hstart : Reachable start) {moves : List Move}
    (husage : Usage start moves) {step : Step} (hstep : .command step ∈ moves)
    (hfailed : step.after.stop = true) :
    ∃ entry, step.reported = some entry ∧
      (ShowsClass step.before step.after.sim entry.code ↔ CommandError entry.code ∧
        (step.before.state.errors.length < kErrorQueueSize ∨ step.before.commandBit = true)) := by
  have hlinked := husage.linked
  have hclear : step.before.executionBit = false :=
    hlinked.invariant (fun sim => sim.executionBit = false) Move.executionBit
      hstart.executionBit _ hstep
  obtain ⟨front, back, rfl⟩ := List.append_of_mem hstep
  obtain ⟨-, hvalid, -⟩ := (linked_append.mp hlinked).2
  rcases Step.Valid.reported hvalid with ⟨entry, hentry, hcode, -, hsim⟩ | ⟨-, hstop⟩
  · refine ⟨entry, hentry, ?_⟩
    have hcommand : step.after.sim.commandBit = (step.before.commandBit ||
        decide (step.before.state.errors.length < kErrorQueueSize)) := by
      rw [hsim]
      refine (pushError_testBit _ _ _ 5).trans ?_
      simp [NormaSimulator.commandBit]
    have hexecution : step.after.sim.executionBit = false :=
      Move.executionBit (.command step) hvalid hclear
    constructor
    · intro h
      rcases raised_class hcode with ⟨hclass, -⟩ | ⟨-, hclass⟩
      · refine ⟨hclass, ?_⟩
        have hset := h.command hclass
        rw [hcommand] at hset
        simpa [or_comm] using hset
      · rw [h.execution hclass] at hexecution
        cases hexecution
    · rintro ⟨hclass, hroom⟩
      have hother : ¬ExecutionError entry.code := by
        unfold CommandError at hclass
        unfold ExecutionError
        omega
      refine ⟨fun _ => ?_, fun h => absurd h hother, fun _ _ => hexecution,
        fun h => absurd h hother⟩
      rw [hcommand]
      simpa [or_comm] using hroom
  · rw [hfailed] at hstop
    cases hstop

theorem bogus_shows_class : ∃ moves step, Usage (.new {}) moves ∧ .command step ∈ moves ∧
    step.after.stop = true ∧ ∃ entry, step.reported = some entry ∧
      ShowsClass step.before step.after.sim entry.code := by
  let step : Step := ⟨.new {}, [], "*BOGUS", undefinedHeader (.new {}) [] "*BOGUS"⟩
  have hout : handleCommand (.new {}) [] "*BOGUS" = some step.after := rfl
  have husage := Usage.command (by decide +kernel) (by decide +kernel) (by decide) hout (.done _)
  have hstep : Move.command step ∈ [Move.command step] := by simp
  obtain ⟨entry, hentry, hiff⟩ := shows_class_iff (.new {}) husage hstep rfl
  have hreported : step.reported =
      some ⟨kUndefinedHeader, "Undefined header;*BOGUS"⟩ := rfl
  obtain rfl := Option.some.inj (hentry.symm.trans hreported)
  exact ⟨_, step, husage, hstep, rfl, _, hentry,
    hiff.mpr ⟨by decide +kernel, .inl (by decide +kernel)⟩⟩

theorem handleCommand_wiring (sim : NormaSimulator) : ∃ path,
    handleCommand sim [] "ROUT:SYST 5W" = some
      ⟨sim.pushError kIllegalParameterValue "Illegal parameter value;5W", path, none, true⟩ := by
  have hparse : parseCommand "ROUT:SYST 5W" = ⟨"ROUT:SYST", false, ["5W"]⟩ := by decide +kernel
  have hheader : Addresses "ROUT:SYST" .routSyst [] := by decide +kernel
  exact handleCommand_runs hparse hheader rfl

theorem wiring_error_unseen : ¬∀ start, Reachable start → ∀ moves, Usage start moves →
    ∀ step, .command step ∈ moves → ∀ entry, step.reported = some entry →
      ShowsClass step.before step.after.sim entry.code := by
  intro h
  let sim : NormaSimulator := .new {}
  obtain ⟨path, hout⟩ := handleCommand_wiring sim
  obtain ⟨path', hempty⟩ := handleCommand_wiring (sim.withErrors [])
  have husage := Usage.command (by decide +kernel) (by decide +kernel) (by decide) hout (.done _)
  let entry : ScpiErrorInfo := ⟨kIllegalParameterValue, "Illegal parameter value;5W"⟩
  have hreported : Step.reported ⟨sim, [], "ROUT:SYST 5W",
      ⟨sim.pushError entry.code entry.message, path, none, true⟩⟩ = some entry := by
    simp only [Step.reported, hempty]
    rfl
  have hshows := h sim (.new {}) _ husage _ (List.mem_singleton.mpr rfl) entry hreported
  have hset := hshows.execution (by decide +kernel)
  have hclear : (sim.pushError entry.code entry.message).executionBit = false := by decide +kernel
  exact absurd (hset.symm.trans hclear) (by decide)

end Runs

end Norma
