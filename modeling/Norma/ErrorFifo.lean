import Norma.Failure
import Norma.ReadOnly
import Norma.EventLatch
import Norma.Lib.BoundedQueue

namespace Norma

open ErrorCode BoundedQueue
open ScpiClient

namespace Step

variable (step : Step)

def reported : Option ScpiErrorInfo :=
  (handleCommand (step.before.withErrors []) step.path step.text).bind fun out =>
    out.sim.state.errors.head?

def event : Event ScpiErrorInfo :=
  match step.reported with
  | some entry => .push entry
  | none =>
      if step.key = Key.systErr.text then .pop
      else if step.key = Key.systErrAll.text ∨ step.key = "*CLS" then .clear
      else .keep

end Step

def Move.event : Move → Event ScpiErrorInfo
  | .command step => step.event
  | .signal _ _ => .keep

def overflowEntry : ScpiErrorInfo := ⟨kQueueOverflow, "Queue overflow"⟩

section Steps

theorem pushError_errors (state : State) (code : Int) (message : Text) :
    (state.pushError code message).errors =
      push kErrorQueueSize overflowEntry state.errors ⟨code, message⟩ := by
  unfold SimulatorState.pushError push
  split <;> rfl

variable {step : Step}

theorem Step.Valid.reported (h : step.Valid) :
    (∃ entry, step.reported = some entry ∧ entry.code ∈ raised ∧ step.after.stop = true ∧
        step.after.sim = step.before.pushError entry.code entry.message) ∨
      step.reported = none ∧ step.after.stop = false := by
  obtain ⟨out', hout', hsame⟩ := handleCommand_sameFailure [] h
  have hreported : step.reported = out'.sim.state.errors.head? := by
    rw [Step.reported, hout', Option.bind_some]
  cases hsame with
  | failed code message hcode hstop hsim hsim' =>
    refine .inl ⟨⟨code, message⟩, ?_, hcode, hstop, hsim⟩
    rw [hreported, hsim']
    rfl
  | passed hstop hstop' =>
    refine .inr ⟨?_, hstop⟩
    have hkept := (handleCommand_effect hout').kept_of_continue hstop'
    rw [hreported, List.suffix_nil.mp hkept.errors]
    rfl

theorem handleCommand_asks {path : List Token} {text : Text} {out : Outcome} {key : Key}
    {sim : NormaSimulator} {body : Access → Access}
    (hexecute : ∀ a, execute key a = some (a.queryOnly (body a)))
    (hunique : ∀ spec ∈ commandSpecs, spec.key.text = key.text → spec.key = key)
    (hkey : commandKey path text = key.text) (h : handleCommand sim path text = some out)
    (hstop : out.stop = false) : (parseCommand text).query = true := by
  obtain ⟨command, rest, hcommand, -, -, hrun⟩ := handleCommand_of_key sim hunique hkey
  rw [hexecute, Option.map_some, h, Option.some.injEq, Access.queryOnly, hcommand] at hrun
  by_contra hset
  rw [if_neg hset] at hrun
  rw [hrun] at hstop
  cases hstop

theorem handleCommand_clears_passed {path : List Token} {text : Text} {out : Outcome}
    {sim : NormaSimulator} (hkey : commandKey path text = "*CLS")
    (h : handleCommand sim path text = some out) (hstop : out.stop = false) :
    out.sim = sim.clearStatus := by
  have hdone (a : Access) : handleCommon "*CLS" a = .done (a.commandOnly a.clearStatus) := rfl
  obtain ⟨command, -, hout⟩ := handleCommand_common sim hdone rfl hkey
  obtain rfl := Option.some.inj (h.symm.trans hout)
  unfold Access.commandOnly at hstop ⊢
  split at hstop
  · cases hstop
  · next hset =>
    rw [if_neg hset]
    rfl

theorem Change.errors_kept {a b : Access} (h : Change a b) (hfailed : b.command.failed = false)
    (hnext : a.command.key ≠ Key.systErr.text) (hall : a.command.key ≠ Key.systErrAll.text)
    (hclear : a.command.key ≠ "*CLS") : b.sim.state.errors = a.sim.state.errors := by
  cases h with
  | rejected => cases hfailed
  | answered => rfl
  | measured => rfl
  | stored hset hstored => exact hstored.errors
  | reset => rfl
  | clearStatus hkey => exact absurd hkey hclear
  | operationComplete =>
    unfold Access.operationComplete
    split <;> rfl
  | readEventStatus => rfl
  | statusByte => rfl
  | event reg => cases reg <;> rfl
  | nextError hkey => exact absurd hkey hnext
  | allErrors hkey => exact absurd hkey hall

theorem Step.Valid.errors (h : step.Valid) : step.after.sim.state.errors =
    BoundedQueue.step kErrorQueueSize overflowEntry step.before.state.errors step.event := by
  rcases h.reported with ⟨entry, hentry, -, -, hsim⟩ | ⟨hnone, hstop⟩
  · rw [Step.event, hentry, hsim]
    exact pushError_errors _ _ _
  · rw [Step.event, hnone]
    dsimp only
    split
    · next hkey =>
      have hquery := handleCommand_asks (fun _ => rfl) (key_of_text _ (by simp)) hkey h hstop
      rw [handleCommand_nextError hquery hkey h]
      rfl
    · next hnext =>
      split
      · next hkey =>
        rcases hkey with hall | hclear
        · have hquery := handleCommand_asks (fun _ => rfl) (key_of_text _ (by simp)) hall h hstop
          rw [handleCommand_allErrors hquery hall h]
          rfl
        · rw [handleCommand_clears_passed hclear h hstop]
          rfl
      · next hother =>
        rw [not_or] at hother
        generalize hout : step.after = out at hstop
        have hchange := handleCommand_change h
        rw [hout] at hchange
        cases hchange with
        | undefined rest => cases hstop
        | changed rest hkey _ _ _ _ _ hchange =>
          exact hchange.errors_kept hstop (hkey ▸ hnext) (hkey ▸ hother.1) (hkey ▸ hother.2)

theorem Move.errors {move : Move} (h : move.Valid) : move.after.state.errors =
    BoundedQueue.step kErrorQueueSize overflowEntry move.before.state.errors move.event := by
  cases move with
  | command step => exact Step.Valid.errors h
  | signal sim given => rfl

theorem Linked.errors {sim : NormaSimulator} {moves : List Move} (h : Linked sim moves) :
    (endOf sim moves).state.errors =
      run kErrorQueueSize overflowEntry sim.state.errors (moves.map Move.event) := by
  induction moves generalizing sim with
  | nil => rfl
  | cons move moves ih =>
    obtain ⟨rfl, hvalid, hrest⟩ := h
    rw [endOf_cons, ih hrest, List.map_cons, run_cons, Move.errors hvalid]

end Steps

section Reading

theorem drainErrors_busy {client : SimulatorClient} (hidle : client.Idle)
    {errors : List ScpiErrorInfo} (herrors : client.sim.state.errors = errors)
    (hcodes : ∀ entry ∈ errors, entry.code ∈ queued) {n : Nat} (hn : n ≤ errors.length)
    (drained : List ScpiErrorInfo) :
    ∃ message after, drainErrors n drained client = some (.error (.protocol message), after) := by
  induction errors generalizing client n drained with
  | nil =>
    obtain rfl := Nat.le_zero.mp hn
    exact ⟨_, _, rfl⟩
  | cons entry errors ih =>
    cases n with
    | zero => exact ⟨_, _, rfl⟩
    | succ n =>
      have hcode := hcodes entry (by simp)
      have hline := handleLine_systErr client.sim
      rw [herrors] at hline
      have hquery := query_idle hidle (by decide +kernel) hline
      rw [drainErrors, Session.bind_ok hquery,
        Session.bind_ofExcept_ok (parseError_errorText hcode),
        if_neg (queued_codes entry.code hcode).2.1]
      exact ih (hidle.withSim (client.sim.withErrors errors)) rfl
        (fun e he => hcodes e (by simp [he])) (by simpa using hn) _

def DrainsWithin (client : SimulatorClient) (reads : Nat) : Prop :=
  ∃ errors after, drainErrors reads [] client = some (.ok errors, after)

theorem drainsWithin_iff {client : SimulatorClient} (hidle : client.Idle)
    (hqueue : QueueValid client.sim.state.errors) (reads : Nat) :
    DrainsWithin client reads ↔ client.sim.state.errors.length + 1 ≤ reads := by
  constructor
  · rintro ⟨errors, after, hdrain⟩
    by_contra hshort
    obtain ⟨message, after', hfault⟩ :=
      drainErrors_busy hidle rfl hqueue.codes (show reads ≤ _ by omega) []
    rw [hfault] at hdrain
    cases hdrain
  · intro hlong
    exact ⟨_, _, drainErrors_idle hidle rfl hqueue.codes hlong []⟩

theorem decodedEntry_codes (errors : List ScpiErrorInfo) :
    (errors.map decodedEntry).map (·.code) = errors.map (·.code) := by
  rw [List.map_map]
  rfl

theorem error_queue_fifo {client : SimulatorClient} (hidle : client.Idle)
    (hreachable : Reachable client.sim) {moves : List Move} (husage : Usage client.sim moves) :
    (∀ n, (endOf client.sim (moves.take n)).state.errors =
          run kErrorQueueSize overflowEntry client.sim.state.errors
            ((moves.take n).map Move.event) ∧
        (endOf client.sim (moves.take n)).state.errors.length ≤ kErrorQueueSize) ∧
      (∀ step, .command step ∈ moves → (step.after.stop = true ↔ step.reported ≠ none)) ∧
      DrainsWithin client (client.sim.state.errors.length + 1) ∧
      ¬DrainsWithin client client.sim.state.errors.length ∧
      ∃ errors after, readAllErrors client = some (.ok errors, after) ∧
        errors.map (·.code) = client.sim.state.errors.map (·.code) ∧
        after.sim.state.errors = [] := by
  have hqueue := hreachable.queueValid
  have hlinked := husage.linked
  refine ⟨fun n => ?_, fun step hstep => ?_, ?_, ?_, ?_⟩
  · have hsplit := hlinked
    rw [← List.take_append_drop n moves, linked_append] at hsplit
    have herrors := hsplit.1.errors
    refine ⟨herrors, ?_⟩
    rw [herrors]
    exact run_length_le (by decide) hqueue.length_le _
  · obtain ⟨front, back, rfl⟩ := List.append_of_mem hstep
    obtain ⟨-, hvalid, -⟩ := (linked_append.mp hlinked).2
    rcases Step.Valid.reported hvalid with ⟨entry, hentry, -, hstop, -⟩ | ⟨hnone, hstop⟩
    · simp [hentry, hstop]
    · simp [hnone, hstop]
  · exact (drainsWithin_iff hidle hqueue _).mpr (Nat.le_refl _)
  · exact fun h => absurd ((drainsWithin_iff hidle hqueue _).mp h) (by omega)
  · exact ⟨_, _, readErrors_idle hidle hqueue, decodedEntry_codes _, rfl⟩

def undefinedOnce : NormaSimulator := (undefinedHeader (.new {}) [] "*BOGUS").sim

theorem reachable_undefinedOnce : Reachable undefinedOnce := by
  have hline : (NormaSimulator.new {}).handleLine "*BOGUS" = some (undefinedOnce, none) := rfl
  exact .line (.new {}) "*BOGUS" hline

theorem undefined_header_drained :
    ∃ moves : List Move, Usage (opened undefinedOnce).sim moves ∧ moves ≠ [] ∧
      ¬DrainsWithin (opened undefinedOnce) 1 ∧
      ∃ errors after, readAllErrors (opened undefinedOnce) = some (.ok errors, after) ∧
        errors.map (·.code) = [-113] ∧ after.sim.state.errors = [] := by
  have hline : executed undefinedOnce [] (splitUnquoted "*NONE" ';') = some
      [⟨undefinedOnce, [], "*NONE", undefinedHeader undefinedOnce [] "*NONE"⟩] := rfl
  have husage : Usage undefinedOnce _ := .line "*NONE" hline (.done _)
  obtain ⟨-, -, -, hleast, errors, after, hread, hcodes, hempty⟩ :=
    error_queue_fifo (idle_opened undefinedOnce) reachable_undefinedOnce husage
  exact ⟨_, husage, by simp, hleast, errors, after, hread, hcodes, hempty⟩

end Reading

end Norma
