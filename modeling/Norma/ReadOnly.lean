import Norma.ErrorQueue
import Norma.Registers

namespace Norma

def ChangingQuery (key : Text) (args : List Text) : Prop :=
  key ∈ [Key.systErr.text, Key.systErrAll.text, "*ESR", "*STB"] ∨
    (∃ reg, key = (eventKey reg).text) ∨
    ((key = Key.data.text ∨ key = Key.dataStat.text) ∧ args ≠ [])

structure QueryFrame (sim : NormaSimulator) (key : Text) (args : List Text) (out : Outcome) :
    Prop where
  failed : out.stop = true → ∃ errors eventStatus,
    out.sim = { sim with state := { sim.state with errors, eventStatus } }
  kept : out.stop = false → ¬ChangingQuery key args → out.sim = sim
  nextError : key = Key.systErr.text → out.sim = sim.withErrors sim.state.errors.tail
  allErrors : key = Key.systErrAll.text → out.sim = sim.withErrors []
  eventStatus : key = "*ESR" → out.sim = { sim with state := { sim.state with eventStatus := 0 } }
  event : ∀ reg, key = (eventKey reg).text → ∃ event previousCondition, out.sim = { sim with
    state := (registerState reg).set sim.state
      { sim.registers reg with event, previousCondition } }
  statusByte : key = "*STB" → ∃ event previousCondition, out.sim = { sim with
    state := { sim.state with
      questionable := { sim.state.questionable with event, previousCondition } } }
  data : out.stop = false → key = Key.data.text ∨ key = Key.dataStat.text →
    ∃ functions, out.sim = { sim with state := { sim.state with functions } }

section

variable {sim : NormaSimulator} {path : List Token} {text : Text} {out : Outcome}

theorem pushError_frame (state : State) (code : Int) (message : Text) :
    ∃ errors eventStatus,
      state.pushError code message = { state with errors, eventStatus } := by
  unfold SimulatorState.pushError
  split
  · exact ⟨_, state.eventStatus, rfl⟩
  · exact ⟨_, _, rfl⟩

theorem outcome_failed (h : Outcome.Effect sim true out) (hstop : out.stop = true) :
    ∃ errors eventStatus,
      out.sim = { sim with state := { sim.state with errors, eventStatus } } := by
  obtain ⟨-, code, -, message, hsim⟩ := h.rejected_of_stop hstop
  obtain ⟨errors, eventStatus, hstate⟩ := pushError_frame sim.state code message
  exact ⟨errors, eventStatus, by rw [hsim, NormaSimulator.pushError, hstate]⟩

theorem Change.kept {command : Command} {b : Access} (h : Change ⟨sim, command⟩ b)
    (hquery : command.query = true) (hfailed : b.command.failed = false)
    (hplain : ¬ChangingQuery command.key command.args) : b.sim = sim := by
  cases h with
  | rejected code message => cases hfailed
  | answered text => rfl
  | measured text _ _ _ hkey hargs => exact absurd (.inr (.inr ⟨hkey, hargs⟩)) hplain
  | stored hset => simp [hquery] at hset
  | reset _ hset => simp [hquery] at hset
  | clearStatus _ hset => simp [hquery] at hset
  | operationComplete _ hset => simp [hquery] at hset
  | readEventStatus hkey => exact absurd (.inl (by rw [hkey]; simp)) hplain
  | statusByte hkey => exact absurd (.inl (by rw [hkey]; simp)) hplain
  | event reg hkey => exact absurd (.inr (.inl ⟨reg, hkey⟩)) hplain
  | nextError hkey => exact absurd (.inl (by rw [hkey]; simp)) hplain
  | allErrors hkey => exact absurd (.inl (by rw [hkey]; simp)) hplain

theorem Change.data {command : Command} {b : Access} (h : Change ⟨sim, command⟩ b)
    (hquery : command.query = true) (hfailed : b.command.failed = false)
    (hkey : command.key = Key.data.text ∨ command.key = Key.dataStat.text) :
    ∃ functions, b.sim = { sim with state := { sim.state with functions } } := by
  have hother {key : Text} (hname : command.key = key) (hne : key ≠ Key.data.text)
      (hne' : key ≠ Key.dataStat.text) : False := by
    rcases hkey with h | h
    · exact hne (hname ▸ h)
    · exact hne' (hname ▸ h)
  cases h with
  | rejected code message => cases hfailed
  | answered text => exact ⟨sim.state.functions, rfl⟩
  | @measured names text => exact ⟨names, rfl⟩
  | stored hset => simp [hquery] at hset
  | reset _ hset => simp [hquery] at hset
  | clearStatus _ hset => simp [hquery] at hset
  | operationComplete _ hset => simp [hquery] at hset
  | readEventStatus hname => exact (hother hname (by decide) (by decide)).elim
  | statusByte hname => exact (hother hname (by decide) (by decide)).elim
  | event reg hname =>
    exact (hother hname (by cases reg <;> decide) (by cases reg <;> decide)).elim
  | nextError hname => exact (hother hname (by decide) (by decide)).elim
  | allErrors hname => exact (hother hname (by decide) (by decide)).elim

theorem handleCommand_nextError (hquery : (parseCommand text).query = true)
    (hkey : commandKey path text = Key.systErr.text) (h : handleCommand sim path text = some out) :
    out.sim = sim.withErrors sim.state.errors.tail := by
  obtain ⟨command, rest, hcommand, -, -, hrun⟩ :=
    handleCommand_of_key sim (key_of_text _ (by simp)) hkey
  have hexecute (a : Access) : execute .systErr a = some (a.queryOnly a.nextError) := rfl
  rw [hexecute, Option.map_some, h, Option.some.injEq, Access.queryOnly,
    if_pos (hcommand.trans hquery)] at hrun
  rw [hrun]
  simp only [Access.nextError, Access.outcome]
  split
  · next hnone =>
    have herrors : sim.state.errors = [] := hnone
    simp [herrors, withErrors_of_eq, Access.respond]
  · next entry rest hcons =>
    have herrors : sim.state.errors = entry :: rest := hcons
    rw [herrors]
    rfl

theorem handleCommand_allErrors (hquery : (parseCommand text).query = true)
    (hkey : commandKey path text = Key.systErrAll.text)
    (h : handleCommand sim path text = some out) : out.sim = sim.withErrors [] := by
  obtain ⟨command, rest, hcommand, -, -, hrun⟩ :=
    handleCommand_of_key sim (key_of_text _ (by simp)) hkey
  have hexecute (a : Access) : execute .systErrAll a = some (a.queryOnly a.allErrors) := rfl
  rw [hexecute, Option.map_some, h, Option.some.injEq, Access.queryOnly,
    if_pos (hcommand.trans hquery)] at hrun
  rw [hrun]
  simp only [Access.allErrors, Access.outcome]
  split
  · next hnone => exact (withErrors_of_eq hnone).symm
  · rfl

theorem handleCommand_readEventStatus (hquery : (parseCommand text).query = true)
    (hkey : commandKey path text = "*ESR") (h : handleCommand sim path text = some out) :
    out.sim = { sim with state := { sim.state with eventStatus := 0 } } := by
  have hdone (a : Access) : handleCommon "*ESR" a = .done (a.queryOnly a.readEventStatus) := rfl
  obtain ⟨command, hcommand, hrun⟩ := handleCommand_common sim hdone rfl hkey
  rw [h, Option.some.injEq, Access.queryOnly, if_pos (hcommand.trans hquery)] at hrun
  rw [hrun]
  rfl

theorem handleCommand_statusByte (hquery : (parseCommand text).query = true)
    (hkey : commandKey path text = "*STB") (h : handleCommand sim path text = some out) :
    out.sim = sim.latchEvent .questionable := by
  have hdone (a : Access) : handleCommon "*STB" a = .done (a.queryOnly a.statusByte) := rfl
  obtain ⟨command, hcommand, hrun⟩ := handleCommand_common sim hdone rfl hkey
  rw [h, Option.some.injEq, Access.queryOnly, if_pos (hcommand.trans hquery)] at hrun
  rw [hrun]
  rfl

theorem query_frame (hquery : (parseCommand text).query = true)
    (h : handleCommand sim path text = some out) :
    QueryFrame sim (commandKey path text) (parseCommand text).args out := by
  have heffect := handleCommand_effect h
  rw [hquery] at heffect
  refine ⟨outcome_failed heffect, fun hstop hplain => ?_,
    fun hkey => handleCommand_nextError hquery hkey h,
    fun hkey => handleCommand_allErrors hquery hkey h,
    fun hkey => handleCommand_readEventStatus hquery hkey h, fun reg hkey => ?_,
    fun hkey => ⟨_, _, handleCommand_statusByte hquery hkey h⟩, fun hstop hkey => ?_⟩
  · cases handleCommand_change h with
    | undefined rest => cases hstop
    | changed rest hkey hsuffixes hcommand hargs hresponse hfailed hchange =>
      exact hchange.kept (hcommand.trans hquery) hstop (by rw [hkey, hargs]; exact hplain)
  · exact ⟨0, sim.conditionOf reg, (handleCommand_event hkey hquery h).2⟩
  · cases handleCommand_change h with
    | undefined rest => cases hstop
    | changed rest hname hsuffixes hcommand hargs hresponse hfailed hchange =>
      exact hchange.data (hcommand.trans hquery) hstop (by rw [hname]; exact hkey)

def commandErrorSet : NormaSimulator :=
  { NormaSimulator.new {} with state := { (NormaSimulator.new {}).state with eventStatus := 32 } }

theorem command_error_read : ∃ out, handleCommand commandErrorSet [] "*ESR?" = some out ∧
    QueryFrame commandErrorSet "*ESR" [] out := by
  have hparse : parseCommand "*ESR?" = ⟨"*ESR", true, []⟩ := by decide +kernel
  have hkey : commandKey [] "*ESR?" = "*ESR" := by decide +kernel
  have hout : ∃ out, handleCommand commandErrorSet [] "*ESR?" = some out := by
    simp only [handleCommand, hparse]
    exact ⟨_, rfl⟩
  obtain ⟨out, hout⟩ := hout
  have hframe := query_frame (by rw [hparse]) hout
  rw [hkey, hparse] at hframe
  exact ⟨out, hout, hframe⟩

end

end Norma
