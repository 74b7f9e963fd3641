import Norma.Reach
import Norma.Registers
import Norma.Link

namespace Norma

-- The four parts are kept; what the latch remembers of CONDition is not one of them.
def RegisterState.kept (r : RegisterState) : RegisterState := { r with previousCondition := 0 }

-- A new simulator, but for what the manual exempts from *RST.
def NormaSimulator.resetKeeping (sim : NormaSimulator) : NormaSimulator :=
  let fresh := (NormaSimulator.new sim.options).state
  { sim with
    state := { fresh with
      errors := sim.state.errors
      eventStatus := sim.state.eventStatus
      eventStatusEnable := sim.state.eventStatusEnable
      serviceRequestEnable := sim.state.serviceRequestEnable
      operation := sim.state.operation.kept
      questionable := sim.state.questionable.kept
      questionableVoltage := sim.state.questionableVoltage.kept
      questionableCurrent := sim.state.questionableCurrent.kept
      gpibAddress := sim.state.gpibAddress
      serialBaud := sim.state.serialBaud
      date := sim.state.date
      time := sim.state.time } }

structure RegisterState.Fresh (r : RegisterState) : Prop where
  event : r.event = 0
  enable : r.enable = 0
  ptransition : r.ptransition = 0xFFFF
  ntransition : r.ntransition = 0

-- What *RST is not to touch already has the value that a new simulator gives it.
structure ExemptFresh (state : State) : Prop where
  eventStatus : state.eventStatus = 0
  eventStatusEnable : state.eventStatusEnable = 0
  serviceRequestEnable : state.serviceRequestEnable = 0
  registers : ∀ reg, ((registerState reg).get state).Fresh
  gpibAddress : state.gpibAddress = 5
  serialBaud : state.serialBaud = 115200
  date : state.date = ⟨2026, 1, 1⟩
  time : state.time = ⟨12, 0, 0⟩

theorem RegisterState.kept_eq_iff (r : RegisterState) : r.kept = {} ↔ r.Fresh := by
  constructor
  · intro h
    rw [RegisterState.kept, RegisterState.mk.injEq] at h
    exact ⟨h.1, h.2.1, h.2.2.1, h.2.2.2.1⟩
  · intro h
    rw [RegisterState.kept, h.event, h.enable, h.ptransition, h.ntransition]

theorem reset_eq_iff (sim : NormaSimulator) : sim.reset = sim.resetKeeping ↔ ExemptFresh sim.state := by
  constructor
  · intro h
    have hstate := congrArg NormaSimulator.state h
    have hkept (reg : StatusRegister) : ((registerState reg).get sim.state).kept = {} := by
      have hreg := congrArg (registerState reg).get hstate
      cases reg <;> exact hreg.symm
    refine ⟨?_, ?_, ?_, fun reg => (RegisterState.kept_eq_iff _).mp (hkept reg), ?_, ?_, ?_, ?_⟩
    · exact (congrArg SimulatorState.eventStatus hstate).symm
    · exact (congrArg SimulatorState.eventStatusEnable hstate).symm
    · exact (congrArg SimulatorState.serviceRequestEnable hstate).symm
    · exact (congrArg SimulatorState.gpibAddress hstate).symm
    · exact (congrArg SimulatorState.serialBaud hstate).symm
    · exact (congrArg SimulatorState.date hstate).symm
    · exact (congrArg SimulatorState.time hstate).symm
  · intro h
    have hkept (reg : StatusRegister) : ((registerState reg).get sim.state).kept = {} :=
      (RegisterState.kept_eq_iff _).mpr (h.registers reg)
    have hoperation : sim.state.operation.kept = {} := hkept .operation
    have hquestionable : sim.state.questionable.kept = {} := hkept .questionable
    have hvoltage : sim.state.questionableVoltage.kept = {} := hkept .questionableVoltage
    have hcurrent : sim.state.questionableCurrent.kept = {} := hkept .questionableCurrent
    unfold NormaSimulator.resetKeeping
    rw [h.eventStatus, h.eventStatusEnable, h.serviceRequestEnable, hoperation, hquestionable,
      hvoltage, hcurrent, h.gpibAddress, h.serialBaud, h.date, h.time]
    rfl

theorem reset_keeps_iff {sim : NormaSimulator} {path : List Token} {text : Text}
    (hkey : commandKey path text = "*RST") (hset : (parseCommand text).query = false) :
    (∃ out, handleCommand sim path text = some out ∧ out.sim = sim.resetKeeping) ↔
      ExemptFresh sim.state := by
  obtain ⟨out, hout, hreset⟩ := handleCommand_resets sim hkey hset
  rw [← reset_eq_iff, ← hreset]
  constructor
  · rintro ⟨out', hout', hkeep⟩
    rw [hout, Option.some.injEq] at hout'
    rw [hout', hkeep]
  · intro hkeep
    exact ⟨out, hout, hkeep⟩

-- Settings that a reset puts back, and an error that it keeps.
def changedSettings : NormaSimulator :=
  { NormaSimulator.new {} with state := { (NormaSimulator.new {}).state with
      aperture := 1
      functions := ["VOLT1"]
      concurrent := false
      errors := [⟨-113, "Undefined header;BOGUS"⟩] } }

theorem changed_settings_reset : ∃ out, handleCommand changedSettings [] "*RST" = some out ∧
    out.sim = changedSettings.resetKeeping :=
  (reset_keeps_iff (by decide +kernel) (by decide +kernel)).mpr
    ⟨rfl, rfl, rfl, fun reg => by cases reg <;> exact ⟨rfl, rfl, rfl, rfl⟩, rfl, rfl, rfl, rfl⟩

theorem reset_drops_event_status : ¬∀ sim, Reachable sim → ∀ path text,
    commandKey path text = "*RST" → (parseCommand text).query = false →
      ∃ out, handleCommand sim path text = some out ∧ out.sim = sim.resetKeeping := by
  intro hall
  let sim : NormaSimulator := { NormaSimulator.new {} with
    state := { (NormaSimulator.new {}).state with eventStatus := 1 } }
  have hplain : Unquoted ("*OPC" : Text) := by decide
  have htrim : trim "*OPC" = "*OPC" := by decide +kernel
  have hparse : parseCommand "*OPC" = ⟨"*OPC", false, []⟩ := by decide +kernel
  have hline : (NormaSimulator.new {}).handleLine "*OPC" = some (sim, none) := by
    rw [handleLine_whole (hplain.whole_iff.mpr (by decide)) htrim (by decide)]
    simp only [handleCommand, hparse]
    rfl
  have hkey : commandKey [] "*RST" = "*RST" := by decide +kernel
  have hset : (parseCommand "*RST").query = false := by decide +kernel
  obtain ⟨out, hout, hkept⟩ := hall sim (.line (.new {}) _ hline) [] "*RST" hkey hset
  obtain ⟨out', hout', hreset⟩ := handleCommand_resets sim hkey hset
  rw [hout, Option.some.injEq] at hout'
  rw [← hout', hkept] at hreset
  have hstatus := congrArg (fun s : NormaSimulator => s.state.eventStatus) hreset
  cases hstatus

end Norma
