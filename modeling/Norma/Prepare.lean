import Norma.ErrorQueue

namespace Norma

open ScpiClient

namespace NormaSimulator

def textFormats (sim : NormaSimulator) (length : Int) : NormaSimulator :=
  { sim with state := { sim.state with
      dataFormat := ⟨.ascii, length⟩
      statusFormat := { sim.state.statusFormat with format := .ascii } } }

def concurrentOn (sim : NormaSimulator) : NormaSimulator :=
  { sim with state := { sim.state with concurrent := true } }

def prepared (sim : NormaSimulator) : NormaSimulator :=
  { sim with state := { sim.state with
      dataFormat := ⟨.ascii, 6⟩
      statusFormat := { sim.state.statusFormat with format := .ascii }
      concurrent := true
      errors := []
      eventStatus := 0
      operation := { sim.state.operation with event := 0 }
      questionable := { sim.state.questionable with event := 0 }
      questionableVoltage := { sim.state.questionableVoltage with event := 0 }
      questionableCurrent := { sim.state.questionableCurrent with event := 0 } } }

theorem prepared_eq (sim : NormaSimulator) :
    (sim.clearStatus.textFormats 6).concurrentOn.withErrors [] = sim.prepared := by
  simp only [withErrors, concurrentOn, textFormats, clearStatus, prepared]

end NormaSimulator

theorem handleLine_clearStatus (sim : NormaSimulator) :
    sim.handleLine "*CLS" = some (sim.clearStatus, none) := rfl

theorem coupled_ascii (fallback : DataFormat) (other : DataFormatSetting) :
    coupled false fallback other = { other with format := .ascii } := by
  obtain ⟨format, length⟩ := other
  cases format <;> rfl

theorem handleLine_ascii (sim : NormaSimulator) :
    sim.handleLine ("FORM " ++ formatParameter .ascii 6) = some (sim.textFormats 6, none) := by
  have hmem : (("FORM" : Text), Key.form, ([] : List Int)) ∈ knownHeaders := by simp [knownHeaders]
  have hwhole : Whole ';' (formatParameter .ascii 6) := by
    unfold Whole
    decide +kernel
  refine (handleLine_setting hmem sim hwhole).trans ?_
  have hcoupled := coupled_ascii .integer sim.state.statusFormat
  change some ({ sim with state := { sim.state with
    dataFormat := ⟨.ascii, 6⟩
    statusFormat := coupled false .integer sim.state.statusFormat } }, none) = _
  rw [hcoupled]
  rfl

theorem concurrent_on {a : Access} (hset : a.command.query = false)
    (hargs : a.command.args = [("ON" : Text)]) : a.concurrent = a.assign .concurrent true := by
  have hargument : a.command.argument = some ("ON" : Text) := by
    simp only [Command.argument, hargs]
    rfl
  have hparse : parseBoolean "ON" = some true := by decide +kernel
  have hboolean : a.boolean .concurrent = a.assign .concurrent true := by
    simp only [Access.boolean, hset, Bool.false_eq_true, if_false, Access.parameter, hargument,
      hparse]
  have hon : (a.assign .concurrent true).sim.state.concurrent = true := rfl
  simp only [Access.concurrent, hboolean, hon]
  simp

theorem handleLine_concurrent (sim : NormaSimulator) :
    sim.handleLine ("FUNC:CONC " ++ formatOn true) = some (sim.concurrentOn, none) := by
  have hmem : (("FUNC:CONC" : Text), Key.funcConc, ([] : List Int)) ∈ knownHeaders := by
    simp [knownHeaders]
  have hwhole : Whole ';' (formatOn true) := by
    unfold Whole
    decide +kernel
  have hexecute (a : Access) : execute .funcConc a = some a.concurrent := rfl
  refine (handleLine_setting hmem sim hwhole).trans ?_
  rw [hexecute, concurrent_on rfl rfl]
  rfl

theorem prepare_usable {client : SimulatorClient} (hidle : client.Idle) :
    NormaInstrument.prepare client = some (.ok (), client.withSim client.sim.prepared) ∧
      (client.withSim client.sim.prepared).transport.responses = [] := by
  let cleared := client.sim.clearStatus
  have hclear := send_ready hidle.toReady (by decide +kernel) (handleLine_clearStatus client.sim)
  have hcleared := hidle.withSim cleared
  have hformat := send_ready hcleared.toReady (by decide +kernel) (handleLine_ascii cleared)
  have hformatted := hcleared.withSim (cleared.textFormats 6)
  have hconcurrent := send_ready hformatted.toReady (by decide +kernel)
    (handleLine_concurrent (cleared.textFormats 6))
  have hready := hformatted.withSim (cleared.textFormats 6).concurrentOn
  have hqueue : QueueValid (cleared.textFormats 6).concurrentOn.state.errors :=
    ⟨fun entry hentry => absurd hentry List.not_mem_nil, Nat.zero_le _⟩
  have hread := readErrors_idle hready hqueue
  refine ⟨?_, hidle.responses⟩
  rw [NormaInstrument.prepare, NormaInstrument.clearStatus, Session.bind_ok hclear,
    NormaInstrument.setDataFormat, Session.bind_ok hformat, NormaInstrument.setConcurrent,
    Session.bind_ok hconcurrent, Session.bind_ok hread, ← NormaSimulator.prepared_eq]
  simp only [withSim_withSim, sim_withSim]
  rfl

-- As another program may leave the instrument: binary formats, one function at a time, an error.
def leftBehind : NormaSimulator :=
  { NormaSimulator.new {} with state := { (NormaSimulator.new {}).state with
      dataFormat := ⟨.integer, 32⟩
      statusFormat := ⟨.real, 64⟩
      concurrent := false
      errors := [⟨-113, "Undefined header;BOGUS"⟩]
      eventStatus := 32 } }

theorem left_behind_prepared :
    NormaInstrument.prepare (opened leftBehind) =
        some (.ok (), (opened leftBehind).withSim leftBehind.prepared) ∧
      ((opened leftBehind).withSim leftBehind.prepared).transport.responses = [] :=
  prepare_usable (idle_opened leftBehind)

end Norma
