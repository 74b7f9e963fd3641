import Norma.RegisterLink

namespace Norma

open ErrorCode
open ScpiClient
open Register (cells Reportable)

def Reply.ofUnit : Except Fault Unit → Reply
  | .ok () => .done
  | .error fault => .failed fault

def Reply.ofValue (r : Register) : Except Fault r.Value → Reply
  | .ok v => .value r v
  | .error fault => .failed fault

def driven {T : Type} [Transport T] : Machine (ScpiClient T) Call Reply where
  step client
    | .write r value => (r.write value client).map fun (result, after) => (.ofUnit result, after)
    | .read r => (r.read client).map fun (result, after) => (.ofValue r result, after)
    | .checkErrors =>
        (NormaInstrument.checkErrors client).map fun (result, after) => (.ofUnit result, after)
    | .reset => (NormaInstrument.reset client).map fun (result, after) => (.ofUnit result, after)
    | .clearStatus =>
        (NormaInstrument.clearStatus client).map fun (result, after) => (.ofUnit result, after)

def panelMachine (options : SimulatorOptions) (timeout : Int) : Machine Panel Call Reply where
  step panel call := some (panel.call options timeout call)

-- Integers, dates and times of the driver are made of values of type `int`.
def Call.Fits : Call → Prop
  | .write r value => r.parameter.Fits value
  | _ => True

structure Shows (options : SimulatorOptions) (timeout : Int) (client : SimulatorClient)
    (panel : Panel) : Prop where
  idle : client.Idle
  timeout_eq : client.timeout = timeout
  options_eq : client.sim.options = options
  memory : cells.view client.sim.state = panel.memory
  errors : client.sim.state.errors = panel.errors
  queue : QueueValid panel.errors
  plain : ∀ entry ∈ panel.errors, '"' ∉ entry.message
  fits : ∀ r : Register, r.parameter.Fits (panel.memory r)

namespace Shows

variable {options : SimulatorOptions} {timeout : Int} {client : SimulatorClient} {panel : Panel}

theorem decoded {errors : List ScpiErrorInfo} (h : ∀ entry ∈ errors, '"' ∉ entry.message) :
    errors.map decodedEntry = errors :=
  (map_decodedEntry_iff errors).mpr fun entry hentry => whole_quote (h entry hentry)

theorem query_unanswered {command : Text} {after : NormaSimulator} (h : client.Idle)
    (hplain : hasLineTerminator command = false)
    (hline : client.sim.handleLine command = some (after, none)) :
    query command client =
      some (.error (Panel.noResponse client.timeout), client.withSim after) := by
  have hwrite := writeLine_ready h.toReady hplain hline client.timeout
  rw [query, queryWithin, Session.bind_ok hwrite]
  simp [Session.onTransport, Transport.readLine, SimulatorTransport.readLine, withSim, withResponse,
    h.isOpen, h.failReads, h.stallReads, h.responses, Panel.noResponse]

theorem withSim (h : Shows options timeout client panel) {sim : NormaSimulator} {after : Panel}
    (hoptions : sim.options = client.sim.options) (hmemory : cells.view sim.state = after.memory)
    (herrors : sim.state.errors = after.errors) (hqueue : QueueValid after.errors)
    (hplain : ∀ entry ∈ after.errors, '"' ∉ entry.message)
    (hfits : ∀ r : Register, r.parameter.Fits (after.memory r)) :
    Shows options timeout (client.withSim sim) after :=
  ⟨h.idle.withSim sim, h.timeout_eq, hoptions.trans h.options_eq, hmemory, herrors, hqueue, hplain,
    hfits⟩

theorem no_errors : QueueValid [] :=
  ⟨fun _ hentry => absurd hentry List.not_mem_nil, Nat.zero_le _⟩

theorem push_plain {errors : List ScpiErrorInfo} {entry : ScpiErrorInfo}
    (h : ∀ e ∈ errors, '"' ∉ e.message) (hentry : '"' ∉ entry.message) :
    ∀ e ∈ BoundedQueue.push kErrorQueueSize overflowEntry errors entry, '"' ∉ e.message := by
  unfold BoundedQueue.push
  split
  · intro e he
    rcases List.mem_append.mp he with hold | hnew
    · exact h e ((List.dropLast_sublist _).subset hold)
    · rw [List.mem_singleton.mp hnew]
      decide
  · intro e he
    rcases List.mem_append.mp he with hold | hnew
    · exact h e hold
    · rw [List.mem_singleton.mp hnew]
      exact hentry

theorem report (h : Shows options timeout client panel) {entry : ScpiErrorInfo}
    (hentry : Reportable entry) : Shows options timeout
      (client.withSim (client.sim.pushError entry.code entry.message)) (panel.report entry) := by
  have herrors : (client.sim.state.pushError entry.code entry.message).errors =
      (panel.report entry).errors := by
    rw [pushError_errors, h.errors]
    rfl
  have hqueue : QueueValid client.sim.state.errors := h.errors ▸ h.queue
  exact h.withSim rfl ((Register.view_pushError _ _ _).trans h.memory) herrors
    (herrors ▸ hqueue.pushError hentry.code _) (push_plain h.plain hentry.plain) h.fits

theorem store_fits {memory : Memory} (h : ∀ r : Register, r.parameter.Fits (memory r))
    {r : Register} {v : r.Value} (hv : r.parameter.Fits v) (other : Register) :
    other.parameter.Fits (memory.store r v other) := by
  have hupdate {memory : Memory} (h : ∀ r : Register, r.parameter.Fits (memory r))
      {r : Register} {v : r.Value} (hv : r.parameter.Fits v) (other : Register) :
      other.parameter.Fits (Function.update memory r v other) := by
    by_cases heq : other = r
    · subst heq
      rwa [Function.update_self]
    · rw [Function.update_of_ne heq]
      exact h other
  unfold Memory.store
  split
  · exact hupdate (hupdate h hv) trivial other
  · exact hupdate h hv other

theorem write (h : Shows options timeout client panel) {r : Register} {v : r.Value}
    (hfits : r.parameter.Fits v) : ∃ result after, r.write v client = some (result, after) ∧
      .ofUnit result = (panel.write options r v).1 ∧
      Shows options timeout after (panel.write options r v).2 := by
  have hplain := (Register.known r).setting_plain (r.parameter.plain v)
  rw [Register.write_eq]
  unfold Panel.write
  cases r.refused v with
  | some fault => exact ⟨.error fault, client, rfl, rfl, h⟩
  | none =>
    cases havailable : r.unavailable options with
    | some entry =>
      have hline := Register.handleLine_told_denied (h.options_eq ▸ havailable) v
      exact ⟨.ok (), _, send_ready h.idle.toReady hplain hline, rfl,
        h.report (Register.reportable_unavailable havailable)⟩
    | none =>
      have hline := Register.handleLine_told (h.options_eq ▸ havailable) hfits
      have hsend := send_ready h.idle.toReady hplain hline
      have hsound := Register.sound_verdict options panel.memory r
      refine ⟨.ok (), _, hsend, ?_⟩
      cases hverdict : r.verdict options panel.memory v with
      | error entry =>
        rw [Register.stored_error (by rw [h.options_eq, h.memory, hverdict])]
        exact ⟨rfl, h.report (hsound.rejected v entry hverdict)⟩
      | ok kept =>
        rw [Register.stored_ok (by rw [h.options_eq, h.memory, hverdict])]
        refine ⟨rfl, h.withSim rfl ?_ ?_ h.queue h.plain ?_⟩
        · exact (Register.view_settle r _ kept).trans (by rw [h.memory])
        · exact (Register.settle_errors r _ kept).trans h.errors
        · exact store_fits h.fits (hsound.accepted v kept hfits hverdict)

theorem read (h : Shows options timeout client panel) (r : Register) :
    ∃ result after, r.read client = some (result, after) ∧
      .ofValue r result = (panel.read options timeout r).1 ∧
      Shows options timeout after (panel.read options timeout r).2 := by
  have hplain := (Register.known r).query_plain
  rw [Register.read_eq]
  unfold Panel.read
  cases havailable : r.unavailable options with
  | some entry =>
    have hline := Register.handleLine_asked_denied (h.options_eq ▸ havailable)
    refine ⟨_, _, Session.bind_error (query_unanswered h.idle hplain hline) _, ?_,
      h.report (Register.reportable_unavailable havailable)⟩
    rw [h.timeout_eq]
    rfl
  | none =>
    have hline := Register.handleLine_asked (h.options_eq ▸ havailable)
    have hparse := r.parameter.parse_answer (panel.memory r) (h.fits r)
    have hvalue : r.cell.get client.sim.state = panel.memory r := congrFun h.memory r
    rw [hvalue] at hline
    have hquery := query_idle h.idle hplain hline
    exact ⟨_, _, (Session.bind_ok hquery _).trans (congrArg (fun result => some (result, _)) hparse),
      rfl, h⟩

theorem checkErrors (h : Shows options timeout client panel) :
    ∃ result after, NormaInstrument.checkErrors client = some (result, after) ∧
      .ofUnit result = panel.checkErrors.1 ∧ Shows options timeout after panel.checkErrors.2 := by
  have hread := readErrors_idle h.idle (h.errors ▸ h.queue)
  rw [h.errors, decoded h.plain, NormaInstrument.readErrors] at hread
  have hshows : Shows options timeout (client.withSim (client.sim.withErrors []))
      panel.checkErrors.2 :=
    h.withSim rfl ((Register.errors_unseen _ _ _).trans h.memory) rfl no_errors
      (fun _ hentry => absurd hentry List.not_mem_nil) h.fits
  rw [NormaInstrument.checkErrors, throwIfError, Session.bind_ok hread]
  unfold Panel.checkErrors
  split
  · exact ⟨_, _, rfl, rfl, hshows⟩
  · exact ⟨_, _, rfl, rfl, hshows⟩

theorem clearStatus (h : Shows options timeout client panel) :
    ∃ result after, NormaInstrument.clearStatus client = some (result, after) ∧
      .ofUnit result = Reply.done ∧ Shows options timeout after { panel with errors := [] } := by
  have hsend := send_ready h.idle.toReady (by decide +kernel) (handleLine_clearStatus client.sim)
  exact ⟨_, _, hsend, rfl, h.withSim rfl ((Register.events_unseen _).trans h.memory) rfl no_errors
    (fun _ hentry => absurd hentry List.not_mem_nil) h.fits⟩

theorem handleLine_reset (sim : NormaSimulator) : sim.handleLine "*RST" = some (sim.reset, none) :=
  rfl

theorem factory_fits (options : SimulatorOptions) (r : Register) :
    r.parameter.Fits (factory options r) := by
  cases r with
  | single r =>
    cases r with
    | gpibAddress => exact (by decide : FitsInt 5)
    | serialBaud => exact (by decide : FitsInt 115200)
    | harmonicOrder => exact (by decide : FitsInt 1)
    | transformCycles => exact (by decide : FitsInt 10)
    | date => exact (by decide : FitsInt 2026 ∧ FitsInt 1 ∧ FitsInt 1)
    | timeOfDay => exact (by decide : FitsInt 12 ∧ FitsInt 0 ∧ FitsInt 0)
    | _ => exact trivial
  | mask reg part =>
    cases reg <;> cases part <;> first
      | exact (by decide : FitsInt 0)
      | exact (by decide : FitsInt 0xFFFF)
  | input channel part => cases part <;> exact trivial
  | sense sensed phase part => cases part <;> exact trivial
  | sweep block part =>
    cases part <;> first
      | exact trivial
      | exact (by decide : FitsInt 1)

theorem reset (h : Shows options timeout client panel) :
    ∃ result after, NormaInstrument.reset client = some (result, after) ∧
      .ofUnit result = Reply.done ∧
      Shows options timeout after { panel with memory := factory options } := by
  have hsend := send_ready h.idle.toReady (by decide +kernel) (handleLine_reset client.sim)
  refine ⟨_, _, hsend, rfl, h.withSim rfl ?_ h.errors h.queue h.plain (factory_fits options)⟩
  rw [Register.view_reset, h.options_eq]

theorem opened (options : SimulatorOptions) :
    Shows options 5000 (ScpiClient.opened (.new options)) ⟨factory options, []⟩ where
  idle := idle_opened _
  timeout_eq := rfl
  options_eq := rfl
  memory := rfl
  errors := rfl
  queue := no_errors
  plain _ hentry := absurd hentry List.not_mem_nil
  fits := factory_fits options

end Shows

theorem replies {T A : Type} {step : Option (Except Fault A × ScpiClient T)}
    {result : Except Fault A} {after : ScpiClient T} {reply : Except Fault A → Reply}
    {expected : Reply} (hstep : step = some (result, after)) (hreply : reply result = expected) :
    (step.map fun (result, after) => (reply result, after)) = some (expected, after) := by
  rw [hstep, ← hreply]
  rfl

theorem driven_refines (options : SimulatorOptions) (timeout : Int) :
    driven.Refines (panelMachine options timeout) (Shows options timeout) Call.Fits where
  step {client panel call} h hfits := by
    cases call with
    | write r v =>
      obtain ⟨result, after, hwrite, hreply, hafter⟩ := h.write hfits
      exact ⟨_, after, _, replies hwrite hreply, rfl, hafter⟩
    | read r =>
      obtain ⟨result, after, hread, hreply, hafter⟩ := h.read r
      exact ⟨_, after, _, replies hread hreply, rfl, hafter⟩
    | checkErrors =>
      obtain ⟨result, after, hcheck, hreply, hafter⟩ := h.checkErrors
      exact ⟨_, after, _, replies hcheck hreply, rfl, hafter⟩
    | reset =>
      obtain ⟨result, after, hreset, hreply, hafter⟩ := h.reset
      exact ⟨_, after, _, replies hreset hreply, rfl, hafter⟩
    | clearStatus =>
      obtain ⟨result, after, hclear, hreply, hafter⟩ := h.clearStatus
      exact ⟨_, after, _, replies hclear hreply, rfl, hafter⟩

end Norma
