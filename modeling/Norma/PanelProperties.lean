import Norma.PanelRun

namespace Norma

open ErrorCode
open ScpiClient
open Register (cells)

theorem driver_runs_as_panel (options : SimulatorOptions) {calls : List Call}
    (hfits : ∀ call ∈ calls, call.Fits) :
    ∃ replies client panel,
      driven.run (.opened (.new options)) calls = some (replies, client) ∧
      (panelMachine options 5000).run ⟨factory options, []⟩ calls = some (replies, panel) ∧
      cells.view client.sim.state = panel.memory ∧ client.sim.state.errors = panel.errors := by
  obtain ⟨replies, client, panel, hrun, hmodel, hshows⟩ :=
    (driven_refines options 5000).run hfits (Shows.opened options)
  exact ⟨replies, client, panel, hrun, hmodel, hshows.memory, hshows.errors⟩

theorem address_run : ∃ client, driven.run (.opened (.new {}))
    [.write (.single .gpibAddress) (7 : Int), .write (.single .gpibAddress) (31 : Int),
      .read (.single .gpibAddress), .checkErrors] = some (
        [.done, .failed (NormaInstrument.gpibFault 31), .value (.single .gpibAddress) (7 : Int),
          .done], client) := by
  have hfits : ∀ call ∈ [Call.write (.single .gpibAddress) (7 : Int),
      .write (.single .gpibAddress) (31 : Int), .read (.single .gpibAddress), .checkErrors],
      call.Fits := by
    intro call hcall
    simp only [List.mem_cons, List.not_mem_nil, or_false] at hcall
    rcases hcall with rfl | rfl | rfl | rfl
    · exact (by decide : FitsInt 7)
    · exact (by decide : FitsInt 31)
    · trivial
    · trivial
  obtain ⟨replies, client, panel, hrun, hmodel, -⟩ := driver_runs_as_panel {} hfits
  exact ⟨client, hrun.trans (by cases hmodel; rfl)⟩

section Spares

def Register.touched : Register → List Register
  | .sense sensed phase .range => [.sense sensed phase .range, .sense sensed phase .autorange]
  | r => [r]

theorem Register.self_touched (r : Register) : r ∈ r.touched := by
  unfold Register.touched
  split <;> simp

def Call.Spares (r : Register) : Call → Prop
  | .write other _ => r ∉ other.touched
  | .reset => False
  | _ => True

variable {options : SimulatorOptions} {timeout : Int} {panel : Panel} {r : Register}

theorem store_spares {memory : Memory} {other : Register} {v : other.Value}
    (h : r ∉ other.touched) : memory.store other v r = memory r := by
  unfold Memory.store
  split
  · simp only [Register.touched, List.mem_cons, List.not_mem_nil, or_false, not_or] at h
    rw [Function.update_of_ne h.2, Function.update_of_ne h.1]
  · next hrange =>
    have hne : r ≠ other := by
      rintro rfl
      exact h r.self_touched
    rw [Function.update_of_ne hne]

theorem call_spares {call : Call} (h : call.Spares r) :
    (panel.call options timeout call).2.memory r = panel.memory r := by
  cases call with
  | write other v =>
    change (panel.write options other v).2.memory r = _
    unfold Panel.write
    split
    · rfl
    · split
      · rfl
      · split
        · rfl
        · exact store_spares h
  | read other =>
    change (panel.read options timeout other).2.memory r = _
    unfold Panel.read
    split <;> rfl
  | checkErrors => rfl
  | reset => exact h.elim
  | clearStatus => rfl

theorem run_spares {calls : List Call} {replies : List Reply} {final : Panel}
    (h : ∀ call ∈ calls, call.Spares r)
    (hrun : (panelMachine options timeout).run panel calls = some (replies, final)) :
    final.memory r = panel.memory r :=
  Machine.run_preserves (P := fun after => after.memory r = panel.memory r)
    (fun hbefore hspares hstep => by
      obtain rfl := congrArg Prod.snd (Option.some.inj hstep)
      exact (call_spares hspares).trans hbefore) h rfl hrun

theorem store_self (memory : Memory) (v : r.Value) : memory.store r v r = v := by
  unfold Memory.store
  split
  · rw [Function.update_of_ne (by simp), Function.update_self]
  · exact Function.update_self _ _ _

theorem write_memory (hhere : r.unavailable options = none) (v : r.Value) :
    (panel.write options r v).2.memory r = Memory.written options panel.memory r v := by
  unfold Panel.write Memory.written
  rw [hhere]
  cases r.refused v with
  | some fault => rfl
  | none =>
    cases r.verdict options panel.memory v with
    | error entry => rfl
    | ok kept => exact store_self panel.memory kept

end Spares

theorem read_value {options : SimulatorOptions} {timeout : Int} {client : SimulatorClient}
    {panel : Panel} (h : Shows options timeout client panel) {r : Register}
    (hhere : r.unavailable options = none) : ∃ after, driven.step client (.read r) =
      some (.value r (r.parameter.seen (panel.memory r)), after) := by
  obtain ⟨result, after, hread, hreply, -⟩ := h.read r
  have hvalue : (panel.read options timeout r).1 =
      .value r (r.parameter.seen (panel.memory r)) := by
    rw [Panel.read, hhere]
  exact ⟨after, replies hread (hreply.trans hvalue)⟩

theorem read_spared {options : SimulatorOptions} {timeout : Int} {client : SimulatorClient}
    {panel : Panel} (h : Shows options timeout client panel) {r : Register} {calls : List Call}
    (hfits : ∀ call ∈ calls, call.Fits) (hspares : ∀ call ∈ calls, call.Spares r)
    (hhere : r.unavailable options = none) : ∃ outs final last,
      driven.run client calls = some (outs, final) ∧
      driven.step final (.read r) =
        some (.value r (r.parameter.seen (panel.memory r)), last) := by
  obtain ⟨outs, final, after, hrun, hmodel, hfinal⟩ :=
    (driven_refines options timeout).run hfits h
  obtain ⟨last, hread⟩ := read_value hfinal hhere
  exact ⟨outs, final, last, hrun, run_spares hspares hmodel ▸ hread⟩

theorem written_value_read_back (options : SimulatorOptions) {before after : List Call}
    {r : Register} {v : r.Value} (hbefore : ∀ call ∈ before, call.Fits) (hv : r.parameter.Fits v)
    (hafter : ∀ call ∈ after, call.Fits) (hspares : ∀ call ∈ after, call.Spares r)
    (hhere : r.unavailable options = none) :
    ∃ outs client reply written outs' final last,
      driven.run (.opened (.new options)) before = some (outs, client) ∧
      driven.step client (.write r v) = some (reply, written) ∧
      driven.run written after = some (outs', final) ∧
      driven.step final (.read r) = some (.value r (r.parameter.seen
        (Memory.written options (cells.view client.sim.state) r v)), last) := by
  have hrefines := driven_refines options 5000
  obtain ⟨outs, client, panel, hrun, -, hclient⟩ := hrefines.run hbefore (Shows.opened options)
  obtain ⟨reply, written, stored, hwrite, hmodel, hwritten⟩ :=
    hrefines.step hclient (show Call.Fits (.write r v) from hv)
  have hstored : (panel.write options r v).2 = stored := congrArg Prod.snd (Option.some.inj hmodel)
  have hvalue : stored.memory r = Memory.written options (cells.view client.sim.state) r v := by
    rw [← hstored, write_memory hhere, hclient.memory]
  obtain ⟨outs', final, last, hrun', hread⟩ := read_spared hwritten hafter hspares hhere
  exact ⟨outs, client, reply, written, outs', final, last, hrun, hwrite, hrun', hvalue ▸ hread⟩

theorem address_kept : ∃ reply written outs final last,
    driven.step (.opened (.new {})) (.write (.single .gpibAddress) (7 : Int)) =
      some (reply, written) ∧
    driven.run written [.write (.single .serialBaud) (1 : Int), .checkErrors] =
      some (outs, final) ∧
    driven.step final (.read (.single .gpibAddress)) =
      some (.value (.single .gpibAddress) (7 : Int), last) := by
  have hspares : ∀ call ∈ [Call.write (.single .serialBaud) (1 : Int), .checkErrors],
      call.Fits ∧ call.Spares (.single .gpibAddress) := by
    intro call hcall
    simp only [List.mem_cons, List.not_mem_nil, or_false] at hcall
    rcases hcall with rfl | rfl
    · exact ⟨(by decide : FitsInt 1), (by decide : _ ∉ Register.touched (.single .serialBaud))⟩
    · exact ⟨trivial, trivial⟩
  obtain ⟨outs, client, reply, written, outs', final, last, hrun, hwrite, hrun', hread⟩ :=
    written_value_read_back {} (r := .single .gpibAddress) (v := (7 : Int))
      (fun _ hcall => absurd hcall List.not_mem_nil) (by decide : FitsInt 7)
      (fun call hcall => (hspares call hcall).1) (fun call hcall => (hspares call hcall).2) rfl
  cases hrun
  exact ⟨reply, written, outs', final, last, hwrite, hrun', hread⟩

theorem reset_restores_factory (options : SimulatorOptions) {before after : List Call}
    {r : Register} (hbefore : ∀ call ∈ before, call.Fits) (hafter : ∀ call ∈ after, call.Fits)
    (hspares : ∀ call ∈ after, call.Spares r) (hhere : r.unavailable options = none) :
    ∃ outs client restored outs' final last,
      driven.run (.opened (.new options)) before = some (outs, client) ∧
      driven.step client .reset = some (.done, restored) ∧
      driven.run restored after = some (outs', final) ∧
      driven.step final (.read r) =
        some (.value r (r.parameter.seen (factory options r)), last) := by
  obtain ⟨outs, client, panel, hrun, -, hclient⟩ :=
    (driven_refines options 5000).run hbefore (Shows.opened options)
  obtain ⟨result, restored, hreset, hreply, hrestored⟩ := hclient.reset
  obtain ⟨outs', final, last, hrun', hread⟩ := read_spared hrestored hafter hspares hhere
  exact ⟨outs, client, restored, outs', final, last, hrun, replies hreset hreply, hrun', hread⟩

theorem address_restored : ∃ outs client restored last,
    driven.run (.opened (.new {})) [.write (.single .gpibAddress) (7 : Int)] =
      some (outs, client) ∧
    driven.step client .reset = some (.done, restored) ∧
    driven.step restored (.read (.single .gpibAddress)) =
      some (.value (.single .gpibAddress) (5 : Int), last) := by
  have hfits : ∀ call ∈ [Call.write (.single .gpibAddress) (7 : Int)], call.Fits := by
    intro call hcall
    rw [List.mem_singleton.mp hcall]
    exact (by decide : FitsInt 7)
  obtain ⟨outs, client, restored, outs', final, last, hrun, hreset, hrun', hread⟩ :=
    reset_restores_factory {} (r := .single .gpibAddress) hfits
      (fun _ hcall => absurd hcall List.not_mem_nil) (fun _ hcall => absurd hcall List.not_mem_nil)
      rfl
  cases hrun'
  exact ⟨outs, client, restored, last, hrun, hreset, hread⟩

section Errors

variable {options : SimulatorOptions} {timeout : Int} {panel : Panel}

def Call.Quiet : Call → Prop
  | .checkErrors | .clearStatus => False
  | _ => True

theorem call_errors {call : Call} (h : call.Quiet) : (panel.call options timeout call).2.errors =
    (panel.reported options call).toList.foldl
      (BoundedQueue.push kErrorQueueSize overflowEntry) panel.errors := by
  cases call with
  | write r v =>
    simp only [Panel.call, Panel.write, Panel.reported]
    cases r.refused v with
    | some fault => rfl
    | none =>
      cases r.unavailable options with
      | some entry => rfl
      | none => cases r.verdict options panel.memory v <;> rfl
  | read r =>
    simp only [Panel.call, Panel.read, Panel.reported]
    cases r.unavailable options <;> rfl
  | checkErrors => exact h.elim
  | reset => rfl
  | clearStatus => exact h.elim

theorem run_errors {calls : List Call} {replies : List Reply} {final : Panel}
    (h : ∀ call ∈ calls, call.Quiet)
    (hrun : (panelMachine options timeout).run panel calls = some (replies, final)) :
    final.errors = (Panel.reports options timeout panel calls).foldl
      (BoundedQueue.push kErrorQueueSize overflowEntry) panel.errors := by
  induction calls generalizing panel replies with
  | nil =>
    cases hrun
    rfl
  | cons call calls ih =>
    obtain ⟨out, after, rest, hstep, hrest, rfl⟩ := Machine.run_cons hrun
    obtain rfl := congrArg Prod.snd (Option.some.inj hstep)
    rw [ih (fun other hother => h other (by simp [hother])) hrest, call_errors (h call (by simp)),
      Panel.reports, List.foldl_append]

theorem checked_errors {client : SimulatorClient} (h : Shows options timeout client panel) :
    ∃ after, driven.step client .checkErrors = some
        (if panel.errors = [] then .done else .failed (.scpi panel.errors), after) ∧
      Shows options timeout after { panel with errors := [] } := by
  obtain ⟨result, after, hcheck, hreply, hafter⟩ := h.checkErrors
  exact ⟨after, replies hcheck hreply, hafter⟩

theorem errors_accounted (options : SimulatorOptions) {before calls : List Call}
    (hbefore : ∀ call ∈ before, call.Fits) (hcalls : ∀ call ∈ calls, call.Fits ∧ call.Quiet) :
    ∃ outs client reply checked outs' final last last',
      driven.run (.opened (.new options)) before = some (outs, client) ∧
      driven.step client .checkErrors = some (reply, checked) ∧
      driven.run checked calls = some (outs', final) ∧
      (let reported := Panel.reports options 5000 ⟨cells.view checked.sim.state, []⟩ calls
       driven.step final .checkErrors = some (if reported = [] then .done
         else .failed (.scpi (BoundedQueue.capped kErrorQueueSize overflowEntry reported)), last)) ∧
      driven.step last .checkErrors = some (.done, last') := by
  have hrefines := driven_refines options 5000
  obtain ⟨outs, client, panel, hrun, -, hclient⟩ := hrefines.run hbefore (Shows.opened options)
  obtain ⟨checked, hcheck, hchecked⟩ := checked_errors hclient
  obtain ⟨outs', final, panel', hrun', hmodel, hfinal⟩ :=
    hrefines.run (fun call hcall => (hcalls call hcall).1) hchecked
  obtain ⟨last, hlast, hshows⟩ := checked_errors hfinal
  obtain ⟨last', hlast', -⟩ := checked_errors hshows
  refine ⟨outs, client, _, checked, outs', final, last, last', hrun, hcheck, hrun', ?_, hlast'⟩
  have herrors := run_errors (fun call hcall => (hcalls call hcall).2) hmodel
  have hnone : ([] : List ScpiErrorInfo).length ≤ kErrorQueueSize := Nat.zero_le _
  rw [BoundedQueue.foldl_push (by decide) hnone, List.nil_append] at herrors
  rw [hchecked.memory, hlast, herrors]
  simp only [BoundedQueue.capped_eq_nil]

theorem baud_accounted : ∃ reply client outs final last last',
    driven.step (.opened (.new {})) .checkErrors = some (reply, client) ∧
    driven.run client [.write (.single .serialBaud) (1 : Int)] = some (outs, final) ∧
    driven.step final .checkErrors = some (.failed (.scpi [dataOutOfRange "1"]), last) ∧
    driven.step last .checkErrors = some (.done, last') := by
  have hfits : ∀ call ∈ [Call.write (.single .serialBaud) (1 : Int)], call.Fits ∧ call.Quiet := by
    intro call hcall
    rw [List.mem_singleton.mp hcall]
    exact ⟨(by decide : FitsInt 1), trivial⟩
  obtain ⟨outs, client, reply, checked, outs', final, last, last', hrun, hcheck, hrun', hlast,
    hlast'⟩ := errors_accounted {} (fun _ hcall => absurd hcall List.not_mem_nil) hfits
  cases hrun
  exact ⟨reply, checked, outs', final, last, last', hcheck, hrun', hlast, hlast'⟩

end Errors

end Norma
