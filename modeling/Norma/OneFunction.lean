import Norma.StateChange
import Norma.Link

namespace Norma

-- With CONCurrent OFF, FUNCtion is a one-of-n switch.
def SimulatorState.OneOfN (state : State) : Prop :=
  state.concurrent = false → state.functions.length ≤ 1

namespace Step

def SelectsAll (step : Step) : Prop := step.isQuery = false ∧ step.key = Key.funcAll.text

def RequestsMany (step : Step) : Prop :=
  step.isQuery = true ∧ (step.key = Key.data.text ∨ step.key = Key.dataStat.text) ∧
    ∃ names, readFunctions (parseCommand step.text).args = .ok names ∧ 1 < names.length

def SelectsMany (step : Step) : Prop :=
  step.before.state.concurrent = false ∧ (step.SelectsAll ∨ step.RequestsMany)

structure AnswersOne (step : Step) : Prop where
  count : step.isQuery = true → step.key = Key.funcCoun.text →
    step.after.response = some "0" ∨ step.after.response = some "1"
  data : step.isQuery = true → step.key = Key.data.text → ∀ text, step.after.response = some text →
    text = [] ∨ text = binaryBlock 1 ∨ ∃ value, text = formatValue step.before.state value

end Step

section States

theorem OneOfN.of_modes {s t : State} (h : s.OneOfN) (hmodes : t.modes = s.modes) : t.OneOfN := by
  simp only [SimulatorState.modes, Prod.mk.injEq] at hmodes
  obtain ⟨hfunctions, hconcurrent, -⟩ := hmodes
  rw [SimulatorState.OneOfN, hconcurrent, hfunctions]
  exact h

end States

section Data

variable {a b : Access} {names : List Text} {withStatus : Bool}

theorem measured_done (h : a.measured withStatus = .done b) : ∃ text, b = a.respond text ∧
    measurementResponse a.sim.state a.sim.signal a.sim.state.functions withStatus = some text := by
  unfold Access.measured at h
  generalize measurementResponse a.sim.state a.sim.signal a.sim.state.functions withStatus =
    result at h ⊢
  cases result with
  | none => cases h
  | some text =>
    obtain rfl := Handled.done.inj h
    exact ⟨text, rfl, rfl⟩

theorem measured_decides : (∃ c, a.measured withStatus = .done c) ∨
    a.measured withStatus = .crashes := by
  unfold Access.measured
  cases measurementResponse a.sim.state a.sim.signal a.sim.state.functions withStatus with
  | none => exact .inr rfl
  | some text => exact .inl ⟨_, rfl⟩

theorem data_decides : (∃ c, a.data withStatus = .done c) ∨ a.data withStatus = .crashes := by
  unfold Access.data
  split
  · exact .inl ⟨_, rfl⟩
  · split
    · exact measured_decides
    · unfold Access.readFunctionList
      split
      · exact .inl ⟨_, rfl⟩
      · split
        · exact .inl ⟨_, rfl⟩
        · exact measured_decides

def readoutKey (withStatus : Bool) : Key := if withStatus then .dataStat else .data

theorem execute_data (h : execute (readoutKey withStatus) a = some b) :
    a.data withStatus = .done b := by
  unfold execute at h
  have hdecides : (∃ c, a.data withStatus = .done c) ∨ a.data withStatus = .crashes := data_decides
  rcases hdecides with ⟨c, hdata⟩ | hdata
  · have hdispatch : dispatch (readoutKey withStatus) a = .done c := by
      cases withStatus <;> exact congrArg (Handled.orElse · _) hdata
    rw [hdispatch] at h
    obtain rfl := Option.some.inj h
    exact hdata
  · have hdispatch : dispatch (readoutKey withStatus) a = .crashes := by
      cases withStatus <;> exact congrArg (Handled.orElse · _) hdata
    rw [hdispatch] at h
    cases h

theorem data_requests (hquery : a.command.query = true)
    (hread : readFunctions a.command.args = .ok names) (hne : names ≠ [])
    (h : a.data withStatus = .done b) :
    b.sim.state = Setting.functions.set a.sim.state names := by
  have hargs : a.command.args ≠ [] := by
    intro hnil
    rw [hnil] at hread
    exact hne (Except.ok.inj hread).symm
  rw [Access.data, if_neg (by simp [hquery]), if_neg hargs, Access.readFunctionList,
    if_neg hargs, hread] at h
  obtain ⟨text, rfl, -⟩ := measured_done h
  rfl

theorem measurementResponse_one {state : State} {signal : SimulatedSignal Float} {text : Text}
    (h : measurementResponse state signal names false = some text) (hone : names.length ≤ 1) :
    text = [] ∨ text = binaryBlock 1 ∨ ∃ value, text = formatValue state value := by
  match names, hone with
  | [], _ => exact .inl (Option.some.inj h).symm
  | [name], _ =>
    rw [measurementResponse, if_neg (List.cons_ne_nil _ _)] at h
    split at h
    · exact .inr (.inl (Option.some.inj h).symm)
    · obtain ⟨measurements, hmeasured, rfl⟩ := Option.map_eq_some_iff.mp h
      cases hname : measure state signal name with
      | none => simp [measureAll, hname] at hmeasured
      | some m =>
        obtain rfl : [m] = measurements := by simpa [measureAll, hname] using hmeasured
        exact .inr (.inr ⟨m.value, by simp [join]⟩)

end Data

section Steps

variable {step : Step}

theorem funcAll_of_text : ∀ key ∈ [Key.funcAll, .funcCoun], ∀ spec ∈ commandSpecs,
    spec.key.text = key.text → spec.key = key := by
  decide +kernel

theorem readoutKey_of_text (withStatus : Bool) : ∀ spec ∈ commandSpecs,
    spec.key.text = (readoutKey withStatus).text → spec.key = readoutKey withStatus := by
  cases withStatus <;> exact key_of_text _ (by simp [readoutKey])

theorem Step.SelectsAll.functions (h : step.SelectsAll) (hvalid : step.Valid) :
    step.after.sim.state = Setting.functions.set step.before.state allFunctions := by
  obtain ⟨a, b, rest, ha, hexecute, hafter⟩ :=
    hvalid.executed (funcAll_of_text .funcAll (by simp)) h.2
  have hrun : execute .funcAll a = some (a.commandOnly (a.assign .functions allFunctions)) := rfl
  have hset : a.command.query = false := ha.query.trans h.1
  rw [hrun, Access.commandOnly, if_neg (by simp [hset])] at hexecute
  obtain rfl := Option.some.inj hexecute
  rw [hafter, ← ha.sim]
  rfl

theorem Step.RequestsMany.functions (h : step.RequestsMany) (hvalid : step.Valid) :
    ∃ names, 1 < names.length ∧
      step.after.sim.state = Setting.functions.set step.before.state names := by
  obtain ⟨hquery, hkey, names, hread, hmany⟩ := h
  obtain ⟨withStatus, hkey⟩ : ∃ withStatus, step.key = (readoutKey withStatus).text :=
    hkey.elim (⟨false, ·⟩) (⟨true, ·⟩)
  obtain ⟨a, b, rest, ha, hexecute, hafter⟩ := hvalid.executed (readoutKey_of_text withStatus) hkey
  have hne : names ≠ [] := by
    rintro rfl
    simp at hmany
  have hstate := data_requests (ha.query.trans hquery) (by rw [ha.args, hread]) hne
    (execute_data hexecute)
  refine ⟨names, hmany, ?_⟩
  rw [hafter, ← ha.sim, ← hstate]
  rfl

theorem Step.SelectsMany.not_oneOfN (h : step.SelectsMany) (hvalid : step.Valid) :
    ¬step.after.sim.state.OneOfN := by
  obtain ⟨hoff, hall | hmany⟩ := h
  · rw [hall.functions hvalid]
    have hmany : ¬allFunctions.length ≤ 1 := by decide
    exact fun hone => hmany (hone hoff)
  · obtain ⟨names, hlong, hstate⟩ := hmany.functions hvalid
    rw [hstate]
    exact fun hone => absurd (hone hoff) (Nat.not_le.mpr hlong)

theorem Step.Valid.oneOfN (h : step.Valid) (hs : step.before.state.OneOfN)
    (hfew : ¬step.SelectsMany) : step.after.sim.state.OneOfN := by
  rcases h.switched with hmodes | ⟨a, ha, hswitched⟩
  · exact OneOfN.of_modes hs hmodes
  · rw [← ha.sim] at hs
    generalize step.after.sim.state = after at hswitched ⊢
    cases hswitched with
    | @requested names hquery hread hkey =>
      intro hoff
      by_contra hmany
      rw [ha.key] at hkey
      rw [ha.args] at hread
      have hbefore : step.before.state.concurrent = false := by rw [← ha.sim]; exact hoff
      exact hfew ⟨hbefore, .inr ⟨ha.query.symm.trans hquery, hkey, names, hread,
        Nat.not_le.mp hmany⟩⟩
    | functions hset hkey hread hroom =>
      exact fun hoff => hroom.resolve_left (Bool.eq_false_iff.mp hoff)
    | allFunctions hset hkey =>
      intro hoff
      have hbefore : step.before.state.concurrent = false := by rw [← ha.sim]; exact hoff
      exact absurd ⟨hbefore, .inl ⟨ha.query.symm.trans hset, ha.key.symm.trans hkey⟩⟩ hfew
    | noFunctions => exact fun _ => Nat.zero_le 1
    | concurrent hroom =>
      intro hoff
      cases hold : a.sim.state.concurrent with
      | true => exact hroom hold hoff
      | false => exact hs hold
    | oneFunction => exact fun _ => List.length_take_le 1 _
    | format hset hpair => cases hpair <;> exact hs
    | reset => exact fun _ => Nat.zero_le 1
    | _ => exact hs

theorem Step.Valid.answersOne (h : step.Valid) (hs : step.before.state.OneOfN)
    (hoff : step.before.state.concurrent = false) (hfew : ¬step.SelectsMany) :
    step.AnswersOne where
  count hquery hkey := by
    obtain ⟨a, b, rest, ha, hexecute, hafter⟩ :=
      h.executed (funcAll_of_text .funcCoun (by simp)) hkey
    have hrun : execute .funcCoun a =
      some (a.queryOnly (a.respond (toText a.sim.state.functions.length))) := rfl
    rw [hrun, Access.queryOnly, if_pos (ha.query.trans hquery)] at hexecute
    obtain rfl := Option.some.inj hexecute
    have hone := hs hoff
    rw [hafter, ha.sim]
    obtain hnone | hsingle : step.before.state.functions.length = 0 ∨
        step.before.state.functions.length = 1 := by omega
    · exact .inl (by rw [hnone]; rfl)
    · exact .inr (by rw [hsingle]; rfl)
  data hquery hkey text htext := by
    obtain ⟨a, b, rest, ha, hexecute, hafter⟩ := h.executed (readoutKey_of_text false) hkey
    have hdata := execute_data hexecute
    have hread : a.command.query = true := ha.query.trans hquery
    rw [hafter] at htext
    change b.command.response = some text at htext
    rw [Access.data, if_neg (by simp [hread])] at hdata
    split at hdata
    · obtain ⟨response, rfl, hresponse⟩ := measured_done hdata
      obtain rfl := Option.some.inj htext
      rw [ha.sim] at hresponse
      exact measurementResponse_one hresponse (hs hoff)
    · unfold Access.readFunctionList at hdata
      split at hdata
      · obtain rfl := Handled.done.inj hdata
        cases ha.response.symm.trans htext
      · split at hdata
        · obtain rfl := Handled.done.inj hdata
          cases ha.response.symm.trans htext
        · next names hnames =>
          obtain ⟨response, rfl, hresponse⟩ := measured_done hdata
          obtain rfl := Option.some.inj htext
          rw [ha.args] at hnames
          have hone : names.length ≤ 1 := by
            by_contra hmany
            exact hfew ⟨hoff, .inr ⟨hquery, .inl hkey, names, hnames, Nat.not_le.mp hmany⟩⟩
          have hresult := measurementResponse_one hresponse hone
          rw [show (a.assign .functions names).sim.state =
            Setting.functions.set step.before.state names from by rw [← ha.sim]; rfl] at hresult
          exact hresult

theorem concurrent_off_iff {options : SimulatorOptions} {moves : List Move}
    (husage : Usage (.new options) moves) :
    ((∀ move ∈ moves, move.after.state.OneOfN) ↔
        ∀ step, .command step ∈ moves → ¬step.SelectsMany) ∧
      ((∀ step, .command step ∈ moves → ¬step.SelectsMany) →
        ∀ step, .command step ∈ moves → step.before.state.concurrent = false →
          step.AnswersOne) := by
  have hlinked := husage.linked
  have hnew : (NormaSimulator.new options).state.OneOfN := fun _ => Nat.zero_le 1
  have hiff := hlinked.forall_iff (P := SimulatorState.OneOfN) (Q := fun step => ¬step.SelectsMany)
    (fun step hvalid hs => ⟨fun hone hmany => hmany.not_oneOfN hvalid hone,
      fun hfew => hvalid.oneOfN hs hfew⟩) hnew
  refine ⟨hiff, fun hfew step hstep hoff => ?_⟩
  obtain ⟨hvalid, hs⟩ := hlinked.before hnew (hiff.mpr hfew) step hstep
  exact hvalid.answersOne hs hoff (hfew step hstep)

def NormaSimulator.concurrentOff (sim : NormaSimulator) : NormaSimulator :=
  { sim with state := { sim.state with concurrent := false } }

theorem handleCommand_concurrentOff (sim : NormaSimulator) (hnone : sim.state.functions = []) :
    ∃ path, handleCommand sim [] "FUNC:CONC OFF" = some ⟨sim.concurrentOff, path, none, false⟩ := by
  have hparse : parseCommand "FUNC:CONC OFF" = ⟨"FUNC:CONC", false, ["OFF"]⟩ := by decide +kernel
  have hheader : Addresses "FUNC:CONC" .funcConc [] := by decide +kernel
  have hoff : parseBoolean (unquote "OFF") = some false := by decide +kernel
  let a : Access := ⟨sim, (Parsed.command ⟨"FUNC:CONC", false, ["OFF"]⟩
    (headerTokens [] "FUNC:CONC") Key.funcConc.text [])⟩
  have hgiven : a.GivenBool false := ⟨unquote "OFF", rfl, hoff⟩
  have hboolean : a.boolean .concurrent = a.assign .concurrent false :=
    Access.boolean_given rfl hgiven
  have hswitch : a.concurrent = a.assign .concurrent false := by
    unfold Access.concurrent
    rw [hboolean]
    refine if_neg ?_
    rw [show (a.assign .concurrent false).sim.state.functions = sim.state.functions from rfl, hnone]
    simp
  exact handleCommand_runs hparse hheader (congrArg some hswitch)

theorem handleCommand_funcAll (sim : NormaSimulator) : ∃ path, handleCommand sim [] "FUNC:ALL" =
    some ⟨{ sim with state := Setting.functions.set sim.state allFunctions }, path, none,
      false⟩ := by
  have hparse : parseCommand "FUNC:ALL" = ⟨"FUNC:ALL", false, []⟩ := by decide +kernel
  have hheader : Addresses "FUNC:ALL" .funcAll [] := by decide +kernel
  have hrun (a : Access) :
      execute .funcAll a = some (a.commandOnly (a.assign .functions allFunctions)) := rfl
  exact handleCommand_runs hparse hheader (hrun _)

theorem concurrentOff_one : ∃ moves, Usage (.new {}) moves ∧ moves ≠ [] ∧
    ∀ move ∈ moves, move.after.state.OneOfN ∧ move.after.state.concurrent = false := by
  obtain ⟨path, hout⟩ := handleCommand_concurrentOff (.new {}) rfl
  have husage := Usage.command (by decide +kernel) (by decide +kernel) (by decide) hout (.done _)
  refine ⟨_, husage, by simp, fun move hmove => ⟨?_, ?_⟩⟩
  · refine (concurrent_off_iff husage).1.mpr (fun step hstep hmany => ?_) move hmove
    obtain rfl := Move.command.inj (List.mem_singleton.mp hstep)
    have hkey : commandKey [] "FUNC:CONC OFF" = "FUNC:CONC" := by decide +kernel
    rcases hmany.2 with hall | hmany
    · exact absurd (hkey.symm.trans hall.2) (by decide)
    · exact hmany.2.1.elim (fun h => absurd (hkey.symm.trans h) (by decide))
        fun h => absurd (hkey.symm.trans h) (by decide)
  · obtain rfl := List.mem_singleton.mp hmove
    rfl

theorem all_functions_concurrent_off : ¬∀ sim, Reachable sim → sim.state.OneOfN := by
  intro hall
  let sim : NormaSimulator := .new {}
  obtain ⟨path, hoff⟩ := handleCommand_concurrentOff sim rfl
  obtain ⟨path', hselect⟩ := handleCommand_funcAll sim.concurrentOff
  have hline := handleLine_single (by decide) (by decide) (by decide +kernel) (by decide) hoff
  have hline' := handleLine_single (by decide) (by decide) (by decide +kernel) (by decide) hselect
  have hone := hall _ (.line (.line (.new {}) _ hline) _ hline')
  have hmany : ¬allFunctions.length ≤ 1 := by decide
  exact hmany (hone rfl)

end Steps

end Norma
