import Norma.ServerImpl

namespace Norma

namespace ServerImpl

structure Control where
  stopping : Bool
  posted : List Posted
  acceptorOpen : Bool

def control (server : ServerImpl) : Control :=
  ⟨server.stopping, server.posted, server.acceptorOpen⟩

section Control

variable (server : ServerImpl)

@[simp] theorem acceptNext_control : server.acceptNext.control = server.control := rfl

@[simp] theorem readNext_control : server.readNext.control = server.control := by
  unfold readNext
  split <;> rfl

@[simp] theorem dropClient_control : server.dropClient.control = server.control := by
  unfold dropClient
  split <;> rfl

@[simp] theorem acceptAgain_control : server.acceptAgain.control = server.control := by
  unfold acceptAgain
  split <;> rfl

@[simp] theorem onAccept_control (result : Except IoError Unit) :
    (server.onAccept result).control = server.control := by
  cases result with
  | error error => rfl
  | ok result => exact (readNext_control _).trans (dropClient_control server)

@[simp] theorem respond_control (response : Text) (written : Bool) :
    (server.respond response written).control = server.control := by
  unfold respond
  split
  · split
    · exact readNext_control server
    · split
      · exact readNext_control server
      · exact (acceptAgain_control _).trans (dropClient_control server)
  · exact readNext_control server

theorem onLine_control {written : Bool} {result : Except IoError Nat} {after : ServerImpl}
    (h : server.onLine written result = some after) : after.control = server.control := by
  cases result with
  | error error =>
    obtain rfl := Option.some.inj h
    exact (acceptAgain_control _).trans (dropClient_control server)
  | ok length =>
    obtain ⟨⟨simulator, answer⟩, -, rfl⟩ := Option.map_eq_some_iff.mp h
    exact respond_control _ _ _

end Control

def OneOperation (server : ServerImpl) : Prop :=
  (∃ result, server.operations = [.accept result]) ∨
    (∃ result, server.operations = [.read result]) ∧ server.client.isSome = true

def AcceptFails (server : ServerImpl) : Event → Prop
  | .handler index _ => ∃ error, server.operations[index]? = some (.accept (some (.error error)))
  | _ => False

section Handlers

variable {server after : ServerImpl}

theorem acceptNext_one (h : server.operations = []) : server.acceptNext.OneOperation := by
  refine .inl ⟨if server.acceptorOpen then none else some (.error .badDescriptor), ?_⟩
  rw [acceptNext, h]
  rfl

theorem readNext_one (h : server.operations = []) : server.readNext.OneOperation := by
  unfold readNext
  cases hclient : server.client with
  | none => exact acceptNext_one h
  | some client =>
    dsimp only
    rw [h]
    exact .inr ⟨⟨_, rfl⟩, rfl⟩

theorem dropClient_operations (h : server.operations = []) : server.dropClient.operations = [] := by
  unfold dropClient
  split
  · exact congrArg (List.map Operation.abortRead) h
  · exact h

theorem acceptAgain_one (h : server.operations = []) (hstopping : server.stopping = false) :
    server.acceptAgain.OneOperation := by
  rw [acceptAgain, hstopping]
  exact acceptNext_one h

theorem dropped_one (h : server.operations = []) (hstopping : server.stopping = false) :
    server.dropClient.acceptAgain.OneOperation :=
  acceptAgain_one (dropClient_operations h)
    ((congrArg Control.stopping (dropClient_control server)).trans hstopping)

theorem respond_one (h : server.operations = []) (hstopping : server.stopping = false)
    (response : Text) (written : Bool) : (server.respond response written).OneOperation := by
  unfold respond
  split
  · split
    · exact readNext_one h
    · split
      · exact readNext_one h
      · exact dropped_one h hstopping
  · exact readNext_one h

theorem onLine_one (h : server.operations = []) (hstopping : server.stopping = false)
    {written : Bool} {result : Except IoError Nat}
    (hline : server.onLine written result = some after) : after.OneOperation := by
  cases result with
  | error error =>
    obtain rfl := Option.some.inj hline
    exact acceptAgain_one (dropClient_operations h)
      ((congrArg Control.stopping (dropClient_control server)).trans hstopping)
  | ok length =>
    obtain ⟨⟨simulator, answer⟩, -, hafter⟩ := Option.map_eq_some_iff.mp hline
    rw [← hafter]
    refine respond_one ?_ ?_ _ _
    · exact h
    · exact hstopping

theorem onAccept_one (h : server.operations = []) : (server.onAccept (.ok ())).OneOperation := by
  refine readNext_one ?_
  exact dropClient_operations h

end Handlers

structure Serving (server : ServerImpl) : Prop where
  operation : server.OneOperation
  stopping : server.stopping = false
  posted : .stop ∉ server.posted

section Steps

variable {server after : ServerImpl} {event : Event} {index : Nat} {op : Operation}

theorem OneOperation.only (h : server.OneOperation) (hindex : server.operations[index]? = some op) :
    index = 0 ∧ server.operations = [op] := by
  have hlength : ∃ other, server.operations = [other] := by
    rcases h with ⟨result, hops⟩ | ⟨⟨result, hops⟩, -⟩
    · exact ⟨_, hops⟩
    · exact ⟨_, hops⟩
  obtain ⟨other, hops⟩ := hlength
  rw [hops, List.getElem?_singleton] at hindex
  split at hindex
  · next hzero => exact ⟨hzero, hops.trans (congrArg (fun o => [o]) (Option.some.inj hindex))⟩
  · cases hindex

theorem completeAccept_one (h : server.OneOperation) {result : Except IoError Unit}
    (hstep : server.completeAccept index result = some after) :
    after.OneOperation ∧ after.control = server.control := by
  unfold completeAccept at hstep
  split at hstep
  · next hindex =>
    obtain rfl := Option.some.inj hstep
    obtain ⟨rfl, hops⟩ := h.only hindex
    exact ⟨.inl ⟨some result, congrArg (List.set · 0 _) hops⟩, rfl⟩
  · cases hstep

theorem completeRead_one (h : server.OneOperation) {result : Except IoError Nat}
    (hstep : server.completeRead index result = some after) :
    after.OneOperation ∧ after.control = server.control := by
  unfold completeRead at hstep
  split at hstep
  · next hindex =>
    obtain rfl := Option.some.inj hstep
    obtain ⟨rfl, hops⟩ := h.only hindex
    rcases h with ⟨pending, haccept⟩ | ⟨-, hclient⟩
    · rw [hops] at haccept
      cases haccept
    · exact ⟨.inr ⟨⟨some result, congrArg (List.set · 0 _) hops⟩, hclient⟩, rfl⟩
  · cases hstep

theorem runHandler_one (h : server.Serving) {written : Bool}
    (hfails : ¬server.AcceptFails (.handler index written))
    (hstep : server.runHandler index written = some after) :
    after.OneOperation ∧ after.control = server.control := by
  have herased {op : Operation} (hindex : server.operations[index]? = some op) :
      server.operations.eraseIdx index = [] := by
    obtain ⟨rfl, hops⟩ := h.operation.only hindex
    rw [hops]
    rfl
  unfold runHandler at hstep
  dsimp only at hstep
  split at hstep
  · next result hindex =>
    obtain rfl := Option.some.inj hstep
    refine ⟨?_, onAccept_control _ _⟩
    cases result with
    | error error => exact absurd ⟨error, hindex⟩ hfails
    | ok result => exact onAccept_one (herased hindex)
  · next result hindex =>
    let rest : ServerImpl := { server with operations := server.operations.eraseIdx index }
    have hline : rest.onLine written result = some after := hstep
    have hnil : rest.operations = [] := herased hindex
    exact ⟨onLine_one hnil h.stopping hline, onLine_control rest hline⟩
  · cases hstep

theorem runPosted_one (h : server.OneOperation) :
    (server.runPosted .disconnect).OneOperation := by
  unfold runPosted
  dsimp only
  split
  · next hclient =>
    rcases h with ⟨result, hops⟩ | ⟨⟨result, hops⟩, -⟩
    · exact .inl ⟨result, congrArg (List.map Operation.abortRead) hops⟩
    · exact .inr ⟨⟨result.abort, congrArg (List.map Operation.abortRead) hops⟩, rfl⟩
  · exact h

theorem Serving.of_control (h : server.Serving)
    (hafter : after.OneOperation ∧ after.control = server.control) : after.Serving where
  operation := hafter.1
  stopping := (congrArg Control.stopping hafter.2).trans h.stopping
  posted := by
    have hposted : after.posted = server.posted := congrArg Control.posted hafter.2
    rw [hposted]
    exact h.posted

theorem Serving.step (h : server.Serving) (hstop : event ≠ .stop)
    (hfails : ¬server.AcceptFails event) (hstep : server.step event = some after) :
    after.Serving := by
  cases event with
  | accepted index => exact h.of_control (completeAccept_one h.operation hstep)
  | acceptFailed index error => exact h.of_control (completeAccept_one h.operation hstep)
  | received index data =>
    obtain ⟨length, -, hread⟩ := Option.bind_eq_some_iff.mp hstep
    let given : ServerImpl := { server with rx := server.rx ++ data }
    have hgiven : given.OneOperation := h.operation
    have hone := completeRead_one hgiven hread
    exact h.of_control hone
  | readFailed index error => exact h.of_control (completeRead_one h.operation hstep)
  | handler index written =>
    unfold ServerImpl.step at hstep
    dsimp only at hstep
    split at hstep
    · obtain ⟨handled, hhandled, rfl⟩ := Option.map_eq_some_iff.mp hstep
      have hone := runHandler_one h hfails hhandled
      exact ⟨hone.1, (h.of_control hone).stopping, (h.of_control hone).posted⟩
    · cases hstep
  | posted index =>
    unfold ServerImpl.step at hstep
    dsimp only at hstep
    split at hstep
    · obtain ⟨closure, hclosure, rfl⟩ := Option.map_eq_some_iff.mp hstep
      cases closure with
      | stop => exact absurd (List.mem_of_getElem? hclosure) h.posted
      | disconnect =>
        let rest : ServerImpl := { server with posted := server.posted.eraseIdx index }
        have hrest : rest.OneOperation := h.operation
        have hkept : (rest.runPosted .disconnect).control = rest.control := by
          unfold runPosted
          dsimp only
          split <;> rfl
        have hposted : (rest.runPosted .disconnect).posted = server.posted.eraseIdx index :=
          congrArg Control.posted hkept
        have hstopping : (rest.runPosted .disconnect).stopping = server.stopping :=
          congrArg Control.stopping hkept
        refine ⟨runPosted_one hrest, hstopping.trans h.stopping, ?_⟩
        change .stop ∉ (rest.runPosted .disconnect).posted
        rw [hposted]
        exact fun hmem => h.posted (List.mem_of_mem_eraseIdx hmem)
    · cases hstep
  | stop => exact absurd rfl hstop
  | disconnectClient =>
    obtain rfl := Option.some.inj hstep
    refine ⟨h.operation, h.stopping, ?_⟩
    simpa using h.posted
  | setStalled stalled =>
    obtain rfl := Option.some.inj hstep
    exact ⟨h.operation, h.stopping, h.posted⟩
  | withSimulator action =>
    obtain rfl := Option.some.inj hstep
    exact ⟨h.operation, h.stopping, h.posted⟩

theorem AcceptFails.lost (h : server.OneOperation) (hfails : server.AcceptFails event)
    (hstep : server.step event = some after) : after.operations = [] := by
  cases event with
  | handler index written =>
    obtain ⟨error, hindex⟩ := hfails
    obtain ⟨rfl, hops⟩ := h.only hindex
    unfold ServerImpl.step at hstep
    dsimp only at hstep
    split at hstep
    · simp only [runHandler, hindex, Option.map_some, Option.some.injEq] at hstep
      rw [← hstep]
      exact congrArg (List.eraseIdx · 0) hops
    · cases hstep
  | _ => exact hfails.elim

end Steps

section Runs

variable {server last : ServerImpl} {events : List Event}

theorem run_append (first later : List Event) :
    server.run (first ++ later) = (server.run first).bind (run · later) := by
  induction first generalizing server with
  | nil => rfl
  | cons event first ih =>
    simp only [List.cons_append, run]
    cases server.step event with
    | none => rfl
    | some after => exact ih

theorem run_snoc (first : List Event) (event : Event) :
    server.run (first ++ [event]) = (server.run first).bind (step · event) := by
  rw [run_append]
  cases server.run first with
  | none => rfl
  | some middle =>
    simp only [Option.bind_some, run]
    cases middle.step event <;> rfl

theorem new_serving (simulator : NormaSimulator) : (new simulator).Serving :=
  ⟨.inl ⟨none, rfl⟩, rfl, nofun⟩

def Visits (server : ServerImpl) (events : List Event) (middle : ServerImpl) : Prop :=
  ∃ first, first <+: events ∧ server.run first = some middle

def Takes (server : ServerImpl) (events : List Event) (middle : ServerImpl)
    (event : Event) : Prop :=
  ∃ first, first ++ [event] <+: events ∧ server.run first = some middle

theorem Serving.run (h : server.Serving) (hstop : .stop ∉ events)
    (hfails : ∀ middle event, server.Takes events middle event → ¬middle.AcceptFails event)
    (hrun : server.run events = some last) : last.Serving := by
  induction events generalizing server with
  | nil =>
    obtain rfl := Option.some.inj hrun
    exact h
  | cons event events ih =>
    obtain ⟨after, hstep, hrest⟩ := Option.bind_eq_some_iff.mp hrun
    have hfirst := hfails server event ⟨[], by simp, rfl⟩
    have hafter := h.step (fun heq => hstop (by simp [heq])) hfirst hstep
    refine ih hafter (fun hmem => hstop (by simp [hmem])) ?_ hrest
    rintro middle next ⟨first, hfront, hfirst⟩
    refine hfails middle next ⟨event :: first, ?_, ?_⟩
    · simpa using hfront
    · rw [ServerImpl.run, hstep]
      exact hfirst

theorem one_operation_iff {simulator : NormaSimulator} (hstop : .stop ∉ events)
    (hrun : (new simulator).run events = some last) :
    (∀ middle, (new simulator).Visits events middle → middle.OneOperation) ↔
      ∀ middle event, (new simulator).Takes events middle event → ¬middle.AcceptFails event := by
  constructor
  · rintro hone middle event ⟨first, hfront, hfirst⟩ hfails
    obtain ⟨later, rfl⟩ := hfront
    have hmiddle := hone middle ⟨first, by simp, hfirst⟩
    have hsnoc : (new simulator).run (first ++ [event]) = middle.step event := by
      rw [run_snoc, hfirst]
      rfl
    rw [run_append, hsnoc] at hrun
    obtain ⟨after, hstep, -⟩ := Option.bind_eq_some_iff.mp hrun
    have hlost := hfails.lost hmiddle hstep
    rcases hone after ⟨first ++ [event], by simp, hsnoc.trans hstep⟩ with
      ⟨result, hops⟩ | ⟨⟨result, hops⟩, -⟩
    · rw [hlost] at hops
      cases hops
    · rw [hlost] at hops
      cases hops
  · rintro hfails middle ⟨first, ⟨later, rfl⟩, hfirst⟩
    refine ((new_serving simulator).run (fun hmem => hstop (by simp [hmem])) ?_ hfirst).operation
    rintro other event ⟨start, hfront, hstart⟩
    exact hfails other event ⟨start, hfront.trans (List.prefix_append _ _), hstart⟩

theorem client_served : ∃ last,
    (new (.new {})).run [.accepted 0, .handler 0 true] = some last ∧ last.OneOperation := by
  have hrun : ∃ last, (new (.new {})).run [.accepted 0, .handler 0 true] = some last := ⟨_, rfl⟩
  obtain ⟨last, hrun⟩ := hrun
  have hstop : .stop ∉ [Event.accepted 0, .handler 0 true] := by simp
  refine ⟨last, hrun, (one_operation_iff hstop hrun).mpr ?_ last ⟨_, List.prefix_rfl, hrun⟩⟩
  rintro middle event ⟨first, hfront, hfirst⟩ hfails
  match first with
  | [] =>
    obtain rfl : event = .accepted 0 := by simpa using hfront
    exact hfails
  | [first] =>
    obtain ⟨rfl, rfl⟩ : first = .accepted 0 ∧ event = .handler 0 true := by simpa using hfront
    obtain rfl := Option.some.inj hfirst
    obtain ⟨error, herror⟩ := hfails
    cases herror
  | _ :: _ :: _ => simp at hfront

-- The process is out of descriptors when a client connects.
theorem accept_lost : ¬∀ simulator events middle, .stop ∉ events →
    (new simulator).run events = some middle → middle.OneOperation := by
  intro hall
  have hlost : ∃ last, last.operations = [] ∧
      (new (.new {})).run [.acceptFailed 0 (.other 24), .handler 0 true] = some last :=
    ⟨_, rfl, rfl⟩
  obtain ⟨last, hnil, hrun⟩ := hlost
  rcases hall _ _ last (by simp) hrun with ⟨result, hops⟩ | ⟨⟨result, hops⟩, -⟩
  · rw [hnil] at hops
    cases hops
  · rw [hnil] at hops
    cases hops

end Runs

end ServerImpl

end Norma
