import Norma.OneOperation

namespace Norma

namespace Operation

def Succeeded : Operation → Prop
  | accept (some (.ok _)) => True
  | read (some (.ok _)) => True
  | _ => False

def Failed : Operation → Prop
  | accept (some (.error _)) => True
  | read (some (.error _)) => True
  | _ => False

end Operation

namespace ServerImpl

def PassesLine (server : ServerImpl) : Event → Prop
  | .handler index _ => server.running = true ∧
      ∃ length, server.operations[index]? = some (.read (some (.ok length)))
  | _ => False

structure Final (server : ServerImpl) : Prop where
  silent : ∀ events middle event, server.run events = some middle → ¬middle.PassesLine event
  clientless : ∀ events middle, server.run events = some middle → middle.client = none
  decreasing : ∀ events middle event after, server.run events = some middle →
    middle.step event = some after → after.operations.length ≤ middle.operations.length
  handled : ∀ events middle, server.run events = some middle →
    ∀ index < middle.operations.length, ∃ after,
      middle.step (.handler index true) = some after ∧
        after.operations.length < middle.operations.length
  returns : ∀ events middle, server.run events = some middle →
    ∃ events after, middle.run events = some after ∧ after.running = false

structure Sound (server : ServerImpl) : Prop where
  reading : .read none ∈ server.operations → server.client.isSome = true
  stopping : .stop ∈ server.posted → server.stopping = true

section Sound

variable {server after : ServerImpl} {event : Event}

theorem mem_abortRead {operations : List Operation} :
    .read none ∉ operations.map Operation.abortRead := by
  intro h
  obtain ⟨op, -, hop⟩ := List.mem_map.mp h
  cases op with
  | accept result => cases hop
  | read result =>
    cases result <;> cases hop

theorem acceptNext_reading (h : .read none ∈ server.operations → server.client.isSome = true) :
    .read none ∈ server.acceptNext.operations → server.acceptNext.client.isSome = true := by
  intro hmem
  rcases List.mem_append.mp hmem with hold | hnew
  · exact h hold
  · cases List.mem_singleton.mp hnew

theorem readNext_reading (h : .read none ∈ server.operations → server.client.isSome = true) :
    .read none ∈ server.readNext.operations → server.readNext.client.isSome = true := by
  unfold readNext
  split
  · exact acceptNext_reading h
  · next client hclient =>
    intro _
    dsimp only
    rw [hclient]
    rfl

theorem dropClient_reading (h : .read none ∈ server.operations → server.client.isSome = true) :
    .read none ∉ server.dropClient.operations := by
  unfold dropClient
  split
  · exact mem_abortRead
  · next hclient => exact fun hmem => hclient (h hmem)

theorem acceptAgain_reading (h : .read none ∈ server.operations → server.client.isSome = true) :
    .read none ∈ server.acceptAgain.operations → server.acceptAgain.client.isSome = true := by
  unfold acceptAgain
  split
  · exact h
  · exact acceptNext_reading h

theorem respond_reading (h : .read none ∈ server.operations → server.client.isSome = true)
    (response : Text) (written : Bool) :
    .read none ∈ (server.respond response written).operations →
      (server.respond response written).client.isSome = true := by
  unfold respond
  split
  · split
    · exact readNext_reading h
    · split
      · exact readNext_reading h
      · exact acceptAgain_reading fun hmem => absurd hmem (dropClient_reading h)
  · exact readNext_reading h

theorem onLine_reading (h : .read none ∈ server.operations → server.client.isSome = true)
    {written : Bool} {result : Except IoError Nat}
    (hline : server.onLine written result = some after) :
    .read none ∈ after.operations → after.client.isSome = true := by
  cases result with
  | error error =>
    obtain rfl := Option.some.inj hline
    exact acceptAgain_reading fun hmem => absurd hmem (dropClient_reading h)
  | ok length =>
    obtain ⟨⟨simulator, response⟩, -, hafter⟩ := Option.map_eq_some_iff.mp hline
    rw [← hafter]
    refine respond_reading ?_ _ _
    exact h

theorem onAccept_reading (h : .read none ∈ server.operations → server.client.isSome = true)
    (result : Except IoError Unit) :
    .read none ∈ (server.onAccept result).operations →
      (server.onAccept result).client.isSome = true := by
  cases result with
  | error error => exact h
  | ok result => exact readNext_reading fun _ => rfl

theorem Sound.of_control (h : server.Sound) (hcontrol : after.control = server.control)
    (hreading : .read none ∈ after.operations → after.client.isSome = true) : after.Sound where
  reading := hreading
  stopping hmem := by
    have hposted : after.posted = server.posted := congrArg Control.posted hcontrol
    have hstopping : after.stopping = server.stopping := congrArg Control.stopping hcontrol
    rw [hstopping]
    exact h.stopping (hposted ▸ hmem)

theorem completeAccept_sound (h : server.Sound) {index : Nat} {result : Except IoError Unit}
    (hstep : server.completeAccept index result = some after) : after.Sound := by
  unfold completeAccept at hstep
  split at hstep
  · obtain rfl := Option.some.inj hstep
    refine h.of_control rfl fun hmem => h.reading ?_
    rcases List.mem_or_eq_of_mem_set hmem with hold | hnew
    · exact hold
    · cases hnew
  · cases hstep

theorem completeRead_sound (h : server.Sound) {index : Nat} {result : Except IoError Nat}
    (hstep : server.completeRead index result = some after) : after.Sound := by
  unfold completeRead at hstep
  split at hstep
  · obtain rfl := Option.some.inj hstep
    refine h.of_control rfl fun hmem => h.reading ?_
    rcases List.mem_or_eq_of_mem_set hmem with hold | hnew
    · exact hold
    · cases hnew
  · cases hstep

theorem runHandler_sound (h : server.Sound) {index : Nat} {written : Bool}
    (hstep : server.runHandler index written = some after) : after.Sound := by
  let rest : ServerImpl := { server with operations := server.operations.eraseIdx index }
  have hrest : .read none ∈ rest.operations → rest.client.isSome = true :=
    fun hmem => h.reading (List.mem_of_mem_eraseIdx hmem)
  unfold runHandler at hstep
  dsimp only at hstep
  split at hstep
  · obtain rfl := Option.some.inj hstep
    exact h.of_control (onAccept_control rest _) (onAccept_reading hrest _)
  · exact h.of_control (onLine_control rest hstep) (onLine_reading hrest hstep)
  · cases hstep

theorem runPosted_sound (h : server.Sound) (closure : Posted) :
    (server.runPosted closure).Sound := by
  cases closure with
  | stop =>
    let closed : ServerImpl := { server with
      acceptorOpen := false
      operations := server.operations.map Operation.abortAccept }
    have hclosed : .read none ∈ closed.operations → closed.client.isSome = true := by
      intro hmem
      obtain ⟨op, hop, habort⟩ := List.mem_map.mp hmem
      cases op with
      | accept result => cases habort
      | read result =>
        cases habort
        exact h.reading hop
    have hsound : closed.Sound := ⟨hclosed, h.stopping⟩
    exact hsound.of_control (dropClient_control closed) fun hmem =>
      absurd hmem (dropClient_reading hclosed)
  | disconnect =>
    unfold runPosted
    dsimp only
    split
    · exact ⟨fun _ => rfl, h.stopping⟩
    · exact h

theorem Sound.step (h : server.Sound) (hstep : server.step event = some after) : after.Sound := by
  cases event with
  | accepted index => exact completeAccept_sound h hstep
  | acceptFailed index error => exact completeAccept_sound h hstep
  | received index data =>
    obtain ⟨length, -, hread⟩ := Option.bind_eq_some_iff.mp hstep
    let given : ServerImpl := { server with rx := server.rx ++ data }
    have hgiven : given.Sound := ⟨h.reading, h.stopping⟩
    exact completeRead_sound hgiven hread
  | readFailed index error => exact completeRead_sound h hstep
  | handler index written =>
    unfold ServerImpl.step at hstep
    dsimp only at hstep
    split at hstep
    · obtain ⟨handled, hhandled, rfl⟩ := Option.map_eq_some_iff.mp hstep
      have hsound := runHandler_sound h hhandled
      exact ⟨hsound.reading, hsound.stopping⟩
    · cases hstep
  | posted index =>
    unfold ServerImpl.step at hstep
    dsimp only at hstep
    split at hstep
    · obtain ⟨closure, -, rfl⟩ := Option.map_eq_some_iff.mp hstep
      let rest : ServerImpl := { server with posted := server.posted.eraseIdx index }
      have hrest : rest.Sound := ⟨h.reading, fun hmem => h.stopping (List.mem_of_mem_eraseIdx hmem)⟩
      have hsound := runPosted_sound hrest closure
      exact ⟨hsound.reading, hsound.stopping⟩
    · cases hstep
  | stop =>
    obtain rfl := Option.some.inj hstep
    split
    · exact h
    · exact ⟨h.reading, fun _ => rfl⟩
  | disconnectClient =>
    obtain rfl := Option.some.inj hstep
    exact ⟨h.reading, fun hmem => h.stopping (by simpa using hmem)⟩
  | setStalled stalled =>
    obtain rfl := Option.some.inj hstep
    exact ⟨h.reading, h.stopping⟩
  | withSimulator action =>
    obtain rfl := Option.some.inj hstep
    exact ⟨h.reading, h.stopping⟩

theorem run_sound {simulator : NormaSimulator} {events : List Event}
    (hrun : (new simulator).run events = some after) : after.Sound := by
  have hnew : (new simulator).Sound := by
    refine ⟨fun hmem => ?_, nofun⟩
    cases List.mem_singleton.mp hmem
  generalize new simulator = server at hrun hnew
  induction events generalizing server with
  | nil =>
    obtain rfl := Option.some.inj hrun
    exact hnew
  | cons event events ih =>
    obtain ⟨middle, hstep, hrest⟩ := Option.bind_eq_some_iff.mp hrun
    exact ih middle hrest (hnew.step hstep)

end Sound

structure Closing (server : ServerImpl) : Prop where
  client : server.client = none
  stopping : server.stopping = true
  failed : ∀ op ∈ server.operations, op.Failed
  running : server.operations ≠ [] → server.running = true
  busy : server.running = true → server.operations ≠ [] ∨ server.posted ≠ []

section Closing

variable {server after : ServerImpl} {event : Event}

theorem Closing.of_completion (h : server.Closing) {index : Nat} {op : Operation}
    (hindex : server.operations[index]? = some op) : op.Failed :=
  h.failed op (List.mem_of_getElem? hindex)

theorem Closing.dropClient (h : server.Closing) : server.dropClient = server := by
  rw [ServerImpl.dropClient, h.client]
  rfl

theorem Closing.handler (h : server.Closing) {index : Nat}
    (hindex : index < server.operations.length) (written : Bool) :
    ∃ rx, server.step (.handler index written) =
      some (settle { server with operations := server.operations.eraseIdx index, rx }) := by
  have hrunning : server.running = true := h.running (List.ne_nil_of_length_pos (by omega))
  have hget := List.getElem?_eq_getElem hindex
  have hfailed := h.of_completion hget
  generalize server.operations[index] = op at hget hfailed
  match op with
  | .accept (some (.error error)) =>
    refine ⟨server.rx, ?_⟩
    simp only [ServerImpl.step, if_pos hrunning, runHandler, hget, onAccept, Option.map_some]
  | .read (some (.error error)) =>
    refine ⟨[], ?_⟩
    simp only [ServerImpl.step, if_pos hrunning, runHandler, hget, onLine, Option.map_some,
      ServerImpl.dropClient, h.client, Option.isSome_none, Bool.false_eq_true, if_false,
      acceptAgain, h.stopping, if_true]

theorem settle_running (server : ServerImpl) (h : server.settle.operations ≠ []) :
    server.settle.running = true := by
  have hne : server.operations ≠ [] := h
  simp [settle, hne]

theorem settle_busy (server : ServerImpl) (h : server.settle.running = true) :
    server.settle.operations ≠ [] ∨ server.settle.posted ≠ [] := by
  change server.operations ≠ [] ∨ server.posted ≠ []
  simp only [settle, Bool.not_eq_true', Bool.and_eq_false_iff, List.isEmpty_eq_false_iff] at h
  exact h

theorem failed_abort {operations : List Operation} (h : ∀ op ∈ operations, op.Failed) :
    operations.map Operation.abortAccept = operations := by
  refine (List.map_congr_left (g := id) fun op hop => ?_).trans (List.map_id _)
  have hfailed := h op hop
  match op with
  | .accept (some (.error error)) => rfl
  | .read (some (.error error)) => rfl

theorem Closing.step (h : server.Closing) (hstep : server.step event = some after) :
    after.Closing ∧ after.operations.length ≤ server.operations.length := by
  have hpending {index : Nat} {op : Operation} (hget : server.operations[index]? = some op)
      (hop : ¬op.Failed) : False := hop (h.of_completion hget)
  cases event with
  | accepted index | acceptFailed index error =>
    unfold ServerImpl.step completeAccept at hstep
    dsimp only at hstep
    split at hstep
    · next hget => exact (hpending hget id).elim
    · cases hstep
  | received index data =>
    obtain ⟨length, -, hread⟩ := Option.bind_eq_some_iff.mp hstep
    unfold completeRead at hread
    dsimp only at hread
    split at hread
    · next hget => exact (hpending hget id).elim
    · cases hread
  | readFailed index error =>
    unfold ServerImpl.step completeRead at hstep
    dsimp only at hstep
    split at hstep
    · next hget => exact (hpending hget id).elim
    · cases hstep
  | handler index written =>
    have hlt : index < server.operations.length := by
      by_contra hge
      have hnone := List.getElem?_eq_none (Nat.not_lt.mp hge)
      simp [ServerImpl.step, runHandler, hnone] at hstep
    obtain ⟨rx, hhandled⟩ := h.handler hlt written
    obtain rfl := Option.some.inj (hhandled.symm.trans hstep)
    have hfailed : ∀ op ∈ server.operations.eraseIdx index, op.Failed := fun op hop =>
      h.failed op (List.mem_of_mem_eraseIdx hop)
    exact ⟨⟨h.client, h.stopping, hfailed, settle_running _, settle_busy _⟩,
      (List.eraseIdx_sublist _ _).length_le⟩
  | posted index =>
    unfold ServerImpl.step at hstep
    dsimp only at hstep
    split at hstep
    · obtain ⟨closure, -, rfl⟩ := Option.map_eq_some_iff.mp hstep
      cases closure with
      | stop =>
        simp only [runPosted, failed_abort h.failed, ServerImpl.dropClient, h.client,
          Option.isSome_none, Bool.false_eq_true, if_false]
        exact ⟨⟨rfl, h.stopping, h.failed, settle_running _, settle_busy _⟩, Nat.le_refl _⟩
      | disconnect =>
        simp only [runPosted, h.client, Option.isSome_none, Bool.false_eq_true, if_false]
        exact ⟨⟨rfl, h.stopping, h.failed, settle_running _, settle_busy _⟩, Nat.le_refl _⟩
    · cases hstep
  | stop =>
    obtain rfl := Option.some.inj hstep
    rw [if_pos h.stopping]
    exact ⟨h, Nat.le_refl _⟩
  | disconnectClient =>
    obtain rfl := Option.some.inj hstep
    exact ⟨⟨h.client, h.stopping, h.failed, h.running, fun _ => .inr (by simp)⟩, Nat.le_refl _⟩
  | setStalled stalled =>
    obtain rfl := Option.some.inj hstep
    exact ⟨⟨h.client, h.stopping, h.failed, h.running, h.busy⟩, Nat.le_refl _⟩
  | withSimulator action =>
    obtain rfl := Option.some.inj hstep
    exact ⟨⟨h.client, h.stopping, h.failed, h.running, h.busy⟩, Nat.le_refl _⟩

theorem Closing.run (h : server.Closing) {events : List Event}
    (hrun : server.run events = some after) : after.Closing := by
  induction events generalizing server with
  | nil =>
    obtain rfl := Option.some.inj hrun
    exact h
  | cons event events ih =>
    obtain ⟨middle, hstep, hrest⟩ := Option.bind_eq_some_iff.mp hrun
    exact ih (h.step hstep).1 hrest

theorem Closing.silent (h : server.Closing) : ¬server.PassesLine event := by
  intro hpasses
  cases event with
  | handler index written =>
    obtain ⟨-, length, hget⟩ := hpasses
    exact h.of_completion hget
  | _ => exact hpasses

theorem Closing.handled (h : server.Closing) {index : Nat}
    (hindex : index < server.operations.length) :
    ∃ after, server.step (.handler index true) = some after ∧
      after.operations.length < server.operations.length := by
  obtain ⟨rx, hstep⟩ := h.handler hindex true
  refine ⟨_, hstep, ?_⟩
  change (server.operations.eraseIdx index).length < server.operations.length
  rw [List.length_eraseIdx_of_lt hindex]
  omega

theorem Closing.progress (h : server.Closing) (hrunning : server.running = true) :
    ∃ event after, server.step event = some after ∧
      after.operations.length + after.posted.length <
        server.operations.length + server.posted.length := by
  rcases h.busy hrunning with hops | hposted
  · obtain ⟨rx, hstep⟩ := h.handler (List.length_pos_iff.mpr hops) true
    refine ⟨_, _, hstep, ?_⟩
    change (server.operations.eraseIdx 0).length + server.posted.length < _
    rw [List.length_eraseIdx_of_lt (List.length_pos_iff.mpr hops)]
    have hpos := List.length_pos_iff.mpr hops
    omega
  · obtain ⟨closure, rest, hcons⟩ := List.exists_cons_of_ne_nil hposted
    have hstep : server.step (.posted 0) =
        some (settle (runPosted { server with posted := rest } closure)) := by
      simp [ServerImpl.step, hrunning, hcons]
    refine ⟨_, _, hstep, ?_⟩
    have hdecreasing := (h.step hstep).2
    have hrest : (settle (runPosted { server with posted := rest } closure)).posted = rest := by
      cases closure with
      | stop => exact congrArg Control.posted (dropClient_control _)
      | disconnect =>
        change (runPosted { server with posted := rest } .disconnect).posted = rest
        simp [runPosted, h.client]
    rw [hrest, hcons, List.length_cons]
    omega

-- By induction on what is left for `io.run()`.
theorem Closing.returns (h : server.Closing) :
    ∃ events after, server.run events = some after ∧ after.running = false := by
  generalize hleft : server.operations.length + server.posted.length = left
  induction left using Nat.strong_induction_on generalizing server with
  | h left ih =>
    cases hrunning : server.running with
    | false => exact ⟨[], server, rfl, hrunning⟩
    | true =>
      obtain ⟨event, middle, hstep, hless⟩ := h.progress hrunning
      obtain ⟨events, after, hrun, hstopped⟩ := ih _ (hleft ▸ hless) (h.step hstep).1 rfl
      refine ⟨event :: events, after, ?_, hstopped⟩
      rw [ServerImpl.run, hstep]
      exact hrun

end Closing

theorem Closing.final {server : ServerImpl} (h : server.Closing) : server.Final where
  silent _ _ _ hrun := (h.run hrun).silent
  clientless _ _ hrun := (h.run hrun).client
  decreasing _ _ _ _ hrun hstep := ((h.run hrun).step hstep).2
  handled _ _ hrun _ hindex := (h.run hrun).handled hindex
  returns _ _ hrun := (h.run hrun).returns

section Stop

variable {before after : ServerImpl} {index : Nat}

theorem stop_step (hposted : before.posted[index]? = some .stop)
    (hstep : before.step (.posted index) = some after) :
    before.running = true ∧ after = settle (runPosted
      { before with posted := before.posted.eraseIdx index } .stop) := by
  unfold ServerImpl.step at hstep
  dsimp only at hstep
  split at hstep
  · next hrunning =>
    rw [hposted] at hstep
    exact ⟨hrunning, (Option.some.inj hstep).symm⟩
  · cases hstep

def closedOperation (server : ServerImpl) (op : Operation) : Operation :=
  if server.client.isSome then op.abortAccept.abortRead else op.abortAccept

theorem stop_operations (server : ServerImpl) :
    (server.runPosted .stop).operations = server.operations.map server.closedOperation := by
  unfold runPosted dropClient closedOperation
  dsimp only
  split
  · simp [closeClient]
  · rfl

theorem stop_client (server : ServerImpl) : (server.runPosted .stop).client = none := by
  unfold runPosted dropClient
  dsimp only
  split
  · rfl
  · next hclient => simpa using hclient

theorem closedOperation_succeeded {server : ServerImpl} {op : Operation} (h : op.Succeeded) :
    server.closedOperation op = op := by
  unfold closedOperation
  match op with
  | .accept (some (.ok result)) => split <;> rfl
  | .read (some (.ok length)) => split <;> rfl

theorem Sound.closedOperation (h : before.Sound) {op : Operation} (hop : op ∈ before.operations)
    (hpending : ¬op.Succeeded) : (before.closedOperation op).Failed := by
  unfold ServerImpl.closedOperation
  match op with
  | .accept none => split <;> trivial
  | .accept (some (.error error)) => split <;> trivial
  | .accept (some (.ok result)) => exact absurd trivial hpending
  | .read none =>
    rw [if_pos (h.reading hop)]
    trivial
  | .read (some (.error error)) => split <;> trivial
  | .read (some (.ok length)) => exact absurd trivial hpending

theorem Sound.closing (h : before.Sound) (hposted : before.posted[index]? = some .stop)
    (hstep : before.step (.posted index) = some after)
    (hpending : ∀ op ∈ before.operations, ¬op.Succeeded) : after.Closing := by
  obtain ⟨-, rfl⟩ := stop_step hposted hstep
  let rest : ServerImpl := { before with posted := before.posted.eraseIdx index }
  have hops : (rest.runPosted .stop).operations = rest.operations.map rest.closedOperation :=
    stop_operations rest
  have hstopping : (rest.runPosted .stop).stopping = before.stopping :=
    congrArg Control.stopping (dropClient_control _)
  refine ⟨stop_client rest, ?_, ?_, settle_running _, settle_busy _⟩
  · exact hstopping.trans (h.stopping (List.mem_of_getElem? hposted))
  · intro op hop
    change op ∈ (rest.runPosted .stop).operations at hop
    rw [hops] at hop
    obtain ⟨old, hold, rfl⟩ := List.mem_map.mp hop
    exact h.closedOperation hold (hpending old hold)

theorem queued_kept (hposted : before.posted[index]? = some .stop)
    (hstep : before.step (.posted index) = some after) {op : Operation}
    (hop : op ∈ before.operations) (hsucceeded : op.Succeeded) :
    after.running = true ∧ ∃ i : Nat, after.operations[i]? = some op := by
  obtain ⟨-, rfl⟩ := stop_step hposted hstep
  let rest : ServerImpl := { before with posted := before.posted.eraseIdx index }
  have hops : (settle (rest.runPosted .stop)).operations =
      rest.operations.map rest.closedOperation := stop_operations rest
  obtain ⟨i, hi, hget⟩ := List.getElem_of_mem hop
  have hkept : (settle (rest.runPosted .stop)).operations[i]? = some op := by
    have hold : rest.operations[i]? = some op := by rw [List.getElem?_eq_getElem hi, hget]
    rw [hops, List.getElem?_map, hold, Option.map_some, closedOperation_succeeded hsucceeded]
  refine ⟨settle_running _ fun hnil => ?_, i, hkept⟩
  rw [hnil] at hkept
  cases hkept

theorem onAccept_client (server : ServerImpl) (result : Unit) :
    (server.onAccept (.ok result)).client = some ⟨true⟩ := rfl

theorem stop_final_iff {simulator : NormaSimulator} {events : List Event}
    (hrun : (new simulator).run events = some before)
    (hposted : before.posted[index]? = some .stop)
    (hstep : before.step (.posted index) = some after) :
    after.Final ↔ ∀ op ∈ before.operations, ¬op.Succeeded := by
  constructor
  · intro hfinal op hop hsucceeded
    obtain ⟨hrunning, i, hget⟩ := queued_kept hposted hstep hop hsucceeded
    match op with
    | .accept (some (.ok result)) =>
      let rest : ServerImpl := { after with operations := after.operations.eraseIdx i }
      have hserved : after.run [.handler i true] = some (settle (rest.onAccept (.ok result))) := by
        simp only [ServerImpl.run, ServerImpl.step, if_pos hrunning, runHandler, hget,
          Option.map_some, Option.bind_some, rest]
      have hclient : (settle (rest.onAccept (.ok result))).client = none :=
        hfinal.clientless [.handler i true] _ hserved
      cases (onAccept_client rest result).symm.trans hclient
    | .read (some (.ok length)) =>
      exact hfinal.silent [] after (.handler i true) rfl ⟨hrunning, length, hget⟩
  · exact fun hpending => ((run_sound hrun).closing hposted hstep hpending).final

theorem stopped_before_clients : ∃ before after, (new (.new {})).run [.stop] = some before ∧
    before.step (.posted 0) = some after ∧ after.Final := by
  have hsteps : ∃ before after, (new (.new {})).run [.stop] = some before ∧
      before.operations = [.accept none] ∧ before.posted[0]? = some .stop ∧
        before.step (.posted 0) = some after := ⟨_, _, rfl, rfl, rfl, rfl⟩
  obtain ⟨before, after, hrun, hops, hposted, hstep⟩ := hsteps
  refine ⟨before, after, hrun, hstep, (stop_final_iff hrun hposted hstep).mpr fun op hop => ?_⟩
  rw [hops] at hop
  obtain rfl := List.mem_singleton.mp hop
  exact id

-- A client whose connection was accepted just before is served all the same.
theorem served_after_stop : ¬∀ simulator events before index after,
    (new simulator).run events = some before → before.posted[index]? = some .stop →
      before.step (.posted index) = some after → after.Final := by
  intro hall
  have hsteps : ∃ before after served, (new (.new {})).run [.accepted 0, .stop] = some before ∧
      before.posted[0]? = some .stop ∧ before.step (.posted 0) = some after ∧
        after.run [.handler 0 true] = some served ∧ served.client = some ⟨true⟩ :=
    ⟨_, _, _, rfl, rfl, rfl, rfl, rfl⟩
  obtain ⟨before, after, served, hrun, hposted, hstep, hserved, hclient⟩ := hsteps
  have hnone := (hall _ _ before 0 after hrun hposted hstep).clientless _ served hserved
  rw [hclient] at hnone
  cases hnone

end Stop

end ServerImpl

end Norma
