import Norma.Prepare
import Mathlib.Logic.Relation

namespace Norma

open ScpiClient

-- The call a response in the pipe was produced for, and whether that call is a query.
structure Owner where
  call : Nat
  asked : Bool
  deriving DecidableEq

-- `owners` runs parallel to the responses of the transport; `thrown` is set once a read has thrown.
structure History where
  client : SimulatorClient
  owners : List Owner := []
  calls : Nat := 0
  thrown : Bool := false

inductive Action where
  | send (command : Text)
  | query (command : Text)
  | stallReads (on : Bool)
  | failReads (on : Bool)
  deriving DecidableEq

def Fault.fromRead : Fault → Bool
  | .timeout _ => true
  | .connection _ => true
  | _ => false

def readFault (client : SimulatorClient) : Bool :=
  client.transport.stallReads || client.transport.failReads

def produced (client : SimulatorClient) (command : Text) : Nat :=
  match writeLine command client.timeout client with
  | none => 0
  | some (_, written) =>
      written.transport.responses.length - client.transport.responses.length

namespace History

def withOwners (h : History) (command : Text) (asked : Bool) : List Owner :=
  h.owners ++ List.replicate (produced h.client command) ⟨h.calls, asked⟩

-- The second part is set when a query returns: it says whose response it returned.
def step (h : History) : Action → Option (History × Option Owner)
  | .send command =>
      (send command h.client).map fun (_, after) =>
        ({ h with client := after, owners := h.withOwners command false, calls := h.calls + 1 },
          none)
  | .query command =>
      (query command h.client).map fun (result, after) =>
        match result with
        | .ok _ =>
            ({ h with
                client := after
                owners := (h.withOwners command true).tail
                calls := h.calls + 1 },
              (h.withOwners command true).head?)
        | .error fault =>
            ({ h with
                client := after
                owners := h.withOwners command true
                calls := h.calls + 1
                thrown := h.thrown || fault.fromRead },
              none)
  | .stallReads on =>
      some ({ h with
        client := { h.client with transport := { h.client.transport with stallReads := on } } },
        none)
  | .failReads on =>
      some ({ h with
        client := { h.client with transport := { h.client.transport with failReads := on } } },
        none)

def Next (h after : History) : Prop := ∃ action owner, h.step action = some (after, owner)

abbrev Runs : History → History → Prop := Relation.ReflTransGen Next

def started (sim : NormaSimulator) : History := { client := opened sim }

def Clean (h : History) : Action → Prop
  | .query command =>
      hasLineTerminator command = false →
        (readFault h.client = true →
          (∀ owner ∈ h.owners, owner.asked = false) ∧ produced h.client command = 0) ∧
        (h.thrown = true → produced h.client command = 0 ∨ h.owners = [])
  | _ => True

def CleanNext (h after : History) : Prop :=
  ∃ action owner, h.Clean action ∧ h.step action = some (after, owner)

abbrev CleanRuns : History → History → Prop := Relation.ReflTransGen CleanNext

structure Tracked (h : History) : Prop where
  writable : h.client.Writable
  parallel : h.owners.length = h.client.transport.responses.length

structure Settled (h : History) : Prop extends Tracked h where
  settled : h.thrown = true → ∀ owner ∈ h.owners, owner.asked = false

section Read

variable {t : SimulatorTransport} {client : SimulatorClient} {command : Text}
  {sim : NormaSimulator} {response : Option Text}

theorem readLine_cases (hopen : t.isOpen = true) (timeout : Int) :
    (∃ fault, t.readLine timeout = (.error fault, t) ∧ fault.fromRead = true ∧
      ((t.stallReads || t.failReads) = true ∨ t.responses = [])) ∨
    ∃ line rest, t.responses = line :: rest ∧ (t.stallReads || t.failReads) = false ∧
      t.readLine timeout = (.ok line, { t with responses := rest }) := by
  by_cases hfail : t.failReads = true
  · exact .inl ⟨_, by simp [SimulatorTransport.readLine, hopen, hfail]; rfl, rfl, by simp [hfail]⟩
  · by_cases hstall : t.stallReads = true
    · exact .inl ⟨_, by simp [SimulatorTransport.readLine, hopen, hfail, hstall]; rfl, rfl,
        by simp [hstall]⟩
    · cases hpipe : t.responses with
      | nil =>
        exact .inl ⟨_, by simp [SimulatorTransport.readLine, hopen, hfail, hstall, hpipe]; rfl, rfl,
          .inr rfl⟩
      | cons line rest =>
        exact .inr ⟨line, rest, rfl, by simp [hfail, hstall],
          by simp [SimulatorTransport.readLine, hopen, hfail, hstall, hpipe]⟩

theorem produced_rejected (hrejected : hasLineTerminator command = true) :
    produced client command = 0 := by
  simp [produced, writeLine, hrejected, Session.throw]

theorem produced_eq (hwritable : client.Writable) (hplain : hasLineTerminator command = false)
    (hline : client.sim.handleLine command = some (sim, response)) :
    produced client command = response.toList.length := by
  simp [produced, writeLine_eq hwritable hplain, hline, withResponse, withSim]

theorem produced_le_one (hwritable : client.Writable)
    (hplain : hasLineTerminator command = false) : produced client command ≤ 1 := by
  cases hline : client.sim.handleLine command with
  | none => simp [produced, writeLine_eq hwritable hplain, hline]
  | some outcome =>
    obtain ⟨sim, response⟩ := outcome
    rw [produced_eq hwritable hplain hline]
    cases response <;> simp

theorem query_eq (hwritable : client.Writable) (hplain : hasLineTerminator command = false)
    (hline : client.sim.handleLine command = some (sim, response)) :
    query command client =
      some ((((client.withSim sim).withResponse response).transport.readLine client.timeout).1,
        { client with transport :=
          (((client.withSim sim).withResponse response).transport.readLine client.timeout).2 }) := by
  have hwrite : writeLine command client.timeout client =
      some (.ok (), (client.withSim sim).withResponse response) := by
    rw [writeLine_eq hwritable hplain, hline]
    rfl
  rw [query, queryWithin, Session.bind_ok hwrite]
  rfl

theorem query_none (hwritable : client.Writable) (hplain : hasLineTerminator command = false)
    (hline : client.sim.handleLine command = none) : query command client = none := by
  have hwrite : writeLine command client.timeout client = none := by
    rw [writeLine_eq hwritable hplain, hline]
    rfl
  exact Session.bind_none hwrite _

end Read

variable {h after : History} {command : Text} {owner : Option Owner}

theorem Tracked.send (ht : h.Tracked) (hstep : h.step (.send command) = some (after, owner)) :
    after.Tracked ∧ after.owners = h.withOwners command false ∧ after.thrown = h.thrown ∧
      owner = none := by
  obtain ⟨⟨result, client⟩, hsend, hpair⟩ := Option.map_eq_some_iff.mp hstep
  cases hpair
  by_cases hrejected : hasLineTerminator command = true
  · obtain ⟨message, hwrite⟩ := writeLine_rejected h.client hrejected h.client.timeout
    rw [ScpiClient.send, hwrite] at hsend
    cases hsend
    have howners : h.withOwners command false = h.owners := by
      simp [withOwners, produced_rejected hrejected]
    exact ⟨⟨ht.writable, by rw [howners]; exact ht.parallel⟩, rfl, rfl, rfl⟩
  · simp only [Bool.not_eq_true] at hrejected
    cases hline : h.client.sim.handleLine command with
    | none =>
      rw [ScpiClient.send, writeLine_eq ht.writable hrejected, hline] at hsend
      cases hsend
    | some outcome =>
      obtain ⟨sim, response⟩ := outcome
      have hproduced := produced_eq ht.writable hrejected hline
      rw [ScpiClient.send, writeLine_eq ht.writable hrejected, hline] at hsend
      cases hsend
      refine ⟨⟨⟨ht.writable.1, ht.writable.2, ht.writable.3⟩, ?_⟩, rfl, rfl, rfl⟩
      simp [withOwners, hproduced, ht.parallel, withResponse, withSim]

theorem Tracked.query (ht : h.Tracked) (hstep : h.step (.query command) = some (after, owner)) :
    after.Tracked ∧
      ((hasLineTerminator command = true ∧ owner = none ∧
          after = { h with calls := h.calls + 1 }) ∨
        (hasLineTerminator command = false ∧ owner = none ∧ after.thrown = true ∧
          after.owners = h.withOwners command true ∧
          (readFault h.client = true ∨ h.withOwners command true = [])) ∨
        (readFault h.client = false ∧ after.thrown = h.thrown ∧
          hasLineTerminator command = false ∧
          h.withOwners command true = owner.toList ++ after.owners ∧ owner.isSome = true)) := by
  by_cases hrejected : hasLineTerminator command = true
  · obtain ⟨message, hquery⟩ : ∃ message, ScpiClient.query command h.client =
        some (.error (.invalidArgument message), h.client) := query_rejected h.client hrejected
    have howners : h.withOwners command true = h.owners := by
      simp [withOwners, produced_rejected hrejected]
    simp only [step, hquery, Option.map_some, howners, Fault.fromRead, Bool.or_false] at hstep
    cases hstep
    exact ⟨⟨ht.writable, ht.parallel⟩, .inl ⟨hrejected, rfl, rfl⟩⟩
  · simp only [Bool.not_eq_true] at hrejected
    cases hline : h.client.sim.handleLine command with
    | none =>
      rw [step, query_none ht.writable hrejected hline] at hstep
      cases hstep
    | some result =>
      obtain ⟨sim, response⟩ := result
      have hproduced := produced_eq ht.writable hrejected hline
      have hlength : (h.withOwners command true).length =
          (h.client.transport.responses ++ response.toList).length := by
        simp [withOwners, hproduced, ht.parallel]
      have hopen := ht.writable.isOpen
      simp only [step, query_eq ht.writable hrejected hline, Option.map_some] at hstep
      rcases readLine_cases (t := ((h.client.withSim sim).withResponse response).transport) hopen
        h.client.timeout with ⟨fault, hread, hfault, hcause⟩ | ⟨line, rest, hpipe, hfault, hread⟩
      · simp only [hread, hfault, Bool.or_true] at hstep
        cases hstep
        refine ⟨⟨⟨ht.writable.1, ht.writable.2, ht.writable.3⟩, hlength⟩,
          .inr (.inl ⟨hrejected, rfl, rfl, rfl, hcause.imp id fun hempty => ?_⟩)⟩
        exact List.length_eq_zero_iff.mp (hlength.trans (List.length_eq_zero_iff.mpr hempty))
      · simp only [hread] at hstep
        have hcons : (h.withOwners command true).length = rest.length + 1 := by
          rw [hlength]
          exact congrArg List.length hpipe
        obtain ⟨first, others, howners⟩ := List.exists_cons_of_length_eq_add_one hcons
        rw [howners] at hstep hcons
        cases hstep
        refine ⟨⟨⟨ht.writable.1, ht.writable.2, ht.writable.3⟩, by simpa using hcons⟩,
          .inr (.inr ⟨hfault, rfl, hrejected, howners, rfl⟩)⟩

theorem Tracked.toggle (ht : h.Tracked) {action : Action} (haction : ∀ command,
    action ≠ .send command ∧ action ≠ .query command)
    (hstep : h.step action = some (after, owner)) :
    after.Tracked ∧ after.owners = h.owners ∧ after.thrown = h.thrown ∧ owner = none := by
  cases action with
  | send command => exact absurd rfl (haction command).1
  | query command => exact absurd rfl (haction command).2
  | stallReads on =>
    cases hstep
    exact ⟨⟨⟨ht.writable.1, ht.writable.2, ht.writable.3⟩, ht.parallel⟩, rfl, rfl, rfl⟩
  | failReads on =>
    cases hstep
    exact ⟨⟨⟨ht.writable.1, ht.writable.2, ht.writable.3⟩, ht.parallel⟩, rfl, rfl, rfl⟩

theorem mem_withOwners {asked : Bool} {entry : Owner} (h' : entry ∈ h.withOwners command asked) :
    entry ∈ h.owners ∨ entry = ⟨h.calls, asked⟩ ∧ produced h.client command ≠ 0 := by
  rcases List.mem_append.mp h' with hold | hnew
  · exact .inl hold
  · obtain ⟨hne, rfl⟩ := List.mem_replicate.mp hnew
    exact .inr ⟨rfl, hne⟩

theorem Settled.step {action : Action} (hs : h.Settled) (hclean : h.Clean action)
    (hstep : h.step action = some (after, owner)) : after.Settled := by
  cases action with
  | send command =>
    obtain ⟨htracked, howners, hthrown, -⟩ := hs.toTracked.send hstep
    refine ⟨htracked, fun hafter entry hentry => ?_⟩
    rw [hthrown] at hafter
    rw [howners] at hentry
    rcases mem_withOwners hentry with hold | ⟨rfl, -⟩
    · exact hs.settled hafter entry hold
    · rfl
  | query command =>
    obtain ⟨htracked, ⟨-, -, rfl⟩ | ⟨hplain, -, -, howners, hcause⟩ |
      ⟨-, hthrown, hplain, howners, hreturned⟩⟩ := hs.toTracked.query hstep
    · exact ⟨htracked, hs.settled⟩
    · refine ⟨htracked, fun _ entry hentry => ?_⟩
      rw [howners] at hentry
      rcases hcause with hfault | hempty
      · obtain ⟨hasked, hnone⟩ := (hclean hplain).1 hfault
        rcases mem_withOwners hentry with hold | ⟨-, hproduced⟩
        · exact hasked entry hold
        · exact absurd hnone hproduced
      · rw [hempty] at hentry
        cases hentry
    · refine ⟨htracked, fun hafter entry hentry => ?_⟩
      rw [hthrown] at hafter
      have hmem : entry ∈ h.withOwners command true := by
        rw [howners]
        exact List.mem_append_right _ hentry
      rcases mem_withOwners hmem with hold | ⟨rfl, hproduced⟩
      · exact hs.settled hafter entry hold
      · rcases (hclean hplain).2 hafter with hnone | hempty
        · exact absurd hnone hproduced
        · -- The pipe held nothing but this answer, which the query took.
          have hlength := congrArg List.length howners
          have hone := produced_le_one hs.writable hplain
          have hpos := Option.isSome_iff_exists.mp hreturned
          obtain ⟨taken, rfl⟩ := hpos
          have hentries := List.length_pos_of_mem hentry
          simp only [withOwners, hempty, List.nil_append, List.length_replicate, Option.toList_some,
            List.length_append, List.length_singleton] at hlength
          omega
  | stallReads on =>
    obtain ⟨htracked, howners, hthrown, -⟩ := hs.toTracked.toggle (by simp) hstep
    exact ⟨htracked, by rw [howners, hthrown]; exact hs.settled⟩
  | failReads on =>
    obtain ⟨htracked, howners, hthrown, -⟩ := hs.toTracked.toggle (by simp) hstep
    exact ⟨htracked, by rw [howners, hthrown]; exact hs.settled⟩

theorem started_settled (sim : NormaSimulator) : (started sim).Settled :=
  ⟨⟨(idle_opened sim).writable, rfl⟩, by simp [started]⟩

theorem CleanRuns.settled {sim : NormaSimulator} (hrun : CleanRuns (started sim) h) :
    h.Settled := by
  induction hrun with
  | refl => exact started_settled sim
  | tail _ hnext ih =>
    obtain ⟨action, owner, hclean, hstep⟩ := hnext
    exact ih.step hclean hstep

theorem late_response_not_taken {sim : NormaSimulator} (hrun : CleanRuns (started sim) h)
    {entry : Owner} (hthrown : h.thrown = true)
    (hstep : h.step (.query command) = some (after, some entry)) :
    entry.asked = true → entry.call = h.calls := by
  have hs := CleanRuns.settled hrun
  obtain ⟨-, ⟨-, hnone, -⟩ | ⟨-, hnone, -⟩ | ⟨-, -, -, howners, -⟩⟩ := hs.toTracked.query hstep
  · cases hnone
  · cases hnone
  · intro hasked
    have hmem : entry ∈ h.withOwners command true := by
      rw [howners]
      exact List.mem_append_left _ (by simp)
    rcases mem_withOwners hmem with hold | ⟨rfl, -⟩
    · rw [hs.settled hthrown entry hold] at hasked
      cases hasked
    · rfl

section Runs

variable {sim after : NormaSimulator} {command line : Text}

def stalled (sim : NormaSimulator) (on : Bool) (responses : List Text) : SimulatorClient :=
  { transport := { simulator := sim, isOpen := true, stallReads := on, responses } }

theorem stalled_writable (sim : NormaSimulator) (on : Bool) (responses : List Text) :
    (stalled sim on responses).Writable :=
  ⟨rfl, rfl, rfl⟩

theorem step_stalled (hplain : hasLineTerminator command = false) {response : Option Text}
    (hline : sim.handleLine command = some (after, response)) (calls : Nat) :
    (⟨stalled sim true [], [], calls, false⟩ : History).step (.query command) =
      some (⟨stalled after true response.toList, List.replicate response.toList.length ⟨calls, true⟩,
        calls + 1, true⟩, none) := by
  have hquery := query_eq (stalled_writable sim true []) hplain hline
  have hproduced := produced_eq (stalled_writable sim true []) hplain hline
  rw [step, hquery, withOwners, hproduced]
  rfl

theorem step_answered (hplain : hasLineTerminator command = false)
    (hline : sim.handleLine command = some (after, some line)) (calls : Nat) (thrown : Bool) :
    (⟨stalled sim false [], [], calls, thrown⟩ : History).step (.query command) =
      some (⟨stalled after false [], [], calls + 1, thrown⟩, some ⟨calls, true⟩) := by
  have hquery := query_eq (stalled_writable sim false []) hplain hline
  have hproduced := produced_eq (stalled_writable sim false []) hplain hline
  rw [step, hquery, withOwners, hproduced]
  rfl

theorem silent_stall_settles : ∃ h after : History,
    CleanRuns (started (.new {})) h ∧ h.thrown = true ∧
      h.step (.query "SYST:ERR?") = some (after, some ⟨1, true⟩) ∧
      (true = true → 1 = h.calls) := by
  have hstall : CleanNext (started (.new {})) ⟨stalled (.new {}) true [], [], 0, false⟩ :=
    ⟨.stallReads true, none, trivial, rfl⟩
  have hthrow : CleanNext ⟨stalled (.new {}) true [], [], 0, false⟩
      ⟨stalled (NormaSimulator.new {}).clearStatus true [], [], 1, true⟩ := by
    refine ⟨.query "*CLS", none, fun hplain => ⟨fun _ => ⟨by simp, ?_⟩, by simp⟩,
      step_stalled (by decide +kernel) (handleLine_clearStatus _) 0⟩
    exact produced_eq (stalled_writable _ true []) hplain (handleLine_clearStatus _)
  have hresume : CleanNext ⟨stalled (NormaSimulator.new {}).clearStatus true [], [], 1, true⟩
      ⟨stalled (NormaSimulator.new {}).clearStatus false [], [], 1, true⟩ :=
    ⟨.stallReads false, none, trivial, rfl⟩
  have hrun := ((Relation.ReflTransGen.single hstall).tail hthrow).tail hresume
  have hstep := step_answered (by decide +kernel)
    (handleLine_systErr (NormaSimulator.new {}).clearStatus) 1 true
  exact ⟨_, _, hrun, rfl, hstep, late_response_not_taken hrun rfl hstep⟩

theorem late_response_taken : ¬ ∀ (sim : NormaSimulator) (h after : History) (command : Text)
    (entry : Owner), Runs (started sim) h → h.thrown = true →
      h.step (.query command) = some (after, some entry) →
      entry.asked = true → entry.call = h.calls := by
  intro htaken
  have hline : (NormaSimulator.new {}).handleLine "SYST:ERR?" =
      some (NormaSimulator.new {}, some noErrorText) := handleLine_systErr _
  have hplain : hasLineTerminator "SYST:ERR?" = false := by decide +kernel
  have hstall : Next (started (.new {})) ⟨stalled (.new {}) true [], [], 0, false⟩ :=
    ⟨.stallReads true, none, rfl⟩
  have hthrow : Next ⟨stalled (.new {}) true [], [], 0, false⟩
      ⟨stalled (.new {}) true [noErrorText], [⟨0, true⟩], 1, true⟩ :=
    ⟨.query "SYST:ERR?", none, step_stalled hplain hline 0⟩
  have hresume : Next ⟨stalled (.new {}) true [noErrorText], [⟨0, true⟩], 1, true⟩
      ⟨stalled (.new {}) false [noErrorText], [⟨0, true⟩], 1, true⟩ :=
    ⟨.stallReads false, none, rfl⟩
  have hlate : (⟨stalled (.new {}) false [noErrorText], [⟨0, true⟩], 1, true⟩ : History).step
      (.query "SYST:ERR?") =
      some (⟨stalled (.new {}) false [noErrorText], [⟨1, true⟩], 2, true⟩, some ⟨0, true⟩) := by
    have hwritable := stalled_writable (.new {}) false [noErrorText]
    rw [step, query_eq hwritable hplain hline, withOwners, produced_eq hwritable hplain hline]
    rfl
  have hcall := htaken (.new {}) _ _ _ _
    (((Relation.ReflTransGen.single hstall).tail hthrow).tail hresume) rfl hlate rfl
  cases hcall

end Runs

end History

end Norma
