import Norma.Reach
import Norma.Registers
import Norma.Lib.EdgeLatch

namespace Norma

open EdgeLatch

inductive Move where
  | command (step : Step)
  | signal (sim : NormaSimulator) (given : SimulatedSignal Float)

namespace Move

def before : Move → NormaSimulator
  | .command step => step.before
  | .signal sim _ => sim

def after : Move → NormaSimulator
  | .command step => step.after.sim
  | .signal sim given => { sim with signal := given }

def Valid : Move → Prop
  | .command step => step.Valid
  | .signal _ _ => True

def opens (reg : StatusRegister) : Move → Bool
  | .command step => step.readsEvent reg || step.clears
  | .signal _ _ => false

end Move

inductive Usage : NormaSimulator → List Move → Prop where
  | done (sim : NormaSimulator) : Usage sim []
  | line {sim : NormaSimulator} {steps : List Step} {moves : List Move} (line : Text)
      (hline : executed sim [] (splitUnquoted line ';') = some steps)
      (hrest : Usage (finalSim sim steps) moves) : Usage sim (steps.map .command ++ moves)
  | signal {sim : NormaSimulator} {moves : List Move} (given : SimulatedSignal Float)
      (hrest : Usage { sim with signal := given } moves) : Usage sim (.signal sim given :: moves)

def Linked (sim : NormaSimulator) : List Move → Prop
  | [] => True
  | move :: moves => move.before = sim ∧ move.Valid ∧ Linked move.after moves

def endOf (sim : NormaSimulator) (moves : List Move) : NormaSimulator :=
  (moves.getLast?.map Move.after).getD sim

@[simp] theorem endOf_nil (sim : NormaSimulator) : endOf sim [] = sim := rfl

@[simp] theorem endOf_cons (sim : NormaSimulator) (move : Move) (moves : List Move) :
    endOf sim (move :: moves) = endOf move.after moves := by
  simp [endOf, List.getLast?_cons]

section Linked

variable {sim : NormaSimulator} {moves : List Move}

theorem linked_append {pre post : List Move} :
    Linked sim (pre ++ post) ↔ Linked sim pre ∧ Linked (endOf sim pre) post := by
  induction pre generalizing sim with
  | nil => simp [Linked]
  | cons move pre ih =>
    rw [List.cons_append, Linked, ih, Linked, endOf_cons]
    tauto

theorem Chained.linked {path : List Token} {steps : List Step} (h : Chained sim path steps)
    (hrest : Linked (finalSim sim steps) moves) : Linked sim (steps.map .command ++ moves) := by
  induction steps generalizing sim path with
  | nil => exact hrest
  | cons step steps ih =>
    obtain ⟨hbefore, -, hvalid, hchain⟩ := h
    rw [finalSim_cons] at hrest
    exact ⟨hbefore, hvalid, ih hchain hrest⟩

theorem Usage.linked (h : Usage sim moves) : Linked sim moves := by
  induction h with
  | done sim => trivial
  | line line hline hrest ih => exact (executed_chained hline).linked ih
  | signal given hrest ih => exact ⟨rfl, trivial, ih⟩

variable (P : NormaSimulator → Prop)

theorem Linked.invariant (hstep : ∀ move : Move, move.Valid → P move.before → P move.after)
    (h : Linked sim moves) (hsim : P sim) : ∀ move ∈ moves, P move.before := by
  induction moves generalizing sim with
  | nil => simp
  | cons move moves ih =>
    obtain ⟨rfl, hvalid, hrest⟩ := h
    intro next hnext
    rcases List.mem_cons.mp hnext with rfl | hmem
    · exact hsim
    · exact ih hrest (hstep move hvalid hsim) next hmem

theorem Linked.invariant_end (hstep : ∀ move : Move, move.Valid → P move.before → P move.after)
    (h : Linked sim moves) (hsim : P sim) : P (endOf sim moves) := by
  induction moves generalizing sim with
  | nil => exact hsim
  | cons move moves ih =>
    obtain ⟨rfl, hvalid, hrest⟩ := h
    rw [endOf_cons]
    exact ih hrest (hstep move hvalid hsim)

theorem Linked.kept {Q : Step → Prop}
    (hstep : ∀ step : Step, step.Valid → P step.before → Q step → P step.after.sim)
    (hsignal : ∀ sim given, P sim → P { sim with signal := given }) (h : Linked sim moves)
    (hsim : P sim) (hmeets : ∀ step, .command step ∈ moves → Q step) :
    ∀ move ∈ moves, P move.after := by
  induction moves generalizing sim with
  | nil => simp
  | cons move moves ih =>
    obtain ⟨rfl, hvalid, hrest⟩ := h
    have hafter : P move.after := by
      cases move with
      | command step => exact hstep step hvalid hsim (hmeets step List.mem_cons_self)
      | signal sim given => exact hsignal sim given hsim
    intro other hother
    rcases List.mem_cons.mp hother with rfl | hmem
    · exact hafter
    · exact ih hrest hafter (fun step hmem => hmeets step (List.mem_cons_of_mem _ hmem)) other hmem

theorem finalSim_endOf (steps : List Step) : finalSim sim steps = endOf sim (steps.map .command) := by
  induction steps generalizing sim with
  | nil => rfl
  | cons step steps ih =>
    rw [finalSim_cons, List.map_cons, endOf_cons, ih]
    rfl

theorem Reachable.invariant (hnew : ∀ options, P (.new options))
    (hstep : ∀ move : Move, move.Valid → P move.before → P move.after)
    (h : Reachable sim) : P sim := by
  induction h with
  | new options => exact hnew options
  | line hsim line hline ih =>
    obtain ⟨steps, hchain, rfl⟩ := handleLine_steps hline
    have hlinked := hchain.linked (show Linked (finalSim _ steps) [] from trivial)
    rw [List.append_nil] at hlinked
    rw [finalSim_endOf]
    exact hlinked.invariant_end P hstep ih
  | @signal sim hsim given ih => exact hstep (.signal sim given) trivial ih

end Linked

namespace NormaSimulator

variable (sim : NormaSimulator) (reg : StatusRegister) (b : Nat)

def latchBit : Latch :=
  ⟨(sim.registers reg).event.testBit b, (sim.registers reg).previousCondition.testBit b⟩

def conditionBit : Bool := (sim.conditionOf reg).testBit b

def ptrBit : Bool := (sim.registers reg).ptransition.testBit b

def ntrBit : Bool := (sim.registers reg).ntransition.testBit b

end NormaSimulator

section Clean

-- No bit that a filter passes is moved back before it was looked at.
def TakesNothingBack (reg : StatusRegister) (before after : NormaSimulator) : Prop :=
  ∀ b, ¬(before.latchBit reg b).Missed (before.ptrBit reg b) (before.ntrBit reg b)
    (before.conditionBit reg b) (after.conditionBit reg b)

def NothingUnseen (reg : StatusRegister) (sim : NormaSimulator) : Prop :=
  ∀ b, edge (sim.ptrBit reg b) (sim.ntrBit reg b) (sim.latchBit reg b).previous
    (sim.conditionBit reg b) = false

-- The reset forgets no event, and no bit that it leaves set was set and looked at before.
def ResetsNothing (reg : StatusRegister) (sim : NormaSimulator) : Prop :=
  ∀ b, if (sim.reset.conditionBit reg b && sim.ptrBit reg b) = true
    then sim.conditionBit reg b = true → (sim.latchBit reg b).previous = true →
      (sim.latchBit reg b).event = true
    else (sim.latchBit reg b).event = false ∧
      (sim.conditionBit reg b = true → sim.ptrBit reg b = true →
        (sim.latchBit reg b).previous = true)

def Step.Clean (reg : StatusRegister) (step : Step) : Prop :=
  if step.readsEvent reg = true then True
  else if step.clears = true then NothingUnseen reg step.before
  else if step.resets = true then ResetsNothing reg step.before
  else TakesNothingBack reg step.before step.after.sim

def Move.Clean (reg : StatusRegister) : Move → Prop
  | .command step => step.Clean reg
  | .signal sim given => TakesNothingBack reg sim { sim with signal := given }

structure SameFilters (reg : StatusRegister) (before after : NormaSimulator) : Prop where
  ptransition : (after.registers reg).ptransition = (before.registers reg).ptransition
  ntransition : (after.registers reg).ntransition = (before.registers reg).ntransition

variable {reg : StatusRegister} {before after sim : NormaSimulator}

theorem SameFilters.ptrBit (h : SameFilters reg before after) (b : Nat) :
    after.ptrBit reg b = before.ptrBit reg b := by
  rw [NormaSimulator.ptrBit, h.ptransition]
  rfl

theorem SameFilters.ntrBit (h : SameFilters reg before after) (b : Nat) :
    after.ntrBit reg b = before.ntrBit reg b := by
  rw [NormaSimulator.ntrBit, h.ntransition]
  rfl

theorem latched_testBit (sim : NormaSimulator) (reg : StatusRegister) (b : Nat) :
    (sim.latched reg).event.testBit b =
      (sim.latchBit reg b).read (sim.ptrBit reg b) (sim.ntrBit reg b) (sim.conditionBit reg b) := by
  simp only [NormaSimulator.latched, RegisterState.latch, Int.testBit_lor, Int.testBit_land,
    Int.testBit_lnot, Latch.read, edge, NormaSimulator.latchBit, NormaSimulator.ptrBit,
    NormaSimulator.ntrBit, NormaSimulator.conditionBit]
  cases (sim.conditionOf reg).testBit b <;>
    cases (sim.registers reg).previousCondition.testBit b <;> simp

-- The answer after a step of the condition is what continuous latching makes of the one before.
def Abreast (reg : StatusRegister) (before after : NormaSimulator) : Prop :=
  ∀ b, (after.latched reg).event.testBit b =
    ((before.latched reg).event.testBit b ||
      edge (before.ptrBit reg b) (before.ntrBit reg b) (before.conditionBit reg b)
        (after.conditionBit reg b))

theorem abreast_kept (hfilters : SameFilters reg before after)
    (hsame : SameLatch (before.registers reg) (after.registers reg))
    (hclean : TakesNothingBack reg before after) : Abreast reg before after := by
  intro b
  have hlatch : after.latchBit reg b = before.latchBit reg b := by
    rw [NormaSimulator.latchBit, hsame.event, hsame.previousCondition]
    rfl
  rw [latched_testBit, latched_testBit, hlatch, hfilters.ptrBit, hfilters.ntrBit]
  exact (Latch.read_step _ _ _).mpr (hclean b)

theorem abreast_latched (hafter : after.registers reg = before.latched reg)
    (hcondition : after.conditionOf reg = before.conditionOf reg) : Abreast reg before after := by
  intro b
  have hevent : (after.latched reg).event.testBit b = (before.latched reg).event.testBit b := by
    rw [latched_testBit, NormaSimulator.latchBit, NormaSimulator.ptrBit, NormaSimulator.ntrBit,
      NormaSimulator.conditionBit, hcondition, hafter]
    simp [Latch.read, NormaSimulator.latched, RegisterState.latch]
  rw [hevent, NormaSimulator.conditionBit, NormaSimulator.conditionBit, hcondition, edge_self,
    Bool.or_false]

theorem reset_registers (sim : NormaSimulator) (reg : StatusRegister) :
    sim.reset.registers reg = {} := by
  cases reg <;> rfl

theorem abreast_reset (hfilters : SameFilters reg sim sim.reset)
    (hclean : ResetsNothing reg sim) : Abreast reg sim sim.reset := by
  intro b
  have hzero : (0 : Int).testBit b = false := Nat.zero_testBit b
  have hlatch : sim.reset.latchBit reg b = ⟨false, false⟩ := by
    rw [NormaSimulator.latchBit, reset_registers, hzero]
  have hntr : sim.ntrBit reg b = false := by
    rw [← hfilters.ntrBit, NormaSimulator.ntrBit, reset_registers, hzero]
  have hb := hclean b
  rw [latched_testBit, latched_testBit, hlatch, hfilters.ptrBit, hfilters.ntrBit, hntr]
  generalize sim.latchBit reg b = l, sim.conditionBit reg b = c,
    sim.reset.conditionBit reg b = c', sim.ptrBit reg b = p at hb ⊢
  obtain ⟨event, previous⟩ := l
  revert event previous c c' p
  simp only [Latch.read, edge]
  decide

structure Tracks (reg : StatusRegister) (ptr ntr : Int) (window : List Int)
    (sim : NormaSimulator) : Prop where
  ptransition : (sim.registers reg).ptransition = ptr
  ntransition : (sim.registers reg).ntransition = ntr
  last : window.getLast? = some (sim.conditionOf reg)
  moved : ∀ b, (sim.latched reg).event.testBit b = true ↔
    Moved (ptr.testBit b) (ntr.testBit b) (Int.testBit · b) window

namespace Tracks

variable {ptr ntr : Int} {window : List Int}

theorem opened (sim : NormaSimulator)
    (hempty : ∀ b, (sim.latched reg).event.testBit b = false) :
    Tracks reg (sim.registers reg).ptransition (sim.registers reg).ntransition
      [sim.conditionOf reg] sim :=
  ⟨rfl, rfl, rfl, fun b => by simp [hempty b, not_moved_singleton]⟩

theorem step (h : Tracks reg ptr ntr window before) (hfilters : SameFilters reg before after)
    (habreast : Abreast reg before after) :
    Tracks reg ptr ntr (window ++ [after.conditionOf reg]) after where
  ptransition := hfilters.ptransition.trans h.ptransition
  ntransition := hfilters.ntransition.trans h.ntransition
  last := by simp
  moved b := by
    have hptr : before.ptrBit reg b = ptr.testBit b := by rw [NormaSimulator.ptrBit, h.ptransition]
    have hntr : before.ntrBit reg b = ntr.testBit b := by rw [NormaSimulator.ntrBit, h.ntransition]
    rw [habreast b, Bool.or_eq_true, h.moved b, moved_append_singleton h.last, hptr, hntr]
    rfl

end Tracks

theorem Move.abreast {move : Move} (hvalid : move.Valid) (hopens : move.opens reg = false)
    (hfilters : SameFilters reg move.before move.after) (hclean : move.Clean reg) :
    Abreast reg move.before move.after := by
  cases move with
  | signal sim given =>
    exact abreast_kept hfilters (.of_eq rfl) hclean
  | command step =>
    simp only [Move.opens, Bool.or_eq_false_iff] at hopens
    change step.Clean reg at hclean
    rw [Step.Clean, if_neg (by simp [hopens.1]), if_neg (by simp [hopens.2])] at hclean
    cases Step.Valid.registerStep hvalid reg with
    | read hreads => rw [hopens.1] at hreads; cases hreads
    | cleared hreads hclears => rw [hopens.2] at hclears; cases hclears
    | reset hreads hclears hresets hafter =>
      rw [if_pos hresets] at hclean
      change SameFilters reg step.before step.after.sim at hfilters
      change Abreast reg step.before step.after.sim
      rw [hafter] at hfilters ⊢
      exact abreast_reset hfilters hclean
    | latched hordinary hafter hcondition => exact abreast_latched hafter hcondition
    | kept hordinary hsame =>
      rw [if_neg (by simp [hordinary.resets])] at hclean
      exact abreast_kept hfilters hsame hclean

theorem Move.opened {move : Move} (hvalid : move.Valid) (hopens : move.opens reg = true)
    (hclean : move.Clean reg) (b : Nat) : (move.after.latched reg).event.testBit b = false := by
  have hzero : (0 : Int).testBit b = false := Nat.zero_testBit b
  cases move with
  | signal sim given => cases hopens
  | command step =>
    change step.Clean reg at hclean
    change (step.after.sim.latched reg).event.testBit b = false
    rw [latched_testBit, NormaSimulator.latchBit, NormaSimulator.ptrBit, NormaSimulator.ntrBit,
      NormaSimulator.conditionBit]
    cases Step.Valid.registerStep hvalid reg with
    | read hreads hresponse hafter hcondition =>
      rw [hafter, hcondition]
      simp [Latch.read, hzero, NormaSimulator.latched, RegisterState.latch]
    | cleared hreads hclears hafter hcondition =>
      rw [Step.Clean, if_neg (by simp [hreads]), if_pos hclears] at hclean
      rw [hafter, hcondition]
      simp only [Latch.read, hzero, Bool.false_or]
      exact hclean b
    | reset hreads hclears => simp [Move.opens, hreads, hclears] at hopens
    | latched hordinary => simp [Move.opens, hordinary.reads, hordinary.clears] at hopens
    | kept hordinary => simp [Move.opens, hordinary.reads, hordinary.clears] at hopens

theorem Tracks.run {ptr ntr : Int} {window : List Int} (h : Tracks reg ptr ntr window sim)
    {moves : List Move} (hlinked : Linked sim moves)
    (hopens : ∀ move ∈ moves, move.opens reg = false)
    (hfilters : ∀ move ∈ moves, SameFilters reg move.before move.after)
    (hclean : ∀ move ∈ moves, move.Clean reg) :
    Tracks reg ptr ntr (window ++ moves.map (·.after.conditionOf reg)) (endOf sim moves) := by
  induction moves generalizing sim window with
  | nil => simpa using h
  | cons move moves ih =>
    obtain ⟨rfl, hvalid, hrest⟩ := hlinked
    have hmem : move ∈ move :: moves := List.mem_cons_self
    have habreast := Move.abreast hvalid (hopens _ hmem) (hfilters _ hmem) (hclean _ hmem)
    have hnext := ih (h.step (hfilters _ hmem) habreast) hrest
      (fun m hm => hopens m (List.mem_cons_of_mem _ hm))
      (fun m hm => hfilters m (List.mem_cons_of_mem _ hm))
      (fun m hm => hclean m (List.mem_cons_of_mem _ hm))
    rw [endOf_cons, List.map_cons]
    simpa using hnext

structure EventRead (reg : StatusRegister) (moves : List Move) where
  earlier : List Move
  opener : Move
  since : List Move
  step : Step
  later : List Move
  split : moves = earlier ++ opener :: (since ++ .command step :: later)
  opens : opener.opens reg = true
  since_opens : ∀ move ∈ since, move.opens reg = false
  reads : step.readsEvent reg = true

namespace EventRead

variable {moves : List Move}

def window (r : EventRead reg moves) : List Int :=
  (r.opener :: r.since).map (·.after.conditionOf reg)

def Exact (r : EventRead reg moves) : Prop :=
  ∃ value, r.step.after.response = some (toText value) ∧
    ∀ b, value.testBit b = true ↔
      Moved (r.step.before.ptrBit reg b) (r.step.before.ntrBit reg b) (Int.testBit · b) r.window

def Clean (r : EventRead reg moves) : Prop := ∀ move ∈ r.opener :: r.since, move.Clean reg

end EventRead

theorem event_latches {start : NormaSimulator} {moves : List Move} (husage : Usage start moves)
    (hfilters : ∀ move ∈ moves, SameFilters reg move.before move.after)
    (r : EventRead reg moves) (hclean : r.Clean) : r.Exact := by
  obtain ⟨earlier, opener, since, step, later, rfl, hopens, hsince, hreads⟩ := r
  obtain ⟨-, -, hopener, hlinked⟩ := linked_append.mp husage.linked
  obtain ⟨hsinceLinked, hbefore, hvalid, -⟩ := linked_append.mp hlinked
  have hopened := Tracks.opened opener.after
    (Move.opened hopener hopens (hclean _ List.mem_cons_self))
  have htracks := hopened.run hsinceLinked hsince
    (fun move hmove => hfilters move (by simp [hmove]))
    (fun move hmove => hclean move (List.mem_cons_of_mem _ hmove))
  rw [← hbefore] at htracks
  cases Step.Valid.registerStep hvalid reg with
  | read _ hresponse =>
    refine ⟨_, hresponse, fun b => ?_⟩
    have hptr : step.before.ptrBit reg b = (opener.after.registers reg).ptransition.testBit b := by
      rw [← htracks.ptransition]
      rfl
    have hntr : step.before.ntrBit reg b = (opener.after.registers reg).ntransition.testBit b := by
      rw [← htracks.ntransition]
      rfl
    rw [hptr, hntr]
    exact htracks.moved b
  | cleared hnot => rw [hreads] at hnot; cases hnot
  | reset hnot => rw [hreads] at hnot; cases hnot
  | latched hordinary => rw [hordinary.reads] at hreads; cases hreads
  | kept hordinary => rw [hordinary.reads] at hreads; cases hreads

end Clean

section Pulse

theorem handleCommand_found {sim : NormaSimulator} {path : List Token} {text : Text} {p : Parsed}
    {key : Key} {suffixes : List Int} (hparse : parseCommand text = p)
    (hstar : p.header.head? ≠ some '*')
    (hfind : findCommand (headerTokens path p.header) = some (key, suffixes)) :
    handleCommand sim path text =
      (execute key ⟨sim, p.command (headerTokens path p.header) key.text suffixes⟩).map
        (·.outcome (headerTokens path p.header).dropLast) := by
  simp only [handleCommand, hparse, if_neg hstar, handleTree, hfind]

def Addresses (header : Text) (key : Key) (suffixes : List Int) : Prop :=
  header.head? ≠ some '*' ∧ findCommand (headerTokens [] header) = some (key, suffixes)

instance (header : Text) (key : Key) (suffixes : List Int) :
    Decidable (Addresses header key suffixes) := inferInstanceAs (Decidable (_ ∧ _))

theorem handleCommand_runs {sim : NormaSimulator} {text : Text} {p : Parsed} {key : Key}
    {suffixes : List Int} {a : Access} (hparse : parseCommand text = p)
    (hheader : Addresses p.header key suffixes)
    (hrun : execute key ⟨sim, p.command (headerTokens [] p.header) key.text suffixes⟩ = some a) :
    ∃ path, handleCommand sim [] text = some (a.outcome path) :=
  ⟨_, by rw [handleCommand_found hparse hheader.1 hheader.2, hrun, Option.map_some]⟩

theorem Usage.command {sim : NormaSimulator} {moves : List Move} {text : Text} {out : Outcome}
    (hsplit : splitUnquoted text ';' = [text]) (htrim : trim text = text) (hne : text ≠ [])
    (hout : handleCommand sim [] text = some out) (hrest : Usage out.sim moves) :
    Usage sim (.command ⟨sim, [], text, out⟩ :: moves) := by
  have hline : executed sim [] (splitUnquoted text ';') = some [⟨sim, [], text, out⟩] := by
    rw [hsplit]
    simp only [executed, htrim, if_neg hne, hout]
    split <;> rfl
  exact .line text hline hrest

def syncState (on : Bool) : Text := if on then "SYNC:STAT ON" else "SYNC:STAT OFF"

def NormaSimulator.setSync (sim : NormaSimulator) (on : Bool) : NormaSimulator :=
  { sim with state := { sim.state with syncEnabled := on } }

def NormaSimulator.readOperation (sim : NormaSimulator) : NormaSimulator :=
  { sim with
    state := { sim.state with operation := { sim.latched .operation with event := 0 } } }

theorem handleCommand_syncState (sim : NormaSimulator) (on : Bool) :
    ∃ path, handleCommand sim [] (syncState on) = some ⟨sim.setSync on, path, none, false⟩ := by
  have hparse : parseCommand (syncState on) =
      ⟨"SYNC:STAT", false, [if on then "ON" else "OFF"]⟩ := by
    cases on <;> decide +kernel
  have hheader : Addresses "SYNC:STAT" .syncStat [] := by decide +kernel
  have hrun (a : Access) : execute .syncStat a = some (a.boolean .syncEnabled) := rfl
  cases on
  · exact handleCommand_runs hparse hheader (hrun _)
  · exact handleCommand_runs hparse hheader (hrun _)

theorem handleCommand_operation (sim : NormaSimulator) :
    ∃ path, handleCommand sim [] "STAT:OPER?" =
      some ⟨sim.readOperation, path, some (toText (sim.latched .operation).event), false⟩ := by
  have hparse : parseCommand "STAT:OPER?" = ⟨"STAT:OPER", true, []⟩ := by decide +kernel
  have hheader : Addresses "STAT:OPER" .statOperEven [] := by decide +kernel
  exact handleCommand_runs hparse hheader (execute_event .operation _)

theorem syncState_key (on : Bool) : commandKey [] (syncState on) = "SYNC:STAT" ∧
    (parseCommand (syncState on)).query = false := by
  cases on <;> decide +kernel

theorem operation_key : commandKey [] "STAT:OPER?" = (eventKey .operation).text ∧
    (parseCommand "STAT:OPER?").query = true := by
  decide +kernel

def readMove (sim : NormaSimulator) (path : List Token) : Step :=
  ⟨sim, [], "STAT:OPER?",
    ⟨sim.readOperation, path, some (toText (sim.latched .operation).event), false⟩⟩

def syncMove (sim : NormaSimulator) (on : Bool) (path : List Token) : Step :=
  ⟨sim, [], syncState on, ⟨sim.setSync on, path, none, false⟩⟩

theorem readMove_reads (sim : NormaSimulator) (path : List Token) :
    (readMove sim path).readsEvent .operation = true :=
  Step.readsEvent_iff.mpr ⟨operation_key.2, operation_key.1⟩

theorem syncMove_opens (sim : NormaSimulator) (on : Bool) (path : List Token) :
    (Move.command (syncMove sim on path)).opens .operation = false := by
  have hquery : (syncMove sim on path).isQuery = false := (syncState_key on).2
  have hkey : (syncMove sim on path).key = "SYNC:STAT" := (syncState_key on).1
  have hname : (("SYNC:STAT" : Text) == "*CLS") = false := by decide
  simp [Move.opens, Step.readsEvent, Step.clears, hquery, hkey, hname]

theorem syncMove_resets (sim : NormaSimulator) (on : Bool) (path : List Token) :
    (syncMove sim on path).resets = false := by
  have hquery : (syncMove sim on path).isQuery = false := (syncState_key on).2
  have hkey : (syncMove sim on path).key = "SYNC:STAT" := (syncState_key on).1
  have hname : (("SYNC:STAT" : Text) == "*RST") = false := by decide
  simp [Step.resets, hquery, hkey, hname]

theorem Usage.read (sim : NormaSimulator) {moves : List Move}
    (hrest : Usage sim.readOperation moves) :
    ∃ path, Usage sim (.command (readMove sim path) :: moves) := by
  obtain ⟨path, hout⟩ := handleCommand_operation sim
  exact ⟨path, .command (by decide +kernel) (by decide +kernel) (by decide) hout hrest⟩

theorem Usage.sync (sim : NormaSimulator) {moves : List Move} (on : Bool)
    (hrest : Usage (sim.setSync on) moves) :
    ∃ path, Usage sim (.command (syncMove sim on path) :: moves) := by
  obtain ⟨path, hout⟩ := handleCommand_syncState sim on
  have hline : splitUnquoted (syncState on) ';' = [syncState on] ∧
      trim (syncState on) = syncState on ∧ syncState on ≠ [] := by
    cases on <;> decide +kernel
  exact ⟨path, .command hline.1 hline.2.1 hline.2.2 hout hrest⟩

theorem sync_loss_read : ∃ moves, Usage (.new {}) moves ∧
    ∃ r : EventRead .operation moves, r.Exact := by
  let start : NormaSimulator := .new {}
  let lost := start.readOperation.setSync false
  obtain ⟨last, hlast⟩ := Usage.read lost (.done lost.readOperation)
  obtain ⟨loss, hloss⟩ := Usage.sync start.readOperation false hlast
  obtain ⟨path, husage⟩ := Usage.read start hloss
  have hreads := readMove_reads start path
  let r : EventRead .operation [.command (readMove start path),
      .command (syncMove start.readOperation false loss), .command (readMove lost last)] :=
    { earlier := []
      opener := .command (readMove start path)
      since := [.command (syncMove start.readOperation false loss)]
      step := readMove lost last
      later := []
      split := rfl
      opens := by simp [Move.opens, hreads]
      since_opens := by simp [syncMove_opens]
      reads := readMove_reads lost last }
  refine ⟨_, husage, r, event_latches husage (fun move hmove => ?_) r fun move hmove => ?_⟩
  · simp only [List.mem_cons, List.not_mem_nil, or_false] at hmove
    rcases hmove with rfl | rfl | rfl <;> exact ⟨rfl, rfl⟩
  · simp only [r, List.mem_cons, List.not_mem_nil, or_false] at hmove
    rcases hmove with rfl | rfl
    · change Step.Clean _ _
      rw [Step.Clean, if_pos hreads]
      trivial
    · have hopens := syncMove_opens start.readOperation false loss
      simp only [Move.opens, Bool.or_eq_false_iff] at hopens
      have hresets := syncMove_resets start.readOperation false loss
      change Step.Clean _ _
      rw [Step.Clean, if_neg (by simp [hopens.1]), if_neg (by simp [hopens.2]),
        if_neg (by simp [hresets])]
      rintro b ⟨-, hmoved, -⟩
      exact hmoved rfl

theorem sync_pulse_missed : ¬∀ start, Reachable start → ∀ moves, Usage start moves →
    ∀ reg, (∀ move ∈ moves, SameFilters reg move.before move.after) →
      ∀ r : EventRead reg moves, r.Exact := by
  intro hall
  let start : NormaSimulator := .new {}
  let lost := start.readOperation.setSync false
  let found := lost.setSync true
  obtain ⟨last, hlast⟩ := Usage.read found (.done found.readOperation)
  obtain ⟨gain, hgain⟩ := Usage.sync lost true hlast
  obtain ⟨loss, hloss⟩ := Usage.sync start.readOperation false hgain
  obtain ⟨path, husage⟩ := Usage.read start hloss
  have hreads := readMove_reads start path
  let moves : List Move := [.command (readMove start path),
    .command (syncMove start.readOperation false loss), .command (syncMove lost true gain),
    .command (readMove found last)]
  let r : EventRead .operation moves :=
    { earlier := []
      opener := .command (readMove start path)
      since := [.command (syncMove start.readOperation false loss),
        .command (syncMove lost true gain)]
      step := readMove found last
      later := []
      split := rfl
      opens := by simp [Move.opens, hreads]
      since_opens := by simp [syncMove_opens]
      reads := readMove_reads found last }
  have hfilters : ∀ move ∈ moves, SameFilters .operation move.before move.after := by
    intro move hmove
    simp only [moves, List.mem_cons, List.not_mem_nil, or_false] at hmove
    rcases hmove with rfl | rfl | rfl | rfl <;> exact ⟨rfl, rfl⟩
  obtain ⟨value, hresponse, hbits⟩ := hall start (.new {}) _ husage .operation hfilters r
  have hvalue : (found.latched .operation).event = value :=
    CNumber.decimal_injective (Option.some.inj hresponse)
  have hunseen : value.testBit 8 = false := by
    rw [← hvalue, latched_testBit]
    have hevent : found.latchBit .operation 8 = ⟨false, found.conditionBit .operation 8⟩ := by
      rfl
    rw [hevent]
    simp [Latch.read]
  have hmoved : Moved (found.ptrBit .operation 8) (found.ntrBit .operation 8)
      (Int.testBit · 8) r.window :=
    ⟨lost.conditionOf .operation, found.conditionOf .operation,
      ⟨[start.readOperation.conditionOf .operation], [], rfl⟩, by decide +kernel⟩
  rw [(hbits 8).mpr hmoved] at hunseen
  cases hunseen

end Pulse

end Norma
