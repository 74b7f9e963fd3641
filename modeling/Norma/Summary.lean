import Norma.Reach
import Norma.Registers
import Norma.Known
import Norma.Lib.Bits

namespace Norma

open Bits

def NormaSimulator.Answers (sim : NormaSimulator) (line response : Text) : Prop :=
  ∃ after, sim.handleLine line = some (after, some response)

def NormaSimulator.enabledEvents (sim : NormaSimulator) (reg : StatusRegister) : Int :=
  Int.land (sim.latched reg).event (sim.registers reg).enable

-- The hierarchy of the manual: the status byte and the CONDition part of QUEStionable.
structure Summarized (sim : NormaSimulator) (stb condition : Int) : Prop where
  errorQueue : stb.testBit 2 = true ↔ sim.state.errors ≠ []
  questionable : stb.testBit 3 = true ↔ sim.enabledEvents .questionable ≠ 0
  eventStatus : stb.testBit 5 = true ↔
    Int.land sim.state.eventStatus sim.state.eventStatusEnable ≠ 0
  operation : stb.testBit 7 = true ↔ sim.enabledEvents .operation ≠ 0
  master : stb.testBit 6 = true ↔
    ∃ b, b ≠ 6 ∧ stb.testBit b = true ∧ sim.state.serviceRequestEnable.testBit b = true
  voltage : condition.testBit 0 = true ↔ sim.enabledEvents .questionableVoltage ≠ 0
  current : condition.testBit 1 = true ↔ sim.enabledEvents .questionableCurrent ≠ 0

def ReportsSummaries (sim : NormaSimulator) : Prop :=
  ∃ stb condition, sim.Answers "*STB?" (toText stb) ∧
    sim.Answers "STAT:QUES:COND?" (toText condition) ∧ Summarized sim stb condition

def ChannelConfig.OutOfRange (config : ChannelConfig Float) (raw : Float) : Prop :=
  config.autorange = false ∧ (config.range < raw ∨ raw < config.range * 0.05)

def VoltageOutOfRange (sim : NormaSimulator) : Prop :=
  ∃ phase : Fin kMaxPhase,
    (sim.state.voltage phase.succ).OutOfRange (sim.signal.phases phase).voltageRms

def CurrentOutOfRange (sim : NormaSimulator) : Prop :=
  ∃ phase : Fin kMaxPhase,
    (sim.state.current phase.succ).OutOfRange (sim.signal.phases phase).currentRms

-- Nothing feeds bit 7, and the two lower registers feed QUEStionable past their EVENt parts.
structure SummariesFed (sim : NormaSimulator) : Prop where
  operation : sim.enabledEvents .operation = 0
  voltage : VoltageOutOfRange sim ↔ sim.enabledEvents .questionableVoltage ≠ 0
  current : CurrentOutOfRange sim ↔ sim.enabledEvents .questionableCurrent ≠ 0

section Channels

theorem setIf_testBit (condition : Bool) (k : Nat) (bits : Int) (b : Nat) :
    (setIf condition (2 ^ k) bits).testBit b = (bits.testBit b || (condition && decide (k = b))) := by
  cases condition with
  | false => simp [setIf]
  | true => simp [setIf, Int.testBit_lor, testBit_two_pow]

theorem channelBits_ne_zero_iff (config : Fin (kMaxPhase + 1) → ChannelConfig Float)
    (raw : Fin kMaxPhase → Float) :
    channelBits config raw ≠ 0 ↔ ∃ phase, (config phase.succ).OutOfRange (raw phase) := by
  unfold channelBits
  rw [foldl_ne_zero_iff (p := fun phase => (config phase.succ).OutOfRange (raw phase))]
  · simp
  · intro bits phase
    have hover : channelOverrange phase ≠ 0 := two_pow_ne_zero _
    have hunder : channelUnderrange phase ≠ 0 := two_pow_ne_zero _
    simp only [ChannelConfig.OutOfRange, Arith.lt, decide_eq_true_eq]
    cases hauto : (config phase.succ).autorange with
    | true => simp
    | false =>
      rw [if_neg (by simp)]
      by_cases hhigh : (config phase.succ).range < raw phase
      · simp [hhigh, lor_ne_zero_iff, hover]
      · by_cases hlow : raw phase < (config phase.succ).range * 0.05
        · simp [hhigh, hlow, lor_ne_zero_iff, hunder]
        · simp [hhigh, hlow]

variable (sim : NormaSimulator)

theorem conditionOf_voltage :
    (sim.conditionOf .questionable).testBit 0 = true ↔ VoltageOutOfRange sim := by
  have hbits := channelBits_ne_zero_iff sim.state.voltage
    fun phase => (sim.signal.phases phase).voltageRms
  simp only [NormaSimulator.conditionOf, condition, questionableCurrentSummary,
    questionableVoltageSummary, questionableFrequency, setIf_testBit]
  simpa [VoltageOutOfRange] using hbits

theorem conditionOf_current :
    (sim.conditionOf .questionable).testBit 1 = true ↔ CurrentOutOfRange sim := by
  have hbits := channelBits_ne_zero_iff sim.state.current
    fun phase => (sim.signal.phases phase).currentRms
  simp only [NormaSimulator.conditionOf, condition, questionableCurrentSummary,
    questionableVoltageSummary, questionableFrequency, setIf_testBit]
  simpa [CurrentOutOfRange] using hbits

end Channels

namespace NormaSimulator

variable (sim : NormaSimulator)

def summaryBits : Int :=
  setIf (Int.land sim.state.eventStatus sim.state.eventStatusEnable ≠ 0) (2 ^ 5) <|
  setIf (sim.enabledEvents .questionable ≠ 0) (2 ^ 3) <|
  setIf (sim.state.errors ≠ []) (2 ^ 2) 0

def statusByte : Int :=
  setIf (Int.land sim.summaryBits sim.state.serviceRequestEnable ≠ 0) (2 ^ 6) sim.summaryBits

theorem summaryBits_testBit (b : Nat) : sim.summaryBits.testBit b =
    (decide (sim.state.errors ≠ []) && decide (2 = b) ||
      decide (sim.enabledEvents .questionable ≠ 0) && decide (3 = b) ||
      decide (Int.land sim.state.eventStatus sim.state.eventStatusEnable ≠ 0) &&
        decide (5 = b)) := by
  simp only [summaryBits, setIf_testBit, zero_testBit, Bool.false_or]

theorem statusByte_testBit (b : Nat) : sim.statusByte.testBit b =
    (sim.summaryBits.testBit b ||
      decide (Int.land sim.summaryBits sim.state.serviceRequestEnable ≠ 0) && decide (6 = b)) := by
  rw [statusByte, setIf_testBit]

theorem answers_statusByte : sim.Answers "*STB?" (toText sim.statusByte) := by
  have hplain : Unquoted ("*STB?" : Text) := by decide
  have htrim : trim "*STB?" = "*STB?" := by decide +kernel
  have hparse : parseCommand "*STB?" = ⟨"*STB", true, []⟩ := by decide +kernel
  refine ⟨sim.latchEvent .questionable, ?_⟩
  rw [handleLine_whole (hplain.whole_iff.mpr (by decide)) htrim (by decide)]
  simp only [handleCommand, hparse]
  rfl

theorem answers_condition :
    sim.Answers "STAT:QUES:COND?" (toText (sim.conditionOf .questionable)) := by
  have hplain : Unquoted ("STAT:QUES:COND?" : Text) := by decide
  have htrim : trim "STAT:QUES:COND?" = "STAT:QUES:COND?" := by decide +kernel
  have hparse : parseCommand "STAT:QUES:COND?" = ⟨"STAT:QUES:COND", true, []⟩ := by decide +kernel
  have hfind : findCommand (headerTokens [] "STAT:QUES:COND") = some (.statQuesCond, []) := by
    decide +kernel
  refine ⟨sim, ?_⟩
  rw [handleLine_known (hplain.whole_iff.mpr (by decide)) htrim (by decide) hparse (by decide) hfind]
  rfl

theorem summaryBits_six : sim.summaryBits.testBit 6 = false := by simp [summaryBits_testBit]

theorem master_iff : sim.statusByte.testBit 6 = true ↔
    ∃ b, b ≠ 6 ∧ sim.statusByte.testBit b = true ∧
      sim.state.serviceRequestEnable.testBit b = true := by
  have hbit : sim.statusByte.testBit 6 = true ↔
      Int.land sim.summaryBits sim.state.serviceRequestEnable ≠ 0 := by
    simp [statusByte_testBit, summaryBits_six]
  have hother (b : Nat) (hb : b ≠ 6) :
      sim.statusByte.testBit b = sim.summaryBits.testBit b := by
    simp [statusByte_testBit, hb.symm]
  rw [hbit, land_ne_zero_iff]
  constructor
  · rintro ⟨b, hset, henabled⟩
    have hb : b ≠ 6 := by
      rintro rfl
      rw [summaryBits_six] at hset
      cases hset
    exact ⟨b, hb, by rw [hother b hb, hset], henabled⟩
  · rintro ⟨b, hb, hset, henabled⟩
    exact ⟨b, by rw [← hother b hb, hset], henabled⟩

theorem summarized_iff :
    Summarized sim sim.statusByte (sim.conditionOf .questionable) ↔ SummariesFed sim := by
  have hbit (b : Nat) (hb : b ≠ 6) :
      sim.statusByte.testBit b = sim.summaryBits.testBit b := by
    simp [statusByte_testBit, hb.symm]
  constructor
  · intro h
    refine ⟨?_, ?_, ?_⟩
    · have hseven := h.operation
      rw [hbit 7 (by decide)] at hseven
      simpa [summaryBits_testBit] using hseven
    · rw [← conditionOf_voltage, h.voltage]
    · rw [← conditionOf_current, h.current]
  · intro h
    refine ⟨?_, ?_, ?_, ?_, sim.master_iff, ?_, ?_⟩
    · simp [hbit, summaryBits_testBit]
    · simp [hbit, summaryBits_testBit]
    · simp [hbit, summaryBits_testBit]
    · simp [hbit, summaryBits_testBit, h.operation]
    · rw [conditionOf_voltage, h.voltage]
    · rw [conditionOf_current, h.current]

end NormaSimulator

theorem summaries_iff (sim : NormaSimulator) : ReportsSummaries sim ↔ SummariesFed sim := by
  have hstb := sim.answers_statusByte
  have hcondition := sim.answers_condition
  constructor
  · rintro ⟨stb, value, ⟨after, hline⟩, ⟨after', hline'⟩, h⟩
    obtain ⟨_, hstb⟩ := hstb
    obtain ⟨_, hcondition⟩ := hcondition
    rw [hline, Option.some.injEq, Prod.mk.injEq, Option.some.injEq] at hstb
    rw [hline', Option.some.injEq, Prod.mk.injEq, Option.some.injEq] at hcondition
    obtain rfl := CNumber.decimal_injective hstb.2
    obtain rfl := CNumber.decimal_injective hcondition.2
    exact sim.summarized_iff.mp h
  · intro h
    exact ⟨_, _, hstb, hcondition, sim.summarized_iff.mpr h⟩

section EnabledOperation

def enabledOperation (sim : NormaSimulator) : NormaSimulator :=
  { sim with state :=
    ((registerState .operation).focus RegisterState.enableLens).set sim.state 65535 }

theorem handleLine_enable (sim : NormaSimulator) :
    sim.handleLine "STAT:OPER:ENAB 65535" = some (enabledOperation sim, none) := by
  have hplain : Unquoted ("STAT:OPER:ENAB 65535" : Text) := by decide
  have htrim : trim "STAT:OPER:ENAB 65535" = "STAT:OPER:ENAB 65535" := by decide +kernel
  have hparse : parseCommand "STAT:OPER:ENAB 65535" = ⟨"STAT:OPER:ENAB", false, ["65535"]⟩ := by
    decide +kernel
  have hfind : findCommand (headerTokens [] "STAT:OPER:ENAB") = some (.statOperEnab, []) := by
    decide +kernel
  have hnumber : (parseNumber "65535").map toInt = some 65535 := by decide +kernel
  have hexecute (a : Access) (hset : a.command.query = false)
      (hargument : a.command.argument = some "65535") :
      execute .statOperEnab a =
        some (a.assign ((registerState .operation).focus RegisterState.enableLens) 65535) := by
    change some (a.registerPart .operation .enable) = _
    simp only [Access.registerPart, Access.integer, hset]
    exact congrArg some
      (Access.readInteger_accepted hargument hnumber (by decide) (by decide))
  rw [handleLine_known (hplain.whole_iff.mpr (by decide)) htrim (by decide) hparse (by decide)
    hfind, hexecute _ rfl rfl]
  rfl

theorem operation_summary_missing : ¬∀ sim, Reachable sim → ReportsSummaries sim := by
  intro hall
  let sim : NormaSimulator := enabledOperation (.new {})
  have hreachable : Reachable sim := .line (.new {}) _ (handleLine_enable _)
  obtain ⟨stb, _, ⟨after, hline⟩, -, h⟩ := hall sim hreachable
  obtain ⟨_, hstb⟩ := sim.answers_statusByte
  rw [hline, Option.some.injEq, Prod.mk.injEq, Option.some.injEq] at hstb
  obtain rfl := CNumber.decimal_injective hstb.2
  have henabled : sim.enabledEvents .operation ≠ 0 := by decide +kernel
  have hseven := h.operation.mpr henabled
  revert hseven
  decide +kernel

end EnabledOperation

end Norma
