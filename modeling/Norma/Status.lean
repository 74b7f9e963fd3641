import Norma.Measurement
import Norma.Setting

namespace Norma

def operationSweeping : Int := 2 ^ 3
def operationSynchronized : Int := 2 ^ 8
def operationSyncAvailable : Int := 2 ^ 9
def operationAveraging : Int := 2 ^ 10

def questionableVoltageSummary : Int := 2 ^ 0
def questionableCurrentSummary : Int := 2 ^ 1
def questionableFrequency : Int := 2 ^ 5

def statusErrorQueueNotEmpty : Int := 2 ^ 2
def statusQuestionableSummary : Int := 2 ^ 3
def statusEventStatusSummary : Int := 2 ^ 5
def statusMasterStatusSummary : Int := 2 ^ 6

def channelOverrange (index : Nat) : Int := 2 ^ index
def channelUnderrange (index : Nat) : Int := 2 ^ (index + 8)

def setIf (condition : Bool) (bit bits : Int) : Int := if condition then Int.lor bits bit else bits

section

variable {D : Type} [Arith D]

def channelBits (config : Fin (kMaxPhase + 1) → ChannelConfig D) (raw : Fin kMaxPhase → D) :
    Int :=
  (List.finRange kMaxPhase).foldl (fun bits phase =>
    let config := config phase.succ
    if config.autorange then bits
    else if Arith.lt config.range (raw phase) then Int.lor bits (channelOverrange phase)
    else if Arith.lt (raw phase) (config.range * 0.05) then
      Int.lor bits (channelUnderrange phase)
    else bits) 0

def condition (state : SimulatorState D) (signal : SimulatedSignal D) : StatusRegister → Int :=
  let synchronized := signal.present && state.syncEnabled
  let voltageBits := channelBits state.voltage fun phase => (signal.phases phase).voltageRms
  let currentBits := channelBits state.current fun phase => (signal.phases phase).currentRms
  fun
  | .operation =>
      setIf ((state.sweep 1).enabled || (state.sweep 2).enabled) operationSweeping <|
      setIf (state.continuous || state.initiated) operationAveraging <|
      setIf synchronized (Int.lor operationSynchronized operationSyncAvailable) 0
  | .questionableVoltage => voltageBits
  | .questionableCurrent => currentBits
  | .questionable =>
      setIf (currentBits ≠ 0) questionableCurrentSummary <|
      setIf (voltageBits ≠ 0) questionableVoltageSummary <|
      setIf (!synchronized) questionableFrequency 0

end

def RegisterState.latch (registers : RegisterState) (current : Int) : RegisterState :=
  let rose := Int.land current (Int.lnot registers.previousCondition)
  let fell := Int.land (Int.lnot current) registers.previousCondition
  { registers with
    event := Int.lor registers.event
      (Int.lor (Int.land rose registers.ptransition) (Int.land fell registers.ntransition))
    previousCondition := current }

def NormaSimulator.latchEvent (sim : NormaSimulator) (reg : StatusRegister) : NormaSimulator :=
  let registers := (registerState reg).get sim.state
  let current := condition sim.state sim.signal reg
  { sim with state := (registerState reg).set sim.state (registers.latch current) }

end Norma
