import Norma.Measurement

namespace Norma

abbrev kTraceCapacity : Int := 4096

-- The buffer holds 64 bytes, the terminator included.
def formatValue (state : State) (value : Float) : Text :=
  if value.isNaN then CNumber.printE 5 kScpiNan
  else if 0 < state.dataFormat.length then
    (CNumber.printE (state.dataFormat.length - 1).toNat value).take 63
  else CNumber.printE 5 value

def tracePoints (state : State) : Int :=
  if !(state.sweep 1).enabled && !(state.sweep 2).enabled then 0
  else
    let sweep := if (state.sweep 1).enabled then state.sweep 1 else state.sweep 2
    min (CNumber.truncInt32 (sweep.time / Arith.max state.aperture kMinAperture)) kTraceCapacity

def binaryBlock (count : Nat) : Text :=
  let payload : Text := List.replicate (count * 8) '\x00'
  let length := toText payload.length
  '#' :: (toText length.length ++ length ++ payload)

def measureAll (state : State) (signal : SimulatedSignal Float) (functions : List Text) :
    Option (List (SimulatedMeasurement Float)) :=
  functions.mapM (measure state signal)

-- `none` when measuring one of the functions does not return.
def measurementResponse (state : State) (signal : SimulatedSignal Float) (functions : List Text)
    (withStatus : Bool) : Option Text :=
  if functions = [] then some []
  else if state.dataFormat.format ≠ .ascii then some (binaryBlock functions.length)
  else
    (measureAll state signal functions).map fun measurements =>
      let values := measurements.map fun m => formatValue state m.value
      let statuses := measurements.map fun m => toText m.status
      join ',' values ++ if withStatus then (statuses.map (',' :: ·)).flatten else []

end Norma
