import Norma.Capi
import Norma.Lib.Utf8

namespace Norma

abbrev ManagedText := List Char

namespace Interop

open Capi (Handle Output Status normaLastError normaQuery normaReadData normaWrite)
open CNumber (cstr)

abbrev InitialQueryBufferBytes : Nat := 1024
abbrev MaxQueryBufferBytes : Nat := 2 ^ 20
abbrev InitialDataCapacity : Nat := 64

def isWhiteSpace (c : Char) : Bool :=
  let n := c.toNat
  (0x9 ≤ n && n ≤ 0xD) || n == 0x20 || n == 0x85 || n == 0xA0 || n == 0x1680 ||
    (0x2000 ≤ n && n ≤ 0x200A) || n == 0x2028 || n == 0x2029 || n == 0x202F || n == 0x205F ||
    n == 0x3000

def isNullOrWhiteSpace (text : ManagedText) : Bool := text.all isWhiteSpace

inductive Exception where
  | argument (parameter : ManagedText)
  | invalidOperation (message : ManagedText)
  | norma (status : Status) (message : ManagedText)

def statusName : Status → String
  | .ok => "Ok"
  | .connection => "ConnectionError"
  | .timeout => "Timeout"
  | .scpi => "ScpiError"
  | .protocol => "ProtocolError"
  | .invalidArgument => "InvalidArgument"
  | .bufferTooSmall => "BufferTooSmall"
  | .unknown => "Unknown"

def ptrToStringUtf8 (text : Text) : ManagedText := Utf8.decode (cstr text)

section

variable {T : Type}

def errorOf (status : Status) (h : Handle T) : Exception :=
  let message := ptrToStringUtf8 (normaLastError [] (some h))
  .norma status
    (if message = [] then ("Native call failed: " ++ statusName status).toList else message)

def bufferSizes : List Nat :=
  ((List.range 21).map (InitialQueryBufferBytes * 2 ^ ·)).takeWhile (· ≤ MaxQueryBufferBytes)

def textOf : Output → ManagedText
  | .buffer (some written) => Utf8.decode (cstr written)
  | _ => []

def valuesOf : Output → List Float × Nat
  | .values written count => (written, count)
  | _ => ([], 0)

variable [Transport T]

def queryWith (query : Text) :
    List Nat → Handle T → Option (Except Exception ManagedText × List Text × Handle T)
  | [], h => some (.error (.norma .bufferTooSmall
      "SCPI response exceeded 1048576 bytes.".toList), [], h)
  | size :: sizes, h =>
      match (normaQuery (some query) true size).call h with
      | none => none
      | some (.bufferTooSmall, _, h) =>
          (queryWith query sizes h).map fun (result, sent, after) =>
            (result, cstr query :: sent, after)
      | some (.ok, output, h) => some (.ok (textOf output), [cstr query], h)
      | some (status, _, h) => some (.error (errorOf status h), [cstr query], h)

def query (scpiQuery : ManagedText) (h : Handle T) :
    Option (Except Exception ManagedText × List Text × Handle T) :=
  if isNullOrWhiteSpace scpiQuery then some (.error (.argument "scpiQuery".toList), [], h)
  else queryWith (Utf8.encode scpiQuery) bufferSizes h

def write (scpiCommand : ManagedText) (h : Handle T) : Option (Except Exception Unit × Handle T) :=
  if isNullOrWhiteSpace scpiCommand then some (.error (.argument "scpiCommand".toList), h)
  else
    ((normaWrite (some (Utf8.encode scpiCommand))).call h).map fun (status, _, h) =>
      (if status = .ok then .ok () else .error (errorOf status h), h)

-- The call is repeated once with the number of values it reports.
def readData (h : Handle T) : Option (Except Exception (List Float) × Handle T) :=
  let finish := fun (status, output, h) =>
    (if status = Status.ok then .ok (valuesOf output).1 else .error (errorOf status h), h)
  match (normaReadData true true InitialDataCapacity).call h with
  | none => none
  | some (status, output, h) =>
      let count := (valuesOf output).2
      if status = .bufferTooSmall ∧ InitialDataCapacity < count then
        ((normaReadData true true count).call h).map finish
      else some (finish (status, output, h))

end

end Interop

end Norma
