import Norma.Lib.Cut
import Norma.Lib.CNumber

namespace Norma

abbrev Text := List Char

def literal (s : String) : Text := s.toByteArray.data.toList.map fun b => Char.ofNat b.toNat

instance : Coe String Text := ⟨literal⟩

export CNumber (isSpace)

def isQuote (c : Char) : Bool := c == '"' || c == '\''

def trim (s : Text) : Text := (s.dropWhile isSpace).rdropWhile isSpace

def upper (s : Text) : Text := s.map Char.toUpper

structure Splitter where
  parts : List Text
  current : Text
  quote : Option Char

def Splitter.step (separator : Char) (st : Splitter) (c : Char) : Splitter :=
  match st.quote with
  | some q => ⟨st.parts, st.current ++ [c], if c = q then none else some q⟩
  | none =>
      if isQuote c then ⟨st.parts, st.current ++ [c], some c⟩
      else if c = separator then ⟨st.parts ++ [st.current], [], none⟩
      else ⟨st.parts, st.current ++ [c], none⟩

def splitUnquoted (text : Text) (separator : Char) : List Text :=
  let st := text.foldl (Splitter.step separator) ⟨[], [], none⟩
  st.parts ++ [st.current]

def unquote (s : Text) : Text :=
  let s := trim s
  if 2 ≤ s.length ∧ (s.head? = some '"' ∨ s.head? = some '\'') ∧ s.getLast? = s.head? then
    s.tail.dropLast
  else s

def mnemonicMatches (token mnemonic : Text) : Bool :=
  token == mnemonic.takeWhile (fun c => c.isUpper || c.isDigit) || token == upper mnemonic

def join (separator : Char) (values : List Text) : Text := [separator].intercalate values

def quote (s : Text) : Text := '"' :: (s ++ ['"'])

def quoteJoin (values : List Text) : Text := join ',' (values.map quote)

def formatSetting (value : Float) : Text :=
  (CNumber.printG9 value).map fun c => if c = 'e' then 'E' else c

def formatBool (value : Bool) : Text := if value then "1" else "0"

def joinValues (values : List Float) : Text := join ',' (values.map formatSetting)

def parseNumber (text : Text) : Option Float :=
  match CNumber.strtod (CNumber.cstr text) with
  | none => none
  | some (value, rest) => if trim rest = [] then some value else none

def parseBoolean (text : Text) : Option Bool :=
  let value := upper (trim text)
  if value = "ON" then some true
  else if value = "OFF" then some false
  else (parseNumber text).map (fun number => number != 0)

structure Token where
  text : Text
  suffix : Int
  hasSuffix : Bool
  deriving DecidableEq, Repr

def makeToken (node : Text) : Token :=
  let text := upper (trim node)
  let mnemonic := text.rdropWhile Char.isDigit
  let digits := text.drop mnemonic.length
  if digits ≠ [] ∧ mnemonic ≠ [] then ⟨mnemonic, CNumber.atoi digits, true⟩
  else ⟨text, 0, false⟩

def toText (n : Int) : Text := CNumber.decimal n

end Norma
