import Norma.Client
import Norma.Calculate
import Norma.Change

namespace Norma

def normalizeKeyword (text : Text) : Text := upper (trim text)

def unexpected (what text : Text) : Fault :=
  .protocol ("unexpected " ++ what ++ " response: \"" ++ text ++ "\"")

def parseKeyword {A : Type} (what : Text) (spellings : List (A × List Text)) (text : Text) :
    Except Fault A :=
  match spellings.find? fun s => s.2.contains (normalizeKeyword text) with
  | some (value, _) => .ok value
  | none => .error (unexpected what text)

section Commands

def Coupling.toScpi : Coupling → Text
  | .ac => "AC"
  | .dc => "DC"

def Shunt.toScpi : Shunt → Text
  | .external => "EXT"
  | .internal => "INT"

def Slope.toScpi : Slope → Text
  | .negative => "NEG"
  | .positive => "POS"

def LevelUnit.toScpi : LevelUnit → Text
  | .percent => "PCT"
  | .absolute => "ABS"

def ByteOrder.toScpi : ByteOrder → Text
  | .swapped => "SWAP"
  | .normal => "NORM"

def KeyLock.toScpi : KeyLock → Text
  | .on => "ON"
  | .remote => "REM"
  | .off => "OFF"

def TransformMode.toScpi : TransformMode → Text
  | .dft => "DFT"
  | .std => "STD"
  | .fft => "FFT"

def HarmonicGrouping.toScpi : HarmonicGrouping → Text
  | .harmonic => "HARM"
  | .hGroup => "HGR"
  | .hsGroup => "HSGR"
  | .isGroup => "ISGR"
  | .sGroup => "SGR"
  | .component => "COMP"

def PowerCorrection.toScpi : PowerCorrection → Text
  | .delta => "DELT"
  | .star => "STAR"

def IntegralStartSource.toScpi : IntegralStartSource → Text
  | .time => "TIME"
  | .manual => "MAN"
  | .command => "CMD"

def IntegralStopSource.toScpi : IntegralStopSource → Text
  | .time => "TIME"
  | .manual => "MAN"
  | .timeInterval => "TINT"
  | .command => "CMD"

end Commands

section Responses

def parseCoupling : Text → Except Fault Coupling :=
  parseKeyword "INPut:COUPling?" [(.ac, ["AC"]), (.dc, ["DC"])]

def parseShunt : Text → Except Fault Shunt :=
  parseKeyword "INPut:SHUNt?" [(.internal, ["INT", "INTERNAL"]), (.external, ["EXT", "EXTERNAL"])]

def parseSlope : Text → Except Fault Slope :=
  parseKeyword "SLOPe?" [(.positive, ["POS", "POSITIVE"]), (.negative, ["NEG", "NEGATIVE"])]

def parseLevelUnit : Text → Except Fault LevelUnit :=
  parseKeyword "SYNC:LEVel:UNIT?"
    [(.absolute, ["ABS", "ABSOLUTE"]), (.percent, ["PCT", "PERCENT"])]

def parseByteOrder : Text → Except Fault ByteOrder :=
  parseKeyword "FORMat:BORDer?"
    [(.normal, ["NORM", "NORMAL"]), (.swapped, ["SWAP", "SWAPPED"])]

def parseKeyLock : Text → Except Fault KeyLock :=
  parseKeyword "SYSTem:KLOCk?"
    [(.on, ["ON", "1"]), (.off, ["OFF", "0"]), (.remote, ["REM", "REMOTE"])]

def parseTransformMode : Text → Except Fault TransformMode :=
  parseKeyword "CALCulate:TRANsform:FREQuency:MODE?"
    [(.fft, ["FFT"]), (.dft, ["DFT"]), (.std, ["STD"])]

def parseHarmonicGrouping : Text → Except Fault HarmonicGrouping :=
  parseKeyword "CALCulate:TRANsform:FREQuency:GROuping?"
    [(.component, ["COMP", "COMPONENT"]), (.harmonic, ["HARM", "HARMONIC"]),
      (.hGroup, ["HGR", "HGROUP"]), (.hsGroup, ["HSGR", "HSGROUP"]),
      (.isGroup, ["ISGR", "ISGROUP"]), (.sGroup, ["SGR", "SGROUP"])]

def parsePowerCorrection : Text → Except Fault PowerCorrection :=
  parseKeyword "CALCulate:POWer:CORRected?" [(.star, ["STAR"]), (.delta, ["DELT", "DELTA"])]

def parseIntegralStartSource : Text → Except Fault IntegralStartSource :=
  parseKeyword "CALCulate:INTegral:STARt:SOURce?"
    [(.command, ["CMD"]), (.time, ["TIME"]), (.manual, ["MAN", "MANUAL"])]

def parseIntegralStopSource : Text → Except Fault IntegralStopSource :=
  parseKeyword "CALCulate:INTegral:STOP:SOURce?"
    [(.command, ["CMD"]), (.time, ["TIME"]), (.manual, ["MAN", "MANUAL"]),
      (.timeInterval, ["TINT", "TINTERVAL"])]

end Responses

section Spellings

variable {A : Type} {accepted offered : List (A × List Text)} {text : Text} {value : A}

def spelled (table : List (A × List Text)) : List (Text × A) :=
  table.flatMap fun s => s.2.map fun name => (upper name, s.1)

def understood (offered : List (A × List Text)) (text : Text) : Option A :=
  (offered.find? fun s => s.2.any fun name => upper text = upper name).map Prod.fst

def shortForm [DecidableEq A] (offered : List (A × List Text)) (value : A) : Text :=
  ((offered.find? (·.1 = value)).map fun s => s.2.headD []).getD []

structure SameSpellings (accepted offered : List (A × List Text)) : Prop where
  capital : ∀ s ∈ accepted, ∀ name ∈ s.2, upper name = name
  sent : ∀ p ∈ spelled accepted, p ∈ spelled offered
  taken : ∀ p ∈ spelled offered, p ∈ spelled accepted
  unambiguous : ∀ p ∈ spelled offered, ∀ q ∈ spelled offered, p.1 = q.1 → p.2 = q.2

theorem mem_spelled : (text, value) ∈ spelled offered ↔
    ∃ names, (value, names) ∈ offered ∧ ∃ name ∈ names, upper name = text := by
  constructor
  · intro hmem
    obtain ⟨⟨v, names⟩, hs, hpair⟩ := List.mem_flatMap.mp hmem
    obtain ⟨name, hname, heq⟩ := List.mem_map.mp hpair
    obtain ⟨rfl, rfl⟩ := Prod.mk.inj heq
    exact ⟨names, hs, name, hname, rfl⟩
  · rintro ⟨names, hs, name, hname, rfl⟩
    exact List.mem_flatMap.mpr ⟨(value, names), hs, List.mem_map.mpr ⟨name, hname, rfl⟩⟩

theorem find_spelled {p : A × List Text → Bool}
    (hp : ∀ s ∈ offered, p s = true ↔ ∃ name ∈ s.2, upper name = text)
    (hone : ∀ v, (text, v) ∈ spelled offered → ∀ w, (text, w) ∈ spelled offered → v = w) :
    (offered.find? p).map Prod.fst = some value ↔ (text, value) ∈ spelled offered := by
  constructor
  · intro hfind
    obtain ⟨⟨v, names⟩, hs, rfl⟩ := Option.map_eq_some_iff.mp hfind
    have hmem := List.mem_of_find?_eq_some hs
    exact mem_spelled.mpr ⟨names, hmem, (hp _ hmem).mp (List.find?_some hs)⟩
  · intro hmem
    obtain ⟨names, hs, hname⟩ := mem_spelled.mp hmem
    cases hfind : offered.find? p with
    | none => exact absurd ((hp _ hs).mpr hname) (List.find?_eq_none.mp hfind _ hs)
    | some s =>
      have hmem' := List.mem_of_find?_eq_some hfind
      have hother : (text, s.1) ∈ spelled offered :=
        mem_spelled.mpr ⟨s.2, hmem', (hp _ hmem').mp (List.find?_some hfind)⟩
      exact congrArg some (hone s.1 hother value hmem)

theorem understood_iff (hone : ∀ p ∈ spelled offered, ∀ q ∈ spelled offered, p.1 = q.1 → p.2 = q.2) :
    understood offered text = some value ↔ (upper text, value) ∈ spelled offered := by
  refine find_spelled (fun s _ => ?_) fun v hv w hw => hone _ hv _ hw rfl
  rw [List.any_eq_true]
  constructor
  · rintro ⟨name, hname, hequal⟩
    exact ⟨name, hname, (of_decide_eq_true hequal).symm⟩
  · rintro ⟨name, hname, hequal⟩
    exact ⟨name, hname, decide_eq_true hequal.symm⟩

theorem SameSpellings.parse_eq (h : SameSpellings accepted offered) (what text : Text) :
    parseKeyword what accepted text =
      match understood offered (trim text) with
      | some value => .ok value
      | none => .error (unexpected what text) := by
  have haccepted : ∀ s ∈ accepted, s.2.contains (normalizeKeyword text) = true ↔
      ∃ name ∈ s.2, upper name = normalizeKeyword text := by
    intro s hs
    rw [List.contains_iff_mem]
    constructor
    · intro hmem
      exact ⟨_, hmem, h.capital s hs _ hmem⟩
    · rintro ⟨name, hname, hequal⟩
      rw [← hequal, h.capital s hs name hname]
      exact hname
  have hsame : (accepted.find? fun s => s.2.contains (normalizeKeyword text)).map Prod.fst =
      understood offered (trim text) := by
    refine Option.ext fun value => ?_
    rw [understood_iff h.unambiguous, find_spelled haccepted fun v hv w hw =>
      h.unambiguous _ (h.sent _ hv) _ (h.sent _ hw) rfl]
    exact ⟨h.sent _, h.taken _⟩
  rw [← hsame, parseKeyword]
  cases accepted.find? fun s => s.2.contains (normalizeKeyword text) with
  | none => rfl
  | some s => rfl

end Spellings

inductive Keyword where
  | coupling
  | shunt
  | slope
  | levelUnit
  | byteOrder
  | keyLock
  | transformMode
  | harmonicGrouping
  | powerCorrection
  | integralStartSource
  | integralStopSource
  deriving DecidableEq

namespace Keyword

abbrev Value : Keyword → Type
  | .coupling => Coupling
  | .shunt => Shunt
  | .slope => Slope
  | .levelUnit => LevelUnit
  | .byteOrder => ByteOrder
  | .keyLock => KeyLock
  | .transformMode => TransformMode
  | .harmonicGrouping => HarmonicGrouping
  | .powerCorrection => PowerCorrection
  | .integralStartSource => IntegralStartSource
  | .integralStopSource => IntegralStopSource

instance decidableValue : (keyword : Keyword) → DecidableEq keyword.Value
  | .coupling => inferInstanceAs (DecidableEq Coupling)
  | .shunt => inferInstanceAs (DecidableEq Shunt)
  | .slope => inferInstanceAs (DecidableEq Slope)
  | .levelUnit => inferInstanceAs (DecidableEq LevelUnit)
  | .byteOrder => inferInstanceAs (DecidableEq ByteOrder)
  | .keyLock => inferInstanceAs (DecidableEq KeyLock)
  | .transformMode => inferInstanceAs (DecidableEq TransformMode)
  | .harmonicGrouping => inferInstanceAs (DecidableEq HarmonicGrouping)
  | .powerCorrection => inferInstanceAs (DecidableEq PowerCorrection)
  | .integralStartSource => inferInstanceAs (DecidableEq IntegralStartSource)
  | .integralStopSource => inferInstanceAs (DecidableEq IntegralStopSource)

def toScpi : (keyword : Keyword) → keyword.Value → Text
  | .coupling => Coupling.toScpi
  | .shunt => Shunt.toScpi
  | .slope => Slope.toScpi
  | .levelUnit => LevelUnit.toScpi
  | .byteOrder => ByteOrder.toScpi
  | .keyLock => KeyLock.toScpi
  | .transformMode => TransformMode.toScpi
  | .harmonicGrouping => HarmonicGrouping.toScpi
  | .powerCorrection => PowerCorrection.toScpi
  | .integralStartSource => IntegralStartSource.toScpi
  | .integralStopSource => IntegralStopSource.toScpi

def parse : (keyword : Keyword) → Text → Except Fault keyword.Value
  | .coupling => parseCoupling
  | .shunt => parseShunt
  | .slope => parseSlope
  | .levelUnit => parseLevelUnit
  | .byteOrder => parseByteOrder
  | .keyLock => parseKeyLock
  | .transformMode => parseTransformMode
  | .harmonicGrouping => parseHarmonicGrouping
  | .powerCorrection => parsePowerCorrection
  | .integralStartSource => parseIntegralStartSource
  | .integralStopSource => parseIntegralStopSource

def offered : (keyword : Keyword) → List (keyword.Value × List Text)
  | .coupling => [(.ac, ["AC"]), (.dc, ["DC"])]
  | .shunt => [(.internal, ["INT", "INTernal"]), (.external, ["EXT", "EXTernal"])]
  | .slope => slopes
  | .levelUnit => levelUnits
  | .byteOrder => [(.normal, ["NORM", "NORMal"]), (.swapped, ["SWAP", "SWAPped"])]
  | .keyLock => [(.off, ["OFF", "0"]), (.on, ["ON", "1"]), (.remote, ["REM", "REMote"])]
  | .transformMode => transformModes
  | .harmonicGrouping => groupings
  | .powerCorrection => [(.star, ["STAR"]), (.delta, ["DELT", "DELTa"])]
  | .integralStartSource => [(.command, ["CMD"]), (.time, ["TIME"]), (.manual, ["MAN", "MANual"])]
  | .integralStopSource => [(.command, ["CMD"]), (.time, ["TIME"]), (.manual, ["MAN", "MANual"]),
      (.timeInterval, ["TINT", "TINTerval"])]

variable (keyword : Keyword)

theorem parse_spellings : ∃ what accepted, keyword.parse = parseKeyword what accepted ∧
    SameSpellings accepted keyword.offered := by
  cases keyword <;> exact ⟨_, _, rfl, by decide, by decide, by decide, by decide⟩

theorem parse_understood (text : Text) :
    (∀ value, keyword.parse text = .ok value ↔
      understood keyword.offered (trim text) = some value) ∧
    (understood keyword.offered (trim text) = none →
      ∃ what, keyword.parse text = .error (unexpected what text)) := by
  obtain ⟨what, accepted, hparse, hsame⟩ := keyword.parse_spellings
  rw [hparse, hsame.parse_eq]
  cases understood keyword.offered (trim text) with
  | none => exact ⟨fun value => by simp, fun _ => ⟨what, rfl⟩⟩
  | some v => exact ⟨fun value => by simp, by simp⟩

theorem toScpi_shortForm (value : keyword.Value) :
    keyword.toScpi value = shortForm keyword.offered value := by
  cases keyword <;> cases value <;> rfl

theorem toScpi_understood (value : keyword.Value) :
    understood keyword.offered (keyword.toScpi value) = some value := by
  cases keyword <;> cases value <;> decide

theorem trim_toScpi (value : keyword.Value) : trim (keyword.toScpi value) = keyword.toScpi value := by
  cases keyword <;> cases value <;> decide

theorem parse_shortForm (value : keyword.Value) :
    keyword.parse (shortForm keyword.offered value) = .ok value := by
  rw [← toScpi_shortForm, (keyword.parse_understood _).1, trim_toScpi, toScpi_understood]

end Keyword

end Norma
