import Mathlib.Algebra.Group.Int.Defs
import Mathlib.Algebra.Group.Nat.Defs
import Mathlib.Data.List.DropRight
import Mathlib.Data.Nat.Notation

namespace CNumber

abbrev Unpacked := Float.Model.UnpackedFloat

def isSpace (c : Char) : Bool := c == ' ' || (9 ≤ c.toNat && c.toNat ≤ 13)

def cstr (s : List Char) : List Char := s.takeWhile (· ≠ '\x00')

def takeSign : List Char → Bool × List Char
  | '-' :: s => (true, s)
  | '+' :: s => (false, s)
  | s => (false, s)

def longMin : Int := -2 ^ 63
def longMax : Int := 2 ^ 63 - 1

def toInt32 (n : Int) : Int := Int.bmod n (2 ^ 32)

def strtol (s : List Char) : Option Int :=
  let (neg, s) := takeSign (s.dropWhile isSpace)
  let digits := s.takeWhile Char.isDigit
  if digits = [] then none
  else
    let n : Int := Nat.ofDigitChars 10 digits 0
    some (max longMin (min longMax (if neg then -n else n)))

def atoi (s : List Char) : Int := toInt32 ((strtol s).getD 0)

def decimal (n : Int) : List Char :=
  if n < 0 then '-' :: Nat.toDigits 10 n.natAbs else Nat.toDigits 10 n.natAbs

def isHexDigit (c : Char) : Bool :=
  c.isDigit || ('a' ≤ c.toLower && c.toLower ≤ 'f')

def hexValue (c : Char) : Nat :=
  if c.isDigit then c.toNat - 48 else c.toLower.toNat - 87

def sameLetters (s word : List Char) : Bool := s.map Char.toLower == word

def applySign (neg : Bool) (x : Float) : Float := if neg then -x else x

def scaleTen (m : Nat) (e : Int) : Float :=
  if e < 0 then Float.ofScientific m true e.natAbs else Float.ofScientific m false e.natAbs

def scaleTwo (m : Nat) (e : Int) : Float :=
  if m = 0 then 0
  else .ofModel (.pack (Float.Model.UnpackedFloat.round .binary64 .positive m e))

def takeFraction (digit : Char → Bool) : List Char → List Char × List Char
  | '.' :: s => (s.takeWhile digit, s.dropWhile digit)
  | s => ([], s)

def takeExponent (mark : Char) : List Char → Int × List Char
  | [] => (0, [])
  | c :: s =>
      let (neg, t) := takeSign s
      let digits := t.takeWhile Char.isDigit
      if c.toLower = mark ∧ digits ≠ [] then
        let n : Int := Nat.ofDigitChars 10 digits 0
        (if neg then -n else n, t.dropWhile Char.isDigit)
      else (0, c :: s)

def readDecimal (s : List Char) : Option (Float × List Char) :=
  let whole := s.takeWhile Char.isDigit
  let (fraction, s) := takeFraction Char.isDigit (s.dropWhile Char.isDigit)
  if whole ++ fraction = [] then none
  else
    let (e, s) := takeExponent 'e' s
    some (scaleTen (Nat.ofDigitChars 10 (whole ++ fraction) 0) (e - fraction.length), s)

def readHex (s : List Char) : Option (Float × List Char) :=
  if sameLetters (s.take 2) ['0', 'x'] then
    let s := s.drop 2
    let whole := s.takeWhile isHexDigit
    let (fraction, s) := takeFraction isHexDigit (s.dropWhile isHexDigit)
    if whole ++ fraction = [] then none
    else
      let (e, s) := takeExponent 'p' s
      let m := (whole ++ fraction).foldl (fun n c => n * 16 + hexValue c) 0
      some (scaleTwo m (e - 4 * fraction.length), s)
  else none

def nan : Float := 0 / 0
def infinity : Float := 1 / 0

def skipPayload : List Char → List Char
  | '(' :: s =>
      match s.dropWhile (fun c => c.isAlphanum || c == '_') with
      | ')' :: t => t
      | _ => '(' :: s
  | s => s

def readSpecial (s : List Char) : Option (Float × List Char) :=
  if sameLetters (s.take 8) ['i', 'n', 'f', 'i', 'n', 'i', 't', 'y'] then some (infinity, s.drop 8)
  else if sameLetters (s.take 3) ['i', 'n', 'f'] then some (infinity, s.drop 3)
  else if sameLetters (s.take 3) ['n', 'a', 'n'] then some (nan, skipPayload (s.drop 3))
  else none

def strtod (s : List Char) : Option (Float × List Char) :=
  let (neg, s) := takeSign (s.dropWhile isSpace)
  ((readSpecial s).orElse fun _ => (readHex s).orElse fun _ => readDecimal s).map
    fun (x, rest) => (applySign neg x, rest)

def roundQuotient (a b : Nat) : Nat :=
  let q := a / b
  if 2 * (a % b) < b then q else if b < 2 * (a % b) then q + 1 else q + q % 2

def digitCount (n : Nat) : Nat := (Nat.toDigits 10 n).length

-- Largest `x` with `10 ^ x * b ≤ a`, for positive `a` and `b`.
def decimalExponent (a b : Nat) : Int :=
  let x : Int := digitCount a - digitCount b
  if b * 10 ^ x.toNat ≤ a * 10 ^ (-x).toNat then x else x - 1

def scaled (precision a b : Nat) : Nat × Int :=
  let x := decimalExponent a b
  let k : Int := precision - x
  let n := roundQuotient (a * 10 ^ k.toNat) (b * 10 ^ (-k).toNat)
  if n = 10 ^ (precision + 1) then (10 ^ precision, x + 1) else (n, x)

def magnitude (m : Nat) (e : Int) : Nat × Nat := (m * 2 ^ e.toNat, 2 ^ (-e).toNat)

def exponentText (mark : Char) (x : Int) : List Char :=
  let digits := Nat.toDigits 10 x.natAbs
  mark :: (if x < 0 then '-' else '+') :: (List.replicate (2 - digits.length) '0' ++ digits)

def pointed (digits : List Char) : List Char :=
  match digits with
  | [] => []
  | d :: [] => [d]
  | d :: ds => d :: '.' :: ds

def signText (plus : Bool) : Float.Model.UnpackedFloat.Sign → List Char
  | .negative => ['-']
  | .positive => if plus then ['+'] else []

-- `%+.*E`
def printE (precision : Nat) (x : Float) : List Char :=
  match x.toModel.unpack with
  | .notANumber => ['+', 'N', 'A', 'N']
  | .infinity s => signText true s ++ ['I', 'N', 'F']
  | .zero s => signText true s ++ pointed (List.replicate (precision + 1) '0') ++ exponentText 'E' 0
  | .finite s m e _ =>
      let (a, b) := magnitude m e
      let (n, x) := scaled precision a b
      signText true s ++ pointed (Nat.toDigits 10 n) ++ exponentText 'E' x

def stripFraction (whole fraction : List Char) : List Char :=
  match fraction.rdropWhile (· == '0') with
  | [] => whole
  | ds => whole ++ '.' :: ds

-- `%.9g`. The floats of the model have one NaN, so no sign is printed for it.
def printG9 (x : Float) : List Char :=
  match x.toModel.unpack with
  | .notANumber => ['n', 'a', 'n']
  | .infinity s => signText false s ++ ['i', 'n', 'f']
  | .zero s => signText false s ++ ['0']
  | .finite s m e _ =>
      let (a, b) := magnitude m e
      let (n, x) := scaled 8 a b
      let digits := Nat.toDigits 10 n
      signText false s ++
        (if x < -4 ∨ 9 ≤ x then
          stripFraction (digits.take 1) (digits.drop 1) ++ exponentText 'e' x
        else if x < 0 then
          stripFraction ['0'] (List.replicate (-x - 1).toNat '0' ++ digits)
        else stripFraction (digits.take (x.toNat + 1)) (digits.drop (x.toNat + 1)))

def signedInt : Float.Model.UnpackedFloat.Sign → Nat → Int
  | .negative, n => -n
  | .positive, n => n

-- The conversion is undefined outside `int`; this is the value x86-64 produces.
def truncInt32 (x : Float) : Int :=
  match x.toModel.unpack with
  | .finite s m e _ =>
      let (a, b) := magnitude m e
      let n := signedInt s (a / b)
      if -2 ^ 31 ≤ n ∧ n < 2 ^ 31 then n else -2 ^ 31
  | .zero _ => 0
  | _ => -2 ^ 31

-- The result is unspecified outside `long`; this is the value x86-64 produces.
def truncInt64 (x : Float) : Int :=
  match x.toModel.unpack with
  | .finite s m e _ =>
      let (a, b) := magnitude m e
      let n := signedInt s (a / b)
      if longMin ≤ n ∧ n ≤ longMax then n else longMin
  | .zero _ => 0
  | _ => longMin

def lround (x : Float) : Int :=
  match x.toModel.unpack with
  | .finite s m e _ =>
      let (a, b) := magnitude m e
      let n := signedInt s ((2 * a + b) / (2 * b))
      if longMin ≤ n ∧ n ≤ longMax then n else longMin
  | .zero _ => 0
  | _ => longMin

open Float.Model.UnpackedFloat (Sign)

-- What `%+.*E` prints: a sign, and then a digit or one of the two names.
inductive Printed : List Char → Prop where
  | number (sign d : Char) (rest : List Char) (hsign : sign = '+' ∨ sign = '-')
      (hd : d.isDigit = true) : Printed (sign :: d :: rest)
  | infinity (sign : Char) (hsign : sign = '+' ∨ sign = '-') : Printed [sign, 'I', 'N', 'F']
  | nan : Printed ['+', 'N', 'A', 'N']

-- What `%.9g` prints: a minus sign if need be, and then a digit or one of the two names.
inductive Spelled : List Char → Prop where
  | number (sign : List Char) (d : Char) (rest : List Char) (hsign : sign = [] ∨ sign = ['-'])
      (hd : d.isDigit = true) : Spelled (sign ++ d :: rest)
  | infinity (sign : List Char) (hsign : sign = [] ∨ sign = ['-']) : Spelled (sign ++ ['i', 'n', 'f'])
  | nan : Spelled ['n', 'a', 'n']

def isNumberChar (c : Char) : Bool :=
  c.isDigit || ['+', '-', '.', 'E', 'I', 'N', 'F', 'A'].contains c

section Digits

variable {digits : List Char}

theorem toDigits_isDigit {n : Nat} : ∀ c ∈ Nat.toDigits 10 n, c.isDigit = true := fun _ hc =>
  Nat.isDigit_of_mem_toDigits (by decide) (by decide) hc

theorem isNumberChar_of_isDigit {c : Char} (h : c.isDigit = true) : isNumberChar c = true := by
  simp [isNumberChar, h]

theorem isSpace_of_isNumberChar {c : Char} (h : isNumberChar c = true) : isSpace c = false := by
  simp only [isNumberChar, Bool.or_eq_true, List.contains_iff_mem] at h
  rcases h with hdigit | hmem
  · have hlow : 48 ≤ c.toNat := by
      simp only [Char.isDigit, Bool.and_eq_true, decide_eq_true_eq, UInt32.le_iff_toNat_le,
        ge_iff_le] at hdigit
      exact hdigit.1
    have hne : c ≠ ' ' := by
      rintro rfl
      cases hdigit
    simp [isSpace, hne]
    omega
  · have hnames : ['+', '-', '.', 'E', 'I', 'N', 'F', 'A'].all (fun c => !isSpace c) = true := rfl
    simpa using List.all_eq_true.mp hnames c hmem
theorem pointed_cons (d : Char) (ds : List Char) : ∃ rest, pointed (d :: ds) = d :: rest := by
  cases ds with
  | nil => exact ⟨[], rfl⟩
  | cons e ds => exact ⟨_, rfl⟩

theorem pointed_chars (h : ∀ c ∈ digits, c.isDigit = true) :
    ∀ c ∈ pointed digits, isNumberChar c = true := by
  intro c hc
  rcases digits with _ | ⟨d, _ | ⟨e, ds⟩⟩
  · cases hc
  · exact isNumberChar_of_isDigit (h c hc)
  · simp only [pointed, List.mem_cons] at hc
    rcases hc with rfl | rfl | hmem
    · exact isNumberChar_of_isDigit (h c (by simp))
    · rfl
    · exact isNumberChar_of_isDigit (h c (by simpa using Or.inr hmem))

theorem exponentText_mem {mark : Char} (x : Int) :
    ∀ c ∈ exponentText mark x, c = mark ∨ isNumberChar c = true := by
  intro c hc
  simp only [exponentText, List.mem_cons, List.mem_append, List.mem_replicate] at hc
  rcases hc with rfl | rfl | ⟨-, rfl⟩ | hmem
  · exact .inl rfl
  · right
    split <;> rfl
  · exact .inr rfl
  · exact .inr (isNumberChar_of_isDigit (toDigits_isDigit c hmem))

theorem exponentText_chars (x : Int) : ∀ c ∈ exponentText 'E' x, isNumberChar c = true := by
  intro c hc
  rcases exponentText_mem x c hc with rfl | hnumber
  · rfl
  · exact hnumber

theorem replicate_isDigit (n : Nat) : ∀ c ∈ List.replicate n '0', c.isDigit = true := by
  intro c hc
  rw [(List.mem_replicate.mp hc).2]
  rfl

end Digits

section Decimal

theorem toDigits_head (m : Nat) : ∃ d ds, Nat.toDigits 10 m = d :: ds ∧ d.isDigit = true := by
  obtain ⟨d, ds, hdigits⟩ := List.exists_cons_of_ne_nil (Nat.toDigits_ne_nil (n := m) (b := 10))
  exact ⟨d, ds, hdigits, toDigits_isDigit d (by rw [hdigits]; exact List.mem_cons_self)⟩

theorem takeSign_digit {d : Char} (hd : d.isDigit = true) (ds : List Char) :
    takeSign (d :: ds) = (false, d :: ds) := by
  unfold takeSign
  split
  · next heq =>
    obtain ⟨rfl, -⟩ := List.cons.inj heq
    cases hd
  · next heq =>
    obtain ⟨rfl, -⟩ := List.cons.inj heq
    cases hd
  · rfl

theorem decimal_chars (n : Int) : ∀ c ∈ decimal n, isNumberChar c = true := by
  intro c hc
  unfold decimal at hc
  split at hc
  · rcases List.mem_cons.mp hc with rfl | hmem
    · rfl
    · exact isNumberChar_of_isDigit (toDigits_isDigit c hmem)
  · exact isNumberChar_of_isDigit (toDigits_isDigit c hc)

theorem decimal_ne_nil (n : Int) : decimal n ≠ [] := by
  unfold decimal
  split
  · simp
  · exact Nat.toDigits_ne_nil

theorem decimal_injective : Function.Injective decimal := by
  have habs (n : Int) : Nat.ofDigitChars 10 (Nat.toDigits 10 n.natAbs) 0 = n.natAbs :=
    Nat.ofDigitChars_toDigits (by decide) (by decide)
  have hplain (n : Int) (rest : List Char) : Nat.toDigits 10 n.natAbs ≠ '-' :: rest := by
    intro h
    cases toDigits_isDigit '-' (by rw [h]; exact List.mem_cons_self)
  intro m n h
  unfold decimal at h
  have hsame (hdigits : Nat.toDigits 10 m.natAbs = Nat.toDigits 10 n.natAbs) :
      m.natAbs = n.natAbs := by
    rw [← habs m, ← habs n, hdigits]
  split at h
  · split at h
    · have := hsame (List.cons.inj h).2
      omega
    · exact absurd h.symm (hplain n _)
  · split at h
    · exact absurd h (hplain m _)
    · have := hsame h
      omega

theorem cstr_eq_self {s : List Char} (h : '\x00' ∉ s) : cstr s = s :=
  List.takeWhile_eq_self_iff.mpr fun c hc => by
    simpa using fun heq : c = '\x00' => h (heq ▸ hc)

theorem cstr_decimal (n : Int) : cstr (decimal n) = decimal n :=
  cstr_eq_self fun hc => by cases decimal_chars n _ hc

theorem strtol_decimal_clamped (n : Int) :
    strtol (decimal n) = some (max longMin (min longMax n)) := by
  have hdigits (m : Nat) : (Nat.toDigits 10 m).takeWhile Char.isDigit = Nat.toDigits 10 m :=
    List.takeWhile_eq_self_iff.mpr fun c hc => toDigits_isDigit c hc
  have hspace : (decimal n).dropWhile isSpace = decimal n := by
    obtain ⟨c, cs, hcons⟩ := List.exists_cons_of_ne_nil (decimal_ne_nil n)
    have hc := isSpace_of_isNumberChar (decimal_chars n c (by simp [hcons]))
    simp [hcons, hc]
  obtain ⟨d, ds, hcons, hd⟩ := toDigits_head n.natAbs
  rw [strtol, hspace, decimal]
  generalize hm : n.natAbs = m at *
  by_cases hneg : n < 0
  · have habs : -(m : Int) = n := by omega
    simp [hneg, takeSign, hdigits, Nat.toDigits_ne_nil, habs]
  · have habs : (m : Int) = n := by omega
    have hsign : takeSign (Nat.toDigits 10 m) = (false, Nat.toDigits 10 m) := by
      rw [hcons, takeSign_digit hd]
    simp [hneg, hsign, hdigits, Nat.toDigits_ne_nil, habs]

theorem strtol_digits {digits : List Char} (hne : digits ≠ [])
    (hdigits : ∀ c ∈ digits, c.isDigit = true) :
    strtol digits = some (min longMax (Nat.ofDigitChars 10 digits 0)) := by
  obtain ⟨d, ds, rfl⟩ := List.exists_cons_of_ne_nil hne
  have hd : d.isDigit = true := hdigits d (by simp)
  have hspace : (d :: ds).dropWhile isSpace = d :: ds := by
    simp [isSpace_of_isNumberChar (isNumberChar_of_isDigit hd)]
  have htake : (d :: ds).takeWhile Char.isDigit = d :: ds := List.takeWhile_eq_self_iff.mpr hdigits
  have hbound : longMin ≤ min longMax (Nat.ofDigitChars 10 (d :: ds) 0 : Int) :=
    Int.le_min.mpr ⟨by decide, Int.le_trans (by decide) (Int.natCast_nonneg _)⟩
  simp only [strtol, hspace, takeSign_digit hd, htake, if_neg hne, Bool.false_eq_true, if_false]
  rw [Int.max_eq_right hbound]

theorem strtol_decimal {n : Int} (hlow : longMin ≤ n) (hhigh : n ≤ longMax) :
    strtol (decimal n) = some n := by
  rw [strtol_decimal_clamped, Int.min_eq_right hhigh, Int.max_eq_right hlow]

theorem toInt32_eq_self {n : Int} (hlow : -2 ^ 31 ≤ n) (hhigh : n < 2 ^ 31) : toInt32 n = n := by
  rw [toInt32]
  exact Int.bmod_eq_of_le (by omega) (by omega)

end Decimal

section Print

theorem signText_true (s : Sign) : ∃ sign, (sign = '+' ∨ sign = '-') ∧ signText true s = [sign] := by
  cases s with
  | negative => exact ⟨'-', .inr rfl, rfl⟩
  | positive => exact ⟨'+', .inl rfl, rfl⟩

theorem signText_chars (s : Sign) : ∀ c ∈ signText true s, isNumberChar c = true := by
  obtain ⟨sign, hsign, htext⟩ := signText_true s
  intro c hc
  rw [htext, List.mem_singleton] at hc
  rcases hsign with rfl | rfl
  · rw [hc]
    rfl
  · rw [hc]
    rfl

theorem printed_pointed {digits : List Char} (hne : digits ≠ [])
    (h : ∀ c ∈ digits, c.isDigit = true) (s : Sign) (tail : List Char) :
    Printed (signText true s ++ pointed digits ++ tail) := by
  obtain ⟨sign, hsign, htext⟩ := signText_true s
  obtain ⟨d, ds, rfl⟩ := List.exists_cons_of_ne_nil hne
  obtain ⟨rest, hrest⟩ := pointed_cons d ds
  rw [htext, hrest]
  exact .number sign d (rest ++ tail) hsign (h d (by simp))

theorem printE_printed (precision : Nat) (x : Float) : Printed (printE precision x) := by
  unfold printE
  split
  · exact .nan
  · next s _ =>
    obtain ⟨sign, hsign, htext⟩ := signText_true s
    rw [htext]
    exact .infinity sign hsign
  · exact printed_pointed (by simp) (replicate_isDigit _) _ _
  · exact printed_pointed Nat.toDigits_ne_nil toDigits_isDigit _ _

theorem printE_chars (precision : Nat) (x : Float) :
    ∀ c ∈ printE precision x, isNumberChar c = true := by
  have hnan : ['+', 'N', 'A', 'N'].all isNumberChar = true := rfl
  have hinfinity : ['I', 'N', 'F'].all isNumberChar = true := rfl
  unfold printE
  split
  · exact List.all_eq_true.mp hnan
  · exact List.forall_mem_append.mpr ⟨signText_chars _, List.all_eq_true.mp hinfinity⟩
  · exact List.forall_mem_append.mpr ⟨List.forall_mem_append.mpr
      ⟨signText_chars _, pointed_chars (replicate_isDigit _)⟩, exponentText_chars _⟩
  · exact List.forall_mem_append.mpr ⟨List.forall_mem_append.mpr
      ⟨signText_chars _, pointed_chars toDigits_isDigit⟩, exponentText_chars _⟩

def isSettingChar (c : Char) : Bool := isNumberChar c || ['e', 'n', 'a', 'i', 'f'].contains c

theorem isSettingChar_of_isNumberChar {c : Char} (h : isNumberChar c = true) :
    isSettingChar c = true := by
  simp [isSettingChar, h]

theorem stripFraction_chars {whole fraction : List Char}
    (hwhole : ∀ c ∈ whole, isNumberChar c = true)
    (hfraction : ∀ c ∈ fraction, isNumberChar c = true) :
    ∀ c ∈ stripFraction whole fraction, isNumberChar c = true := by
  intro c hc
  unfold stripFraction at hc
  split at hc
  · exact hwhole c hc
  · rcases List.mem_append.mp hc with hmem | hmem
    · exact hwhole c hmem
    · rcases List.mem_cons.mp hmem with rfl | hkept
      · rfl
      · exact hfraction c ((List.rdropWhile_prefix _ _).subset hkept)

theorem printG9_chars (x : Float) : ∀ c ∈ printG9 x, isSettingChar c = true := by
  have hnames : ['n', 'a', 'n'].all isSettingChar = true ∧
      ['i', 'n', 'f'].all isSettingChar = true ∧ ['0'].all isSettingChar = true := ⟨rfl, rfl, rfl⟩
  have hsign (s : Sign) : ∀ c ∈ signText false s, isSettingChar c = true := by
    cases s with
    | negative => exact List.all_eq_true.mp (show ['-'].all isSettingChar = true from rfl)
    | positive => exact fun c hc => absurd hc List.not_mem_nil
  unfold printG9
  split
  · exact List.all_eq_true.mp hnames.1
  · exact List.forall_mem_append.mpr ⟨hsign _, List.all_eq_true.mp hnames.2.1⟩
  · exact List.forall_mem_append.mpr ⟨hsign _, List.all_eq_true.mp hnames.2.2⟩
  · next m e _ _ =>
    dsimp only
    generalize scaled 8 (magnitude m e).1 (magnitude m e).2 = shown
    have hdigit : ∀ c ∈ Nat.toDigits 10 shown.1, isNumberChar c = true := fun c hc =>
      isNumberChar_of_isDigit (toDigits_isDigit c hc)
    have htake (n : Nat) : ∀ c ∈ (Nat.toDigits 10 shown.1).take n, isNumberChar c = true :=
      fun c hc => hdigit c (List.mem_of_mem_take hc)
    have hdrop (n : Nat) : ∀ c ∈ (Nat.toDigits 10 shown.1).drop n, isNumberChar c = true :=
      fun c hc => hdigit c (List.mem_of_mem_drop hc)
    have hzeros (n : Nat) : ∀ c ∈ List.replicate n '0', isNumberChar c = true := fun c hc =>
      isNumberChar_of_isDigit (replicate_isDigit n c hc)
    refine List.forall_mem_append.mpr ⟨hsign _, ?_⟩
    split
    · refine List.forall_mem_append.mpr ⟨fun c hc => isSettingChar_of_isNumberChar
        (stripFraction_chars (htake 1) (hdrop 1) c hc), fun c hc => ?_⟩
      rcases exponentText_mem shown.2 c hc with rfl | hnumber
      · rfl
      · exact isSettingChar_of_isNumberChar hnumber
    · split
      · exact fun c hc => isSettingChar_of_isNumberChar (stripFraction_chars
          (List.all_eq_true.mp (show ['0'].all isNumberChar = true from rfl))
          (List.forall_mem_append.mpr ⟨hzeros _, hdigit⟩) c hc)
      · exact fun c hc => isSettingChar_of_isNumberChar (stripFraction_chars (htake _) (hdrop _) c hc)

theorem Printed.take {s : List Char} (h : Printed s) {n : Nat} (hn : 4 ≤ n) :
    Printed (s.take n) := by
  obtain ⟨m, rfl⟩ := Nat.exists_eq_add_of_le' hn
  cases h with
  | number sign d rest hsign hd => exact .number sign d _ hsign hd
  | infinity sign hsign => simpa using Printed.infinity sign hsign
  | nan => simpa using Printed.nan

theorem readDecimal_isSome {d : Char} (hd : d.isDigit = true) (s : List Char) :
    (readDecimal (d :: s)).isSome = true := by
  simp [readDecimal, hd]

theorem strtod_signed_isSome {sign d : Char} (hsign : sign = '+' ∨ sign = '-')
    (hd : d.isDigit = true) (s : List Char) : (strtod (sign :: d :: s)).isSome = true := by
  have hread := readDecimal_isSome hd s
  have htake : ∃ neg, takeSign ((sign :: d :: s).dropWhile isSpace) = (neg, d :: s) := by
    rcases hsign with rfl | rfl
    · exact ⟨false, rfl⟩
    · exact ⟨true, rfl⟩
  obtain ⟨neg, hneg⟩ := htake
  rw [strtod, hneg, Option.isSome_map]
  cases readSpecial (d :: s) with
  | some result => rfl
  | none =>
    cases readHex (d :: s) with
    | some result => rfl
    | none => exact hread

theorem Printed.strtod_isSome {s : List Char} (h : Printed s) : (strtod (cstr s)).isSome = true := by
  cases h with
  | number sign d rest hsign hd =>
    have hnul : d ≠ '\x00' := by
      rintro rfl
      cases hd
    have hcstr : cstr (sign :: d :: rest) = sign :: d :: cstr rest := by
      rcases hsign with rfl | rfl <;> simp [cstr, hnul]
    rw [hcstr]
    exact strtod_signed_isSome hsign hd _
  | infinity sign hsign =>
    rcases hsign with rfl | rfl
    · rfl
    · rfl
  | nan => rfl

theorem signText_false (s : Sign) : signText false s = [] ∨ signText false s = ['-'] := by
  cases s with
  | negative => exact .inr rfl
  | positive => exact .inl rfl

theorem stripFraction_cons (d : Char) (whole fraction : List Char) :
    ∃ rest, stripFraction (d :: whole) fraction = d :: rest := by
  unfold stripFraction
  split
  · exact ⟨whole, rfl⟩
  · exact ⟨_, rfl⟩

theorem printG9_spelled (x : Float) : Spelled (printG9 x) := by
  unfold printG9
  split
  · exact .nan
  · exact .infinity _ (signText_false _)
  · exact .number _ '0' [] (signText_false _) rfl
  · next s m e _ _ =>
    dsimp only
    generalize scaled 8 (magnitude m e).1 (magnitude m e).2 = shown
    obtain ⟨d, ds, hdigits, hd⟩ := toDigits_head shown.1
    rw [hdigits]
    have hsign := signText_false s
    split
    · obtain ⟨rest, hrest⟩ := stripFraction_cons d [] ds
      rw [List.take_succ_cons, List.take_zero, List.drop_succ_cons, List.drop_zero, hrest]
      exact .number _ d _ hsign hd
    · split
      · obtain ⟨rest, hrest⟩ := stripFraction_cons '0' []
          (List.replicate (-shown.2 - 1).toNat '0' ++ d :: ds)
        rw [hrest]
        exact .number _ '0' _ hsign rfl
      · obtain ⟨rest, hrest⟩ := stripFraction_cons d (ds.take shown.2.toNat)
          (ds.drop shown.2.toNat)
        rw [List.take_succ_cons, List.drop_succ_cons, hrest]
        exact .number _ d _ hsign hd

theorem Spelled.map {s : List Char} (h : Spelled s) {f : Char → Char}
    (hdigit : ∀ d, d.isDigit = true → f d = d)
    (hkept : ['-', 'n', 'a', 'i', 'f'].all (fun c => f c == c) = true) : Spelled (s.map f) := by
  simp only [List.all_cons, Bool.and_eq_true, beq_iff_eq] at hkept
  obtain ⟨hminus, hn, ha, hi, hf, -⟩ := hkept
  have hsigned {sign : List Char} (hsign : sign = [] ∨ sign = ['-']) : sign.map f = sign := by
    rcases hsign with rfl | rfl
    · rfl
    · simp [hminus]
  cases h with
  | number sign d rest hsign hd =>
    rw [List.map_append, List.map_cons, hsigned hsign, hdigit d hd]
    exact .number sign d _ hsign hd
  | infinity sign hsign =>
    rw [List.map_append, hsigned hsign]
    simpa [hn, hi, hf] using Spelled.infinity sign hsign
  | nan => simpa [hn, ha] using Spelled.nan

theorem strtod_digit_isSome {d : Char} (hd : d.isDigit = true) {sign : List Char}
    (hsign : sign = [] ∨ sign = ['-']) (s : List Char) : (strtod (sign ++ d :: s)).isSome = true := by
  rcases hsign with rfl | rfl
  · have hspace : isSpace d = false := isSpace_of_isNumberChar (isNumberChar_of_isDigit hd)
    have hdrop : (d :: s).dropWhile isSpace = d :: s := by simp [hspace]
    have hread := readDecimal_isSome hd s
    rw [List.nil_append, strtod, hdrop, takeSign_digit hd, Option.isSome_map]
    cases readSpecial (d :: s) with
    | some result => rfl
    | none =>
      cases readHex (d :: s) with
      | some result => rfl
      | none => exact hread
  · exact strtod_signed_isSome (.inr rfl) hd s

theorem Spelled.strtod_isSome {s : List Char} (h : Spelled s) : (strtod (cstr s)).isSome = true := by
  cases h with
  | number sign d rest hsign hd =>
    have hnul : d ≠ '\x00' := by
      rintro rfl
      cases hd
    have hcstr : cstr (sign ++ d :: rest) = sign ++ d :: cstr rest := by
      rcases hsign with rfl | rfl <;> simp [cstr, hnul]
    rw [hcstr]
    exact strtod_digit_isSome hd hsign _
  | infinity sign hsign =>
    rcases hsign with rfl | rfl
    · rfl
    · rfl
  | nan => rfl

end Print

end CNumber
