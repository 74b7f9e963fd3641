import Mathlib.Algebra.Group.Nat.Defs
import Mathlib.Data.List.Basic

-- Text as bytes, each one a character below 256, and as Unicode characters.
namespace Utf8

def replacement : Char := '\ufffd'

def encodeChar (c : Char) : List Char := (String.utf8EncodeChar c).map fun b => Char.ofNat b.toNat

def encode (text : List Char) : List Char := text.flatMap encodeChar

-- A character of which the first bytes are read: the range of the next byte, and how many
-- bytes follow that one.
structure Pending where
  value : Nat
  low : Nat
  high : Nat
  more : Nat
  low_ge : 0x80 ≤ low

def start (b : Nat) : List Char × Option Pending :=
  if b < 0x80 then ([Char.ofNat b], none)
  else if 0xC2 ≤ b ∧ b ≤ 0xDF then ([], some ⟨b - 0xC0, 0x80, 0xBF, 0, Nat.le_refl _⟩)
  else if 0xE0 ≤ b ∧ b ≤ 0xEF then
    ([], some ⟨b - 0xE0, if b = 0xE0 then 0xA0 else 0x80, if b = 0xED then 0x9F else 0xBF, 1,
      by split <;> decide⟩)
  else if 0xF0 ≤ b ∧ b ≤ 0xF4 then
    ([], some ⟨b - 0xF0, if b = 0xF0 then 0x90 else 0x80, if b = 0xF4 then 0x8F else 0xBF, 2,
      by split <;> decide⟩)
  else ([replacement], none)

def next (pending : Option Pending) (b : Nat) : List Char × Option Pending :=
  match pending with
  | none => start b
  | some p =>
      if p.low ≤ b ∧ b ≤ p.high then
        let value := p.value * 64 + (b - 0x80)
        match p.more with
        | 0 => ([Char.ofNat value], none)
        | more + 1 => ([], some ⟨value, 0x80, 0xBF, more, Nat.le_refl _⟩)
      else
        let (read, pending) := start b
        (replacement :: read, pending)

def decodeFrom : Option Pending → List Char → List Char
  | none, [] => []
  | some _, [] => [replacement]
  | pending, b :: bytes =>
      let (read, pending) := next pending b.toNat
      read ++ decodeFrom pending bytes

-- Every longest start of a character that goes no further is replaced by one character.
def decode (bytes : List Char) : List Char := decodeFrom none bytes

theorem byte_toNat {n : Nat} (h : n < 256) : (Char.ofNat n).toNat = n := by
  have hvalid : n.isValidChar := .inl (by omega)
  rw [Char.ofNat, dif_pos hvalid]
  rfl

theorem decodeFrom_cons {pending after : Option Pending} {n : Nat} {read : List Char} (hn : n < 256)
    (hnext : next pending n = (read, after)) (bytes : List Char) :
    decodeFrom pending (Char.ofNat n :: bytes) = read ++ decodeFrom after bytes := by
  rw [decodeFrom, byte_toNat hn, hnext]

theorem next_more {p : Pending} {b more : Nat} (hlow : p.low ≤ b) (hhigh : b ≤ p.high)
    (hmore : p.more = more + 1) : next (some p) b =
      ([], some ⟨p.value * 64 + (b - 0x80), 0x80, 0xBF, more, Nat.le_refl _⟩) := by
  rw [next, if_pos (And.intro hlow hhigh), hmore]

theorem next_last {p : Pending} {b : Nat} (hlow : p.low ≤ b) (hhigh : b ≤ p.high)
    (hmore : p.more = 0) : next (some p) b = ([Char.ofNat (p.value * 64 + (b - 0x80))], none) := by
  rw [next, if_pos (And.intro hlow hhigh), hmore]

theorem decodeFrom_more {p : Pending} {n more : Nat} (hlow : p.low ≤ n) (hhigh : n ≤ p.high)
    (hmore : p.more = more + 1) (hn : n < 256) (bytes : List Char) :
    decodeFrom (some p) (Char.ofNat n :: bytes) =
      decodeFrom (some ⟨p.value * 64 + (n - 0x80), 0x80, 0xBF, more, Nat.le_refl _⟩) bytes :=
  decodeFrom_cons hn (next_more hlow hhigh hmore) bytes

theorem decodeFrom_last {p : Pending} {n : Nat} (hlow : p.low ≤ n) (hhigh : n ≤ p.high)
    (hmore : p.more = 0) (hn : n < 256) (bytes : List Char) :
    decodeFrom (some p) (Char.ofNat n :: bytes) =
      Char.ofNat (p.value * 64 + (n - 0x80)) :: decodeFrom none bytes :=
  decodeFrom_cons hn (next_last hlow hhigh hmore) bytes

theorem decodeFrom_one {n : Nat} (h : n < 0x80) (bytes : List Char) :
    decodeFrom none (Char.ofNat n :: bytes) = Char.ofNat n :: decodeFrom none bytes :=
  @decodeFrom_cons none _ _ _ (by omega) (if_pos h) bytes

theorem decodeFrom_two {n m : Nat} (hlow : 0x80 ≤ n) (hhigh : n < 0x800) (hm : m = n % 64 + 0x80)
    (bytes : List Char) :
    decodeFrom none (Char.ofNat (n / 64 + 0xC0) :: Char.ofNat m :: bytes) =
      Char.ofNat n :: decodeFrom none bytes := by
  have hstart : next none (n / 64 + 0xC0) =
      ([], some ⟨n / 64 + 0xC0 - 0xC0, 0x80, 0xBF, 0, Nat.le_refl _⟩) := by
    rw [next, start, if_neg (by omega), if_pos (by omega)]
  have hvalue : (n / 64 + 0xC0 - 0xC0) * 64 + (m - 0x80) = n := by omega
  rw [decodeFrom_cons (by omega) hstart, List.nil_append,
    decodeFrom_last (by dsimp only; omega) (by dsimp only; omega) rfl (by omega), hvalue]

theorem decodeFrom_three {n m k : Nat} (hlow : 0x800 ≤ n) (hhigh : n < 0x10000)
    (hvalid : n < 0xD800 ∨ 0xDFFF < n) (hm : m = n / 64 % 64 + 0x80) (hk : k = n % 64 + 0x80)
    (bytes : List Char) :
    decodeFrom none (Char.ofNat (n / 4096 + 0xE0) :: Char.ofNat m :: Char.ofNat k :: bytes) =
      Char.ofNat n :: decodeFrom none bytes := by
  let lead := n / 4096 + 0xE0
  have hstart : next none lead = ([], some ⟨lead - 0xE0, if lead = 0xE0 then 0xA0 else 0x80,
      if lead = 0xED then 0x9F else 0xBF, 1, by split <;> decide⟩) := by
    rw [next, start, if_neg (by omega), if_neg (by omega), if_pos (by omega)]
  have hvalue : ((lead - 0xE0) * 64 + (m - 0x80)) * 64 + (k - 0x80) = n := by omega
  rw [decodeFrom_cons (by omega) hstart, List.nil_append,
    decodeFrom_more (by dsimp only; split <;> omega) (by dsimp only; split <;> omega) rfl (by omega),
    decodeFrom_last (by dsimp only; omega) (by dsimp only; omega) rfl (by omega)]
  dsimp only
  rw [hvalue]

theorem decodeFrom_four {n m k l : Nat} (hlow : 0x10000 ≤ n) (hhigh : n < 0x110000)
    (hm : m = n / 4096 % 64 + 0x80) (hk : k = n / 64 % 64 + 0x80) (hl : l = n % 64 + 0x80)
    (bytes : List Char) :
    decodeFrom none (Char.ofNat (n / 262144 + 0xF0) :: Char.ofNat m :: Char.ofNat k ::
      Char.ofNat l :: bytes) = Char.ofNat n :: decodeFrom none bytes := by
  let lead := n / 262144 + 0xF0
  have hstart : next none lead = ([], some ⟨lead - 0xF0, if lead = 0xF0 then 0x90 else 0x80,
      if lead = 0xF4 then 0x8F else 0xBF, 2, by split <;> decide⟩) := by
    rw [next, start, if_neg (by omega), if_neg (by omega), if_neg (by omega), if_pos (by omega)]
  have hvalue : (((lead - 0xF0) * 64 + (m - 0x80)) * 64 + (k - 0x80)) * 64 + (l - 0x80) = n := by
    omega
  rw [decodeFrom_cons (by omega) hstart, List.nil_append,
    decodeFrom_more (by dsimp only; split <;> omega) (by dsimp only; split <;> omega) rfl (by omega),
    decodeFrom_more (by dsimp only; omega) (by dsimp only; omega) rfl (by omega),
    decodeFrom_last (by dsimp only; omega) (by dsimp only; omega) rfl (by omega)]
  dsimp only
  rw [hvalue]

theorem decodeFrom_encodeChar (c : Char) (bytes : List Char) :
    decodeFrom none (encodeChar c ++ bytes) = c :: decodeFrom none bytes := by
  have hvalid : c.toNat < 0xD800 ∨ 0xDFFF < c.toNat ∧ c.toNat < 0x110000 := c.valid
  have hbyte {n m : Nat} (h : n = m) (hm : m < 256) : (UInt8.ofNat n).toNat = m := by
    rw [UInt8.toNat_ofNat', h, Nat.mod_eq_of_lt hm]
  have hread := Char.ofNat_toNat c
  generalize hn : c.toNat = n at hvalid hread
  have hval : c.val.toNat = n := hn
  unfold encodeChar String.utf8EncodeChar
  rw [hval]
  dsimp only
  split_ifs
  · rw [List.map_singleton, hbyte (m := n) rfl (by omega), List.singleton_append,
      decodeFrom_one (by omega), hread]
  · simp only [List.map_cons, List.map_nil, List.cons_append, List.nil_append]
    rw [hbyte (m := n / 64 + 0xC0) (by omega) (by omega), hbyte rfl (by omega),
      decodeFrom_two (by omega) (by omega) rfl, hread]
  · simp only [List.map_cons, List.map_nil, List.cons_append, List.nil_append]
    rw [hbyte (m := n / 4096 + 0xE0) (by omega) (by omega), hbyte rfl (by omega),
      hbyte rfl (by omega), decodeFrom_three (by omega) (by omega) (by omega) rfl rfl, hread]
  · simp only [List.map_cons, List.map_nil, List.cons_append, List.nil_append]
    rw [hbyte (m := n / 262144 + 0xF0) (by omega) (by omega), hbyte rfl (by omega),
      hbyte rfl (by omega), hbyte rfl (by omega),
      decodeFrom_four (by omega) (by omega) rfl rfl rfl, hread]

theorem decode_encode (text : List Char) : decode (encode text) = text := by
  induction text with
  | nil => rfl
  | cons c text ih =>
    rw [encode, List.flatMap_cons, decode, decodeFrom_encodeChar]
    exact congrArg (c :: ·) ih

theorem decodeFrom_ascii {n : Nat} (h : n < 0x80) (pending : Option Pending)
    (pre post : List Char) : decodeFrom pending (pre ++ Char.ofNat n :: post) =
      decodeFrom pending pre ++ Char.ofNat n :: decodeFrom none post := by
  induction pre generalizing pending with
  | nil =>
    cases pending with
    | none => exact decodeFrom_one h post
    | some p =>
      have hlow := p.low_ge
      have hnext : next (some p) n = ([replacement, Char.ofNat n], none) := by
        rw [next, if_neg (by omega), start, if_pos h]
      exact decodeFrom_cons (by omega) hnext post
  | cons b pre ih =>
    rw [List.cons_append, decodeFrom, decodeFrom]
    generalize next pending b.toNat = result
    obtain ⟨read, after⟩ := result
    dsimp only
    rw [ih, List.append_assoc]

theorem nul_mem_encode {text : List Char} : '\x00' ∈ encode text ↔ '\x00' ∈ text := by
  constructor
  · intro h
    obtain ⟨pre, post, hsplit⟩ := List.append_of_mem h
    have hdecode := decodeFrom_ascii (n := 0) (by decide) none pre post
    change decodeFrom none (pre ++ '\x00' :: post) = _ at hdecode
    rw [← decode_encode text, decode, hsplit, hdecode]
    exact List.mem_append_right _ List.mem_cons_self
  · intro h
    exact List.mem_flatMap.mpr ⟨'\x00', h, by decide⟩

-- What is cut off at a zero byte is not read back.
theorem decode_nul_length (pre post : List Char) :
    (decode pre).length < (decode (pre ++ '\x00' :: post)).length := by
  have hdecode := decodeFrom_ascii (n := 0) (by decide) none pre post
  change decodeFrom none (pre ++ '\x00' :: post) = _ at hdecode
  rw [decode, decode, hdecode, List.length_append, List.length_cons]
  omega

def Pending.Large (p : Pending) : Prop :=
  0x80 ≤ p.value * 64 ^ (p.more + 1) + (p.low - 0x80) * 64 ^ p.more

theorem start_large (b : Nat) : ∀ p ∈ (start b).2, p.Large := by
  intro p hp
  unfold start at hp
  split at hp
  · simp at hp
  · split at hp
    · rw [← Option.mem_some.mp hp, Pending.Large]
      dsimp only
      omega
    · split at hp
      · rw [← Option.mem_some.mp hp, Pending.Large]
        dsimp only
        split <;> omega
      · split at hp
        · rw [← Option.mem_some.mp hp, Pending.Large]
          dsimp only
          split <;> omega
        · simp at hp

theorem start_read (b : Nat) : ∀ c ∈ (start b).1, c = Char.ofNat b ∨ c = replacement := by
  intro c hc
  unfold start at hc
  split at hc
  · exact .inl (List.mem_singleton.mp hc)
  · split at hc
    · cases hc
    · split at hc
      · cases hc
      · split at hc
        · cases hc
        · exact .inr (List.mem_singleton.mp hc)

theorem next_large {pending : Option Pending} (hpending : ∀ p ∈ pending, p.Large) (b : Nat) :
    ∀ p ∈ (next pending b).2, p.Large := by
  cases pending with
  | none => exact start_large b
  | some p =>
    by_cases hrange : p.low ≤ b ∧ b ≤ p.high
    · cases hmore : p.more with
      | zero => simp [next_last hrange.1 hrange.2 hmore]
      | succ more =>
        have hlarge : p.Large := hpending p rfl
        rw [next_more hrange.1 hrange.2 hmore]
        intro after hafter
        rw [← Option.mem_some.mp hafter]
        simp only [Pending.Large, hmore, Nat.pow_succ _ (more + 1)] at hlarge ⊢
        have hbyte : p.low - 0x80 ≤ b - 0x80 := Nat.sub_le_sub_right hrange.1 0x80
        have hscaled := Nat.mul_le_mul_right (64 ^ (more + 1)) hbyte
        have hsplit : (p.value * 64 + (b - 0x80)) * 64 ^ (more + 1) =
            p.value * (64 ^ (more + 1) * 64) + (b - 0x80) * 64 ^ (more + 1) := by
          rw [Nat.add_mul, Nat.mul_assoc, Nat.mul_comm 64]
        omega
    · have hnext : next (some p) b = (replacement :: (start b).1, (start b).2) := by
        rw [next, if_neg hrange]
      rw [hnext]
      exact start_large b

theorem next_read {pending : Option Pending} (hpending : ∀ p ∈ pending, p.Large) {b : Nat} {c : Char}
    (hc : c ∈ (next pending b).1) :
    c = Char.ofNat b ∨ c = replacement ∨ ∃ n, 0x80 ≤ n ∧ c = Char.ofNat n := by
  cases pending with
  | none => exact (start_read b c hc).imp_right .inl
  | some p =>
    by_cases hrange : p.low ≤ b ∧ b ≤ p.high
    · cases hmore : p.more with
      | zero =>
        have hlarge : p.Large := hpending p rfl
        rw [next_last hrange.1 hrange.2 hmore] at hc
        simp only [Pending.Large, hmore, Nat.zero_add, Nat.pow_zero, Nat.pow_one,
          Nat.mul_one] at hlarge
        exact .inr (.inr ⟨_, by omega, List.mem_singleton.mp hc⟩)
      | succ more =>
        rw [next_more hrange.1 hrange.2 hmore] at hc
        cases hc
    · have hnext : next (some p) b = (replacement :: (start b).1, (start b).2) := by
        rw [next, if_neg hrange]
      rw [hnext] at hc
      rcases List.mem_cons.mp hc with rfl | hstart
      · exact .inr (.inl rfl)
      · exact (start_read b c hstart).imp_right .inl

theorem ofNat_large {n : Nat} (hn : 0x80 ≤ n) {c : Char} (hc : c.toNat < 0x80)
    (hnul : c ≠ '\x00') : c ≠ Char.ofNat n := by
  rintro rfl
  unfold Char.ofNat at hc hnul
  by_cases hvalid : n.isValidChar
  · rw [dif_pos hvalid] at hc
    exact absurd hc (Nat.not_lt.mpr hn)
  · exact hnul (dif_neg hvalid)

theorem mem_decodeFrom {pending : Option Pending} (hpending : ∀ p ∈ pending, p.Large) {c : Char}
    (hc : c.toNat < 0x80) (hnul : c ≠ '\x00') {bytes : List Char}
    (h : c ∈ decodeFrom pending bytes) : c ∈ bytes := by
  have hreplacement : c ≠ replacement := by
    rintro rfl
    exact absurd hc (by decide)
  induction bytes generalizing pending with
  | nil =>
    cases pending with
    | none => cases h
    | some p => exact absurd (List.mem_singleton.mp h) hreplacement
  | cons b bytes ih =>
    rw [decodeFrom] at h
    rcases List.mem_append.mp h with hread | hrest
    · rcases next_read hpending hread with hbyte | hlost | ⟨n, hn, hlarge⟩
      · rw [hbyte, Char.ofNat_toNat]
        exact List.mem_cons_self
      · exact absurd hlost hreplacement
      · exact absurd hlarge (ofNat_large hn hc hnul)
    · exact List.mem_cons_of_mem _ (ih (next_large hpending b.toNat) hrest)

theorem mem_decode {c : Char} (hc : c.toNat < 0x80) (hnul : c ≠ '\x00') {bytes : List Char}
    (h : c ∈ decode bytes) : c ∈ bytes :=
  mem_decodeFrom (by simp) hc hnul h

end Utf8
