import Norma.IntegerArgument
import Norma.Lib.Progression

namespace Norma

open CNumber FloatOrder Progression

section Loop

variable {source out : List Float} {count : Int} {step : Nat}

def remaining (source : List Float) (count : Int) (step i served : Nat) : List Nat :=
  let rest := reached (toInt32 source.length).toNat i step
  if 0 < count then rest.take (count.toNat - served) else rest

theorem remaining_nil {i : Nat} (h : toInt32 source.length ≤ i) (served : Nat) :
    remaining source count step i served = [] := by
  rw [remaining, reached_nil (by omega)]
  simp

theorem remaining_done {i served : Nat} (h : 0 < count ∧ count ≤ served) :
    remaining source count step i served = [] := by
  have hzero : count.toNat - served = 0 := by omega
  rw [remaining, if_pos h.1, hzero, List.take_zero]

theorem remaining_cons (hstep : 0 < step) {i served : Nat} (hi : ¬toInt32 source.length ≤ i)
    (hmore : ¬(0 < count ∧ count ≤ served)) : remaining source count step i served =
      i :: remaining source count step (i + step) (served + 1) := by
  simp only [remaining, reached_cons hstep (show i < (toInt32 source.length).toNat by omega)]
  split
  · next hlimit =>
    have hsplit : count.toNat - served = count.toNat - (served + 1) + 1 := by omega
    rw [hsplit, List.take_succ_cons]
  · rfl

theorem toInt32_small {n : Nat} (h : n < 2 ^ 31) : toInt32 n = n :=
  Int.bmod_eq_of_le (by omega) (by omega)

theorem toInt32_lt (n : Int) : toInt32 n < 2 ^ 31 := by
  have h := Int.bmod_lt (x := n) (m := 2 ^ 32) (by decide)
  exact Int.lt_of_lt_of_le h (by decide)

theorem toInt32_le_length (n : Nat) : (toInt32 n).toNat ≤ n := by
  have hle : toInt32 n ≤ n := by
    unfold toInt32
    rw [Int.bmod_def]
    split <;> omega
  omega

theorem index_small {m i : Nat} {n : Int} (h : m ≤ i) (hi : ¬toInt32 n ≤ i) : m < 2 ^ 31 := by
  have hlt := toInt32_lt n
  omega

theorem index_lt {n i : Nat} (hi : ¬toInt32 n ≤ i) : i < n := by
  have hle := toInt32_le_length n
  omega

theorem applyWindow_go_eq (hstep : 0 < step) {fuel i : Nat} (hout : out.length ≤ i)
    (hfuel : (toInt32 source.length).toNat < fuel + i) (hpos : 0 < fuel) :
    applyWindow.go source count step fuel i out =
      if ∀ j ∈ remaining source count step i out.length, j + step < 2 ^ 31 then
        some (out ++ pick source (remaining source count step i out.length))
      else none := by
  induction fuel generalizing i out with
  | zero => exact absurd hpos (Nat.lt_irrefl 0)
  | succ fuel ih =>
    rw [applyWindow.go]
    split
    · next hend =>
      rw [remaining_nil hend, if_pos (by simp)]
      simp [pick]
    · next hi =>
      rw [toInt32_small (index_small hout hi)]
      split
      · next hdone =>
        rw [remaining_done hdone, if_pos (by simp)]
        simp [pick]
      · next hmore =>
        have hlt : i < source.length := index_lt hi
        have hget : source[i]? = some source[i] := List.getElem?_eq_getElem hlt
        rw [hget, remaining_cons hstep hi hmore, pick_cons hget]
        dsimp only
        split
        · next hfits =>
          have hlength : (out ++ [source[i]]).length = out.length + 1 := by simp
          have hrest {P : Nat → Prop} (hhead : P i) {is : List Nat} :
              (∀ j ∈ is, P j) ↔ ∀ j ∈ i :: is, P j := by
            rw [List.forall_mem_cons]
            exact (and_iff_right hhead).symm
          rw [ih (by omega) (by omega) (by omega), hlength, List.append_assoc,
            List.singleton_append]
          exact if_congr (hrest hfits) rfl rfl
        · next hbeyond =>
          rw [if_neg fun h => hbeyond (h i List.mem_cons_self)]

theorem applyWindow_eq (source : List Float) (window : Window) :
    let n := (toInt32 source.length).toNat
    let count := window.count.toNat
    let offset := window.offset.toNat
    let step := max window.sparsing.toNat 1
    applyWindow source window =
      if 0 < taken n count offset step → offset + taken n count offset step * step < 2 ^ 31 then
        some (pick source (positions n count offset step))
      else none := by
  intro n count offset step
  have hstep : (max window.sparsing 1).toNat = step := by omega
  have hoffset : (max window.offset 0).toNat = offset := by omega
  have hpos : 0 < step := by omega
  have hremaining : remaining source window.count step offset 0 = positions n count offset step := by
    rw [remaining, positions, limited]
    by_cases hcount : 0 < window.count
    · rw [if_pos hcount, if_neg (by omega), Nat.sub_zero]
    · rw [if_neg hcount, if_pos (by omega)]
  have hfuel := toInt32_le_length source.length
  rw [applyWindow, hstep, hoffset, applyWindow_go_eq hpos (Nat.zero_le _) (by omega) (by omega),
    List.length_nil, hremaining, positions_eq hpos, List.nil_append]
  exact if_congr forall_terms_iff rfl rfl

end Loop

section Arguments

-- An infinite argument asks for more than any series has.
def amount (x : Float) : Nat :=
  if x.isFinite = true then (nearest (rational x)).toNat else 2 ^ 1024

-- The numbers that the arguments are read as; a missing one is zero.
def readNumbers : Nat → List Text → Except Text (List Float)
  | 0, _ => .ok []
  | n + 1, [] => .ok (List.replicate (n + 1) 0)
  | n + 1, arg :: args =>
      if arg = [] then .ok (List.replicate (n + 1) 0)
      else
        match parseNumber arg with
        | none => .error arg
        | some value =>
            if value < 0 then .error arg
            else (readNumbers n args).map (value :: ·)

theorem readCounts_eq (n : Nat) (args : List Text) :
    readCounts n args = (readNumbers n args).map (List.map narrowed) := by
  have hzero : narrowed 0 = 0 := by decide +kernel
  induction n generalizing args with
  | zero => cases args <;> rfl
  | succ n ih =>
    cases args with
    | nil => simp [readCounts, readNumbers, Except.map, hzero]
    | cons arg args =>
      rw [readCounts, readNumbers]
      split
      · simp [Except.map, hzero]
      · cases parseNumber arg with
        | none => rfl
        | some value =>
          dsimp only
          split
          · rfl
          · rw [ih, toInt, toInt32_lround]
            cases readNumbers n args <;> rfl

def WindowExact (args : List Text) (count offset sparsing : Float) (source : List Float) : Prop :=
  (count.isNaN = false ∧ offset.isNaN = false ∧ sparsing.isNaN = false) ∧
    ∃ counts, readCounts 3 args = .ok counts ∧
      applyWindow source ⟨counts.getD 0 0, counts.getD 1 0, counts.getD 2 0⟩ =
        some (served source (amount count) (amount offset) (max (amount sparsing) 1))

variable {args : List Text} {count offset sparsing : Float}

theorem windowExact_iff (hread : readNumbers 3 args = .ok [count, offset, sparsing])
    (source : List Float) : WindowExact args count offset sparsing source ↔
      (count.isNaN = false ∧ offset.isNaN = false ∧ sparsing.isNaN = false) ∧
        applyWindow source ⟨narrowed count, narrowed offset, narrowed sparsing⟩ =
          some (served source (amount count) (amount offset) (max (amount sparsing) 1)) := by
  have hcounts : readCounts 3 args = .ok [narrowed count, narrowed offset, narrowed sparsing] := by
    rw [readCounts_eq, hread]
    rfl
  apply and_congr_right
  intro hnumbers
  constructor
  · rintro ⟨counts, hread', hwindow⟩
    rw [hcounts] at hread'
    obtain rfl := Except.ok.inj hread'
    exact hwindow
  · exact fun hwindow => ⟨_, hcounts, hwindow⟩

instance nontrivialFloat : Nontrivial Float :=
  ⟨0, 1, fun h => absurd (congrArg narrowed h) (by decide +kernel)⟩

def intStep (sparsing : Float) : Nat := max (narrowed sparsing).toNat 1

def intTaken (n : Nat) (count offset sparsing : Float) : Nat :=
  taken (toInt32 n).toNat (narrowed count).toNat (narrowed offset).toNat (intStep sparsing)

-- In `int`, the arguments still name the same positions, and so does what follows the last.
structure WindowInInt (n : Nat) (count offset sparsing : Float) : Prop where
  ordinary : count.isNaN = false ∧ offset.isNaN = false ∧ sparsing.isNaN = false
  same_count : intTaken n count offset sparsing =
    taken n (amount count) (amount offset) (max (amount sparsing) 1)
  same_first : 0 < intTaken n count offset sparsing → (narrowed offset).toNat = amount offset
  same_step : 1 < intTaken n count offset sparsing → intStep sparsing = max (amount sparsing) 1
  bounded : 0 < intTaken n count offset sparsing →
    (narrowed offset).toNat + intTaken n count offset sparsing * intStep sparsing < 2 ^ 31

theorem window_exact_iff (hread : readNumbers 3 args = .ok [count, offset, sparsing]) (n : Nat) :
    (∀ source : List Float, source.length = n → WindowExact args count offset sparsing source) ↔
      WindowInInt n count offset sparsing := by
  have hstep : 0 < intStep sparsing := by
    unfold intStep
    omega
  have hstep' : 0 < max (amount sparsing) 1 := by omega
  have hterms : terms (narrowed offset).toNat (intStep sparsing)
        (intTaken n count offset sparsing) = terms (amount offset) (max (amount sparsing) 1)
        (taken n (amount count) (amount offset) (max (amount sparsing) 1)) ↔ _ := terms_eq_iff
  rw [intTaken, ← positions_eq hstep, ← positions_eq hstep'] at hterms
  constructor
  · intro hall
    have hserved {source : List Float} (hlength : source.length = n) :
        (0 < intTaken n count offset sparsing →
          (narrowed offset).toNat + intTaken n count offset sparsing * intStep sparsing < 2 ^ 31) ∧
          pick source (positions (toInt32 n).toNat (narrowed count).toNat (narrowed offset).toNat
            (intStep sparsing)) = pick source (positions n (amount count) (amount offset)
              (max (amount sparsing) 1)) := by
      have hwindow := ((windowExact_iff hread _).mp (hall source hlength)).2
      rw [applyWindow_eq, served, hlength] at hwindow
      split at hwindow
      · next hfits => exact ⟨hfits, Option.some.inj hwindow⟩
      · cases hwindow
    have hpositions := pick_separates (A := Float)
      (fun i hi => Nat.lt_of_lt_of_le (mem_positions_lt hi) (toInt32_le_length n))
      (fun i hi => mem_positions_lt hi) fun source hlength => (hserved hlength).2
    have hlength : (List.replicate n (0 : Float)).length = n := List.length_replicate
    obtain ⟨hcount, hoffset, hstride⟩ := hterms.mp hpositions
    exact ⟨((windowExact_iff hread _).mp (hall _ hlength)).1, hcount, hoffset, hstride,
      (hserved hlength).1⟩
  · intro h source hlength
    refine (windowExact_iff hread source).mpr ⟨h.ordinary, ?_⟩
    have hpositions := hterms.mpr ⟨h.same_count, h.same_first, h.same_step⟩
    rw [applyWindow_eq, served, hlength, ← hpositions]
    exact if_pos h.bounded

theorem readNumbers_cons {n : Nat} {arg : Text} {args : List Text} {x : Float} {xs : List Float}
    (hne : arg ≠ []) (hparse : parseNumber arg = some x) (hsign : ¬x < 0)
    (hrest : readNumbers n args = .ok xs) : readNumbers (n + 1) (arg :: args) = .ok (x :: xs) := by
  rw [readNumbers, if_neg hne, hparse]
  dsimp only
  rw [if_neg hsign, hrest]
  rfl

theorem readNumbers_three {first second third : Text} {x y z : Float}
    (hne : first ≠ [] ∧ second ≠ [] ∧ third ≠ []) (hfirst : parseNumber first = some x)
    (hsecond : parseNumber second = some y) (hthird : parseNumber third = some z)
    (hsign : ¬x < 0 ∧ ¬y < 0 ∧ ¬z < 0) : readNumbers 3 [first, second, third] = .ok [x, y, z] :=
  readNumbers_cons hne.1 hfirst hsign.1 (readNumbers_cons hne.2.1 hsecond hsign.2.1
    (readNumbers_cons hne.2.2 hthird hsign.2.2 rfl))

theorem every_second_value :
    WindowExact ["4", "1", "2"] 4 1 2 ((List.range 32).map Float.ofNat) :=
  (window_exact_iff (readNumbers_three (by decide) (by decide +kernel) (by decide +kernel)
    (by decide +kernel) (by decide +kernel)) 32).mpr
    ⟨by decide +kernel, by decide +kernel, by decide +kernel, by decide +kernel, by decide +kernel⟩
    _ (by rw [List.length_map, List.length_range])

theorem last_step_overflows : ¬∀ args count offset sparsing,
    readNumbers 3 args = .ok [count, offset, sparsing] →
    ∀ source, WindowExact args count offset sparsing source := by
  intro hall
  have hread : readNumbers 3 ["0", "1", "2147483647"] = .ok [0, 1, 2147483647] :=
    readNumbers_three (by decide) (by decide +kernel) (by decide +kernel) (by decide +kernel)
      (by decide +kernel)
  have hwindow := ((windowExact_iff hread _).mp (hall _ _ _ _ hread (List.replicate 32 0))).2
  have hcounts : narrowed 0 = 0 ∧ narrowed 1 = 1 ∧ narrowed 2147483647 = 2147483647 := by
    decide +kernel
  rw [hcounts.1, hcounts.2.1, hcounts.2.2, applyWindow_eq, List.length_replicate] at hwindow
  split at hwindow
  · next hfits => exact absurd (hfits (by decide)) (by decide)
  · cases hwindow

end Arguments

end Norma
