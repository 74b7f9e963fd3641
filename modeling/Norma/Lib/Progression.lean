import Mathlib.Data.List.Sort
import Mathlib.Tactic.Ring

namespace Progression

variable {A B : Type} {n count offset step : Nat}

def reached (n offset step : Nat) : List Nat :=
  (List.range n).filter fun i => offset ≤ i ∧ (i - offset) % step = 0

-- A count of 0 is no limit.
def limited (count : Nat) (xs : List A) : List A := if count = 0 then xs else xs.take count

def positions (n count offset step : Nat) : List Nat := limited count (reached n offset step)

def pick (source : List A) (is : List Nat) : List A := is.filterMap (source[·]?)

def served (source : List A) (count offset step : Nat) : List A :=
  pick source (positions source.length count offset step)

def total (n offset step : Nat) : Nat := (n - offset + (step - 1)) / step

def taken (n count offset step : Nat) : Nat :=
  if count = 0 then total n offset step else min count (total n offset step)

def terms (offset step k : Nat) : List Nat := (List.range k).map fun j => offset + j * step

theorem lt_total_iff (hstep : 0 < step) {k : Nat} :
    k < total n offset step ↔ offset + k * step < n := by
  rw [total, ← Nat.succ_le_iff, Nat.le_div_iff_mul_le hstep, Nat.succ_mul]
  omega

theorem mem_reached {i : Nat} :
    i ∈ reached n offset step ↔ i < n ∧ ∃ k, i = offset + k * step := by
  simp only [reached, List.mem_filter, List.mem_range, decide_eq_true_eq]
  apply and_congr_right
  intro hi
  constructor
  · rintro ⟨hle, hmod⟩
    refine ⟨(i - offset) / step, ?_⟩
    rw [Nat.div_mul_cancel (Nat.dvd_of_mod_eq_zero hmod)]
    omega
  · rintro ⟨k, rfl⟩
    exact ⟨Nat.le_add_right _ _, by rw [Nat.add_sub_cancel_left, Nat.mul_mod_left]⟩

theorem terms_sorted (hstep : 0 < step) (offset k : Nat) : (terms offset step k).SortedLT := by
  apply List.Pairwise.sortedLT
  apply List.Pairwise.map _ _ List.pairwise_lt_range
  intro a b hab
  exact Nat.add_lt_add_left (Nat.mul_lt_mul_of_pos_right hab hstep) offset

theorem reached_eq (hstep : 0 < step) :
    reached n offset step = terms offset step (total n offset step) := by
  have hsorted : (reached n offset step).SortedLT :=
    (List.pairwise_lt_range.filter _).sortedLT
  apply hsorted.eq_of_mem_iff (terms_sorted hstep _ _)
  intro i
  rw [mem_reached, terms, List.mem_map]
  constructor
  · rintro ⟨hi, k, rfl⟩
    exact ⟨k, List.mem_range.mpr ((lt_total_iff hstep).mpr hi), rfl⟩
  · rintro ⟨k, hk, rfl⟩
    exact ⟨(lt_total_iff hstep).mp (List.mem_range.mp hk), k, rfl⟩

theorem take_terms (k m : Nat) : (terms offset step k).take m = terms offset step (min m k) := by
  rw [terms, ← List.map_take, List.take_range]
  rfl

theorem positions_eq (hstep : 0 < step) :
    positions n count offset step = terms offset step (taken n count offset step) := by
  rw [positions, limited, taken, reached_eq hstep]
  split
  · rfl
  · rw [take_terms]

@[simp] theorem length_terms (k : Nat) : (terms offset step k).length = k := by
  rw [terms, List.length_map, List.length_range]

theorem terms_eq_iff {offset' step' k k' : Nat} :
    terms offset step k = terms offset' step' k' ↔
      k = k' ∧ (0 < k → offset = offset') ∧ (1 < k → step = step') := by
  constructor
  · intro h
    have hlength : k = k' := by simpa using congrArg List.length h
    have hentry (j : Nat) (hj : j < k) : offset + j * step = offset' + j * step' := by
      have hget := congrArg (·[j]?) h
      simpa [terms, hj, hlength ▸ hj] using hget
    refine ⟨hlength, fun hk => by simpa using hentry 0 hk, fun hk => ?_⟩
    have hfirst := hentry 0 (Nat.lt_of_succ_lt hk)
    have hsecond := hentry 1 hk
    omega
  · rintro ⟨rfl, hoffset, hstep⟩
    apply List.map_congr_left
    intro j hj
    have hk := List.mem_range.mp hj
    rw [hoffset (Nat.zero_lt_of_lt hk)]
    rcases Nat.eq_zero_or_pos j with rfl | hpos
    · rw [Nat.zero_mul, Nat.zero_mul]
    · rw [hstep (Nat.lt_of_le_of_lt hpos hk)]

theorem mem_terms_lt {k i : Nat} (hi : i ∈ terms offset step k) :
    i + step ≤ offset + k * step := by
  obtain ⟨j, hj, rfl⟩ := List.mem_map.mp hi
  have hle : (j + 1) * step ≤ k * step := Nat.mul_le_mul_right _ (List.mem_range.mp hj)
  rw [Nat.succ_mul] at hle
  omega

theorem forall_terms_iff {k bound : Nat} :
    (∀ i ∈ terms offset step k, i + step < bound) ↔ (0 < k → offset + k * step < bound) := by
  constructor
  · intro h hk
    have hlast := h (offset + (k - 1) * step)
      (List.mem_map.mpr ⟨k - 1, List.mem_range.mpr (by omega), rfl⟩)
    have hsplit : k * step = (k - 1) * step + step := by
      rw [← Nat.succ_mul]
      congr 1
      omega
    omega
  · intro h i hi
    have hk : 0 < k := by
      rw [← @length_terms offset step k]
      exact List.length_pos_of_mem hi
    exact Nat.lt_of_le_of_lt (mem_terms_lt hi) (h hk)

theorem reached_cons (hstep : 0 < step) (h : offset < n) :
    reached n offset step = offset :: reached n (offset + step) step := by
  have htotal : total n offset step = total n (offset + step) step + 1 := by
    apply Nat.le_antisymm
    · by_contra hmore
      have hlast := (lt_total_iff hstep).mp (Nat.not_le.mp hmore)
      refine absurd ((lt_total_iff hstep).mpr ?_) (Nat.lt_irrefl (total n (offset + step) step))
      rw [Nat.succ_mul] at hlast
      omega
    · rcases Nat.eq_zero_or_pos (total n (offset + step) step) with hzero | hpos
      · rw [hzero]
        exact (lt_total_iff hstep).mpr (by simpa using h)
      · obtain ⟨k, hk⟩ := Nat.exists_eq_succ_of_ne_zero (Nat.ne_of_gt hpos)
        rw [hk]
        apply (lt_total_iff hstep).mpr
        have hlast := (lt_total_iff hstep).mp (Nat.lt_of_lt_of_eq (Nat.lt_succ_self k) hk.symm)
        rw [Nat.succ_mul]
        omega
  rw [reached_eq hstep, reached_eq hstep, htotal, terms, List.range_succ_eq_map, List.map_cons,
    List.map_map, terms, Nat.zero_mul, Nat.add_zero]
  congr 1
  apply List.map_congr_left
  intro j hj
  change offset + (j + 1) * step = offset + step + j * step
  ring

theorem reached_nil (h : n ≤ offset) : reached n offset step = [] := by
  rw [reached, List.filter_eq_nil_iff]
  intro i hi
  have hlt := List.mem_range.mp hi
  simp
  omega

theorem pick_cons {source : List A} {i : Nat} {x : A} (h : source[i]? = some x) (is : List Nat) :
    pick source (i :: is) = x :: pick source is :=
  List.filterMap_cons_some h

theorem terms_succ (offset k : Nat) :
    terms offset 1 (k + 1) = offset :: terms (offset + 1) 1 k := by
  rw [terms, List.range_succ_eq_map, List.map_cons, List.map_map, terms]
  congr 1
  refine List.map_congr_left fun j _ => ?_
  change offset + (j + 1) * 1 = offset + 1 + j * 1
  omega

theorem pick_terms {source : List A} {k : Nat} (h : 0 < k → offset + k ≤ source.length) :
    pick source (terms offset 1 k) = (source.drop offset).take k := by
  induction k generalizing offset with
  | zero => rw [List.take_zero]; rfl
  | succ k ih =>
    have hend := h (Nat.zero_lt_succ k)
    have hlt : offset < source.length := by omega
    rw [terms_succ, pick_cons (List.getElem?_eq_getElem hlt), ih (by omega),
      List.drop_eq_getElem_cons hlt, List.take_succ_cons]

theorem total_one (n offset : Nat) : total n offset 1 = n - offset := by
  rw [total, Nat.div_one]
  omega

theorem pick_range (g : Nat → A) {is : List Nat} (h : ∀ i ∈ is, i < n) :
    pick ((List.range n).map g) is = is.map g := by
  induction is with
  | nil => rfl
  | cons i is ih =>
    have hi := h i List.mem_cons_self
    have hget : ((List.range n).map g)[i]? = some (g i) := by simp [hi]
    rw [pick_cons hget, List.map_cons, ih fun j hj => h j (List.mem_cons_of_mem _ hj)]

theorem map_separates [Nontrivial A] {is js : List Nat}
    (h : ∀ g : Nat → A, is.map g = js.map g) : is = js := by
  obtain ⟨x, y, hxy⟩ := exists_pair_ne A
  induction is generalizing js with
  | nil =>
    have hnil := h fun _ => x
    exact (List.map_eq_nil_iff.mp hnil.symm).symm
  | cons i is ih =>
    cases js with
    | nil => cases h fun _ => x
    | cons j js =>
      have htail : ∀ g : Nat → A, is.map g = js.map g := fun g => (List.cons.inj (h g)).2
      have hhead : (if i = i then x else y) = if j = i then x else y :=
        (List.cons.inj (h fun k => if k = i then x else y)).1
      have hji : j = i := by
        by_contra hne
        rw [if_pos rfl, if_neg hne] at hhead
        exact hxy hhead
      rw [ih htail, hji]

theorem pick_separates [Nontrivial A] {is js : List Nat} (his : ∀ i ∈ is, i < n)
    (hjs : ∀ j ∈ js, j < n)
    (h : ∀ source : List A, source.length = n → pick source is = pick source js) : is = js := by
  refine map_separates (A := A) fun g => ?_
  have hpick := h ((List.range n).map g) (by simp)
  rwa [pick_range g his, pick_range g hjs] at hpick

theorem limited_subset (count : Nat) (xs : List A) : ∀ x ∈ limited count xs, x ∈ xs := by
  intro x hx
  unfold limited at hx
  split at hx
  · exact hx
  · exact List.mem_of_mem_take hx

theorem mem_positions_lt {i : Nat} (h : i ∈ positions n count offset step) : i < n :=
  (mem_reached.mp (limited_subset _ _ i h)).1

def page (source : List A) (size k : Nat) : List A := (source.drop (k * size)).take size

theorem flatMap_page (source : List A) (size pages : Nat) :
    (List.range pages).flatMap (page source size) = source.take (pages * size) := by
  induction pages with
  | zero => rw [Nat.zero_mul]; rfl
  | succ pages ih =>
    rw [List.range_succ, List.flatMap_append, ih, List.flatMap_singleton, page, ← List.take_add,
      Nat.succ_mul]

theorem page_eq_nil_iff {source : List A} {size : Nat} (hsize : 0 < size) (k : Nat) :
    page source size k = [] ↔ source.length ≤ k * size := by
  rw [page, List.take_eq_nil_iff, List.drop_eq_nil_iff]
  omega

theorem page_eq_nil_iff_total {source : List A} {size : Nat} (hsize : 0 < size) (k : Nat) :
    page source size k = [] ↔ total source.length 0 size ≤ k := by
  have hlt : k < total source.length 0 size ↔ 0 + k * size < source.length := lt_total_iff hsize
  rw [page_eq_nil_iff hsize]
  omega

theorem pages_whole {source : List A} {size : Nat} (hsize : 0 < size) :
    (List.range (total source.length 0 size)).flatMap (page source size) = source := by
  rw [flatMap_page]
  apply List.take_of_length_le
  exact (page_eq_nil_iff hsize _).mp ((page_eq_nil_iff_total hsize _).mpr (Nat.le_refl _))

end Progression
