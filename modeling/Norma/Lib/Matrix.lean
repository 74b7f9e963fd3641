import Norma.Lib.Progression

namespace Progression

variable {A : Type} {m n k c o s : Nat}

def flattened (m n : Nat) (entry : Nat → Nat → A) : List A :=
  (List.range m).flatMap fun row => (List.range n).map (entry row)

theorem flattened_succ (m n : Nat) (entry : Nat → Nat → A) :
    flattened (m + 1) n entry = flattened m n entry ++ (List.range n).map (entry m) := by
  rw [flattened, List.range_succ, List.flatMap_append, List.flatMap_singleton]
  rfl

theorem flattened_congr {entry entry' : Nat → Nat → A}
    (h : ∀ row < m, ∀ column, entry row column = entry' row column) :
    flattened m n entry = flattened m n entry' := by
  induction m with
  | zero => rfl
  | succ m ih =>
    rw [flattened_succ, flattened_succ, ih fun row hrow => h row (Nat.lt_succ_of_lt hrow)]
    rw [List.map_congr_left fun column _ => h m (Nat.lt_succ_self m) column]

theorem flattened_eq (m n : Nat) (entry : Nat → Nat → A) :
    flattened m n entry = (List.range (m * n)).map fun i => entry (i / n) (i % n) := by
  induction m with
  | zero => simp [flattened]
  | succ m ih =>
    rw [flattened_succ, ih, Nat.succ_mul, List.range_add, List.map_append, List.map_map]
    congr 1
    refine List.map_congr_left fun column hcolumn => ?_
    have hlt := List.mem_range.mp hcolumn
    have hpos : 0 < n := Nat.zero_lt_of_lt hlt
    change entry m column = entry ((m * n + column) / n) ((m * n + column) % n)
    rw [Nat.mul_comm, Nat.mul_add_div hpos, Nat.div_eq_of_lt hlt, Nat.add_zero, Nat.mul_add_mod,
      Nat.mod_eq_of_lt hlt]

theorem map_range_eq_iff {f g : Nat → A} {j k : Nat} :
    (List.range j).map f = (List.range k).map g ↔ j = k ∧ ∀ i < j, f i = g i := by
  constructor
  · intro h
    have hlength : j = k := by simpa using congrArg List.length h
    refine ⟨hlength, fun i hi => ?_⟩
    have hget := congrArg (·[i]?) h
    simpa [hi, hlength ▸ hi] using hget
  · rintro ⟨rfl, h⟩
    exact List.map_congr_left fun i hi => h i (List.mem_range.mp hi)

theorem terms_rows_iff {j : Nat} :
    terms o s j = flattened m k (fun row i => row * n + (o + i * s)) ↔
      j = m * k ∧ (m ≤ 1 ∨ k = 0 ∨ k * s = n) := by
  rw [flattened_eq, terms, map_range_eq_iff]
  apply and_congr_right
  rintro rfl
  constructor
  · intro h
    by_contra hnone
    simp only [not_or] at hnone
    obtain ⟨hm, hk, hne⟩ := hnone
    have hpos : 0 < k := Nat.pos_of_ne_zero hk
    have hlt : k < m * k := (Nat.lt_mul_iff_one_lt_left hpos).mpr (Nat.not_le.mp hm)
    have hrow := h k hlt
    rw [Nat.div_self hpos, Nat.mod_self] at hrow
    omega
  · rintro (hm | hk | hn) i hi
    · have hle := Nat.mul_le_mul_right k hm
      have hlt : i < k := by omega
      rw [Nat.div_eq_of_lt hlt, Nat.mod_eq_of_lt hlt]
      omega
    · rw [hk, Nat.mul_zero] at hi
      omega
    · have hsplit := Nat.div_add_mod i k
      have hproduct : i * s = i / k * n + i % k * s := by
        rw [← hn]
        nth_rewrite 1 [← hsplit]
        ring
      omega

theorem terms_columns_iff {j : Nat} (hs : 0 < s) :
    terms o s j = flattened k m (fun i row => row * n + (o + i * s)) ↔
      j = m * k ∧ (m ≤ 1 ∨ k = 0 ∨ (k = 1 ∧ s = n)) := by
  rw [flattened_eq, terms, map_range_eq_iff, Nat.mul_comm k m]
  apply and_congr_right
  rintro rfl
  constructor
  · intro h
    by_contra hnone
    simp only [not_or] at hnone
    obtain ⟨hm, hk, hne⟩ := hnone
    have hpos : 0 < k := Nat.pos_of_ne_zero hk
    have hm' : 1 < m := Nat.not_le.mp hm
    have hmk : m ≤ m * k := Nat.le_mul_of_pos_right m hpos
    have hsecond := h 1 (by omega)
    rw [Nat.div_eq_of_lt hm', Nat.mod_eq_of_lt hm'] at hsecond
    have hsn : s = n := by omega
    have hk' : 1 < k := by omega
    have hnext := h m ((Nat.lt_mul_iff_one_lt_right (by omega)).mpr hk')
    rw [Nat.div_self (by omega), Nat.mod_self] at hnext
    have hms : s < m * s := (Nat.lt_mul_iff_one_lt_left hs).mpr hm'
    omega
  · rintro (hm | hk | ⟨rfl, rfl⟩) i hi
    · have hm' : m = 0 ∨ m = 1 := by omega
      rcases hm' with rfl | rfl
      · omega
      · rw [Nat.div_one, Nat.mod_one]
        omega
    · rw [hk, Nat.mul_zero] at hi
      omega
    · rw [Nat.mul_one] at hi
      rw [Nat.div_eq_of_lt hi, Nat.mod_eq_of_lt hi]
      omega

theorem taken_eq_zero_iff (hs : 0 < s) : taken n c o s = 0 ↔ n ≤ o := by
  have htotal : total n o s = 0 ↔ n ≤ o := by
    have hlt : 0 < total n o s ↔ o + 0 * s < n := lt_total_iff hs
    omega
  rw [taken]
  split
  · exact htotal
  · omega

theorem total_multiple (hs : 0 < s) (ho : o < s) (t : Nat) : total (t * s) o s = t := by
  apply Nat.le_antisymm
  · by_contra hmore
    have hlast := (lt_total_iff hs).mp (Nat.not_le.mp hmore)
    omega
  · by_contra hless
    have hnone : ¬total (t * s) o s < total (t * s) o s := Nat.lt_irrefl _
    rw [lt_total_iff hs] at hnone
    have hmul : (total (t * s) o s + 1) * s ≤ t * s := Nat.mul_le_mul_right _ (by omega)
    rw [Nat.succ_mul] at hmul
    omega

end Progression
