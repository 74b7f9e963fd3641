import Mathlib.Data.List.Basic

namespace Cut

structure Scanner (σ α : Type) where
  next : σ → α → σ
  cut : σ → α → Bool

namespace Scanner

variable {σ α : Type} (m : Scanner σ α)

def after (s : σ) (xs : List α) : σ := xs.foldl m.next s

def prepend (xs : List α) : List (List α) → List (List α)
  | [] => [xs]
  | p :: ps => (xs ++ p) :: ps

def pieces : σ → List α → List (List α)
  | _, [] => [[]]
  | s, x :: xs =>
      if m.cut s x then [] :: pieces (m.next s x) xs
      else prepend [x] (pieces (m.next s x) xs)

def whole : σ → List α → Bool
  | _, [] => true
  | s, x :: xs => !m.cut s x && whole (m.next s x) xs

@[simp] theorem after_nil (s : σ) : m.after s [] = s := rfl

@[simp] theorem after_cons (s : σ) (x : α) (xs : List α) :
    m.after s (x :: xs) = m.after (m.next s x) xs := rfl

@[simp] theorem after_append (s : σ) (xs ys : List α) :
    m.after s (xs ++ ys) = m.after (m.after s xs) ys := by
  simp [after, List.foldl_append]

@[simp] theorem prepend_nil_left {ps : List (List α)} (h : ps ≠ []) : prepend [] ps = ps := by
  cases ps with
  | nil => exact absurd rfl h
  | cons p ps => rfl

theorem prepend_prepend (xs ys : List α) (ps : List (List α)) :
    prepend xs (prepend ys ps) = prepend (xs ++ ys) ps := by
  cases ps <;> simp [prepend]

theorem prepend_append {xs : List α} {ps : List (List α)} (h : ps ≠ []) (qs : List (List α)) :
    prepend xs (ps ++ qs) = prepend xs ps ++ qs := by
  cases ps with
  | nil => exact absurd rfl h
  | cons p ps => rfl

theorem pieces_ne_nil (s : σ) (xs : List α) : m.pieces s xs ≠ [] := by
  cases xs with
  | nil => simp [pieces]
  | cons x xs =>
    simp only [pieces]
    split
    · simp
    · cases m.pieces (m.next s x) xs <;> simp [prepend]

theorem whole_append (s : σ) (xs ys : List α) :
    m.whole s (xs ++ ys) = (m.whole s xs && m.whole (m.after s xs) ys) := by
  induction xs generalizing s with
  | nil => simp [whole]
  | cons x xs ih => simp [whole, ih, Bool.and_assoc]

theorem pieces_append_of_whole {s : σ} {xs : List α} (h : m.whole s xs = true) (ys : List α) :
    m.pieces s (xs ++ ys) = prepend xs (m.pieces (m.after s xs) ys) := by
  induction xs generalizing s with
  | nil => simp [prepend_nil_left (m.pieces_ne_nil s ys)]
  | cons x xs ih =>
    simp only [whole, Bool.and_eq_true, Bool.not_eq_true'] at h
    simp [pieces, h.1, ih h.2, prepend_prepend]

theorem pieces_of_whole {s : σ} {xs : List α} (h : m.whole s xs = true) :
    m.pieces s xs = [xs] := by
  have hp := m.pieces_append_of_whole h []
  simpa [pieces, prepend] using hp

theorem pieces_append_cut {s : σ} {xs : List α} {x : α} (h : m.cut (m.after s xs) x = true)
    (ys : List α) :
    m.pieces s (xs ++ x :: ys) =
      m.pieces s xs ++ m.pieces (m.next (m.after s xs) x) ys := by
  induction xs generalizing s with
  | nil => simp [pieces] at h ⊢; simp [h]
  | cons y xs ih =>
    have hy := ih (s := m.next s y) h
    simp only [List.cons_append, pieces, hy]
    split
    · simp
    · exact prepend_append (m.pieces_ne_nil _ _) _

theorem pieces_eq_cons {s : σ} {xs p : List α} {ps : List (List α)}
    (h : m.pieces s xs = p :: ps) :
    m.whole s p = true ∧ ((ps = [] ∧ xs = p) ∨
      ∃ x ys, xs = p ++ x :: ys ∧ m.cut (m.after s p) x = true ∧
        m.pieces (m.next (m.after s p) x) ys = ps) := by
  induction xs generalizing s p with
  | nil =>
    simp only [pieces, List.cons.injEq] at h
    obtain ⟨rfl, rfl⟩ := h
    exact ⟨rfl, .inl ⟨rfl, rfl⟩⟩
  | cons x xs ih =>
    simp only [pieces] at h
    by_cases hc : m.cut s x = true
    · simp only [hc, if_true, List.cons.injEq] at h
      obtain ⟨rfl, rfl⟩ := h
      exact ⟨rfl, .inr ⟨x, xs, rfl, hc, rfl⟩⟩
    · simp only [hc] at h
      obtain ⟨q, qs, hq⟩ := List.exists_cons_of_ne_nil (m.pieces_ne_nil (m.next s x) xs)
      rw [hq] at h
      simp only [prepend, List.singleton_append] at h
      obtain ⟨rfl, rfl⟩ := h
      obtain ⟨hw, hrest⟩ := ih hq
      refine ⟨by simp [whole, hc, hw], ?_⟩
      rcases hrest with ⟨hnil, heq⟩ | ⟨y, ys, heq, hcut, htail⟩
      · exact .inl ⟨hnil, by rw [heq]⟩
      · exact .inr ⟨y, ys, by rw [heq]; rfl, hcut, htail⟩

theorem whole_of_mem_pieces {s : σ} (hnext : ∀ t x, m.cut t x = true → m.next t x = s)
    {xs p : List α} (h : p ∈ m.pieces s xs) : m.whole s p = true := by
  generalize hps : m.pieces s xs = ps at h
  induction ps generalizing xs with
  | nil => simp at h
  | cons q ps ih =>
    obtain ⟨hw, ⟨rfl, -⟩ | ⟨x, ys, -, hcut, htail⟩⟩ := m.pieces_eq_cons hps
    · rwa [List.mem_singleton.mp h]
    · rcases List.mem_cons.mp h with rfl | hmem
      · exact hw
      · exact ih (hnext _ _ hcut ▸ htail) hmem

theorem front_of_mem_pieces {s : σ} (hnext : ∀ t x, m.cut t x = true → m.next t x = s)
    {xs p : List α} (h : p ∈ m.pieces s xs) :
    ∃ front back, xs = front ++ (p ++ back) ∧ m.after s front = s := by
  generalize hps : m.pieces s xs = ps at h
  induction ps generalizing xs with
  | nil => simp at h
  | cons q ps ih =>
    obtain ⟨-, ⟨rfl, rfl⟩ | ⟨x, ys, rfl, hcut, htail⟩⟩ := m.pieces_eq_cons hps
    · rw [List.mem_singleton.mp h]
      exact ⟨[], [], by simp, rfl⟩
    · rcases List.mem_cons.mp h with rfl | hmem
      · exact ⟨[], x :: ys, rfl, rfl⟩
      · obtain ⟨front, back, rfl, hafter⟩ := ih (hnext _ _ hcut ▸ htail) hmem
        exact ⟨q ++ x :: front, back, by simp, by simp [hnext _ _ hcut, hafter]⟩

theorem cut_of_mem_pieces {s : σ} {sep : α} (hsep : ∀ t x, m.cut t x = true → x = sep)
    (hnext : ∀ t x, m.cut t x = true → m.next t x = s) {xs p : List α}
    (h : p ∈ (m.pieces s xs).dropLast) : m.cut (m.after s p) sep = true := by
  generalize hps : m.pieces s xs = ps at h
  induction ps generalizing xs with
  | nil => simp at h
  | cons q ps ih =>
    obtain ⟨-, ⟨rfl, -⟩ | ⟨x, ys, -, hcut, htail⟩⟩ := m.pieces_eq_cons hps
    · simp at h
    · have hne : ps ≠ [] := htail ▸ m.pieces_ne_nil _ _
      rw [List.dropLast_cons_of_ne_nil hne] at h
      rcases List.mem_cons.mp h with rfl | hmem
      · rwa [hsep _ _ hcut] at hcut
      · exact ih (hnext _ _ hcut ▸ htail) hmem

theorem pieces_intercalate {s : σ} {sep : α} (hnext : ∀ t x, m.cut t x = true → m.next t x = s)
    {ps : List (List α)} (hne : ps ≠ []) (hwhole : ∀ p ∈ ps, m.whole s p = true)
    (hcut : ∀ p ∈ ps.dropLast, m.cut (m.after s p) sep = true) :
    m.pieces s ([sep].intercalate ps) = ps := by
  induction ps with
  | nil => exact absurd rfl hne
  | cons p ps ih =>
    have hp := m.pieces_of_whole (hwhole p (by simp))
    by_cases hps : ps = []
    · simpa [hps] using hp
    · rw [List.dropLast_cons_of_ne_nil hps] at hcut
      have hc := hcut p (by simp)
      have hrest := ih hps (fun q hq => hwhole q (by simp [hq])) fun q hq => hcut q (by simp [hq])
      rw [List.intercalate_cons_of_ne_nil hps, List.append_assoc, List.singleton_append,
        m.pieces_append_cut hc, hnext _ _ hc, hrest, hp, List.singleton_append]

theorem pieces_map {f : α → α} {I : σ → Prop} (hkeep : ∀ s x, I s → I (m.next s x))
    (hnext : ∀ s x, I s → m.next s (f x) = m.next s x)
    (hcut : ∀ s x, I s → m.cut s (f x) = m.cut s x) {s : σ} (hs : I s) (xs : List α) :
    m.pieces s (xs.map f) = (m.pieces s xs).map (List.map f) := by
  induction xs generalizing s with
  | nil => rfl
  | cons x xs ih =>
    have hrest := ih (hkeep s x hs)
    simp only [List.map_cons, pieces, hcut s x hs, hnext s x hs, hrest]
    split
    · rfl
    · cases m.pieces (m.next s x) xs <;> rfl

section Glue

variable {sep : α} (hsep : ∀ s x, m.cut s x = true → x = sep)
include hsep

theorem intercalate_pieces (s : σ) (xs : List α) : [sep].intercalate (m.pieces s xs) = xs := by
  generalize hps : m.pieces s xs = ps
  induction ps generalizing s xs with
  | nil => exact absurd hps (m.pieces_ne_nil s xs)
  | cons p ps ih =>
    obtain ⟨-, ⟨rfl, rfl⟩ | ⟨x, ys, rfl, hcut, htail⟩⟩ := m.pieces_eq_cons hps
    · simp
    · have hx : x = sep := hsep _ _ hcut
      have hne : ps ≠ [] := htail ▸ m.pieces_ne_nil _ _
      rw [List.intercalate_cons_of_ne_nil hne, ih _ _ htail, hx]
      simp

theorem pieces_intercalate_front (s : σ) (xs : List α) (ps : List (List α)) (p : List α)
    (qs : List (List α)) (h : m.pieces s xs = ps ++ p :: qs) :
    m.pieces s ([sep].intercalate (ps ++ [p])) = ps ++ [p] := by
  induction ps generalizing s xs with
  | nil =>
    obtain ⟨hw, -⟩ := m.pieces_eq_cons h
    simpa using m.pieces_of_whole hw
  | cons q ps ih =>
    obtain ⟨hw, ⟨hnil, -⟩ | ⟨x, ys, -, hcut, htail⟩⟩ := m.pieces_eq_cons h
    · simp at hnil
    · have hx : x = sep := hsep _ _ hcut
      subst hx
      have hq := m.pieces_append_cut hcut ([x].intercalate (ps ++ [p]))
      rw [m.pieces_of_whole hw, ih _ _ htail] at hq
      rw [List.cons_append, List.intercalate_cons_of_ne_nil (by simp)]
      simpa using hq

end Glue

end Scanner

end Cut
