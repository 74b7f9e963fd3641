import Mathlib.Data.List.Basic

namespace Framing

variable {A C : Type} (isEnd : A → Bool)

-- The frames a stream holds in full, without their ends, and what follows the last end.
def frames : List A → List (List A) × List A
  | [] => ([], [])
  | a :: stream =>
      let (done, rest) := frames stream
      if isEnd a then ([] :: done, rest)
      else
        match done with
        | [] => ([], a :: rest)
        | frame :: done => ((a :: frame) :: done, rest)

def cutFrame (buffer : List A) : List A × List A :=
  (buffer.take (buffer.findIdx isEnd + 1), buffer.drop (buffer.findIdx isEnd + 1))

-- A reader takes chunks in until its buffer holds an end, and no more.
def gather (content : C → List A) : List A → List C → Option (List C × List C)
  | buffer, [] => if buffer.any isEnd then some ([], []) else none
  | buffer, chunk :: chunks =>
      if buffer.any isEnd then some ([], chunk :: chunks)
      else (gather content (buffer ++ content chunk) chunks).map fun (taken, rest) =>
        (chunk :: taken, rest)

def readFrames (content : C → List A) :
    Nat → List A → List C → Option (List (List A) × List A × List C)
  | 0, buffer, chunks => some ([], buffer, chunks)
  | n + 1, buffer, chunks =>
      match gather isEnd content buffer chunks with
      | none => none
      | some (taken, rest) =>
          let (frame, buffer) := cutFrame isEnd (buffer ++ taken.flatMap content)
          (readFrames content n buffer rest).map fun (frames, buffer, chunks) =>
            (frame :: frames, buffer, chunks)

section Frames

variable {isEnd} {frame : List A} {e : A}

attribute [local simp] frames

theorem frames_cons_end (he : isEnd e = true) (stream : List A) :
    frames isEnd (e :: stream) = ([] :: (frames isEnd stream).1, (frames isEnd stream).2) := by
  simp [he]

theorem frames_frame (hframe : ∀ a ∈ frame, isEnd a = false) (he : isEnd e = true)
    (stream : List A) : frames isEnd (frame ++ e :: stream) =
      (frame :: (frames isEnd stream).1, (frames isEnd stream).2) := by
  induction frame with
  | nil => exact frames_cons_end he stream
  | cons a frame ih =>
    have hrest := ih fun b hb => hframe b (List.mem_cons_of_mem a hb)
    simp [hrest, hframe a List.mem_cons_self]

theorem frames_unfinished (hframe : ∀ a ∈ frame, isEnd a = false) :
    frames isEnd frame = ([], frame) := by
  induction frame with
  | nil => rfl
  | cons a frame ih =>
    have hrest := ih fun b hb => hframe b (List.mem_cons_of_mem a hb)
    simp [hrest, hframe a List.mem_cons_self]

theorem first_frame {first second stream later : List A} (hfirst : ∀ a ∈ first, isEnd a = false)
    (hsecond : ∀ a ∈ second, isEnd a = false) (he : isEnd e = true)
    (h : first ++ e :: stream = second ++ e :: later) : first = second ∧ stream = later := by
  have hframes := congrArg (fun stream => (frames isEnd stream).1.head?) h
  simp only [frames_frame hfirst he, frames_frame hsecond he, List.head?_cons,
    Option.some.injEq] at hframes
  subst hframes
  exact ⟨rfl, (List.cons.inj (List.append_cancel_left h)).2⟩

theorem exists_frame {stream : List A} (h : stream.any isEnd = true) :
    ∃ frame e rest, stream = frame ++ e :: rest ∧ (∀ a ∈ frame, isEnd a = false) ∧
      isEnd e = true := by
  induction stream with
  | nil => cases h
  | cons a stream ih =>
    by_cases ha : isEnd a = true
    · exact ⟨[], a, stream, rfl, by simp, ha⟩
    · obtain ⟨frame, e, rest, rfl, hframe, he⟩ := ih (by simpa [ha] using h)
      refine ⟨a :: frame, e, rest, rfl, fun b hb => ?_, he⟩
      rcases List.mem_cons.mp hb with rfl | hmem
      · simpa using ha
      · exact hframe b hmem

theorem frames_append (first second : List A) :
    frames isEnd (first ++ second) =
      ((frames isEnd first).1 ++ (frames isEnd ((frames isEnd first).2 ++ second)).1,
        (frames isEnd ((frames isEnd first).2 ++ second)).2) := by
  induction first with
  | nil => rfl
  | cons a first ih =>
    rw [List.cons_append]
    by_cases ha : isEnd a = true
    · simp [ha, ih]
    · cases hdone : (frames isEnd first).1 with
      | nil => simp [ha, ih, hdone]
      | cons frame done => simp [ha, ih, hdone]

theorem frames_map {B : Type} (f : B → A) (stream : List B) :
    frames isEnd (stream.map f) =
      ((frames (isEnd ∘ f) stream).1.map (List.map f), (frames (isEnd ∘ f) stream).2.map f) := by
  induction stream with
  | nil => rfl
  | cons b stream ih =>
    rw [List.map_cons]
    by_cases hb : isEnd (f b) = true
    · simp [ih, hb]
    · cases hdone : (frames (isEnd ∘ f) stream).1 with
      | nil => simp [ih, hb, hdone]
      | cons frame done => simp [ih, hb, hdone]

theorem cutFrame_frame (hframe : ∀ a ∈ frame, isEnd a = false) (he : isEnd e = true)
    (rest : List A) : cutFrame isEnd (frame ++ e :: rest) = (frame ++ [e], rest) := by
  have hfind : (frame ++ e :: rest).findIdx isEnd = frame.length := by
    induction frame with
    | nil => simp [List.findIdx_cons, he]
    | cons a frame ih =>
      have hrest := ih fun b hb => hframe b (List.mem_cons_of_mem a hb)
      simp [List.findIdx_cons, hframe a List.mem_cons_self, hrest]
  have hsplit : frame ++ e :: rest = (frame ++ [e]) ++ rest := by simp
  have hlength : frame.length + 1 = (frame ++ [e]).length := by simp
  rw [cutFrame, hfind, hsplit, hlength, List.take_left' rfl, List.drop_left' rfl]

end Frames

section Reader

variable {isEnd} {content : C → List A} {buffer : List A} {chunks : List C}

attribute [local simp] gather readFrames

theorem gather_eq_none :
    gather isEnd content buffer chunks = none ↔
      (buffer ++ chunks.flatMap content).any isEnd = false := by
  induction chunks generalizing buffer with
  | nil => by_cases h : buffer.any isEnd = true <;> simp_all [gather]
  | cons chunk chunks ih =>
    by_cases h : buffer.any isEnd = true
    · simp [gather, h]
    · rw [gather, if_neg h, Option.map_eq_none_iff, ih]
      simp

theorem gather_append {taken rest : List C}
    (h : gather isEnd content buffer chunks = some (taken, rest)) : taken ++ rest = chunks := by
  induction chunks generalizing buffer taken with
  | nil =>
    rw [gather] at h
    split at h
    · cases h
      rfl
    · cases h
  | cons chunk chunks ih =>
    rw [gather] at h
    split at h
    · cases h
      rfl
    · obtain ⟨⟨more, rest'⟩, hmore, hpair⟩ := Option.map_eq_some_iff.mp h
      cases hpair
      rw [List.cons_append, ih hmore]

theorem gather_any {taken rest : List C}
    (h : gather isEnd content buffer chunks = some (taken, rest)) :
    (buffer ++ taken.flatMap content).any isEnd = true := by
  induction chunks generalizing buffer taken with
  | nil =>
    rw [gather] at h
    split at h
    · next hany =>
      cases h
      simpa using hany
    · cases h
  | cons chunk chunks ih =>
    rw [gather] at h
    split at h
    · next hany =>
      cases h
      simpa using hany
    · obtain ⟨⟨more, rest'⟩, hmore, hpair⟩ := Option.map_eq_some_iff.mp h
      cases hpair
      simpa using ih hmore

theorem gather_minimal {taken rest : List C}
    (h : gather isEnd content buffer chunks = some (taken, rest)) :
    taken = [] ∨ (buffer ++ taken.dropLast.flatMap content).any isEnd = false := by
  induction chunks generalizing buffer taken with
  | nil =>
    rw [gather] at h
    split at h
    · cases h
      exact .inl rfl
    · cases h
  | cons chunk chunks ih =>
    rw [gather] at h
    split at h
    · cases h
      exact .inl rfl
    · next hany =>
      obtain ⟨⟨more, rest'⟩, hmore, hpair⟩ := Option.map_eq_some_iff.mp h
      cases hpair
      right
      cases more with
      | nil => simpa using hany
      | cons next more =>
        rw [List.dropLast_cons_of_ne_nil (by simp)]
        simpa using (ih hmore).resolve_left (by simp)

theorem gather_frame {taken rest : List C}
    (h : gather isEnd content buffer chunks = some (taken, rest)) :
    ∃ frame e more, cutFrame isEnd (buffer ++ taken.flatMap content) = (frame ++ [e], more) ∧
      (∀ a ∈ frame, isEnd a = false) ∧ isEnd e = true ∧
      buffer ++ chunks.flatMap content = frame ++ e :: (more ++ rest.flatMap content) := by
  obtain ⟨frame, e, more, hstream, hframe, he⟩ := exists_frame (gather_any h)
  refine ⟨frame, e, more, by rw [hstream, cutFrame_frame hframe he], hframe, he, ?_⟩
  rw [← gather_append h, List.flatMap_append, ← List.append_assoc, hstream]
  simp

theorem readFrames_eq_none {n : Nat} :
    readFrames isEnd content n buffer chunks = none ↔
      (frames isEnd (buffer ++ chunks.flatMap content)).1.length < n := by
  induction n generalizing buffer chunks with
  | zero => simp [readFrames]
  | succ n ih =>
    rw [readFrames]
    split
    · next hnone =>
      have hplain : ∀ a ∈ buffer ++ chunks.flatMap content, isEnd a = false := by
        simpa only [List.any_eq_false, Bool.not_eq_true] using gather_eq_none.mp hnone
      simp [frames_unfinished hplain]
    · next taken rest hsome =>
      obtain ⟨frame, e, more, hcut, hframe, he, hstream⟩ := gather_frame hsome
      simp [hcut, hstream, frames_frame hframe he, ih]

theorem readFrames_eq_some {n : Nat} {read : List (List A)} {after : List A} {rest : List C}
    (h : readFrames isEnd content n buffer chunks = some (read, after, rest)) :
    read.map List.dropLast = (frames isEnd (buffer ++ chunks.flatMap content)).1.take n ∧
      (∀ frame ∈ read, ∃ front e, frame = front ++ [e] ∧ isEnd e = true) ∧
      read.flatten ++ (after ++ rest.flatMap content) = buffer ++ chunks.flatMap content := by
  induction n generalizing buffer chunks read with
  | zero =>
    cases h
    simp
  | succ n ih =>
    rw [readFrames] at h
    split at h
    · cases h
    · next taken waiting hsome =>
      obtain ⟨frame, e, more, hcut, hframe, he, hstream⟩ := gather_frame hsome
      rw [hcut] at h
      obtain ⟨⟨others, after', rest'⟩, hothers, hpair⟩ := Option.map_eq_some_iff.mp h
      cases hpair
      obtain ⟨hlines, hends, hwhole⟩ := ih hothers
      refine ⟨?_, ?_, ?_⟩
      · simp [hstream, frames_frame hframe he, hlines]
      · intro other hother
        rcases List.mem_cons.mp hother with rfl | hmem
        · exact ⟨frame, e, rfl, he⟩
        · exact hends other hmem
      · simp [hstream, hwhole]

end Reader

end Framing
