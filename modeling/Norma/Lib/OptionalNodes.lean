import Mathlib.Data.List.Basic

namespace OptionalNodes

variable {N T S : Type}

-- The ways of reading tokens against a pattern, with what the nodes that are present give.
inductive Derives (omissible : N → Prop) (accepts : N → T → Prop) (gives : N → T → List S) :
    List N → List T → List S → Prop where
  | done : Derives omissible accepts gives [] [] []
  | present {node token pattern tokens out} (haccepts : accepts node token)
      (hrest : Derives omissible accepts gives pattern tokens out) :
      Derives omissible accepts gives (node :: pattern) (token :: tokens) (gives node token ++ out)
  | absent {node pattern tokens out} (homissible : omissible node)
      (hrest : Derives omissible accepts gives pattern tokens out) :
      Derives omissible accepts gives (node :: pattern) tokens out

inductive Accepts (omissible : N → Prop) (accepts : N → T → Prop) : List N → List T → Prop where
  | done : Accepts omissible accepts [] []
  | present {node token pattern tokens} (haccepts : accepts node token)
      (hrest : Accepts omissible accepts pattern tokens) :
      Accepts omissible accepts (node :: pattern) (token :: tokens)
  | absent {node pattern tokens} (homissible : omissible node)
      (hrest : Accepts omissible accepts pattern tokens) :
      Accepts omissible accepts (node :: pattern) tokens

section Reading

variable {omissible : N → Prop} {accepts accepts' : N → T → Prop} {gives : N → T → List S}
  {pattern : List N} {tokens : List T} {out : List S}

theorem accepts_iff :
    Accepts omissible accepts pattern tokens ↔
      ∃ out, Derives omissible accepts gives pattern tokens out := by
  constructor
  · intro h
    induction h with
    | done => exact ⟨_, .done⟩
    | present haccepts hrest ih =>
      obtain ⟨out, hout⟩ := ih
      exact ⟨_, .present haccepts hout⟩
    | absent homissible hrest ih =>
      obtain ⟨out, hout⟩ := ih
      exact ⟨_, .absent homissible hout⟩
  · rintro ⟨out, h⟩
    induction h with
    | done => exact .done
    | present haccepts hrest ih => exact .present haccepts ih
    | absent homissible hrest ih => exact .absent homissible ih

theorem Derives.exists_token (h : Derives omissible accepts gives pattern tokens out) {node : N}
    (hnode : node ∈ pattern) (hkept : ¬omissible node) : ∃ token ∈ tokens, accepts node token := by
  induction h with
  | done => cases hnode
  | @present first token pattern tokens out haccepts hrest ih =>
    rcases List.mem_cons.mp hnode with rfl | hmem
    · exact ⟨token, List.mem_cons_self, haccepts⟩
    · obtain ⟨other, hother, htaken⟩ := ih hmem
      exact ⟨other, List.mem_cons_of_mem _ hother, htaken⟩
  | absent homissible hrest ih =>
    rcases List.mem_cons.mp hnode with rfl | hmem
    · exact absurd homissible hkept
    · exact ih hmem

theorem omissible_of_derives_nil (h : Derives omissible accepts gives pattern [] out) :
    ∀ node ∈ pattern, omissible node := by
  generalize htokens : ([] : List T) = tokens at h
  induction h with
  | done => simp
  | present => cases htokens
  | absent homissible hrest ih =>
    intro node hnode
    rcases List.mem_cons.mp hnode with rfl | hmem
    · exact homissible
    · exact ih htokens node hmem

theorem Accepts.mono (h : Accepts omissible accepts pattern tokens)
    (haccepts : ∀ node ∈ pattern, ∀ token ∈ tokens, accepts node token → accepts' node token) :
    Accepts omissible accepts' pattern tokens := by
  induction h with
  | done => exact .done
  | present haccept hrest ih =>
    refine .present (haccepts _ (by simp) _ (by simp) haccept) (ih ?_)
    intro node hnode token htoken
    exact haccepts node (by simp [hnode]) token (by simp [htoken])
  | absent homissible hrest ih =>
    refine .absent homissible (ih ?_)
    intro node hnode token htoken
    exact haccepts node (by simp [hnode]) token htoken

end Reading

section Map

variable {N' T' : Type} {omissible : N → Prop} {accepts : N → T → Prop}
  {omissible' : N' → Prop} {accepts' : N' → T' → Prop}
  {f : N → N'} {g : T → T'} {pattern : List N} {tokens : List T}

theorem accepts_map_iff (homissible : ∀ node, omissible' (f node) ↔ omissible node)
    (haccepts : ∀ node ∈ pattern, ∀ token ∈ tokens,
      (accepts' (f node) (g token) ↔ accepts node token)) :
    Accepts omissible' accepts' (pattern.map f) (tokens.map g) ↔
      Accepts omissible accepts pattern tokens := by
  constructor
  · intro h
    induction pattern generalizing tokens with
    | nil =>
      cases tokens with
      | nil => exact .done
      | cons token tokens => cases h
    | cons node pattern ih =>
      have htail (tokens' : List T) (hsub : tokens' ⊆ tokens) :
          Accepts omissible' accepts' (pattern.map f) (tokens'.map g) →
            Accepts omissible accepts pattern tokens' :=
        ih fun node hnode token htoken => haccepts node (by simp [hnode]) token (hsub htoken)
      rw [List.map_cons] at h
      generalize hmapped : tokens.map g = mapped at h
      cases h with
      | present haccept hrest =>
        obtain ⟨token, tokens', rfl, rfl, rfl⟩ := List.map_eq_cons_iff.mp hmapped
        exact .present ((haccepts _ (by simp) _ (by simp)).mp haccept) (htail _ (by simp) hrest)
      | absent homit hrest =>
        subst hmapped
        exact .absent ((homissible node).mp homit) (htail _ (by simp) hrest)
  · intro h
    induction h with
    | done => exact .done
    | present haccept hrest ih =>
      refine .present ((haccepts _ (by simp) _ (by simp)).mpr haccept) (ih ?_)
      intro node hnode token htoken
      exact haccepts node (by simp [hnode]) token (by simp [htoken])
    | absent homit hrest ih =>
      refine .absent ((homissible _).mpr homit) (ih ?_)
      intro node hnode token htoken
      exact haccepts node (by simp [hnode]) token htoken

end Map

section Apart

variable (omissible : N → Bool) (clash : N → N → Bool)

-- Nothing that starts with a token of `node` and goes on as `below` allows is read by a pattern.
def takenApart (node : N) (below : List N → Bool) : List N → Bool
  | [] => true
  | other :: pattern =>
      (!omissible other || takenApart node below pattern) && (!clash node other || below pattern)

def apart : List N → List N → Bool
  | [] => fun pattern => pattern.any fun node => !omissible node
  | node :: rest => fun pattern =>
      (!omissible node || apart rest pattern) &&
        takenApart omissible clash node (apart rest) pattern

def unambiguous : List N → Bool
  | [] => true
  | node :: rest =>
      unambiguous rest &&
        (!omissible node || takenApart omissible clash node (apart omissible clash rest) rest)

variable {omissible clash} {accepts : N → T → Prop} {gives : N → T → List S}

theorem takenApart_sound (hclash : ∀ node other token, accepts node token → accepts other token →
      clash node other = true) {node : N} {token : T} {tokens : List T} {below : List N → Bool}
    (hbelow : ∀ pattern out, below pattern = true →
      ¬ Derives (omissible · = true) accepts gives pattern tokens out)
    (haccepts : accepts node token) {pattern : List N} {out : List S}
    (h : takenApart omissible clash node below pattern = true) :
    ¬ Derives (omissible · = true) accepts gives pattern (token :: tokens) out := by
  induction pattern generalizing out with
  | nil => rintro ⟨⟩
  | cons other pattern ih =>
    simp only [takenApart, Bool.and_eq_true, Bool.or_eq_true, Bool.not_eq_true'] at h
    obtain ⟨hskip, htake⟩ := h
    intro hderives
    cases hderives with
    | present hother hrest =>
      have hboth := hclash node other token haccepts hother
      exact hbelow pattern _ (htake.resolve_left (by simp [hboth])) hrest
    | absent homissible hrest => exact ih (hskip.resolve_left (by simp [homissible])) hrest

theorem apart_sound (hclash : ∀ node other token, accepts node token → accepts other token →
      clash node other = true) {first second : List N} {tokens : List T} {out out' : List S}
    (h : apart omissible clash first second = true)
    (hfirst : Derives (omissible · = true) accepts gives first tokens out) :
    ¬ Derives (omissible · = true) accepts gives second tokens out' := by
  induction hfirst generalizing second out' with
  | done =>
    intro hsecond
    obtain ⟨node, hnode, hmust⟩ := List.any_eq_true.mp h
    simp [omissible_of_derives_nil hsecond node hnode] at hmust
  | present haccepts hrest ih =>
    simp only [apart, Bool.and_eq_true] at h
    exact takenApart_sound hclash (fun pattern out hbelow => ih hbelow) haccepts h.2
  | absent homissible hrest ih =>
    simp only [apart, Bool.and_eq_true, Bool.or_eq_true, Bool.not_eq_true'] at h
    exact ih (h.1.resolve_left (by simp [homissible]))

theorem unambiguous_sound (hclash : ∀ node other token, accepts node token → accepts other token →
      clash node other = true) {pattern : List N} {tokens : List T} {out out' : List S}
    (h : unambiguous omissible clash pattern = true)
    (hfirst : Derives (omissible · = true) accepts gives pattern tokens out)
    (hsecond : Derives (omissible · = true) accepts gives pattern tokens out') : out = out' := by
  induction hfirst generalizing out' with
  | done =>
    cases hsecond
    rfl
  | present haccepts hrest ih =>
    simp only [unambiguous, Bool.and_eq_true, Bool.or_eq_true, Bool.not_eq_true'] at h
    cases hsecond with
    | present _ hrest' => rw [ih h.1 hrest']
    | absent homissible hrest' =>
      have hapart := h.2.resolve_left (by simp [homissible])
      exact absurd hrest' (takenApart_sound hclash
        (fun pattern out hbelow => apart_sound hclash hbelow hrest) haccepts hapart)
  | absent homissible hrest ih =>
    simp only [unambiguous, Bool.and_eq_true, Bool.or_eq_true, Bool.not_eq_true'] at h
    cases hsecond with
    | present haccepts hrest' =>
      have hapart := h.2.resolve_left (by simp [homissible])
      exact absurd hrest (takenApart_sound hclash
        (fun pattern out hbelow => apart_sound hclash hbelow hrest') haccepts hapart)
    | absent _ hrest' => exact ih h.1 hrest'

end Apart

end OptionalNodes
