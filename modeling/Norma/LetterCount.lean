import Norma.Grammar
import Norma.StateChange
import Mathlib.Algebra.Order.BigOperators.Group.List
import Mathlib.Algebra.Order.Group.Nat

namespace Norma

def letterCount (letter : Char) (text : Text) : Nat := (upper text).count letter

def letterTotal (letter : Char) (texts : List Text) : Nat := (texts.map (letterCount letter)).sum

def tokenTotal (letter : Char) (tokens : List Token) : Nat :=
  letterTotal letter (tokens.map Token.text)

section Texts

variable {letter : Char} {s t : Text}

theorem letterCount_append (letter : Char) (s t : Text) :
    letterCount letter (s ++ t) = letterCount letter s + letterCount letter t := by
  rw [letterCount, upper, List.map_append, List.count_append]
  rfl

theorem letterCount_sublist (letter : Char) (h : s.Sublist t) :
    letterCount letter s ≤ letterCount letter t :=
  (h.map Char.toUpper).count_le letter

theorem letterCount_upper (letter : Char) (s : Text) :
    letterCount letter (upper s) = letterCount letter s := by
  rw [letterCount, upper_upper]
  rfl

theorem letterCount_trim (letter : Char) (s : Text) :
    letterCount letter (trim s) ≤ letterCount letter s :=
  letterCount_sublist letter (trim_sublist s)

theorem letterCount_unquote (letter : Char) (s : Text) :
    letterCount letter (unquote s) ≤ letterCount letter s := by
  refine le_trans ?_ (letterCount_trim letter s)
  unfold unquote
  dsimp only
  split
  · exact letterCount_sublist letter ((List.dropLast_sublist _).trans (List.tail_sublist _))
  · exact Nat.le_refl _

theorem letterCount_other (hletter : isLetter letter = true) {c : Char}
    (hc : isLetter c = false) (s : Text) :
    letterCount letter (c :: s) = letterCount letter s := by
  have hne : (c.toUpper == letter) = false := by
    have hupper : c.toUpper = c := by
      rw [← beq_iff_eq, toUpper_beq hc, beq_self_eq_true]
    rw [hupper, beq_eq_false_iff_ne]
    exact fun heq => Bool.false_ne_true (hc.symm.trans (heq ▸ hletter))
  rw [letterCount, upper, List.map_cons, List.count_cons, hne]
  rfl

theorem letterCount_quote (hletter : isLetter letter = true) (s : Text) :
    letterCount letter (quote s) = letterCount letter s := by
  rw [quote, letterCount_other hletter (by decide), letterCount_append,
    letterCount_other hletter (by decide)]
  rfl

@[simp] theorem letterTotal_nil (letter : Char) : letterTotal letter [] = 0 := rfl

@[simp] theorem letterTotal_cons (letter : Char) (text : Text) (texts : List Text) :
    letterTotal letter (text :: texts) = letterCount letter text + letterTotal letter texts := by
  rw [letterTotal, List.map_cons, List.sum_cons]
  rfl

@[simp] theorem letterTotal_append (letter : Char) (first second : List Text) :
    letterTotal letter (first ++ second) =
      letterTotal letter first + letterTotal letter second := by
  rw [letterTotal, List.map_append, List.sum_append]
  rfl

theorem letterTotal_sublist (letter : Char) {texts all : List Text} (h : texts.Sublist all) :
    letterTotal letter texts ≤ letterTotal letter all :=
  (h.map (letterCount letter)).sum_le_sum fun _ _ => Nat.zero_le _

theorem letterTotal_map (letter : Char) {f : Text → Text}
    (h : ∀ text, letterCount letter (f text) ≤ letterCount letter text) (texts : List Text) :
    letterTotal letter (texts.map f) ≤ letterTotal letter texts := by
  rw [letterTotal, List.map_map]
  exact List.sum_le_sum fun text _ => h text

theorem letterCount_join (hletter : isLetter letter = true) {separator : Char}
    (hsep : isLetter separator = false) (texts : List Text) :
    letterCount letter (join separator texts) = letterTotal letter texts := by
  cases texts with
  | nil => rfl
  | cons first rest =>
    rw [join_cons, letterCount_append, letterTotal_cons]
    congr 1
    induction rest with
    | nil => rfl
    | cons text rest ih =>
      rw [List.map_cons, List.flatten_cons, letterCount_append, letterCount_other hletter hsep, ih,
        letterTotal_cons]

theorem letterTotal_split (hletter : isLetter letter = true) {separator : Char}
    (hsep : isLetter separator = false) (text : Text) :
    letterTotal letter (splitUnquoted text separator) = letterCount letter text := by
  rw [← letterCount_join hletter hsep, join_splitUnquoted]

theorem letterCount_quoteJoin (hletter : isLetter letter = true) (names : List Text) :
    letterCount letter (quoteJoin names) = letterTotal letter names := by
  rw [quoteJoin, letterCount_join hletter (by decide), letterTotal, List.map_map]
  exact congrArg List.sum (List.map_congr_left fun name _ => letterCount_quote hletter name)

theorem letterTotal_readFunctions (letter : Char) {args names : List Text}
    (h : readFunctions args = .ok names) : letterTotal letter names ≤ letterTotal letter args := by
  induction args generalizing names with
  | nil =>
    cases h
    exact Nat.le_refl _
  | cons argument args ih =>
    obtain ⟨-, rest, hrest, rfl⟩ := readFunctions_cons h
    rw [letterTotal_cons, letterTotal_cons, letterCount_upper]
    have hname := letterCount_unquote letter (trim argument)
    have htrim := letterCount_trim letter argument
    have hmore := ih hrest
    omega

end Texts

section Commands

variable {letter : Char} {path : List Token} {text : Text}

theorem splitHeader_sublist (quote : Option Char) (text : Text) :
    ((splitHeader quote text).1 ++ (splitHeader quote text).2).Sublist text := by
  induction text generalizing quote with
  | nil => cases quote <;> exact List.Sublist.refl []
  | cons c text ih =>
    cases quote with
    | some q => exact (ih _).cons_cons c
    | none =>
      simp only [splitHeader]
      split
      · exact (ih _).cons_cons c
      · split
        · exact List.sublist_cons_self c text
        · exact (ih _).cons_cons c

theorem letterCount_parseCommand (hletter : isLetter letter = true) (text : Text) :
    letterCount letter (parseCommand text).header + letterTotal letter (parseCommand text).args ≤
      letterCount letter text := by
  have hsplit := letterCount_sublist letter (splitHeader_sublist none text)
  rw [letterCount_append] at hsplit
  have hheader := letterCount_sublist letter (header_raw text).sublist
  have hargs : letterTotal letter (parseCommand text).args ≤
      letterCount letter (splitHeader none text).2 := by
    refine le_trans ?_ (letterCount_trim letter _)
    simp only [parseCommand]
    split
    · exact Nat.zero_le _
    · refine le_trans (letterTotal_map letter (letterCount_trim letter) _) (le_of_eq ?_)
      exact letterTotal_split hletter (by decide) _
  omega

theorem letterCount_makeToken (letter : Char) (node : Text) :
    letterCount letter (makeToken node).text ≤ letterCount letter node := by
  have hnode := letterCount_trim letter node
  rw [← letterCount_upper letter (trim node)] at hnode
  refine le_trans (letterCount_sublist letter ?_) hnode
  unfold makeToken
  dsimp only
  split
  · exact (List.rdropWhile_prefix _ _).sublist
  · exact List.Sublist.refl _

theorem tokenTotal_headerTokens (hletter : isLetter letter = true) (path : List Token)
    (header : Text) : tokenTotal letter (headerTokens path header) ≤
      tokenTotal letter path + letterCount letter header := by
  have hnodes (text : Text) : tokenTotal letter ((splitUnquoted text ':').map makeToken) ≤
      letterCount letter text := by
    rw [tokenTotal, List.map_map]
    refine le_trans (letterTotal_map letter (letterCount_makeToken letter) _) (le_of_eq ?_)
    exact letterTotal_split hletter (by decide) text
  unfold headerTokens
  split
  · next rest =>
    rw [letterCount_other hletter (by decide)]
    exact le_trans (hnodes rest) (Nat.le_add_left _ _)
  · rw [tokenTotal, List.map_append, letterTotal_append]
    exact Nat.add_le_add_left (hnodes header) _

theorem tokenTotal_path (hletter : isLetter letter = true) {sim : NormaSimulator} {out : Outcome}
    (h : handleCommand sim path text = some out) :
    tokenTotal letter out.path ≤ tokenTotal letter path + letterCount letter text := by
  unfold handleCommand at h
  dsimp only at h
  split at h
  · next hstar =>
    have hout : handleCommand sim path text = some out := by
      rw [handleCommand, if_pos hstar]
      exact h
    rw [star_path (head_of_header hstar) hout]
    exact Nat.le_add_right _ _
  · rw [handleTree_path h]
    have htokens := tokenTotal_headerTokens hletter path (parseCommand text).header
    have hheader := letterCount_sublist letter (header_front text).sublist
    have hdropped := letterTotal_sublist letter
      ((List.dropLast_sublist (headerTokens path (parseCommand text).header)).map Token.text)
    exact le_trans hdropped (le_trans htokens (Nat.add_le_add_left hheader _))

-- A letter that no spelling of the header of a function list or a data query can do without.
def listHeads : List (Key × Char) := [(.func, 'F'), (.data, 'T'), (.dataStat, 'T')]

theorem listHeads_rows : ∀ head ∈ listHeads, isLetter head.2 = true ∧
    ∀ row ∈ compiledSpecs, row.1.text = head.1.text → ∃ node ∈ row.2,
      ¬node.isOptional = true ∧ ∀ form ∈ node.forms, 0 < letterCount head.2 form := by
  decide +kernel

theorem tokenTotal_pos {key : Key} (hhead : (key, letter) ∈ listHeads)
    (hkey : commandKey path text = key.text) :
    0 < tokenTotal letter (headerTokens path (parseCommand text).header) := by
  obtain ⟨hne, hfirst⟩ := text_ends key
  unfold commandKey at hkey
  dsimp only at hkey
  split at hkey
  · next hstar => exact absurd (hkey ▸ upper_head hstar) hfirst
  · cases hfind : findCommand (headerTokens path (parseCommand text).header) with
    | none => exact absurd (by rw [← hkey, hfind]) hne
    | some found =>
      obtain ⟨key', suffixes⟩ := found
      rw [hfind] at hkey
      obtain ⟨row, hrow, rfl, hreads⟩ := findCommand_iff.mp hfind
      obtain ⟨node, hnode, hkept, hforms⟩ := (listHeads_rows _ hhead).2 row hrow hkey
      obtain ⟨token, htoken, haccepts⟩ := hreads.exists_token hnode hkept
      have hpos := hforms _ (PatternNode.mem_forms haccepts)
      have hone := letterTotal_sublist letter
        (List.singleton_sublist.mpr (List.mem_map_of_mem (f := Token.text) htoken))
      rw [letterTotal_cons, letterTotal_nil] at hone
      exact Nat.lt_of_lt_of_le hpos (le_trans (Nat.le_add_right _ _) hone)

theorem letterTotal_lt {key : Key} (hhead : (key, letter) ∈ listHeads)
    (hkey : commandKey path text = key.text) {names : List Text}
    (hread : readFunctions (parseCommand text).args = .ok names) :
    letterTotal letter names < tokenTotal letter path + letterCount letter text := by
  have hletter : isLetter letter = true := (listHeads_rows _ hhead).1
  have hpos := tokenTotal_pos hhead hkey
  have htokens := tokenTotal_headerTokens hletter path (parseCommand text).header
  have hparse := letterCount_parseCommand hletter text
  have hnames := letterTotal_readFunctions letter hread
  omega

end Commands

end Norma
