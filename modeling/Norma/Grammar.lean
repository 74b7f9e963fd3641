import Norma.Table
import Norma.Upper
import Mathlib.Data.List.Nodup

namespace Norma

open OptionalNodes

structure Alternative where
  mnemonic : Text
  marked : Bool
  deriving DecidableEq

structure GrammarNode where
  alternatives : List Alternative
  omissible : Bool
  deriving DecidableEq

def alternative (text : Text) : Alternative :=
  if text.getLast? = some '#' then ⟨text.dropLast, true⟩ else ⟨text, false⟩

def grammarNode (raw : Text) : GrammarNode :=
  if raw.head? = some '[' ∧ raw.getLast? = some ']' then
    ⟨(splitUnquoted raw.tail.dropLast '|').map alternative, true⟩
  else ⟨(splitUnquoted raw '|').map alternative, false⟩

def grammarOf (pattern : Text) : List GrammarNode := (splitUnquoted pattern ':').map grammarNode

namespace Alternative

def shortForm (a : Alternative) : Text := a.mnemonic.takeWhile Char.isUpper

def Named (a : Alternative) (spelling : Text) : Prop :=
  upper spelling = a.shortForm ∨ upper spelling = upper a.mnemonic

def lettered (a : Alternative) : Bool :=
  a.mnemonic.all isLetter && a.mnemonic.head?.any Char.isUpper

end Alternative

namespace GrammarNode

def Spelled (node : GrammarNode) (text : Text) : Prop :=
  ∃ a ∈ node.alternatives, ∃ spelling suffix, text = spelling ++ suffix ∧ a.Named spelling ∧
    (∀ c ∈ suffix, c.isDigit = true) ∧ (suffix ≠ [] → a.marked = true)

def Merged (node : GrammarNode) (text : Text) : Prop :=
  ∃ a ∈ node.alternatives, ∃ spelling suffix, text = spelling ++ suffix ∧ a.Named spelling ∧
    (∀ c ∈ suffix, c.isDigit = true) ∧ (suffix ≠ [] → node.alternatives.any (·.marked) = true)

def compiled (node : GrammarNode) : PatternNode :=
  ⟨node.alternatives.map (·.mnemonic), node.omissible, node.alternatives.any (·.marked)⟩

def lettered (node : GrammarNode) : Bool := node.alternatives.all Alternative.lettered

def uniform (node : GrammarNode) : Bool :=
  node.alternatives.all fun a => a.marked == node.alternatives.any (·.marked)

end GrammarNode

abbrev Derived (grammar : List GrammarNode) (nodes : List Text) : Prop :=
  Accepts (GrammarNode.omissible · = true) GrammarNode.Spelled grammar nodes

def Derivable (key : Key) (nodes : List Text) : Prop :=
  ∃ spec ∈ commandSpecs, spec.key = key ∧ Derived (grammarOf spec.pattern) nodes

def syncNode : GrammarNode := grammarNode "SYNC"

def sourceNode : GrammarNode := grammarNode "[SOURce|VOLTage#|CURRent#]"

def sourceTails : List Text := ["LEVel", "SLOPe", "FILTer:[LPASs]:FREQuency", "FILTer:[LPASs]:[STATe]"]

def sourcePattern (tail : Text) : Text := "SYNC:[SOURce|VOLTage#|CURRent#]:" ++ tail

section Rows

variable {spec : CommandSpec}

theorem rows_regular : ∀ spec ∈ commandSpecs,
    compilePattern spec.pattern = (grammarOf spec.pattern).map GrammarNode.compiled ∧
      (∀ node ∈ grammarOf spec.pattern, node.lettered = true) ∧
      (spec.pattern ∈ sourceTails.map sourcePattern ∨
        ∀ node ∈ grammarOf spec.pattern, node.uniform = true) := by
  decide +kernel

theorem sourcePattern_grammar : ∀ tail ∈ sourceTails,
    grammarOf (sourcePattern tail) = syncNode :: sourceNode :: grammarOf tail := by
  decide +kernel

theorem sourcePattern_row : ∀ tail ∈ sourceTails, ∃ spec ∈ commandSpecs,
    spec.pattern = sourcePattern tail := by
  decide +kernel

theorem tails_unmarked : ∀ tail ∈ sourceTails, ∀ node ∈ grammarOf tail,
    ∀ a ∈ node.alternatives, a.marked = false := by
  decide +kernel

theorem tails_start : ∀ tail ∈ sourceTails,
    (grammarOf tail).head?.any (!·.omissible) = true := by
  decide +kernel

end Rows

-- What a node of a header is like: white space can only stand behind a quote.
def HeaderNode (node : Text) : Prop := Unquoted node → Spaceless node

section Letters

variable {text spelling suffix : Text}

theorem isDigit_toUpper (c : Char) : c.toUpper.isDigit = c.isDigit :=
  toUpper_keeps (fun c hc => by
    simp [isLetter, Char.isDigit, UInt32.le_iff_toNat_le] at hc ⊢
    omega) c

theorem toUpper_digit {c : Char} (h : c.isDigit = true) : c.toUpper = c := by
  rcases toUpper_cases c with hsame | ⟨hlow, -⟩
  · exact hsame
  · simp [Char.isDigit, UInt32.le_iff_toNat_le] at h
    omega

theorem upper_digits (h : ∀ c ∈ suffix, c.isDigit = true) : upper suffix = suffix := by
  induction suffix with
  | nil => rfl
  | cons c suffix ih =>
    have hrest := ih fun d hd => h d (by simp [hd])
    rw [upper] at hrest ⊢
    rw [List.map_cons, hrest, toUpper_digit (h c (by simp))]

theorem isLetter_digit {c : Char} (h : isLetter c = true) : c.isDigit = false := by
  simp [isLetter, Char.isDigit, UInt32.le_iff_toNat_le] at h ⊢
  omega

theorem isLetter_space {c : Char} (h : isLetter c = true) : isSpace c = false := by
  rw [isSpace, isLetter_ne (by decide) h]
  simp [isLetter] at h ⊢
  omega

theorem isLetter_isQuote {c : Char} (h : isLetter c = true) : isQuote c = false := by
  rw [isQuote, isLetter_ne (by decide) h, isLetter_ne (by decide) h]
  rfl

theorem isLetter_toUpper {c : Char} (h : isLetter c = true) : isLetter c.toUpper = true := by
  rcases toUpper_cases c with hsame | ⟨hlow, hhigh, hshift⟩
  · rw [hsame, h]
  · simp [isLetter]
    omega

theorem letters_plain (h : ∀ c ∈ upper spelling, isLetter c = true) :
    ∀ c ∈ spelling, c.isDigit = false ∧ isSpace c = false ∧ isQuote c = false := by
  intro c hc
  have hletter := h c.toUpper (List.mem_map_of_mem hc)
  rw [← isDigit_toUpper, ← isSpace_toUpper, ← isQuote_toUpper]
  exact ⟨isLetter_digit hletter, isLetter_space hletter, isLetter_isQuote hletter⟩

theorem isDigit_plain {c : Char} (h : c.isDigit = true) :
    isSpace c = false ∧ isQuote c = false := by
  refine ⟨CNumber.isSpace_of_isNumberChar (CNumber.isNumberChar_of_isDigit h), ?_⟩
  rw [← Bool.not_eq_true]
  intro hquote
  rcases Bool.or_eq_true_iff.mp hquote with hc | hc
  · rw [beq_iff_eq.mp hc] at h
    cases h
  · rw [beq_iff_eq.mp hc] at h
    cases h

end Letters

section Tokens

variable {text spelling suffix : Text}

theorem makeToken_of_split (htrim : trim text = spelling ++ suffix) (hne : spelling ≠ [])
    (hlast : spelling.rdropWhile Char.isDigit = spelling)
    (hsuffix : ∀ c ∈ suffix, c.isDigit = true) :
    (makeToken text).text = upper spelling ∧
      ((makeToken text).hasSuffix = true ↔ suffix ≠ []) := by
  have hdigit : Char.isDigit ∘ Char.toUpper = Char.isDigit := funext isDigit_toUpper
  have hupper : upper (trim text) = upper spelling ++ suffix := by
    rw [htrim, upper, List.map_append, ← upper, ← upper, upper_digits hsuffix]
  have hdrop : (upper spelling ++ suffix).rdropWhile Char.isDigit = upper spelling := by
    rw [rdropWhile_append_blank hsuffix, upper, List.rdropWhile, ← List.map_reverse,
      List.dropWhile_map, hdigit, ← List.map_reverse, ← List.rdropWhile, hlast]
  unfold makeToken
  simp only [hupper, hdrop, List.drop_left]
  by_cases hempty : suffix = []
  · simp [hempty]
  · have hupperne : upper spelling ≠ [] := by simpa [upper] using hne
    simp [hempty, hupperne]

theorem makeToken_digits (hdigits : ∀ c ∈ trim text, c.isDigit = true) :
    makeToken text = ⟨upper (trim text), 0, false⟩ := by
  have hnil : (upper (trim text)).rdropWhile Char.isDigit = [] := by
    rw [upper_digits hdigits, List.rdropWhile_eq_nil_iff]
    exact hdigits
  simp [makeToken, hnil]

theorem makeToken_split (text : Text) : ∃ spelling suffix, trim text = spelling ++ suffix ∧
    (∀ c ∈ suffix, c.isDigit = true) ∧ (makeToken text).text = upper spelling ∧
      ((makeToken text).hasSuffix = true ↔ suffix ≠ []) := by
  have hsplit : trim text = (trim text).rdropWhile Char.isDigit ++
      (trim text).rtakeWhile Char.isDigit := (List.rdropWhile_append_rtakeWhile).symm
  have hsuffix : ∀ c ∈ (trim text).rtakeWhile Char.isDigit, c.isDigit = true :=
    fun c hc => List.mem_rtakeWhile_imp hc
  by_cases hne : (trim text).rdropWhile Char.isDigit = []
  · have hdigits := List.rdropWhile_eq_nil_iff.mp hne
    exact ⟨trim text, [], (List.append_nil _).symm, nofun, by simp [makeToken_digits hdigits]⟩
  · exact ⟨_, _, hsplit, hsuffix,
      makeToken_of_split hsplit hne (List.rdropWhile_idempotent _ _) hsuffix⟩

end Tokens

section Headers

variable {text front back : Text}

theorem splitHeader_gap {quote : Option Char} {c : Char}
    (h : front ++ c :: back <+: (splitHeader quote text).1)
    (hquote : front.foldl quoteNext quote = none) (hc : isQuote c = false) : isSpace c = false := by
  induction text generalizing quote front with
  | nil => cases quote <;> simp [splitHeader] at h
  | cons d text ih =>
    cases quote with
    | some q =>
      simp only [splitHeader] at h
      cases front with
      | nil => cases hquote
      | cons e front =>
        obtain ⟨rfl, hrest⟩ := List.cons_prefix_cons.mp h
        exact ih hrest hquote
    | none =>
      by_cases hd : isQuote d = true
      · simp only [splitHeader, hd, if_true] at h
        cases front with
        | nil =>
          obtain ⟨rfl, -⟩ := List.cons_prefix_cons.mp h
          rw [hd] at hc
          cases hc
        | cons e front =>
          obtain ⟨rfl, hrest⟩ := List.cons_prefix_cons.mp h
          refine ih hrest ?_
          simpa [quoteNext, hd] using hquote
      · by_cases hspace : isSpace d = true
        · simp [splitHeader, hd, hspace] at h
        · simp only [Bool.not_eq_true] at hd hspace
          rw [splitHeader_cons hd hspace] at h
          cases front with
          | nil =>
            obtain ⟨rfl, -⟩ := List.cons_prefix_cons.mp h
            exact hspace
          | cons e front =>
            obtain ⟨rfl, hrest⟩ := List.cons_prefix_cons.mp h
            refine ih hrest ?_
            simpa [quoteNext, hd] using hquote

theorem header_raw (text : Text) : (parseCommand text).header <+: (splitHeader none text).1 := by
  simp only [parseCommand]
  split
  · exact List.dropLast_prefix _
  · exact List.prefix_rfl

theorem headerNode_of_mem (lead : Text) {header node : Text} (hlead : quoteAfter lead = none)
    (hheader : lead ++ header <+: (splitHeader none text).1)
    (h : node ∈ splitUnquoted header ':') : HeaderNode node := by
  obtain ⟨front, back, rfl, hfront⟩ := front_of_mem_splitUnquoted (by decide) h
  intro hunquoted c hc
  obtain ⟨before, behind, rfl⟩ := List.append_of_mem hc
  have hbefore : Unquoted before := fun d hd => hunquoted d (by simp [hd])
  have hplace : (lead ++ (front ++ before)) ++ c :: (behind ++ back) <+:
      (splitHeader none text).1 := by simpa using hheader
  refine splitHeader_gap hplace ?_ (hunquoted c (by simp))
  change quoteAfter (lead ++ (front ++ before)) = none
  rw [quoteAfter_append, hlead]
  change quoteAfter (front ++ before) = none
  rw [quoteAfter_append, hfront]
  exact hbefore.quoteAfter

-- No line gives a header with other nodes than these.
theorem nodesOf_headerNode {previous : List Text}
    (hprevious : ∀ node ∈ previous, HeaderNode node) (text : Text) :
    ∀ node ∈ nodesOf previous (parseCommand text).header, HeaderNode node := by
  have hraw := header_raw text
  intro node hnode
  unfold nodesOf at hnode
  split at hnode
  · next rest hheader =>
    rw [hheader] at hraw
    exact headerNode_of_mem [':'] rfl hraw hnode
  · rcases List.mem_append.mp hnode with hold | hnew
    · exact hprevious node (List.dropLast_subset _ hold)
    · exact headerNode_of_mem [] rfl hraw hnew

end Headers

section Spellings

variable {a : Alternative} {node : GrammarNode} {text spelling suffix : Text}

theorem lettered_of_mem (hnode : node.lettered = true) (ha : a ∈ node.alternatives) :
    a.lettered = true :=
  List.all_eq_true.mp hnode a ha

theorem takeWhile_upper (h : text.all isLetter = true) :
    text.takeWhile (fun c => c.isUpper || c.isDigit) = text.takeWhile Char.isUpper := by
  induction text with
  | nil => rfl
  | cons c text ih =>
    rw [List.all_cons, Bool.and_eq_true] at h
    have hdigit := isLetter_digit h.1
    by_cases hc : c.isUpper = true
    · simp [hc, ih h.2]
    · simp [hc, hdigit]

theorem mnemonicMatches_iff (ha : a.lettered = true) (token : Text) :
    mnemonicMatches token a.mnemonic = true ↔ token = a.shortForm ∨ token = upper a.mnemonic := by
  rw [Alternative.lettered, Bool.and_eq_true] at ha
  rw [mnemonicMatches, takeWhile_upper ha.1, Bool.or_eq_true, beq_iff_eq, beq_iff_eq]
  rfl

theorem Alternative.Named.letters (ha : a.lettered = true) (h : a.Named spelling) :
    spelling ≠ [] ∧ ∀ c ∈ upper spelling, isLetter c = true := by
  rw [Alternative.lettered, Bool.and_eq_true, List.all_eq_true] at ha
  obtain ⟨hletters, hhead⟩ := ha
  cases hmnemonic : a.mnemonic with
  | nil => simp [hmnemonic] at hhead
  | cons d rest =>
    have hd : d.isUpper = true := by simpa [hmnemonic] using hhead
    rcases h with hshort | hlong
    · constructor
      · rintro rfl
        simp [Alternative.shortForm, hmnemonic, hd, upper] at hshort
      · rw [hshort]
        intro c hc
        exact hletters c ((List.takeWhile_prefix _).subset hc)
    · constructor
      · rintro rfl
        simp [hmnemonic, upper] at hlong
      · rw [hlong]
        intro c hc
        obtain ⟨e, he, rfl⟩ := List.mem_map.mp hc
        exact isLetter_toUpper (hletters e he)

theorem mem_trim {c : Char} (hc : isSpace c = false) (h : c ∈ text) : c ∈ trim text := by
  rw [← List.takeWhile_append_dropWhile (p := isSpace) (l := text)] at h
  rcases List.mem_append.mp h with hlead | hrest
  · rw [List.mem_takeWhile_imp hlead] at hc
    cases hc
  · rw [← List.rdropWhile_append_rtakeWhile (p := isSpace) (l := text.dropWhile isSpace)] at hrest
    rcases List.mem_append.mp hrest with hmem | htail
    · exact hmem
    · rw [List.mem_rtakeWhile_imp htail] at hc
      cases hc

theorem headerNode_trim (hnode : HeaderNode text) (htrim : trim text = spelling ++ suffix)
    (hspelling : ∀ c ∈ upper spelling, isLetter c = true)
    (hsuffix : ∀ c ∈ suffix, c.isDigit = true) : trim text = text := by
  refine trim_of_spaceless (hnode fun c hc => ?_)
  by_cases hspace : isSpace c = true
  · rw [← Bool.not_eq_true]
    intro hquote
    rcases Bool.or_eq_true_iff.mp hquote with hq | hq
    · rw [beq_iff_eq.mp hq] at hspace
      cases hspace
    · rw [beq_iff_eq.mp hq] at hspace
      cases hspace
  · have hmem := mem_trim (by simpa using hspace) hc
    rw [htrim] at hmem
    rcases List.mem_append.mp hmem with hfront | hback
    · exact (letters_plain hspelling c hfront).2.2
    · exact (isDigit_plain (hsuffix c hback)).2

theorem nodeAccepts_iff (hlettered : node.lettered = true) (hnode : HeaderNode text) :
    nodeAccepts node.compiled (makeToken text) = true ↔ node.Merged text := by
  constructor
  · intro h
    obtain ⟨spelling, suffix, htrim, hsuffix, htext, hhas⟩ := makeToken_split text
    unfold nodeAccepts at h
    split at h
    · cases h
    · next hallowed =>
      obtain ⟨mnemonic, hmnemonic, hmatch⟩ := List.any_eq_true.mp h
      obtain ⟨a, ha, rfl⟩ := List.mem_map.mp hmnemonic
      have hletter := lettered_of_mem hlettered ha
      rw [mnemonicMatches_iff hletter, htext] at hmatch
      have hnamed : a.Named spelling := hmatch
      rw [headerNode_trim hnode htrim (hnamed.letters hletter).2 hsuffix] at htrim
      refine ⟨a, ha, spelling, suffix, htrim, hnamed, hsuffix, fun hne => ?_⟩
      have hhas' := hhas.mpr hne
      simpa [hhas', GrammarNode.compiled] using hallowed
  · rintro ⟨a, ha, spelling, suffix, rfl, hnamed, hsuffix, hmarked⟩
    have hletter := lettered_of_mem hlettered ha
    obtain ⟨hne, hletters⟩ := hnamed.letters hletter
    have hplain := letters_plain hletters
    have htrim : trim (spelling ++ suffix) = spelling ++ suffix := by
      refine trim_of_spaceless (Spaceless.append (fun c hc => (hplain c hc).2.1) fun c hc => ?_)
      exact (isDigit_plain (hsuffix c hc)).1
    have hlast : spelling.rdropWhile Char.isDigit = spelling := by
      rw [List.rdropWhile_eq_self_iff]
      intro hne'
      simp [(hplain _ (List.getLast_mem hne')).1]
    obtain ⟨htext, hhas⟩ := makeToken_of_split htrim hne hlast hsuffix
    unfold nodeAccepts
    rw [if_neg]
    · refine List.any_eq_true.mpr ⟨a.mnemonic, List.mem_map_of_mem ha, ?_⟩
      rw [mnemonicMatches_iff hletter, htext]
      exact hnamed
    · intro hrefused
      rw [Bool.and_eq_true, Bool.not_eq_true'] at hrefused
      have hall := hmarked (hhas.mp hrefused.1)
      rw [GrammarNode.compiled] at hrefused
      simp only [hall] at hrefused
      exact absurd hrefused.2 (by simp)

end Spellings

section Dispatch

variable {tokens : List Token} {key : Key} {suffixes : List Int} {nodes : List Text}

theorem findCommand_iff : findCommand tokens = some (key, suffixes) ↔
    ∃ row ∈ compiledSpecs, row.1 = key ∧ Reads row.2 tokens suffixes := by
  constructor
  · intro h
    obtain ⟨row, hrow, hmatch⟩ := List.exists_of_findSome?_eq_some h
    obtain ⟨found, hfound, hpair⟩ := Option.map_eq_some_iff.mp hmatch
    cases hpair
    exact ⟨row, hrow, rfl, (matchPattern_row hrow).mp hfound⟩
  · rintro ⟨row, hrow, rfl, hreads⟩
    have hsome : (findCommand tokens).isSome = true := by
      rw [findCommand, List.findSome?_isSome_iff]
      refine ⟨row, hrow, ?_⟩
      simp [(matchPattern_row hrow).mpr hreads]
    obtain ⟨⟨key, found⟩, hfind⟩ := Option.isSome_iff_exists.mp hsome
    obtain ⟨row', hrow', hmatch⟩ := List.exists_of_findSome?_eq_some hfind
    obtain ⟨found', hfound, hpair⟩ := Option.map_eq_some_iff.mp hmatch
    cases hpair
    have hreads' := (matchPattern_row hrow').mp hfound
    obtain rfl := reads_row hrow hrow' hreads hreads'
    rw [hfind, reads_unique hrow hreads hreads']

def dispatchedTo (nodes : List Text) : Option Key :=
  (findCommand (nodes.map makeToken)).map Prod.fst

abbrev MergedDerived (grammar : List GrammarNode) (nodes : List Text) : Prop :=
  Accepts (GrammarNode.omissible · = true) GrammarNode.Merged grammar nodes

theorem reads_grammar {spec : CommandSpec} (hspec : spec ∈ commandSpecs)
    (hnodes : ∀ node ∈ nodes, HeaderNode node) :
    (∃ out, Reads (compilePattern spec.pattern) (nodes.map makeToken) out) ↔
      MergedDerived (grammarOf spec.pattern) nodes := by
  obtain ⟨hcompiled, hlettered, -⟩ := rows_regular spec hspec
  rw [hcompiled, ← accepts_iff]
  exact accepts_map_iff (fun _ => Iff.rfl) fun node hnode text htext =>
    nodeAccepts_iff (hlettered node hnode) (hnodes text htext)

theorem dispatchedTo_iff (hnodes : ∀ node ∈ nodes, HeaderNode node) :
    dispatchedTo nodes = some key ↔
      ∃ spec ∈ commandSpecs, spec.key = key ∧ MergedDerived (grammarOf spec.pattern) nodes := by
  constructor
  · intro h
    obtain ⟨⟨found, suffixes⟩, hfind, rfl⟩ := Option.map_eq_some_iff.mp h
    obtain ⟨row, hrow, rfl, hreads⟩ := findCommand_iff.mp hfind
    obtain ⟨spec, hspec, rfl⟩ := List.mem_map.mp hrow
    exact ⟨spec, hspec, rfl, (reads_grammar hspec hnodes).mp ⟨_, hreads⟩⟩
  · rintro ⟨spec, hspec, rfl, hderived⟩
    obtain ⟨out, hreads⟩ := (reads_grammar hspec hnodes).mpr hderived
    have hfind := findCommand_iff.mpr ⟨_, List.mem_map_of_mem hspec, rfl, hreads⟩
    exact Option.map_eq_some_iff.mpr ⟨_, hfind, rfl⟩

end Dispatch

-- SOURce, which takes no suffix, with one, where one of the four patterns goes on as it should.
def Misplaced (tail : Text) (nodes : List Text) : Prop :=
  ∃ sync source suffix rest, nodes = sync :: (source ++ suffix) :: rest ∧ syncNode.Spelled sync ∧
    (upper source = "SOUR" ∨ upper source = "SOURCE") ∧ suffix ≠ [] ∧
    (∀ c ∈ suffix, c.isDigit = true) ∧ Derived (grammarOf tail) rest

def SourceSuffix (nodes : List Text) : Prop := ∃ tail ∈ sourceTails, Misplaced tail nodes

section Source

variable {node : GrammarNode} {text spelling suffix spelling' suffix' tail : Text}
  {nodes : List Text}

theorem split_unique (h : spelling ++ suffix = spelling' ++ suffix')
    (hspelling : ∀ c ∈ upper spelling, isLetter c = true)
    (hspelling' : ∀ c ∈ upper spelling', isLetter c = true)
    (hsuffix : ∀ c ∈ suffix, c.isDigit = true) (hsuffix' : ∀ c ∈ suffix', c.isDigit = true) :
    spelling = spelling' ∧ suffix = suffix' := by
  have hself {s : Text} (hs : ∀ c ∈ upper s, isLetter c = true) :
      s.rdropWhile Char.isDigit = s := by
    rw [List.rdropWhile_eq_self_iff]
    intro hne
    simp [(letters_plain hs _ (List.getLast_mem hne)).1]
  have hdrop := congrArg (List.rdropWhile Char.isDigit) h
  rw [rdropWhile_append_blank hsuffix, rdropWhile_append_blank hsuffix', hself hspelling,
    hself hspelling'] at hdrop
  subst hdrop
  exact ⟨rfl, List.append_cancel_left h⟩

theorem GrammarNode.Spelled.merged (h : node.Spelled text) : node.Merged text := by
  obtain ⟨a, ha, spelling, suffix, htext, hnamed, hsuffix, hmarked⟩ := h
  exact ⟨a, ha, spelling, suffix, htext, hnamed, hsuffix,
    fun hne => List.any_eq_true.mpr ⟨a, ha, hmarked hne⟩⟩

theorem GrammarNode.Merged.spelled (huniform : node.uniform = true) (h : node.Merged text) :
    node.Spelled text := by
  obtain ⟨a, ha, spelling, suffix, htext, hnamed, hsuffix, hmarked⟩ := h
  refine ⟨a, ha, spelling, suffix, htext, hnamed, hsuffix, fun hne => ?_⟩
  have hsame := List.all_eq_true.mp huniform a ha
  rw [beq_iff_eq] at hsame
  rw [hsame, hmarked hne]

theorem uniform_of_unmarked (h : ∀ a ∈ node.alternatives, a.marked = false) :
    node.uniform = true := by
  have hnone : node.alternatives.any (·.marked) = false :=
    List.any_eq_false.mpr fun a ha => by simp [h a ha]
  refine List.all_eq_true.mpr fun a ha => ?_
  rw [hnone, h a ha]
  rfl

theorem Derived.merged {grammar : List GrammarNode} (h : Derived grammar nodes) :
    MergedDerived grammar nodes :=
  h.mono fun _ _ _ _ => GrammarNode.Spelled.merged

theorem MergedDerived.derived {grammar : List GrammarNode}
    (huniform : ∀ node ∈ grammar, node.uniform = true) (h : MergedDerived grammar nodes) :
    Derived grammar nodes :=
  h.mono fun node hnode _ _ => GrammarNode.Merged.spelled (huniform node hnode)

theorem syncNode_uniform : syncNode.uniform = true ∧ syncNode.omissible = false := by
  decide +kernel

theorem sourceNode_alternatives : sourceNode.alternatives =
    [⟨"SOURce", false⟩, ⟨"VOLTage", true⟩, ⟨"CURRent", true⟩] := by
  decide +kernel

theorem sourceNode_marked : sourceNode.alternatives.any (·.marked) = true := by
  decide +kernel

theorem source_named : (⟨"SOURce", false⟩ : Alternative).Named spelling ↔
    upper spelling = "SOUR" ∨ upper spelling = "SOURCE" :=
  Iff.rfl

theorem named_apart {a b : Alternative}
    (hapart : ∀ form ∈ [a.shortForm, upper a.mnemonic], form ∉ [b.shortForm, upper b.mnemonic])
    (ha : a.Named spelling) : ¬ b.Named spelling := by
  intro hb
  have hform : upper spelling ∈ [a.shortForm, upper a.mnemonic] := by
    simpa [Alternative.Named] using ha
  exact hapart _ hform (by simpa [Alternative.Named] using hb)

theorem mergedDerived_source (htail : tail ∈ sourceTails) :
    MergedDerived (grammarOf (sourcePattern tail)) nodes ↔
      Derived (grammarOf (sourcePattern tail)) nodes ∨ Misplaced tail nodes := by
  have htailuniform (node : GrammarNode) (hnode : node ∈ grammarOf tail) : node.uniform = true :=
    uniform_of_unmarked (tails_unmarked tail htail node hnode)
  rw [sourcePattern_grammar tail htail]
  constructor
  · intro h
    cases h with
    | absent homissible hrest =>
      rw [syncNode_uniform.2] at homissible
      cases homissible
    | @present _ sync _ _ hsync hrest =>
      have hsync' := hsync.spelled syncNode_uniform.1
      cases hrest with
      | absent homissible hrest =>
        exact .inl (.present hsync' (.absent homissible (MergedDerived.derived htailuniform hrest)))
      | @present _ second _ rest hsecond hrest =>
        have hrest' := MergedDerived.derived htailuniform hrest
        obtain ⟨a, ha, spelling, suffix, rfl, hnamed, hsuffix, -⟩ := hsecond
        by_cases hmarked : suffix ≠ [] → a.marked = true
        · exact .inl (.present hsync' (.present ⟨a, ha, spelling, suffix, rfl, hnamed, hsuffix,
            hmarked⟩ hrest'))
        · simp only [Classical.not_imp, Bool.not_eq_true] at hmarked
          obtain ⟨hne, hunmarked⟩ := hmarked
          refine .inr ⟨sync, spelling, suffix, rest, rfl, hsync', ?_, hne, hsuffix, hrest'⟩
          rw [sourceNode_alternatives] at ha
          simp only [List.mem_cons, List.not_mem_nil, or_false] at ha
          rcases ha with rfl | rfl | rfl
          · exact source_named.mp hnamed
          · cases hunmarked
          · cases hunmarked
  · rintro (h | ⟨sync, source, suffix, rest, rfl, hsync, hsource, hne, hsuffix, hrest⟩)
    · exact h.merged
    · refine .present hsync.merged (.present ⟨⟨"SOURce", false⟩, ?_, source, suffix, rfl,
        source_named.mpr hsource, hsuffix, fun _ => sourceNode_marked⟩ hrest.merged)
      rw [sourceNode_alternatives]
      exact List.mem_cons_self

theorem Misplaced.not_derived (htail : tail ∈ sourceTails) (h : Misplaced tail nodes) :
    ¬ Derived (grammarOf (sourcePattern tail)) nodes := by
  rw [sourcePattern_grammar tail htail]
  obtain ⟨sync, source, suffix, rest, rfl, -, hsource, hne, hsuffix, -⟩ := h
  have hnamed : (⟨"SOURce", false⟩ : Alternative).Named source := source_named.mpr hsource
  have hletters := (hnamed.letters (by decide +kernel)).2
  have hmarked {node : GrammarNode} (hlettered : node.lettered = true)
      (h : node.Spelled (source ++ suffix)) : ∃ a ∈ node.alternatives, a.Named source ∧
        a.marked = true := by
    obtain ⟨a, ha, spelling, suffix', hsplit, hnamed', hsuffix', hmark⟩ := h
    have hletters' := (hnamed'.letters (lettered_of_mem hlettered ha)).2
    obtain ⟨rfl, rfl⟩ := split_unique hsplit hletters hletters' hsuffix hsuffix'
    exact ⟨a, ha, hnamed', hmark hne⟩
  have hlettered : ∀ node ∈ grammarOf (sourcePattern tail), node.lettered = true := by
    obtain ⟨spec, hspec, hpattern⟩ := sourcePattern_row tail htail
    rw [← hpattern]
    exact (rows_regular spec hspec).2.1
  rw [sourcePattern_grammar tail htail] at hlettered
  intro hderived
  cases hderived with
  | absent homissible hrest =>
    rw [syncNode_uniform.2] at homissible
    cases homissible
  | present hsync hrest =>
    cases hrest with
    | present hsecond hrest =>
      obtain ⟨a, ha, hname, hmark⟩ := hmarked (hlettered _ (by simp)) hsecond
      rw [sourceNode_alternatives] at ha
      simp only [List.mem_cons, List.not_mem_nil, or_false] at ha
      rcases ha with rfl | rfl | rfl
      · cases hmark
      · exact named_apart (by decide +kernel) hnamed hname
      · exact named_apart (by decide +kernel) hnamed hname
    | absent homissible hrest =>
      have hstart := tails_start tail htail
      generalize hgrammar : grammarOf tail = grammar at hrest hstart hlettered
      cases hrest with
      | absent homissible' hrest =>
        simp [homissible'] at hstart
      | @present first _ _ _ hfirst hrest =>
        obtain ⟨a, ha, -, hmark⟩ := hmarked (hlettered first (by simp)) hfirst
        rw [tails_unmarked tail htail first (by simp [hgrammar]) a ha] at hmark
        cases hmark

end Source

section Grammar

variable {nodes : List Text} {key : Key}

structure TreeCommand (previous : List Text) (text : Text) (nodes : List Text) : Prop where
  tree : (parseCommand text).header.head? ≠ some '*'
  nodes_eq : nodesOf previous (parseCommand text).header = nodes

theorem TreeCommand.handleCommand {previous : List Text} {text : Text}
    (h : TreeCommand previous text nodes) (sim : NormaSimulator) :
    handleCommand sim (previous.dropLast.map makeToken) text =
      match findCommand (nodes.map makeToken) with
      | none => some (undefinedHeader sim (nodes.map makeToken).dropLast text)
      | some (key, suffixes) =>
          (execute key ⟨sim, (parseCommand text).command (nodes.map makeToken) key.text
            suffixes⟩).map (·.outcome (nodes.map makeToken).dropLast) := by
  have hnodes := headerTokens_eq previous (parseCommand text).header
  rw [h.nodes_eq] at hnodes
  cases hfind : findCommand (nodes.map makeToken) with
  | none => simp only [Norma.handleCommand, if_neg h.tree, handleTree, hnodes, hfind]
  | some found => simp only [Norma.handleCommand, if_neg h.tree, handleTree, hnodes, hfind]

structure Faithful (nodes : List Text) : Prop where
  dispatched : ∀ key, dispatchedTo nodes = some key ↔ Derivable key nodes
  rejected : (∀ key, ¬ Derivable key nodes) → ∀ sim previous text,
    TreeCommand previous text nodes →
      Norma.handleCommand sim (previous.dropLast.map makeToken) text =
        some (undefinedHeader sim (nodes.map makeToken).dropLast text)

theorem faithful_of_dispatched (h : ∀ key, dispatchedTo nodes = some key ↔ Derivable key nodes) :
    Faithful nodes := by
  refine ⟨h, fun hnone sim previous text hcommand => ?_⟩
  cases hfind : findCommand (nodes.map makeToken) with
  | none => rw [hcommand.handleCommand, hfind]
  | some found =>
    have hdispatched : dispatchedTo nodes = some found.1 := by rw [dispatchedTo, hfind]; rfl
    exact absurd ((h found.1).mp hdispatched) (hnone found.1)

theorem keys_distinct : (commandSpecs.map (·.key)).Nodup := by
  decide +kernel

theorem SourceSuffix.not_faithful (hnodes : ∀ node ∈ nodes, HeaderNode node)
    (h : SourceSuffix nodes) : ¬ Faithful nodes := by
  intro hfaithful
  obtain ⟨tail, htail, hmisplaced⟩ := h
  obtain ⟨spec, hspec, hpattern⟩ := sourcePattern_row tail htail
  have hmerged : MergedDerived (grammarOf spec.pattern) nodes := by
    rw [hpattern]
    exact (mergedDerived_source htail).mpr (.inr hmisplaced)
  have hdispatched := (dispatchedTo_iff hnodes).mpr ⟨spec, hspec, rfl, hmerged⟩
  obtain ⟨spec', hspec', hkey, hderived⟩ := (hfaithful.dispatched spec.key).mp hdispatched
  obtain rfl := List.inj_on_of_nodup_map keys_distinct hspec' hspec hkey
  rw [hpattern] at hderived
  exact hmisplaced.not_derived htail hderived

theorem header_grammar_iff (hnodes : ∀ node ∈ nodes, HeaderNode node) :
    Faithful nodes ↔ ¬ SourceSuffix nodes := by
  constructor
  · intro hfaithful hsource
    exact hsource.not_faithful hnodes hfaithful
  · intro hplaced
    refine faithful_of_dispatched fun key => ?_
    rw [dispatchedTo_iff hnodes, Derivable]
    refine exists_congr fun spec => and_congr_right fun hspec => and_congr_right fun _ => ?_
    constructor
    · intro hmerged
      rcases (rows_regular spec hspec).2.2 with hsource | huniform
      · obtain ⟨tail, htail, hpattern⟩ := List.mem_map.mp hsource
        rw [← hpattern] at hmerged ⊢
        rcases (mergedDerived_source htail).mp hmerged with hderived | hmisplaced
        · exact hderived
        · exact absurd ⟨tail, htail, hmisplaced⟩ hplaced
      · exact MergedDerived.derived huniform hmerged
    · exact Derived.merged

theorem sync_voltage_level : Faithful ["SYNC", "VOLT2", "LEV"] := by
  have hnodes : ∀ node ∈ (["SYNC", "VOLT2", "LEV"] : List Text), HeaderNode node := by
    have hspaceless : ∀ node ∈ (["SYNC", "VOLT2", "LEV"] : List Text), Spaceless node := by
      decide +kernel
    exact fun node hnode _ => hspaceless node hnode
  refine (header_grammar_iff hnodes).mpr ?_
  rintro ⟨tail, htail, sync, source, suffix, rest, hsplit, -, hsource, -⟩
  have hvolt : source ++ suffix = "VOLT2" := by
    simp only [List.cons.injEq] at hsplit
    exact hsplit.2.1.symm
  cases source with
  | nil => rcases hsource with h | h <;> cases h
  | cons c source =>
    obtain ⟨rfl, -⟩ := List.cons.inj hvolt
    rcases hsource with h | h <;> cases h

theorem sync_source_suffix_taken :
    ¬ ∀ nodes, (∀ node ∈ nodes, HeaderNode node) → Faithful nodes := by
  intro h
  have hspaceless : ∀ node ∈ (["SYNC", "SOUR1", "LEV"] : List Text), Spaceless node := by
    decide +kernel
  have hnodes : ∀ node ∈ (["SYNC", "SOUR1", "LEV"] : List Text), HeaderNode node :=
    fun node hnode _ => hspaceless node hnode
  refine SourceSuffix.not_faithful hnodes ⟨"LEVel", by decide +kernel, "SYNC", "SOUR", "1", ["LEV"],
    rfl, ⟨⟨"SYNC", false⟩, by decide +kernel, "SYNC", [], rfl, .inl rfl, nofun, nofun⟩, .inl rfl,
    by decide +kernel, List.all_eq_true.mp (by decide +kernel), ?_⟩ (h _ hnodes)
  exact .present ⟨⟨"LEVel", false⟩, by decide +kernel, "LEV", [], rfl, .inl rfl, nofun, nofun⟩ .done

end Grammar

end Norma
