import Norma.Text

namespace Norma

open Cut (Scanner)

def quoteNext (quote : Option Char) (c : Char) : Option Char :=
  match quote with
  | some q => if c = q then none else some q
  | none => if isQuote c then some c else none

def quoting (separator : Char) : Scanner (Option Char) Char where
  next := quoteNext
  cut quote c := quote.isNone && !isQuote c && c == separator

def quoteAfter (text : Text) : Option Char := text.foldl quoteNext none

theorem quoting_cut {separator : Char} {quote : Option Char} {c : Char}
    (h : (quoting separator).cut quote c = true) : c = separator := by
  simp only [quoting, Bool.and_eq_true, beq_iff_eq] at h
  exact h.2

theorem splitter_fold (separator : Char) (text : Text) (st : Splitter) :
    let final := text.foldl (Splitter.step separator) st
    final.parts ++ [final.current] =
      st.parts ++ Scanner.prepend st.current ((quoting separator).pieces st.quote text) := by
  induction text generalizing st with
  | nil => simp [Scanner.pieces, Scanner.prepend]
  | cons c text ih =>
    obtain ⟨parts, current, quote⟩ := st
    simp only [List.foldl_cons, ih, Scanner.pieces]
    cases quote with
    | some q => simp [Splitter.step, quoting, quoteNext, Scanner.prepend_prepend]
    | none =>
      by_cases hquote : isQuote c = true
      · simp [Splitter.step, quoting, quoteNext, hquote, Scanner.prepend_prepend]
      · by_cases hsep : c = separator
        · subst hsep
          have hne := (quoting c).pieces_ne_nil none text
          have hcut : (quoting c).cut none c = true := by simp [quoting, hquote]
          have hnext : (quoting c).next none c = none := by simp [quoting, quoteNext, hquote]
          have hstep : Splitter.step c ⟨parts, current, none⟩ c = ⟨parts ++ [current], [], none⟩ := by
            simp [Splitter.step, hquote]
          rw [hstep, hnext, if_pos hcut, Scanner.prepend_nil_left hne]
          simp [Scanner.prepend]
        · simp [Splitter.step, quoting, quoteNext, hquote, hsep, Scanner.prepend_prepend]

theorem splitUnquoted_eq (text : Text) (separator : Char) :
    splitUnquoted text separator = (quoting separator).pieces none text := by
  have h := splitter_fold separator text ⟨[], [], none⟩
  rw [Scanner.prepend_nil_left ((quoting separator).pieces_ne_nil none text)] at h
  simpa [splitUnquoted] using h

theorem splitUnquoted_ne_nil (text : Text) (separator : Char) :
    splitUnquoted text separator ≠ [] := by
  rw [splitUnquoted_eq]
  exact (quoting separator).pieces_ne_nil none text

theorem join_splitUnquoted (text : Text) (separator : Char) :
    join separator (splitUnquoted text separator) = text := by
  rw [splitUnquoted_eq]
  exact (quoting separator).intercalate_pieces (fun _ _ => quoting_cut) none text

theorem splitUnquoted_join_front {text : Text} {separator : Char} {pre post : List Text}
    {piece : Text} (h : splitUnquoted text separator = pre ++ piece :: post) :
    splitUnquoted (join separator (pre ++ [piece])) separator = pre ++ [piece] := by
  rw [splitUnquoted_eq] at h ⊢
  exact (quoting separator).pieces_intercalate_front (fun _ _ => quoting_cut) none text pre
    piece post h

theorem join_cons (separator : Char) (value : Text) (rest : List Text) :
    join separator (value :: rest) = value ++ (rest.map (separator :: ·)).flatten := by
  induction rest generalizing value with
  | nil => simp [join]
  | cons next rest ih =>
    have hnext : join separator (value :: next :: rest) =
        value ++ separator :: join separator (next :: rest) := by
      simp [join, List.intercalate_cons_of_ne_nil]
    rw [hnext, ih next]
    simp

theorem forall_mem_join {p : Char → Prop} {separator : Char} {values : List Text}
    (hseparator : p separator) (h : ∀ value ∈ values, ∀ c ∈ value, p c) :
    ∀ c ∈ join separator values, p c := by
  intro c hc
  cases values with
  | nil => cases hc
  | cons first rest =>
    rw [join_cons, List.mem_append, List.mem_flatten] at hc
    rcases hc with hmem | ⟨text, htext, hmem⟩
    · exact h first (by simp) c hmem
    · obtain ⟨value, hvalue, rfl⟩ := List.mem_map.mp htext
      rcases List.mem_cons.mp hmem with rfl | hmem
      · exact hseparator
      · exact h value (by simp [hvalue]) c hmem

theorem join_append (separator : Char) {values : List Text} (h : values ≠ []) (rest : List Text) :
    join separator (values ++ rest) =
      join separator values ++ (rest.map (separator :: ·)).flatten := by
  obtain ⟨value, values, rfl⟩ := List.exists_cons_of_ne_nil h
  rw [List.cons_append, join_cons, join_cons, List.map_append, List.flatten_append,
    List.append_assoc]

theorem prefix_of_splitUnquoted {text : Text} {separator : Char} {pre post : List Text}
    {piece : Text} (h : splitUnquoted text separator = pre ++ piece :: post) :
    join separator (pre ++ [piece]) <+: text := by
  have hne : pre ++ [piece] ≠ [] := by simp
  have hjoin := join_append separator hne post
  rw [List.append_assoc, List.singleton_append, ← h, join_splitUnquoted] at hjoin
  exact ⟨_, hjoin.symm⟩

theorem splitUnquoted_append {separator : Char} (hsep : isQuote separator = false) {first : Text}
    (hclosed : quoteAfter first = none) (second : Text) :
    splitUnquoted (first ++ separator :: second) separator =
      splitUnquoted first separator ++ splitUnquoted second separator := by
  have hafter : (quoting separator).after none first = none := hclosed
  have hcut : (quoting separator).cut ((quoting separator).after none first) separator = true := by
    rw [hafter]
    simp [quoting, hsep]
  have hnext : (quoting separator).next ((quoting separator).after none first) separator = none := by
    rw [hafter]
    simp [quoting, quoteNext, hsep]
  rw [splitUnquoted_eq, (quoting separator).pieces_append_cut hcut, hnext, splitUnquoted_eq,
    splitUnquoted_eq]

section Pieces

variable {separator : Char} {text : Text}

theorem quoting_next (hsep : isQuote separator = false) (quote : Option Char) (c : Char)
    (h : (quoting separator).cut quote c = true) : (quoting separator).next quote c = none := by
  obtain rfl := quoting_cut h
  simp only [quoting, Bool.and_eq_true, Option.isNone_iff_eq_none] at h
  simp [quoting, h.1.1, quoteNext, hsep]

theorem cut_iff (hsep : isQuote separator = false) (quote : Option Char) :
    (quoting separator).cut quote separator = true ↔ quote = none := by
  simp [quoting, hsep, Option.isNone_iff_eq_none]

def Whole (separator : Char) (text : Text) : Prop := (quoting separator).whole none text = true

theorem Whole.split (h : Whole separator text) : splitUnquoted text separator = [text] := by
  rw [splitUnquoted_eq]
  exact (quoting separator).pieces_of_whole h

theorem whole_of_mem_splitUnquoted (hsep : isQuote separator = false) {piece : Text}
    (h : piece ∈ splitUnquoted text separator) : Whole separator piece := by
  rw [splitUnquoted_eq] at h
  exact (quoting separator).whole_of_mem_pieces (quoting_next hsep) h

theorem closed_of_mem_splitUnquoted (hsep : isQuote separator = false) {piece : Text}
    (h : piece ∈ (splitUnquoted text separator).dropLast) : quoteAfter piece = none := by
  rw [splitUnquoted_eq] at h
  exact (cut_iff hsep _).mp
    ((quoting separator).cut_of_mem_pieces (fun _ _ => quoting_cut) (quoting_next hsep) h)

theorem front_of_mem_splitUnquoted (hsep : isQuote separator = false) {piece : Text}
    (h : piece ∈ splitUnquoted text separator) :
    ∃ front back, text = front ++ (piece ++ back) ∧ quoteAfter front = none := by
  rw [splitUnquoted_eq] at h
  exact (quoting separator).front_of_mem_pieces (quoting_next hsep) h

theorem splitUnquoted_join (hsep : isQuote separator = false) {pieces : List Text}
    (hne : pieces ≠ []) (hwhole : ∀ piece ∈ pieces, Whole separator piece)
    (hclosed : ∀ piece ∈ pieces.dropLast, quoteAfter piece = none) :
    splitUnquoted (join separator pieces) separator = pieces := by
  rw [splitUnquoted_eq]
  exact (quoting separator).pieces_intercalate (quoting_next hsep) hne hwhole fun piece hpiece =>
    (cut_iff hsep _).mpr (hclosed piece hpiece)

@[simp] theorem quoteAfter_append (first second : Text) :
    quoteAfter (first ++ second) = second.foldl quoteNext (quoteAfter first) := by
  simp [quoteAfter, List.foldl_append]

theorem Whole.split_append {first : Text} (h : Whole separator first)
    (hclosed : quoteAfter first = none) (second : Text) :
    splitUnquoted (first ++ second) separator =
      Scanner.prepend first (splitUnquoted second separator) := by
  have hafter : (quoting separator).after none first = none := hclosed
  rw [splitUnquoted_eq, splitUnquoted_eq, (quoting separator).pieces_append_of_whole h, hafter]

theorem Whole.append_iff {first second : Text} (hclosed : quoteAfter first = none) :
    Whole separator (first ++ second) ↔ Whole separator first ∧ Whole separator second := by
  have hafter : (quoting separator).after none first = none := hclosed
  simp [Whole, Scanner.whole_append, hafter]

end Pieces

def Unquoted (text : Text) : Prop := ∀ c ∈ text, isQuote c = false

instance : DecidablePred Unquoted := fun text =>
  List.decidableBAll (fun c => isQuote c = false) text

namespace Unquoted

variable {separator : Char} {text : Text}

theorem append {first second : Text} (hfirst : Unquoted first) (hsecond : Unquoted second) :
    Unquoted (first ++ second) := by
  intro c hc
  rcases List.mem_append.mp hc with hmem | hmem
  · exact hfirst c hmem
  · exact hsecond c hmem

theorem quoteAfter (h : Unquoted text) : quoteAfter text = none := by
  induction text with
  | nil => rfl
  | cons c text ih =>
    have hc : quoteNext none c = none := by simp [quoteNext, h c (by simp)]
    have hrest := ih fun d hd => h d (by simp [hd])
    simpa [Norma.quoteAfter, hc] using hrest

theorem whole_iff (h : Unquoted text) : Whole separator text ↔ separator ∉ text := by
  induction text with
  | nil => simp [Whole, Scanner.whole]
  | cons c text ih =>
    have hc := h c (by simp)
    have hnext : (quoting separator).next none c = none := by simp [quoting, quoteNext, hc]
    have hcut : (quoting separator).cut none c = (c == separator) := by simp [quoting, hc]
    have hrest := ih fun d hd => h d (by simp [hd])
    simp only [Whole, Scanner.whole, hnext, hcut, Bool.and_eq_true] at hrest ⊢
    rw [hrest, List.mem_cons, not_or]
    by_cases hsep : c = separator
    · simp [hsep]
    · simp [hsep, Ne.symm hsep]

end Unquoted

theorem mem_of_mem_splitUnquoted {separator : Char} {text piece : Text}
    (h : piece ∈ splitUnquoted text separator) : ∀ c ∈ piece, c ∈ text := by
  intro c hc
  rw [← join_splitUnquoted text separator, join]
  generalize splitUnquoted text separator = pieces at h
  induction pieces with
  | nil => simp at h
  | cons p pieces ih =>
    by_cases hne : pieces = []
    · obtain rfl : piece = p := by simpa [hne] using h
      simpa [hne] using hc
    · rw [List.intercalate_cons_of_ne_nil hne]
      rcases List.mem_cons.mp h with rfl | hmem
      · simp [hc]
      · simp [ih hmem]

theorem splitUnquoted_nodes {nodes : List Text} (hplain : ∀ node ∈ nodes, Unquoted node)
    (hcolon : ∀ node ∈ nodes, ':' ∉ node) (text : Text) :
    splitUnquoted (nodes.flatMap (· ++ [':']) ++ text) ':' = nodes ++ splitUnquoted text ':' := by
  induction nodes with
  | nil => rfl
  | cons node nodes ih =>
    have hnode := hplain node (by simp)
    have hwhole : Whole ':' node := hnode.whole_iff.mpr (hcolon node (by simp))
    have hrest := ih (fun n hn => hplain n (by simp [hn])) fun n hn => hcolon n (by simp [hn])
    have hsep : isQuote ':' = false := by decide
    have hsplit := splitUnquoted_append hsep hnode.quoteAfter
      (nodes.flatMap (· ++ [':']) ++ text)
    rw [hwhole.split, hrest] at hsplit
    simpa using hsplit

def Spaceless (text : Text) : Prop := ∀ c ∈ text, isSpace c = false

instance : DecidablePred Spaceless := fun text =>
  List.decidableBAll (fun c => isSpace c = false) text

theorem Spaceless.append {first second : Text} (hfirst : Spaceless first)
    (hsecond : Spaceless second) : Spaceless (first ++ second) :=
  List.forall_mem_append.mpr ⟨hfirst, hsecond⟩

section Trim

variable {s lead : Text}

theorem trim_append_of_space (h : ∀ c ∈ lead, isSpace c = true) : trim (lead ++ s) = trim s := by
  simp [trim, List.dropWhile_append_of_pos h]

theorem rdropWhile_append_of_ne {xs ys : Text} (h : ys.rdropWhile isSpace ≠ []) :
    (xs ++ ys).rdropWhile isSpace = xs ++ ys.rdropWhile isSpace := by
  simp only [List.rdropWhile, List.reverse_append, ne_eq, List.reverse_eq_nil_iff] at h ⊢
  simp [List.dropWhile_append, h]

theorem rdropWhile_append_blank {p : Char → Bool} {tail : Text} (h : ∀ c ∈ tail, p c = true)
    (s : Text) : (s ++ tail).rdropWhile p = s.rdropWhile p := by
  induction tail using List.reverseRecOn with
  | nil => rw [List.append_nil]
  | append_singleton tail d ih =>
    rw [← List.append_assoc, List.rdropWhile_concat_pos _ _ _ (h d (by simp))]
    exact ih fun c hc => h c (by simp [hc])

theorem trim_of_head {c : Char} (hc : isSpace c = false) (xs : Text) :
    trim (c :: xs) = (c :: xs).rdropWhile isSpace := by
  simp [trim, hc]

theorem trim_cons_ne_nil {c : Char} (hc : isSpace c = false) (xs : Text) : trim (c :: xs) ≠ [] := by
  rw [trim_of_head hc]
  intro hnil
  have hall := List.rdropWhile_eq_nil_iff.mp hnil c (by simp)
  simp [hc] at hall

theorem trim_head (h : trim s ≠ []) : ∃ c rest, trim s = c :: rest ∧ isSpace c = false := by
  have hprefix : trim s <+: s.dropWhile isSpace := List.rdropWhile_prefix _ _
  obtain ⟨c, rest, hcons⟩ := List.exists_cons_of_ne_nil h
  refine ⟨c, rest, hcons, ?_⟩
  obtain ⟨tail, htail⟩ := hprefix
  have hhead := List.head?_dropWhile_not isSpace s
  rw [← htail, hcons] at hhead
  simpa using hhead

theorem trim_of_ends {c d : Char} (hc : isSpace c = false) (hd : isSpace d = false) (s : Text) :
    trim (c :: (s ++ [d])) = c :: (s ++ [d]) := by
  rw [trim_of_head hc, ← List.cons_append]
  exact List.rdropWhile_concat_neg _ _ _ (by simp [hd])

theorem trim_of_spaceless (h : Spaceless s) : trim s = s := by
  have hdrop : s.dropWhile isSpace = s := by
    cases s with
    | nil => rfl
    | cons c s => simp [h c (by simp)]
  rw [trim, hdrop, List.rdropWhile_eq_self_iff]
  intro hne
  simp [h _ (List.getLast_mem hne)]

theorem trim_sublist (s : Text) : (trim s).Sublist s :=
  (List.rdropWhile_prefix _ _).sublist.trans (List.dropWhile_suffix _).sublist

theorem trim_trim (s : Text) : trim (trim s) = trim s := by
  by_cases h : trim s = []
  · rw [h]
    rfl
  · obtain ⟨c, rest, hcons, hc⟩ := trim_head h
    have hidem : (trim s).rdropWhile isSpace = trim s := List.rdropWhile_idempotent _ _
    rw [hcons] at hidem ⊢
    rw [trim_of_head hc, hidem]

theorem trim_rdropWhile (s : Text) : trim (s.rdropWhile isSpace) = trim s := by
  by_cases h : trim s = []
  · have hall : ∀ c ∈ s, isSpace c = true := by
      intro c hc
      rw [← List.takeWhile_append_dropWhile (p := isSpace) (l := s)] at hc
      rcases List.mem_append.mp hc with hmem | hmem
      · exact List.mem_takeWhile_imp hmem
      · exact List.rdropWhile_eq_nil_iff.mp h c hmem
    rw [h, List.rdropWhile_eq_nil_iff.mpr hall]
    rfl
  · have hsplit : s.rdropWhile isSpace =
        s.takeWhile isSpace ++ (s.dropWhile isSpace).rdropWhile isSpace := by
      conv_lhs => rw [← List.takeWhile_append_dropWhile (p := isSpace) (l := s)]
      exact rdropWhile_append_of_ne h
    rw [hsplit, trim_append_of_space fun c hc => List.mem_takeWhile_imp hc]
    exact trim_trim s

theorem rdropWhile_keeps {d : Char} (hd : isSpace d = false) (front tail : Text) :
    (front ++ [d]).length ≤ ((front ++ [d] ++ tail).rdropWhile isSpace).length := by
  induction tail using List.reverseRecOn with
  | nil =>
    rw [List.append_nil, List.rdropWhile_concat_neg _ _ _ (by simp [hd])]
  | append_singleton tail e ih =>
    rw [← List.append_assoc, List.rdropWhile_concat]
    split
    · exact ih
    · simp only [List.length_append]
      omega

end Trim

section Unquote

@[simp] theorem trim_quote (message : Text) : trim (quote message) = quote message :=
  trim_of_ends (by decide) (by decide) message

theorem unquote_trim (s : Text) : unquote (trim s) = unquote s := by
  simp only [unquote, trim_trim]

theorem quote_getLast? (message : Text) : (quote message).getLast? = some '"' := by
  rw [quote, ← List.cons_append, List.getLast?_concat]

@[simp] theorem unquote_quote (message : Text) : unquote (quote message) = message := by
  rw [unquote, trim_quote]
  simp only [quote_getLast?]
  simp [quote]

theorem unquote_cases (s : Text) :
    unquote s = trim s ∨ (unquote s).length + 2 = (trim s).length := by
  simp only [unquote]
  split
  · next h =>
    right
    simp only [List.length_dropLast, List.length_tail]
    omega
  · exact .inl rfl

theorem unquote_length (s : Text) : (trim s).length ≤ (unquote s).length + 2 := by
  rcases unquote_cases s with hplain | hstripped
  · rw [hplain]
    omega
  · omega

end Unquote

section Quote

variable {separator : Char} {name : Text} {names : List Text}

section Inside

variable {q : Char}

theorem isQuote_cases (hq : isQuote q = true) : q = '"' ∨ q = '\'' := by
  simpa [isQuote] using hq

theorem quoteNext_inside (h : q ∉ name) : name.foldl quoteNext (some q) = some q := by
  induction name with
  | nil => rfl
  | cons c name ih =>
    have hc : c ≠ q := fun hc => h (by simp [hc])
    rw [List.foldl_cons, quoteNext, if_neg hc]
    exact ih fun hmem => h (by simp [hmem])

theorem quoteAfter_quoted (hq : isQuote q = true) (h : q ∉ name) :
    quoteAfter (q :: (name ++ [q])) = none := by
  have hopen : quoteNext none q = some q := if_pos hq
  simp only [quoteAfter, List.foldl_cons, List.foldl_append, hopen, quoteNext_inside h]
  exact if_pos rfl

theorem whole_inside (h : q ∉ name) (rest : Text) :
    (quoting separator).whole (some q) (name ++ q :: rest) =
      (quoting separator).whole none rest := by
  induction name with
  | nil => simp [Scanner.whole, quoting, quoteNext]
  | cons c name ih =>
    have hc : c ≠ q := fun hc => h (by simp [hc])
    have hnext : (quoting separator).next (some q) c = some q := by
      simp [quoting, quoteNext, hc]
    rw [List.cons_append, Scanner.whole, hnext, ih fun hmem => h (by simp [hmem])]
    simp [quoting]

theorem whole_quoted (hq : isQuote q = true) (h : q ∉ name) :
    Whole separator (q :: (name ++ [q])) := by
  have hcut : (quoting separator).cut none q = false := by simp [quoting, hq]
  have hnext : (quoting separator).next none q = some q := if_pos hq
  rw [Whole, Scanner.whole, hcut, hnext, whole_inside h]
  rfl

theorem isSpace_of_isQuote (hq : isQuote q = true) : isSpace q = false := by
  rcases isQuote_cases hq with rfl | rfl
  · rfl
  · rfl

theorem trim_quoted (hq : isQuote q = true) (name : Text) :
    trim (q :: (name ++ [q])) = q :: (name ++ [q]) :=
  trim_of_ends (isSpace_of_isQuote hq) (isSpace_of_isQuote hq) name

theorem unquote_quoted (hq : isQuote q = true) (name : Text) :
    unquote (q :: (name ++ [q])) = name := by
  have hlast : (q :: (name ++ [q])).getLast? = some q := by
    rw [← List.cons_append, List.getLast?_concat]
  have hhead : some q = some '"' ∨ some q = some '\'' :=
    (isQuote_cases hq).imp (congrArg some) (congrArg some)
  rw [unquote, trim_quoted hq, hlast, List.head?_cons, if_pos ⟨by simp, hhead, rfl⟩]
  simp

end Inside

theorem quoteAfter_quote (h : '"' ∉ name) : quoteAfter (quote name) = none :=
  quoteAfter_quoted rfl h

theorem whole_quote (h : '"' ∉ name) : Whole separator (quote name) := whole_quoted rfl h

theorem quoteJoin_cons (name : Text) (h : names ≠ []) :
    quoteJoin (name :: names) = quote name ++ ',' :: quoteJoin names := by
  obtain ⟨next, names, rfl⟩ := List.exists_cons_of_ne_nil h
  simp [quoteJoin, join_cons]

theorem quoteJoin_closed (hcomma : separator ≠ ',')
    (h : ∀ name ∈ names, Whole separator (quote name) ∧ quoteAfter (quote name) = none) :
    Whole separator (quoteJoin names) ∧ quoteAfter (quoteJoin names) = none := by
  induction names with
  | nil => exact ⟨rfl, rfl⟩
  | cons name names ih =>
    obtain ⟨hwhole, hclosed⟩ := h name (by simp)
    by_cases hne : names = []
    · subst hne
      have hsingle : quoteJoin [name] = quote name := by simp [quoteJoin, join]
      rw [hsingle]
      exact ⟨hwhole, hclosed⟩
    · obtain ⟨hrest, hlast⟩ := ih fun other hother => h other (by simp [hother])
      have hsingle : Whole separator [','] := by
        simp [Whole, Scanner.whole, quoting, Ne.symm hcomma]
      have hlist : Whole separator ([','] ++ quoteJoin names) :=
        (Whole.append_iff rfl).mpr ⟨hsingle, hrest⟩
      rw [quoteJoin_cons name hne]
      refine ⟨(Whole.append_iff hclosed).mpr ⟨hwhole, hlist⟩, ?_⟩
      rw [quoteAfter_append, hclosed]
      exact hlast

theorem quoteJoin_quoting (hcomma : separator ≠ ',') (h : ∀ name ∈ names, '"' ∉ name) :
    Whole separator (quoteJoin names) ∧ quoteAfter (quoteJoin names) = none :=
  quoteJoin_closed hcomma fun name hname =>
    ⟨whole_quote (h name hname), quoteAfter_quote (h name hname)⟩

theorem splitUnquoted_closed (hne : names ≠ [])
    (h : ∀ name ∈ names, Whole ',' (quote name) ∧ quoteAfter (quote name) = none) :
    splitUnquoted (quoteJoin names) ',' = names.map quote := by
  refine splitUnquoted_join (by decide) (by simpa using hne) ?_ ?_
  · intro piece hpiece
    obtain ⟨name, hname, rfl⟩ := List.mem_map.mp hpiece
    exact (h name hname).1
  · intro piece hpiece
    obtain ⟨name, hname, rfl⟩ := List.mem_map.mp ((List.dropLast_sublist _).subset hpiece)
    exact (h name hname).2

theorem splitUnquoted_quoteJoin (hne : names ≠ []) (h : ∀ name ∈ names, '"' ∉ name) :
    splitUnquoted (quoteJoin names) ',' = names.map quote :=
  splitUnquoted_closed hne fun name hname =>
    ⟨whole_quote (h name hname), quoteAfter_quote (h name hname)⟩

theorem quoteJoin_ends (hne : names ≠ []) : ∃ inner, quoteJoin names = quote inner := by
  induction names with
  | nil => exact absurd rfl hne
  | cons name names ih =>
    by_cases hnil : names = []
    · exact ⟨name, by simp [hnil, quoteJoin, join]⟩
    · obtain ⟨inner, hinner⟩ := ih hnil
      refine ⟨name ++ "\",\"" ++ inner, ?_⟩
      rw [quoteJoin_cons name hnil, hinner]
      simp only [quote, List.cons_append, List.append_assoc]
      rfl

theorem trim_quoteJoin (hne : names ≠ []) : trim (quoteJoin names) = quoteJoin names := by
  obtain ⟨inner, hinner⟩ := quoteJoin_ends hne
  rw [hinner, trim_quote]

theorem notMem_quoteJoin {c : Char} (hquote : c ≠ '"') (hcomma : c ≠ ',')
    (h : ∀ name ∈ names, c ∉ name) : c ∉ quoteJoin names := by
  induction names with
  | nil => simp [quoteJoin, join]
  | cons name names ih =>
    have hname : c ∉ quote name := by simp [quote, hquote, h name (by simp)]
    by_cases hne : names = []
    · subst hne
      simpa [quoteJoin, join] using hname
    · rw [quoteJoin_cons name hne]
      simp [hname, hcomma, ih fun other hother => h other (by simp [hother])]

end Quote

end Norma
