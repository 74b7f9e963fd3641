import Norma.Compound
import Mathlib.Data.List.Forall2

namespace Norma

open ErrorCode

def nodesOf (previous : List Text) (header : Text) : List Text :=
  match header with
  | ':' :: rest => splitUnquoted rest ':'
  | _ => previous.dropLast ++ splitUnquoted header ':'

def pathText (previous : List Text) : Text := ':' :: previous.dropLast.flatMap (· ++ [':'])

def expandPiece (previous : List Text) (piece : Text) : Text :=
  piece.takeWhile isSpace ++ pathText previous ++ piece.dropWhile isSpace

-- `previous` holds the nodes of the last tree command; it is empty before the first one.
def expandPieces (previous : List Text) : List Text → List Text
  | [] => []
  | piece :: pieces =>
      let text := trim piece
      if text = [] ∨ text.head? = some '*' then piece :: expandPieces previous pieces
      else
        (if text.head? = some ':' ∨ previous = [] then piece else expandPiece previous piece) ::
          expandPieces (nodesOf previous (parseCommand text).header) pieces

def expandLine (line : Text) : Text := join ';' (expandPieces [] (splitUnquoted line ';'))

def tokensOf (path : List Token) (text : Text) : List Token :=
  let p := parseCommand text
  if p.header.head? = some '*' then [⟨upper p.header, 0, false⟩] else headerTokens path p.header

def matchedOf (path : List Token) (text : Text) : Option (Text × List Int) :=
  let p := parseCommand text
  if p.header.head? = some '*' then some (upper p.header, [])
  else (findCommand (headerTokens path p.header)).map fun (key, suffixes) => (key.text, suffixes)

theorem tokensOf_tree {text : Text} (h : (parseCommand text).header.head? ≠ some '*')
    (path : List Token) : tokensOf path text = headerTokens path (parseCommand text).header :=
  if_neg h

theorem matchedOf_tree {text : Text} (h : (parseCommand text).header.head? ≠ some '*')
    (path : List Token) :
    matchedOf path text = (findCommand (headerTokens path (parseCommand text).header)).map
      fun (key, suffixes) => (key.text, suffixes) :=
  if_neg h

def SameUpToMessage (s t : NormaSimulator) : Prop :=
  t = s ∨ ∃ (sim : NormaSimulator) (text text' : Text),
    s = sim.pushError kUndefinedHeader ("Undefined header;" ++ text) ∧
      t = sim.pushError kUndefinedHeader ("Undefined header;" ++ text')

structure Step.Alike (s t : Step) : Prop where
  before : t.before = s.before
  path : t.path = s.path
  tokens : tokensOf t.path t.text = tokensOf s.path s.text
  matched : matchedOf t.path t.text = matchedOf s.path s.text
  query : t.isQuery = s.isQuery
  args : (parseCommand t.text).args = (parseCommand s.text).args
  response : t.after.response = s.after.response
  stop : t.after.stop = s.after.stop
  afterPath : t.after.path = s.after.path
  sim : SameUpToMessage s.after.sim t.after.sim

structure PlainNode (node : Text) : Prop where
  unquoted : Unquoted node
  space : Spaceless node
  colon : ':' ∉ node
  semicolon : ';' ∉ node

section Header

variable {text : Text}

theorem splitHeader_front (quote : Option Char) (text : Text) :
    (splitHeader quote text).1 <+: text := by
  induction text generalizing quote with
  | nil => cases quote <;> exact List.nil_prefix
  | cons c text ih =>
    cases quote with
    | some q => exact List.cons_prefix_cons.mpr ⟨rfl, ih _⟩
    | none =>
      simp only [splitHeader]
      split
      · exact List.cons_prefix_cons.mpr ⟨rfl, ih _⟩
      · split
        · exact List.nil_prefix
        · exact List.cons_prefix_cons.mpr ⟨rfl, ih _⟩

theorem splitHeader_plain (h : Unquoted (splitHeader none text).1) :
    Spaceless (splitHeader none text).1 := by
  induction text with
  | nil => simp [splitHeader, Spaceless]
  | cons c text ih =>
    by_cases hquote : isQuote c = true
    · have := h c (by simp [splitHeader, hquote])
      simp [hquote] at this
    · by_cases hspace : isSpace c = true
      · simp [splitHeader, hquote, hspace, Spaceless]
      · simp only [Bool.not_eq_true] at hquote hspace
        rw [splitHeader_cons hquote hspace] at h ⊢
        intro d hd
        rcases List.mem_cons.mp hd with rfl | hmem
        · exact hspace
        · exact ih (fun e he => h e (List.mem_cons_of_mem _ he)) d hmem

theorem splitHeader_append {front : Text} (hunquoted : Unquoted front)
    (hspace : Spaceless front) (text : Text) :
    splitHeader none (front ++ text) =
      (front ++ (splitHeader none text).1, (splitHeader none text).2) := by
  induction front with
  | nil => rfl
  | cons c front ih =>
    have hrest := ih (fun d hd => hunquoted d (by simp [hd])) fun d hd => hspace d (by simp [hd])
    rw [List.cons_append, splitHeader_cons (hunquoted c (by simp)) (hspace c (by simp)), hrest]
    rfl

theorem splitHeader_ne_nil (h : trim text ≠ []) : (splitHeader none (trim text)).1 ≠ [] := by
  obtain ⟨c, rest, hcons, hspace⟩ := trim_head h
  rw [hcons]
  by_cases hquote : isQuote c = true
  · simp [splitHeader, hquote]
  · simp [splitHeader, hquote, hspace]

theorem parseCommand_append {front : Text} (hunquoted : Unquoted front)
    (hspace : Spaceless front) (h : (splitHeader none text).1 ≠ []) :
    parseCommand (front ++ text) =
      { parseCommand text with header := front ++ (parseCommand text).header } := by
  obtain ⟨c, hlast⟩ := List.getLast?_isSome.mpr h |> Option.isSome_iff_exists.mp
  simp only [parseCommand, splitHeader_append hunquoted hspace, List.getLast?_append, hlast,
    Option.some_or, List.dropLast_append_of_ne_nil h]
  split <;> rfl

theorem header_subset : ∀ c ∈ (parseCommand text).header, c ∈ (splitHeader none text).1 := by
  intro c hc
  simp only [parseCommand] at hc
  split at hc
  · exact (List.dropLast_sublist _).subset hc
  · exact hc

theorem raw_subset : ∀ c ∈ (splitHeader none text).1, c ∈ (parseCommand text).header ∨ c = '?' := by
  intro c hc
  simp only [parseCommand]
  split
  · next hlast =>
    obtain ⟨front, hfront⟩ := List.getLast?_eq_some_iff.mp hlast
    rw [hfront] at hc ⊢
    simpa using hc
  · exact .inl hc

theorem raw_unquoted (h : Unquoted (parseCommand text).header) :
    Unquoted (splitHeader none text).1 := by
  intro c hc
  rcases raw_subset c hc with hmem | rfl
  · exact h c hmem
  · rfl

end Header

section Nodes

variable {previous : List Text} {piece : Text}

theorem lead_unquoted (piece : Text) : Unquoted (piece.takeWhile isSpace) := by
  intro c hc
  have hspace := List.mem_takeWhile_imp hc
  by_contra hquote
  simp only [Bool.not_eq_false, isQuote, Bool.or_eq_true, beq_iff_eq] at hquote
  rcases hquote with rfl | rfl <;> simp [isSpace] at hspace

theorem whole_header (hwhole : Whole ';' piece)
    (hunquoted : Unquoted (splitHeader none (trim piece)).1) :
    ';' ∉ (splitHeader none (trim piece)).1 := by
  have hlead := lead_unquoted piece
  obtain ⟨rest, hrest⟩ := (splitHeader_front none (trim piece)).trans
    (List.rdropWhile_prefix isSpace (piece.dropWhile isSpace))
  have hpiece : piece.takeWhile isSpace ++ ((splitHeader none (trim piece)).1 ++ rest) = piece := by
    rw [hrest, List.takeWhile_append_dropWhile]
  rw [← hpiece, Whole.append_iff hlead.quoteAfter] at hwhole
  have hraw := ((Whole.append_iff hunquoted.quoteAfter).mp hwhole.2).1
  exact hunquoted.whole_iff.mp hraw

theorem splitUnquoted_plain {text : Text} (hunquoted : Unquoted text)
    (hspace : Spaceless text) (hsemicolon : ';' ∉ text) :
    ∀ node ∈ splitUnquoted text ':', PlainNode node := by
  intro node hnode
  have hmem := mem_of_mem_splitUnquoted hnode
  have hplain : Unquoted node := fun c hc => hunquoted c (hmem c hc)
  exact
    { unquoted := hplain
      space := fun c hc => hspace c (hmem c hc)
      colon := hplain.whole_iff.mp (whole_of_mem_splitUnquoted (by decide) hnode)
      semicolon := fun hc => hsemicolon (hmem _ hc) }

theorem nodesOf_plain (hprevious : ∀ node ∈ previous, PlainNode node) (hwhole : Whole ';' piece)
    (hunquoted : Unquoted (parseCommand (trim piece)).header) :
    ∀ node ∈ nodesOf previous (parseCommand (trim piece)).header, PlainNode node := by
  have hraw := raw_unquoted hunquoted
  have hspace : Spaceless (parseCommand (trim piece)).header :=
    fun c hc => splitHeader_plain hraw c (header_subset c hc)
  have hsemicolon : ';' ∉ (parseCommand (trim piece)).header :=
    fun hc => whole_header hwhole hraw (header_subset _ hc)
  generalize (parseCommand (trim piece)).header = header at *
  unfold nodesOf
  split
  · next rest =>
    exact splitUnquoted_plain (fun c hc => hunquoted c (by simp [hc]))
      (fun c hc => hspace c (by simp [hc])) fun hc => hsemicolon (by simp [hc])
  · intro node hnode
    rcases List.mem_append.mp hnode with hmem | hmem
    · exact hprevious node ((List.dropLast_sublist _).subset hmem)
    · exact splitUnquoted_plain hunquoted hspace hsemicolon node hmem

theorem headerTokens_eq (previous : List Text) (header : Text) :
    headerTokens (previous.dropLast.map makeToken) header =
      (nodesOf previous header).map makeToken := by
  unfold headerTokens nodesOf
  split <;> simp

theorem headerTokens_pathText (hprevious : ∀ node ∈ previous, PlainNode node) {header : Text}
    (hrelative : header.head? ≠ some ':') (path : List Token) :
    headerTokens path (pathText previous ++ header) = (nodesOf previous header).map makeToken := by
  have hdrop (node : Text) (h : node ∈ previous.dropLast) : PlainNode node :=
    hprevious node ((List.dropLast_sublist _).subset h)
  have hnodes : nodesOf previous header = previous.dropLast ++ splitUnquoted header ':' := by
    unfold nodesOf
    split
    · simp at hrelative
    · rfl
  simp only [pathText, List.cons_append, headerTokens, hnodes]
  rw [splitUnquoted_nodes (fun n hn => (hdrop n hn).unquoted) fun n hn => (hdrop n hn).colon]

theorem pathText_unquoted (hprevious : ∀ node ∈ previous, PlainNode node) :
    Unquoted (pathText previous) := by
  intro c hc
  simp only [pathText, List.mem_cons, List.mem_flatMap, List.mem_append, List.not_mem_nil,
    or_false] at hc
  rcases hc with rfl | ⟨node, hnode, hmem | rfl⟩
  · rfl
  · exact (hprevious node ((List.dropLast_sublist _).subset hnode)).unquoted c hmem
  · rfl

theorem pathText_space (hprevious : ∀ node ∈ previous, PlainNode node) :
    Spaceless (pathText previous) := by
  intro c hc
  simp only [pathText, List.mem_cons, List.mem_flatMap, List.mem_append, List.not_mem_nil,
    or_false] at hc
  rcases hc with rfl | ⟨node, hnode, hmem | rfl⟩
  · rfl
  · exact (hprevious node ((List.dropLast_sublist _).subset hnode)).space c hmem
  · rfl

theorem pathText_semicolon (hprevious : ∀ node ∈ previous, PlainNode node) :
    ';' ∉ pathText previous := by
  intro hc
  simp only [pathText, List.mem_cons, List.mem_flatMap, List.mem_append, List.not_mem_nil,
    or_false, Char.reduceEq, false_or] at hc
  obtain ⟨node, hnode, hmem⟩ := hc
  exact (hprevious node ((List.dropLast_sublist _).subset hnode)).semicolon hmem

theorem trim_expandPiece (previous : List Text) (hpiece : trim piece ≠ []) :
    trim (expandPiece previous piece) = pathText previous ++ trim piece := by
  have hlead : ∀ c ∈ piece.takeWhile isSpace, isSpace c = true := fun c hc =>
    List.mem_takeWhile_imp hc
  rw [expandPiece, List.append_assoc, trim_append_of_space hlead, pathText, List.cons_append,
    trim_of_head (by decide), ← List.cons_append, rdropWhile_append_of_ne hpiece]
  rfl

end Nodes

structure Outcome.Alike (o o' : Outcome) : Prop where
  path : o'.path = o.path
  response : o'.response = o.response
  stop : o'.stop = o.stop
  sim : SameUpToMessage o.sim o'.sim
  going : o.stop = false → o'.sim = o.sim

theorem Outcome.Alike.refl (o : Outcome) : o.Alike o := ⟨rfl, rfl, rfl, .inl rfl, fun _ => rfl⟩

theorem undefinedHeader_alike (sim : NormaSimulator) (path : List Token) (text text' : Text) :
    (undefinedHeader sim path text).Alike (undefinedHeader sim path text') where
  path := rfl
  response := rfl
  stop := rfl
  sim := .inr ⟨sim, text, text', rfl, rfl⟩
  going h := by simp [undefinedHeader] at h

theorem handleTree_alike (sim : NormaSimulator) {path : List Token} {p p' : Parsed}
    (htokens : headerTokens path p'.header = headerTokens path p.header)
    (hquery : p'.query = p.query) (hargs : p'.args = p.args) (text text' : Text) :
    Option.Rel Outcome.Alike (handleTree sim path text p) (handleTree sim path text' p') := by
  have hcommand (tokens : List Token) (key : Text) (suffixes : List Int) :
      p'.command tokens key suffixes = p.command tokens key suffixes := by
    simp [Parsed.command, hquery, hargs]
  simp only [handleTree, htokens, hcommand]
  split
  · exact .some (undefinedHeader_alike sim _ text text')
  · cases execute _ _ with
    | none => exact .none
    | some a => exact .some (.refl _)

theorem handleTree_path {sim : NormaSimulator} {path : List Token} {text : Text} {p : Parsed}
    {out : Outcome} (h : handleTree sim path text p = some out) :
    out.path = (headerTokens path p.header).dropLast := by
  simp only [handleTree] at h
  split at h
  · obtain rfl := Option.some.inj h
    rfl
  · obtain ⟨a, -, rfl⟩ := Option.map_eq_some_iff.mp h
    rfl

theorem header_front (text : Text) : (parseCommand text).header <+: text := by
  refine List.IsPrefix.trans ?_ (splitHeader_front none text)
  simp only [parseCommand]
  split
  · exact List.dropLast_prefix _
  · exact List.prefix_refl _

theorem head_of_header {text : Text} {c : Char} (h : (parseCommand text).header.head? = some c) :
    text.head? = some c := by
  obtain ⟨rest, hrest⟩ := List.head?_eq_some_iff.mp h
  obtain ⟨tail, htail⟩ := header_front text
  rw [← htail, hrest]
  rfl

section Expand

variable {sim : NormaSimulator} {path : List Token}

theorem executed_cons_alike {piece piece' : Text} {pieces pieces' : List Text}
    (hpiece : trim piece ≠ []) (hpiece' : trim piece' ≠ [])
    (hcommand : Option.Rel Outcome.Alike (handleCommand sim path (trim piece))
      (handleCommand sim path (trim piece')))
    (hstep : ∀ out out' : Outcome, out.Alike out' →
      Step.Alike ⟨sim, path, trim piece, out⟩ ⟨sim, path, trim piece', out'⟩)
    (hrest : ∀ out, handleCommand sim path (trim piece) = some out → out.stop = false →
      Option.Rel (List.Forall₂ Step.Alike) (executed out.sim out.path pieces)
        (executed out.sim out.path pieces')) :
    Option.Rel (List.Forall₂ Step.Alike) (executed sim path (piece :: pieces))
      (executed sim path (piece' :: pieces')) := by
  simp only [executed, if_neg hpiece, if_neg hpiece']
  generalize handleCommand sim path (trim piece) = first at hcommand hrest
  generalize handleCommand sim path (trim piece') = second at hcommand
  cases hcommand with
  | none => exact .none
  | @some out out' halike =>
    dsimp only
    rw [halike.stop]
    cases hstop : out.stop with
    | true => exact .some (.cons (hstep out out' halike) .nil)
    | false =>
      have htail := hrest out rfl hstop
      simp only [Bool.false_eq_true, if_false, halike.going hstop, halike.path]
      generalize executed out.sim out.path pieces = steps at htail
      generalize executed out.sim out.path pieces' = steps' at htail
      cases htail with
      | none => exact .none
      | some hsteps => exact .some (.cons (hstep out out' halike) hsteps)

theorem stepAlike_refl (text : Text) (out out' : Outcome) (h : out.Alike out') :
    Step.Alike ⟨sim, path, text, out⟩ ⟨sim, path, text, out'⟩ :=
  ⟨rfl, rfl, rfl, rfl, rfl, rfl, h.response, h.stop, h.path, h.sim⟩

theorem executed_cons_same {piece : Text} {pieces pieces' : List Text} (hpiece : trim piece ≠ [])
    (hrest : ∀ out, handleCommand sim path (trim piece) = some out → out.stop = false →
      Option.Rel (List.Forall₂ Step.Alike) (executed out.sim out.path pieces)
        (executed out.sim out.path pieces')) :
    Option.Rel (List.Forall₂ Step.Alike) (executed sim path (piece :: pieces))
      (executed sim path (piece :: pieces')) := by
  refine executed_cons_alike hpiece hpiece ?_ (stepAlike_refl _) hrest
  cases handleCommand sim path (trim piece) with
  | none => exact .none
  | some out => exact .some (.refl out)

theorem handleCommand_tree {text : Text} (hstar : text.head? ≠ some '*') :
    handleCommand sim path text = handleTree sim path text (parseCommand text) := by
  have hhead : (parseCommand text).header.head? ≠ some '*' := fun h => hstar (head_of_header h)
  simp [handleCommand, hhead]

theorem star_path {text : Text} (hstar : text.head? = some '*') {out : Outcome}
    (h : handleCommand sim path text = some out) : out.path = path := by
  have hhead := parseCommand_of_head (by decide) (by decide) (by decide) hstar
  simp only [handleCommand, hhead, if_true] at h
  rw [handleStar_path sim path path] at h
  obtain ⟨out', -, rfl⟩ := Option.map_eq_some_iff.mp h
  rfl

theorem executed_expand (sim : NormaSimulator) {previous pieces : List Text}
    (hprevious : ∀ node ∈ previous, PlainNode node)
    (hwhole : ∀ piece ∈ pieces, Whole ';' piece)
    (hunquoted : ∀ piece ∈ pieces, Unquoted (parseCommand (trim piece)).header) :
    Option.Rel (List.Forall₂ Step.Alike)
      (executed sim (previous.dropLast.map makeToken) pieces)
      (executed sim (previous.dropLast.map makeToken) (expandPieces previous pieces)) := by
  induction pieces generalizing sim previous with
  | nil => exact .some .nil
  | cons piece pieces ih =>
    have hpieces (p : Text) (hp : p ∈ pieces) : Whole ';' p := hwhole p (by simp [hp])
    have hheaders (p : Text) (hp : p ∈ pieces) : Unquoted (parseCommand (trim p)).header :=
      hunquoted p (by simp [hp])
    simp only [expandPieces]
    by_cases hblank : trim piece = []
    · simpa [executed, hblank] using ih sim hprevious hpieces hheaders
    · by_cases hstar : (trim piece).head? = some '*'
      · rw [if_pos (.inr hstar)]
        refine executed_cons_same hblank fun out hout _ => ?_
        rw [star_path hstar hout]
        exact ih out.sim hprevious hpieces hheaders
      · rw [if_neg (by simp [hblank, hstar])]
        have hnodes := nodesOf_plain hprevious (hwhole piece (by simp)) (hunquoted piece (by simp))
        have hrest (out : Outcome) (hout : handleCommand sim (previous.dropLast.map makeToken)
            (trim piece) = some out) :
            out.path = (nodesOf previous (parseCommand (trim piece)).header).dropLast.map
              makeToken := by
          rw [handleCommand_tree hstar] at hout
          rw [handleTree_path hout, headerTokens_eq, List.map_dropLast]
        by_cases hkept : (trim piece).head? = some ':' ∨ previous = []
        · rw [if_pos hkept]
          refine executed_cons_same hblank fun out hout _ => ?_
          rw [hrest out hout]
          exact ih out.sim hnodes hpieces hheaders
        · rw [if_neg hkept]
          obtain ⟨hcolon, -⟩ := not_or.mp hkept
          have hfront := pathText_unquoted hprevious
          have hspace := pathText_space hprevious
          have hparse := parseCommand_append hfront hspace (splitHeader_ne_nil hblank)
          have htrim := trim_expandPiece previous hblank
          have hcolon' : (parseCommand (trim piece)).header.head? ≠ some ':' :=
            fun h => hcolon (head_of_header h)
          have htokens (path : List Token) := headerTokens_pathText hprevious hcolon' path
          have hstar' : (parseCommand (trim piece)).header.head? ≠ some '*' :=
            fun h => hstar (head_of_header h)
          have hsame : headerTokens (previous.dropLast.map makeToken)
              (parseCommand (pathText previous ++ trim piece)).header =
                headerTokens (previous.dropLast.map makeToken)
                  (parseCommand (trim piece)).header := by
            rw [hparse, htokens, headerTokens_eq]
          have hhead : (pathText previous ++ trim piece).head? = some ':' := rfl
          have hhead' : (parseCommand (pathText previous ++ trim piece)).header.head? = some ':' :=
            parseCommand_of_head (by decide) (by decide) (by decide) hhead
          refine executed_cons_alike hblank (by simp [htrim, pathText]) ?_ ?_ ?_
          · rw [htrim, handleCommand_tree hstar, handleCommand_tree (by simp [hhead])]
            exact handleTree_alike sim hsame (by rw [hparse]) (by rw [hparse]) _ _
          · intro out out' halike
            rw [htrim]
            refine ⟨rfl, rfl, ?_, ?_, ?_, ?_, halike.response, halike.stop, halike.path,
              halike.sim⟩
            · exact (tokensOf_tree (by simp [hhead']) _).trans
                (hsame.trans (tokensOf_tree hstar' _).symm)
            · refine (matchedOf_tree (by simp [hhead']) _).trans ?_
              rw [hsame]
              exact (matchedOf_tree hstar' _).symm
            · simp [Step.isQuery, hparse]
            · simp [hparse]
          · intro out hout _
            rw [hrest out hout]
            exact ih out.sim hnodes hpieces hheaders

end Expand

section Line

variable {line : Text}

theorem expandPiece_quoteAfter {previous : List Text}
    (hprevious : ∀ node ∈ previous, PlainNode node) (piece : Text) :
    quoteAfter (expandPiece previous piece) = quoteAfter piece := by
  have hpiece : piece.takeWhile isSpace ++ piece.dropWhile isSpace = piece :=
    List.takeWhile_append_dropWhile
  conv_rhs => rw [← hpiece]
  have hlead := (lead_unquoted piece).quoteAfter
  have hfront : (pathText previous).foldl quoteNext none = none :=
    (pathText_unquoted hprevious).quoteAfter
  simp only [expandPiece, quoteAfter_append, hlead, hfront]

theorem expandPiece_whole {previous : List Text}
    (hprevious : ∀ node ∈ previous, PlainNode node) {piece : Text} (h : Whole ';' piece) :
    Whole ';' (expandPiece previous piece) := by
  have hlead := (lead_unquoted piece).quoteAfter
  have hfront := pathText_unquoted hprevious
  have hpiece : piece.takeWhile isSpace ++ piece.dropWhile isSpace = piece :=
    List.takeWhile_append_dropWhile
  rw [← hpiece, Whole.append_iff hlead] at h
  rw [expandPiece, List.append_assoc, Whole.append_iff hlead, Whole.append_iff hfront.quoteAfter]
  exact ⟨h.1, hfront.whole_iff.mpr (pathText_semicolon hprevious), h.2⟩

theorem expandPieces_quoting {previous pieces : List Text}
    (hprevious : ∀ node ∈ previous, PlainNode node)
    (hwhole : ∀ piece ∈ pieces, Whole ';' piece)
    (hunquoted : ∀ piece ∈ pieces, Unquoted (parseCommand (trim piece)).header) :
    List.Forall₂ (fun piece piece' => quoteAfter piece' = quoteAfter piece ∧ Whole ';' piece')
      pieces (expandPieces previous pieces) := by
  induction pieces generalizing previous with
  | nil => exact .nil
  | cons piece pieces ih =>
    have hpiece := hwhole piece (by simp)
    have hpieces (p : Text) (hp : p ∈ pieces) : Whole ';' p := hwhole p (by simp [hp])
    have hheaders (p : Text) (hp : p ∈ pieces) : Unquoted (parseCommand (trim p)).header :=
      hunquoted p (by simp [hp])
    have hnodes := nodesOf_plain hprevious hpiece (hunquoted piece (by simp))
    simp only [expandPieces]
    split
    · exact .cons ⟨rfl, hpiece⟩ (ih hprevious hpieces hheaders)
    · refine .cons ?_ (ih hnodes hpieces hheaders)
      split
      · exact ⟨rfl, hpiece⟩
      · exact ⟨expandPiece_quoteAfter hprevious piece, expandPiece_whole hprevious hpiece⟩

theorem headers_of_commands
    (h : ∀ command ∈ commandsOf line, Unquoted (parseCommand command).header) :
    ∀ piece ∈ splitUnquoted line ';', Unquoted (parseCommand (trim piece)).header := by
  intro piece hpiece
  by_cases hblank : trim piece = []
  · rw [hblank]
    intro c hc
    simp [parseCommand, splitHeader] at hc
  · exact h (trim piece) (by simpa [commandsOf, hblank] using ⟨piece, hpiece, rfl⟩)

theorem splitUnquoted_expandLine
    (h : ∀ command ∈ commandsOf line, Unquoted (parseCommand command).header) :
    splitUnquoted (expandLine line) ';' = expandPieces [] (splitUnquoted line ';') := by
  have hnone : ∀ node ∈ ([] : List Text), PlainNode node := by simp
  have hquoting := expandPieces_quoting hnone
    (fun piece => whole_of_mem_splitUnquoted (by decide)) (headers_of_commands h)
  have hlength := hquoting.length_eq
  refine splitUnquoted_join (by decide) ?_ ?_ ?_
  · rw [← List.length_pos_iff, ← hlength]
    exact List.length_pos_iff.mpr (splitUnquoted_ne_nil line ';')
  · intro piece' hpiece'
    obtain ⟨i, hi, rfl⟩ := List.getElem_of_mem hpiece'
    exact (hquoting.get (by omega) hi).2
  · intro piece' hpiece'
    rw [List.dropLast_eq_take] at hpiece'
    have htake := List.forall₂_take ((splitUnquoted line ';').length - 1) hquoting
    rw [← hlength] at hpiece'
    obtain ⟨i, hi, rfl⟩ := List.getElem_of_mem hpiece'
    have hlength' := htake.length_eq
    have hi' : i < ((splitUnquoted line ';').take ((splitUnquoted line ';').length - 1)).length := by
      omega
    have hclosed := (htake.get hi' hi).1
    simp only [List.get_eq_getElem] at hclosed
    rw [hclosed]
    have hsep : isQuote ';' = false := by decide
    refine closed_of_mem_splitUnquoted hsep (?_ : _ ∈ (splitUnquoted line ';').dropLast)
    rw [List.dropLast_eq_take]
    exact List.getElem_mem hi'

theorem finalSim_alike {sim sim' : NormaSimulator} {steps steps' : List Step}
    (hsim : SameUpToMessage sim sim') (h : List.Forall₂ Step.Alike steps steps') :
    SameUpToMessage (finalSim sim steps) (finalSim sim' steps') := by
  induction h generalizing sim sim' with
  | nil => exact hsim
  | cons hstep _ ih =>
    rw [finalSim_cons, finalSim_cons]
    exact ih hstep.sim

theorem responsesOf_alike {steps steps' : List Step} (h : List.Forall₂ Step.Alike steps steps') :
    responsesOf steps' = responsesOf steps := by
  induction h with
  | nil => rfl
  | cons hstep _ ih => rw [responsesOf_cons, responsesOf_cons, ih, hstep.response]

theorem handleLine_expandLine (sim : NormaSimulator)
    (h : ∀ command ∈ commandsOf line, Unquoted (parseCommand command).header) :
    Option.Rel (List.Forall₂ Step.Alike) (executed sim [] (splitUnquoted line ';'))
        (executed sim [] (splitUnquoted (expandLine line) ';')) ∧
      Option.Rel (fun result result' => SameUpToMessage result.1 result'.1 ∧ result'.2 = result.2)
        (sim.handleLine line) (sim.handleLine (expandLine line)) ∧
      ∀ steps, executed sim [] (splitUnquoted line ';') = some steps → Chained sim [] steps ∧
        ∀ step ∈ steps, step.text.head? = some '*' → step.after.path = step.path := by
  have hnone : ∀ node ∈ ([] : List Text), PlainNode node := by simp
  have hwhole : ∀ piece ∈ splitUnquoted line ';', Whole ';' piece := fun piece =>
    whole_of_mem_splitUnquoted (by decide)
  have hsteps := executed_expand sim hnone hwhole (headers_of_commands h)
  rw [handleLine_eq, handleLine_eq, splitUnquoted_expandLine h]
  refine ⟨hsteps, ?_, fun steps hrun => ⟨executed_chained hrun, fun step hstep hstar => ?_⟩⟩
  · change Option.Rel _ (executed sim [] _) (executed sim [] _) at hsteps
    generalize executed sim [] (splitUnquoted line ';') = steps at hsteps
    generalize executed sim [] (expandPieces [] (splitUnquoted line ';')) = steps' at hsteps
    cases hsteps with
    | none => exact .none
    | some halike =>
      exact .some ⟨finalSim_alike (.inl rfl) halike,
        congrArg joinResponses (responsesOf_alike halike)⟩
  · exact star_path hstar (executed_valid hrun step hstep)

theorem input_line_expands :
    Option.Rel (fun result result' => SameUpToMessage result.1 result'.1 ∧ result'.2 = result.2)
      ((NormaSimulator.new {}).handleLine "INP1:SHUN EXT;GAIN 25.0")
      ((NormaSimulator.new {}).handleLine (expandLine "INP1:SHUN EXT;GAIN 25.0")) :=
  (handleLine_expandLine (.new {}) (by decide +kernel)).2.1

end Line

end Norma
