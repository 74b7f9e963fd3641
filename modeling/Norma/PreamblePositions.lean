import Norma.Manual
import Norma.Lib.Numeral

namespace Norma

open CNumber ScpiClient

-- The test by which `parse_preamble` tells a name from a number.
def isName (field : Text) : Bool := field.head? = some '"' || field.head? = some '\''

def namesOf (fields : List Text) : List Text := (fields.filter isName).map unquote

def numbersOf (fields : List Text) : List Text := fields.filter fun field => !isName field

-- What the number in a place is read as; a field that is not there leaves the default.
def placed {A : Type} (read : Text → Except Fault A) (default : A) : Option Text → Except Fault A
  | none => .ok default
  | some field => read field

def byPosition (names numbers : List Text) (raw : Text) : Except Fault DataPreamble := do
  let count ← placed ScpiClient.toInt 0 numbers[0]?
  let functionCount ← placed ScpiClient.toInt 0 numbers[1]?
  let interval ← placed toDouble 0 numbers[2]?
  let start ← placed toDouble 0 numbers[3]?
  return { count, functionCount, interval, start, functions := names, raw }

section Loop

variable {preamble : DataPreamble} {field : Text} {fields : List Text}

def placedFrom {A : Type} (read : Text → Except Fault A) (current : A) (k : Nat)
    (numbers : List Text) (place : Nat) : Except Fault A :=
  if k ≤ place then placed read current numbers[place - k]? else .ok current

def byPositionFrom (preamble : DataPreamble) (k : Nat) (fields : List Text) :
    Except Fault DataPreamble := do
  let count ← placedFrom ScpiClient.toInt preamble.count k (numbersOf fields) 0
  let functionCount ← placedFrom ScpiClient.toInt preamble.functionCount k (numbersOf fields) 1
  let interval ← placedFrom toDouble preamble.interval k (numbersOf fields) 2
  let start ← placedFrom toDouble preamble.start k (numbersOf fields) 3
  return { count, functionCount, interval, start
           functions := preamble.functions ++ namesOf fields, raw := preamble.raw }

theorem preambleField_name (h : isName field = true) (i : Nat) :
    preambleField preamble i field =
      .ok { preamble with functions := preamble.functions ++ [unquote field] } := by
  rw [isName, Bool.or_eq_true, decide_eq_true_eq, decide_eq_true_eq] at h
  rw [preambleField, if_pos h]

theorem preambleField_number (h : isName field = false) {k : Nat} :
    preambleField preamble (k + preamble.functions.length) field =
      match k with
      | 0 => (ScpiClient.toInt field).map fun count => { preamble with count }
      | 1 => (ScpiClient.toInt field).map fun functionCount => { preamble with functionCount }
      | 2 => (toDouble field).map fun interval => { preamble with interval }
      | 3 => (toDouble field).map fun start => { preamble with start }
      | _ => .ok preamble := by
  have hslot : (if preamble.functions = [] then k + preamble.functions.length
      else k + preamble.functions.length - preamble.functions.length) = k := by
    split
    · next hnil =>
      rw [hnil]
      rfl
    · exact Nat.add_sub_cancel _ _
  rw [isName, Bool.or_eq_false_iff, decide_eq_false_iff_not, decide_eq_false_iff_not] at h
  rw [preambleField, if_neg (not_or.mpr h)]
  generalize (if preamble.functions = [] then k + preamble.functions.length
    else k + preamble.functions.length - preamble.functions.length) = slot at hslot ⊢
  subst hslot
  rfl

theorem placedFrom_later {A : Type} {read : Text → Except Fault A} {current : A} {k place : Nat}
    (h : k < place) (numbers : List Text) :
    placedFrom read current k (field :: numbers) place =
      placedFrom read current (k + 1) numbers place := by
  obtain ⟨n, rfl⟩ := Nat.exists_eq_add_of_lt h
  rw [placedFrom, placedFrom, if_pos (by omega), if_pos (by omega)]
  have hleft : k + n + 1 - k = n + 1 := by omega
  have hright : k + n + 1 - (k + 1) = n := by omega
  rw [hleft, hright, List.getElem?_cons_succ]

theorem placedFrom_past {A : Type} {read : Text → Except Fault A} {current : A} {k place : Nat}
    (h : place < k) (numbers : List Text) : placedFrom read current k numbers place = .ok current :=
  if_neg (Nat.not_le.mpr h)

theorem placedFrom_here {A : Type} {read : Text → Except Fault A} {current : A} (k : Nat)
    (numbers : List Text) : placedFrom read current k (field :: numbers) k = read field := by
  rw [placedFrom, if_pos (Nat.le_refl k), Nat.sub_self]
  rfl

theorem byPositionFrom_name (h : isName field = true) (k : Nat) :
    byPositionFrom preamble k (field :: fields) =
      byPositionFrom { preamble with functions := preamble.functions ++ [unquote field] } k
        fields := by
  have hnumbers : numbersOf (field :: fields) = numbersOf fields :=
    List.filter_cons_of_neg (by simp [h])
  have hnames : namesOf (field :: fields) = unquote field :: namesOf fields := by
    rw [namesOf, List.filter_cons_of_pos h]
    rfl
  rw [byPositionFrom, hnumbers, hnames, byPositionFrom]
  simp only [List.append_assoc, List.cons_append, List.nil_append]

theorem byPositionFrom_nil (k : Nat) : byPositionFrom preamble k [] = .ok preamble := by
  have hplaced {A : Type} (read : Text → Except Fault A) (current : A) (place : Nat) :
      placedFrom read current k (numbersOf []) place = .ok current := by
    unfold placedFrom
    split <;> rfl
  rw [byPositionFrom, hplaced, hplaced, hplaced, hplaced]
  have hnames : preamble.functions ++ namesOf [] = preamble.functions := List.append_nil _
  simp only [hnames]
  rfl

theorem byPositionFrom_number (h : isName field = false) (k : Nat) :
    byPositionFrom preamble k (field :: fields) =
      preambleField preamble (k + preamble.functions.length) field >>= fun next =>
        byPositionFrom next (k + 1) fields := by
  have hnumbers : numbersOf (field :: fields) = field :: numbersOf fields :=
    List.filter_cons_of_pos (by simp [h])
  have hnames : namesOf (field :: fields) = namesOf fields := by
    rw [namesOf, List.filter_cons_of_neg (by simp [h])]
    rfl
  rw [preambleField_number h, byPositionFrom, hnumbers, hnames]
  match k with
  | 0 =>
    rw [placedFrom_here, placedFrom_later (by decide), placedFrom_later (by decide),
      placedFrom_later (by decide)]
    cases ScpiClient.toInt field with
    | error fault => rfl
    | ok count => rfl
  | 1 =>
    rw [placedFrom_past (by decide), placedFrom_here, placedFrom_later (by decide),
      placedFrom_later (by decide)]
    cases ScpiClient.toInt field with
    | error fault => rfl
    | ok functionCount => rfl
  | 2 =>
    rw [placedFrom_past (by decide), placedFrom_past (by decide), placedFrom_here,
      placedFrom_later (by decide)]
    cases toDouble field with
    | error fault => rfl
    | ok interval => rfl
  | 3 =>
    rw [placedFrom_past (by decide), placedFrom_past (by decide), placedFrom_past (by decide),
      placedFrom_here]
    cases toDouble field with
    | error fault => rfl
    | ok start => rfl
  | k + 4 =>
    rw [placedFrom_past (by omega), placedFrom_past (by omega), placedFrom_past (by omega),
      placedFrom_past (by omega)]
    change _ = byPositionFrom preamble (k + 4 + 1) fields
    rw [byPositionFrom, placedFrom_past (by omega), placedFrom_past (by omega),
      placedFrom_past (by omega), placedFrom_past (by omega)]

theorem preambleField_functions (h : isName field = false) {k : Nat} {next : DataPreamble}
    (hnext : preambleField preamble (k + preamble.functions.length) field = .ok next) :
    next.functions = preamble.functions := by
  rw [preambleField_number h] at hnext
  have hmap {A : Type} {result : Except Fault A} {f : A → DataPreamble}
      (hok : result.map f = .ok next)
      (hf : ∀ value, (f value).functions = preamble.functions) :
      next.functions = preamble.functions := by
    cases result with
    | error fault => cases hok
    | ok value =>
      obtain rfl := Except.ok.inj hok
      exact hf value
  split at hnext
  · exact hmap hnext fun _ => rfl
  · exact hmap hnext fun _ => rfl
  · exact hmap hnext fun _ => rfl
  · exact hmap hnext fun _ => rfl
  · rw [Except.ok.inj hnext]

theorem preambleFields_byPosition (fields : List Text) (preamble : DataPreamble) (k : Nat) :
    preambleFields preamble (k + preamble.functions.length) fields =
      byPositionFrom preamble k fields := by
  induction fields generalizing preamble k with
  | nil => rw [byPositionFrom_nil, preambleFields]
  | cons field fields ih =>
    rw [preambleFields]
    cases hname : isName field with
    | true =>
      rw [preambleField_name hname, byPositionFrom_name hname, ← ih]
      dsimp only
      rw [List.length_append]
      rfl
    | false =>
      rw [byPositionFrom_number hname]
      cases hnext : preambleField preamble (k + preamble.functions.length) field with
      | error fault => rfl
      | ok next =>
        have hlength := congrArg List.length (preambleField_functions hname hnext)
        change preambleFields next (k + preamble.functions.length + 1) fields =
          byPositionFrom next (k + 1) fields
        rw [← ih, hlength, Nat.add_right_comm]

theorem preambleFields_eq (fields : List Text) (response : Text) :
    preambleFields { raw := response } 0 fields =
      byPosition (namesOf fields) (numbersOf fields) response :=
  preambleFields_byPosition fields { raw := response } 0

theorem parsePreamble_eq (response : Text) : parsePreamble response =
    byPosition (namesOf (splitCsv response)) (numbersOf (splitCsv response)) response :=
  preambleFields_eq _ _

theorem byPosition_functions {names numbers : List Text} {raw : Text} {result : DataPreamble}
    (h : byPosition names numbers raw = .ok result) : result.functions = names := by
  have hbind {A B : Type} {first : Except Fault A} {next : A → Except Fault B} {b : B}
      (hok : (first >>= next) = .ok b) : ∃ a, next a = .ok b := by
    cases first with
    | error fault => cases hok
    | ok a => exact ⟨a, hok⟩
  obtain ⟨count, h⟩ := hbind h
  obtain ⟨functionCount, h⟩ := hbind h
  obtain ⟨interval, h⟩ := hbind h
  obtain ⟨start, h⟩ := hbind h
  rw [← Except.ok.inj h]

theorem names_numbers_length (fields : List Text) :
    (namesOf fields).length + (numbersOf fields).length = fields.length := by
  rw [namesOf, numbersOf, List.length_map]
  induction fields with
  | nil => rfl
  | cons field fields ih => cases h : isName field <;> simp [h] <;> omega

end Loop

-- A field of a response: a number or a quoted name, in either kind of quotes, between blanks.
inductive PreambleItem where
  | number (d : Numeral)
  | name (q : Char) (content : Text) (hquote : isQuote q = true) (hcontent : q ∉ content)

namespace PreambleItem

def text : PreambleItem → Text
  | number d => d.text
  | name q content _ _ => q :: (content ++ [q])

def names : List PreambleItem → List Text
  | [] => []
  | number _ :: items => names items
  | name _ content _ _ :: items => content :: names items

def numbers : List PreambleItem → List Text
  | [] => []
  | number d :: items => d.text :: numbers items
  | name _ _ _ _ :: items => numbers items

end PreambleItem

structure PreamblePart where
  lead : Text
  item : PreambleItem
  trail : Text
  hlead : ∀ c ∈ lead, isSpace c = true
  htrail : ∀ c ∈ trail, isSpace c = true

namespace PreamblePart

def text (part : PreamblePart) : Text := part.lead ++ (part.item.text ++ part.trail)

end PreamblePart

section Items

variable {q : Char} {content blank : Text}

theorem unquoted_of_space (h : ∀ c ∈ blank, isSpace c = true) : Unquoted blank := by
  intro c hc
  have hspace := h c hc
  rw [← Bool.not_eq_true]
  intro hquote
  rcases isQuote_cases hquote with rfl | rfl
  · cases hspace
  · cases hspace

theorem comma_notMem_of_space (h : ∀ c ∈ blank, isSpace c = true) : ',' ∉ blank :=
  fun hmem => by cases h ',' hmem

theorem numeral_mem (d : Numeral) {c : Char} (h : c ∈ d.text) :
    c.isDigit = true ∨ isNumeralMark c = true := by
  rcases List.mem_append.mp h with hsign | hbody
  · exact .inr (NumeralSign.mem_chars hsign)
  · exact Numeral.mem_body hbody

theorem numeral_text_ne (d : Numeral) : d.text ≠ [] := by
  obtain ⟨c, rest, hbody, -⟩ := Numeral.body_head (d := d)
  rw [Numeral.text, hbody]
  simp

theorem numeral_plain (d : Numeral) : PlainField d.text where
  unquoted c hc := by
    rw [← Bool.not_eq_true]
    intro hquote
    rcases isQuote_cases hquote with rfl | rfl
    · exact absurd (numeral_mem d hc) (by decide)
    · exact absurd (numeral_mem d hc) (by decide)
  spaceless c hc := (numeral_char (numeral_mem d hc)).2.2.2.1
  comma hc := absurd (numeral_mem d hc) (by decide)
  nonempty := numeral_text_ne d

end Items

namespace PreambleItem

variable (item : PreambleItem)

theorem whole : Whole ',' item.text ∧ quoteAfter item.text = none := by
  cases item with
  | number d =>
    have hplain := numeral_plain d
    exact ⟨hplain.unquoted.whole_iff.mpr hplain.comma, hplain.unquoted.quoteAfter⟩
  | name q content hquote hcontent =>
    exact ⟨whole_quoted hquote hcontent, quoteAfter_quoted hquote hcontent⟩

theorem starts : ∃ c rest, item.text = c :: rest ∧ isSpace c = false := by
  cases item with
  | number d =>
    obtain ⟨c, rest, htext⟩ := List.exists_cons_of_ne_nil (numeral_text_ne d)
    exact ⟨c, rest, htext, (numeral_plain d).spaceless c (by rw [htext]; exact List.mem_cons_self)⟩
  | name q content hquote hcontent =>
    exact ⟨q, content ++ [q], rfl, isSpace_of_isQuote hquote⟩

theorem trimmed : trim item.text = item.text := by
  cases item with
  | number d => exact trim_of_spaceless (numeral_plain d).spaceless
  | name q content hquote hcontent => exact trim_quoted hquote content

theorem isName_text : isName item.text = match item with
    | number _ => false
    | name _ _ _ _ => true := by
  cases item with
  | number d =>
    have hunquoted := (numeral_plain d).unquoted
    have hhead (q : Char) (hq : isQuote q = true) : d.text.head? ≠ some q := fun hsome => by
      have hmem := hunquoted q (List.mem_of_head? hsome)
      rw [hq] at hmem
      cases hmem
    simp [isName, text, hhead '"' rfl, hhead '\'' rfl]
  | name q content hquote hcontent =>
    rcases isQuote_cases hquote with rfl | rfl
    · rfl
    · rfl

end PreambleItem

namespace PreamblePart

variable (part : PreamblePart)

theorem whole : Whole ',' part.text ∧ quoteAfter part.text = none := by
  obtain ⟨hitem, hclosed⟩ := part.item.whole
  have hlead := unquoted_of_space part.hlead
  have htrail := unquoted_of_space part.htrail
  have hrest : Whole ',' (part.item.text ++ part.trail) :=
    (Whole.append_iff hclosed).mpr
      ⟨hitem, htrail.whole_iff.mpr (comma_notMem_of_space part.htrail)⟩
  refine ⟨(Whole.append_iff hlead.quoteAfter).mpr
    ⟨hlead.whole_iff.mpr (comma_notMem_of_space part.hlead), hrest⟩, ?_⟩
  rw [text, quoteAfter_append, hlead.quoteAfter]
  change quoteAfter (part.item.text ++ part.trail) = none
  rw [quoteAfter_append, hclosed]
  exact htrail.quoteAfter

theorem trimmed : trim part.text = part.item.text := by
  obtain ⟨c, rest, htext, hc⟩ := part.item.starts
  have htrim := part.item.trimmed
  rw [htext] at htrim
  rw [text, trim_append_of_space part.hlead, htext, List.cons_append, trim_of_head hc,
    ← List.cons_append, rdropWhile_append_blank part.htrail, ← trim_of_head hc, htrim]

end PreamblePart

section Response

variable {parts : List PreamblePart}

def responseOf (parts : List PreamblePart) : Text := join ',' (parts.map PreamblePart.text)

theorem trim_ne_nil_of_mem {text : Text} {c : Char} (hmem : c ∈ text) (hc : isSpace c = false) :
    trim text ≠ [] := by
  intro hnil
  have hspace : isSpace c = true := by
    rw [← List.takeWhile_append_dropWhile (p := isSpace) (l := text)] at hmem
    rcases List.mem_append.mp hmem with htake | hdrop
    · exact List.mem_takeWhile_imp htake
    · exact List.rdropWhile_eq_nil_iff.mp hnil c hdrop
  exact Bool.false_ne_true (hc.symm.trans hspace)

theorem splitCsv_responseOf (parts : List PreamblePart) :
    splitCsv (responseOf parts) = (parts.map PreamblePart.item).map PreambleItem.text := by
  rcases parts with _ | ⟨part, parts⟩
  · rfl
  have hwhole (text : Text) (h : text ∈ (part :: parts).map PreamblePart.text) :
      Whole ',' text ∧ quoteAfter text = none := by
    obtain ⟨other, -, rfl⟩ := List.mem_map.mp h
    exact other.whole
  have hsplit : splitUnquoted (responseOf (part :: parts)) ',' =
      (part :: parts).map PreamblePart.text :=
    splitUnquoted_join (by decide) (by simp) (fun text h => (hwhole text h).1) fun text h =>
      (hwhole text ((List.dropLast_sublist _).subset h)).2
  have hblank : trim (responseOf (part :: parts)) ≠ [] := by
    obtain ⟨c, rest, htext, hc⟩ := part.item.starts
    refine trim_ne_nil_of_mem ?_ hc
    rw [responseOf, List.map_cons, join_cons, PreamblePart.text, htext]
    simp
  rw [splitCsv, splitFields, if_neg hblank, hsplit, List.map_map, List.map_map]
  exact List.map_congr_left fun other _ => other.trimmed

theorem fieldsOf_items (items : List PreambleItem) :
    namesOf (items.map PreambleItem.text) = PreambleItem.names items ∧
      numbersOf (items.map PreambleItem.text) = PreambleItem.numbers items := by
  induction items with
  | nil => exact ⟨rfl, rfl⟩
  | cons item items ih =>
    obtain ⟨hnames, hnumbers⟩ := ih
    have hname := item.isName_text
    rw [namesOf] at hnames
    rw [numbersOf] at hnumbers
    rw [List.map_cons, namesOf, numbersOf, List.filter_cons, List.filter_cons, hname]
    cases item with
    | number d => exact ⟨hnames, congrArg (d.text :: ·) hnumbers⟩
    | name q content hquote hcontent =>
      refine ⟨?_, hnumbers⟩
      have hcontent' : unquote (PreambleItem.name q content hquote hcontent).text = content :=
        unquote_quoted hquote content
      exact congrArg₂ List.cons hcontent' hnames

-- The numbers fill the places in order whatever stands between them, and before each field
-- there are no more names than fields: the place is the number of numbers so far.
theorem preamble_by_position (parts : List PreamblePart) :
    parsePreamble (responseOf parts) = byPosition (PreambleItem.names (parts.map (·.item)))
        (PreambleItem.numbers (parts.map (·.item))) (responseOf parts) ∧
      ∀ pre field post, splitCsv (responseOf parts) = pre ++ field :: post → ∀ preamble,
        preambleFields { raw := responseOf parts } 0 pre = .ok preamble →
          preamble.functions.length ≤ pre.length ∧
            pre.length - preamble.functions.length = (numbersOf pre).length := by
  obtain ⟨hnames, hnumbers⟩ := fieldsOf_items (parts.map PreamblePart.item)
  refine ⟨?_, fun pre field post _ preamble hpre => ?_⟩
  · rw [parsePreamble_eq, splitCsv_responseOf, hnames, hnumbers]
  · rw [preambleFields_eq] at hpre
    have hlength := names_numbers_length pre
    rw [byPosition_functions hpre]
    omega

end Response

end Norma
