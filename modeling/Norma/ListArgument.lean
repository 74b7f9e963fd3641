import Norma.BinaryFormat

namespace Norma

open ErrorCode

def CompleteString (text content : Text) : Prop :=
  ∃ q, isQuote q = true ∧ q ∉ content ∧ text = q :: (content ++ [q])

def CompleteList (args names : List Text) : Prop :=
  args ≠ [] ∧ List.Forall₂ (fun arg name => CompleteString (trim arg) name) args names

-- All that the reader looks at: there are two characters and the first is a quote.
def Quoted (text : Text) : Prop :=
  2 ≤ text.length ∧ (text.head? = some '"' ∨ text.head? = some '\'')

def Access.ReadsList (a : Access) (key : Key) : Prop :=
  (key ∈ [Key.func, .sweFunc, .calcTranFreqFunc, .calcIntFunc, .dispUserFunc] ∧
      a.command.query = false) ∨
    (key ∈ [Key.data, .dataStat] ∧ a.command.query = true ∧ a.command.args ≠ [])

structure Access.ListLaw (a : Access) : Prop where
  accepts : ∀ names, CompleteList a.command.args names →
    ∀ {R : Type} (rejected : Access → R) (body : List Text → R),
      a.readFunctionList rejected body = body (names.map upper)
  rejects : (∀ names, ¬CompleteList a.command.args names) → ∃ code message,
    ∀ {R : Type} (rejected : Access → R) (body : List Text → R),
      a.readFunctionList rejected body = rejected (a.fail code message)
  fails : (∀ names, ¬CompleteList a.command.args names) → ∀ key, a.ReadsList key →
    ∃ code message, execute key a = some (a.fail code message)
  stores : ∀ names, CompleteList a.command.args names → a.command.query = false →
    ∀ list : FunctionList, a.command.suffixes = list.known.2.2 →
      list.conflicts a.sim.state (names.map upper) = false →
        execute list.known.2.1 a = some (a.assign list.setting (names.map upper))

section Strings

variable {text content : Text} {args names : List Text}

theorem CompleteString.quoted (h : CompleteString text content) : Quoted text := by
  obtain ⟨q, hq, -, rfl⟩ := h
  refine ⟨by simp, ?_⟩
  rcases isQuote_cases hq with rfl | rfl
  · exact .inl rfl
  · exact .inr rfl

theorem CompleteString.unquote (h : CompleteString text content) : unquote text = content := by
  obtain ⟨q, hq, -, rfl⟩ := h
  exact unquote_quoted hq content

theorem readFunctions_complete
    (h : List.Forall₂ (fun arg name => CompleteString (trim arg) name) args names) :
    readFunctions args = .ok (names.map upper) := by
  induction h with
  | nil => rfl
  | cons hstring _ ih =>
    have hquoted := hstring.quoted
    rw [readFunctions, if_neg (by rw [not_or, not_and_or, not_not, not_not, Nat.not_lt]; exact hquoted),
      ih, hstring.unquote]
    rfl

theorem readFunctions_error_iff :
    (∃ raw, readFunctions args = .error raw) ↔ ∃ arg ∈ args, ¬Quoted (trim arg) := by
  induction args with
  | nil => exact iff_of_false (by rintro ⟨raw, h⟩; cases h) (by simp)
  | cons arg args ih =>
    have hcheck : ((trim arg).length < 2 ∨
        ((trim arg).head? ≠ some '"' ∧ (trim arg).head? ≠ some '\'')) ↔ ¬Quoted (trim arg) := by
      rw [Quoted, not_and_or, not_or, Nat.not_le]
    rw [readFunctions, List.exists_mem_cons_iff, ← ih]
    split
    · next hbad => exact iff_of_true ⟨_, rfl⟩ (.inl (hcheck.mp hbad))
    · next hgood =>
      rw [or_iff_right fun hbad => hgood (hcheck.mpr hbad)]
      cases readFunctions args with
      | error raw => exact iff_of_true ⟨raw, rfl⟩ ⟨raw, rfl⟩
      | ok rest => exact iff_of_false (by rintro ⟨raw, h⟩; cases h) (by rintro ⟨raw, h⟩; cases h)

end Strings

section Commands

variable {a : Access}

theorem readFunctionList_complete {names : List Text} (h : CompleteList a.command.args names)
    {R : Type} (rejected : Access → R) (body : List Text → R) :
    a.readFunctionList rejected body = body (names.map upper) := by
  rw [Access.readFunctionList, if_neg h.1, readFunctions_complete h.2]

theorem readFunctionList_rejects
    (h : a.command.args = [] ∨ ∃ arg ∈ a.command.args, ¬Quoted (trim arg)) :
    ∃ code message, ∀ {R : Type} (rejected : Access → R) (body : List Text → R),
      a.readFunctionList rejected body = rejected (a.fail code message) := by
  by_cases hargs : a.command.args = []
  · exact ⟨kMissingParameter, "Missing parameter", fun rejected body => by
      rw [Access.readFunctionList, if_pos hargs]⟩
  · obtain ⟨raw, hraw⟩ := readFunctions_error_iff.mpr (h.resolve_left hargs)
    exact ⟨kIllegalParameterValue, "Illegal parameter value;" ++ raw, fun rejected body => by
      rw [Access.readFunctionList, if_neg hargs, hraw]
      rfl⟩

theorem functionList_fails (hset : a.command.query = false) (f : Setting (List Text))
    {code : Int} {message : Text}
    (h : ∀ (rejected : Access → Access) (body : List Text → Access),
      a.readFunctionList rejected body = rejected (a.fail code message)) :
    a.functionList f = a.fail code message := by
  rw [Access.functionList, if_neg (by simp [hset]), h]
  rfl

theorem handleSweep_fails (hset : a.command.query = false) {code : Int} {message : Text}
    (h : ∀ (rejected : Access → Access) (body : List Text → Access),
      a.readFunctionList rejected body = rejected (a.fail code message)) :
    ∃ code message, execute .sweFunc a = some (a.fail code message) := by
  have hsense : handleSense .sweFunc a = handleSweep .sweFunc a := rfl
  have hsweep : handleSweep .sweFunc a =
      if a.command.suffix < 1 ∨ 2 < a.command.suffix then
        .done (a.outOfRange ("sweep block " ++ toText a.command.suffix))
      else .done (a.functionList ((Setting.sweep.entry
        (Fin.ofNat _ a.command.suffix.toNat)).focus SweepConfig.functionsLens)) := rfl
  by_cases hblock : a.command.suffix < 1 ∨ 2 < a.command.suffix
  · rw [if_pos hblock] at hsweep
    rw [execute, dispatch, hsense, hsweep]
    exact ⟨_, _, rfl⟩
  · rw [if_neg hblock, functionList_fails hset _ h] at hsweep
    rw [execute, dispatch, hsense, hsweep]
    exact ⟨_, _, rfl⟩

theorem execute_list_fails {key : Key} (hreads : a.ReadsList key) {code : Int} {message : Text}
    (h : ∀ {R : Type} (rejected : Access → R) (body : List Text → R),
      a.readFunctionList rejected body = rejected (a.fail code message)) :
    ∃ code message, execute key a = some (a.fail code message) := by
  rcases hreads with ⟨hkey, hset⟩ | ⟨hkey, hquery, hargs⟩
  · simp only [List.mem_cons, List.not_mem_nil, or_false] at hkey
    rcases hkey with rfl | rfl | rfl | rfl | rfl
    · have hrun : execute .func a = some a.functions := rfl
      rw [hrun, Access.functions, if_neg (by simp [hset]), h]
      exact ⟨_, _, rfl⟩
    · exact handleSweep_fails hset h
    · have hrun : execute .calcTranFreqFunc a = some (a.functionList .transformFunctions) := rfl
      rw [hrun, functionList_fails hset _ h]
      exact ⟨_, _, rfl⟩
    · have hrun : execute .calcIntFunc a = some (a.functionList .integralFunctions) := rfl
      rw [hrun, functionList_fails hset _ h]
      exact ⟨_, _, rfl⟩
    · have hrun : execute .dispUserFunc a = some (a.functionList .displayFunctions) := rfl
      rw [hrun, functionList_fails hset _ h]
      exact ⟨_, _, rfl⟩
  · have hdata (withStatus : Bool) : a.data withStatus = .done (a.fail code message) := by
      rw [Access.data, if_neg (by simp [hquery]), if_neg hargs, h]
    simp only [List.mem_cons, List.not_mem_nil, or_false] at hkey
    have hrun (withStatus : Bool) : execute (dataKey withStatus) a = some (a.fail code message) := by
      refine execute_dataKey ?_
      rw [hdata]
      exact .done _
    rcases hkey with rfl | rfl
    · exact ⟨code, message, hrun false⟩
    · exact ⟨code, message, hrun true⟩

theorem execute_list_stores {names : List Text} (h : CompleteList a.command.args names)
    (hset : a.command.query = false) {list : FunctionList}
    (hsuffixes : a.command.suffixes = list.known.2.2)
    (hroom : list.conflicts a.sim.state (names.map upper) = false) :
    execute list.known.2.1 a = some (a.assign list.setting (names.map upper)) := by
  rw [list.execute_known hsuffixes, FunctionList.store, if_neg (by simp [hset]),
    readFunctionList_complete h]
  simp only [hroom, Bool.false_eq_true, if_false]

theorem list_law_iff (a : Access) : a.ListLaw ↔
    a.command.args = [] ∨ (∃ names, CompleteList a.command.args names) ∨
      ∃ arg ∈ a.command.args, ¬Quoted (trim arg) := by
  constructor
  · intro h
    by_contra hother
    rw [not_or, not_or] at hother
    obtain ⟨hargs, hcomplete, hquoted⟩ := hother
    obtain ⟨code, message, hrejects⟩ := h.rejects fun names hnames => hcomplete ⟨names, hnames⟩
    have hrejected := hrejects (fun _ => false) (fun _ => true)
    rw [Access.readFunctionList, if_neg hargs] at hrejected
    cases hread : readFunctions a.command.args with
    | error raw => exact hquoted (readFunctions_error_iff.mp ⟨raw, hread⟩)
    | ok names =>
      rw [hread] at hrejected
      cases hrejected
  · intro h
    have hrejects (hnone : ∀ names, ¬CompleteList a.command.args names) :
        ∃ code message, ∀ {R : Type} (rejected : Access → R) (body : List Text → R),
          a.readFunctionList rejected body = rejected (a.fail code message) := by
      refine readFunctionList_rejects ?_
      rcases h with hargs | ⟨names, hnames⟩ | hbad
      · exact .inl hargs
      · exact absurd hnames (hnone names)
      · exact .inr hbad
    refine ⟨fun _ => readFunctionList_complete, hrejects, fun hnone key hreads => ?_, fun _ hnames hset
      list => execute_list_stores hnames hset⟩
    obtain ⟨code, message, hfails⟩ := hrejects hnone
    exact execute_list_fails hreads hfails

-- `FUNC "VOLT1` without the closing quote.
theorem unterminated_accepted : ¬∀ a : Access, Reachable a.sim → a.ListLaw := by
  intro hall
  let a : Access := ⟨.new {}, (parseCommand "FUNC \"VOLT1").command [] Key.func.text []⟩
  have hargs : a.command.args = [("\"VOLT1" : Text)] := by decide +kernel
  have hlaw := (list_law_iff a).mp (hall a (.new {}))
  rw [hargs] at hlaw
  rcases hlaw with hnil | ⟨names, -, hforall⟩ | ⟨arg, harg, hbad⟩
  · cases hnil
  · obtain ⟨name, -, hstring, -⟩ := List.forall₂_cons_left_iff.mp hforall
    obtain ⟨q, -, -, htext⟩ := hstring
    have hhead : (trim "\"VOLT1").head? = some '"' := by decide +kernel
    have hlast : (trim "\"VOLT1").getLast? = some '1' := by decide +kernel
    rw [htext, List.head?_cons] at hhead
    rw [htext, ← List.cons_append, List.getLast?_concat, hhead] at hlast
    exact absurd (Option.some.inj hlast) (by decide)
  · obtain rfl := List.mem_singleton.mp harg
    exact hbad (by unfold Quoted; decide +kernel)

end Commands

end Norma
