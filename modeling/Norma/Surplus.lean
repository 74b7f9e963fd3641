import Norma.ErrorFifo

namespace Norma

open ErrorCode

-- The number of parameters of the settings and events that take a fixed number of them.
def commonArity : List (Text × Nat) :=
  [("*RST", 0), ("*CLS", 0), ("*OPC", 0), ("*WAI", 0), ("*TRG", 0), ("*ESE", 1), ("*SRE", 1),
    ("*SAV", 1), ("*RCL", 1)]

def Key.arity : Key → Option Nat
  | .abor | .funcOffAll | .funcAll | .initSeq | .initName | .init | .calcIntCle | .calcIntStar
  | .calcIntStop | .tracDelAll | .timRes => some 0
  | .calcPowEffRef => some 2
  | .systDate | .systTime => some 3
  | .trigStarTime | .trigStopTime | .calcIntStarTime | .calcIntStopTime => some 6
  | .func | .sweFunc | .calcTranFreqFunc | .calcIntFunc | .dispUserFunc => none
  | .form | .formStat => none
  | .inpFiltFreq | .voltRangList | .currRangList | .sweFreq | .funcCoun | .dataStat | .data
  | .sweOffsPoints | .swePoints | .calcDataPre | .calcDataThd | .calcData | .tracPre | .tracStat
  | .tracFree | .tracCatLen | .trac | .systErrAll | .systErr | .systVers | .timResAuto
  | .timResTime => none
  | .statOperCond | .statQuesVoltCond | .statQuesCurrCond | .statQuesCond | .statOperEven
  | .statQuesVoltEven | .statQuesCurrEven | .statQuesEven => none
  | _ => some 1

def commonArityOf (key : Text) : Option Nat := (commonArity.find? (·.1 = key)).map Prod.snd

def fixedArity (path : List Token) (text : Text) : Option Nat :=
  let p := parseCommand text
  if p.header.head? = some '*' then commonArityOf (upper p.header)
  else (findCommand (headerTokens path p.header)).bind fun found => found.1.arity

def Access.cut (a : Access) (k : Nat) : Access :=
  { a with command := { a.command with args := a.command.args.take k } }

def Handled.cut (k : Nat) : Handled → Handled
  | .declined => .declined
  | .done a => .done (a.cut k)
  | .crashes => .crashes

def CutOff (k : Nat) (b b' : Access) : Prop := b' = b.cut k

def Handled.CutOff (k : Nat) (handled handled' : Handled) : Prop := handled' = handled.cut k

namespace CutOff

variable {k : Nat} {a b b' c c' : Access}

theorem fail (code : Int) (message : Text) :
    CutOff k (a.fail code message) ((a.cut k).fail code message) := rfl

theorem respond (text : Text) : CutOff k (a.respond text) ((a.cut k).respond text) := rfl

theorem assign {A : Type} (f : Setting A) (value : A) :
    CutOff k (a.assign f value) ((a.cut k).assign f value) := rfl

theorem self : CutOff k a (a.cut k) := rfl

theorem ite {p : Prop} [Decidable p] (hyes : CutOff k b b') (hno : CutOff k c c') :
    CutOff k (if p then b else c) (if p then b' else c') := by
  split
  · exact hyes
  · exact hno

theorem queryOnly (h : CutOff k b b') : CutOff k (a.queryOnly b) ((a.cut k).queryOnly b') :=
  .ite h (.fail _ _)

theorem commandOnly (h : CutOff k b b') : CutOff k (a.commandOnly b) ((a.cut k).commandOnly b') :=
  .ite (.fail _ _) h

section First

variable (hk : 0 < k)
include hk

theorem argument : (a.cut k).command.argument = a.command.argument := by
  have hargs : (a.cut k).command.args = a.command.args.take k := rfl
  unfold Command.argument
  rw [hargs, List.getElem?_take_of_lt hk]

theorem parameter {body body' : Text → Access}
    (hbody : ∀ text, CutOff k (body text) (body' text)) :
    CutOff k (a.parameter body) ((a.cut k).parameter body') := by
  unfold Access.parameter
  rw [argument hk]
  cases a.command.argument with
  | none => exact .fail _ _
  | some text => exact hbody text

theorem number (f : Setting Float) (min max : Float) :
    CutOff k (a.number f min max) ((a.cut k).number f min max) := by
  refine .ite (.respond _) (.parameter hk fun text => ?_)
  cases parseNumber text with
  | none => exact .fail _ _
  | some value => exact .ite (.fail _ _) (.assign _ _)

theorem readInteger {min max : Int} {body body' : Int → Access}
    (hbody : ∀ value, CutOff k (body value) (body' value)) :
    CutOff k (a.readInteger min max body) ((a.cut k).readInteger min max body') := by
  refine .parameter hk fun text => ?_
  cases parseNumber text with
  | none => exact .fail _ _
  | some value => exact .ite (.fail _ _) (hbody _)

theorem integer (f : Setting Int) (min max : Int) :
    CutOff k (a.integer f min max) ((a.cut k).integer f min max) :=
  .ite (.respond _) (.readInteger hk fun _ => .assign _ _)

theorem boolean (f : Setting Bool) : CutOff k (a.boolean f) ((a.cut k).boolean f) := by
  refine .ite (.respond _) (.parameter hk fun text => ?_)
  cases parseBoolean text with
  | none => exact .fail _ _
  | some value => exact .assign _ _

theorem keyword {A : Type} [DecidableEq A] (f : Setting A) (spellings : List (A × List Text)) :
    CutOff k (a.keyword f spellings) ((a.cut k).keyword f spellings) := by
  refine .ite (.respond _) (.parameter hk fun text => ?_)
  cases spellings.find? (fun s => s.2.any fun name => upper text = upper name) with
  | none => exact .fail _ _
  | some found => exact .assign _ _

theorem range (config : Setting (ChannelConfig Float)) (ranges : Ranges) :
    CutOff k (a.range config ranges) ((a.cut k).range config ranges) := by
  refine .ite (.respond _) (.parameter hk fun text => ?_)
  cases parseNumber text with
  | none => exact .fail _ _
  | some value => exact .ite (.fail _ _) (.assign _ _)

theorem concurrent : CutOff k a.concurrent (a.cut k).concurrent := by
  have hboolean : (a.cut k).boolean .concurrent = (a.boolean .concurrent).cut k := boolean hk _
  unfold Access.concurrent
  dsimp only
  rw [hboolean]
  exact .ite (.assign _ _) .self

theorem syncFilterFrequency : CutOff k a.syncFilterFrequency (a.cut k).syncFilterFrequency := by
  refine .ite (.respond _) (.parameter hk fun text => ?_)
  cases parseNumber text with
  | none => exact .fail _ _
  | some value =>
    dsimp only
    split
    · exact .fail _ _
    · exact .assign _ _

theorem triggerSource (f : Setting Text) :
    CutOff k (a.triggerSource f) ((a.cut k).triggerSource f) :=
  .ite (.respond _) (.parameter hk fun _ => .assign _ _)

theorem transformOnce : CutOff k a.transformOnce (a.cut k).transformOnce :=
  .ite (.fail _ _) (.parameter hk fun _ => .ite .self (.fail _ _))

theorem cycles : CutOff k a.cycles (a.cut k).cycles :=
  .ite (.respond _) (.readInteger hk fun _ => .ite (.fail _ _) (.assign _ _))

theorem registerPart (reg : StatusRegister) (part : RegisterPart)
    (hpart : part ≠ .condition ∧ part ≠ .event) :
    CutOff k (a.registerPart reg part) ((a.cut k).registerPart reg part) := by
  cases part with
  | condition => exact absurd rfl hpart.1
  | event => exact absurd rfl hpart.2
  | enable => exact .integer hk _ _ _
  | positiveTransition => exact .integer hk _ _ _
  | negativeTransition => exact .integer hk _ _ _

end First

theorem startSequence (block : Int) :
    CutOff k (a.startSequence block) ((a.cut k).startSequence block) :=
  .commandOnly (.ite (.fail _ _) (.assign _ _))

theorem integralStart : CutOff k a.integralStart (a.cut k).integralStart :=
  .commandOnly (.ite (.fail _ _) (.assign _ _))

theorem efficiencyReference : CutOff 2 a.efficiencyReference (a.cut 2).efficiencyReference := by
  refine .ite (.fail _ _) (.ite (.respond _) ?_)
  have hargs : (a.cut 2).command.args = a.command.args.take 2 := rfl
  rw [hargs]
  match a.command.args with
  | [] => exact .fail _ _
  | [_] => exact .fail _ _
  | _ :: _ :: _ => exact .assign _ _

theorem date : CutOff 3 a.date (a.cut 3).date := by
  refine .ite (.respond _) ?_
  have hargs : (a.cut 3).command.args = a.command.args.take 3 := rfl
  rw [hargs]
  match a.command.args with
  | [] => exact .fail _ _
  | [_] => exact .fail _ _
  | [_, _] => exact .fail _ _
  | year :: month :: day :: _ =>
    simp only [List.take_succ_cons, List.take_zero]
    cases parseNumber year <;> cases parseNumber month <;> cases parseNumber day
    case some.some.some => exact .ite (.fail _ _) (.assign _ _)
    all_goals exact .fail _ _

theorem time : CutOff 3 a.time (a.cut 3).time := by
  refine .ite (.respond _) ?_
  have hargs : (a.cut 3).command.args = a.command.args.take 3 := rfl
  rw [hargs]
  match a.command.args with
  | [] => exact .fail _ _
  | [_] => exact .fail _ _
  | [_, _] => exact .fail _ _
  | hours :: minutes :: seconds :: _ =>
    simp only [List.take_succ_cons, List.take_zero]
    cases parseNumber hours <;> cases parseNumber minutes <;> cases parseNumber seconds
    case some.some.some => exact .ite (.fail _ _) (.assign _ _)
    all_goals exact .fail _ _

theorem timestamp : CutOff 6 a.timestamp (a.cut 6).timestamp := by
  have hlength : (a.cut 6).command.args.length < 6 ↔ a.command.args.length < 6 := by
    have hargs : (a.cut 6).command.args = a.command.args.take 6 := rfl
    rw [hargs, List.length_take]
    omega
  refine .commandOnly ?_
  rw [if_congr hlength rfl rfl]
  exact .ite (.fail _ _) .self

end CutOff

namespace Handled.CutOff

variable {k : Nat} {handled handled' other other' : Handled}

theorem done {b b' : Access} (h : Norma.CutOff k b b') : Handled.CutOff k (.done b) (.done b') :=
  congrArg Handled.done h

theorem declined : Handled.CutOff k .declined .declined := rfl

theorem crashes : Handled.CutOff k .crashes .crashes := rfl

theorem ite {p : Prop} [Decidable p] (hyes : p → Handled.CutOff k handled handled')
    (hno : ¬p → Handled.CutOff k other other') :
    Handled.CutOff k (if p then handled else other) (if p then handled' else other') := by
  split
  · next h => exact hyes h
  · next h => exact hno h

theorem when {p : Prop} [Decidable p] {b b' : Access} (hyes : p → Norma.CutOff k b b')
    (hno : Handled.CutOff k other other') :
    Handled.CutOff k (if p then .done b else other) (if p then .done b' else other') :=
  .ite (fun h => .done (hyes h)) fun _ => hno

theorem orElse (hfirst : Handled.CutOff k handled handled')
    (hsecond : Handled.CutOff k other other') :
    Handled.CutOff k (handled.orElse other) (handled'.orElse other') := by
  unfold Handled.CutOff at hfirst
  subst hfirst
  cases handled with
  | declined => exact hsecond
  | done a => rfl
  | crashes => rfl

end Handled.CutOff

section Handlers

variable {k : Nat} {a : Access} {key : Key}

theorem no_arity {A : Prop} {key' : Key} (harity : key.arity = some k)
    (hnone : key'.arity = none) (h : key = key') : A := by
  rw [h, hnone] at harity
  exact absurd harity (by simp)

theorem arity_eq {key' : Key} {n : Nat} (harity : key.arity = some k)
    (hsome : key'.arity = some n) (h : key = key') : k = n := by
  rw [h, hsome] at harity
  exact (Option.some.inj harity).symm

theorem handleRoute_cut (hk : 0 < k) :
    Handled.CutOff k (handleRoute key a) (handleRoute key (a.cut k)) := by
  refine .when (fun _ => ?_) .declined
  exact .ite (.respond _) (.parameter hk fun _ =>
    .ite (.assign _ _) (.ite (.assign _ _) (.fail _ _)))

theorem handleInput_cut (hk : 0 < k) :
    Handled.CutOff k (handleInput key a) (handleInput key (a.cut k)) :=
  .ite (fun _ => .declined) fun _ => .when (fun _ => .fail _ _) <|
    .when (fun _ => .keyword hk _ _) <|
    .when (fun _ => .ite (.fail _ _) (.number hk _ _ _)) <|
    .when (fun _ => .ite (.fail _ _) (.keyword hk _ _)) <| .when (fun _ => .boolean hk _) <|
    .when (fun _ => .queryOnly (.respond _)) .declined

theorem handleChannel_cut (hk : 0 < k) :
    Handled.CutOff k (handleChannel key a) (handleChannel key (a.cut k)) :=
  .when (fun _ => .fail _ _) <| .when (fun _ => .range hk _ _) <|
    .when (fun _ => .boolean hk _) <| .when (fun _ => .queryOnly (.respond _)) <|
    .when (fun _ => .number hk _ _ _) .declined

theorem handleSweep_cut (hk : 0 < k) (harity : key.arity = some k) :
    Handled.CutOff k (handleSweep key a) (handleSweep key (a.cut k)) := by
  refine .when (fun _ => .fail _ _) <| .when (fun _ => .boolean hk _) <|
    .when (fun _ => ?_) <| .when (fun _ => .number hk _ _ _) <|
    .when (fun _ => .integer hk _ _ _) <| .when (fun _ => .integer hk _ _ _) <|
    .when (no_arity harity rfl) <| .when (fun _ => .queryOnly (.respond _)) <|
    .when (fun _ => .queryOnly (.respond _)) .declined
  rw [CutOff.argument hk]
  exact .ite (.assign _ _) (.number hk _ _ _)

theorem handleSense_cut (hk : 0 < k) (harity : key.arity = some k) :
    Handled.CutOff k (handleSense key a) (handleSense key (a.cut k)) :=
  .ite (fun _ => handleChannel_cut hk) fun _ => .when (fun _ => .number hk _ _ _) <|
    .when (fun _ => .queryOnly (.respond _)) <| .when (no_arity harity rfl) <|
    .when (fun _ => .commandOnly (.assign _ _)) <|
    .when (fun _ => .commandOnly (.assign _ _)) <| .when (fun _ => .concurrent hk) <|
    .when (fun _ => .queryOnly (.respond _)) <|
    .ite (fun h => h.elim (no_arity harity rfl) (no_arity harity rfl)) fun _ =>
    .ite (fun _ => handleSweep_cut hk harity) fun _ => .declined

theorem handleSync_cut (hk : 0 < k) :
    Handled.CutOff k (handleSync key a) (handleSync key (a.cut k)) := by
  refine .when (fun _ => .boolean hk _) <| .when (fun _ => ?_) <|
    .when (fun _ => .number hk _ _ _) <| .when (fun _ => .keyword hk _ _) <|
    .when (fun _ => .keyword hk _ _) <| .when (fun _ => .boolean hk _) <|
    .when (fun _ => .syncFilterFrequency hk) <| .when (fun _ => .number hk _ _ _) .declined
  refine .ite (.respond _) (.parameter hk fun text => ?_)
  cases syncSourceOf text with
  | none => exact .fail _ _
  | some source => exact .assign _ _

theorem handleAcquisition_cut (hk : 0 < k) :
    Handled.CutOff k (handleAcquisition key a) (handleAcquisition key (a.cut k)) :=
  .when (fun _ => .boolean hk _) <| .when (fun _ => .commandOnly (.assign _ _)) <|
    .when (fun _ => .startSequence _) <| .when (fun _ => .commandOnly rfl) .declined

theorem timestamp_cut {key' : Key} (harity : key.arity = some k) (hsome : key'.arity = some 6)
    (h : key = key') : CutOff k a.timestamp (a.cut k).timestamp := by
  obtain rfl := arity_eq harity hsome h
  exact .timestamp

theorem handleTrigger_cut (hk : 0 < k) (harity : key.arity = some k) :
    Handled.CutOff k (handleTrigger key a) (handleTrigger key (a.cut k)) :=
  .when (fun _ => .triggerSource hk _) <| .when (fun _ => .triggerSource hk _) <|
    .when (fun _ => .number hk _ _ _) <| .when (fun _ => .number hk _ _ _) <|
    .when (fun _ => .keyword hk _ _) <| .when (fun _ => .keyword hk _ _) <|
    .when (fun h => h.elim (timestamp_cut harity rfl) (timestamp_cut harity rfl)) .declined

theorem handleCalculate_cut (hk : 0 < k) (harity : key.arity = some k) :
    Handled.CutOff k (handleCalculate key a) (handleCalculate key (a.cut k)) := by
  refine .when (fun _ => .transformOnce hk) <| .when (fun _ => .keyword hk _ _) <|
    .when (no_arity harity rfl) <| .when (fun _ => .number hk _ _ _) <|
    .when (fun _ => .number hk _ _ _) <| .when (fun _ => .cycles hk) <|
    .when (fun _ => .keyword hk _ _) <| .ite (no_arity harity rfl) fun _ =>
    .when (no_arity harity rfl) <| .when (no_arity harity rfl) <|
    .when (fun _ => .boolean hk _) <| .when (no_arity harity rfl) <|
    .when (fun _ => .commandOnly (.assign _ _)) <| .when (fun _ => .boolean hk _) <|
    .when (fun _ => .keyword hk _ _) <| .when (fun _ => .keyword hk _ _) <|
    .when (fun _ => .integralStart) <| .when (fun _ => .commandOnly (.assign _ _)) <|
    .when (fun h => h.elim (timestamp_cut harity rfl) (timestamp_cut harity rfl)) <|
    .when (fun _ => .number hk _ _ _) <| .when (fun _ => .integer hk _ _ _) <|
    .when (fun _ => .keyword hk _ _) <| .when (fun h => ?_) .declined
  obtain rfl := arity_eq harity rfl h
  exact .efficiencyReference

theorem traceFree_cut : Handled.CutOff k a.traceFree (a.cut k).traceFree :=
  .ite (fun _ => .done (.queryOnly .self)) fun _ =>
    .ite (fun _ => .done (.respond _)) fun _ => .crashes

theorem handleTrace_cut (harity : key.arity = some k) :
    Handled.CutOff k (handleTrace key a) (handleTrace key (a.cut k)) :=
  .ite (fun _ => traceFree_cut) fun _ => .when (fun _ => .queryOnly (.respond _)) <|
    .when (fun _ => .commandOnly (.assign _ _)) <|
    .ite (fun h => h.elim (no_arity harity rfl) fun h =>
      h.elim (no_arity harity rfl) (no_arity harity rfl)) fun _ => .declined

theorem handleFormat_cut (hk : 0 < k) (harity : key.arity = some k) :
    Handled.CutOff k (handleFormat key a) (handleFormat key (a.cut k)) :=
  .when (no_arity harity rfl) <| .when (no_arity harity rfl) <|
    .when (fun _ => .keyword hk _ _) <| .when (fun _ => .boolean hk _) .declined

theorem handleDisplayOutput_cut (hk : 0 < k) (harity : key.arity = some k) :
    Handled.CutOff k (handleDisplayOutput key a) (handleDisplayOutput key (a.cut k)) :=
  .when (fun _ => .boolean hk _) <| .when (no_arity harity rfl) <|
    .when (fun _ => .ite (.fail _ _) (.boolean hk _)) .declined

theorem handleSystem_cut (hk : 0 < k) (harity : key.arity = some k) :
    Handled.CutOff k (handleSystem key a) (handleSystem key (a.cut k)) := by
  refine .when (no_arity harity rfl) <| .when (no_arity harity rfl) <|
    .when (no_arity harity rfl) <| .when (fun _ => .keyword hk _ _) <|
    .when (fun _ => .ite (.respond _) (.parameter hk fun _ => .assign _ _)) <|
    .when (fun h => ?_) <| .when (fun h => ?_) <| .when (fun _ => .integer hk _ _ _) <|
    .when (fun _ => .integer hk _ _ _) .declined
  · obtain rfl := arity_eq harity rfl h
    exact .date
  · obtain rfl := arity_eq harity rfl h
    exact .time

theorem statusTarget_arity {reg : StatusRegister} {part : RegisterPart}
    (h : statusTarget key = some (reg, part)) (hpart : part = .condition ∨ part = .event) :
    key.arity = none := by
  cases key <;> cases h <;> first | rfl | simp at hpart

theorem handleStatus_cut (hk : 0 < k) (harity : key.arity = some k) :
    Handled.CutOff k (handleStatus key a) (handleStatus key (a.cut k)) := by
  unfold handleStatus
  split
  · exact .declined
  · next reg part htarget =>
    refine .done (.registerPart hk _ _ (not_or.mp fun hpart => ?_))
    exact absurd (harity.symm.trans (statusTarget_arity htarget hpart)) (by simp)

theorem handleTimer_cut (harity : key.arity = some k) :
    Handled.CutOff k (handleTimer key a) (handleTimer key (a.cut k)) :=
  .when (fun _ => .commandOnly (.assign _ _)) <| .when (fun _ => .queryOnly (.respond _)) <|
    .when (no_arity harity rfl) .declined

theorem dispatch_cut_zero (harity : key.arity = some 0) :
    Handled.CutOff 0 (dispatch key a) (dispatch key (a.cut 0)) := by
  cases key <;> cases harity
  case abor => exact Handled.CutOff.done (.commandOnly rfl)
  case initSeq => exact Handled.CutOff.done (.startSequence _)
  case initName => exact Handled.CutOff.done (.startSequence _)
  case calcIntStar => exact Handled.CutOff.done .integralStart
  case tracDelAll => exact Handled.CutOff.done (.commandOnly rfl)
  all_goals exact Handled.CutOff.done (.commandOnly (.assign _ _))

theorem dispatch_cut (harity : key.arity = some k) :
    Handled.CutOff k (dispatch key a) (dispatch key (a.cut k)) := by
  rcases Nat.eq_zero_or_pos k with rfl | hk
  · exact dispatch_cut_zero harity
  · exact (handleRoute_cut hk).orElse <| (handleInput_cut hk).orElse <|
      (handleSense_cut hk harity).orElse <| (handleSync_cut hk).orElse <|
      (handleAcquisition_cut hk).orElse <| (handleTrigger_cut hk harity).orElse <|
      (handleCalculate_cut hk harity).orElse <| (handleTrace_cut harity).orElse <|
      (handleFormat_cut hk harity).orElse <| (handleDisplayOutput_cut hk harity).orElse <|
      (handleSystem_cut hk harity).orElse <| (handleStatus_cut hk harity).orElse <|
      handleTimer_cut harity

theorem execute_cut (harity : key.arity = some k) :
    execute key (a.cut k) = (execute key a).map (·.cut k) := by
  have hdispatch : dispatch key (a.cut k) = (dispatch key a).cut k := dispatch_cut harity
  unfold execute
  rw [hdispatch]
  cases dispatch key a with
  | declined => rfl
  | done b => rfl
  | crashes => rfl

theorem common_pos {key key' : Text} (harity : commonArityOf key = some k)
    (hone : commonArityOf key' = some 1) (h : key = key') : 0 < k := by
  rw [h, hone] at harity
  obtain rfl := Option.some.inj harity
  exact Nat.one_pos

theorem handleCommon_cut {key : Text} (harity : commonArityOf key = some k) :
    Handled.CutOff k (handleCommon key a) (handleCommon key (a.cut k)) :=
  .when (fun _ => .queryOnly (.respond _)) <| .when (fun _ => .commandOnly rfl) <|
    .when (fun _ => .commandOnly rfl) <| .when (fun _ => .queryOnly (.respond _)) <|
    .when (fun _ => .queryOnly (.respond _)) <| .when (fun _ => .ite (.respond _) rfl) <|
    .when (fun _ => .commandOnly .self) <| .when (fun _ => .commandOnly (.assign _ _)) <|
    .when (fun h => .integer (common_pos harity rfl h) _ _ _) <|
    .when (fun _ => .queryOnly rfl) <|
    .when (fun h => .integer (common_pos harity rfl h) _ _ _) <|
    .when (fun _ => .queryOnly rfl) <|
    .when (fun h => .commandOnly (.readInteger (common_pos harity rfl h) fun _ => .assign _ _)) <|
    .when (fun h => .commandOnly (.readInteger (common_pos harity rfl h) fun _ =>
      .ite (.fail _ _) .self)) .declined

end Handlers

theorem handleCommon_done {key : Text} {k : Nat} (harity : commonArityOf key = some k)
    (a : Access) : handleCommon key a ≠ .declined := by
  obtain ⟨row, hfind, -⟩ := Option.map_eq_some_iff.mp harity
  have hmem := List.mem_of_find?_eq_some hfind
  have hkey : row.1 = key := by simpa using List.find?_some hfind
  rw [← hkey]
  simp only [commonArity, List.mem_cons, List.not_mem_nil, or_false] at hmem
  rcases hmem with rfl | rfl | rfl | rfl | rfl | rfl | rfl | rfl | rfl <;> exact nofun

section Commands

variable {sim : NormaSimulator} {path : List Token} {text text' : Text} {k : Nat}

theorem handleCommand_cut (harity : fixedArity path text = some k)
    (hparse : parseCommand text' =
      { parseCommand text with args := (parseCommand text).args.take k }) :
    handleCommand sim path text' = handleCommand sim path text := by
  rw [fixedArity] at harity
  unfold handleCommand
  rw [hparse]
  generalize parseCommand text = p at harity
  dsimp only at harity ⊢
  split
  · next hstar =>
    rw [if_pos hstar] at harity
    let a : Access := ⟨sim, p.command [⟨upper p.header, 0, false⟩] (upper p.header) []⟩
    have hcut : handleCommon (upper p.header) (a.cut k) = (handleCommon (upper p.header) a).cut k :=
      handleCommon_cut harity
    have hdone := handleCommon_done harity a
    change (handleCommon (upper p.header) (a.cut k)).outcome path (undefinedHeader sim path text') =
      (handleCommon (upper p.header) a).outcome path (undefinedHeader sim path text)
    rw [hcut]
    cases hhandled : handleCommon (upper p.header) a with
    | declined => exact absurd hhandled hdone
    | done b => rfl
    | crashes => rfl
  · next hstar =>
    rw [if_neg hstar] at harity
    unfold handleTree
    dsimp only
    cases hfind : findCommand (headerTokens path p.header) with
    | none => 
      rw [hfind] at harity
      cases harity
    | some found =>
      rw [hfind] at harity
      let tokens := headerTokens path p.header
      let a : Access := ⟨sim, p.command tokens found.1.text found.2⟩
      have hcut : execute found.1 (a.cut k) = (execute found.1 a).map (·.cut k) :=
        execute_cut harity
      refine (congrArg (Option.map (·.outcome tokens.dropLast)) hcut).trans ?_
      rw [Option.map_map]
      rfl

end Commands

namespace Step

variable (step : Step)

def Surplus : Prop :=
  step.isQuery = false ∧ ∃ k, fixedArity step.path step.text = some k ∧
    k < (parseCommand step.text).args.length

def RefusesSurplus : Prop := ∃ message,
  step.reported = some ⟨kParameterNotAllowed, message⟩ ∧
    step.after.sim = step.before.pushError kParameterNotAllowed message

end Step

theorem Step.Valid.never_refuses {step : Step} (h : step.Valid) : ¬step.RefusesSurplus := by
  rintro ⟨message, hreported, -⟩
  rcases h.reported with ⟨entry, hentry, hcode, -⟩ | ⟨hnone, -⟩
  · obtain rfl := Option.some.inj (hreported.symm.trans hentry)
    have hnever : kParameterNotAllowed ∉ raised := by decide
    exact hnever hcode
  · rw [hnone] at hreported
    cases hreported

theorem surplus_never_refused {step : Step} (hvalid : step.Valid) (hsurplus : step.Surplus) :
    ¬step.RefusesSurplus ∧ ∃ k, fixedArity step.path step.text = some k ∧
      k < (parseCommand step.text).args.length ∧
      ∀ text, parseCommand text =
          { parseCommand step.text with args := (parseCommand step.text).args.take k } →
        handleCommand step.before step.path text = some step.after := by
  obtain ⟨-, k, harity, hmore⟩ := hsurplus
  exact ⟨hvalid.never_refuses, k, harity, hmore, fun text htext =>
    (handleCommand_cut harity htext).trans hvalid⟩

theorem continuous_twice : ∃ out,
    Step.Valid ⟨.new {}, [], "INIT:CONT ON,OFF", out⟩ ∧
      Step.Surplus ⟨.new {}, [], "INIT:CONT ON,OFF", out⟩ := by
  have hparse : parseCommand "INIT:CONT ON,OFF" = ⟨"INIT:CONT", false, ["ON", "OFF"]⟩ := by
    decide +kernel
  have harity : fixedArity [] "INIT:CONT ON,OFF" = some 1 := by decide +kernel
  have hfind : findCommand (headerTokens [] "INIT:CONT") = some (.initCont, []) := by decide +kernel
  have hrun (a : Access) : execute .initCont a = some (a.boolean .continuous) := rfl
  have hout : handleCommand (.new {}) [] _ = _ := handleCommand_found hparse (by decide) hfind
  rw [hrun, Option.map_some] at hout
  refine ⟨_, hout, ?_, 1, harity, ?_⟩
  · rw [Step.isQuery, hparse]
  · rw [hparse]
    exact Nat.lt_succ_self 1

theorem continuous_not_refused : ∃ out,
    ¬Step.RefusesSurplus ⟨.new {}, [], "INIT:CONT ON,OFF", out⟩ := by
  obtain ⟨out, hvalid, hsurplus⟩ := continuous_twice
  exact ⟨out, (surplus_never_refused hvalid hsurplus).1⟩

theorem surplus_accepted : ¬∀ step : Step, Reachable step.before → step.Valid → step.Surplus →
    step.RefusesSurplus := by
  intro hall
  obtain ⟨out, hvalid, hsurplus⟩ := continuous_twice
  exact hvalid.never_refuses (hall _ (.new {}) hvalid hsurplus)

end Norma
