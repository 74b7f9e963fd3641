import Norma.ErrorQueue

namespace Norma

open ErrorCode

def Access.withErrors (a : Access) (errors : List ScpiErrorInfo) : Access :=
  { a with sim := a.sim.withErrors errors }

-- The same command with another error queue: both runs report one error, or neither fails.
inductive SameFailure (a : Access) (errors : List ScpiErrorInfo) : Access → Access → Prop where
  | failed (code : Int) (message : Text) (hcode : code ∈ raised) :
      SameFailure a errors (a.fail code message) ((a.withErrors errors).fail code message)
  | passed {b b' : Access} (hb : b.command.failed = a.command.failed)
      (hb' : b'.command.failed = a.command.failed) : SameFailure a errors b b'

namespace SameFailure

variable {a b b' c c' : Access} {errors : List ScpiErrorInfo}

theorem ite {p q : Prop} [Decidable p] [Decidable q] (hpq : p ↔ q)
    (hyes : SameFailure a errors b b') (hno : SameFailure a errors c c') :
    SameFailure a errors (if p then b else c) (if q then b' else c') := by
  by_cases h : p
  · rw [if_pos h, if_pos (hpq.mp h)]
    exact hyes
  · rw [if_neg h, if_neg (mt hpq.mpr h)]
    exact hno

theorem illegal (text : Text) :
    SameFailure a errors (a.illegal text) ((a.withErrors errors).illegal text) :=
  .failed _ _ (by decide)

theorem outOfRange (text : Text) :
    SameFailure a errors (a.outOfRange text) ((a.withErrors errors).outOfRange text) :=
  .failed _ _ (by decide)

theorem answerOr {text text' : Text} (h : SameFailure a errors b b') :
    SameFailure a errors (if a.command.query then a.respond text else b)
      (if a.command.query then (a.withErrors errors).respond text' else b') :=
  .ite Iff.rfl (.passed rfl rfl) h

theorem parameter {body body' : Text → Access}
    (hbody : ∀ text, SameFailure a errors (body text) (body' text)) :
    SameFailure a errors (a.parameter body) ((a.withErrors errors).parameter body') := by
  have hargument : (a.withErrors errors).command.argument = a.command.argument := rfl
  unfold Access.parameter
  rw [hargument]
  cases a.command.argument with
  | none => exact .failed _ _ (by decide)
  | some text => exact hbody text

theorem queryOnly (h : SameFailure a errors b b') :
    SameFailure a errors (a.queryOnly b) ((a.withErrors errors).queryOnly b') :=
  .ite Iff.rfl h (.failed _ _ (by decide))

theorem commandOnly (h : SameFailure a errors b b') :
    SameFailure a errors (a.commandOnly b) ((a.withErrors errors).commandOnly b') :=
  .ite Iff.rfl (.failed _ _ (by decide)) h

theorem number (f : Setting Float) (min max : Float) :
    SameFailure a errors (a.number f min max) ((a.withErrors errors).number f min max) := by
  refine .answerOr (.parameter fun text => ?_)
  cases parseNumber text with
  | none => exact .illegal text
  | some value => exact .ite Iff.rfl (.outOfRange text) (.passed rfl rfl)

theorem readInteger (min max : Int) {body body' : Int → Access}
    (hbody : ∀ value, SameFailure a errors (body value) (body' value)) :
    SameFailure a errors (a.readInteger min max body)
      ((a.withErrors errors).readInteger min max body') := by
  refine .parameter fun text => ?_
  cases parseNumber text with
  | none => exact .illegal text
  | some value => exact .ite Iff.rfl (.outOfRange text) (hbody _)

theorem integer (f : Setting Int) (min max : Int) :
    SameFailure a errors (a.integer f min max) ((a.withErrors errors).integer f min max) :=
  .answerOr (.readInteger min max fun _ => .passed rfl rfl)

theorem boolean (f : Setting Bool) :
    SameFailure a errors (a.boolean f) ((a.withErrors errors).boolean f) := by
  refine .answerOr (.parameter fun text => ?_)
  cases parseBoolean text with
  | none => exact .illegal text
  | some value => exact .passed rfl rfl

theorem keyword {A : Type} [DecidableEq A] (f : Setting A) (spellings : List (A × List Text)) :
    SameFailure a errors (a.keyword f spellings) ((a.withErrors errors).keyword f spellings) := by
  refine .answerOr (.parameter fun text => ?_)
  cases spellings.find? fun s => s.2.any fun name => upper text = upper name with
  | none => exact .illegal text
  | some spelling => exact .passed rfl rfl

theorem readFunctionList {body body' : List Text → Access}
    (hbody : ∀ names, SameFailure a errors (body names) (body' names)) :
    SameFailure a errors (a.readFunctionList id body)
      ((a.withErrors errors).readFunctionList id body') := by
  refine .ite Iff.rfl (.failed _ _ (by decide)) ?_
  have hargs : (a.withErrors errors).command.args = a.command.args := rfl
  rw [hargs]
  cases readFunctions a.command.args with
  | error raw => exact .illegal raw
  | ok names => exact hbody names

theorem functionList (f : Setting (List Text)) :
    SameFailure a errors (a.functionList f) ((a.withErrors errors).functionList f) :=
  .answerOr (.readFunctionList fun _ => .passed rfl rfl)

theorem range (config : Setting (ChannelConfig Float)) (ranges : Ranges) :
    SameFailure a errors (a.range config ranges) ((a.withErrors errors).range config ranges) := by
  refine .answerOr (.parameter fun text => ?_)
  cases parseNumber text with
  | none => exact .illegal text
  | some value => exact .ite Iff.rfl (.outOfRange text) (.passed rfl rfl)

theorem functions : SameFailure a errors a.functions (a.withErrors errors).functions :=
  .answerOr (.readFunctionList fun _ => .ite Iff.rfl (.failed _ _ (by decide)) (.passed rfl rfl))

theorem firstFunction_failed {p : Prop} [Decidable p] (b : Access) (names : List Text) :
    (if p then b.assign .functions names else b).command.failed = b.command.failed := by
  split <;> rfl

theorem concurrent : SameFailure a errors a.concurrent (a.withErrors errors).concurrent := by
  have hboolean : SameFailure a errors (a.boolean .concurrent)
      ((a.withErrors errors).boolean .concurrent) := .boolean .concurrent
  unfold Access.concurrent
  dsimp only
  generalize a.boolean .concurrent = b at hboolean
  generalize (a.withErrors errors).boolean .concurrent = b' at hboolean
  cases hboolean with
  | failed code message hcode =>
    rw [Change.fail_concurrent, Change.fail_concurrent, if_neg (by simp), if_neg (by simp)]
    exact .failed code message hcode
  | passed hb hb' =>
    exact .passed ((firstFunction_failed _ _).trans hb) ((firstFunction_failed _ _).trans hb')

theorem syncFilterFrequency :
    SameFailure a errors a.syncFilterFrequency (a.withErrors errors).syncFilterFrequency := by
  refine .answerOr (.parameter fun text => ?_)
  cases parseNumber text with
  | none => exact .illegal text
  | some value =>
    dsimp only
    cases ([100, 1.0e3, 1.0e4] : List Float).find?
        fun allowed => (value - allowed).abs ≤ allowed * 1e-6 with
    | none => exact .illegal text
    | some allowed => exact .passed rfl rfl

theorem triggerSource (f : Setting Text) :
    SameFailure a errors (a.triggerSource f) ((a.withErrors errors).triggerSource f) :=
  .answerOr (.parameter fun _ => .passed rfl rfl)

theorem startSequence (block : Int) :
    SameFailure a errors (a.startSequence block) ((a.withErrors errors).startSequence block) :=
  .commandOnly (.ite Iff.rfl (.outOfRange _) (.passed rfl rfl))

theorem timestamp : SameFailure a errors a.timestamp (a.withErrors errors).timestamp :=
  .commandOnly (.ite Iff.rfl (.failed _ _ (by decide)) (.passed rfl rfl))

theorem format (setting other : Setting DataFormatSetting) (fallback : DataFormat) :
    SameFailure a errors (a.format setting other fallback)
      ((a.withErrors errors).format setting other fallback) := by
  refine .answerOr (.parameter fun text => ?_)
  have hargs : (a.withErrors errors).command.args = a.command.args := rfl
  rw [hargs]
  cases formatOf text with
  | none => exact .illegal text
  | some format =>
    cases a.command.args[1]? with
    | none => exact .passed rfl rfl
    | some arg =>
      dsimp only
      cases parseNumber arg with
      | none => exact .illegal arg
      | some parsed => exact .passed rfl rfl

theorem operationComplete :
    SameFailure a errors a.operationComplete (a.withErrors errors).operationComplete :=
  .answerOr (.passed rfl rfl)

theorem saveSetup : SameFailure a errors a.saveSetup (a.withErrors errors).saveSetup :=
  .readInteger 10 24 fun _ => .passed rfl rfl

theorem recallSetup : SameFailure a errors a.recallSetup (a.withErrors errors).recallSetup :=
  .readInteger 1 24 fun _ => .ite Iff.rfl (.outOfRange _) (.passed rfl rfl)

theorem three {args : List Text} {body body' : Float → Float → Float → Access} {text : Text}
    {message : Text}
    (hbody : ∀ x y z, SameFailure a errors (body x y z) (body' x y z)) :
    SameFailure a errors
      (match args with
        | first :: second :: third :: _ =>
            match parseNumber first, parseNumber second, parseNumber third with
            | some x, some y, some z => body x y z
            | _, _, _ => a.illegal text
        | _ => a.fail kMissingParameter message)
      (match args with
        | first :: second :: third :: _ =>
            match parseNumber first, parseNumber second, parseNumber third with
            | some x, some y, some z => body' x y z
            | _, _, _ => (a.withErrors errors).illegal text
        | _ => (a.withErrors errors).fail kMissingParameter message) := by
  match args with
  | [] | [_] | [_, _] => exact .failed _ _ (by decide)
  | first :: second :: third :: _ =>
    dsimp only
    generalize parseNumber first = x
    generalize parseNumber second = y
    generalize parseNumber third = z
    match x, y, z with
    | some x, some y, some z => exact hbody x y z
    | none, _, _ | some _, none, _ | some _, some _, none => exact .illegal text

theorem date : SameFailure a errors a.date (a.withErrors errors).date :=
  .answerOr (three fun _ _ _ => .ite Iff.rfl (.outOfRange _) (.passed rfl rfl))

theorem time : SameFailure a errors a.time (a.withErrors errors).time :=
  .answerOr (three fun _ _ _ => .ite Iff.rfl (.outOfRange _) (.passed rfl rfl))

theorem transformOnce : SameFailure a errors a.transformOnce (a.withErrors errors).transformOnce :=
  .ite Iff.rfl (.failed _ _ (by decide))
    (.parameter fun text => .ite Iff.rfl (.passed rfl rfl) (.illegal text))

theorem cycles : SameFailure a errors a.cycles (a.withErrors errors).cycles :=
  .answerOr (.readInteger 4 12 fun _ => .ite Iff.rfl (.illegal _) (.passed rfl rfl))

theorem transformThd : SameFailure a errors a.transformThd (a.withErrors errors).transformThd :=
  .queryOnly (.ite Iff.rfl (.failed _ _ (by decide)) (.passed rfl rfl))

theorem integralStart :
    SameFailure a errors a.integralStart (a.withErrors errors).integralStart :=
  .commandOnly (.ite Iff.rfl (.failed _ _ (by decide)) (.passed rfl rfl))

theorem efficiencyReference :
    SameFailure a errors a.efficiencyReference (a.withErrors errors).efficiencyReference := by
  refine .ite Iff.rfl (.failed _ _ (by decide)) (.answerOr ?_)
  have hargs : (a.withErrors errors).command.args = a.command.args := rfl
  rw [hargs]
  match a.command.args with
  | [] | [_] => exact .failed _ _ (by decide)
  | input :: output :: _ => exact .passed rfl rfl

theorem registerPart (reg : StatusRegister) (part : RegisterPart) :
    SameFailure a errors (a.registerPart reg part) ((a.withErrors errors).registerPart reg part) := by
  cases part with
  | condition => exact .queryOnly (.passed rfl rfl)
  | event => exact .queryOnly (.passed rfl rfl)
  | enable => exact .integer _ 0 65535
  | positiveTransition => exact .integer _ 0 65535
  | negativeTransition => exact .integer _ 0 65535

theorem nextError : SameFailure a errors a.nextError (a.withErrors errors).nextError := by
  have hkeeps (b : Access) : b.nextError.command.failed = b.command.failed := by
    unfold Access.nextError
    split <;> rfl
  exact .passed (hkeeps a) (hkeeps _)

theorem allErrors : SameFailure a errors a.allErrors (a.withErrors errors).allErrors := by
  have hkeeps (b : Access) : b.allErrors.command.failed = b.command.failed := by
    unfold Access.allErrors
    split <;> rfl
  exact .passed (hkeeps a) (hkeeps _)

end SameFailure

inductive Handled.SameFailure (a : Access) (errors : List ScpiErrorInfo) : Handled → Handled → Prop
  where
  | declined : SameFailure a errors .declined .declined
  | done {b b' : Access} (h : Norma.SameFailure a errors b b') :
      SameFailure a errors (.done b) (.done b')
  | crashes : SameFailure a errors .crashes .crashes

namespace Handled.SameFailure

variable {a : Access} {errors : List ScpiErrorInfo} {first first' second second' : Handled}

theorem orElse (hfirst : SameFailure a errors first first')
    (hsecond : SameFailure a errors second second') :
    SameFailure a errors (first.orElse second) (first'.orElse second') := by
  cases hfirst with
  | declined => exact hsecond
  | done h => exact .done h
  | crashes => exact .crashes

theorem ite {p q : Prop} [Decidable p] [Decidable q] (hpq : p ↔ q)
    (hyes : SameFailure a errors first first') (hno : SameFailure a errors second second') :
    SameFailure a errors (if p then first else second) (if q then first' else second') := by
  by_cases h : p
  · rw [if_pos h, if_pos (hpq.mp h)]
    exact hyes
  · rw [if_neg h, if_neg (mt hpq.mpr h)]
    exact hno

theorem when {p : Prop} [Decidable p] {b b' : Access} (h : Norma.SameFailure a errors b b')
    (hno : SameFailure a errors second second') :
    SameFailure a errors (if p then .done b else second) (if p then .done b' else second') :=
  .ite Iff.rfl (.done h) hno

theorem ofResult {A : Type} {result : Option A} {body body' : A → Handled}
    (hbody : ∀ value, SameFailure a errors (body value) (body' value)) :
    SameFailure a errors (.ofResult result body) (.ofResult result body') := by
  cases result with
  | none => exact .crashes
  | some value => exact hbody value

end Handled.SameFailure

section Handlers

variable {a : Access} {errors : List ScpiErrorInfo}

theorem handleCommon_sameFailure (a : Access) (errors : List ScpiErrorInfo) (key : Text) :
    (handleCommon key a).SameFailure a errors (handleCommon key (a.withErrors errors)) :=
  .when (.queryOnly (.passed rfl rfl)) <| .when (.commandOnly (.passed rfl rfl)) <|
    .when (.commandOnly (.passed rfl rfl)) <| .when (.queryOnly (.passed rfl rfl)) <|
    .when (.queryOnly (.passed rfl rfl)) <| .when .operationComplete <|
    .when (.commandOnly (.passed rfl rfl)) <| .when (.commandOnly (.passed rfl rfl)) <|
    .when (.integer _ 0 255) <| .when (.queryOnly (.passed rfl rfl)) <| .when (.integer _ 0 255) <|
    .when (.queryOnly (.passed rfl rfl)) <| .when (.commandOnly .saveSetup) <|
    .when (.commandOnly .recallSetup) .declined

variable (key : Key)

theorem handleRoute_sameFailure :
    (handleRoute key a).SameFailure a errors (handleRoute key (a.withErrors errors)) :=
  .when (.answerOr (.parameter fun text => .ite Iff.rfl (.passed rfl rfl)
    (.ite Iff.rfl (.passed rfl rfl) (.illegal text)))) .declined

theorem handleInput_sameFailure :
    (handleInput key a).SameFailure a errors (handleInput key (a.withErrors errors)) :=
  .ite Iff.rfl .declined <| .ite Iff.rfl (.done (.outOfRange _)) <|
    .when (.keyword _ _) <| .when (.ite Iff.rfl (.failed _ _ (by decide)) (.number _ _ _)) <|
    .when (.ite Iff.rfl (.failed _ _ (by decide)) (.keyword _ _)) <| .when (.boolean _) <|
    .when (.queryOnly (.passed rfl rfl)) .declined

theorem handleChannel_sameFailure :
    (handleChannel key a).SameFailure a errors (handleChannel key (a.withErrors errors)) :=
  .ite Iff.rfl (.done (.outOfRange _)) <| .when (.range _ _) <| .when (.boolean _) <|
    .when (.queryOnly (.passed rfl rfl)) <| .when (.number _ _ _) .declined

theorem handleSweep_sameFailure :
    (handleSweep key a).SameFailure a errors (handleSweep key (a.withErrors errors)) :=
  .ite Iff.rfl (.done (.outOfRange _)) <| .when (.boolean _) <|
    .when (.ite Iff.rfl (.passed rfl rfl) (.number _ _ _)) <| .when (.number _ _ _) <|
    .when (.integer _ _ _) <| .when (.integer _ _ _) <| .when (.functionList _) <|
    .when (.queryOnly (.passed rfl rfl)) <| .when (.queryOnly (.passed rfl rfl)) .declined

theorem data_sameFailure (withStatus : Bool) :
    (a.data withStatus).SameFailure a errors ((a.withErrors errors).data withStatus) := by
  refine .ite Iff.rfl (.done (.queryOnly (.passed rfl rfl))) <|
    .ite Iff.rfl (.ofResult fun _ => .done (.passed rfl rfl)) <|
    .ite Iff.rfl (.done (.failed _ _ (by decide))) ?_
  have hargs : (a.withErrors errors).command.args = a.command.args := rfl
  rw [hargs]
  cases readFunctions a.command.args with
  | error raw => exact .done (.illegal raw)
  | ok names => exact .ofResult fun _ => .done (.passed rfl rfl)

theorem handleSense_sameFailure :
    (handleSense key a).SameFailure a errors (handleSense key (a.withErrors errors)) :=
  .ite Iff.rfl (handleChannel_sameFailure key) <| .when (.number _ _ _) <|
    .when (.queryOnly (.passed rfl rfl)) <| .when .functions <|
    .when (.commandOnly (.passed rfl rfl)) <| .when (.commandOnly (.passed rfl rfl)) <|
    .when .concurrent <| .when (.queryOnly (.passed rfl rfl)) <|
    .ite Iff.rfl (data_sameFailure _) <| .ite Iff.rfl (handleSweep_sameFailure key) .declined

theorem handleSync_sameFailure :
    (handleSync key a).SameFailure a errors (handleSync key (a.withErrors errors)) := by
  refine .when (.boolean _) <| .when ?_ <| .when (.number _ _ _) <| .when (.keyword _ _) <|
    .when (.keyword _ _) <| .when (.boolean _) <| .when .syncFilterFrequency <|
    .when (.number _ _ _) .declined
  refine .answerOr (.parameter fun text => ?_)
  cases syncSourceOf text with
  | none => exact .illegal text
  | some source => exact .passed rfl rfl

theorem handleAcquisition_sameFailure :
    (handleAcquisition key a).SameFailure a errors (handleAcquisition key (a.withErrors errors)) :=
  .when (.boolean _) <| .when (.commandOnly (.passed rfl rfl)) <| .when (.startSequence _) <|
    .when (.commandOnly (.passed rfl rfl)) .declined

theorem handleTrigger_sameFailure :
    (handleTrigger key a).SameFailure a errors (handleTrigger key (a.withErrors errors)) :=
  .when (.triggerSource _) <| .when (.triggerSource _) <| .when (.number _ _ _) <|
    .when (.number _ _ _) <| .when (.keyword _ _) <| .when (.keyword _ _) <|
    .when .timestamp .declined

theorem readWindow_sameFailure (firstArgument : Nat) {body body' : Window → Handled}
    (hbody : ∀ window, (body window).SameFailure a errors (body' window)) :
    (a.readWindow firstArgument body).SameFailure a errors
      ((a.withErrors errors).readWindow firstArgument body') := by
  have hargs : (a.withErrors errors).command.args = a.command.args := rfl
  unfold Access.readWindow
  rw [hargs]
  cases readCounts 3 (a.command.args.drop firstArgument) with
  | error arg => exact .done (.illegal arg)
  | ok counts => exact hbody _

theorem windowed_sameFailure (source : List Float) (window : Window) (format : Float → Text) :
    (a.windowed source window format).SameFailure a errors
      ((a.withErrors errors).windowed source window format) :=
  .ofResult fun _ => .done (.passed rfl rfl)

theorem handleCalculate_sameFailure :
    (handleCalculate key a).SameFailure a errors (handleCalculate key (a.withErrors errors)) :=
  .when .transformOnce <| .when (.keyword _ _) <| .when (.functionList _) <|
    .when (.number _ _ _) <| .when (.number _ _ _) <| .when .cycles <| .when (.keyword _ _) <|
    .ite Iff.rfl (.ite Iff.rfl (.done (.queryOnly (.passed rfl rfl)))
      (readWindow_sameFailure 0 fun window => windowed_sameFailure _ window _)) <|
    .when (.queryOnly (.passed rfl rfl)) <| .when .transformThd <| .when (.boolean _) <|
    .when (.functionList _) <| .when (.commandOnly (.passed rfl rfl)) <| .when (.boolean _) <|
    .when (.keyword _ _) <| .when (.keyword _ _) <| .when .integralStart <|
    .when (.commandOnly (.passed rfl rfl)) <| .when .timestamp <| .when (.number _ _ _) <|
    .when (.integer _ _ _) <| .when (.keyword _ _) <| .when .efficiencyReference .declined

theorem traceBlock_sameFailure {body body' : Fin 3 → Handled}
    (hbody : ∀ block, (body block).SameFailure a errors (body' block)) :
    (a.traceBlock body).SameFailure a errors ((a.withErrors errors).traceBlock body') := by
  have hargs : (a.withErrors errors).command.args = a.command.args := rfl
  unfold Access.traceBlock
  rw [hargs]
  cases a.command.args with
  | nil => exact .done (.failed _ _ (by decide))
  | cons arg args =>
    dsimp only
    cases parseNumber arg with
    | none => exact .done (.illegal arg)
    | some number => exact .ite Iff.rfl (.done (.illegal arg)) (hbody _)

theorem trace_sameFailure (status : Bool) (block : Fin 3) :
    (a.trace status block).SameFailure a errors ((a.withErrors errors).trace status block) := by
  have hpoints : tracePoints (a.withErrors errors).sim.state = tracePoints a.sim.state := rfl
  have hmeasure : measureAll (a.withErrors errors).sim.state = measureAll a.sim.state := rfl
  unfold Access.trace
  dsimp only
  rw [hpoints, hmeasure]
  exact readWindow_sameFailure 1 fun window => .ofResult fun _ =>
    .ite Iff.rfl (windowed_sameFailure _ window _) (windowed_sameFailure _ window _)

theorem traceFree_sameFailure :
    a.traceFree.SameFailure a errors (a.withErrors errors).traceFree := by
  have hpoints : tracePoints (a.withErrors errors).sim.state = tracePoints a.sim.state := rfl
  unfold Access.traceFree
  dsimp only
  rw [hpoints]
  exact .ite Iff.rfl (.done (.queryOnly (.passed rfl rfl)))
    (.ite Iff.rfl (.done (.passed rfl rfl)) .crashes)

theorem handleTrace_sameFailure :
    (handleTrace key a).SameFailure a errors (handleTrace key (a.withErrors errors)) :=
  .ite Iff.rfl traceFree_sameFailure <| .when (.queryOnly (.passed rfl rfl)) <|
    .when (.commandOnly (.passed rfl rfl)) <|
    .ite Iff.rfl (.ite Iff.rfl (.done (.queryOnly (.passed rfl rfl)))
      (traceBlock_sameFailure fun block =>
        .ite Iff.rfl (.done (.passed rfl rfl)) (trace_sameFailure _ block))) .declined

theorem handleFormat_sameFailure :
    (handleFormat key a).SameFailure a errors (handleFormat key (a.withErrors errors)) :=
  .when (.format _ _ _) <| .when (.format _ _ _) <| .when (.keyword _ _) <|
    .when (.boolean _) .declined

theorem handleDisplayOutput_sameFailure :
    (handleDisplayOutput key a).SameFailure a errors
      (handleDisplayOutput key (a.withErrors errors)) :=
  .when (.boolean _) <| .when (.functionList _) <|
    .when (.ite Iff.rfl (.failed _ _ (by decide)) (.boolean _)) .declined

theorem handleSystem_sameFailure :
    (handleSystem key a).SameFailure a errors (handleSystem key (a.withErrors errors)) :=
  .when (.queryOnly (.passed rfl rfl)) <| .when (.queryOnly .nextError) <|
    .when (.queryOnly .allErrors) <| .when (.keyword _ _) <|
    .when (.answerOr (.parameter fun _ => .passed rfl rfl)) <| .when .date <| .when .time <|
    .when (.integer _ _ _) <| .when (.integer _ _ _) .declined

theorem handleStatus_sameFailure :
    (handleStatus key a).SameFailure a errors (handleStatus key (a.withErrors errors)) := by
  unfold handleStatus
  cases statusTarget key with
  | none => exact .declined
  | some target => exact .done (.registerPart target.1 target.2)

theorem handleTimer_sameFailure :
    (handleTimer key a).SameFailure a errors (handleTimer key (a.withErrors errors)) :=
  .when (.commandOnly (.passed rfl rfl)) <| .when (.queryOnly (.passed rfl rfl)) <|
    .when (.failed _ _ (by decide)) .declined

theorem dispatch_sameFailure (a : Access) (errors : List ScpiErrorInfo) :
    (dispatch key a).SameFailure a errors (dispatch key (a.withErrors errors)) :=
  (handleRoute_sameFailure key).orElse <| (handleInput_sameFailure key).orElse <|
  (handleSense_sameFailure key).orElse <| (handleSync_sameFailure key).orElse <|
  (handleAcquisition_sameFailure key).orElse <| (handleTrigger_sameFailure key).orElse <|
  (handleCalculate_sameFailure key).orElse <| (handleTrace_sameFailure key).orElse <|
  (handleFormat_sameFailure key).orElse <| (handleDisplayOutput_sameFailure key).orElse <|
  (handleSystem_sameFailure key).orElse <| (handleStatus_sameFailure key).orElse <|
  handleTimer_sameFailure key

theorem execute_sameFailure (a : Access) (errors : List ScpiErrorInfo) :
    (execute key a = none ∧ execute key (a.withErrors errors) = none) ∨
      ∃ b b', execute key a = some b ∧ execute key (a.withErrors errors) = some b' ∧
        SameFailure a errors b b' := by
  have hsame := dispatch_sameFailure key a errors
  unfold execute
  generalize dispatch key a = handled at hsame
  generalize dispatch key (a.withErrors errors) = handled' at hsame
  cases hsame with
  | declined => exact .inr ⟨_, _, rfl, rfl, .failed _ _ (by decide)⟩
  | done h => exact .inr ⟨_, _, rfl, rfl, h⟩
  | crashes => exact .inl ⟨rfl, rfl⟩

end Handlers

inductive Outcome.SameFailure (sim : NormaSimulator) (errors : List ScpiErrorInfo)
    (out out' : Outcome) : Prop where
  | failed (code : Int) (message : Text) (hcode : code ∈ raised) (hstop : out.stop = true)
      (hsim : out.sim = sim.pushError code message)
      (hsim' : out'.sim = (sim.withErrors errors).pushError code message)
  | passed (hstop : out.stop = false) (hstop' : out'.stop = false)

section Commands

variable {sim : NormaSimulator} {errors : List ScpiErrorInfo} {path : List Token} {text : Text}

theorem SameFailure.outcome {command : Command} (hcommand : command.failed = false)
    {b b' : Access} (h : SameFailure ⟨sim, command⟩ errors b b') (rest : List Token) :
    Outcome.SameFailure sim errors (b.outcome rest) (b'.outcome rest) := by
  cases h with
  | failed code message hcode => exact .failed code message hcode rfl rfl rfl
  | passed hb hb' => exact .passed (hb.trans hcommand) (hb'.trans hcommand)

theorem undefinedHeader_sameFailure :
    Outcome.SameFailure sim errors (undefinedHeader sim path text)
      (undefinedHeader (sim.withErrors errors) path text) :=
  .failed _ _ (by decide) rfl rfl rfl

variable {out : Outcome}

theorem handleStar_sameFailure {p : Parsed} (h : handleStar sim path text p = some out) :
    ∃ out', handleStar (sim.withErrors errors) path text p = some out' ∧
      Outcome.SameFailure sim errors out out' := by
  unfold handleStar at h ⊢
  dsimp only at h ⊢
  have hsame := handleCommon_sameFailure
    ⟨sim, p.command [⟨upper p.header, 0, false⟩] (upper p.header) []⟩ errors (upper p.header)
  rw [Access.withErrors] at hsame
  generalize handleCommon _ ⟨sim, _⟩ = handled at h hsame
  generalize handleCommon _ ⟨sim.withErrors errors, _⟩ = handled' at hsame ⊢
  cases hsame with
  | declined =>
    obtain rfl := Option.some.inj h
    exact ⟨_, rfl, undefinedHeader_sameFailure⟩
  | done hdone =>
    obtain rfl := Option.some.inj h
    exact ⟨_, rfl, hdone.outcome rfl path⟩
  | crashes => cases h

theorem handleTree_sameFailure {p : Parsed} (h : handleTree sim path text p = some out) :
    ∃ out', handleTree (sim.withErrors errors) path text p = some out' ∧
      Outcome.SameFailure sim errors out out' := by
  unfold handleTree at h ⊢
  dsimp only at h ⊢
  cases hfind : findCommand (headerTokens path p.header) with
  | none =>
    rw [hfind] at h
    obtain rfl := Option.some.inj h
    exact ⟨_, rfl, undefinedHeader_sameFailure⟩
  | some found =>
    rw [hfind] at h
    dsimp only at h ⊢
    rcases execute_sameFailure found.1
        ⟨sim, p.command (headerTokens path p.header) found.1.text found.2⟩ errors with
      ⟨hnone, -⟩ | ⟨b, b', hb, hb', hsame⟩
    · rw [hnone] at h
      cases h
    · rw [Access.withErrors] at hb'
      rw [hb] at h
      obtain rfl := Option.some.inj h
      exact ⟨_, congrArg _ hb', hsame.outcome rfl _⟩

theorem handleCommand_sameFailure (errors : List ScpiErrorInfo)
    (h : handleCommand sim path text = some out) :
    ∃ out', handleCommand (sim.withErrors errors) path text = some out' ∧
      Outcome.SameFailure sim errors out out' := by
  unfold handleCommand at h ⊢
  dsimp only at h ⊢
  split at h
  · next hstar =>
    rw [if_pos hstar]
    exact handleStar_sameFailure h
  · next hstar =>
    rw [if_neg hstar]
    exact handleTree_sameFailure h

end Commands

end Norma
