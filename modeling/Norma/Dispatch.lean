import Norma.Change

namespace Norma

open ErrorCode

inductive Handled.Changed (a : Access) : Handled → Prop where
  | declined : Changed a .declined
  | done {b : Access} (hchange : Change a b) : Changed a (.done b)
  | crashes : Changed a .crashes

namespace Handled

variable {a : Access}

theorem Changed.orElse {first second : Handled} (hfirst : first.Changed a)
    (hsecond : second.Changed a) : (first.orElse second).Changed a := by
  cases hfirst with
  | declined => exact hsecond
  | done hchange => exact .done hchange
  | crashes => exact .crashes

theorem Changed.ite {p : Prop} [Decidable p] {yes no : Handled} (hyes : p → yes.Changed a)
    (hno : no.Changed a) : (if p then yes else no).Changed a := by
  split
  · next h => exact hyes h
  · exact hno

theorem Changed.otherwise {p : Prop} [Decidable p] {yes no : Handled} (hyes : yes.Changed a)
    (hno : ¬p → no.Changed a) : (if p then yes else no).Changed a := by
  split
  · exact hyes
  · next h => exact hno h

theorem Changed.ofResult {A : Type} {result : Option A} {body : A → Handled}
    (hbody : ∀ value, result = some value → (body value).Changed a) :
    (Handled.ofResult result body).Changed a := by
  cases result with
  | none => exact .crashes
  | some value => exact hbody value rfl

theorem Changed.when {p : Prop} [Decidable p] {b : Access} {no : Handled} (hyes : p → Change a b)
    (hno : no.Changed a) : (if p then .done b else no).Changed a :=
  .ite (fun h => .done (hyes h)) hno

theorem measurementResponse_oneLine {state : State} {signal : SimulatedSignal Float}
    {functions : List Text} {withStatus : Bool} {response : Text}
    (h : measurementResponse state signal functions withStatus = some response) :
    OneLine response := by
  unfold measurementResponse at h
  split at h
  · cases h
    exact .nil
  · split at h
    · cases h
      exact .binaryBlock _
    · obtain ⟨measurements, -, rfl⟩ := Option.map_eq_some_iff.mp h
      refine OneLine.append_iff.mpr ⟨.joinCommas fun text htext => ?_, ?_⟩
      · obtain ⟨m, -, rfl⟩ := List.mem_map.mp htext
        exact .formatValue _ _
      · split
        · refine .flatten fun text htext => ?_
          obtain ⟨status, hstatus, rfl⟩ := List.mem_map.mp htext
          obtain ⟨m, -, rfl⟩ := List.mem_map.mp hstatus
          exact OneLine.cons_iff.mpr ⟨rfl, .toText _⟩
        · exact .nil

theorem data_changed (withStatus : Bool)
    (hkey : a.command.key = Key.data.text ∨ a.command.key = Key.dataStat.text) :
    (a.data withStatus).Changed a := by
  unfold Access.data
  split
  · next hset => exact .done (.queryOnly fun hquery => absurd hquery (by simpa using hset))
  · next hset =>
    have hquery : a.command.query = true := by simpa using hset
    split
    · exact .ofResult fun response h => .done (.respond hquery (measurementResponse_oneLine h))
    · next hargs =>
      unfold Access.readFunctionList
      rw [if_neg hargs]
      split
      · next raw hread => exact .done (.illegal fun h => .readFunctions_error h.args hread)
      · next names hread =>
        exact .ofResult fun response h =>
          .done (.measured response hquery hread (measurementResponse_oneLine h) hkey hargs)

theorem readWindow_changed {firstArgument : Nat} {body : Window → Handled}
    (hbody : ∀ window, (body window).Changed a) : (a.readWindow firstArgument body).Changed a := by
  unfold Access.readWindow
  split
  · next arg hread =>
    refine .done (.illegal fun h => .readCounts_error (fun arg harg => ?_) hread)
    exact h.args arg (List.mem_of_mem_drop harg)
  · exact hbody _

theorem windowed_changed (hquery : a.command.query = true) (source : List Float)
    (window : Window) {format : Float → Text} (hformat : ∀ x, OneLine (format x)) :
    (a.windowed source window format).Changed a := by
  refine .ofResult fun values _ => .done (.respond hquery (.joinCommas fun text htext => ?_))
  obtain ⟨value, -, rfl⟩ := List.mem_map.mp htext
  exact hformat value

theorem transformData_changed : a.transformData.Changed a := by
  unfold Access.transformData
  split
  · next hset => exact .done (.queryOnly fun hquery => absurd hquery (by simpa using hset))
  · next hset =>
    exact readWindow_changed fun window =>
      windowed_changed (by simpa using hset) _ _ (.formatValue _)

theorem traceFree_changed : a.traceFree.Changed a := by
  unfold Access.traceFree
  split
  · next hset => exact .done (.queryOnly fun hquery => absurd hquery (by simpa using hset))
  · next hset =>
    have hquery : a.command.query = true := by simpa using hset
    exact .ite (fun _ => .done (.respond hquery (.toText _))) .crashes

theorem tracePreamble_change (hquery : a.command.query = true) (block : Fin 3) :
    Change a (a.tracePreamble block) := by
  refine .respond hquery (.joinCommas fun text htext => ?_)
  simp only [List.mem_cons, List.not_mem_nil, or_false] at htext
  rcases htext with rfl | rfl | rfl | rfl
  · exact .toText _
  · exact .toText _
  · exact .formatSetting _
  · exact .formatSetting _

theorem trace_changed (hquery : a.command.query = true) (status : Bool) (block : Fin 3) :
    (a.trace status block).Changed a := by
  unfold Access.trace
  exact readWindow_changed fun window => .ofResult fun measurements _ =>
    .ite (fun _ => windowed_changed hquery _ _ .formatSetting)
      (windowed_changed hquery _ _ (.formatValue _))

theorem traceBlock_changed {body : Fin 3 → Handled} (hbody : ∀ block, (body block).Changed a) :
    (a.traceBlock body).Changed a := by
  unfold Access.traceBlock
  split
  · exact .done (.missing (by decide))
  · next arg rest hargs =>
    have harg : a.TextsOneLine → OneLine arg := fun h => h.args arg (by simp [hargs])
    split
    · exact .done (.illegal harg)
    · split
      · exact .done (.illegal harg)
      · exact hbody _

end Handled

section Handlers

variable {a : Access}

theorem handleCommon_changed {key : Text} (hkey : a.command.key = key) :
    (handleCommon key a).Changed a :=
  .when (fun _ => .queryOnly .identification) <|
    .when (fun h => .commandOnly (.reset (hkey.trans h))) <|
    .when (fun h => .commandOnly (.clearStatus (hkey.trans h))) <|
    .when (fun _ => .queryOnly fun hquery => .answered _ hquery fun h => h.options.optionsResponse) <|
    .when (fun _ => .queryOnly .learn) <|
    .when (fun h => .operationCompleteOr (hkey.trans h)) <|
    .when (fun _ => .commandOnly .unchanged) <|
    .when (fun _ => .commandOnly fun hset => .assign hset .initiated) <|
    .when (fun _ => .integerSetting .eventStatusEnable) <|
    .when (fun h => .queryOnly (.readEventStatus (hkey.trans h))) <|
    .when (fun h => .integer fun _ hlow hhigh hgiven =>
      .serviceRequestEnable hlow hhigh (hkey.trans h) hgiven) <|
    .when (fun h => .queryOnly (.statusByte (hkey.trans h))) <|
    .when (fun _ => .commandOnly .saveSetup) <| .when (fun _ => .commandOnly .recallSetup) .declined

variable (key : Key)

theorem handleRoute_changed : (handleRoute key a).Changed a := by
  refine .when (fun _ => ?_) .declined
  refine .answerOr (fun _ => ?_) fun hset => .parameter fun text hargument => ?_
  · split <;> decide
  · split
    · exact .assign hset (.wiringSystem _)
    · split
      · exact .assign hset (.wiringSystem _)
      · exact .illegal fun h => h.argument hargument

theorem handleInput_changed (hkey : a.command.key = key.text) :
    (handleInput key a).Changed a := by
  refine .ite (fun _ => .declined) <|
    .otherwise (.done (.outOfRange fun _ => OneLine.append_iff.mpr ⟨by decide, .toText _⟩))
      fun hchannel => ?_
  refine .when (fun _ => .keyword (.coupling _) (by decide)) <| .when (fun h => ?_) <|
    .when (fun _ => ?_) <| .when (fun _ => .boolean (.filter _)) <|
    .when (fun _ => .queryOnly fun hquery => .respond hquery (.formatSetting _)) .declined
  · split
    · exact .failFixed (by decide) (by decide)
    · next hodd =>
      rw [not_or, Int.not_lt, Int.not_lt] at hchannel
      exact .number (.gain _) (.inr (.inl ⟨by rw [hkey, h], hchannel.1, hchannel.2, hodd⟩))
  · split
    · exact .failFixed (by decide) (by decide)
    · exact .keyword (.shunt _) (by decide)

theorem channelSetting (options : SimulatorOptions) (phase : Fin (kMaxPhase + 1)) :
    ChannelSetting options
      (if key.isVoltage then Setting.voltage.entry phase else Setting.current.entry phase)
      (if key.isVoltage then options.voltageRanges else options.currentRanges) := by
  split
  · exact .voltage phase
  · exact .current phase

theorem handleChannel_changed (hkey : a.command.key = key.text) :
    (handleChannel key a).Changed a := by
  have hconfig := channelSetting key a.sim.options
    (Fin.ofNat (kMaxPhase + 1) (a.command.suffix).toNat)
  refine .otherwise (.done (.outOfRange fun _ => OneLine.append_iff.mpr ⟨by decide, .toText _⟩))
    fun hphase => ?_
  rw [not_or, Int.not_lt, Int.not_lt] at hphase
  exact .when (fun _ => .range hconfig) <| .when (fun _ => .boolean (.autorange hconfig)) <|
    .when (fun _ => .queryOnly fun hquery => .respond hquery (.joinValues _)) <|
    .when (fun h => .number (.scale hconfig)
      (.inr (.inr (.inl ⟨by rw [hkey]; rcases h with rfl | rfl <;> simp, hphase⟩)))) .declined

theorem addressesBlock (h : 1 ≤ a.command.suffix ∧ a.command.suffix ≤ 2) :
    a.AddressesBlock (Fin.ofNat _ a.command.suffix.toNat) := by
  obtain hone | htwo : a.command.suffix = 1 ∨ a.command.suffix = 2 := by omega
  · rw [Access.AddressesBlock, hone]
    exact ⟨by decide, rfl⟩
  · rw [Access.AddressesBlock, htwo]
    exact ⟨by decide, rfl⟩

theorem handleSweep_changed (hkey : a.command.key = key.text) :
    (handleSweep key a).Changed a := by
  refine .otherwise (.done (.outOfRange fun _ => OneLine.append_iff.mpr ⟨by decide, .toText _⟩))
    fun hblock => ?_
  rw [not_or, Int.not_lt, Int.not_lt] at hblock
  have haddress := addressesBlock hblock
  refine .when (fun h => .booleanOf fun _ hgiven =>
      .sweepState (by rw [hkey, h]) haddress hgiven) <| .when (fun h => ?_) <|
    .when (fun h => .number (.sweepOffsetTime _)
      (.inr (.inr (.inr ⟨by rw [hkey, h]; simp, hblock⟩)))) <|
    .when (fun _ => .integerSetting (.sweepCount _)) <|
    .when (fun _ => .integerSetting (.sweepSparsing _)) <|
    .when (fun _ => .functionList (.sweep _) fun h => h.state.sweep _) <|
    .when (fun _ => .queryOnly fun hquery => .respond hquery (.toText _)) <|
    .when (fun _ => .queryOnly fun hquery => .respond hquery (.toText _)) .declined
  split
  · next hmax =>
    simp only [Bool.and_eq_true, Bool.not_eq_true'] at hmax
    exact .assign hmax.1 (.longestSweep _)
  · exact .number (.sweepTime _) (.inr (.inr (.inr ⟨by rw [hkey, h]; simp, hblock⟩)))

theorem single_number {key' : Key} {f : Setting Float} {min max : Float}
    (hsetting : NumberSetting a f min max) (hkey : a.command.key = key.text) (h : key = key')
    (hmem : key' ∈ [Key.aper, .syncLev, .syncTim, .trigStarLev, .trigStopLev, .calcTranFreqStar,
      .calcTranFreqStop, .calcIntStopTint]) : Change a (a.number f min max) :=
  .number hsetting (.inl (by rw [hkey, h]; exact List.mem_map_of_mem hmem))

theorem handleSense_changed (hkey : a.command.key = key.text) :
    (handleSense key a).Changed a := by
  refine .ite (fun _ => handleChannel_changed key hkey) <|
    .when (fun h => single_number key (.aperture (by rw [hkey, h])) hkey h (by simp)) <|
    .when (fun _ => .queryOnly fun hquery => .respond hquery (.formatSetting _)) <|
    .when (fun h => .functions (by rw [hkey, h])) <|
    .when (fun h => .commandOnly fun hset => .assign hset (.allFunctions (by rw [hkey, h]))) <|
    .when (fun _ => .commandOnly fun hset => .assign hset .noFunctions) <|
    .when (fun _ => .concurrent) <|
    .when (fun _ => .queryOnly fun hquery => .respond hquery (.toText _)) <|
    .ite (fun h => Handled.data_changed _ ?_) <|
    .ite (fun _ => handleSweep_changed key hkey) .declined
  rw [hkey]
  rcases h with rfl | rfl
  · exact .inl rfl
  · exact .inr rfl

theorem syncSourceOf_oneLine {text source : Text} (h : syncSourceOf text = some source) :
    OneLine source := by
  unfold syncSourceOf at h
  have hnode (voltage : Bool) : OneLine (if voltage then "VOLT" else "CURR" : Text) := by
    cases voltage <;> decide
  dsimp only at h
  split at h
  · cases h
    decide
  · split at h
    · cases h
      exact OneLine.append_iff.mpr ⟨hnode _, .toText _⟩
    · split at h
      · cases h
        exact OneLine.append_iff.mpr ⟨hnode _, by decide⟩
      · cases h

theorem handleSync_changed (hkey : a.command.key = key.text) :
    (handleSync key a).Changed a := by
  refine .when (fun _ => .boolean .syncEnabled) <| .when (fun _ => ?_) <|
    .when (fun h => single_number key (.syncLevel (by rw [hkey, h])) hkey h (by simp)) <|
    .when (fun h => .keywordOf (by decide) fun text _ names hargument hfind =>
      .syncLevelUnit (by rw [hkey, h]) ⟨text, names, hargument, hfind⟩) <|
    .when (fun _ => .keyword .syncSlope (by decide)) <| .when (fun _ => .boolean .syncFilter) <|
    .when (fun _ => .syncFilterFrequency) <|
    .when (fun h => single_number key .syncTimeout hkey h (by simp)) .declined
  refine .answerOr (fun h => h.state.syncSource) fun hset => .parameter fun text hargument => ?_
  split
  · exact .illegal fun h => h.argument hargument
  · next source hsource => exact .assign hset (.syncSource hsource)

theorem handleAcquisition_changed (hkey : a.command.key = key.text) :
    (handleAcquisition key a).Changed a := by
  refine .when (fun _ => .boolean .continuous) <|
    .when (fun _ => .commandOnly fun hset => .assign hset .initiated) <|
    .when (fun h => .startSequence fun hlow hhigh => ?_) <|
    .when (fun _ => .commandOnly fun hset => .stored hset .abort) .declined
  split at hlow
  · next hseq =>
    rw [if_pos hseq] at hhigh ⊢
    exact .inl ⟨by rw [hkey, hseq], addressesBlock ⟨hlow, hhigh⟩⟩
  · next hseq =>
    rw [if_neg hseq]
    exact .inr ⟨by rw [hkey, h.resolve_left hseq], rfl⟩

theorem handleTrigger_changed (hkey : a.command.key = key.text) :
    (handleTrigger key a).Changed a :=
  .when (fun _ => .triggerSource .start fun h => h.state.triggerStartSource) <|
    .when (fun _ => .triggerSource .stop fun h => h.state.triggerStopSource) <|
    .when (fun h => single_number key .triggerStartLevel hkey h (by simp)) <|
    .when (fun h => single_number key .triggerStopLevel hkey h (by simp)) <|
    .when (fun _ => .keyword .triggerStartSlope (by decide)) <|
    .when (fun _ => .keyword .triggerStopSlope (by decide)) <|
    .when (fun _ => .timestamp) .declined

theorem handleCalculate_changed (hkey : a.command.key = key.text) :
    (handleCalculate key a).Changed a :=
  .when (fun _ => .transformOnce) <| .when (fun _ => .keyword .transformMode (by decide)) <|
    .when (fun _ => .functionList .transform fun h => h.state.transformFunctions) <|
    .when (fun h => single_number key .transformStart hkey h (by simp)) <|
    .when (fun h => single_number key .transformStop hkey h (by simp)) <|
    .when (fun _ => .cycles) <| .when (fun _ => .keyword .transformGrouping (by decide)) <|
    .ite (fun _ => Handled.transformData_changed) <| .when (fun _ => .transformPreamble) <|
    .when (fun _ => .transformThd) <|
    .when (fun h => .booleanOf fun _ hgiven => .integralState (by rw [hkey, h]) hgiven) <|
    .when (fun _ => .functionList .integral fun h => h.state.integralFunctions) <|
    .when (fun _ => .commandOnly fun hset => .assign hset .timer) <|
    .when (fun _ => .boolean .integralAutoClear) <|
    .when (fun _ => .keyword .integralStartSource (by decide)) <|
    .when (fun _ => .keyword .integralStopSource (by decide)) <|
    .when (fun _ => .integralStart) <|
    .when (fun _ => .commandOnly fun hset => .assign hset .integralStop) <|
    .when (fun _ => .timestamp) <|
    .when (fun h => single_number key .integralStopInterval hkey h (by simp)) <|
    .when (fun _ => .integerSetting .harmonicOrder) <|
    .when (fun _ => .keyword .powerCorrection (by decide)) <|
    .when (fun h => .efficiencyReference (by rw [hkey, h])) .declined

theorem handleTrace_changed : (handleTrace key a).Changed a := by
  refine .ite (fun _ => Handled.traceFree_changed) <|
    .when (fun _ => .queryOnly fun hquery => .respond hquery (.toText _)) <|
    .when (fun _ => .commandOnly fun hset => .stored hset .deleteAll) <|
    .ite (fun _ => ?_) .declined
  split
  · next hset => exact .done (.queryOnly fun hquery => absurd hquery (by simpa using hset))
  · next hset =>
    have hquery : a.command.query = true := by simpa using hset
    refine Handled.traceBlock_changed fun block => ?_
    split
    · exact .done (Handled.tracePreamble_change hquery block)
    · exact Handled.trace_changed hquery _ block

theorem handleFormat_changed (hkey : a.command.key = key.text) : (handleFormat key a).Changed a :=
  .when (fun h => .format .data (by rw [hkey, h])) <|
    .when (fun h => .format .status (by rw [hkey, h])) <|
    .when (fun _ => .keyword .byteOrder (by decide)) <|
    .when (fun _ => .boolean .transpose) .declined

theorem handleDisplayOutput_changed : (handleDisplayOutput key a).Changed a := by
  refine .when (fun _ => .boolean .displayEnabled) <|
    .when (fun _ => .functionList .display fun h => h.state.displayFunctions) <|
    .when (fun _ => ?_) .declined
  split
  · exact .fail (by decide) fun _ => OneLine.append_iff.mpr ⟨by decide, .toText _⟩
  · exact .boolean .outputEnabled

theorem handleSystem_changed (hkey : a.command.key = key.text) : (handleSystem key a).Changed a :=
  .when (fun _ => .queryOnly fun hquery => .answered _ hquery fun h => h.options.scpiVersion) <|
    .when (fun h => .queryOnly (.nextError (by rw [hkey, h]))) <|
    .when (fun h => .queryOnly (.allErrors (by rw [hkey, h]))) <|
    .when (fun _ => .keyword .keyLock (by decide)) <|
    .when (fun _ => .answerOr (fun h => h.state.language.quote) fun hset =>
      .parameter fun _ hargument => .assign hset (.language hargument)) <|
    .when (fun h => .date (by rw [hkey, h])) <| .when (fun h => .time (by rw [hkey, h])) <|
    .when (fun _ => .integerSetting .gpibAddress) <|
    .when (fun _ => .integerSetting .serialBaud) .declined

theorem statusTarget_event {key : Key} {reg : StatusRegister} :
    statusTarget key = some (reg, .event) ↔ key = eventKey reg := by
  constructor
  · intro h
    cases key <;> cases h <;> rfl
  · rintro rfl
    cases reg <;> rfl

theorem handleStatus_changed (hkey : a.command.key = key.text) :
    (handleStatus key a).Changed a := by
  unfold handleStatus
  split
  · exact .declined
  · next reg part htarget =>
    refine .done (.registerPart fun hpart => ?_)
    subst hpart
    rw [hkey, statusTarget_event.mp htarget]

theorem handleTimer_changed : (handleTimer key a).Changed a :=
  .when (fun _ => .commandOnly fun hset => .assign hset .timer) <|
    .when (fun _ => .queryOnly fun hquery => .respond hquery (.formatSetting _)) <|
    .when (fun _ => .failFixed (by decide) (by decide)) .declined

theorem dispatch_changed (hkey : a.command.key = key.text) : (dispatch key a).Changed a :=
  (handleRoute_changed key).orElse <| (handleInput_changed key hkey).orElse <|
  (handleSense_changed key hkey).orElse <| (handleSync_changed key hkey).orElse <|
  (handleAcquisition_changed key hkey).orElse <| (handleTrigger_changed key hkey).orElse <|
  (handleCalculate_changed key hkey).orElse <| (handleTrace_changed key).orElse <|
  (handleFormat_changed key hkey).orElse <| (handleDisplayOutput_changed key).orElse <|
  (handleSystem_changed key hkey).orElse <| (handleStatus_changed key hkey).orElse <|
  handleTimer_changed key

theorem execute_change {key : Key} {b : Access} (hkey : a.command.key = key.text)
    (h : execute key a = some b) : Change a b := by
  have hchanged := dispatch_changed key hkey
  unfold execute at h
  generalize dispatch key a = handled at h hchanged
  cases hchanged with
  | done hchange =>
    obtain rfl := Option.some.inj h
    exact hchange
  | declined =>
    obtain rfl := Option.some.inj h
    exact .fail (by decide) fun hlines =>
      OneLine.append_iff.mpr ⟨by decide, hkey ▸ hlines.key⟩
  | crashes => cases h

end Handlers

end Norma
