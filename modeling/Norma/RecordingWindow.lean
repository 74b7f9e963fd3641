import Norma.Lib.Matrix
import Norma.PreambleData
import Norma.Windows

namespace Norma

open CNumber Progression
open FunctionList (sweepIndex)

-- The window of a recording as the manual has it: the function and the point of each entry.
def documentedEntries (transpose : Bool) (m n count offset step : Nat) : List (Nat × Nat) :=
  let points := positions n count offset step
  if transpose then (List.range m).flatMap fun function => points.map (function, ·)
  else points.flatMap fun point => (List.range m).map (·, point)

section Entries

variable {transpose : Bool} {m n count offset step : Nat}

def entryIndex (n : Nat) (entry : Nat × Nat) : Nat := entry.1 * n + entry.2

theorem documentedEntries_mem {entry : Nat × Nat}
    (h : entry ∈ documentedEntries transpose m n count offset step) :
    entry.1 < m ∧ entry.2 < n := by
  unfold documentedEntries at h
  split at h
  · obtain ⟨function, hfunction, hmem⟩ := List.mem_flatMap.mp h
    obtain ⟨point, hpoint, rfl⟩ := List.mem_map.mp hmem
    exact ⟨List.mem_range.mp hfunction, mem_positions_lt hpoint⟩
  · obtain ⟨point, hpoint, hmem⟩ := List.mem_flatMap.mp h
    obtain ⟨function, hfunction, rfl⟩ := List.mem_map.mp hmem
    exact ⟨List.mem_range.mp hfunction, mem_positions_lt hpoint⟩

theorem entryIndex_split {entry : Nat × Nat} (h : entry.2 < n) :
    entryIndex n entry / n = entry.1 ∧ entryIndex n entry % n = entry.2 := by
  have hpos : 0 < n := Nat.zero_lt_of_lt h
  rw [entryIndex, Nat.mul_comm]
  exact ⟨by rw [Nat.mul_add_div hpos, Nat.div_eq_of_lt h, Nat.add_zero],
    by rw [Nat.mul_add_mod, Nat.mod_eq_of_lt h]⟩

theorem documentedEntries_index (hstep : 0 < step) :
    (documentedEntries transpose m n count offset step).map (entryIndex n) =
      let k := taken n count offset step
      if transpose then flattened m k fun row i => row * n + (offset + i * step)
      else flattened k m fun i row => row * n + (offset + i * step) := by
  unfold documentedEntries flattened
  rw [positions_eq hstep, terms]
  cases transpose with
  | true =>
    simp only [if_true, List.map_flatMap, List.map_map]
    rfl
  | false =>
    simp only [Bool.false_eq_true, if_false, List.flatMap_map, List.map_flatMap, List.map_map]
    rfl

def ServesDocumented (transpose : Bool) (m n count offset step : Nat) : Prop :=
  ∀ value : Nat → Nat → Float, applyWindow (flattened m n value) ⟨count, offset, step⟩ =
    some ((documentedEntries transpose m n count offset step).map fun entry =>
      value entry.1 entry.2)

-- The number of values in the recording, in `int`.
def recordingLength (m n : Nat) : Nat := (toInt32 (m * n : Nat)).toNat

def IndexFits (m n count offset step : Nat) : Prop :=
  0 < taken (recordingLength m n) count offset step →
    offset + taken (recordingLength m n) count offset step * step < 2 ^ 31

instance : Decidable (IndexFits m n count offset step) := by
  unfold IndexFits
  infer_instance

theorem applyWindow_recording (hstep : 1 ≤ step) (value : Nat → Nat → Float) :
    applyWindow (flattened m n value) ⟨count, offset, step⟩ =
      if IndexFits m n count offset step then
        some (pick (flattened m n value) (positions (recordingLength m n) count offset step))
      else none := by
  have hmax : max step 1 = step := by omega
  have hlength : (flattened m n value).length = m * n := by
    rw [flattened_eq, List.length_map, List.length_range]
  have heq := applyWindow_eq (flattened m n value) ⟨count, offset, step⟩
  simp only [hlength, Int.toNat_natCast, hmax] at heq
  rw [heq]
  exact if_congr Iff.rfl rfl rfl

theorem servesDocumented_iff (hstep : 1 ≤ step) :
    ServesDocumented transpose m n count offset step ↔
      IndexFits m n count offset step ∧
        positions (recordingLength m n) count offset step =
          (documentedEntries transpose m n count offset step).map (entryIndex n) := by
  classical
  have hpick (value : Nat → Nat → Float) : pick (flattened m n value)
      (positions (recordingLength m n) count offset step) =
        (positions (recordingLength m n) count offset step).map fun i =>
          value (i / n) (i % n) := by
    rw [flattened_eq]
    exact pick_range _ fun i hi => Nat.lt_of_lt_of_le (mem_positions_lt hi) (toInt32_le_length _)
  have hentries (value : Nat → Nat → Float) :
      ((documentedEntries transpose m n count offset step).map fun entry =>
        value entry.1 entry.2) =
      ((documentedEntries transpose m n count offset step).map (entryIndex n)).map fun i =>
        value (i / n) (i % n) := by
    rw [List.map_map]
    refine List.map_congr_left fun entry hentry => ?_
    obtain ⟨hdiv, hmod⟩ := entryIndex_split (documentedEntries_mem hentry).2
    simp only [Function.comp_apply, hdiv, hmod]
  constructor
  · intro hserves
    have hfits : IndexFits m n count offset step := by
      by_contra hbeyond
      have hnone := hserves fun _ _ => 0
      rw [applyWindow_recording hstep, if_neg hbeyond] at hnone
      cases hnone
    refine ⟨hfits, map_separates (A := Float) fun g => ?_⟩
    have hserved := hserves fun function point => g (function * n + point)
    rw [applyWindow_recording hstep, if_pos hfits, hpick] at hserved
    have hindex (i : Nat) : i / n * n + i % n = i := by
      rw [Nat.mul_comm]
      exact Nat.div_add_mod i n
    have hlists := Option.some.inj hserved
    simp only [hindex] at hlists
    rw [List.map_map]
    exact hlists
  · rintro ⟨hfits, hpositions⟩ value
    rw [applyWindow_recording hstep, if_pos hfits, hpick, hentries, hpositions]

def WindowInOrder (transpose : Bool) (m n count offset step : Nat) : Prop :=
  m ≤ 1 ∨ (n ≤ offset ∧ recordingLength m n ≤ offset) ∨
    (m * n < 2 ^ 31 ∧ (if transpose then step ∣ n else step = n) ∧ offset < step ∧
      (count = 0 ∨ m * n ≤ count * step))

instance : Decidable (WindowInOrder transpose m n count offset step) := by
  unfold WindowInOrder
  infer_instance

theorem recordingLength_le (m n : Nat) : recordingLength m n ≤ m * n := toInt32_le_length (m * n)

theorem recordingLength_small (h : m * n < 2 ^ 31) : recordingLength m n = m * n := by
  rw [recordingLength, toInt32_small h, Int.toNat_natCast]

theorem recordingLength_short (h : 2 ^ 31 ≤ m * n) : recordingLength m n + 2 ^ 31 ≤ m * n := by
  unfold recordingLength toInt32
  rw [Int.bmod_def]
  split <;> omega

theorem taken_multiple (hstep : 1 ≤ step) (hoffset : offset < step) (t : Nat) :
    taken (t * step) count offset step = if count = 0 then t else min count t := by
  rw [taken, total_multiple hstep hoffset]

theorem taken_le_total (n count offset step : Nat) :
    taken n count offset step ≤ total n offset step := by
  unfold taken
  split
  · exact Nat.le_refl _
  · exact Nat.min_le_right _ _

theorem taken_rows_iff (hstep : 1 ≤ step) (hbound : step < 2 ^ 31) (hpoints : offset < n)
    (hm : 1 < m) :
    (taken (recordingLength m n) count offset step = m * taken n count offset step ∧
        taken n count offset step * step = n) ↔
      m * n < 2 ^ 31 ∧ step ∣ n ∧ offset < step ∧ (count = 0 ∨ m * n ≤ count * step) := by
  constructor
  · rintro ⟨hall, hrow⟩
    generalize hk : taken n count offset step = k at hall hrow
    have hk' : 0 < k := by
      rw [← hk, Nat.pos_iff_ne_zero, Ne, taken_eq_zero_iff hstep]
      omega
    have hoffset : offset < step := by
      have hlast := taken_le_total n count offset step
      have hless : offset + (k - 1) * step < n := (lt_total_iff hstep).mp (by omega)
      have hsplit : k * step = (k - 1) * step + step := by
        rw [← Nat.succ_mul, Nat.succ_eq_add_one, Nat.sub_add_cancel hk']
      omega
    have htotal : m * k * step = m * n := by rw [Nat.mul_assoc, hrow]
    have hproduct : 0 < m * k := Nat.mul_pos (by omega) hk'
    have hsmall : m * n < 2 ^ 31 := by
      by_contra hlarge
      have hshort := recordingLength_short (Nat.not_lt.mp hlarge)
      have hlast := taken_le_total (recordingLength m n) count offset step
      have hless : offset + (m * k - 1) * step < recordingLength m n :=
        (lt_total_iff hstep).mp (by omega)
      have hsplit : m * k * step = (m * k - 1) * step + step := by
        rw [← Nat.succ_mul, Nat.succ_eq_add_one, Nat.sub_add_cancel hproduct]
      omega
    refine ⟨hsmall, ⟨k, by rw [← hrow, Nat.mul_comm]⟩, hoffset, ?_⟩
    rw [recordingLength_small hsmall, ← htotal, taken_multiple hstep hoffset] at hall
    split at hall
    · next hzero => exact .inl hzero
    · rw [← htotal]
      exact .inr (Nat.mul_le_mul_right _ (by omega))
  · rintro ⟨hsmall, ⟨t, rfl⟩, hoffset, hcount⟩
    have htotal : m * (step * t) = m * t * step := by ring
    have hpos : 0 < t := Nat.pos_of_mul_pos_left (Nat.zero_lt_of_lt hpoints)
    have hrows : t ≤ m * t := Nat.le_mul_of_pos_left t (by omega)
    rw [recordingLength_small hsmall, htotal, Nat.mul_comm step t, taken_multiple hstep hoffset,
      taken_multiple hstep hoffset]
    rw [htotal] at hcount
    rcases hcount with rfl | hcount
    · exact ⟨rfl, rfl⟩
    · have hall : m * t ≤ count := Nat.le_of_mul_le_mul_right hcount hstep
      rw [if_neg (by omega), if_neg (by omega), Nat.min_eq_right hall, Nat.min_eq_right (by omega)]
      exact ⟨rfl, rfl⟩

theorem taken_split_iff (hstep : 1 ≤ step) (hn : n < 2 ^ 31) {P Q : Prop}
    (hrows : 1 < m → offset < n → ((taken (recordingLength m n) count offset step =
      m * taken n count offset step ∧ P) ↔ Q))
    (hnone : n ≤ offset → Q → recordingLength m n ≤ offset) :
    (taken (recordingLength m n) count offset step = m * taken n count offset step ∧
        (m ≤ 1 ∨ taken n count offset step = 0 ∨ P)) ↔
      m ≤ 1 ∨ (n ≤ offset ∧ recordingLength m n ≤ offset) ∨ Q := by
  by_cases hm : m ≤ 1
  · refine iff_of_true ⟨?_, .inl hm⟩ (.inl hm)
    obtain rfl | rfl : m = 0 ∨ m = 1 := by omega
    · have hzero : recordingLength 0 n = 0 := by
        rw [recordingLength_small (by omega), Nat.zero_mul]
      rw [hzero, Nat.zero_mul, taken_eq_zero_iff hstep]
      exact Nat.zero_le _
    · rw [recordingLength_small (by omega), Nat.one_mul, Nat.one_mul]
  · by_cases hpoints : n ≤ offset
    · have hzero := (taken_eq_zero_iff (c := count) hstep).mpr hpoints
      rw [hzero, Nat.mul_zero, taken_eq_zero_iff hstep]
      constructor
      · exact fun h => .inr (.inl ⟨hpoints, h.1⟩)
      · rintro (hm' | h | hq)
        · exact absurd hm' hm
        · exact ⟨h.2, .inr (.inl rfl)⟩
        · exact ⟨hnone hpoints hq, .inr (.inl rfl)⟩
    · have hpos : taken n count offset step ≠ 0 := by
        rwa [Ne, taken_eq_zero_iff hstep]
      rw [← hrows (Nat.not_le.mp hm) (Nat.not_le.mp hpoints)]
      simp [hm, hpos, hpoints]

theorem positions_documented_iff (hstep : 1 ≤ step) (hbound : step < 2 ^ 31) (hn : n < 2 ^ 31) :
    positions (recordingLength m n) count offset step =
        (documentedEntries transpose m n count offset step).map (entryIndex n) ↔
      WindowInOrder transpose m n count offset step := by
  have hempty (hpoints : n ≤ offset) (hdvd : step ∣ n) (hoffset : offset < step) :
      recordingLength m n ≤ offset := by
    obtain rfl : n = 0 := Nat.eq_zero_of_dvd_of_lt hdvd (Nat.lt_of_le_of_lt hpoints hoffset)
    exact Nat.le_trans (recordingLength_le m 0) (Nat.zero_le _)
  rw [documentedEntries_index hstep, positions_eq hstep]
  cases transpose with
  | true =>
    refine terms_rows_iff.trans (taken_split_iff hstep hn (fun hm hpoints => ?_) ?_)
    · exact taken_rows_iff hstep hbound hpoints hm
    · exact fun hpoints h => hempty hpoints h.2.1 h.2.2.1
  | false =>
    refine (terms_columns_iff hstep).trans (taken_split_iff hstep hn (fun hm hpoints => ?_) ?_)
    · have hrows : (taken (recordingLength m n) count offset step = _ ∧ _) ↔ _ :=
        taken_rows_iff hstep hbound hpoints hm
      constructor
      · rintro ⟨hall, hone, rfl⟩
        obtain ⟨hsmall, -, hoffset, hcount⟩ := hrows.mp ⟨hall, by rw [hone, Nat.one_mul]⟩
        exact ⟨hsmall, rfl, hoffset, hcount⟩
      · rintro ⟨hsmall, rfl, hoffset, hcount⟩
        obtain ⟨hall, hrow⟩ := hrows.mpr ⟨hsmall, Nat.dvd_refl _, hoffset, hcount⟩
        refine ⟨hall, Nat.eq_of_mul_eq_mul_right hstep ?_, rfl⟩
        rw [hrow, Nat.one_mul]
    · rintro hpoints ⟨-, rfl, hoffset, -⟩
      exact hempty hpoints (Nat.dvd_refl _) hoffset

end Entries

section Simulator

variable {sim : NormaSimulator} {block : SweepBlock} {count offset sparsing : IntegerField}
  {measurements : List (SimulatedMeasurement Float)}

def recordedValue (measurements : List (SimulatedMeasurement Float)) (function point : Nat) :
    Float :=
  (measurements.map SimulatedMeasurement.value).getD function 0 *
    (1.0 - 0.001 * Float.ofNat point)

theorem recorded_flattened (measurements : List (SimulatedMeasurement Float)) (points : Nat) :
    measurements.flatMap (recordedValues points) =
      flattened measurements.length points (recordedValue measurements) := by
  induction measurements using List.reverseRecOn with
  | nil => rfl
  | append_singleton measurements m ih =>
    rw [List.flatMap_append, List.flatMap_singleton, ih, List.length_append, List.length_singleton,
      flattened_succ]
    congr 1
    · refine flattened_congr fun row hrow point => ?_
      have hrow' : row < (measurements.map SimulatedMeasurement.value).length := by simpa using hrow
      rw [recordedValue, recordedValue, List.map_append, List.getD_append _ _ _ _ hrow']
    · refine List.map_congr_left fun point _ => ?_
      simp [recordedValue]

def traceText (block : SweepBlock) (count offset sparsing : IntegerField) : Text :=
  "TRAC? " ++ join ',' [traceBlock block, count.text, offset.text, sparsing.text]

theorem readWindow_three {a : Access} {firstArgument : Nat} (hcount : 0 ≤ count.value)
    (hoffset : 0 ≤ offset.value) (hsparsing : 0 ≤ sparsing.value)
    (hargs : a.command.args.drop firstArgument = [count.text, offset.text, sparsing.text])
    (body : Window → Handled) : a.readWindow firstArgument body =
      body ⟨count.value, offset.value, sparsing.value⟩ := by
  rw [Access.readWindow, hargs, readCounts_field, readCounts_field, readCounts_field,
    if_neg (by omega), if_neg (by omega), if_neg (by omega)]
  rfl

theorem handleLine_traceText (hcount : 0 ≤ count.value) (hoffset : 0 ≤ offset.value)
    (hsparsing : 0 ≤ sparsing.value) : sim.handleLine (traceText block count offset sparsing) =
      ((tracedValues sim block).bind fun source =>
        applyWindow source ⟨count.value, offset.value, sparsing.value⟩).map
          fun values => (sim, some (shown sim values)) := by
  have hmem : (("TRAC" : Text), Key.trac, ([] : List Int)) ∈ knownHeaders := by
    simp [knownHeaders]
  have hfields : ∀ field ∈ [traceBlock block, count.text, offset.text, sparsing.text],
      ∃ n, field = toText n := by
    have hblock : ∃ n, traceBlock block = toText n := by
      cases block
      · exact ⟨1, rfl⟩
      · exact ⟨2, rfl⟩
    simp only [List.forall_mem_cons, List.not_mem_nil, false_imp_iff, implies_true, and_true]
    exact ⟨hblock, ⟨_, rfl⟩, ⟨_, rfl⟩, ⟨_, rfl⟩⟩
  have htext := join_integers hfields
  refine (handleLine_request hmem sim (htext.unquoted.whole_iff.mpr htext.semicolon)).trans ?_
  rw [argumentsOf_join hfields]
  have hreturns : (Access.trace (received sim ⟨"TRAC", true,
      [traceBlock block, count.text, offset.text, sparsing.text]⟩ .trac []) false
      (sweepIndex block)).Returns _ :=
    trace_window_returns fun body => readWindow_three hcount hoffset hsparsing rfl body
  rw [execute_trac rfl (by rw [traceBlock_sent rfl]; exact hreturns), Option.map_map]
  rfl

theorem tracePoints_small (state : State) : (tracePoints state).toNat < 2 ^ 31 := by
  have hle : tracePoints state ≤ kTraceCapacity := by
    unfold tracePoints
    dsimp only
    split
    · decide
    · exact Int.min_le_right _ _
  exact Nat.lt_of_le_of_lt (Int.toNat_le_toNat hle) (by decide)

theorem step_lt (field : IntegerField) : field.value.toNat < 2 ^ 31 := by
  have hhigh := field.high
  omega

theorem handleLine_recording (hcount : 0 ≤ count.value) (hoffset : 0 ≤ offset.value)
    (hsparsing : 1 ≤ sparsing.value)
    (hmeasured : measureAll sim.state sim.signal (tracedFunctions sim.state block) =
      some measurements) : sim.handleLine (traceText block count offset sparsing) =
      (applyWindow (flattened measurements.length (tracePoints sim.state).toNat
        (recordedValue measurements)) ⟨count.value.toNat, offset.value.toNat,
          sparsing.value.toNat⟩).map fun values => (sim, some (shown sim values)) := by
  have hsparsing' : 0 ≤ sparsing.value := Int.le_trans (by decide) hsparsing
  have hwindow : (⟨count.value.toNat, offset.value.toNat, sparsing.value.toNat⟩ : Window) =
      ⟨count.value, offset.value, sparsing.value⟩ := by
    rw [Int.toNat_of_nonneg hcount, Int.toNat_of_nonneg hoffset, Int.toNat_of_nonneg hsparsing']
  rw [handleLine_traceText hcount hoffset hsparsing', tracedValues, hmeasured, Option.map_some,
    Option.bind_some, recorded_flattened, hwindow]

theorem recording_window_iff (hcount : 0 ≤ count.value) (hoffset : 0 ≤ offset.value)
    (hsparsing : 1 ≤ sparsing.value)
    (hmeasured : measureAll sim.state sim.signal (tracedFunctions sim.state block) =
      some measurements) :
    let m := measurements.length
    let n := (tracePoints sim.state).toNat
    let count' := count.value.toNat
    let offset' := offset.value.toNat
    let step := sparsing.value.toNat
    (sim.handleLine (traceText block count offset sparsing) =
      (applyWindow (flattened m n (recordedValue measurements)) ⟨count', offset', step⟩).map
        fun values => (sim, some (shown sim values))) ∧
    (ServesDocumented sim.state.transpose m n count' offset' step ↔
      IndexFits m n count' offset' step ∧
        WindowInOrder sim.state.transpose m n count' offset' step) := by
  have hstep : 1 ≤ sparsing.value.toNat := by omega
  refine ⟨handleLine_recording hcount hoffset hsparsing hmeasured, ?_⟩
  · rw [servesDocumented_iff hstep,
      positions_documented_iff hstep (step_lt sparsing) (tracePoints_small sim.state)]

def recordingTwo : NormaSimulator :=
  let sim := FunctionList.measured.stored (.new {}) [("VOLT1" : Text), ("CURR1" : Text)]
  { sim with state := (enableSweep 1).set sim.state true }

def integerField (n : Nat) (h : n < 2 ^ 31) : IntegerField := ⟨n, by omega, by omega⟩

theorem recordingTwo_measured : ∃ measurements, measureAll recordingTwo.state recordingTwo.signal
    (tracedFunctions recordingTwo.state .block1) = some measurements ∧ measurements.length = 2 := by
  have hmeasured : (measureAll recordingTwo.state recordingTwo.signal
      (tracedFunctions recordingTwo.state .block1)).any (·.length = 2) = true := by decide +kernel
  obtain ⟨measurements, hsome, hlength⟩ := (Option.any_eq_true _ _).mp hmeasured
  exact ⟨measurements, hsome, by simpa using hlength⟩

theorem tenth_of_recording : ServesDocumented false 2 10 0 3 10 := by
  obtain ⟨measurements, hmeasured, hlength⟩ := recordingTwo_measured
  have hpoints : (tracePoints recordingTwo.state).toNat = 10 := by decide +kernel
  have hserves := (@recording_window_iff recordingTwo .block1 .zero (integerField 3 (by decide))
    (integerField 10 (by decide)) measurements (by decide) (by decide) (by decide) hmeasured).2
  rw [hlength, hpoints] at hserves
  exact hserves.mpr ⟨by decide +kernel, by decide +kernel⟩

theorem shown_length {values values' : List Float}
    (h : shown sim values = shown sim values') : values.length = values'.length := by
  obtain ⟨parsed, hparsed, hlength⟩ := parseValues_shown sim values
  obtain ⟨parsed', hparsed', hlength'⟩ := parseValues_shown sim values'
  rw [h, hparsed'] at hparsed
  rw [← hlength, ← hlength', Except.ok.inj hparsed]

theorem two_points_cut : ¬∀ sim, Reachable sim → ∀ (block : SweepBlock)
    (count offset sparsing : IntegerField), 0 ≤ count.value → 0 ≤ offset.value →
    1 ≤ sparsing.value → ∀ measurements,
    measureAll sim.state sim.signal (tracedFunctions sim.state block) = some measurements →
    sim.handleLine (traceText block count offset sparsing) = some (sim, some (shown sim
      ((documentedEntries sim.state.transpose measurements.length (tracePoints sim.state).toNat
        count.value.toNat offset.value.toNat sparsing.value.toNat).map fun entry =>
          recordedValue measurements entry.1 entry.2))) := by
  intro hall
  obtain ⟨measurements, hmeasured, hlength⟩ := recordingTwo_measured
  have hpoints : (tracePoints recordingTwo.state).toNat = 10 := by decide +kernel
  have hfirst : (NormaSimulator.new {}).handleLine ("FUNC" ++ ' ' ::
      quoteJoin [("VOLT1" : Text), ("CURR1" : Text)]) = some
        (FunctionList.measured.stored (.new {}) [("VOLT1" : Text), ("CURR1" : Text)], none) :=
    FunctionList.measured.handleLine_write (by simp) (by decide +kernel) rfl
  have hserved := hall recordingTwo (.line (.line (.new {}) _ hfirst) _ (handleLine_sweep _))
    .block1 (integerField 2 (by decide)) .zero (integerField 1 (by decide)) (by decide)
    (by decide) (by decide) measurements hmeasured
  rw [handleLine_recording (by decide) (by decide) (by decide) hmeasured, hlength,
    hpoints] at hserved
  obtain ⟨values, hvalues, hshown⟩ := Option.map_eq_some_iff.mp hserved
  have hsame := shown_length (Option.some.inj (Prod.mk.inj hshown).2)
  have hwindow : applyWindow (flattened 2 10 (recordedValue measurements))
      ⟨(2 : Nat), (0 : Nat), (1 : Nat)⟩ = _ := applyWindow_recording (Nat.le_refl 1) _
  change applyWindow _ ⟨(2 : Nat), (0 : Nat), (1 : Nat)⟩ = some values at hvalues
  rw [hwindow, if_pos (by decide +kernel), flattened_eq,
    pick_range _ fun i hi => Nat.lt_of_lt_of_le (mem_positions_lt hi) (recordingLength_le 2 10)]
    at hvalues
  rw [← Option.some.inj hvalues, List.length_map, List.length_map] at hsame
  exact absurd hsame (by decide +kernel)

end Simulator

end Norma
