import Norma.PreambleData
import Norma.Windows

namespace Norma

open CNumber ScpiClient Progression

section Pages

variable {source : List Float} {client : SimulatorClient}

-- The part of a series that an `int` index reaches.
def reachedPart (source : List Float) : List Float := source.take (toInt32 source.length).toNat

theorem length_reachedPart (source : List Float) :
    (reachedPart source).length = (toInt32 source.length).toNat := by
  rw [reachedPart, List.length_take]
  exact Nat.min_eq_left (toInt32_le_length source.length)

theorem reachedPart_small (source : List Float) : (reachedPart source).length < 2 ^ 31 := by
  have hlt := toInt32_lt source.length
  rw [length_reachedPart]
  omega

theorem applyWindow_slice (source : List Float) (count offset : Nat) :
    applyWindow source ⟨count, offset, 0⟩ =
      some (if count = 0 then (reachedPart source).drop offset
        else ((reachedPart source).drop offset).take count) := by
  have hlt := toInt32_lt source.length
  have hle := toInt32_le_length source.length
  have heq := applyWindow_eq source ⟨count, offset, 0⟩
  simp only [Int.toNat_natCast, Int.toNat_zero, Nat.zero_max] at heq
  have htaken : taken (toInt32 source.length).toNat count offset 1 =
      if count = 0 then (toInt32 source.length).toNat - offset
      else min count ((toInt32 source.length).toNat - offset) := by
    rw [taken, total_one]
  have hfits : 0 < taken (toInt32 source.length).toNat count offset 1 →
      offset + taken (toInt32 source.length).toNat count offset 1 * 1 < 2 ^ 31 := by
    rw [htaken]
    split <;> omega
  rw [heq, if_pos hfits, positions_eq Nat.one_pos, pick_terms, htaken, reachedPart, List.drop_take]
  · split
    · rfl
    · rw [List.take_take]
  · rw [htaken]
    split <;> omega

-- The pages of a size, read one after another, are what is read at once: the series, each value
-- as its text reads.
def ReadsInPages (read : Int → Int → Session SimulatorTransport (List Float))
    (client : SimulatorClient) (size : Nat) (series : List Float) : Prop :=
  ∃ (whole : List Float) (pages : Nat) (page : Nat → List Float),
    read 0 0 client = some (.ok whole, client) ∧
      List.Forall₂ (fun value shown => toDouble (formatValue client.sim.state value) = .ok shown)
        (reachedPart series) whole ∧
      (∀ k, k * size < 2 ^ 31 →
        read size (k * size : Nat) client = some (.ok (page k), client)) ∧
      (∀ k, page k = [] ↔ pages ≤ k) ∧ (∀ k < pages, k * size < 2 ^ 31) ∧
      whole = (List.range pages).flatMap page

theorem queryValues_map (hidle : client.Idle) : ∃ read : Float → Float,
    (∀ value, toDouble (formatValue client.sim.state value) = .ok (read value)) ∧
    ∀ {command : Text} {values : List Float}, hasLineTerminator command = false →
      client.sim.handleLine command = some (client.sim, some (shown client.sim values)) →
      queryValues command client = some (.ok (values.map read), client) := by
  obtain ⟨read, hvalue, hread⟩ := parseValues_map client.sim
  refine ⟨read, hvalue, fun hplain hline => ?_⟩
  exact (ofExcept_query parseValues (query_idle hidle hplain hline)).trans (by rw [hread]; rfl)

theorem requestedWindow_page (count offset : Nat) (h : count ≠ 0 ∨ offset = 0) :
    requestedWindow count offset 0 = ⟨count, offset, 0⟩ := by
  rw [requestedWindow]
  rcases Nat.eq_zero_or_pos count with rfl | hpos
  · obtain rfl := h.resolve_left (fun hne => hne rfl)
    rfl
  · rw [if_neg (by omega), Int.max_eq_left (by omega), Int.max_self]

theorem readsInPages_of_source (hidle : client.Idle) {command : Int → Int → Text}
    (hplain : ∀ count offset, hasLineTerminator (command count offset) = false)
    (hline : ∀ count offset : IntegerField, client.sim.handleLine
      (command count.value offset.value) =
        (applyWindow source (requestedWindow count.value offset.value 0)).map fun values =>
          (client.sim, some (shown client.sim values)))
    {size : Nat} (hsize : 1 ≤ size) (hsmall : size < 2 ^ 31) :
    ReadsInPages (fun count offset => queryValues (command count offset)) client size source := by
  obtain ⟨read, hvalue, hread⟩ := queryValues_map hidle
  have hslice (count offset : Nat) (hcount : count < 2 ^ 31) (hoffset : offset < 2 ^ 31)
      (hsent : count ≠ 0 ∨ offset = 0) : queryValues (command count offset) client = some (.ok
        ((if count = 0 then (reachedPart source).drop offset
          else ((reachedPart source).drop offset).take count).map read), client) := by
    have hfields := hline ⟨count, by omega, by omega⟩ ⟨offset, by omega, by omega⟩
    rw [requestedWindow_page count offset hsent, applyWindow_slice] at hfields
    exact hread (hplain count offset) hfields
  refine ⟨(reachedPart source).map read, total (reachedPart source).length 0 size,
    fun k => (page (reachedPart source) size k).map read, ?_, ?_, ?_, ?_, ?_, ?_⟩
  · have hwhole := hslice 0 0 (by decide) (by decide) (.inr rfl)
    rwa [if_pos rfl, List.drop_zero] at hwhole
  · exact List.forall₂_map_right_iff.mpr (List.forall₂_same.mpr fun value _ => hvalue value)
  · intro k hk
    have hpage := hslice size (k * size) hsmall hk (.inl (by omega))
    rwa [if_neg (by omega)] at hpage
  · intro k
    rw [List.map_eq_nil_iff, page_eq_nil_iff_total hsize]
  · intro k hk
    have hlast : 0 + k * size < (reachedPart source).length := (lt_total_iff hsize).mp hk
    have hshort := reachedPart_small source
    omega
  · rw [← List.map_flatMap, pages_whole hsize]

theorem pages_are_whole {client : SimulatorClient} (hidle : client.Idle) {size : Nat}
    (hsize : 1 ≤ size) (hsmall : size < 2 ^ 31) (block : SweepBlock)
    (hterminates : ∀ function ∈ tracedFunctions client.sim.state block,
      Terminates client.sim.state client.sim.signal function) :
    (∃ recorded, tracedValues client.sim block = some recorded ∧
      ReadsInPages (NormaInstrument.traceData block · · 0) client size recorded) ∧
    ReadsInPages NormaInstrument.transformData client size (Access.spectrum client.sim.signal) := by
  constructor
  · obtain ⟨source, hsource, -⟩ := tracedValues_terminates hterminates
    refine ⟨source, hsource, ?_⟩
    refine @readsInPages_of_source source client hidle _ (fun _ _ => trac_plain)
      (fun count offset => ?_) size hsize hsmall
    have hline := @handleLine_trac client.sim block count offset .zero
    have hzero : IntegerField.zero.value = 0 := rfl
    rw [if_neg fun h => absurd h.2.1 (by decide), hsource, Option.bind_some, hzero] at hline
    exact hline
  · refine @readsInPages_of_source (Access.spectrum client.sim.signal) client hidle _
      (fun _ _ => calcData_plain) (fun count offset => ?_) size hsize hsmall
    exact @handleLine_calcData client.sim count offset .zero fun h => absurd h.2.1 (by decide)

theorem three_points_a_page : ∃ recorded, tracedValues recordingOne .block1 = some recorded ∧
    ReadsInPages (NormaInstrument.traceData .block1 · · 0) (opened recordingOne) 3 recorded := by
  have hone : tracedFunctions recordingOne.state .block1 = [("VOLT1" : Text)] := by
    decide +kernel
  refine (pages_are_whole (idle_opened recordingOne) (by decide) (by decide) .block1
    fun function hfunction => ?_).1
  change function ∈ tracedFunctions recordingOne.state .block1 at hfunction
  rw [hone, List.mem_singleton] at hfunction
  rw [hfunction]
  exact ⟨1, Option.isSome_iff_exists.mp (by decide +kernel)⟩

end Pages

end Norma
