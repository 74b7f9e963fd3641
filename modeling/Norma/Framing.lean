import Norma.Lib.Framing
import Norma.TcpTransport

namespace Norma

open Framing

theorem completeLines_eq (text : Text) : completeLines text = frames (· == '\n') text := by
  induction text with
  | nil => rfl
  | cons c text ih =>
    simp only [completeLines, frames, ih, beq_iff_eq]
    split
    · rfl
    · cases (frames (· == '\n') text).1 <;> rfl

def stripLine (line : Text) : Text := line.rdropWhile TcpTransport.isTerminator

namespace TcpTransport

def isLineFeed (byte : Byte) : Bool := byte.value == '\n'

def tagged (connection : Nat) (text : Text) : List Byte := text.map fun value => ⟨value, connection⟩

-- Successive reads while chunks arrive; `none` when the stream ends before a read has its line.
def readLines (t : TcpTransport) : List Int → List Text →
    Option (List Result × TcpTransport × List Text)
  | [], chunks => some ([], t, chunks)
  | timeout :: timeouts, chunks =>
      match gather isLineFeed (tagged t.connection) t.rx chunks with
      | none => none
      | some (received, rest) =>
          let read := t.readLine timeout received .finished
          (readLines read.2 timeouts rest).map fun (results, final, rest) =>
            (read.1 :: results, final, rest)

def Call.healthy : Call → Bool
  | .open' unresolved completion => unresolved.isNone && completion == .finished
  | .close => true
  | .write _ completion => completion == .finished
  | .readLine _ _ completion => completion == .finished

def HealthyNext (t u : TcpTransport) : Prop :=
  ∃ call, t.possible call = true ∧ call.healthy = true ∧ (t.step call).2 = u

abbrev HealthyRuns : TcpTransport → TcpTransport → Prop := Relation.ReflTransGen HealthyNext

def lineOf (frame : List Byte) : Result :=
  .line (frame.rdropWhile fun byte => isTerminator byte.value)

section Healthy

variable {t u : TcpTransport}

theorem receive_rx (t : TcpTransport) (received : List Text) :
    (t.receive received).rx = t.rx ++ received.flatMap (tagged t.connection) := by
  simp only [receive, List.flatMap, List.map_flatten]
  rfl

theorem takeLine_eq (t : TcpTransport) :
    t.takeLine = (lineOf (cutFrame isLineFeed t.rx).1,
      { t with rx := (cutFrame isLineFeed t.rx).2 }) := rfl

theorem readLine_eq (hopen : t.isOpen = true) (timeout : Int) (received : List Text) :
    t.readLine timeout received .finished =
      (lineOf (cutFrame isLineFeed (t.rx ++ received.flatMap (tagged t.connection))).1,
        { t with
          rx := (cutFrame isLineFeed (t.rx ++ received.flatMap (tagged t.connection))).2 }) := by
  rw [readLine, if_neg (by simp [hopen])]
  change (t.receive received).takeLine = _
  rw [takeLine_eq, receive_rx]
  rfl

theorem possible_of_gather {timeout : Int} {chunks received rest : List Text}
    (h : gather isLineFeed (tagged t.connection) t.rx chunks = some (received, rest)) :
    t.possible (.readLine timeout received .finished) = true := by
  have hany := gather_any h
  have hminimal := gather_minimal h
  have hline : ∀ chunks : List Text, hasLine (t.receive chunks).rx =
      (t.rx ++ chunks.flatMap (tagged t.connection)).any isLineFeed := by
    intro chunks
    rw [receive_rx]
    rfl
  rw [possible, hline, hline, hany]
  rcases hminimal with rfl | hless
  · simp
  · simp [hless]

theorem healthy_closed {host : Text} {port : Nat} (h : HealthyRuns (fresh host port) t)
    (hclosed : t.isOpen = false) : t.rx = [] := by
  induction h with
  | refl => rfl
  | @tail t u _ hstep ih =>
    obtain ⟨call, -, hhealthy, rfl⟩ := hstep
    cases call with
    | open' unresolved completion =>
      simp only [Call.healthy, Bool.and_eq_true, Option.isNone_iff_eq_none, beq_iff_eq] at hhealthy
      obtain ⟨rfl, rfl⟩ := hhealthy
      by_cases hopen : t.isOpen = true
      · simp [step, open', hopen] at hclosed
      · simp [step, open', hopen, runOperation] at hclosed
    | close => rfl
    | write timeout completion =>
      obtain rfl : completion = .finished := by simpa [Call.healthy] using hhealthy
      by_cases hopen : t.isOpen = true
      · simp [step, write, hopen, runOperation] at hclosed
      · simp only [Bool.not_eq_true] at hopen
        simpa [step, write, hopen] using ih hopen
    | readLine timeout received completion =>
      obtain rfl : completion = .finished := by simpa [Call.healthy] using hhealthy
      by_cases hopen : t.isOpen = true
      · simp [step, readLine_eq hopen, hopen] at hclosed
      · simp only [Bool.not_eq_true] at hopen
        simpa [step, readLine, hopen] using ih hopen

theorem readLines_eq (hopen : t.isOpen = true) (timeouts : List Int) (chunks : List Text) :
    t.readLines timeouts chunks =
      (readFrames isLineFeed (tagged t.connection) timeouts.length t.rx chunks).map
        fun (read, rx, rest) => (read.map lineOf, { t with rx }, rest) := by
  induction timeouts generalizing t chunks with
  | nil => rfl
  | cons timeout timeouts ih =>
    rw [readLines, List.length_cons, readFrames]
    cases hgather : gather isLineFeed (tagged t.connection) t.rx chunks with
    | none => rfl
    | some taken =>
      obtain ⟨received, rest⟩ := taken
      dsimp only
      rw [readLine_eq hopen]
      have hrest := ih (t := { t with
        rx := (cutFrame isLineFeed (t.rx ++ received.flatMap (tagged t.connection))).2 }) hopen rest
      simp only [hrest, Option.map_map]
      rfl

theorem readLines_healthy (hopen : t.isOpen = true) {timeouts : List Int} {chunks rest : List Text}
    {results : List Result} (h : t.readLines timeouts chunks = some (results, u, rest)) :
    HealthyRuns t u := by
  induction timeouts generalizing t chunks results with
  | nil =>
    cases h
    exact .refl
  | cons timeout timeouts ih =>
    rw [readLines] at h
    split at h
    · cases h
    · next received waiting hgather =>
      obtain ⟨⟨others, final, rest'⟩, hothers, hpair⟩ := Option.map_eq_some_iff.mp h
      cases hpair
      refine .head ⟨.readLine timeout received .finished, possible_of_gather hgather, rfl, rfl⟩ ?_
      have hafter : (t.readLine timeout received .finished).2.isOpen = true := by
        rw [readLine_eq hopen]
        exact hopen
      exact ih hafter hothers

end Healthy

section Stream

variable {host : Text} {port : Nat} {t : TcpTransport}

theorem lineOf_tagged {front : Text} {byte : Byte} (hend : isLineFeed byte = true)
    (connection : Nat) :
    lineOf (tagged connection front ++ [byte]) = .line (tagged connection (stripLine front)) := by
  have hterminator : isTerminator byte.value = true := by
    have hvalue : byte.value = '\n' := by simpa [isLineFeed] using hend
    rw [hvalue]
    rfl
  have hstrip : (tagged connection front).rdropWhile (fun byte => isTerminator byte.value) =
      tagged connection (stripLine front) := by
    simp only [tagged, stripLine, List.rdropWhile, ← List.map_reverse, List.dropWhile_map]
    rfl
  have hdrop := List.rdropWhile_concat_pos (fun byte : Byte => isTerminator byte.value)
    (tagged connection front) byte hterminator
  rw [lineOf, hdrop, hstrip]

theorem frames_tagged (connection : Nat) (text : Text) :
    frames isLineFeed (tagged connection text) =
      ((completeLines text).1.map (tagged connection),
        tagged connection (completeLines text).2) := by
  rw [completeLines_eq]
  exact frames_map _ _

theorem frames_read {read : List (List Byte)} {texts : List Text} {connection : Nat}
    (hlines : read.map List.dropLast = texts.map (tagged connection))
    (hends : ∀ frame ∈ read, ∃ front e, frame = front ++ [e] ∧ isLineFeed e = true)
    (htags : ∀ byte ∈ read.flatten, byte.connection = connection) :
    read.map lineOf = texts.map (fun line => .line (tagged connection (stripLine line))) ∧
      read.flatten = tagged connection (texts.flatMap (· ++ ['\n'])) := by
  induction read generalizing texts with
  | nil =>
    obtain rfl : texts = [] := by simpa using hlines.symm
    exact ⟨rfl, rfl⟩
  | cons frame read ih =>
    obtain ⟨line, texts, rfl⟩ : ∃ line rest, texts = line :: rest := by
      cases texts with
      | nil => cases hlines
      | cons line texts => exact ⟨line, texts, rfl⟩
    obtain ⟨hline, hrest⟩ := List.cons.inj hlines
    obtain ⟨front, e, rfl, he⟩ := hends frame (by simp)
    obtain rfl : front = tagged connection line := by simpa using hline
    obtain ⟨hresults, hbytes⟩ := ih hrest (fun frame hframe => hends frame (by simp [hframe]))
      fun byte hbyte => htags byte (by
        rw [List.flatten_cons]
        exact List.mem_append_right _ hbyte)
    have hfeed : e = ⟨'\n', connection⟩ := by
      have hvalue : e.value = '\n' := by simpa [isLineFeed] using he
      have htag : e.connection = connection := htags e (by simp)
      rw [← hvalue, ← htag]
    constructor
    · rw [List.map_cons, List.map_cons, lineOf_tagged he, hresults]
    · rw [List.flatten_cons, hbytes, hfeed]
      simp [tagged]

theorem tagged_append {connection : Nat} {front stream : Text} {more : List Byte}
    (h : tagged connection front ++ more = tagged connection stream) :
    ∃ left, stream = front ++ left ∧ more = tagged connection left := by
  obtain ⟨first, left, rfl, hfirst, hleft⟩ := List.map_eq_append_iff.mp h.symm
  have hinjective : Function.Injective fun value : Char => (⟨value, connection⟩ : Byte) :=
    fun c d hcd => congrArg Byte.value hcd
  obtain rfl := List.map_injective_iff.mpr hinjective hfirst
  exact ⟨left, rfl, hleft.symm⟩

theorem readLines_stream (hrun : HealthyRuns (fresh host port) t) (hclosed : t.isOpen = false)
    (timeouts : List Int) (chunks : List Text) :
    let opened := (t.step (.open' none .finished)).2
    let lines := (completeLines chunks.flatten).1
    (opened.readLines timeouts chunks = none ↔ lines.length < timeouts.length) ∧
      ∀ results after rest, opened.readLines timeouts chunks = some (results, after, rest) →
        HealthyRuns opened after ∧
        results = (lines.take timeouts.length).map (fun line =>
          .line (tagged opened.connection (stripLine line))) ∧
        ∃ left, chunks.flatten = (lines.take timeouts.length).flatMap (· ++ ['\n']) ++ left ∧
          after.rx ++ rest.flatMap (tagged opened.connection) =
            tagged opened.connection left := by
  intro opened lines
  have hopened : opened = { t with isOpen := true, connection := t.connection + 1 } := by
    simp [opened, step, open', hclosed, runOperation]
  have hopen : opened.isOpen = true := by rw [hopened]
  have hempty : opened.rx = [] := by
    have hrx : t.rx = [] := healthy_closed hrun hclosed
    rw [hopened]
    exact hrx
  have hstream : opened.rx ++ chunks.flatMap (tagged opened.connection) =
      tagged opened.connection chunks.flatten := by
    rw [hempty, List.nil_append, tagged, List.map_flatten]
    rfl
  refine ⟨?_, fun results after rest h => ⟨readLines_healthy hopen h, ?_⟩⟩
  · rw [readLines_eq hopen, Option.map_eq_none_iff, readFrames_eq_none, hstream, frames_tagged,
      List.length_map]
  · rw [readLines_eq hopen] at h
    obtain ⟨⟨read, rx, left⟩, hread, hpair⟩ := Option.map_eq_some_iff.mp h
    cases hpair
    obtain ⟨hlines, hends, hwhole⟩ := readFrames_eq_some hread
    rw [hstream, frames_tagged] at hlines
    rw [hstream] at hwhole
    have htags : ∀ byte ∈ read.flatten, byte.connection = opened.connection := by
      intro byte hbyte
      have hmem : byte ∈ tagged opened.connection chunks.flatten := by
        rw [← hwhole]
        exact List.mem_append_left _ hbyte
      obtain ⟨value, -, rfl⟩ := List.mem_map.mp hmem
      rfl
    rw [← List.map_take] at hlines
    obtain ⟨hresults, hbytes⟩ := frames_read hlines hends htags
    rw [hbytes] at hwhole
    exact ⟨hresults, tagged_append hwhole⟩

theorem chunked_stream_read : ∃ results after rest,
    ((fresh "norma" 23).step (.open' none .finished)).2.readLines [5000, 5000, 5000]
      ["AB\r", "\n", "\nC", "D\r\r\nE"] = some (results, after, rest) ∧
    results = [.line (tagged 1 "AB"), .line [], .line (tagged 1 "CD")] := by
  obtain ⟨hnone, hsome⟩ := readLines_stream (.refl : HealthyRuns (fresh "norma" 23) _) rfl
    [5000, 5000, 5000] ["AB\r", "\n", "\nC", "D\r\r\nE"]
  have hreads := mt hnone.mp (by decide)
  obtain ⟨⟨results, after, rest⟩, hread⟩ := Option.ne_none_iff_exists'.mp hreads
  exact ⟨results, after, rest, hread, (hsome results after rest hread).2.1⟩

end Stream

end TcpTransport

end Norma
