import Norma.Lib.Framing

namespace Service

open Framing

variable {S A B : Type} (isEnd : A → Bool) (handle : S → List A → Option (S × List B))

-- A server takes frame by frame and writes for each; `none` when one of them never returns.
def serve : S → List (List A) → Option (S × List B)
  | server, [] => some (server, [])
  | server, frame :: later =>
      (handle server frame).bind fun (server, written) =>
        (serve server later).map fun (server, more) => (server, written ++ more)

def feed (server : S × List A) (arrived : List A) : Option ((S × List A) × List B) :=
  let (done, rest) := frames isEnd (server.2 ++ arrived)
  (serve handle server.1 done).map fun (after, written) => ((after, rest), written)

section

variable {isEnd handle}

@[simp] theorem serve_nil (server : S) : serve handle server [] = some (server, []) := rfl

theorem serve_singleton (server : S) (frame : List A) :
    serve handle server [frame] = handle server frame := by
  cases h : handle server frame with
  | none => simp [serve, h]
  | some result => simp [serve, h]

theorem serve_append (server : S) (done later : List (List A)) :
    serve handle server (done ++ later) =
      (serve handle server done).bind fun (server, written) =>
        (serve handle server later).map fun (server, more) => (server, written ++ more) := by
  induction done generalizing server with
  | nil => simp
  | cons frame done ih =>
    rw [List.cons_append, serve, serve]
    cases handle server frame with
    | none => rfl
    | some result =>
      obtain ⟨middle, written⟩ := result
      simp only [Option.bind_some, ih]
      cases serve handle middle done with
      | none => rfl
      | some result =>
        obtain ⟨last, more⟩ := result
        cases hlater : serve handle last later <;> simp [hlater]

theorem feed_append (server : S × List A) (arrived later : List A) :
    feed isEnd handle server (arrived ++ later) =
      (feed isEnd handle server arrived).bind fun (server, written) =>
        (feed isEnd handle server later).map fun (server, more) => (server, written ++ more) := by
  simp only [feed, ← List.append_assoc, frames_append (server.2 ++ arrived) later, serve_append]
  cases serve handle server.1 (frames isEnd (server.2 ++ arrived)).1 with
  | none => rfl
  | some result =>
    obtain ⟨middle, written⟩ := result
    simp only [Option.bind_some, Option.map_some, Option.map_map]
    rfl

theorem feed_nil {server : S × List A} (h : ∀ a ∈ server.2, isEnd a = false) :
    feed isEnd handle server [] = some (server, []) := by
  simp [feed, frames_unfinished h]

theorem feed_frame {server : S} {frame : List A} {e : A} (hframe : ∀ a ∈ frame, isEnd a = false)
    (he : isEnd e = true) : feed isEnd handle (server, []) (frame ++ [e]) =
      (handle server frame).map fun (after, written) => ((after, []), written) := by
  simp [feed, frames_frame hframe he, frames, serve_singleton]

end

end Service
