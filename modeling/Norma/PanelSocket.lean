import Norma.LinkAgreement
import Norma.PanelRun

namespace Norma

open ScpiClient
open Register (cells)

section Sessions

variable {client : SimulatorClient} {remote : SocketClient} {A B : Type}

-- What a session returns over the link inside the process, it returns over the socket.
def Follows (near : Session SimulatorTransport A) (far : Session SocketLink A)
    (client : SimulatorClient) (remote : SocketClient) : Prop :=
  ∀ a after, near client = some (.ok a, after) →
    ∃ remote', far remote = some (.ok a, remote') ∧ Agree after remote'

theorem Follows.bind {near : Session SimulatorTransport A} {far : Session SocketLink A}
    {near' : A → Session SimulatorTransport B} {far' : A → Session SocketLink B}
    (h : Follows near far client remote)
    (hnext : ∀ a {client : SimulatorClient} {remote : SocketClient}, Agree client remote →
      Follows (near' a) (far' a) client remote) :
    Follows (near >>= near') (far >>= far') client remote := by
  intro b after hnear
  cases hfirst : near client with
  | none =>
    rw [Session.bind_none hfirst] at hnear
    cases hnear
  | some found =>
    obtain ⟨result, middle⟩ := found
    cases result with
    | error fault =>
      rw [Session.bind_error hfirst] at hnear
      cases hnear
    | ok a =>
      rw [Session.bind_ok hfirst] at hnear
      obtain ⟨remote', hfar, hagree⟩ := h a middle hfirst
      rw [Session.bind_ok hfar]
      exact hnext a hagree b after hnear

end Sessions

end Norma
