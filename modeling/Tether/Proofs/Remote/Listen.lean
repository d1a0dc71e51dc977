import Tether.Proofs.Act.Exec
import Tether.Proofs.Namespace.Address
import Tether.Remote.Session

/-! # Listening on an address

The port of an address is looked at in two places: where the remote host is asked to listen on
the address, and where its port is told to the remote command. Both accept the same addresses,
those with a port of digits. Some of these digits are no number: they have no decimal value, or
there are too many of them. Only the first place notices.
-/

namespace Tether

open Act

variable {τ : Type}

namespace Session

/-- What the remote host answers to the request for a port of this address. -/
def Answers (w : Surroundings τ) (address host : String) : Except Failure (Listener τ) → Prop
  | .ok listener => ∃ allocated, w.connection.forward = .ok allocated ∧
      listener.address = s!"{host}:{allocated}"
  | .error f => ∃ refusal, w.connection.forward = .error refusal ∧
      f = if refusal.isSsh then .tunnel (.refused address refusal.text) else refusal

/-- What becomes of an address when its port is asked for and when the remote host is to listen on
it. -/
inductive Listening (session : Session) (w : Surroundings τ) (address : String) : Prop
  | rejected (unnamed : ∀ port, ¬ Tunnel.IsPortOf address port)
      (parsed : Tunnel.parsePort address = .error (.tunnel (.noPort address)))
      (listens : exec (session.listen address) w = (.error (.tunnel (.badAddress address)), w))
  | asked (host port : String) (cut : address = s!"{host}:{port}")
      (named : Tunnel.IsPortOf address port) (numeral : Text.IsNumeral port)
      (parsed : Tunnel.parsePort address = .ok port)
      (asks : (exec (session.listen address) w).2.events =
        w.events ++ [.requestForward host (Text.ofDecimals port.toList)])
      (answers : Answers w address host (exec (session.listen address) w).1)
  /-- Digits that are no number. -/
  | unread (host port : String) (cut : address = s!"{host}:{port}")
      (named : Tunnel.IsPortOf address port) (unread : ¬ Text.IsNumeral port)
      (parsed : Tunnel.parsePort address = .ok port)
      (listens : ∃ text, exec (session.listen address) w = (.error (.outside .value text), w))

variable (session : Session) {w : Surroundings τ} {address host port : String}

theorem exec_listen_bad (h : Tunnel.splitAddress? address = none) :
    exec (session.listen address) w = (.error (.tunnel (.badAddress address)), w) := by
  rw [listen, h, exec_throw]

theorem exec_listen_open (hpresent : w.connection.present) (hactive : w.connection.active)
    (hsplit : Tunnel.splitAddress? address = some (host, port)) :
    match Text.readInt port with
    | .error f => exec (session.listen address) w = (.error (.outside .value f.text), w)
    | .ok n =>
      (exec (session.listen address) w).2.events = w.events ++ [.requestForward host n.toNat] ∧
        Answers w address host (exec (session.listen address) w).1 := by
  have hopen : exec session.ensureOpen w = (.ok (), w) := by
    rw [ensureOpen, exec_bind, exec_get]
    simp [hpresent, hactive]
  rw [listen, hsplit]
  dsimp only
  rw [exec_bind, hopen]
  cases Text.readInt port with
  | error f => rfl
  | ok n =>
    simp only [exec_bind, exec_emit, exec_get, Answers]
    cases w.connection.forward with
    | error f => exact ⟨rfl, f, rfl, rfl⟩
    | ok allocated => exact ⟨rfl, allocated, rfl, rfl⟩

/-- An address is rejected in both places or in none, but a port that is no number gets through. -/
theorem listen_listening (hpresent : w.connection.present) (hactive : w.connection.active)
    (address : String) : Listening session w address := by
  cases hparse : Tunnel.parsePort address with
  | error f =>
    obtain ⟨rfl, hunnamed⟩ := Tunnel.parsePort_eq_error hparse
    refine .rejected hunnamed hparse (exec_listen_bad session ?_)
    rw [Tunnel.parsePort] at hparse
    split at hparse
    · cases hparse
    · assumption
  | ok port =>
    have hnamed := Tunnel.parsePort_eq_ok_iff.mp hparse
    obtain ⟨host, hcut⟩ := hnamed.after
    have hlisten := exec_listen_open session hpresent hactive
      (Tunnel.splitAddress?_of_isPortOf hcut hnamed)
    by_cases hnumeral : Text.IsNumeral port
    · rw [Text.readInt_of_isNumeral hnumeral] at hlisten
      exact .asked host port hcut hnamed hnumeral hparse hlisten.1 hlisten.2
    · obtain ⟨f, hread⟩ := Text.readInt_of_not_isNumeral hnamed.digits.1
        (List.all_eq_true.mp hnamed.digits.2) hnumeral
      rw [hread] at hlisten
      exact .unread host port hcut hnamed hnumeral hparse ⟨f.text, hlisten⟩

/-- A superscript is a digit, but no number. -/
theorem listen_listening_superscript :
    let session : Session := { host := "testhost", port := 22 }
    let w : Surroundings Nat := { clock := 0 }
    w.connection.present ∧ w.connection.active ∧ Tunnel.parsePort "h:²" = .ok "²" ∧
      ∃ text, exec (session.listen "h:²") w = (.error (.outside .value text), w) := by
  intro session w
  have hnamed : Tunnel.IsPortOf "h:²" "²" := ⟨⟨"h", rfl⟩, by decide, by decide⟩
  have hparse := Tunnel.parsePort_eq_ok_iff.mpr hnamed
  have hpart {port : String} (h : Tunnel.parsePort "h:²" = .ok port) : "²" = port :=
    Except.ok.inj (hparse.symm.trans h)
  refine ⟨rfl, rfl, hparse, ?_⟩
  cases listen_listening session (w := w) rfl rfl "h:²" with
  | rejected unnamed => exact absurd hnamed (unnamed _)
  | asked host port cut named numeral parsed =>
    obtain rfl := hpart parsed
    exact absurd numeral.decimal (by decide)
  | unread host port cut named unread parsed listens => exact listens

end Session

end Tether
