import Tether.Proofs.Run.Notes
import Tether.Proofs.Run.Session

/-! # The rendezvous

The nonce that the source returns is the one that the gate checks and that the remote
command is given, and the gate runs on the listener whose port the command is told.
-/

namespace Tether

open Act Change Trial

variable {τ α : Type}

theorem Change.OfGate.isApart {c : Change τ} (h : OfGate c) : c.IsApart := by
  cases h with
  | reading h => cases h <;> first | rfl | trivial
  | _ => first | rfl | trivial

theorem Change.OfRelease.isApart {c : Change τ} (h : OfRelease c) : c.IsApart := by
  cases h <;> first | rfl | trivial

/-- Part of what is done before the command is started on a channel. A nonce and a port are
asked for at most if there is something to export. -/
def Event.IsEarly (i : Nat) (exported : Bool) : Event τ → Prop
  | .channel j (.exec _) => j ≠ i
  | .makeNonce | .requestForward _ _ => exported = true
  | _ => True

/-- Right after these notes something leads from `v` to `w`, and nothing is noted in the meantime.
It is over when these events have happened. -/
structure Happens (ns : List (Event τ)) (k : Nat) (s : Surroundings τ) (es : List (Event τ))
    (v w : Surroundings τ) : Prop where
  reached : Follows ns k s v
  silent : Follows [] 0 v w
  finished : w.events <+: es

namespace Happens

variable {ns ns' : List (Event τ)} {j k : Nat} {s t v w : Surroundings τ} {es es' : List (Event τ)}

theorem later (h : Happens ns k s es v w) (hes : es <+: es') : Happens ns k s es' v w :=
  { h with finished := h.finished.trans hes }

theorem preceded (hs : Follows ns j s t) (h : Happens ns' k t es v w) :
    Happens (ns ++ ns') (j + k) s es v w :=
  { h with reached := hs.trans h.reached }

end Happens

namespace Session

theorem listen_ensures (session : Session) (i n : Nat) (w : Surroundings τ) :
    Ensures (session.listen s!"{Tunnel.loopback}:{(n : Int)}") w (Strays (Event.IsEarly i true) w)
      fun l t => ∃ (p : Int) (q j : Nat), w.connection.forward = .ok p ∧
        l.address = s!"{Tunnel.loopback}:{p}" ∧ l.arrivals = w.connection.arrivals ∧
        l.close = closeForwarding j ∧ Follows [.requestForward Tunnel.loopback q] 0 w t := by
  have hsplit : Tunnel.splitAddress? s!"{Tunnel.loopback}:{(n : Int)}" =
      some (Tunnel.loopback, toString n) :=
    Tunnel.splitAddress?_nat Tunnel.loopback n
  have hopen : Notes [] (session.ensureOpen : Act τ Unit) :=
    .get fun s => by
      dsimp only
      split
      · exact .throw _
      · exact .pure _
  rw [listen, hsplit]
  refine (hopen.ensures w).bind ?_
  rintro ⟨⟩ t ht
  cases Text.readInt (toString n) with
  | error f => exact .of_quiet ht
  | ok m =>
    have hasked := ht.before (Follows.note (e := .requestForward Tunnel.loopback m.toNat) rfl t)
    unfold Ensures
    simp only [exec_bind, exec_emit, exec_get]
    cases hforward : t.connection.forward with
    | error f => exact .of_follows hasked (by simp [Event.IsEarly])
    | ok p =>
      refine ⟨p, m.toNat, _, by rw [← ht.forward, hforward], rfl, ht.arrivals, rfl, ?_⟩
      exact hasked.after (.of_apart (c := .forwardings (· ++ [_])) trivial _)

end Session

namespace Tunnel

/-- What is done between the listener and the gate: the listener is announced, and a server is
looked up unless there is one. -/
def provide (l : Listener τ) (port : String) (share : Option (FileShare τ)) :
    Act τ (FileShare τ) := do
  Act.log loggerName .debug s!"reverse listener {l.address} port {port}"
  match share with
  | some f => return f
  | none => FileShare.find none

theorem negotiate_eq [Time τ] (listen : String → Act τ (Listener τ)) (root : Path) (nonce : Nonce)
    (deadline : τ) (share : Option (FileShare τ)) (requested : Int) :
    negotiate listen root nonce deadline share requested = (do
      let l ← listen s!"{loopback}:{requested}"
      let port ← tryCatch (Act.lift (parsePort l.address)) fun f => do
        l.close
        throw f
      let f ← provide l port share
      Act.thread "cpu-namespace" do
        let _ ← Gate.run { share := f, root, nonce, deadline } l
      return port) := by
  unfold negotiate provide
  cases share <;> simp only [bind_assoc, pure_bind]

theorem provide_makes (l : Listener τ) (port : String) (share : Option (FileShare τ)) :
    Makes [] (provide l port share) := by
  refine (Makes.log _ _ _).bind fun _ => ?_
  cases share with
  | some f => exact .pure f
  | none => exact .of_within (FileShare.find_within none) .refl fun _ => OfGate.isApart

/-- The gate that checks the nonce runs from `v` to `w`, on the listener that is granted in `s` and
is at the port. -/
def Runs [Time τ] (session : Session) (share : Option (FileShare τ)) (root : Path) (nonce : Nonce)
    (deadline : τ) (requested port : Nat) (s v w : Surroundings τ) : Prop :=
  ∃ (l : Listener τ) (t : Surroundings τ) (f : FileShare τ),
    exec (session.listen s!"{loopback}:{(requested : Int)}") s = (.ok l, t) ∧
    l.address = s!"{loopback}:{port}" ∧ l.arrivals = s.connection.arrivals ∧
    exec (provide l (toString port) share) t = (.ok f, v) ∧
    (exec (Gate.run { share := f, root, nonce, deadline } l) v).2 = w

theorem release_makes {l : Listener τ} {j : Nat} (hclose : l.close = Session.closeForwarding j) :
    Makes [] l.close :=
  hclose ▸ .of_within (Session.closeForwarding_release j) .refl fun _ => OfRelease.isApart

theorem thread_ensures {E : Surroundings τ → Prop} (name : String) (a : Act τ Unit)
    (s : Surroundings τ) :
    Ensures (Act.thread name a) s E fun _ t => Follows [] 0 (exec a s).2 t := by
  unfold Ensures
  rw [Act.thread, exec_tryCatch]
  rcases exec a s with ⟨f | ⟨⟩, t⟩
  · exact .of_apart (c := .thread name f) trivial t
  · exact .refl t

/-- A listener whose port cannot be told to anyone is given back. -/
theorem announce_ensures {P : Event τ → Prop} {l : Listener τ} {p : Int} {j : Nat}
    (haddress : l.address = s!"{loopback}:{p}") (hclose : l.close = Session.closeForwarding j)
    (s : Surroundings τ) :
    Ensures (tryCatch (Act.lift (parsePort l.address)) fun f => do
        l.close
        throw f) s (Strays P s)
      fun port t => s = t ∧ ∃ n : Nat, p = n ∧ port = toString n := by
  unfold Ensures
  rw [exec_tryCatch, exec_lift, haddress, parsePort_int]
  by_cases hp : 0 ≤ p
  · rw [if_pos hp]
    have htext := (Int.toNat_of_nonneg hp).symm
    exact ⟨rfl, p.toNat, htext, congrArg toString htext⟩
  · rw [if_neg hp]
    have hrelease := (Notes.of_makes (release_makes hclose)).ensures (P := P) s
    exact hrelease.bind fun _ _ => .of_quiet

variable [Time τ]

theorem run_makes (g : Gate τ) {l : Listener τ} {j : Nat}
    (hclose : l.close = Session.closeForwarding j) : Makes [] (g.run l) := by
  have hrelease : Within SessionView IsApart l.close :=
    hclose ▸ (Session.closeForwarding_release j).mono (fun _ _ h => h) fun _ => OfRelease.isApart
  exact .of_within (g.run_within hrelease (fun _ _ h => h.toGateView) fun _ => OfGate.isApart)
    .refl fun _ => id

/-- The tunnel is open, with the gate on it, and this is the text of the port that was
allocated. -/
def IsOpen (session : Session) (share : Option (FileShare τ)) (root : Path) (nonce : Nonce)
    (deadline : τ) (requested : Nat) (s : Surroundings τ) (port : String) (t : Surroundings τ) :
    Prop :=
  ∃ (p q : Nat) (v w : Surroundings τ), port = toString p ∧
    s.connection.forward = .ok (p : Int) ∧ Follows [.requestForward loopback q] 0 s t ∧
    Runs session share root nonce deadline requested p s v w ∧
    Happens [.requestForward loopback q] 0 s t.events v w

theorem negotiate_ensures (session : Session) (root : Path) (nonce : Nonce) (deadline : τ)
    (share : Option (FileShare τ)) (i n : Nat) (s : Surroundings τ) :
    Ensures (negotiate session.listen root nonce deadline share n) s
      (Strays (Event.IsEarly i true) s) (IsOpen session share root nonce deadline n s) := by
  rw [negotiate_eq]
  refine (session.listen_ensures i n s).exec_eq.bind ?_
  rintro l t ⟨hlisten, p, q, j, hforward, haddress, harrivals, hclose, ht⟩
  have hmade : Strays (Event.IsEarly i true) s t := .of_follows ht (by simp [Event.IsEarly])
  refine (Ensures.since hmade (announce_ensures haddress hclose t)).bind ?_
  rintro _ _ ⟨rfl, p, rfl, rfl⟩
  refine (Ensures.since hmade
    ((Notes.of_makes (provide_makes l _ share)).ensures t)).exec_eq.bind ?_
  rintro f v ⟨hprovide, hv⟩
  have hserved := run_makes { share := f, root, nonce, deadline } hclose v
  have hrun : (exec (do
      let _ ← Gate.run { share := f, root, nonce, deadline } l : Act τ Unit) v).2 =
        (exec (Gate.run { share := f, root, nonce, deadline } l) v).2 := by
    rw [exec_bind]
    rcases exec (Gate.run { share := f, root, nonce, deadline } l) v with ⟨_ | _, u⟩ <;> rfl
  refine (thread_ensures _ _ v).bind fun _ u hu => ?_
  rw [hrun] at hu
  have hreached := ht.after hv
  exact ⟨p, q, v, _, rfl, hforward, hreached.after (hserved.after hu),
    ⟨l, t, f, hlisten, haddress, harrivals, hprovide, rfl⟩, hreached, hserved, hu.prefix_events⟩

end Tunnel

namespace Run

open Tunnel

/-- The same means, with a note of every nonce that is asked for. -/
def Means.recorded (m : Means τ) : Means τ :=
  { m with makeNonce := do Act.emit .makeNonce; m.makeNonce }

theorem DrawsRandom.recorded {m : Means Float} (h : DrawsRandom m) : DrawsRandom m.recorded := by
  constructor
  · intro u k
    have hnote : Tried (Continues u k) [] (Act.emit .makeNonce) :=
      .of_ok fun s _ => ⟨(), _, exec_emit _ s⟩
    show Tried _ ([] ++ [.check (drawFails u)]) _
    exact hnote.quiet Continues.lasting (.emit (V := Eq) trivial) (fun _ => rfl) fun _ =>
      h.tried u k
  · exact (Within.emit trivial).bind fun _ => h.within

/-- What the remote command is told of the tunnel: a port and more variables. It is opened in `u`
after some notes, and is open when these events have happened. -/
inductive Tunnelled (m : Means Float) (session : Session) (o : ClientOptions)
    (u : Surroundings Float) (before : List (Event Float)) (k : Nat) (s : Surroundings Float)
    (es : List (Event Float)) : List (Event Float) → Option String → Environment → Prop
  | withheld (h : namespaceEnabled m.environment = false) :
    Tunnelled m session o u before k s es [] none []
  | exported (h : namespaceEnabled m.environment = true) {nonce : Nonce} {p q : Nat}
    {v w x y : Surroundings Float} (hport : s.connection.forward = .ok (p : Int))
    (hasked : v = (Change.event .makeNonce).apply u) (hdrawn : exec m.makeNonce v = (.ok nonce, w))
    (hdraw : Happens (before ++ [.makeNonce]) k s es v w)
    (hserved : Runs session m.share o.root nonce o.timeout9p o.port9p p w x y)
    (hserve : Happens (before ++ [.makeNonce, .requestForward loopback q]) k s es x y) :
    Tunnelled m session o u before k s es [.makeNonce, .requestForward loopback q]
      (some (toString p)) [(Nonce.variableName, nonce.value)]

namespace Tunnelled

variable {m : Means Float} {session : Session} {o : ClientOptions}
  {before before' ns es es' : List (Event Float)} {j k : Nat} {s t u : Surroundings Float}
  {port : Option String} {extra : Environment}

theorem early (h : Tunnelled m session o u before k s es ns port extra) (i : Nat) :
    ∀ e ∈ ns, e.IsEarly i (namespaceEnabled m.environment) := by
  cases h with
  | withheld h => simp
  | exported h => simp [Event.IsEarly, h]

theorem eq_nil (h : Tunnelled m session o u before k s es ns port extra)
    (hdisabled : namespaceEnabled m.environment = false) : ns = [] := by
  cases h with
  | withheld h => rfl
  | exported h => exact absurd (hdisabled.symm.trans h) Bool.false_ne_true

theorem port_eq (h : Tunnelled m session o u before k s es ns port extra)
    (henabled : namespaceEnabled m.environment = true) :
    ∃ p : Nat, s.connection.forward = .ok (p : Int) ∧ port = some (toString p) := by
  cases h with
  | withheld h => exact absurd (h.symm.trans henabled) Bool.false_ne_true
  | exported _ hport => exact ⟨_, hport, rfl⟩

theorem later (h : Tunnelled m session o u before k s es ns port extra) (hes : es <+: es') :
    Tunnelled m session o u before k s es' ns port extra := by
  cases h with
  | withheld h => exact .withheld h
  | exported h hport hasked hdrawn hdraw hserved hserve =>
    exact .exported h hport hasked hdrawn (hdraw.later hes) hserved (hserve.later hes)

theorem preceded (hs : Follows before' j s t)
    (h : Tunnelled m session o u before k t es ns port extra) :
    Tunnelled m session o u (before' ++ before) (j + k) s es ns port extra := by
  cases h with
  | withheld h => exact .withheld h
  | exported h hport hasked hdrawn hdraw hserved hserve =>
    refine .exported h (hs.forward ▸ hport) hasked hdrawn ?_ hserved ?_
    · rw [List.append_assoc]
      exact hdraw.preceded hs
    · rw [List.append_assoc]
      exact hserve.preceded hs

end Tunnelled

variable {m : Means Float}

theorem makeNonce_ensures (hsource : Makes [] m.makeNonce) (i : Nat) (s : Surroundings Float) :
    Ensures m.recorded.makeNonce s (Strays (Event.IsEarly i true) s) fun nonce t =>
      ∃ v, v = (Change.event .makeNonce).apply s ∧ exec m.makeNonce v = (.ok nonce, t) ∧
        Happens [.makeNonce] 0 s t.events v t := by
  have hasked : Follows [.makeNonce] 0 s ((Change.event .makeNonce).apply s) := .note rfl s
  have hdrawn := hsource ((Change.event .makeNonce).apply s)
  unfold Ensures Means.recorded
  rw [exec_bind, exec_emit]
  change Follows [] 0 _ (exec m.makeNonce { s with events := s.events ++ [.makeNonce] }).2 at hdrawn
  dsimp only
  rcases e : exec m.makeNonce { s with events := s.events ++ [.makeNonce] } with ⟨f | nonce, t⟩ <;>
    rw [e] at hdrawn
  · exact .of_follows (hasked.after hdrawn) (by simp [Event.IsEarly])
  · exact ⟨_, rfl, e, hasked, hdrawn, List.prefix_rfl⟩

theorem openTunnel_ensures (hsource : Makes [] m.makeNonce) (session : Session) (o : ClientOptions)
    (i : Nat) (s : Surroundings Float) :
    Ensures (openTunnel m.recorded session o) s
      (Strays (Event.IsEarly i (namespaceEnabled m.environment)) s) fun x t =>
        ∃ ns, Follows ns 0 s t ∧ Tunnelled m session o s [] 0 s t.events ns x.1 x.2 := by
  rw [openTunnel, show m.recorded.environment = m.environment from rfl]
  cases henabled : namespaceEnabled m.environment with
  | false =>
    rw [if_neg Bool.false_ne_true]
    refine ((Notes.of_makes (.log _ _ _)).ensures s).bind fun _ t ht => ?_
    exact ⟨[], ht, .withheld henabled⟩
  | true =>
    rw [if_pos rfl]
    refine (makeNonce_ensures hsource i s).bind ?_
    rintro nonce t ⟨v, hasked, hdrawn, hdraw⟩
    have ht := hdraw.reached.after hdraw.silent
    have hmade : Strays (Event.IsEarly i true) s t := .of_follows ht (by simp [Event.IsEarly])
    refine (Ensures.since hmade
      (negotiate_ensures session o.root nonce o.timeout9p m.share i o.port9p t)).bind ?_
    rintro _ u ⟨p, q, x, y, rfl, hforward, hu, hserved, hserve⟩
    exact ⟨_, ht.trans hu, .exported henabled (ht.forward ▸ hforward) hasked hdrawn
      (hdraw.later hu.prefix_events) hserved (hserve.preceded ht)⟩

end Run

end Tether
