import Tether.Proofs.Run.Status

/-! # Failures that know no status

Only the command that a run is about may end it with a status of its own. Every other failure
is mute: if it ends a run with a status at all, then with the one that stands for failures.
-/

namespace Tether

open Act Change Trial

variable {τ α β : Type}

/-- Says nothing of the remote command. -/
def Failure.IsMute (f : Failure) : Prop := ∀ n, Run.verdict f = .ok n → n = exitFailure

theorem Failure.isMute_iff {f : Failure} :
    f.IsMute ↔ ∀ r k, f = .remoteCommand r k → k = exitFailure := by
  cases f with
  | remoteCommand r k =>
    constructor
    · rintro h r' k' he
      cases he
      exact h k rfl
    · rintro h n hn
      cases hn
      exact h r k rfl
  | _ =>
    constructor
    · rintro - r k he
      cases he
    · rintro - n hn
      rw [Run.verdict] at hn
      · split at hn <;> cases hn
        rfl
      · rintro r k he
        cases he

def Failure.isCommand : Failure → Bool
  | .remoteCommand _ _ => true
  | _ => false

theorem Failure.IsMute.own {f : Failure} (h : f.isCommand = false) : f.IsMute := by
  rw [isMute_iff]
  rintro r k rfl
  cases h

theorem Failure.IsMute.owned {f : Failure} (h : f.IsMute) (owned : Bool) (t : Trouble) :
    (if owned then Failure.trouble t else f).IsMute := by
  split
  · exact .own rfl
  · exact h

def ChannelFaults.all (c : ChannelFaults) : List (Option Failure) :=
  [c.exec, c.makeFile, c.exitStatus, c.eventPending, c.userMessage, c.waitForEvent, c.resize,
    c.close]

/-- The failures that may reach a run from outside. -/
inductive Surroundings.Raises (s : Surroundings τ) : Failure → Prop
  | refused {i : Nat} {f : Failure} (h : (s.connection.script i).refused = some f) : s.Raises f
  | fault {i : Nat} {f : Failure} (h : some f ∈ (s.connection.script i).faults.all) : s.Raises f
  | forward {f : Failure} (h : s.connection.forward = .error f) : s.Raises f
  | cancel {f : Failure} (h : s.connection.cancel = some f) : s.Raises f
  | close {f : Failure} (h : s.connection.close = some f) : s.Raises f
  | share {e : ShareEntry} {f : Failure} (he : e ∈ s.shares) (h : e.failure = some f) : s.Raises f
  | obstacle {f : Failure} (h : s.tty.obstacle = some f) : s.Raises f
  | address {as : List Address} {a : Address} {f : Failure} (hnetwork : s.network = .found as)
    (ha : a ∈ as) (h : some f ∈ [a.create, a.connect, a.option]) : s.Raises f
  | login {f : Failure} (h : s.login = some f) : s.Raises f

/-- Nothing outside the client speaks for the remote command. -/
def Surroundings.Discreet (s : Surroundings τ) : Prop := ∀ f, s.Raises f → f.IsMute

structure OutsideView (s t : Surroundings τ) : Prop where
  script : s.connection.script = t.connection.script
  forward : s.connection.forward = t.connection.forward
  cancel : s.connection.cancel = t.connection.cancel
  close : s.connection.close = t.connection.close
  shares : s.shares = t.shares
  obstacle : s.tty.obstacle = t.tty.obstacle
  network : s.network = t.network
  login : s.login = t.login

theorem Change.apply_outside (c : Change τ) (s : Surroundings τ) :
    OutsideView (c.apply s) s := by
  cases c with
  | log logger level text =>
    rw [Change.apply, s.logged_eq]
    exact ⟨rfl, rfl, rfl, rfl, rfl, rfl, rfl, rfl⟩
  | _ => exact ⟨rfl, rfl, rfl, rfl, rfl, rfl, rfl, rfl⟩

theorem Surroundings.Raises.of_view {s t : Surroundings τ} (hview : OutsideView s t) {f : Failure}
    (h : s.Raises f) : t.Raises f := by
  cases h with
  | refused h => exact .refused (hview.script ▸ h)
  | fault h => exact .fault (hview.script ▸ h)
  | forward h => exact .forward (hview.forward ▸ h)
  | cancel h => exact .cancel (hview.cancel ▸ h)
  | close h => exact .close (hview.close ▸ h)
  | share he h => exact .share (hview.shares ▸ he) h
  | obstacle h => exact .obstacle (hview.obstacle ▸ h)
  | address hnetwork ha h => exact .address (hview.network ▸ hnetwork) ha h
  | login h => exact .login (hview.login ▸ h)

theorem OutsideView.trans {s t u : Surroundings τ} (h : OutsideView s t) (h' : OutsideView t u) :
    OutsideView s u :=
  ⟨h.script.trans h'.script, h.forward.trans h'.forward, h.cancel.trans h'.cancel,
    h.close.trans h'.close, h.shares.trans h'.shares, h.obstacle.trans h'.obstacle,
    h.network.trans h'.network, h.login.trans h'.login⟩

theorem Reaches.outside {C : Change τ → Prop} {s t : Surroundings τ} (h : Reaches C s t) :
    OutsideView t s :=
  h.keeps (OutsideView · s) (fun c _ u hu => (c.apply_outside u).trans hu)
    ⟨rfl, rfl, rfl, rfl, rfl, rfl, rfl, rfl⟩

theorem Reaches.discreet {C : Change τ → Prop} {s t : Surroundings τ} (h : Reaches C s t)
    (hs : s.Discreet) : t.Discreet :=
  fun f hf => hs f (hf.of_view h.outside)

namespace Act

/-- Fails with mute failures only, where the condition holds. -/
def Mute (P : Surroundings τ → Prop) (a : Act τ α) : Prop :=
  ∀ s, P s → ∀ f t, exec a s = (.error f, t) → f.IsMute

namespace Mute

variable {P Q : Surroundings τ → Prop} {a : Act τ α}

theorem mono (h : Mute P a) (hQ : ∀ s, Q s → P s) : Mute Q a := fun s hs => h s (hQ s hs)

theorem pure (x : α) : Mute P (Pure.pure x : Act τ α) := by
  intro s _ f t e
  cases e

theorem throw {f : Failure} (h : f.IsMute) : Mute P (MonadExcept.throw f : Act τ α) := by
  intro s _ g t e
  cases e
  exact h

theorem emit (e : Event τ) : Mute P (emit e) := by
  intro s _ f t h
  cases h

theorem log (logger : String) (level : Level) (text : String) :
    Mute P (log logger level text : Act τ Unit) := by
  intro s _ f t h
  rw [exec_log] at h
  cases h

theorem failIf {failure : Option Failure} (h : ∀ f, failure = some f → f.IsMute) :
    Mute P (failIf failure : Act τ Unit) := by
  cases failure with
  | none => exact pure ()
  | some f => exact throw (h f rfl)

theorem lift {r : Except Failure α} (h : ∀ f, r = .error f → f.IsMute) :
    Mute P (lift r : Act τ α) := by
  cases r with
  | error f => exact throw (h f rfl)
  | ok x => exact pure x

theorem bind {k : α → Act τ β} {R : α → Surroundings τ → Prop} (h : Mute P a)
    (hR : ∀ s, P s → ∀ x t, exec a s = (.ok x, t) → R x t) (hk : ∀ x, Mute (R x) (k x)) :
    Mute P (a >>= k) := by
  intro s hs f t e
  rw [exec_bind] at e
  rcases ha : exec a s with ⟨g | x, u⟩ <;> rw [ha] at e
  · cases e
    exact h s hs _ _ ha
  · exact hk x u (hR s hs x u ha) f t e

theorem next {k : α → Act τ β} (h : Mute P a) (hk : ∀ x, Mute (fun _ => True) (k x)) :
    Mute P (a >>= k) :=
  h.bind (R := fun _ _ => True) (fun _ _ _ _ _ => trivial) hk

theorem discreet {V : Surroundings τ → Surroundings τ → Prop} {C : Change τ → Prop}
    {k : α → Act τ β} (h : Mute Surroundings.Discreet a) (ha : Within V C a) (hV : ∀ s, V s s)
    (hk : ∀ x, Mute Surroundings.Discreet (k x)) : Mute Surroundings.Discreet (a >>= k) := by
  refine h.bind (fun s hs x t e => ?_) hk
  have hreached := ha.reaches hV s
  rw [e] at hreached
  exact hreached.discreet hs

theorem get {k : Surroundings τ → Act τ α} (hk : ∀ s, P s → Mute P (k s)) :
    Mute P (MonadState.get >>= k) :=
  fun s hs => hk s hs s hs

theorem tryCatch {k : Failure → Act τ α} (h : Mute P a)
    (hQ : ∀ s, P s → ∀ f t, exec a s = (.error f, t) → Q t)
    (hk : ∀ f, f.IsMute → Mute Q (k f)) : Mute P (MonadExcept.tryCatch a k) := by
  intro s hs f t e
  rw [exec_tryCatch] at e
  rcases ha : exec a s with ⟨g | x, u⟩ <;> rw [ha] at e
  · exact hk g (h s hs g u ha) u (hQ s hs g u ha) f t e
  · cases e

theorem thread (name : String) (a : Act τ Unit) : Mute P (thread name a) := by
  intro s _ f t e
  obtain ⟨u, hu⟩ := Tunnel.thread_ok name a s
  rw [hu] at e
  cases e

end Mute

end Act

def Trial.IsMute : Trial → Prop
  | check _ => True
  | call failure _ => ∀ f, failure = some f → f.IsMute
  | report _ => False

theorem Accounts.mute {ts : List Trial} {f : Failure}
    (h : Accounts ts (.error f : Except Failure α)) (hts : ∀ t ∈ ts, t.IsMute) : f.IsMute := by
  have h : firstEnd ts = some (Run.verdict f) := h
  obtain ⟨before, t, after, rfl, hends, -⟩ := List.findSome?_eq_some_iff.mp h
  have ht := hts t (by simp)
  intro n hn
  rw [hn] at hends
  cases t with
  | check fails =>
    have hends : fails = true ∧ exitFailure = n := by simpa [ends] using hends
    exact hends.2.symm
  | call failure owned =>
    obtain ⟨g, hg, hends⟩ := Option.map_eq_some_iff.mp hends
    split at hends
    · simpa [eq_comm] using hends
    · exact ht g hg n hends
  | report status => exact ht.elim

theorem Act.Mute.of_tried {P : Surroundings τ → Prop} {ts : List Trial} {a : Act τ α}
    (h : Tried P ts a) (hts : ∀ t ∈ ts, t.IsMute) : Mute P a := by
  intro s hs f t e
  have ha := h s hs
  rw [e] at ha
  exact ha.mute hts

/-! ### Over a connection -/

theorem Surroundings.Discreet.fault {s : Surroundings τ} (hs : s.Discreet) (i : Nat)
    {failure : Option Failure} (hmem : failure ∈ (s.connection.script i).faults.all) :
    ∀ f, failure = some f → f.IsMute := by
  rintro f rfl
  exact hs f (.fault hmem)

theorem Failure.mute_orElse {x y : Option Failure} (hx : ∀ f, x = some f → f.IsMute)
    (hy : ∀ f, y = some f → f.IsMute) : ∀ f, (x <|> y) = some f → f.IsMute := by
  cases x with
  | none => exact hy
  | some g => exact hx

namespace Session

theorem closeForwarding_mute (k : Nat) :
    Mute Surroundings.Discreet (closeForwarding k : Act τ Unit) := by
  refine .get fun s hs => ?_
  dsimp only
  split
  · exact .pure ()
  · split
    · refine Mute.next (fun _ _ _ _ e => by cases e) fun _ => (Mute.emit _).next fun _ => ?_
      split
      · exact .pure ()
      · rename_i f hcancel
        split
        · exact .log _ _ _
        · exact .throw (hs f (.cancel hcancel))
    · exact .pure ()

theorem ensureOpen_mute (session : Session) {P : Surroundings τ → Prop} :
    Mute P (session.ensureOpen : Act τ Unit) := by
  refine .get fun s _ => ?_
  dsimp only
  split
  · exact .throw (.own rfl)
  · exact .pure ()

theorem listen_mute (session : Session) (address : String) :
    Mute Surroundings.Discreet (session.listen address : Act τ (Listener τ)) := by
  rw [listen]
  split
  · exact .throw (.own rfl)
  · refine session.ensureOpen_mute.discreet session.ensureOpen_within.toSession .refl fun _ => ?_
    split
    · exact .throw (.own rfl)
    · refine (Mute.emit _).discreet (V := Eq) (C := fun _ => True) (.emit trivial) (fun _ => rfl)
        fun _ => .get fun s hs => ?_
      dsimp only
      split
      · rename_i f hforward
        split
        · exact .throw (.own rfl)
        · exact .throw (hs f (.forward hforward))
      · exact Mute.next (fun _ _ _ _ e => by cases e) fun _ => .pure _

theorem openChannel_mute (session : Session) :
    Mute Surroundings.Discreet (session.openChannel : Act τ Nat) := by
  intro s hs f t e
  rw [exec_openChannel session (.refl s)] at e
  cases hclosed : s.connection.isClosed <;> rw [hclosed] at e
  · cases hrefused : (s.next 0).refused with
    | none =>
      rw [hrefused] at e
      cases e
    | some g =>
      rw [hrefused] at e
      cases e
      exact Failure.IsMute.owned (hs g (.refused hrefused)) _ _
  · cases e
    exact .own rfl

end Session

theorem FileShare.find_mute :
    Mute Surroundings.Discreet (FileShare.find none : Act τ (FileShare τ)) := by
  refine .get fun s hs => (Mute.emit _).next fun _ => ?_
  split
  · exact .pure _
  · rename_i entry hentry
    refine (Mute.log _ _ _).next fun _ => (Mute.emit _).next fun _ => ?_
    exact (Mute.failIf fun f hf => hs f (.share (List.mem_of_find?_eq_some hentry) hf)).next
      fun _ => .pure _

theorem Tunnel.negotiate_mute [Time τ] (session : Session) (root : Path) (nonce : Nonce)
    (deadline : τ) (share : Option (FileShare τ)) (requested : Int) :
    Mute Surroundings.Discreet
      (negotiate session.listen root nonce deadline share requested) := by
  refine (session.listen_mute _).bind
    (R := fun l s => s.Discreet ∧ l.Granted s) ?_ fun l => ?_
  · intro s hs l t e
    have hreached := (session.listen_within (s!"{loopback}:{requested}")).reaches .refl s
    rw [e] at hreached
    exact ⟨hreached.discreet hs, session.listen_granted _ e⟩
  rintro s ⟨hs, -, ⟨k, _, hclose, -⟩⟩
  have hrelease : Within SessionView IsQuiet l.close := hclose ▸ Session.closeForwarding_within k
  have hport : Mute Surroundings.Discreet (tryCatch (Act.lift (parsePort l.address)) fun f => do
      l.close
      throw f) := by
    refine .tryCatch (Q := Surroundings.Discreet) (.lift fun f hf => ?_) (fun s hs f t e => ?_)
      fun f hf => ?_
    · rw [parsePort] at hf
      split at hf <;> cases hf
      exact .own rfl
    · rw [exec_lift] at e
      obtain ⟨-, rfl⟩ := Prod.mk.inj e
      exact hs
    · rw [hclose]
      exact (Session.closeForwarding_mute k).next fun _ => .throw hf
  refine (hport.discreet (.tryCatch (.lift _) fun f => hrelease.bind fun _ => .throw f) .refl
    fun port => ?_) s hs
  refine (Mute.log _ _ _).discreet .quietLog SessionView.refl fun _ => ?_
  cases share with
  | some share => exact (Mute.thread _ _).next fun _ => .pure _
  | none => exact FileShare.find_mute.next fun _ => (Mute.thread _ _).next fun _ => .pure _

theorem Terminal.enterRaw_mute : Mute Surroundings.Discreet (enterRaw : Act τ Unit) := by
  intro s hs f t e
  have haccounts := enterRaw_accounts s
  rw [e] at haccounts
  refine haccounts.mute fun t ht => ?_
  obtain rfl := List.mem_singleton.mp ht
  intro g hg
  obtain ⟨mode, -, hg⟩ := Option.bind_eq_some_iff.mp hg
  refine Failure.mute_orElse (fun g hg => hs g (.obstacle hg)) (fun g hg => ?_) g hg
  obtain ⟨text, -, rfl⟩ := Option.map_eq_some_iff.mp hg
  exact .own rfl

theorem Nonce.generate_mute {P : Surroundings τ → Prop} (source : Nat → Act τ Bytes) :
    Mute P (Nonce.generate source) := by
  have hsource : Mute P (tryCatch (source nonceBytes) fun f =>
      throw (.random (.failed f.text))) := by
    intro s _ f t e
    rw [exec_tryCatch] at e
    rcases h : exec (source nonceBytes) s with ⟨g | bs, u⟩ <;> rw [h] at e <;> cases e
    exact .own rfl
  refine hsource.next fun bs => .lift fun f hf => ?_
  rw [ofBytes] at hf
  split at hf <;> cases hf
  exact .own rfl

namespace Remote

variable {i j : Nat} {u : Surroundings τ}

theorem close_mute (hu : u.Discreet) :
    Mute (Carries i (u.connection.script j) : Surroundings τ → Prop) (close i) := by
  intro s hs f t e
  rw [close, exec_bind, exec_channel] at e
  dsimp only at e
  rw [hs.faults, exec_call] at e
  cases hclose : (u.connection.script j).faults.close with
  | none =>
    rw [hclose] at e
    cases e
  | some g =>
    rw [hclose] at e
    cases e
    exact hu.fault j (by simp [ChannelFaults.all]) _ hclose

theorem ptyFailure_mute (hu : u.Discreet) (size : Int × Int) :
    ∀ f, ptyFailure (u.connection.script j) size = some f → f.IsMute := by
  have hfield (bad : Bool) : ∀ f, (if bad then some Failure.outOfField else none) = some f →
      f.IsMute := by
    cases bad with
    | false =>
      rintro f hf
      cases hf
    | true =>
      rintro f hf
      cases hf
      exact .own rfl
  refine Failure.mute_orElse (hfield _) ?_
  refine Failure.mute_orElse (hu.fault j (by simp [ChannelFaults.all])) ?_
  refine Failure.mute_orElse (hu.fault j (by simp [ChannelFaults.all])) ?_
  exact hu.fault j (by simp [ChannelFaults.all])

end Remote

namespace Launch

variable {i j k : Nat} {u : Surroundings τ}

theorem begin_mute (hu : u.Discreet) (command : String) (env : Environment) :
    Mute (fun s => Continues u k s ∧ Carries i (u.connection.script j) s)
      (begin (.onChannel i) command env) := by
  refine .of_tried (begin_tried command env) ?_
  simp only [List.mem_cons, List.not_mem_nil, or_false]
  rintro t (rfl | rfl)
  · exact Remote.ptyFailure_mute hu _
  · exact hu.fault j (by simp [ChannelFaults.all])

end Launch

namespace Run

theorem findServer_mute {P : Surroundings τ → Prop} (run : String → Act τ Bytes) :
    Mute P (findServer run) := by
  intro s _ f t e
  have hresult := exec_findServer run s
  rw [e] at hresult
  dsimp only at hresult
  split at hresult
  · cases hresult
    rename_i g _
    cases g <;> exact .own rfl
  · split at hresult <;> cases hresult
    exact .own rfl

theorem withServer_mute {P : Surroundings Float → Prop} (session : Session) (o : ClientOptions) :
    Mute P (withServer session o) := by
  rw [withServer]
  split
  · exact (findServer_mute _).next fun _ => .pure _
  · exact .pure _

end Run

end Tether
