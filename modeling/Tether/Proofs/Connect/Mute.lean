import Tether.Proofs.Connect.Trust
import Tether.Proofs.Run.Mute

/-! # Failures to connect

Whatever keeps a connection from being opened, a key, an address or the server, it is no
status of a remote command.
-/

namespace Tether

open Act Change

variable {τ α β : Type}

def MuteResult (r : Except Failure α) : Prop := ∀ f, r = .error f → f.IsMute

namespace MuteResult

theorem ok (x : α) : MuteResult (.ok x) := by
  rintro f hf
  cases hf

theorem error {f : Failure} (h : f.IsMute) : MuteResult (.error f : Except Failure α) := by
  rintro g hg
  cases hg
  exact h

theorem bind {r : Except Failure α} {k : α → Except Failure β} (h : MuteResult r)
    (hk : ∀ x, MuteResult (k x)) : MuteResult (r >>= k) := by
  cases r with
  | error f => exact error (h f rfl)
  | ok x => exact hk x

end MuteResult

namespace Keys

variable (fs : Files) (env : Environment) (path : Path)

theorem expandHome_mute : MuteResult (expandHome fs env path) := by
  intro f hf
  rw [Failure.isMute_iff]
  rintro r k rfl
  unfold expandHome at hf
  grind

theorem loadPrivate_mute (passphrase : Option String) :
    MuteResult (loadPrivate fs env path passphrase) := by
  have hfailure (p : Path) (text : String) : (keyFailure p text).IsMute := .own rfl
  refine (expandHome_mute fs env path).bind fun p => ?_
  unfold loadPrivateAt
  dsimp only
  split
  · exact .error (hfailure _ _)
  · split
    · exact .error (.own rfl)
    · exact .error (.own rfl)
    · split
      · exact .error (hfailure _ _)
      · split
        · exact .ok _
        · exact .error (.own rfl)
        · exact .error (hfailure _ _)
    · exact .error (hfailure _ _)

theorem loadHost_mute : MuteResult (loadHost fs env path) := by
  refine (expandHome_mute fs env path).bind fun p => ?_
  unfold loadHostAt
  dsimp only
  split
  · exact .error (.own rfl)
  · split
    · exact .error (.own rfl)
    · split
      · exact .ok _
      · exact .error (.own rfl)

end Keys

namespace Connect

variable {P : Surroundings τ → Prop} {o : ClientOptions}
  {prompt : Option (Path → Act τ String)}

theorem identity_mute (path : Path) (passphrase : Option String) :
    Mute P (identity path passphrase : Act τ PublicKey) :=
  .get fun s _ => .lift (Keys.loadPrivate_mute s.files s.environment path passphrase)

theorem blameIdentity_mute {f : Failure} (h : f.IsMute) : (blameIdentity f).IsMute := by
  cases f with
  | key k => exact .own rfl
  | _ => exact h

theorem loadIdentity_mute (path : Path)
    (hprompt : ∀ ask ∈ prompt, ∀ path, Mute (fun _ => True) (ask path)) :
    Mute P (loadIdentity path prompt) := by
  refine (identity_mute path none).tryCatch (fun _ _ _ _ _ => trivial) fun f hf => ?_
  split
  · exact ((hprompt _ rfl path).next fun _ => identity_mute path _).tryCatch
      (fun _ _ _ _ _ => trivial) fun g hg => .throw (blameIdentity_mute hg)
  · exact .throw (blameIdentity_mute hf)

theorem trust_mute (o : ClientOptions) : Mute P (trust o : Act τ Trust) := by
  rw [trust]
  split
  · refine .get fun s _ => Mute.next (.tryCatch (.lift (Keys.loadHost_mute _ _ _))
      (fun _ _ _ _ _ => trivial) fun f hf => ?_) fun key => ?_
    · split
      · exact .throw (.own rfl)
      · exact .throw hf
    · exact (Mute.emit _).next fun _ => (Mute.emit _).next fun _ => .pure _
  · split
    · exact (Mute.log _ _ _).next fun _ => (Mute.emit _).next fun _ => .pure _
    · exact (Mute.emit _).next fun _ => (Mute.emit _).next fun _ => .pure _

variable {a : Address}

theorem attempt_mute (ha : ∀ f, a.connect = some f → f.IsMute) (timeout : τ) :
    Mute P (attempt a timeout) := by
  refine (Mute.emit _).next fun _ => (Mute.emit _).next fun _ => ?_
  split
  · exact .pure _
  · rename_i f hconnect
    split
    · exact (Mute.emit _).next fun _ => .pure _
    · exact .throw (ha f hconnect)

theorem tryAddresses_mute (timeout : τ) {addresses : List Address}
    (h : ∀ a ∈ addresses, ∀ f, some f ∈ [a.create, a.connect, a.option] → f.IsMute) (index : Nat)
    (last : Option Failure) : Mute P (tryAddresses timeout index last addresses) := by
  induction addresses generalizing P index last with
  | nil => exact .pure _
  | cons a rest ih =>
    have ha {failure : Option Failure} (hmem : failure ∈ [a.create, a.connect, a.option])
        (f : Failure) (hf : failure = some f) : f.IsMute := h a List.mem_cons_self f (hf ▸ hmem)
    refine (Mute.emit _).next fun _ => (Mute.failIf (ha (by simp))).next fun _ => ?_
    refine (attempt_mute (ha (by simp)) timeout).next fun r => ?_
    split
    · exact ih (fun a hmem => h a (List.mem_cons_of_mem _ hmem)) _ _
    · refine (Mute.emit _).next fun _ => (Mute.emit _).next fun _ => ?_
      exact (Mute.failIf (ha (by simp))).next fun _ => .pure _

theorem dial_mute (network : Network) (host : String) (port : Nat) (timeout : τ) :
    Mute Surroundings.Discreet (dial network host port timeout) := by
  refine (Mute.emit _).discreet (V := Eq) (C := fun _ => True) (.emit trivial) (fun _ => rfl)
    fun _ => .get fun s hs => ?_
  split
  · exact .throw (.own rfl)
  · rename_i addresses hnetwork
    refine (tryAddresses_mute timeout (fun a ha f hf => hs f (.address hnetwork ha hf)) 0
      none).next fun r => ?_
    split
    · exact .pure _
    · exact .throw (.own rfl)

theorem enter_mute (o : ClientOptions) (key : PublicKey) (t : Trust) (a : Address) :
    Mute Surroundings.Discreet (enter o key t a : Act τ Session) := by
  intro s hs f u e
  obtain ⟨closes, hcompletes, -⟩ := enter_completes o key t a s
  rw [e] at hcompletes
  have hlogin : ∀ g, loginFailure o t s = some g → g.IsMute := by
    refine Failure.mute_orElse ?_ fun g hg => hs g (.login hg)
    intro g hg
    obtain ⟨presented, -, hg⟩ := Option.bind_eq_some_iff.mp hg
    cases hunknown : t.unknown <;> rw [hunknown] at hg <;> cases hg
    exact .own rfl
  generalize loginFailure o t s = failure at hcompletes hlogin
  cases hcompletes with
  | closed => exact .own rfl
  | escaped => exact hlogin _ rfl

theorem session_mute [Time τ] {C : Change τ → Prop}
    (hreaches : ∀ ask ∈ prompt, ∀ path s, Reaches C s (exec (ask path) s).2)
    (hmute : ∀ ask ∈ prompt, ∀ path, Mute (fun _ => True) (ask path)) :
    Mute Surroundings.Discreet (session o prompt) := by
  rw [session_eq_proceed]
  refine (loadIdentity_mute _ hmute).bind (R := fun _ => Surroundings.Discreet)
    (fun s hs x t e => ?_) fun key => ?_
  · have hreached := loadIdentity_reaches o.keyFile hreaches s
    rw [e] at hreached
    exact hreached.discreet hs
  · refine (trust_mute o).discreet (trust_within o) .refl fun t => ?_
    exact (dial_mute _ _ _ _).discreet (dial_within _ _ _ _) .refl fun a => enter_mute o key t a

theorem enter_within (o : ClientOptions) (key : PublicKey) (t : Trust) (a : Address) :
    Within ConnectView OfLogin (enter o key t a : Act τ Session) := by
  have hlog : Within ConnectView OfLogin (Act.log loggerName .debug
      s!"connected to {o.user}@{o.host}:{o.port}" : Act τ Unit) :=
    .log (.dialling (.log _ _))
  refine Within.bind (.tryCatch (login_within o key t a) fun f => ?_) fun _ =>
    hlog.bind fun _ => .pure _
  unfold blameDial
  split
  · refine (Within.emit .closeClient).bind fun _ => ?_
    exact (Within.emit (.dialling (.socket _ _))).bind fun _ => .throw _
  · exact .throw f

theorem session_reaches [Time τ] {C : Change τ → Prop} (hC : ∀ c, OfLogin c → C c)
    (hprompt : ∀ ask ∈ prompt, ∀ path s, Reaches C s (exec (ask path) s).2) (s : Surroundings τ) :
    Reaches C s (exec (session o prompt) s).2 := by
  rw [session_eq_proceed]
  refine (loadIdentity_reaches _ hprompt s).bind fun key u => ?_
  have htrust := (trust_within o).reaches .refl u
  refine (htrust.mono fun c hc => hC c (.dialling hc)).bind fun t v => ?_
  refine (((dial_dialling _ _ _ _).reaches .refl v).mono fun c hc =>
    hC c (.dialling hc)).bind fun a w => ?_
  exact ((enter_within o key t a).reaches .refl w).mono hC

end Connect

end Tether
