import Tether.Connect.Login
import Tether.Program
import Tether.Proofs.Footprint.Session

/-! # The footprint of connecting

Opening a connection leaves the terminal, the handler and the channels alone.
Nothing is authenticated until the host is dialled.
-/

namespace Tether

open Act Change

variable {τ : Type}

structure ConnectView (s t : Surroundings τ) : Prop where
  files : s.files = t.files
  environment : s.environment = t.environment
  network : s.network = t.network
  presented : s.presented = t.presented
  login : s.login = t.login
  passphrase : s.passphrase = t.passphrase

theorem ConnectView.refl (s : Surroundings τ) : ConnectView s s := ⟨rfl, rfl, rfl, rfl, rfl, rfl⟩

namespace Change

inductive OfDialling : Change τ → Prop
  | log (level : Level) (text : String) : OfDialling (.log Connect.loggerName level text)
  | prompt (text : String) : OfDialling (.event (.prompt text))
  | addHostKey (name type : String) (blob : Bytes) :
    OfDialling (.event (.addHostKey name type blob))
  | policy (p : UnknownKeyPolicy) : OfDialling (.event (.policy p))
  | systemHostKeys : OfDialling (.event .systemHostKeys)
  | lookup (host : String) (port : Nat) (family : String) :
    OfDialling (.event (.lookup host port family))
  | createSocket (index : Nat) (family : String) : OfDialling (.event (.createSocket index family))
  | socket (name : String) (c : SocketCall τ) : OfDialling (.event (.socket name c))

inductive OfReaching : Change τ → Prop
  | lookup (host : String) (port : Nat) (family : String) :
    OfReaching (.event (.lookup host port family))
  | createSocket (index : Nat) (family : String) : OfReaching (.event (.createSocket index family))
  | socket (name : String) (c : SocketCall τ) : OfReaching (.event (.socket name c))

theorem OfReaching.ofDialling {c : Change τ} (h : OfReaching c) : OfDialling c := by
  cases h with
  | lookup => exact .lookup _ _ _
  | createSocket => exact .createSocket _ _
  | socket => exact .socket _ _

inductive OfLogin : Change τ → Prop
  | dialling {c : Change τ} (h : OfDialling c) : OfLogin c
  | authenticate (host : String) (port : Nat) (user : String) (key : Bytes) (socket : String) :
    OfLogin (.event (.authenticate host port user key socket))
  | closeClient : OfLogin (.event .closeClient)

/-- Quiet, but for the close of a connection that could not be completed. -/
def OfConnect : Change τ → Prop
  | .event .closeClient => True
  | c => c.IsQuiet

theorem OfLogin.ofConnect {c : Change τ} (h : OfLogin c) : c.OfConnect := by
  cases h with
  | dialling h =>
    cases h with
    | log =>
      show Connect.loggerName ≠ Terminal.loggerName
      decide
    | _ => exact trivial
  | _ => exact trivial

end Change

namespace Connect

theorem log_within (level : Level) (text : String) :
    Within ConnectView OfDialling (Act.log loggerName level text : Act τ Unit) :=
  .log (.log level text)

theorem identity_within {C : Change τ → Prop} (path : Path) (passphrase : Option String) :
    Within ConnectView C (identity path passphrase : Act τ PublicKey) :=
  .get (fun _ => .lift _) fun s t h => by rw [h.files, h.environment]

theorem loadIdentity_within {C : Change τ → Prop} (path : Path)
    {prompt : Option (Path → Act τ String)}
    (hprompt : ∀ ask ∈ prompt, ∀ path, Within ConnectView C (ask path)) :
    Within ConnectView C (loadIdentity path prompt) := by
  refine .tryCatch (identity_within path none) fun f => ?_
  split
  · exact .tryCatch ((hprompt _ rfl path).bind fun _ => identity_within path _) fun f => .throw _
  · exact .throw _

theorem trust_within (o : ClientOptions) :
    Within ConnectView OfDialling (trust o : Act τ Trust) := by
  have hpolicy (p : UnknownKeyPolicy) (t : Trust) :
      Within ConnectView OfDialling (do Act.emit (.policy p); return t : Act τ Trust) :=
    (Within.emit (.policy p)).bind fun _ => .pure _
  unfold trust
  split
  · refine .get (fun s => Within.bind (.tryCatch (.lift _) fun f => ?_) fun key => ?_)
      fun s t h => by rw [h.files, h.environment]
    · split <;> exact .throw _
    · exact (Within.emit (.addHostKey _ _ _)).bind fun _ => hpolicy _ _
  · split
    · exact (log_within _ _).bind fun _ => hpolicy _ _
    · exact (Within.emit .systemHostKeys).bind fun _ => hpolicy _ _

theorem socketCall_within (a : Address) (c : SocketCall τ) :
    Within ConnectView OfReaching (socketCall a c) :=
  .emit (.socket a.name c)

theorem attempt_within (a : Address) (timeout : τ) :
    Within ConnectView OfReaching (attempt a timeout) := by
  refine (socketCall_within a _).bind fun _ => (socketCall_within a _).bind fun _ => ?_
  split
  · exact .pure _
  · split
    · exact (socketCall_within a _).bind fun _ => .pure _
    · exact .throw _

theorem tryAddresses_within (timeout : τ) (addresses : List Address) (index : Nat)
    (last : Option Failure) :
    Within ConnectView OfReaching (tryAddresses timeout index last addresses) := by
  induction addresses generalizing index last with
  | nil => exact .pure _
  | cons a rest ih =>
    refine (Within.emit (.createSocket _ _)).bind fun _ => (Within.failIf _).bind fun _ => ?_
    refine (attempt_within a timeout).bind fun r => ?_
    split
    · exact ih _ _
    · refine (socketCall_within a _).bind fun _ => (socketCall_within a _).bind fun _ => ?_
      exact (Within.failIf _).bind fun _ => .pure _

theorem dial_within (network : Network) (host : String) (port : Nat) (timeout : τ) :
    Within ConnectView OfReaching (dial network host port timeout) := by
  refine (Within.emit (.lookup _ _ _)).bind fun _ =>
    .get (fun s => ?_) fun s t h => by rw [h.network]
  split
  · exact .throw _
  · refine (tryAddresses_within timeout _ _ _).bind fun r => ?_
    split
    · exact .pure _
    · exact .throw _

theorem dial_dialling (network : Network) (host : String) (port : Nat) (timeout : τ) :
    Within ConnectView OfDialling (dial network host port timeout) :=
  (dial_within network host port timeout).mono (fun _ _ h => h) fun _ => OfReaching.ofDialling

theorem login_within (o : ClientOptions) (key : PublicKey) (t : Trust) (a : Address) :
    Within ConnectView OfLogin (login o key t a : Act τ Unit) := by
  refine (Within.emit (.authenticate _ _ _ _ _)).bind fun _ =>
    .get (fun s => ?_) fun s t h => by rw [h.presented, h.login]
  split
  · refine Within.bind ?_ fun _ => .failIf _
    unfold presentUnknown
    split
    · exact .throw _
    · exact (log_within _ _).mono (fun _ _ h => h) fun _ => .dialling
  · exact .failIf _

/-- Besides connecting nothing is done but what is done to ask for a passphrase. -/
theorem session_within [Time τ] {C : Change τ → Prop} (hC : ∀ c, OfLogin c → C c)
    (o : ClientOptions) {prompt : Option (Path → Act τ String)}
    (hprompt : ∀ ask ∈ prompt, ∀ path, Within ConnectView C (ask path)) :
    Within ConnectView C (session o prompt) := by
  have hdialling {α : Type} {a : Act τ α} (h : Within ConnectView OfDialling a) :
      Within ConnectView C a :=
    h.mono (fun _ _ h => h) fun c hc => hC c (.dialling hc)
  refine (loadIdentity_within _ hprompt).bind fun key => ?_
  refine (hdialling (trust_within o)).bind fun t => ?_
  refine (hdialling (dial_dialling _ _ _ _)).bind fun a => ?_
  refine Within.bind (.tryCatch ((login_within o key t a).mono (fun _ _ h => h) hC) fun f => ?_)
    fun _ => (hdialling (log_within _ _)).bind fun _ => .pure _
  split
  · refine (Within.emit (hC _ .closeClient)).bind fun _ => ?_
    exact ((socketCall_within a _).mono (fun _ _ h => h) fun c hc =>
      hC c (.dialling hc.ofDialling)).bind fun _ => .throw _
  · exact .throw _

end Connect

namespace Program

theorem askPassphrase_within {C : Change Float → Prop} (hC : ∀ text, C (.event (.prompt text)))
    (key : Path) : Within ConnectView C (askPassphrase key) :=
  (Within.emit (hC _)).bind fun _ => .get (fun _ => .pure _) fun s t h => by rw [h.passphrase]

theorem connect_login (env : Environment) (o : ClientOptions) :
    Within ConnectView OfLogin ((means env).connect o) := by
  refine Connect.session_within (fun _ h => h) o fun ask hask path => ?_
  obtain rfl : askPassphrase = ask := Option.some.inj hask
  exact askPassphrase_within (fun text => .dialling (.prompt text)) path

theorem connect_within (env : Environment) (o : ClientOptions) :
    Within ConnectView OfConnect ((means env).connect o) :=
  (connect_login env o).mono (fun _ _ h => h) fun _ => OfLogin.ofConnect

theorem makeNonce_within {C : Change Float → Prop} (env : Environment) :
    Within (fun s t => s.random = t.random) C (means env).makeNonce := by
  refine Within.bind (.tryCatch ?_ fun f => .throw _) fun bs => .lift _
  exact .get (fun _ => .lift _) fun s t h => by rw [h]

end Program

end Tether
