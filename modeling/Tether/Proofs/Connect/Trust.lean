import Tether.Proofs.Connect.Login

/-! # Whom the client trusts

Before anything is sent, and before a name is looked up, it is settled which keys the host may
present. A pinned key is the only one that counts; nothing but the options can lead to a
client that takes any key.
-/

namespace Tether

open Act Change

variable {τ : Type}

namespace Event

def isNetwork : Event τ → Bool
  | .lookup _ _ _ | .createSocket _ _ | .socket _ _ | .authenticate _ _ _ _ _ => true
  | _ => false

def isTrust : Event τ → Bool
  | .addHostKey _ _ _ | .policy _ | .systemHostKeys => true
  | _ => false

def isPrompt : Event τ → Bool
  | .askPassphrase _ | .prompt _ => true
  | _ => false

end Event

namespace Change

def IsAloof : Change τ → Prop
  | .event e => e.isNetwork = false ∧ e.isTrust = false
  | _ => True

theorem apply_view (c : Change τ) (s : Surroundings τ) : ConnectView (c.apply s) s := by
  cases c with
  | log logger level text =>
    rw [Change.apply, s.logged_eq]
    exact ⟨rfl, rfl, rfl, rfl, rfl, rfl⟩
  | _ => exact ⟨rfl, rfl, rfl, rfl, rfl, rfl⟩

end Change

theorem ConnectView.trans {s t u : Surroundings τ} (h : ConnectView s t) (h' : ConnectView t u) :
    ConnectView s u :=
  ⟨h.files.trans h'.files, h.environment.trans h'.environment, h.network.trans h'.network,
    h.presented.trans h'.presented, h.login.trans h'.login, h.passphrase.trans h'.passphrase⟩

theorem Reaches.view {C : Change τ → Prop} {s t : Surroundings τ} (h : Reaches C s t) :
    ConnectView t s :=
  h.keeps (ConnectView · s) (fun c _ u hu => (c.apply_view u).trans hu) (.refl s)

namespace Connect

/-! ### The decision -/

def Trust.calls (t : Trust) : List (Event τ) :=
  (t.pinned.toList.map fun (name, key) => .addHostKey name key.typeName key.blob) ++
    (if t.system then [.systemHostKeys] else []) ++ [.policy t.unknown]

theorem Trust.calls_spec (t : Trust) :
    ∀ e ∈ (t.calls : List (Event τ)),
      e.isNetwork = false ∧ e.isTrust = true ∧ e.isPrompt = false := by
  obtain ⟨pinned, system, unknown⟩ := t
  cases pinned <;> cases system <;>
    simp [Trust.calls, Event.isNetwork, Event.isTrust, Event.isPrompt]

abbrev hostKeys (s : Surroundings τ) : Path → Except Failure PublicKey :=
  Keys.loadHost s.files s.environment

theorem hostKeys_eq {s t : Surroundings τ} (h : ConnectView s t) : hostKeys s = hostKeys t := by
  rw [hostKeys, h.files, h.environment]

/-- What is decided about the keys that a host may present. -/
inductive Decision (o : ClientOptions) (load : Path → Except Failure PublicKey) :
    Except Failure Trust → Prop
  | unusable {path : Path} {f g : Failure} (ho : o.hostKeyFile = some path)
    (hload : load path = .error f) : Decision o load (.error g)
  | pinned {path : Path} {key : PublicKey} (ho : o.hostKeyFile = some path)
    (hload : load path = .ok key) :
    Decision o load (.ok { pinned := some (knownName o.host o.port, key) })
  | anyone (ho : o.hostKeyFile = none) (hinsecure : o.insecure = true) :
    Decision o load (.ok { unknown := .accept })
  | system (ho : o.hostKeyFile = none) (hinsecure : o.insecure = false) :
    Decision o load (.ok { system := true })

/-- Either there is no decision and nothing is done, or the calls settle it. -/
theorem exec_trust (o : ClientOptions) (s : Surroundings τ) :
    (∃ f, Decision o (hostKeys s) (.error f) ∧ exec (trust o) s = (.error f, s)) ∨
      ∃ t u, Decision o (hostKeys s) (.ok t) ∧ exec (trust o) s = (.ok t, u) ∧
        u.events = s.events ++ t.calls := by
  cases ho : o.hostKeyFile with
  | some path =>
    rw [trust, ho]
    dsimp only
    rw [exec_bind, exec_get]
    dsimp only
    rw [exec_bind, exec_tryCatch, exec_lift]
    cases hload : Keys.loadHost s.files s.environment path with
    | error f =>
      refine .inl ?_
      cases f <;> exact ⟨_, .unusable ho hload, rfl⟩
    | ok key => exact .inr ⟨_, _, .pinned ho hload, rfl, by simp [Trust.calls]⟩
  | none =>
    refine .inr ?_
    rw [trust, ho]
    cases hinsecure : o.insecure with
    | true =>
      dsimp only
      rw [if_pos rfl, exec_bind, exec_log]
      exact ⟨_, _, .anyone ho hinsecure, rfl, by simp [Trust.calls]⟩
    | false => exact ⟨_, _, .system ho hinsecure, rfl, by simp [Trust.calls]⟩

/-- The part of the library that judges the key a server presents: the name under which it
looks the key up, and whether it accepts the key, given whom we trust and the known hosts of the
system. -/
structure Verifier where
  lookupName : String → Nat → String
  accepts : Trust → List (String × PublicKey) → String → Nat → PublicKey → Prop

def Trust.entries (t : Trust) (system : List (String × PublicKey)) : List (String × PublicKey) :=
  t.pinned.toList ++ if t.system then system else []

/-- How the library is documented to judge. -/
structure Verifier.Documented (v : Verifier) : Prop where
  standardName : ∀ host, v.lookupName host 22 = host
  otherName : ∀ host port, port ≠ 22 → v.lookupName host port = s!"[{host}]:{port}"
  /-- Where a key is known, no key passes that is not. -/
  equal : ∀ {t system host port other key}, (v.lookupName host port, other) ∈ t.entries system →
    v.accepts t system host port key → (v.lookupName host port, key) ∈ t.entries system
  /-- The only key that is known passes. -/
  sole : ∀ {t system host port key},
    (∀ other, (v.lookupName host port, other) ∈ t.entries system ↔ other = key) →
    v.accepts t system host port key
  /-- Where no key is known, the policy is asked. -/
  asks : ∀ {t system host port key},
    (∀ other, (v.lookupName host port, other) ∉ t.entries system) →
    (v.accepts t system host port key ↔ unknownFailure t.unknown host = none)

theorem Verifier.Documented.knownName_eq {v : Verifier} (hv : v.Documented) (host : String)
    (port : Nat) : knownName host port = v.lookupName host port := by
  unfold knownName
  split
  case isTrue h => rw [h, hv.standardName]
  case isFalse h => rw [hv.otherName host port h]

/-- The keys that are accepted under a trust are those that the options ask for. -/
structure Judges (v : Verifier) (o : ClientOptions) (load : Path → Except Failure PublicKey)
    (t : Trust) : Prop where
  /-- The key in the file is accepted and no other, whatever else is known or allowed. -/
  pinned : ∀ path, o.hostKeyFile = some path →
    ∃ key, load path = .ok key ∧
      ∀ system presented, v.accepts t system o.host o.port presented ↔ presented = key
  /-- Without a file a key must be known to the system. -/
  known : o.hostKeyFile = none → o.insecure = false → ∀ system presented,
    v.accepts t system o.host o.port presented →
      (v.lookupName o.host o.port, presented) ∈ system
  /-- Any key passes only if that was asked for and no key is pinned. -/
  anyone : (∀ system presented, v.accepts t system o.host o.port presented) ↔
    o.insecure = true ∧ o.hostKeyFile = none

theorem exists_key_ne (key : PublicKey) : ∃ other, other ≠ key := by
  by_cases h : key = .ed25519 []
  · exact ⟨.ed25519 [0], by simp [h]⟩
  · exact ⟨.ed25519 [], fun h' => h h'.symm⟩

theorem Decision.judges {v : Verifier} (hv : v.Documented) {o : ClientOptions}
    {load : Path → Except Failure PublicKey} {t : Trust} (h : Decision o load (.ok t)) :
    Judges v o load t := by
  cases h with
  | @pinned path key ho hload =>
    have hentries (system : List (String × PublicKey)) (other : PublicKey) :
        (v.lookupName o.host o.port, other) ∈ Trust.entries
          { pinned := some (knownName o.host o.port, key) } system ↔ other = key := by
      simp [Trust.entries, hv.knownName_eq]
    have haccepts (system : List (String × PublicKey)) (presented : PublicKey) :
        v.accepts { pinned := some (knownName o.host o.port, key) } system o.host o.port
          presented ↔ presented = key := by
      constructor
      · intro h
        exact (hentries system presented).mp (hv.equal ((hentries system key).mpr rfl) h)
      · rintro rfl
        exact hv.sole (hentries system)
    constructor
    · intro path' ho'
      obtain rfl : path = path' := Option.some.inj (ho.symm.trans ho')
      exact ⟨key, hload, haccepts⟩
    · intro ho'
      cases ho.symm.trans ho'
    · constructor
      · intro hall
        obtain ⟨other, hother⟩ := exists_key_ne key
        exact absurd ((haccepts [] other).mp (hall [] other)) hother
      · intro hnone
        cases ho.symm.trans hnone.2
  | anyone ho hinsecure =>
    have haccepts (system : List (String × PublicKey)) (presented : PublicKey) :
        v.accepts { unknown := .accept } system o.host o.port presented :=
      (hv.asks (by simp [Trust.entries])).mpr rfl
    constructor
    · intro path ho'
      cases ho.symm.trans ho'
    · intro _ hsecure
      cases hinsecure.symm.trans hsecure
    · exact ⟨fun _ => ⟨hinsecure, ho⟩, fun _ => haccepts⟩
  | system ho hinsecure =>
    have hknown (system : List (String × PublicKey)) (presented : PublicKey)
        (h : v.accepts { system := true } system o.host o.port presented) :
        (v.lookupName o.host o.port, presented) ∈ system := by
      by_cases hnone : ∀ other, (v.lookupName o.host o.port, other) ∉ system
      · cases (hv.asks (by simpa [Trust.entries] using hnone)).mp h
      · obtain ⟨other, hother⟩ := not_forall_not.mp hnone
        simpa [Trust.entries] using
          hv.equal (t := { system := true }) (by simpa [Trust.entries] using hother) h
    constructor
    · intro path ho'
      cases ho.symm.trans ho'
    · exact fun _ _ => hknown
    · constructor
      · intro hall
        cases hknown [] (.ed25519 []) (hall [] _)
      · intro hinsecure'
        cases hinsecure.symm.trans hinsecure'.1

/-! ### The course of a connection -/

theorem loadIdentity_reaches {C : Change τ → Prop} (path : Path)
    {prompt : Option (Path → Act τ String)}
    (hprompt : ∀ ask ∈ prompt, ∀ path s, Reaches C s (exec (ask path) s).2) (s : Surroundings τ) :
    Reaches C s (exec (loadIdentity path prompt) s).2 := by
  have hidentity (passphrase : Option String) (u : Surroundings τ) :
      Reaches C u (exec (identity path passphrase) u).2 :=
    (identity_within path passphrase).reaches .refl u
  refine (hidentity none s).tryCatch fun f u => ?_
  split
  · exact ((hprompt _ rfl path u).bind fun _ w => hidentity _ w).tryCatch fun _ _ => .refl _
  · exact .refl _

def proceed [Time τ] (o : ClientOptions) (key : PublicKey) (t : Trust) : Act τ Session := do
  let a ← dial o.network o.host o.port dialTimeout
  enter o key t a

theorem session_eq_proceed [Time τ] (o : ClientOptions)
    (prompt : Option (Path → Act τ String)) :
    session o prompt = (do
      let key ← loadIdentity o.keyFile prompt
      let t ← trust o
      proceed o key t) := by
  simp only [session_eq, prepare, proceed, bind_assoc, pure_bind]

theorem Completes.closes_spec {o : ClientOptions} {a : Address} {failure : Option Failure}
    {r : Except Failure Session} {closes : List (Event τ)} (h : Completes o a failure r closes) :
    ∀ e ∈ closes, e.isTrust = false ∧ e.isPrompt = false := by
  cases h <;> simp [Event.isTrust, Event.isPrompt]

/-- Nothing is changed any more about whom we trust, and nobody is asked; a key that nobody knows
ends the connection unless the policy accepts it. -/
theorem proceed_spec [Time τ] (o : ClientOptions) (key : PublicKey) (t : Trust)
    (s : Surroundings τ) :
    (∃ after, (exec (proceed o key t) s).2.events = s.events ++ after ∧
      ∀ e ∈ after, e.isTrust = false ∧ e.isPrompt = false) ∧
      ∀ x, (exec (proceed o key t) s).1 = .ok x → s.presented ≠ none → t.unknown = .accept := by
  have hdial := (dial_within o.network o.host o.port (dialTimeout : τ)).reaches .refl s
  obtain ⟨es, hes, hquiet⟩ := hdial.events (P := fun e => e.isTrust = false ∧ e.isPrompt = false)
    fun e he => by cases he <;> exact ⟨rfl, rfl⟩
  rw [proceed, exec_bind]
  rcases e : exec (dial o.network o.host o.port dialTimeout) s with ⟨f | a, u⟩ <;>
    rw [e] at hdial hes
  · exact ⟨⟨es, hes, hquiet⟩, fun x hx => by cases hx⟩
  · obtain ⟨closes, hcompletes, hevents⟩ := enter_completes o key t a u
    dsimp only at hes ⊢
    constructor
    · refine ⟨es ++ authentication o key a :: closes, by rw [hevents, hes]; simp, ?_⟩
      intro e he
      obtain he | rfl | he : e ∈ es ∨ e = authentication o key a ∨ e ∈ closes := by simpa using he
      · exact hquiet e he
      · exact ⟨rfl, rfl⟩
      · exact hcompletes.closes_spec e he
    · intro x hx hpresented
      rw [hx] at hcompletes
      cases hunknown : t.unknown with
      | accept => rfl
      | reject =>
        obtain ⟨presented, hpresented⟩ := Option.ne_none_iff_exists'.mp hpresented
        rw [loginFailure, hdial.view.presented, hpresented, hunknown] at hcompletes
        cases hcompletes

/-- How a connection comes to trust the keys of its host, `r` being how it ends. -/
structure Trusts (v : Verifier) (o : ClientOptions) (identity : Except Failure PublicKey)
    (s : Surroundings τ) (r : Except Failure Session) (s' : Surroundings τ) : Prop where
  /-- A file without a usable key ends the connection before the network is touched. -/
  unusable : ∀ path f, o.hostKeyFile = some path → hostKeys s path = .error f →
    (∃ g, r = .error g) ∧ ∃ es, s'.events = s.events ++ es ∧ ∀ e ∈ es, e.isNetwork = false
  /-- Unless one of our keys cannot be loaded, the calls are made that settle whom to trust. The
  network is touched only after them, and they are not made again. -/
  settled : ((∃ f, identity = .error f) ∨
      ∃ path f, o.hostKeyFile = some path ∧ hostKeys s path = .error f) ∧
      (∃ g, r = .error g) ∧ (∃ es, s'.events = s.events ++ es ∧ ∀ e ∈ es, e.isNetwork = false) ∨
    ∃ (t : Trust) (before after : List (Event τ)), s'.events = s.events ++ before ++ after ∧
      (∀ e ∈ before, e.isNetwork = false) ∧ before.filter Event.isTrust = t.calls ∧
      (∀ e ∈ after, e.isTrust = false) ∧ Judges v o (hostKeys s) t
  /-- With a host whose key nobody knows there is a session only if any key passes. -/
  unknown : ∀ x, r = .ok x → s.presented ≠ none → o.insecure = true ∧ o.hostKeyFile = none

theorem Trusts.of_error (v : Verifier) {o : ClientOptions} {identity : Except Failure PublicKey}
    {s u : Surroundings τ} (hkeys : (∃ f, identity = .error f) ∨
      ∃ path f, o.hostKeyFile = some path ∧ hostKeys s path = .error f) (f : Failure)
    (hquiet : ∃ es, u.events = s.events ++ es ∧ ∀ e ∈ es, e.isNetwork = false) :
    Trusts v o identity s (.error f) u := by
  constructor
  · exact fun _ _ _ _ => ⟨⟨f, rfl⟩, hquiet⟩
  · exact .inl ⟨hkeys, ⟨f, rfl⟩, hquiet⟩
  · intro x hx
    cases hx

/-- Whom to trust is settled before the network is touched, by the options and the pinned key
alone. -/
theorem session_trusts [Time τ] {v : Verifier} (hv : v.Documented) (o : ClientOptions)
    {prompt : Option (Path → Act τ String)}
    (hprompt : ∀ ask ∈ prompt, ∀ path s, Reaches IsAloof s (exec (ask path) s).2)
    (s : Surroundings τ) :
    Trusts v o (exec (loadIdentity o.keyFile prompt) s).1 s (exec (session o prompt) s).1
      (exec (session o prompt) s).2 := by
  have hidentity := loadIdentity_reaches o.keyFile hprompt s
  have hview := hidentity.view
  obtain ⟨asked, hasked, haloof⟩ := hidentity.events
    (P := fun e => e.isNetwork = false ∧ e.isTrust = false) fun _ he => he
  have hquiet : ∀ e ∈ asked, e.isNetwork = false := fun e he => (haloof e he).1
  rw [session_eq_proceed, exec_bind]
  rcases e : exec (loadIdentity o.keyFile prompt) s with ⟨f | key, u⟩ <;>
    rw [e] at hview hasked <;> dsimp only at hview hasked ⊢
  · exact .of_error v (.inl ⟨f, rfl⟩) f ⟨asked, hasked, hquiet⟩
  obtain ⟨f, hdecision, htrust⟩ | ⟨t, w, hdecision, htrust, hcalls⟩ := exec_trust o u <;>
    rw [hostKeys_eq hview] at hdecision
  · rw [exec_bind, htrust]
    cases hdecision with
    | unusable ho hload =>
      exact .of_error v (.inr ⟨_, _, ho, hload⟩) f ⟨asked, hasked, hquiet⟩
  · have hpresented : w.presented = s.presented := by
      have htrustView := ((trust_within o).reaches .refl u).view
      rw [htrust] at htrustView
      exact (htrustView.trans hview).presented
    have hjudges := hdecision.judges hv
    obtain ⟨⟨after, hafter, hsettled⟩, hpolicy⟩ := proceed_spec o key t w
    rw [exec_bind, htrust]
    dsimp only
    constructor
    · intro path f ho hload
      obtain ⟨key, hkey, -⟩ := hjudges.pinned path ho
      cases hload.symm.trans hkey
    · refine .inr ⟨t, asked ++ t.calls, after, by rw [hafter, hcalls, hasked]; simp, ?_, ?_,
        fun e he => (hsettled e he).1, hjudges⟩
      · intro e he
        rcases List.mem_append.mp he with he | he
        · exact hquiet e he
        · exact (t.calls_spec e he).1
      · have hnone : asked.filter Event.isTrust = [] :=
          List.filter_eq_nil_iff.mpr fun e he => by simp [(haloof e he).2]
        have hall : t.calls.filter Event.isTrust = (t.calls : List (Event τ)) :=
          List.filter_eq_self.mpr fun e he => (t.calls_spec e he).2.1
        rw [List.filter_append, hnone, hall, List.nil_append]
    · intro x hx hunknown
      have haccept := hpolicy x hx (hpresented ▸ hunknown)
      cases hdecision with
      | pinned => cases haccept
      | anyone ho hinsecure => exact ⟨hinsecure, ho⟩
      | system => cases haccept

/-- A library that looks through what is known and asks the policy if it finds nothing. -/
def verifier : Verifier where
  lookupName := knownName
  accepts t system host port key := t.accepts system (knownName host port) key = true

theorem verifier_documented : verifier.Documented := by
  constructor
  · intro host
    simp [verifier, knownName]
  · intro host port h
    simp [verifier, knownName, h]
  · intro t system host port key other hother haccepts
    have hknown : (t.entries system).filter (·.1 = knownName host port) ≠ [] :=
      List.ne_nil_of_mem (List.mem_filter.mpr ⟨hother, by simp [verifier]⟩)
    simp only [verifier, Trust.accepts] at haccepts
    rw [Trust.entries] at hknown ⊢
    rw [if_neg hknown] at haccepts
    simpa [verifier] using haccepts
  · intro t system host port key hsole
    have hkey := (hsole key).mpr rfl
    have hknown : (t.entries system).filter (·.1 = knownName host port) ≠ [] :=
      List.ne_nil_of_mem (List.mem_filter.mpr ⟨hkey, by simp [verifier]⟩)
    simp only [verifier, Trust.accepts]
    rw [Trust.entries] at hknown hkey
    rw [if_neg hknown]
    simpa [verifier] using hkey
  · intro t system host port key hnone
    have hunknown : (t.entries system).filter (·.1 = knownName host port) = [] := by
      rw [List.filter_eq_nil_iff]
      rintro ⟨name, other⟩ hmem hname
      obtain rfl : name = knownName host port := by simpa using hname
      exact hnone other hmem
    simp only [verifier, Trust.accepts]
    rw [Trust.entries] at hunknown
    rw [if_pos hunknown]
    cases t.unknown <;> simp [unknownFailure]

def pinnedKey : PublicKey := .ed25519 (List.replicate 32 7)

def pinnedHost : Surroundings Float where
  clock := 0
  files := { known := [({ parts := ["k"] }, Bytes.ofAscii smallKey),
    ({ parts := ["hk"] }, pinnedKey.blob)] }
  network := .found [{ name := "a" }]

def pinnedOptions : ClientOptions where
  host := "srv"
  port := 99
  keyFile := { parts := ["k"] }
  hostKeyFile := some { parts := ["hk"] }
  insecure := true

theorem session_trusts_pinned :
    verifier.Documented ∧
    (∀ ask ∈ some Program.askPassphrase, ∀ path s, Reaches IsAloof s (exec (ask path) s).2) ∧
    ∃ (t : Trust) (before after : List (Event Float)),
      (exec (session pinnedOptions (some Program.askPassphrase)) pinnedHost).2.events =
        before ++ after ∧
      (∀ e ∈ before, e.isNetwork = false) ∧ before.filter Event.isTrust = t.calls ∧
      ∀ system presented, t.accepts system "[srv]:99" presented = true ↔ presented = pinnedKey := by
  have hprompt : ∀ ask ∈ some Program.askPassphrase, ∀ path s,
      Reaches IsAloof s (exec (ask path) s).2 := by
    intro ask hask path s
    obtain rfl : Program.askPassphrase = ask := Option.some.inj hask
    exact (Program.askPassphrase_within (fun _ => ⟨rfl, rfl⟩) path).reaches .refl s
  have htrusts := session_trusts verifier_documented pinnedOptions hprompt pinnedHost
  refine ⟨verifier_documented, hprompt, ?_⟩
  generalize hprompt' : some Program.askPassphrase = prompt at htrusts ⊢
  have hopened : (exec (session pinnedOptions prompt) pinnedHost).1.toOption.isSome := by
    rw [← hprompt']
    decide +kernel
  obtain ⟨-, ⟨g, hg⟩, -⟩ | ⟨t, before, after, hevents, hquiet, hcalls, -, hjudges⟩ :=
    htrusts.settled
  · rw [hg] at hopened
    cases hopened
  · obtain ⟨key, hkey, haccepts⟩ := hjudges.pinned _ rfl
    have hpinned : hostKeys pinnedHost { parts := ["hk"] } = .ok pinnedKey := by decide +kernel
    obtain rfl : key = pinnedKey := Except.ok.inj (hkey.symm.trans hpinned)
    exact ⟨t, before, after, hevents, hquiet, hcalls, haccepts⟩

end Connect

end Tether
