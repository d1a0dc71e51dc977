import Tether.Connect.Dial
import Tether.Proofs.Act.Exec

/-! # Dialling

The addresses that the system refuses to connect are passed over, each after its socket is
closed. The first address that is not refused decides: it is connected, or its failure goes on
as it came.
-/

namespace Tether

open Act

variable {τ : Type}

namespace Address

structure IsReachable (a : Address) : Prop where
  create : a.create = none
  connect : a.connect = none
  option : a.option = none

def IsRefused (a : Address) : Prop := a.create = none ∧ ∃ f, a.connect = some f ∧ f.isSystem = true

end Address

namespace Connect

variable (timeout : τ)

def asking (i : Nat) (a : Address) : List (Event τ) :=
  [.createSocket i a.family, .socket a.name (.timeout (some timeout)), .socket a.name .connect]

/-- What is done with a socket that is connected: reads from it wait, and what is written to it
does not. -/
def settling (a : Address) : List (Event τ) :=
  [.socket a.name (.timeout none), .socket a.name .noDelay]

/-- What is done with addresses that are refused, the first of them being the one of number
`i`. -/
def refusals (i : Nat) : List Address → List (Event τ)
  | [] => []
  | a :: rest => asking timeout i a ++ [.socket a.name .close] ++ refusals (i + 1) rest

def lastFailure (last : Option Failure) : List Address → Option Failure
  | [] => last
  | a :: rest => lastFailure a.connect rest

inductive Decides (i : Nat) (a : Address) : Except Failure Address → List (Event τ) → Prop
  | connected (h : a.IsReachable) :
    Decides i a (.ok a) (asking timeout i a ++ settling a)
  | uncreated {f : Failure} (h : a.create = some f) : Decides i a (.error f) [.createSocket i a.family]
  | broken {f : Failure} (hcreate : a.create = none) (h : a.connect = some f)
    (hf : f.isSystem = false) : Decides i a (.error f) (asking timeout i a)
  | unset {f : Failure} (hcreate : a.create = none) (hconnect : a.connect = none)
    (h : a.option = some f) :
    Decides i a (.error f) (asking timeout i a ++ settling a)

/-- How dialling a host goes, by the answer of the lookup. -/
inductive Course (host : String) (port : Nat) :
    Lookup → Except Failure Address → List (Event τ) → Prop
  | unknown {text : String} :
    Course host port (.failed text) (.error (.dial host port (lookupText text))) []
  | unreachable {addresses : List Address} (hrefused : ∀ b ∈ addresses, b.IsRefused) :
    Course host port (.found addresses)
      (.error (.dial host port (((lastFailure none addresses).map (·.text)).getD "None")))
      (refusals timeout 0 addresses)
  | decided {refused : List Address} {a : Address} {rest : List Address}
    {r : Except Failure Address} {done : List (Event τ)} (hrefused : ∀ b ∈ refused, b.IsRefused)
    (hdecides : Decides timeout refused.length a r done) :
    Course host port (.found (refused ++ a :: rest)) r (refusals timeout 0 refused ++ done)

theorem exec_socketCall (a : Address) (c : SocketCall τ) (s : Surroundings τ) :
    exec (socketCall a c) s = (.ok (), { s with events := s.events ++ [.socket a.name c] }) := rfl

theorem exec_tryAddresses_refused {refused : List Address} (h : ∀ b ∈ refused, b.IsRefused)
    (i : Nat) (last : Option Failure) (rest : List Address) (s : Surroundings τ) :
    exec (tryAddresses timeout i last (refused ++ rest)) s =
      exec (tryAddresses timeout (i + refused.length) (lastFailure last refused) rest)
        { s with events := s.events ++ refusals timeout i refused } := by
  induction refused generalizing i last s with
  | nil => simp [refusals, lastFailure]
  | cons a refused ih =>
    obtain ⟨hcreate, f, hconnect, hf⟩ := h a List.mem_cons_self
    rw [List.cons_append, tryAddresses, attempt]
    simp only [exec_bind, exec_emit, hcreate, exec_failIf_none, exec_socketCall, hconnect, hf,
      if_true, exec_pure]
    rw [ih (fun b hb => h b (List.mem_cons_of_mem _ hb))]
    simp [refusals, asking, lastFailure, hconnect, Nat.add_assoc, Nat.add_comm 1]

theorem exec_tryAddresses_decides {i : Nat} {a : Address} {r : Except Failure Address}
    {done : List (Event τ)} (h : Decides timeout i a r done) (last : Option Failure)
    (rest : List Address) (s : Surroundings τ) :
    exec (tryAddresses timeout i last (a :: rest)) s =
      (r.map .ok, { s with events := s.events ++ done }) := by
  rw [tryAddresses, attempt]
  cases h with
  | connected h =>
    simp [exec_bind, exec_socketCall, h.create, h.connect, h.option, asking, settling]
    rfl
  | uncreated h => simp [exec_bind, h]; rfl
  | broken hcreate h hf => simp [exec_bind, exec_socketCall, hcreate, h, hf, asking]; rfl
  | unset hcreate hconnect h =>
    simp [exec_bind, exec_socketCall, hcreate, hconnect, h, asking, settling]
    rfl

theorem exists_decides {a : Address} (h : ¬ a.IsRefused) (i : Nat) :
    ∃ r done, Decides timeout i a r done := by
  cases hcreate : a.create with
  | some f => exact ⟨_, _, .uncreated hcreate⟩
  | none =>
    cases hconnect : a.connect with
    | some f =>
      cases hf : f.isSystem with
      | true => exact absurd ⟨hcreate, f, hconnect, hf⟩ h
      | false => exact ⟨_, _, .broken hcreate hconnect hf⟩
    | none =>
      cases hoption : a.option with
      | some f => exact ⟨_, _, .unset hcreate hconnect hoption⟩
      | none => exact ⟨_, _, .connected ⟨hcreate, hconnect, hoption⟩⟩

theorem exists_course (host : String) (port : Nat) (lookup : Lookup) :
    ∃ r done, Course timeout host port lookup r done := by
  classical
  cases lookup with
  | failed text => exact ⟨_, _, .unknown⟩
  | found addresses =>
    cases hfind : addresses.find? (fun a => ¬ a.IsRefused) with
    | none =>
      have hrefused : ∀ b ∈ addresses, b.IsRefused := by simpa using hfind
      exact ⟨_, _, .unreachable hrefused⟩
    | some a =>
      obtain ⟨ha, refused, rest, rfl, hrefused⟩ := List.find?_eq_some_iff_append.mp hfind
      obtain ⟨r, done, hdecides⟩ :=
        exists_decides timeout (of_decide_eq_true ha) refused.length
      exact ⟨r, _, .decided (by simpa using hrefused) hdecides⟩

/-- Dialling passes over the addresses that are refused, each of which is tried once and its
socket closed, and ends with the first that is not: it is connected, or what fails on it is the
failure. If there is none, or no address at all, the host could not be dialled. -/
theorem dial_course (network : Network) (host : String) (port : Nat) (timeout : τ)
    (s : Surroundings τ) :
    (∃ r done, Course timeout host port s.network r done) ∧
      ∀ r done, Course timeout host port s.network r done →
        exec (dial network host port timeout) s =
          (r, { s with events := s.events ++ .lookup host port (familyOf network) :: done }) := by
  refine ⟨exists_course timeout host port s.network, fun r done h => ?_⟩
  rw [dial]
  simp only [exec_bind, exec_emit, exec_get]
  generalize s.network = lookup at h ⊢
  cases h with
  | unknown => rfl
  | unreachable hrefused =>
    rename_i addresses
    have htry := exec_tryAddresses_refused timeout hrefused 0 none []
    rw [List.append_nil] at htry
    simp [exec_bind, htry, tryAddresses]
  | decided hrefused hdecides =>
    rename_i refused a rest done
    simp only [exec_bind, exec_tryAddresses_refused timeout hrefused, Nat.zero_add,
      exec_tryAddresses_decides timeout hdecides]
    cases r <;> simp [Except.map]

def vacant : Address := { name := "vacant", connect := some (.outside (.numbered 111) "refused") }

def lacking : Address where
  name := "lacking"
  family := "inet6"
  create := some (.outside (.numbered 97) "not supported")

def listening : Address := { name := "listening" }

/-- A family that the machine lacks keeps an address behind it from being tried. -/
theorem dial_course_lacking :
    listening.IsReachable ∧
      Course 30 "srv" 22 (.found [vacant, lacking, listening])
        (.error (.outside (.numbered 97) "not supported"))
        (refusals 30 0 [vacant] ++ [.createSocket 1 "inet6"]) ∧
      exec (dial .tcp "srv" 22 30)
          { clock := 0, network := .found [vacant, lacking, listening] } =
        (.error (.outside (.numbered 97) "not supported"),
          { clock := 0, network := .found [vacant, lacking, listening]
            events := .lookup "srv" 22 "unspec" ::
              (refusals 30 0 [vacant] ++ [.createSocket 1 "inet6"]) }) := by
  have hrefused : ∀ b ∈ [vacant], b.IsRefused := by
    intro b hb
    obtain rfl := List.mem_singleton.mp hb
    exact ⟨rfl, _, rfl, rfl⟩
  have hcourse : Course 30 "srv" 22 (.found ([vacant] ++ lacking :: [listening]))
      (.error (.outside (.numbered 97) "not supported"))
      (refusals 30 0 [vacant] ++ [.createSocket 1 "inet6"]) := .decided hrefused (.uncreated rfl)
  exact ⟨⟨rfl, rfl, rfl⟩, hcourse, (dial_course .tcp "srv" 22 30
    { clock := 0, network := .found [vacant, lacking, listening] }).2 _ _ hcourse⟩

end Connect

end Tether
