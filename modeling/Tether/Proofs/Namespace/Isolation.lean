import Tether.Proofs.Time
import Tether.Proofs.Namespace.Waiting

/-! # Connections apart

On an exact scale of time, what the gate does with a connection that comes after the first
one is what it would do if no other connection had ever come. No time, no bytes and no
failure is carried from one connection to the next.
-/

namespace Tether

variable {τ α β : Type}

open Act

def Event.peer? : Event τ → Option String
  | .setTimeout peer _ | .receive peer _ | .closePeer peer | .serve _ peer _ | .served peer _ =>
    some peer
  | _ => none

@[simp] theorem Event.peer?_accept (limit : Option τ) :
    (Event.accept limit : Event τ).peer? = none := rfl

theorem filter_peer? {es : List (Event τ)} {peer : String} (hes : ∀ e ∈ es, e.peer? = some peer)
    (name : String) : es.filter (fun e => e.peer? = some name) = if peer = name then es else [] := by
  split
  · rename_i h
    subst h
    exact List.filter_eq_self.mpr fun e he => by simp [hes e he]
  · rename_i h
    exact List.filter_eq_nil_iff.mpr fun e he => by simp [hes e he, h]

def Act.alone [Zero τ] (a : Act τ α) : Except Failure α × List (Event τ) :=
  let r := exec a { clock := 0 }
  (r.1, r.2.events)

/-- A server that treats a connection alike whatever it was given before. -/
def FileShare.IsSteady : FileShare τ → Prop
  | .installed _ react => ∀ m n p, react m p = react n p
  | .missing _ => True

section

variable [ExactTime τ]

/-- The same was done on both sides, with connections of one name, at times that are a span
apart. -/
structure Shifted (name : String) (span : τ) (es es' : List (Event τ)) (s t : Surroundings τ) :
    Prop where
  clock : s.clock = t.clock + span
  events : ∃ done, s.events = es ++ done ∧ t.events = es' ++ done ∧
    ∀ e ∈ done, e.peer? = some name

namespace Shifted

variable {name : String} {span : τ} {es es' : List (Event τ)} {s t : Surroundings τ}

theorem start (name : String) (s : Surroundings τ) :
    Shifted name s.clock s.events [] s { clock := 0 } :=
  ⟨(zero_add s.clock).symm, [], by simp, by simp, by simp⟩

theorem event (h : Shifted name span es es' s t) {e : Event τ} (he : e.peer? = some name) :
    Shifted name span es es' ((Change.event e).apply s) ((Change.event e).apply t) := by
  obtain ⟨hclock, done, hs, ht, hdone⟩ := h
  refine ⟨hclock, done ++ [e], by simp [Change.apply, hs], by simp [Change.apply, ht], ?_⟩
  intro e' he'
  obtain he' | rfl := by simpa using he'
  · exact hdone e' he'
  · exact he

theorem wait (h : Shifted name span es es' s t) (d : τ) :
    Shifted name span es es' ((Change.clock (· + d)).apply s) ((Change.clock (· + d)).apply t) :=
  ⟨by simp only [Change.apply, h.clock, add_right_comm], h.events⟩

theorem logged (h : Shifted name span es es' s t) (logger : String) (level : Level)
    (text : String) : Shifted name span es es' (s.logged logger level text)
      (t.logged logger level text) :=
  ⟨by simpa using h.clock, by simpa using h.events⟩

end Shifted

namespace Act

/-- Deals with connections of one name only, and in the same way at any time. -/
def Timeless (name : String) (a : Act τ α) : Prop :=
  ∀ span es es', Agree (Shifted name span es es') a a

namespace Timeless

variable {name : String}

theorem pure (x : α) : Timeless name (Pure.pure x : Act τ α) := fun _ _ _ => Relate.pure rfl

theorem throw (f : Failure) : Timeless name (MonadExcept.throw f : Act τ α) :=
  fun _ _ _ => Relate.throw f

theorem emit {e : Event τ} (he : e.peer? = some name) : Timeless name (Act.emit e) :=
  fun _ _ _ _ _ h => ⟨rfl, h.event he⟩

theorem wait (d : τ) : Timeless name (Act.wait d) := fun _ _ _ _ _ h => ⟨rfl, h.wait d⟩

theorem log (logger : String) (level : Level) (text : String) :
    Timeless name (Act.log logger level text : Act τ Unit) := fun _ _ _ _ _ h => by
  rw [exec_log, exec_log]
  exact ⟨rfl, h.logged logger level text⟩

theorem failIf (f : Option Failure) : Timeless name (Act.failIf f : Act τ Unit) := by
  cases f with
  | none => exact .pure ()
  | some f => exact .throw f

theorem lift (r : Except Failure α) : Timeless name (Act.lift r : Act τ α) := by
  cases r with
  | error f => exact .throw f
  | ok x => exact .pure x

theorem bind {a : Act τ α} {k : α → Act τ β} (h : Timeless name a)
    (hk : ∀ x, Timeless name (k x)) : Timeless name (a >>= k) :=
  fun span es es' => Agree.bind (h span es es') fun x => hk x span es es'

theorem exec_alone {a : Act τ α} (h : Timeless name a) (s : Surroundings τ) :
    (exec a s).1 = a.alone.1 ∧ (exec a s).2.events = s.events ++ a.alone.2 ∧
      ∀ e ∈ a.alone.2, e.peer? = some name := by
  obtain ⟨hresult, -, done, hs, halone, hdone⟩ := h s.clock s.events [] s _ (.start name s)
  rw [List.nil_append] at halone
  exact ⟨ends_eq_iff.mp hresult, by rw [hs, alone, halone], by simpa [alone, halone] using hdone⟩

end Timeless

end Act

theorem Peer.close_timeless (p : Peer τ) : Timeless p.name p.close := .emit rfl

theorem Peer.setTimeout_timeless (p : Peer τ) (span : Option τ) :
    Timeless p.name (p.setTimeout span) :=
  (Timeless.emit (e := .setTimeout p.name span) rfl).bind fun _ => .pure _

theorem Peer.receive_timeless (p : Peer τ) (n : Nat) : Timeless p.name (p.receive n) := by
  refine (Timeless.emit (e := .receive p.name n) rfl).bind fun _ => ?_
  cases p.steps with
  | nil => exact .pure _
  | cons step rest =>
    dsimp only
    cases step.isMissed p.timeout with
    | true => exact (Timeless.wait _).bind fun _ => .throw _
    | false =>
      refine (Timeless.wait _).bind fun _ => ?_
      cases step.act with
      | fail f => exact .throw f
      | send bs =>
        dsimp only
        split <;> exact .pure _

theorem FileShare.serve_timeless {share : FileShare τ} (h : share.IsSteady) (p : Peer τ)
    (root : Path) : Timeless p.name (share.serve p root) := by
  cases share with
  | missing name => exact (Timeless.log _ _ _).bind fun _ => p.close_timeless
  | installed label react =>
    refine (Timeless.emit (e := .serve label p.name root) rfl).bind fun _ => ?_
    intro span es es'
    refine Relate.get fun s t _ => ?_
    dsimp only
    rw [h s.served t.served p]
    refine Relate.bind (S := Eq) (fun _ _ h => ⟨rfl, h.clock, h.events⟩) fun _ _ _ => ?_
    have hfail (f : Option Failure) : Timeless p.name (failIf f : Act τ Unit) := .failIf f
    split
    · refine Agree.bind (p.receive_timeless _ span es es') fun r => ?_
      exact ((Timeless.emit (e := .served p.name r.1) rfl).bind fun _ => hfail _) span es es'
    · exact hfail _ span es es'

namespace Gate

theorem readNonce_shifted (span deadline : τ) (es es' : List (Event τ)) (p : Peer τ)
    (missing : Nat) (received : Bytes) :
    Relate (Shifted p.name span es es') (fun x y => x = y ∧ ∀ r ∈ x, r.2.name = p.name)
      (readNonce (deadline + span) p missing received) (readNonce deadline p missing received) := by
  induction missing using Nat.strongRecOn generalizing p received with
  | ind missing ih =>
    rw [readNonce, readNonce]
    split
    · exact .pure ⟨rfl, by simp⟩
    · rename_i hmissing
      refine Relate.get fun s t hst => ?_
      rw [hst.clock, add_sub_add_right_eq_sub]
      dsimp only
      split
      · exact .pure ⟨rfl, by simp⟩
      · refine (Agree.knowing (p.setTimeout_timeless _ span es es')
          fun _ _ _ => Peer.name_of_setTimeout).bind ?_
        rintro q _ ⟨rfl, hq⟩
        rw [← hq]
        refine (Agree.knowing (q.receive_timeless _ span es es')
          fun _ _ _ => Peer.name_of_receive).bind ?_
        rintro ⟨chunk, r⟩ _ ⟨rfl, hr⟩
        dsimp only
        split
        · exact .pure ⟨rfl, by simp⟩
        · rename_i hchunk
          have := List.length_pos_iff.mpr hchunk
          rw [← show r.name = q.name from hr]
          exact ih _ (by omega) r _

/-- A check that has the whole deadline goes the same way at any time. -/
theorem authenticate_shifted (g : Gate τ) (p : Peer τ) (timeout span : τ)
    (es es' : List (Event τ)) :
    Relate (Shifted p.name span es es') (fun x y => x = y ∧ ∀ q ∈ x, q.name = p.name)
      (g.authenticate p timeout) (g.authenticate p timeout) := by
  refine Relate.get fun s t hst => ?_
  rw [hst.clock, add_right_comm]
  refine Relate.bind (S := fun x y => x = y ∧ ∀ r ∈ x, r.2.name = p.name)
    (Leads.tryCatch ?_ fun f => ?_) ?_
  · refine (readNonce_shifted span _ es es' p _ _).bind ?_
    rintro x _ ⟨rfl, hx⟩
    cases x with
    | none => exact .pure ⟨rfl, by simp⟩
    | some r =>
      rw [← hx r rfl]
      refine (Agree.knowing (r.2.setTimeout_timeless none span es es')
        fun _ _ _ => Peer.name_of_setTimeout).bind ?_
      rintro q _ ⟨rfl, hq⟩
      exact .pure ⟨rfl, by simpa using hq⟩
  · split
    · exact Agree.bind (Timeless.log _ _ _ span es es') fun _ => .pure ⟨rfl, by simp⟩
    · exact .throw f
  · rintro x _ ⟨rfl, hx⟩
    cases x with
    | none => exact .pure ⟨rfl, by simp⟩
    | some r =>
      refine Agree.bind (Timeless.lift _ span es es') fun b => ?_
      split
      · exact .pure ⟨rfl, by simpa using hx⟩
      · exact .pure ⟨rfl, by simp⟩

theorem authenticate_timeless (g : Gate τ) (p : Peer τ) (timeout : τ) :
    Timeless p.name (g.authenticate p timeout) := fun span es es' =>
  Leads.mono (g.authenticate_shifted p timeout span es es') (fun _ _ h => h) (fun _ _ h => h)
    fun _ _ h => h.1

theorem name_of_authenticate (g : Gate τ) {p q : Peer τ} {timeout : τ} {s t : Surroundings τ}
    (h : exec (g.authenticate p timeout) s = (.ok (some q), t)) : q.name = p.name := by
  obtain ⟨hends, -⟩ := g.authenticate_shifted p timeout s.clock s.events [] s _ (.start p.name s)
  rw [h] at hends
  cases halone : (exec (g.authenticate p timeout) { clock := 0 }).1 with
  | error f =>
    rw [halone] at hends
    exact hends.elim
  | ok x =>
    rw [halone] at hends
    exact hends.2 q rfl

theorem hand_timeless {g : Gate τ} (hserver : g.share.IsSteady) (p : Peer τ) :
    Timeless p.name (g.hand p) :=
  FileShare.serve_timeless hserver p g.root

/-- Checking a connection, when the nonce and the deadline are all that is known of the gate. -/
def trial (n : Nonce) (deadline : τ) (p : Peer τ) :
    Except Failure (Option (Peer τ)) × List (Event τ) :=
  let g : Gate τ := { share := .missing FileShare.defaultName, root := {}, nonce := n, deadline }
  (g.authenticate p deadline).alone

/-- What the gate does with a connection if no other ever comes: it checks it, hands it to the
server if it is admitted, and closes it. -/
def encounter (g : Gate τ) (p : Peer τ) : List (Event τ) :=
  (trial g.nonce g.deadline p).2 ++ (match (trial g.nonce g.deadline p).1 with
    | .ok (some q) => (g.hand q).alone.2
    | _ => []) ++ [.closePeer p.name]

def reception (g : Gate τ) (p : Peer τ) : List (Event τ) :=
  (g.hand p).alone.2 ++ [.closePeer p.name]

omit [ExactTime τ] in
theorem attend_result (p : Peer τ) (a : Act τ Unit) (s : Surroundings τ) :
    (exec (attend p a) s).1 = .ok () := by
  rw [attend, exec_tryFinally, exec_tryCatch]
  rcases exec a s with ⟨f | ⟨⟩, t⟩ <;> simp [Peer.close]

omit [ExactTime τ] in
theorem attend_events (p : Peer τ) (a : Act τ Unit) (s : Surroundings τ) :
    (exec (attend p a) s).2.events = (exec a s).2.events ++ [.closePeer p.name] := by
  rw [attend, exec_tryFinally_snd, exec_tryCatch]
  rcases exec a s with ⟨f | ⟨⟩, t⟩ <;> simp [Peer.close]

/-- The thread that deals with a connection does the same whenever it runs and whatever was
done before. -/
theorem attend_check_events {g : Gate τ} (hserver : g.share.IsSteady) (p : Peer τ)
    (s : Surroundings τ) :
    (exec (attend p (g.check p)) s).2.events = s.events ++ g.encounter p := by
  obtain ⟨hanswer, hevents, -⟩ := (g.authenticate_timeless p g.deadline).exec_alone s
  rw [attend_events, encounter, check, exec_bind]
  change _ = (trial g.nonce g.deadline p).1 at hanswer
  change _ = s.events ++ (trial g.nonce g.deadline p).2 at hevents
  rw [← hanswer]
  rcases e : exec (g.authenticate p g.deadline) s with ⟨f | _ | q, t⟩ <;> rw [e] at hevents <;>
    dsimp only at hevents
  · simp [hevents]
  · simp [hevents]
  · obtain ⟨-, hhand, -⟩ := (hand_timeless hserver q).exec_alone
      (t.logged gateLogName .debug "namespace connection admitted")
    simp [exec_bind, hhand, hevents]

theorem attend_reception_events {g : Gate τ} (hserver : g.share.IsSteady) (p : Peer τ)
    (s : Surroundings τ) :
    (exec (attend p (g.hand p)) s).2.events = s.events ++ g.reception p := by
  obtain ⟨-, hhand, -⟩ := (hand_timeless hserver p).exec_alone s
  rw [attend_events, hhand, reception, List.append_assoc]

theorem peer_of_mem_reception {g : Gate τ} (hserver : g.share.IsSteady) {p : Peer τ}
    {e : Event τ} (he : e ∈ g.reception p) : e.peer? = some p.name := by
  obtain ⟨-, -, hhand⟩ := (hand_timeless hserver p).exec_alone { clock := 0 }
  rcases List.mem_append.mp he with he | he
  · exact hhand e he
  · obtain rfl := List.mem_singleton.mp he
    rfl

theorem peer_of_mem_encounter {g : Gate τ} (hserver : g.share.IsSteady) {p : Peer τ}
    {e : Event τ} (he : e ∈ g.encounter p) : e.peer? = some p.name := by
  obtain ⟨-, -, htrial⟩ := (g.authenticate_timeless p g.deadline).exec_alone { clock := 0 }
  rw [encounter, List.append_assoc] at he
  rcases List.mem_append.mp he with he | he
  · exact htrial e he
  · cases hanswer : (trial g.nonce g.deadline p).1 with
    | error f =>
      rw [hanswer] at he
      obtain rfl := List.mem_singleton.mp he
      rfl
    | ok answer =>
      cases answer with
      | none =>
        rw [hanswer] at he
        obtain rfl := List.mem_singleton.mp he
        rfl
      | some q =>
        rw [hanswer] at he
        have hname : q.name = p.name :=
          name_of_authenticate _ (Prod.ext hanswer rfl)
        refine hname ▸ peer_of_mem_reception hserver (p := q) ?_
        rwa [reception, hname]

/-- The connections that a listener delivers before it delivers anything else. -/
def connections : List (Arrival τ) → List (Peer τ)
  | [] => []
  | a :: rest => match a.delivery with
    | .peer p => p :: connections rest
    | _ => []

omit [ExactTime τ] in
theorem exec_accept_peer [Time τ] {a : Arrival τ} {p : Peer τ} (hdelivery : a.delivery = .peer p)
    (rest : List (Arrival τ)) (s : Surroundings τ) :
    ∃ t, exec (accept none (a :: rest)) s = (.ok (some p), t) ∧
      t.events = s.events ++ [.accept none] := by
  have hmissed : a.isMissed none = false := by simp [Arrival.isMissed, outlasts]
  rw [accept, Arrival.take, hmissed, hdelivery]
  exact ⟨_, rfl, rfl⟩

/-- In the second phase each connection is accepted and dealt with as if it came alone. -/
theorem attendAll_events {g : Gate τ} (hserver : g.share.IsSteady) (as : List (Arrival τ))
    (s : Surroundings τ) :
    (exec (g.attendAll as) s).2.events = s.events ++
      (connections as).flatMap (fun p => .accept none :: g.encounter p) ++ [.accept none] := by
  induction as generalizing s with
  | nil => simp [attendAll, accept, connections]
  | cons a rest ih =>
    cases hdelivery : a.delivery with
    | nothing => simp [attendAll, accept, Arrival.take, Arrival.isMissed, outlasts, exec_bind,
        connections, hdelivery]
    | failure f => simp [attendAll, accept, Arrival.take, Arrival.isMissed, outlasts, exec_bind,
        connections, hdelivery]
    | peer p =>
      obtain ⟨t, haccept, htevents⟩ := exec_accept_peer hdelivery rest s
      have hevents := attend_check_events hserver p t
      have hresult := attend_result p (g.check p) t
      rcases e : exec (attend p (g.check p)) t with ⟨r, u⟩
      rw [e] at hevents hresult
      obtain rfl : r = .ok () := hresult
      rw [attendAll, exec_bind, haccept]
      dsimp only at hevents ⊢
      simp only [exec_bind, e, ih, hevents, htevents, connections, hdelivery, List.flatMap_cons,
        List.append_assoc, List.cons_append, List.nil_append]

/-- A run of a gate that has admitted a first connection. -/
structure Service (g : Gate τ) where
  listener : Listener τ
  start : Surroundings τ
  /-- The connection that was admitted, and what the listener will deliver after it. -/
  first : Peer τ
  rest : List (Arrival τ)
  admission : Surroundings τ
  admitted : exec (g.awaitFirst (start.clock + g.deadline) listener.arrivals) start =
    (.ok (some (first, rest)), admission)

namespace Service

variable {g : Gate τ}

def events (r : g.Service) : List (Event τ) :=
  (exec (g.run r.listener) r.start).2.events.drop r.admission.events.length

def about (r : g.Service) (name : String) : List (Event τ) :=
  r.events.filter fun e => e.peer? = some name

/-- A connection comes after the first, with any others before and after it. -/
def Meets (r : g.Service) (p : Peer τ) : Prop :=
  ∃ before after, connections r.rest = before ++ p :: after ∧
    ∀ q ∈ r.first :: (before ++ after), q.name ≠ p.name

/-- From the admission on, each connection is dealt with as if it came alone, and nothing else
is done. -/
theorem events_eq (hserver : g.share.IsSteady) (r : g.Service) :
    r.events = g.reception r.first ++
      (connections r.rest).flatMap (fun p => .accept none :: g.encounter p) ++ [.accept none] := by
  obtain ⟨l, s, first, rest, t, admitted⟩ := r
  have hfirst := attend_reception_events hserver first
    (t.logged gateLogName .debug s!"namespace connection admitted on {l.address}")
  have hresult := attend_result first (g.hand first)
    (t.logged gateLogName .debug s!"namespace connection admitted on {l.address}")
  rcases e : exec (attend first (g.hand first)) _ with ⟨o, u⟩
  rw [e] at hfirst hresult
  obtain rfl : o = .ok () := hresult
  have hrest : (exec (g.attendAll rest) u).2.events = t.events ++ (g.reception first ++
      (connections rest).flatMap (fun p => .accept none :: g.encounter p) ++ [.accept none]) := by
    have hu : u.events = t.events ++ g.reception first := by simpa using hfirst
    rw [attendAll_events hserver, hu]
    simp only [List.append_assoc]
  simp only [events, run, exec_bind, exec_now, admitted, exec_log, e]
  rcases e' : exec (g.attendAll rest) u with ⟨f | ⟨⟩, v⟩ <;> rw [e'] at hrest <;>
    dsimp only [exec_pure] at hrest ⊢ <;> rw [hrest, List.drop_left]

theorem about_eq (hserver : g.share.IsSteady) {r : g.Service} {p : Peer τ} (h : r.Meets p) :
    r.about p.name = g.encounter p := by
  obtain ⟨before, after, hconnections, hname⟩ := h
  have hencounter (q : Peer τ) := filter_peer? (fun e he => peer_of_mem_encounter hserver
    (p := q) (e := e) he) p.name
  have hothers (qs : List (Peer τ)) (hqs : ∀ q ∈ qs, q ∈ before ++ after) :
      (qs.flatMap fun q => .accept none :: g.encounter q).filter
        (fun e => e.peer? = some p.name) = [] := by
    rw [List.filter_flatMap, List.flatMap_eq_nil_iff]
    intro q hq
    simp [hencounter q, hname q (List.mem_cons_of_mem _ (hqs q hq))]
  have hfirst := filter_peer? (fun e => peer_of_mem_reception hserver (p := r.first) (e := e)) p.name
  rw [if_neg (hname r.first List.mem_cons_self)] at hfirst
  rw [about, events_eq hserver, hconnections]
  simp only [List.filter_append, List.flatMap_append, List.flatMap_cons, hfirst,
    hothers before (fun q hq => List.mem_append_left _ hq),
    hothers after (fun q hq => List.mem_append_right _ hq)]
  simp [hencounter p]

end Service

/-- What the gate does with a connection after the first does not depend on any other. Its
thread does the same whenever it runs; and two runs that both meet the connection check it, hand
it over or not, and close it as if it came alone, whatever comes before and after it. -/
theorem service_isolates {g : Gate τ} (hserver : g.share.IsSteady) (p : Peer τ) :
    (∀ s, (exec (attend p (g.check p)) s).2.events = s.events ++ g.encounter p) ∧
      ∀ r r' : g.Service, r.Meets p → r'.Meets p →
        r.about p.name = g.encounter p ∧ r'.about p.name = r.about p.name := by
  refine ⟨attend_check_events hserver p, fun r r' h h' => ?_⟩
  rw [r.about_eq hserver h, r'.about_eq hserver h']
  exact ⟨rfl, rfl⟩

/-- A connection that presents the nonce at once is the first to be admitted. -/
theorem exists_service (g : Gate τ) (hn : g.nonce.IsAscii) (hdeadline : 0 < g.deadline)
    {p : Peer τ} (hp : p.FailsBySystem) (hpresents : p.Presents g.nonce)
    {l : Listener τ} {rest : List (Arrival τ)} (hl : l.arrivals = .waiting p :: rest)
    (s : Surroundings τ) :
    ∃ r : g.Service, r.listener = l ∧ r.rest = rest ∧ r.first.name = p.name := by
  have hlt : s.clock < s.clock + g.deadline := lt_add_of_pos_right _ hdeadline
  obtain ⟨t, -, ⟨-, q, hq, hadmitted⟩ | ⟨hnot, -⟩⟩ := g.awaitFirst_turn hn hp rest hlt
  · exact ⟨⟨l, s, q, rest, t, hl ▸ hadmitted⟩, rfl, rfl, hq⟩
  · exact absurd (g.admits_of_presents hpresents hlt) hnot

/-- A connection whose peer sends the nonce in two parts. -/
def slow : Peer ℚ := { name := "slow", steps := [⟨4, .send [97], false⟩, ⟨5, .send [98], false⟩] }

theorem service_isolates_slow :
    patient.share.IsSteady ∧ ∃ r r' : patient.Service,
      r.listener = delivering [rightful, silent, slow] ∧
      r'.listener = delivering [rightful, slow, halting] ∧ r.Meets slow ∧ r'.Meets slow ∧
      r.about "slow" = patient.encounter slow ∧ r'.about "slow" = r.about "slow" := by
  have hserver : patient.share.IsSteady := fun _ _ _ => rfl
  have hreads : rightful.FailsBySystem := by simp [rightful, Peer.FailsBySystem]
  obtain ⟨r, hl, hrest, hfirst⟩ := patient.exists_service patient_isAscii (by decide) hreads
    rightful_presents (l := delivering [rightful, silent, slow]) rfl { clock := 0 }
  obtain ⟨r', hl', hrest', hfirst'⟩ := patient.exists_service patient_isAscii (by decide) hreads
    rightful_presents (l := delivering [rightful, slow, halting]) rfl { clock := 7 }
  have hmeets : r.Meets slow :=
    ⟨[silent], [], by rw [hrest]; rfl, by simp [hfirst, rightful, silent, slow]⟩
  have hmeets' : r'.Meets slow :=
    ⟨[], [halting], by rw [hrest']; rfl, by simp [hfirst', rightful, halting, slow]⟩
  exact ⟨hserver, r, r', hl, hl', hmeets, hmeets',
    (service_isolates hserver slow).2 r r' hmeets hmeets'⟩

example : patient.encounter slow = [.setTimeout "slow" (some 10), .receive "slow" 2,
    .setTimeout "slow" (some 6), .receive "slow" 1, .setTimeout "slow" none,
    .serve "files" "slow" patient.root, .closePeer "slow"] := by
  decide +kernel

end Gate

end

end Tether
