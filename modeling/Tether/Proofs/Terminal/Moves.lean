import Tether.Proofs.Terminal.Escape
import Tether.Terminal.Relay

/-! # The moves of a relay

What a relay has written at any moment is a beginning of what it has read, or of what the filter
lets through of that. Before it reads again it has written all of it, and after the end of its
source or the first failure it does nothing more. Only after the escape does it close its writer.
-/

namespace Tether

def Sink.Call.bytes : Sink.Call → Bytes
  | .write bs => bs
  | _ => []

namespace Relay

namespace Move

def taken : Move → Bytes
  | .read (.data bs) => bs
  | _ => []

def offered : Move → Bytes
  | .call c _ => c.bytes
  | _ => []

def accepted : Move → Bytes
  | .call c none => c.bytes
  | _ => []

theorem accepted_prefix (x : Move) : x.accepted <+: x.offered := by
  cases x with
  | read => exact List.nil_prefix
  | call c failure =>
    cases failure with
    | none => exact List.prefix_rfl
    | some f => exact List.nil_prefix

/-- The end of the source, a failure, or the end of the writer; where nothing comes any more, the
relay waits for ever. -/
def IsLast : Move → Prop
  | .read (.data bs) => bs = []
  | .read _ => True
  | .call c failure => c = .close ∨ failure.isSome

end Move

/-- The bytes that moves take from the source, hand to the writer and get accepted there. -/
abbrev taken (ms : List Move) : Bytes := ms.flatMap Move.taken
abbrev offered (ms : List Move) : Bytes := ms.flatMap Move.offered
abbrev accepted (ms : List Move) : Bytes := ms.flatMap Move.accepted

/-- Moves that the source and the writer answer in turn, up to what these have become. -/
inductive Played : Reader → Sink → List Move → Reader → Sink → Prop
  | nil (r : Reader) (s : Sink) : Played r s [] r s
  | read {r r' r'' : Reader} {s s' : Sink} {result : ReadResult} {ms : List Move}
      (h : r.read chunkSize = (result, r')) (next : Played r' s ms r'' s') :
      Played r s (.read result :: ms) r'' s'
  | call {r r' : Reader} {s s' s'' : Sink} {c : Sink.Call} {failure : Option Failure}
      {ms : List Move} (h : s.call c = (failure, s')) (next : Played r s' ms r' s'') :
      Played r s (.call c failure :: ms) r' s''

theorem Played.trans {r r' r'' : Reader} {s s' s'' : Sink} {ms ns : List Move}
    (h : Played r s ms r' s') (h' : Played r' s' ns r'' s'') : Played r s (ms ++ ns) r'' s'' := by
  induction h with
  | nil => exact h'
  | read h _ ih => exact .read h (ih h')
  | call h _ ih => exact .call h (ih h')

inductive Todo
  | read
  | bring (calls : List Sink.Call)

def Todo.bytes : Todo → Bytes
  | .read => []
  | .bring cs => cs.flatMap Sink.Call.bytes

variable {σ : Type} {m : Manner σ} {st : σ} {todo : Todo} {ms : List Move} {e : Ending}

/-- The moves that a relay may make from a state on, whatever the answers are, and how it ends. -/
inductive Runs (m : Manner σ) : σ → Todo → List Move → Ending → Prop
  | ended (st : σ) : Runs m st .read [.read (.data [])] .finished
  | blocked (st : σ) : Runs m st .read [.read .blocked] .blocked
  | unread (st : σ) (f : Failure) :
      Runs m st .read [.read (.failure f)] (endOf m.readEnds f)
  | chunk {st : σ} {bs : Bytes} {ms : List Move} {e : Ending} (nonempty : bs ≠ [])
      (next : Runs m (m.pass st bs).2 (.bring (m.pass st bs).1) ms e) :
      Runs m st .read (.read (.data bs) :: ms) e
  | failed (st : σ) (c : Sink.Call) (cs : List Sink.Call) (f : Failure) :
      Runs m st (.bring (c :: cs)) [.call c (some f)] (endOf m.writeEnds f)
  | called {st : σ} {cs : List Sink.Call} {ms : List Move} {e : Ending} (c : Sink.Call)
      (next : Runs m st (.bring cs) ms e) : Runs m st (.bring (c :: cs)) (.call c none :: ms) e
  | stopped {st : σ} (h : m.isOver st) : Runs m st (.bring []) [] .finished
  | again {st : σ} {ms : List Move} {e : Ending} (h : ¬ m.isOver st)
      (next : Runs m st .read ms e) : Runs m st (.bring []) ms e

section Bring

variable {s s' : Sink} {cs : List Sink.Call}

theorem bring_played {failure : Option Failure} (h : bring s cs = (ms, failure, s')) (r : Reader) :
    Played r s ms r s' := by
  induction cs generalizing s ms with
  | nil =>
    cases h
    exact .nil r _
  | cons c cs ih =>
    rw [bring] at h
    rcases hcall : s.call c with ⟨_ | f, t⟩ <;> rw [hcall] at h <;> cases h
    · exact .call hcall (ih rfl)
    · exact .call hcall (.nil r _)

theorem Runs.of_bring_some {f : Failure} (h : bring s cs = (ms, some f, s')) :
    Runs m st (.bring cs) ms (endOf m.writeEnds f) := by
  induction cs generalizing s ms with
  | nil => cases h
  | cons c cs ih =>
    rw [bring] at h
    rcases hcall : s.call c with ⟨_ | g, t⟩ <;> rw [hcall] at h <;> dsimp only at h
    · rcases hrest : bring t cs with ⟨more, failure, u⟩
      rw [hrest] at h
      cases h
      exact .called c (ih hrest)
    · cases h
      exact .failed st c cs f

theorem Runs.of_bring_none (h : bring s cs = (ms, none, s')) {more : List Move}
    (next : Runs m st (.bring []) more e) : Runs m st (.bring cs) (ms ++ more) e := by
  induction cs generalizing s ms with
  | nil =>
    cases h
    exact next
  | cons c cs ih =>
    rw [bring] at h
    rcases hcall : s.call c with ⟨_ | g, t⟩ <;> rw [hcall] at h <;> dsimp only at h
    · rcases hrest : bring t cs with ⟨rest, failure, u⟩
      rw [hrest] at h
      cases h
      exact .called c (ih hrest)
    · cases h

end Bring

theorem copy_played (m : Manner σ) (source : Reader) (sink : Sink) (st : σ) :
    Played source sink (copy m source sink st).moves (copy m source sink st).source
      (copy m source sink st).sink := by
  fun_induction copy m source sink st with
  | case1 source sink st f rest hread => exact .read hread (.nil rest sink)
  | case2 source sink st rest hread => exact .read hread (.nil rest sink)
  | case3 source sink st rest hread => exact .read hread (.nil rest sink)
  | case4 source sink st bs rest hread hbs cs st' hpass moves f sink' hbring =>
    exact .read hread (bring_played hbring rest)
  | case5 source sink st bs rest hread hbs cs st' hpass moves sink' hbring hover =>
    exact .read hread (bring_played hbring rest)
  | case6 source sink st bs rest hread hbs cs st' hpass moves sink' hbring hgoes ih =>
    exact .read hread ((bring_played hbring rest).trans ih)

theorem copy_runs (m : Manner σ) (source : Reader) (sink : Sink) (st : σ) :
    Runs m st .read (copy m source sink st).moves (copy m source sink st).ending := by
  fun_induction copy m source sink st with
  | case1 source sink st f rest hread => exact .unread st f
  | case2 source sink st rest hread => exact .blocked st
  | case3 source sink st rest hread => exact .ended st
  | case4 source sink st bs rest hread hbs cs st' hpass moves f sink' hbring =>
    refine .chunk hbs ?_
    rw [hpass]
    exact .of_bring_some hbring
  | case5 source sink st bs rest hread hbs cs st' hpass moves sink' hbring hover =>
    refine .chunk hbs ?_
    rw [hpass, ← List.append_nil moves]
    exact .of_bring_none hbring (.stopped hover)
  | case6 source sink st bs rest hread hbs cs st' hpass moves sink' hbring hgoes ih =>
    refine .chunk hbs ?_
    rw [hpass]
    exact .of_bring_none hbring (.again hgoes ih)

def Todo.ClosesLast (isOver : Bool) : Todo → Prop
  | .read => True
  | .bring cs => ∃ others, .close ∉ others ∧ cs = others ++ if isOver then [.close] else []

/-- A manner that brings the writer what a filter lets through, however the input is cut. -/
structure Manner.Filters (m : Manner σ) (f : σ → Bytes → Bytes × σ) : Prop where
  nil : ∀ st, f st [] = ([], st)
  append : ∀ st bs cs,
    f st (bs ++ cs) = ((f st bs).1 ++ (f (f st bs).2 cs).1, (f (f st bs).2 cs).2)
  state : ∀ st bs, (m.pass st bs).2 = (f st bs).2
  bytes : ∀ st bs, (Todo.bring (m.pass st bs).1).bytes = (f st bs).1
  closing : ∀ st bs, (Todo.bring (m.pass st bs).1).ClosesLast (m.isOver (m.pass st bs).2)

/-- A move of a relay, with the moves before it and after it, and with what was still to be
written when they began. -/
structure Moment (m : Manner σ) (f : σ → Bytes → Bytes × σ) (st : σ) (todo : Todo)
    (p : List Move) (x : Move) (q : List Move) : Prop where
  settled : offered p = accepted p
  inOrder : accepted p ++ x.offered <+: todo.bytes ++ (f st (taken p)).1
  caughtUp : ∀ r, x = .read r → accepted p = todo.bytes ++ (f st (taken p)).1
  closes : ∀ g, x = .call .close g →
    accepted p = todo.bytes ++ (f st (taken p)).1 ∧ m.isOver (f st (taken p)).2
  last : x.IsLast → q = []

section Closing

variable {c : Sink.Call} {cs : List Sink.Call} {isOver : Bool}

theorem Todo.ClosesLast.cases (h : (Todo.bring (c :: cs)).ClosesLast isOver) :
    c ≠ .close ∧ (Todo.bring cs).ClosesLast isOver ∨ c = .close ∧ cs = [] ∧ isOver = true := by
  obtain ⟨others, hothers, h⟩ := h
  cases others with
  | nil =>
    cases isOver with
    | false => cases h
    | true =>
      cases h
      exact .inr ⟨rfl, rfl, rfl⟩
  | cons d rest =>
    obtain ⟨rfl, hcs⟩ := List.cons.inj h
    rw [List.mem_cons, not_or] at hothers
    exact .inl ⟨fun e => hothers.1 e.symm, rest, hothers.2, hcs⟩

theorem Todo.ClosesLast.not_over (h : (Todo.bring []).ClosesLast isOver) : isOver = false := by
  obtain ⟨others, -, h⟩ := h
  cases isOver with
  | false => rfl
  | true => simp at h

theorem Runs.eq_nil_of_over (h : Runs m st (.bring []) ms e) (hover : m.isOver st) : ms = [] := by
  cases h with
  | stopped => rfl
  | again hgoes => exact absurd hover hgoes

end Closing

section Moments

variable {f : σ → Bytes → Bytes × σ} {p q : List Move} {x : Move} {c : Sink.Call}
  {cs : List Sink.Call}

theorem Moment.chunk (hf : m.Filters f) {bs : Bytes}
    (h : Moment m f (m.pass st bs).2 (.bring (m.pass st bs).1) p x q) :
    Moment m f st .read (.read (.data bs) :: p) x q := by
  have hmore : f st (bs ++ taken p) = ((Todo.bring (m.pass st bs).1).bytes ++
      (f (m.pass st bs).2 (taken p)).1, (f (m.pass st bs).2 (taken p)).2) := by
    rw [hf.append, hf.bytes, hf.state]
  have htaken : taken (.read (.data bs) :: p) = bs ++ taken p := rfl
  obtain ⟨hsettled, hinOrder, hcaughtUp, hcloses, hlast⟩ := h
  refine ⟨hsettled, ?_, ?_, ?_, hlast⟩ <;> rw [htaken, hmore]
  · exact hinOrder
  · exact hcaughtUp
  · exact hcloses

theorem Moment.called (h : Moment m f st (.bring cs) p x q) :
    Moment m f st (.bring (c :: cs)) (.call c none :: p) x q := by
  have hbytes : (Todo.bring (c :: cs)).bytes = c.bytes ++ (Todo.bring cs).bytes := rfl
  have haccepted : accepted (.call c none :: p) = c.bytes ++ accepted p := rfl
  obtain ⟨hsettled, hinOrder, hcaughtUp, hcloses, hlast⟩ := h
  refine ⟨congrArg (c.bytes ++ ·) hsettled, ?_, fun r hr => ?_, fun g hg => ?_, hlast⟩ <;>
    rw [haccepted, hbytes, List.append_assoc]
  · rw [List.append_assoc, List.prefix_append_right_inj]
    exact hinOrder
  · rw [List.append_cancel_left_eq]
    exact hcaughtUp r hr
  · rw [List.append_cancel_left_eq]
    exact hcloses g hg

theorem Moment.of_read (hf : m.Filters f) {r : ReadResult} (h : (Move.read r).IsLast → q = []) :
    Moment m f st .read [] (.read r) q where
  settled := rfl
  inOrder := List.nil_prefix
  caughtUp _ _ := by simp [Todo.bytes, hf.nil]
  closes _ hg := by cases hg
  last := h

theorem Moment.of_call (hf : m.Filters f) {failure : Option Failure}
    (hclosing : (Todo.bring (c :: cs)).ClosesLast (m.isOver st))
    (h : (Move.call c failure).IsLast → q = []) :
    Moment m f st (.bring (c :: cs)) [] (.call c failure) q where
  settled := rfl
  inOrder := by
    rw [Todo.bytes, List.flatMap_cons, List.append_assoc]
    exact List.prefix_append _ _
  caughtUp _ hr := by cases hr
  closes g hg := by
    obtain ⟨rfl, -⟩ : c = .close ∧ failure = g := by simpa using hg
    obtain ⟨hne, -⟩ | ⟨-, rfl, hover⟩ := hclosing.cases
    · exact absurd rfl hne
    · simp [Todo.bytes, Sink.Call.bytes, hf.nil, hover]
  last := h

theorem Runs.moment (hf : m.Filters f) (h : Runs m st todo ms e)
    (hclosing : todo.ClosesLast (m.isOver st)) (hms : ms = p ++ x :: q) :
    Moment m f st todo p x q := by
  induction h generalizing p with
  | ended | blocked | unread =>
    obtain ⟨rfl, rfl, rfl⟩ : p = [] ∧ x = _ ∧ q = [] := by
      simpa [List.cons_eq_append_iff] using hms
    exact .of_read hf fun _ => rfl
  | chunk nonempty next ih =>
    cases p with
    | nil =>
      obtain ⟨rfl, rfl⟩ := List.cons.inj hms
      exact .of_read hf fun h => absurd h nonempty
    | cons _ p =>
      obtain ⟨rfl, hsplit⟩ := List.cons.inj hms
      exact (ih (hf.closing _ _) hsplit).chunk hf
  | failed st c cs g =>
    obtain ⟨rfl, rfl, rfl⟩ : p = [] ∧ x = _ ∧ q = [] := by
      simpa [List.cons_eq_append_iff] using hms
    exact .of_call hf hclosing fun _ => rfl
  | called c next ih =>
    obtain ⟨hne, hrest⟩ | ⟨rfl, rfl, hover⟩ := hclosing.cases
    · cases p with
      | nil =>
        obtain ⟨rfl, rfl⟩ := List.cons.inj hms
        refine .of_call hf hclosing fun h => ?_
        simp [Move.IsLast, hne] at h
      | cons _ p =>
        obtain ⟨rfl, hsplit⟩ := List.cons.inj hms
        exact (ih hrest hsplit).called
    · obtain rfl := next.eq_nil_of_over hover
      obtain ⟨rfl, rfl, rfl⟩ : p = [] ∧ x = _ ∧ q = [] := by
        simpa [List.cons_eq_append_iff] using hms
      exact .of_call hf hclosing fun _ => rfl
  | stopped => simp at hms
  | again hgoes next ih =>
    obtain ⟨hsettled, hinOrder, hcaughtUp, hcloses, hlast⟩ := ih trivial hms
    exact ⟨hsettled, hinOrder, hcaughtUp, hcloses, hlast⟩

theorem Runs.exists_last (h : Runs m st todo ms e) (hclosing : todo.ClosesLast (m.isOver st))
    (hf : m.Filters f) : ∃ p x, ms = p ++ [x] ∧ x.IsLast := by
  induction h with
  | ended | blocked | unread => exact ⟨[], _, rfl, by simp [Move.IsLast]⟩
  | @chunk st bs ms e nonempty next ih =>
    obtain ⟨p, x, rfl, hx⟩ := ih (hf.closing st bs)
    exact ⟨.read (.data bs) :: p, x, rfl, hx⟩
  | failed st c cs g => exact ⟨[], _, rfl, by simp [Move.IsLast]⟩
  | called c next ih =>
    obtain ⟨hne, hrest⟩ | ⟨rfl, rfl, hover⟩ := hclosing.cases
    · obtain ⟨p, x, rfl, hx⟩ := ih hrest
      exact ⟨.call c none :: p, x, rfl, hx⟩
    · obtain rfl := next.eq_nil_of_over hover
      exact ⟨[], _, rfl, .inl rfl⟩
  | stopped hover =>
    rw [hclosing.not_over] at hover
    cases hover
  | again hgoes next ih => exact ih trivial

/-- A failure leaves a relay only from its last move, and only if it is no ordinary end there. -/
theorem Runs.leaves {g : Failure} (h : Runs m st todo ms (.failed g)) :
    (∃ p, ms = p ++ [.read (.failure g)] ∧ m.readEnds g = false) ∨
      ∃ p c, ms = p ++ [.call c (some g)] ∧ m.writeEnds g = false := by
  have hend {ordinary : Failure → Bool} {k : Failure} (h : endOf ordinary k = .failed g) :
      k = g ∧ ordinary k = false := by
    unfold endOf at h
    split at h
    · cases h
    · rename_i hno
      exact ⟨Ending.failed.inj h, by simpa using hno⟩
  generalize he : Ending.failed g = e at h
  induction h with
  | ended | blocked | stopped => cases he
  | unread st k =>
    obtain ⟨rfl, hno⟩ := hend he.symm
    exact .inl ⟨[], rfl, hno⟩
  | failed st c cs k =>
    obtain ⟨rfl, hno⟩ := hend he.symm
    exact .inr ⟨[], c, rfl, hno⟩
  | chunk nonempty next ih =>
    obtain ⟨p, rfl, hno⟩ | ⟨p, c, rfl, hno⟩ := ih he
    · exact .inl ⟨_ :: p, rfl, hno⟩
    · exact .inr ⟨_ :: p, c, rfl, hno⟩
  | called c next ih =>
    obtain ⟨p, rfl, hno⟩ | ⟨p, d, rfl, hno⟩ := ih he
    · exact .inl ⟨_ :: p, rfl, hno⟩
    · exact .inr ⟨_ :: p, d, rfl, hno⟩
  | again hgoes next ih => exact ih he

end Moments

/-- What is to be expected of a relay whose writer is meant to get what a filter lets through of
the source, and to be closed once that is complete. -/
structure Orderly (source : Reader) (sink : Sink) (filtered : Bytes → Bytes)
    (complete : Bytes → Prop) (c : Course σ) : Prop where
  played : Played source sink c.moves c.source c.sink
  /-- At every moment. -/
  inOrder : ∀ p, p <+: c.moves → accepted p <+: offered p ∧ offered p <+: filtered (taken p)
  /-- Before every read. -/
  caughtUp : ∀ p r q, c.moves = p ++ .read r :: q → accepted p = filtered (taken p)
  stops : ∀ p x q, c.moves = p ++ x :: q → x.IsLast → q = []
  goesOn : ∃ p x, c.moves = p ++ [x] ∧ x.IsLast
  closes : ∀ p g q, c.moves = p ++ .call .close g :: q →
    complete (taken p) ∧ accepted p = filtered (taken p) ∧ q = []
  catches : ∀ g, c.ending = .failed g →
    (∃ p, c.moves = p ++ [.read (.failure g)] ∧ g.isSystem = false ∧ g.isValue = false) ∨
      ∃ p d, c.moves = p ++ [.call d (some g)] ∧ g.isSystem = false ∧ g.isEndOfFile = false

/-- A relay is orderly if it takes system and value failures of its source and system and
end-of-file failures of its writer for ordinary ends. -/
theorem copy_orderly {f : σ → Bytes → Bytes × σ} (hf : m.Filters f)
    (hread : ∀ g, m.readEnds g = false → g.isSystem = false ∧ g.isValue = false)
    (hwrite : ∀ g, m.writeEnds g = false → g.isSystem = false ∧ g.isEndOfFile = false)
    (source : Reader) (sink : Sink) (st : σ) :
    Orderly source sink (fun bs => (f st bs).1) (fun bs => m.isOver (f st bs).2)
      (copy m source sink st) := by
  have hruns := copy_runs m source sink st
  have hmoment {p q : List Move} {x : Move} (h : (copy m source sink st).moves = p ++ x :: q) :
      Moment m f st .read p x q :=
    hruns.moment hf trivial h
  refine ⟨copy_played m source sink st, ?_, ?_, ?_, ?_, ?_, ?_⟩
  · rintro p ⟨q, hq⟩
    obtain rfl | ⟨p, x, rfl⟩ := List.eq_nil_or_concat p
    · exact ⟨List.nil_prefix, List.nil_prefix⟩
    · have hm : Moment m f st .read p x q := hmoment (by simp [← hq])
      have hoffered : offered (p ++ [x]) = accepted p ++ x.offered := by
        rw [← hm.settled, offered, List.flatMap_append, List.flatMap_singleton]
      have haccepted : accepted (p ++ [x]) = accepted p ++ x.accepted := by
        rw [accepted, List.flatMap_append, List.flatMap_singleton]
      have htaken : taken (p ++ [x]) = taken p ++ x.taken := by
        rw [taken, List.flatMap_append, List.flatMap_singleton]
      rw [List.concat_eq_append, haccepted, hoffered, htaken, hf.append,
        List.prefix_append_right_inj]
      exact ⟨x.accepted_prefix, hm.inOrder.trans (List.prefix_append _ _)⟩
  · exact fun p r q h => (hmoment h).caughtUp r rfl
  · exact fun p x q h => (hmoment h).last
  · exact hruns.exists_last trivial hf
  · intro p g q h
    obtain ⟨haccepted, hover⟩ := (hmoment h).closes g rfl
    exact ⟨hover, haccepted, (hmoment h).last (.inl rfl)⟩
  · intro g hg
    rw [hg] at hruns
    obtain ⟨p, hp, hno⟩ | ⟨p, d, hp, hno⟩ := hruns.leaves
    · exact .inl ⟨p, hp, hread g hno⟩
    · exact .inr ⟨p, d, hp, hwrite g hno⟩

theorem toLocal_filters : toLocal.Filters fun _ bs => (bs, ()) where
  nil _ := rfl
  append _ _ _ := rfl
  state _ _ := rfl
  bytes _ bs := by simp [toLocal, Todo.bytes, Sink.Call.bytes]
  closing _ bs := ⟨[.write bs, .flush], by simp, rfl⟩

theorem toRemote_filters : toRemote.Filters Escape.feed where
  nil := Escape.feed_nil
  append := Escape.feed_append
  state _ _ := rfl
  bytes e bs := by
    have hpass : (toRemote.pass e bs).1 = inputCalls (e.feed bs).1 (e.feed bs).2.closed := rfl
    rw [hpass, inputCalls, Todo.bytes, List.flatMap_append]
    by_cases hout : (e.feed bs).1 = []
    · cases (e.feed bs).2.closed <;> simp [hout, Sink.Call.bytes]
    · cases (e.feed bs).2.closed <;> simp [hout, Sink.Call.bytes]
  closing e bs := by
    refine ⟨if (e.feed bs).1 = [] then [] else [.write (e.feed bs).1, .flush], ?_, rfl⟩
    split <;> simp

/-- Whatever the answers of the streams are, what a relay has written is at every moment a beginning
of what it has read (of what the filter lets through of that), all of it before the next read;
after an end or a failure it makes no move. The remote side is closed by the last move only, when
the escape is complete and everything before it is accepted. Neither a system or value failure of a
read nor a system or end-of-file failure of a writer leaves a relay. -/
theorem relays_orderly (source reader : Reader) (sink remote : Sink) (e : Escape) :
    Orderly source sink id (fun _ => False) (copy toLocal source sink ()) ∧
      Orderly reader remote (fun bs => (e.feed bs).1) (fun bs => (e.feed bs).2.closed)
        (copy toRemote reader remote e) ∧
      ∀ p g q, (copy toRemote reader remote {}).moves = p ++ .call .close g :: q →
        ∃ k, IsLeast {k | Escape.Live (taken p) k} k ∧ accepted p = (taken p).take (k + 1) := by
  have hlocal := copy_orderly toLocal_filters (by simp [toLocal, outputEnds]; tauto)
    (by simp [toLocal, outputEnds]; tauto) source sink ()
  have hremote (e : Escape) := copy_orderly toRemote_filters (by simp [toRemote, readEnds])
    (by simp [toRemote, writeEnds]) reader remote e
  refine ⟨?_, hremote e, fun p g q h => ?_⟩
  · have hnever : (fun _ : Bytes => toLocal.isOver () = true) = fun _ => False := by simp [toLocal]
    rw [hnever] at hlocal
    exact hlocal
  · obtain ⟨hclosed, haccepted, -⟩ := (hremote {}).closes p g q h
    obtain ⟨k, hk, -, hout⟩ | ⟨-, hopen, -⟩ := Escape.feed_whole (taken p)
    · exact ⟨k, hk, haccepted.trans hout⟩
    · exact absurd hclosed (by simp [toRemote, hopen])

end Relay

end Tether
