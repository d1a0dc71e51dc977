import Tether.Terminal.Multiplexer
import Mathlib.Data.List.Induction

/-! # Relays beside other writers

A relay shares its local writer with the log, whose lines are printed as text. They do not
count among the calls of the relay, which copies the same bytes with and without them.
-/

namespace Tether

variable {α : Type} {P : α → Prop} {as bs : List α}

/-- The same items in the same order, but for those of a kind that either side has of its own. -/
inductive SameBut (P : α → Prop) : List α → List α → Prop
  | nil : SameBut P [] []
  | both {as bs : List α} (h : SameBut P as bs) (a : α) : SameBut P (as ++ [a]) (bs ++ [a])
  | left {as bs : List α} (h : SameBut P as bs) {a : α} (ha : P a) : SameBut P (as ++ [a]) bs
  | right {as bs : List α} (h : SameBut P as bs) {b : α} (hb : P b) : SameBut P as (bs ++ [b])

namespace SameBut

theorem refl (as : List α) : SameBut P as as := by
  induction as using List.reverseRecOn with
  | nil => exact .nil
  | append_singleton as a ih => exact ih.both a

theorem symm (h : SameBut P as bs) : SameBut P bs as := by
  induction h with
  | nil => exact .nil
  | both _ a ih => exact ih.both a
  | left _ ha ih => exact ih.right ha
  | right _ hb ih => exact ih.left hb

theorem append (h : SameBut P as bs) (cs : List α) : SameBut P (as ++ cs) (bs ++ cs) := by
  induction cs using List.reverseRecOn with
  | nil => simpa using h
  | append_singleton cs c ih => simpa using ih.both c

/-- What leaves out the items of the kind does not tell the two sides apart. -/
theorem filter_eq (h : SameBut P as bs) {p : α → Bool} (hp : ∀ a, P a → p a = false) :
    as.filter p = bs.filter p := by
  induction h with
  | nil => rfl
  | both _ a ih => rw [List.filter_append, List.filter_append, ih]
  | left _ ha ih => simpa [hp _ ha] using ih
  | right _ hb ih => simpa [hp _ hb] using ih

end SameBut

namespace Sink

variable {P : Sink.Call → Prop} {s t : Sink}

/-- Writers that were given the same calls, but for some text that was printed. -/
structure Alike (P : Sink.Call → Prop) (s t : Sink) : Prop where
  failure : s.failure = t.failure
  calls : SameBut P s.calls t.calls
  printed : ∀ c, P c → c.kind = .print

namespace Alike

theorem symm (h : Alike P s t) : Alike P t s where
  failure := h.failure.symm
  calls := h.calls.symm
  printed := h.printed

theorem both (h : Alike P s t) (c : Call) : Alike P (s.call c).2 (t.call c).2 where
  failure := h.failure
  calls := h.calls.both c
  printed := h.printed

theorem left (h : Alike P s t) {c : Call} (hc : P c) : Alike P (s.call c).2 t where
  failure := h.failure
  calls := h.calls.left hc
  printed := h.printed

/-- What is not printed comes to the same on both sides. -/
theorem call_eq (h : Alike P s t) {c : Call} (hc : c.kind ≠ .print) :
    (s.call c).1 = (t.call c).1 := by
  have hp (d : Call) (hd : P d) : decide (d.kind = c.kind) = false :=
    decide_eq_false fun e => hc (e.symm.trans (h.printed d hd))
  unfold Sink.call
  dsimp only
  rw [← h.failure, List.countP_eq_length_filter, List.countP_eq_length_filter,
    (h.calls.both c).filter_eq hp]

end Alike

end Sink

namespace Relay

variable {P : Sink.Call → Prop} {s t : Sink}

theorem bring_alike (h : s.Alike P t) {cs : List Sink.Call} (hcs : ∀ c ∈ cs, c.kind ≠ .print)
    {moves : List Move} {f : Option Failure} {s' : Sink} (hs : bring s cs = (moves, f, s')) :
    ∃ t', bring t cs = (moves, f, t') ∧ s'.Alike P t' := by
  induction cs generalizing s t moves with
  | nil =>
    obtain ⟨rfl, rfl, rfl⟩ : [] = moves ∧ none = f ∧ s = s' := by simpa [bring] using hs
    exact ⟨t, rfl, h⟩
  | cons c cs ih =>
    have hfailure := h.call_eq (hcs c List.mem_cons_self)
    have hsink := h.both c
    rcases es : s.call c with ⟨g, u⟩
    rcases et : t.call c with ⟨g', v⟩
    rw [es, et] at hfailure hsink
    obtain rfl : g = g' := hfailure
    rw [bring, es] at hs
    rw [bring, et]
    cases g with
    | some g =>
      cases hs
      exact ⟨v, rfl, hsink⟩
    | none =>
      rcases eu : bring u cs with ⟨more, f', u'⟩
      dsimp only at hs
      rw [eu] at hs
      cases hs
      obtain ⟨t', ht, halike⟩ := ih hsink (fun d hd => hcs d (List.mem_cons_of_mem c hd)) eu
      exact ⟨t', by simp only [ht], halike⟩

theorem copy_alike {σ : Type} {m : Manner σ} (hm : ∀ st bs, ∀ c ∈ (m.pass st bs).1, c.kind ≠ .print)
    (source : Reader) (h : s.Alike P t) (st : σ) :
    copy m source t st = { copy m source s st with sink := (copy m source t st).sink } ∧
      (copy m source s st).sink.Alike P (copy m source t st).sink := by
  -- Along the turns of one side: the other takes the same turn, for it reads the same source.
  fun_induction copy m source s st generalizing t with
  | case1 source s st f rest hread =>
    rw [copy_eq m source t, hread]
    exact ⟨rfl, h⟩
  | case2 source s st rest hread =>
    rw [copy_eq m source t, hread]
    exact ⟨rfl, h⟩
  | case3 source s st rest hread =>
    rw [copy_eq m source t, hread]
    exact ⟨rfl, h⟩
  | case4 source s st bs rest hread hbs cs st' hpass moves f s' hbring =>
    obtain ⟨t', ht, halike⟩ := bring_alike h (by simpa [hpass] using hm st bs) hbring
    rw [copy_eq m source t, hread]
    simp only [if_neg hbs, hpass, ht]
    exact ⟨trivial, halike⟩
  | case5 source s st bs rest hread hbs cs st' hpass moves s' hbring hover =>
    obtain ⟨t', ht, halike⟩ := bring_alike h (by simpa [hpass] using hm st bs) hbring
    rw [copy_eq m source t, hread]
    simp only [if_neg hbs, hpass, ht, if_pos hover]
    exact ⟨trivial, halike⟩
  | case6 source s st bs rest hread hbs cs st' hpass moves s' hbring hgoes ih =>
    obtain ⟨t', ht, halike⟩ := bring_alike h (by simpa [hpass] using hm st bs) hbring
    obtain ⟨hrest, hsink⟩ := ih halike
    rw [copy_eq m source t, hread]
    simp only [if_neg hbs, hpass, ht, if_neg hgoes]
    exact ⟨by rw [hrest]; rfl, hsink⟩

/-- Writers that are alike are brought the same, and the relay ends in the same way. -/
theorem output_alike (source : Reader) (h : s.Alike P t) :
    (output source s).1 = (output source t).1 ∧
      (output source s).2.1 = (output source t).2.1 ∧
      (output source s).2.2.Alike P (output source t).2.2 := by
  have hprints (bs : Bytes) (c : Sink.Call) (hc : c ∈ [.write bs, .flush]) : c.kind ≠ .print := by
    simp only [List.mem_cons, List.not_mem_nil, or_false] at hc
    obtain rfl | rfl := hc <;> simp [Sink.Call.kind]
  obtain ⟨hcourse, hsink⟩ := copy_alike (m := toLocal) (fun _ => hprints) source h ()
  refine ⟨?_, ?_, hsink⟩
  · exact (congrArg Course.ending hcourse).symm
  · exact (congrArg Course.source hcourse).symm

end Relay

theorem Multiplexer.run_alike {P : Sink.Call → Prop} (m : Multiplexer) {stderr : Sink}
    (h : m.stderr.Alike P stderr) :
    (run { m with stderr }).1 = (run m).1 ∧
      (run { m with stderr }).2 = { (run m).2 with stderr := (run { m with stderr }).2.stderr } ∧
      (run m).2.stderr.Alike P (run { m with stderr }).2.stderr := by
  obtain ⟨hending, hrest, hsink⟩ := Relay.output_alike m.remoteError h
  refine ⟨?_, ?_, hsink⟩
  · simp only [run, hending]
  · simp only [run, hrest]

end Tether
