import Tether.Proofs.Terminal.Escape
import Tether.Terminal.Relay

/-! # The input up to its end

Input that ends reaches the remote side whole, however it is cut into chunks, unless the filter
holds a tilde back when the end comes. That tilde is lost.
-/

namespace Tether

open Escape

/-- Nothing is let through once the input has ended. -/
theorem Escape.feed_of_closed {e : Escape} (h : e.closed = true) (bs : Bytes) :
    e.feed bs = ([], e) :=
  if_pos h

namespace Reader

/-- Delivers some bytes, in chunks of any size, and then ends. What stands after the end is
left. -/
inductive Delivers : Reader → Bytes → Reader → Prop
  | empty : Delivers [] [] []
  | ended {rest : Reader} : Delivers (.data [] :: rest) [] rest
  | chunk {bs more : Bytes} {rest left : Reader} (nonempty : bs ≠ [])
      (next : Delivers rest more left) : Delivers (.data bs :: rest) (bs ++ more) left

variable {r left : Reader} {bs : Bytes}

/-- One read comes to the end or takes some of the bytes off the front. -/
theorem Delivers.read (h : r.Delivers bs left) (n : Nat) :
    bs = [] ∧ r.read (n + 1) = (.data [], left) ∨
      ∃ chunk more rest, chunk ≠ [] ∧ bs = chunk ++ more ∧
        r.read (n + 1) = (.data chunk, rest) ∧ rest.Delivers more left := by
  cases h with
  | empty => exact .inl ⟨rfl, rfl⟩
  | ended => exact .inl ⟨rfl, by simp [Reader.read]⟩
  | @chunk chunk more rest left hne hnext =>
    by_cases hle : chunk.length ≤ n + 1
    · exact .inr ⟨chunk, more, rest, hne, rfl, by simp [Reader.read, hle], hnext⟩
    · refine .inr ⟨chunk.take (n + 1), chunk.drop (n + 1) ++ more,
        .data (chunk.drop (n + 1)) :: rest, by simpa using hne, ?_, by simp [Reader.read, hle], ?_⟩
      · rw [← List.append_assoc, List.take_append_drop]
      · refine .chunk ?_ hnext
        rw [ne_eq, List.drop_eq_nil_iff]
        exact hle

end Reader

namespace Sink

structure IsWilling (s : Sink) : Prop where
  write : ∀ n, s.failure .write n = none
  flush : ∀ n, s.failure .flush n = none

end Sink

namespace Relay

/-- A willing writer is given the bytes that the filter lets through. -/
theorem bring_inputCalls {s : Sink} (hs : s.IsWilling) (out : Bytes) :
    ∃ moves t, bring s (inputCalls out false) = (moves, none, t) ∧ t.IsWilling ∧
      t.written = s.written ++ out := by
  by_cases hout : out = []
  · subst hout
    exact ⟨[], s, rfl, hs, by simp⟩
  · have hcalls : inputCalls out false = [.write out, .flush] := by simp [inputCalls, hout]
    rw [hcalls]
    simp only [bring, Sink.call, Sink.Call.kind, hs.write, hs.flush]
    exact ⟨_, _, rfl, ⟨hs.write, hs.flush⟩, by simp [Sink.written]⟩

theorem input_eq (reader : Reader) (remote : Sink) (e : Escape) : input reader remote e =
    match reader.read chunkSize with
    | (.failure f, rest) => (endOf readEnds f, rest, remote, e)
    | (.blocked, rest) => (.blocked, rest, remote, e)
    | (.data bs, rest) =>
      if bs = [] then (.finished, rest, remote, e)
      else match bring remote (inputCalls (e.feed bs).1 (e.feed bs).2.closed) with
        | (_, some f, remote) => (endOf writeEnds f, rest, remote, (e.feed bs).2)
        | (_, none, remote) =>
          if (e.feed bs).2.closed then (.finished, rest, remote, (e.feed bs).2)
          else input rest remote (e.feed bs).2 := by
  rw [input, copy_eq]
  rcases reader.read chunkSize with ⟨bs | f | _, rest⟩
  · by_cases hbs : bs = []
    · simp only [if_pos hbs]
    · have hpass : toRemote.pass e bs =
        (inputCalls (e.feed bs).1 (e.feed bs).2.closed, (e.feed bs).2) := rfl
      simp only [if_neg hbs, hpass]
      rcases bring remote _ with ⟨moves, _ | f, t⟩
      · have hover : toRemote.isOver (e.feed bs).2 = (e.feed bs).2.closed := rfl
        dsimp only
        rw [hover]
        cases (e.feed bs).2.closed <;> rfl
      · rfl
  · rfl
  · rfl

/-- What is written is what the filter lets through of the whole input, if that does not end it. -/
theorem input_delivered {reader left : Reader} {bs : Bytes} (h : reader.Delivers bs left)
    {remote : Sink} (hremote : remote.IsWilling) {e : Escape}
    (hopen : (e.feed bs).2.closed = false) :
    ∃ t, input reader remote e = (.finished, left, t, (e.feed bs).2) ∧
      t.written = remote.written ++ (e.feed bs).1 := by
  -- Every chunk leaves fewer bytes to come; how the reader cuts them plays no part.
  induction hlength : bs.length using Nat.strongRecOn generalizing reader bs remote e with
  | ind length ih =>
    obtain ⟨rfl, hread⟩ | ⟨chunk, more, rest, hchunk, rfl, hread, hrest⟩ := h.read chunkBelow
    · refine ⟨remote, ?_, by simp [feed_nil]⟩
      rw [input_eq, chunkSize, hread, feed_nil]
      rfl
    · rw [feed_append] at hopen ⊢
      have hstays : (e.feed chunk).2.closed = false := by
        by_contra hclosed
        rw [Bool.not_eq_false] at hclosed
        rw [feed_of_closed hclosed, hclosed] at hopen
        cases hopen
      obtain ⟨moves, t, hcalls, ht, hwritten⟩ := bring_inputCalls hremote (e.feed chunk).1
      have hless : more.length < length := by
        have := List.length_pos_iff.mpr hchunk
        rw [List.length_append] at hlength
        omega
      obtain ⟨u, hinput, hmore⟩ := ih more.length hless hrest ht hopen rfl
      refine ⟨u, ?_, by rw [hmore, hwritten, List.append_assoc]⟩
      rw [input_eq, chunkSize, hread]
      simp only [hchunk, hstays, hcalls, hinput, if_false, Bool.false_eq_true]

/-- Input that ends, and in which no escape is completed, is written as it is read, but for a tilde
after a line end that is the last byte and is held back. -/
theorem input_keeps {reader left : Reader} {bs : Bytes} (h : reader.Delivers bs left)
    (hlive : ∀ k, ¬ Live bs k) {remote : Sink} (hremote : remote.IsWilling) :
    ∃ t e, input reader remote {} = (.finished, left, t, e) ∧
      (HoldsTilde bs ∧ t.written ++ [tilde] = remote.written ++ bs ∨
        ¬ HoldsTilde bs ∧ t.written = remote.written ++ bs) := by
  obtain ⟨k, hk, -⟩ | ⟨-, hopen, hout⟩ := feed_whole bs
  · exact absurd hk.1 (hlive k)
  · obtain ⟨t, hinput, hwritten⟩ := input_delivered h hremote hopen
    refine ⟨t, _, hinput, ?_⟩
    rw [hwritten]
    obtain ⟨hholds, hout⟩ | ⟨hholds, hout⟩ := hout
    · obtain ⟨q, rfl, -⟩ := id hholds
      exact .inl ⟨hholds, by rw [hout, List.dropLast_concat, List.append_assoc]⟩
    · exact .inr ⟨hholds, by rw [hout]⟩

def breakingOff : Reader := [.data [0x0a], .data [tilde]]

/-- The tilde is not written. -/
theorem input_keeps_breakingOff :
    breakingOff.Delivers [0x0a, tilde] [] ∧ (∀ k, ¬ Live [0x0a, tilde] k) ∧
      ({} : Sink).IsWilling ∧
      ∃ t e, input breakingOff {} {} = (.finished, [], t, e) ∧ t.written = [0x0a] := by
  have hlast : Reader.Delivers [.data [tilde]] ([tilde] ++ []) [] := .chunk (by simp) .empty
  have hdelivers : breakingOff.Delivers [0x0a, tilde] [] := .chunk (by simp) hlast
  have hlive (k : Nat) : ¬ Live [0x0a, tilde] k := by
    intro h
    have hlength := (List.getElem?_eq_some_iff.mp h.dot).1
    simp only [List.length_cons, List.length_nil] at hlength
    omega
  have hremote : ({} : Sink).IsWilling := ⟨fun _ => rfl, fun _ => rfl⟩
  have hholds : HoldsTilde ([] ++ [0x0a] ++ [tilde]) :=
    holdsTilde_append_iff.mpr ⟨rfl, atNewline_append_iff.mpr ⟨rfl, Standing.start.1⟩⟩
  obtain ⟨t, e, hinput, hwritten⟩ := input_keeps hdelivers hlive hremote
  refine ⟨hdelivers, hlive, hremote, t, e, hinput, ?_⟩
  obtain ⟨-, hwritten⟩ | ⟨hnone, -⟩ := hwritten
  · have hboth : t.written ++ [tilde] = [0x0a] ++ [tilde] := hwritten
    exact List.append_cancel_right hboth
  · exact absurd hholds hnone

end Relay

end Tether
