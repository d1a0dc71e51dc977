import Tether.Failure
import Tether.Text.Utf8

/-! # Byte streams

What a reader will deliver and what a writer has been given. A reader is the
list of its coming steps; a writer is the list of the calls made to it.
-/

namespace Tether

/-- The next thing that happens to a read. -/
inductive ReadStep
  | data (bytes : Bytes)
  | failure (f : Failure)
  | block
  deriving DecidableEq, Repr

/-- What a reader will deliver; after the last step its stream has ended. -/
abbrev Reader := List ReadStep

/-- What became of a read. At the end of the stream the bytes are empty. -/
inductive ReadResult
  | data (bytes : Bytes)
  | failure (f : Failure)
  | blocked
  deriving DecidableEq, Repr

namespace Reader

/-- Reads at most `n` bytes of the next step; what is longer stays first. -/
def read (n : Nat) : Reader → ReadResult × Reader
  | [] => (.data [], [])
  | .data bs :: r =>
    if bs.length ≤ n then (.data bs, r) else (.data (bs.take n), .data (bs.drop n) :: r)
  | .failure f :: r => (.failure f, r)
  | .block :: r => (.blocked, .block :: r)

/-- Reads until the stream ends; a step without bytes ends it too. -/
def readAll : Reader → Except Failure Bytes × Reader
  | [] => (.ok [], [])
  | .data [] :: r => (.ok [], r)
  | .data bs :: r =>
    match readAll r with
    | (.ok rest, r) => (.ok (bs ++ rest), r)
    | (.error f, r) => (.error f, r)
  | .failure f :: r => (.error f, r)
  | .block :: r => (.ok [], .block :: r)

def size : Reader → Nat
  | [] => 0
  | .data bs :: r => bs.length + 1 + size r
  | _ :: r => 1 + size r

theorem size_of_read {n : Nat} {r s : Reader} {bs : Bytes} (h : read (n + 1) r = (.data bs, s))
    (hb : bs ≠ []) : s.size < r.size := by
  unfold read at h
  split at h
  · simp at h
    exact absurd h.1 hb
  · split at h <;> simp at h <;> obtain ⟨_, rfl⟩ := h
    · simp [size]
    · simp [size]
      omega
  · simp at h
  · simp at h

end Reader

namespace Sink

inductive Call
  | write (bytes : Bytes)
  | flush
  | close
  /-- Text goes through a layer of its own. -/
  | print (text : String)
  deriving DecidableEq, Repr

inductive Kind
  | write | flush | close | print
  deriving DecidableEq, Repr

def Call.kind : Call → Kind
  | .write _ => .write
  | .flush => .flush
  | .close => .close
  | .print _ => .print

end Sink

/-- A writer: the calls made to it, and which of them fail. -/
structure Sink where
  calls : List Sink.Call := []
  /-- The failure of the `n`th call of a kind, counted from one. -/
  failure : Sink.Kind → Nat → Option Failure := fun _ _ => none

namespace Sink

/-- Makes a call. A call that fails has been made all the same. -/
def call (s : Sink) (c : Call) : Option Failure × Sink :=
  let calls := s.calls ++ [c]
  (s.failure c.kind (calls.countP fun d => d.kind = c.kind), { s with calls := calls })

def written (s : Sink) : Bytes :=
  s.calls.flatMap fun
    | .write bs => bs
    | .print text => Utf8.encode text
    | _ => []

end Sink

end Tether
