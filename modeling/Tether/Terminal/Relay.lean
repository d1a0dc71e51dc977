import Tether.Surroundings.Stream
import Tether.Terminal.Escape

/-! # Relays

Copying a stream in one direction, until it ends or either side fails. The
input passes through the escape filter on its way.
-/

namespace Tether.Relay

inductive Ending
  | finished
  /-- A failure that is not one of a stream left the relay. -/
  | failed (f : Failure)
  /-- The reader delivers nothing any more and has not ended. -/
  | blocked
  deriving DecidableEq, Repr

/-- The most bytes that are read at once, less one. -/
def chunkBelow : Nat := 4095

def chunkSize : Nat := chunkBelow + 1

/-- The end that a failure brings, some kinds of failure being ordinary ends. -/
def endOf (ordinary : Failure → Bool) (f : Failure) : Ending :=
  if ordinary f then .finished else .failed f

/-- What a relay does to one of its two sides, and what comes of it. -/
inductive Move
  | read (result : ReadResult)
  | call (c : Sink.Call) (failure : Option Failure)
  deriving DecidableEq, Repr

/-- Makes calls one after the other, up to the first that fails. -/
def bring (s : Sink) : List Sink.Call → List Move × Option Failure × Sink
  | [] => ([], none, s)
  | c :: r => match s.call c with
    | (some f, s) => ([.call c (some f)], some f, s)
    | (none, s) =>
      let (moves, failure, s) := bring s r
      (.call c none :: moves, failure, s)

def outputEnds (f : Failure) : Bool := f.isSystem || f.isValue || f.isEndOfFile

def readEnds (f : Failure) : Bool := f.isSystem || f.isValue

def writeEnds (f : Failure) : Bool := f.isSystem || f.isEndOfFile

/-- The manner of a relay: what it does with a chunk, and which failures it takes for ordinary
ends. -/
structure Manner (σ : Type) where
  /-- The calls that bring a chunk to the writer, and the state after it. -/
  pass : σ → Bytes → List Sink.Call × σ
  /-- Whether nothing is read any more. -/
  isOver : σ → Bool := fun _ => false
  readEnds : Failure → Bool
  writeEnds : Failure → Bool

/-- What a relay has done, and what it leaves. -/
structure Course (σ : Type) where
  moves : List Move
  ending : Ending
  source : Reader
  sink : Sink
  state : σ

def Course.after {σ : Type} (moves : List Move) (c : Course σ) : Course σ :=
  { c with moves := moves ++ c.moves }

/-- Copies a stream to a writer, chunk by chunk. -/
def copy {σ : Type} (m : Manner σ) (source : Reader) (sink : Sink) (state : σ) : Course σ :=
  match _h : source.read chunkSize with
  | (.failure f, rest) => ⟨[.read (.failure f)], endOf m.readEnds f, rest, sink, state⟩
  | (.blocked, rest) => ⟨[.read .blocked], .blocked, rest, sink, state⟩
  | (.data bs, rest) =>
    if _hb : bs = [] then ⟨[.read (.data bs)], .finished, rest, sink, state⟩
    else
      let (calls, state) := m.pass state bs
      match bring sink calls with
      | (moves, some f, sink) =>
        ⟨.read (.data bs) :: moves, endOf m.writeEnds f, rest, sink, state⟩
      | (moves, none, sink) =>
        if m.isOver state then ⟨.read (.data bs) :: moves, .finished, rest, sink, state⟩
        else (copy m rest sink state).after (.read (.data bs) :: moves)
termination_by source.size
decreasing_by exact Reader.size_of_read _h _hb

theorem copy_eq {σ : Type} (m : Manner σ) (source : Reader) (sink : Sink) (state : σ) :
    copy m source sink state = match source.read chunkSize with
      | (.failure f, rest) => ⟨[.read (.failure f)], endOf m.readEnds f, rest, sink, state⟩
      | (.blocked, rest) => ⟨[.read .blocked], .blocked, rest, sink, state⟩
      | (.data bs, rest) =>
        if bs = [] then ⟨[.read (.data bs)], .finished, rest, sink, state⟩
        else match bring sink (m.pass state bs).1 with
          | (moves, some f, sink) =>
            ⟨.read (.data bs) :: moves, endOf m.writeEnds f, rest, sink, (m.pass state bs).2⟩
          | (moves, none, sink) =>
            if m.isOver (m.pass state bs).2 then
              ⟨.read (.data bs) :: moves, .finished, rest, sink, (m.pass state bs).2⟩
            else (copy m rest sink (m.pass state bs).2).after (.read (.data bs) :: moves) := by
  rw [copy]
  split <;> rename_i hread <;> rw [hread]
  rfl

def toLocal : Manner Unit where
  pass _ bs := ([.write bs, .flush], ())
  readEnds := outputEnds
  writeEnds := outputEnds

def inputCalls (out : Bytes) (closed : Bool) : List Sink.Call :=
  (if out = [] then [] else [.write out, .flush]) ++ (if closed then [.close] else [])

/-- Input goes through the filter, and the writer is closed after the escape. -/
def toRemote : Manner Escape where
  pass escape bs :=
    let (out, escape) := escape.feed bs
    (inputCalls out escape.closed, escape)
  isOver escape := escape.closed
  readEnds := readEnds
  writeEnds := writeEnds

def output (source : Reader) (sink : Sink) : Ending × Reader × Sink :=
  let course := copy toLocal source sink ()
  (course.ending, course.source, course.sink)

/-- Copies the local input to a remote writer, and closes it after the escape. -/
def input (reader : Reader) (remote : Sink) (escape : Escape) :
    Ending × Reader × Sink × Escape :=
  let course := copy toRemote reader remote escape
  (course.ending, course.source, course.sink, course.state)

end Tether.Relay
