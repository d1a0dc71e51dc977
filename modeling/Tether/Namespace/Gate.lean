import Tether.Namespace.Share
import Tether.Nonce

/-! # The gate before the exported namespace

A connection is handed to the file-share server only after its peer has written
the nonce. The gate first waits for one such connection, until a deadline; it
then checks every further connection in the same way for as long as the
listener delivers any.
-/

namespace Tether

variable {τ : Type}

structure Listener (τ : Type) where
  address : String
  arrivals : List (Arrival τ) := []
  close : Act τ Unit

/-- Keeps a record of an accepted connection and of the time at which it came. -/
def Peer.record (p : Peer τ) : Act τ Unit :=
  modify fun s => { s with accepted := s.accepted ++ [(p, s.clock)] }

/-- Takes an arrival, unless it takes longer than the limit. -/
def Arrival.take [Time τ] (a : Arrival τ) (limit : Option τ) : Act τ (Option (Peer τ)) := do
  if a.isMissed limit then
    Act.wait (limit.getD 0)
    return none
  Act.wait a.delay
  match a.delivery with
  | .peer p =>
    p.record
    return some p
  | .nothing => return none
  | .failure f => throw f

/-- Waits for the next connection, within a limit or without one. -/
def accept [Time τ] (limit : Option τ) (arrivals : List (Arrival τ)) :
    Act τ (Option (Peer τ)) := do
  Act.emit (.accept limit)
  match arrivals with
  | a :: _ => a.take limit
  | [] =>
    match limit with
    | some t => Act.wait t
    | none => pure ()
    return none

structure Gate (τ : Type) where
  share : FileShare τ
  root : Path
  nonce : Nonce
  deadline : τ

namespace Gate

variable [Time τ]

def rejectedText : String := "Rejected namespace connection without a valid nonce"

/-- Reads `missing` bytes after those that were received, as long as the deadline has not
come. At the end of the stream there is no answer. -/
def readNonce (deadline : τ) (p : Peer τ) (missing : Nat) (received : Bytes) :
    Act τ (Option (Bytes × Peer τ)) :=
  if _h : missing = 0 then return some (received, p)
  else do
    let remaining := deadline - (← Act.now)
    if remaining ≤ 0 then return none
    let p ← p.setTimeout (some remaining)
    let (chunk, p) ← p.receive missing
    if _hc : chunk = [] then return none
    else readNonce deadline p (missing - chunk.length) (received ++ chunk)
termination_by missing
decreasing_by
  have := List.length_pos_iff.mpr _hc
  omega

/-- Checks a connection; if it brings the nonce in time, what follows the nonce is left. -/
def authenticate (g : Gate τ) (p : Peer τ) (timeout : τ) : Act τ (Option (Peer τ)) := do
  let deadline := (← Act.now) + timeout
  let answer : Option (Bytes × Peer τ) ← tryCatch
    (do
      match ← readNonce deadline p g.nonce.size [] with
      | none => return none
      | some (received, p) => return some (received, ← p.setTimeout none))
    fun f => do
      if f.isSystem then
        Act.log gateLogName .debug s!"nonce read failed: {f.text}"
        return none
      else throw f
  match answer with
  | none => return none
  | some (received, p) =>
    if ← Act.lift (g.nonce.admits received) then return some p else return none

/-- Waits for the first connection that brings the nonce. The arrivals after it are left. -/
def awaitFirst (g : Gate τ) (deadline : τ) :
    List (Arrival τ) → Act τ (Option (Peer τ × List (Arrival τ)))
  | [] => do
    let remaining := deadline - (← Act.now)
    if remaining ≤ 0 then return none
    let _ ← accept (some remaining) []
    return none
  | a :: rest => do
    let remaining := deadline - (← Act.now)
    if remaining ≤ 0 then return none
    match ← accept (some remaining) (a :: rest) with
    | none => return none
    | some p =>
      match ← g.authenticate p (deadline - (← Act.now)) with
      | some p => return some (p, rest)
      | none =>
        Act.log gateLogName .warning rejectedText
        p.close
        g.awaitFirst deadline rest

def hand (g : Gate τ) (p : Peer τ) : Act τ Unit := g.share.serve p g.root

/-- Checks a connection and hands it to the server if it brings the nonce. -/
def check (g : Gate τ) (p : Peer τ) : Act τ Unit := do
  match ← g.authenticate p g.deadline with
  | none => Act.log gateLogName .warning rejectedText
  | some p =>
    Act.log gateLogName .debug "namespace connection admitted"
    g.hand p

/-- Deals with a connection on its own thread. Whatever happens, it is closed. -/
def attend (p : Peer τ) (a : Act τ Unit) : Act τ Unit := do
  try
    tryCatch a fun _ => Act.log gateLogName .error "file-share server failed"
  finally p.close

def attendAll (g : Gate τ) : List (Arrival τ) → Act τ Unit
  | [] => do
    let _ ← accept none []
  | a :: rest => do
    match ← accept none (a :: rest) with
    | none => return
    | some p =>
      attend p (g.check p)
      g.attendAll rest

def abandonedText (g : Gate τ) : String :=
  s!"no namespace connection within {Time.text g.deadline}s; " ++
    "running without the exported namespace"

/-- Runs the gate on a listener. It tells whether any connection was admitted in time; if
none was, the listener is closed. -/
def run (g : Gate τ) (l : Listener τ) : Act τ Bool := do
  let start ← Act.now
  match ← g.awaitFirst (start + g.deadline) l.arrivals with
  | none =>
    Act.log gateLogName .warning g.abandonedText
    l.close
    return false
  | some (p, rest) =>
    Act.log gateLogName .debug s!"namespace connection admitted on {l.address}"
    attend p (g.hand p)
    g.attendAll rest
    return true

end Gate

end Tether
