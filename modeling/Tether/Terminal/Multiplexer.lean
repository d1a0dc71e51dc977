import Tether.Terminal.Relay

/-! # The three relays of a session

Local input to the remote command, and its output and error output back. Each
relay runs as a thread of its own.
-/

namespace Tether

structure Multiplexer where
  stdin : Reader := []
  remoteOut : Reader := []
  remoteError : Reader := []
  remote : Sink := {}
  stdout : Sink := {}
  stderr : Sink := {}
  escape : Escape := {}

namespace Multiplexer

def threadNames : List String := ["cpu-stdin", "cpu-stdout", "cpu-stderr"]

def run (m : Multiplexer) : List Relay.Ending × Multiplexer :=
  let (input, stdin, remote, escape) := Relay.input m.stdin m.remote m.escape
  let (output, remoteOut, stdout) := Relay.output m.remoteOut m.stdout
  let (error, remoteError, stderr) := Relay.output m.remoteError m.stderr
  ([input, output, error], { stdin, remoteOut, remoteError, remote, stdout, stderr, escape })

def failures (endings : List Relay.Ending) : List (String × Failure) :=
  (threadNames.zip endings).filterMap fun (name, e) =>
    match e with
    | .failed f => some (name, f)
    | _ => none

end Multiplexer

end Tether
