import Enclaves.Task
/-!
# The ingress bridge (`control-plane/src/main.rs`)

`tcp_server` accepts TCP connections on the host and spawns one task per client: it dials
the guest process in the enclave and splices the two connections with `pipe_streams`; if
the guest cannot be reached it closes the client's connection, and `expect`s that to
succeed. The bridge itself reads and writes no byte of the client's: the splice does, and
a client's task has no await that could (`IngressCall`).
-/

namespace Enclaves.Ingress

/-- The awaits of a client's task. -/
inductive IngressCall where
  /-- `get_connection_to_guest_process()` -/
  | connectToGuest
  /-- `connection.shutdown()` -/
  | shutdown
  /-- `pipe_streams(connection, enclave_stream)` -/
  | pipeStreams
  deriving DecidableEq, Repr

/-- What each await answers; the task only logs the result of `pipe_streams`, so its
answer is left out. -/
def IngressCall.Answer : IngressCall → Type
  | .connectToGuest => Except IoError Unit
  | .shutdown => Except IoError Unit
  | .pipeStreams => Unit

/-- The task spawned for an accepted client. The panic message of `expect` ends with the
error's text. -/
def bridgeConnection : Prog IngressCall IngressCall.Answer Empty Unit := do
  match ← Prog.await IngressCall.connectToGuest with
  | .ok () => do
    let _ ← Prog.await IngressCall.pipeStreams
    pure ()
  | .error _ =>
    match ← Prog.await IngressCall.shutdown with
    | .ok () => pure ()
    | .error e => Prog.ret (.panic ("Failed to close connection to client: " ++ e.kind))

/-- `tcp_server` once bound: client `n` runs `bridgeConnection` in the world `worlds n`,
the tasks interleaved by `schedule`; the calls they make, tagged with their client. -/
def tcpServer (worlds : Nat → (c : IngressCall) → IngressCall.Answer c) (schedule : List Nat) :
    List (Nat × IngressCall) :=
  Prog.interleave worlds (fun _ => bridgeConnection) schedule

end Enclaves.Ingress
