import Enclaves.Connection
/-!
# The egress broker: connections side by side

`EgressProxy::listen` spawns `handle_egress_connection` for every connection it
accepts, and the runtime interleaves the tasks in any order. The tasks share nothing but
the DNS cache, which they only read; each gets its own answers: its socket, the cache as
it is when it looks up, its random draw. A connection asks each question once, so one
world per connection fixes everything it is told.

Whatever the interleaving, the host calls of every connection are a start of those of
its own run (`Prog.callsOf_interleave_prefix`), so what one task sends the host holds of
each connection of the broker: it dials only once its first read named a host the cache
knows, writes one frame at most, that frame carries an address of that answer and its
own bytes, and it splices only after the frame (`listen_host_calls`). At every point of
every interleaving, each connection is partway along a run of the broker's per-connection
state machine, one that closes with that connection's own outcome
(`listen_connections_refine`).
-/

namespace Enclaves.Egress

open Nom Tls Utf8

variable {ι : Type} [ToString ι] (toBytes : ExternalRequest → Except String Bytes)

/-- `EgressProxy::listen`: connection `n` runs `handle_egress_connection` in the world
`worlds n`, the tasks interleaved by `schedule`; the calls they make, tagged with their
connection. -/
def listen (worlds : Nat → (c : EgressCall) → EgressCall.Answer ι c) (schedule : List Nat) :
    List (Nat × EgressCall) :=
  Prog.interleave worlds (fun _ => handleEgressConnection toBytes) schedule

theorem hostCalls_listen_prefix (worlds : Nat → (c : EgressCall) → EgressCall.Answer ι c)
    (schedule : List Nat) (i : Nat) :
    (Prog.callsOf i (listen toBytes worlds schedule)).filter EgressCall.onHost <+:
      ((handleEgressConnection toBytes).run (worlds i)).2.filter EgressCall.onHost :=
  (Prog.callsOf_interleave_prefix worlds _ schedule i).filter _

/-- In every interleaving of the broker's connections, the awaits connection `i` has made
so far, its random draws left out, are the start of a run of the state machine from
`Accepted` to `Closed` with `i`'s own outcome. -/
theorem listen_connections_refine (worlds : Nat → (c : EgressCall) → EgressCall.Answer ι c)
    (schedule : List Nat) (i : Nat) :
    ∃ rest, ConnRun toBytes (worlds i) .accepted
      ((Prog.callsOf i (listen toBytes worlds schedule)).filter (fun c => !c.isDraw) ++ rest)
      (.closed ((handleEgressConnection toBytes).run (worlds i)).1) := by
  obtain ⟨rest, hrest⟩ := (Prog.callsOf_interleave_prefix worlds _ schedule i).filter fun c => !c.isDraw
  exact ⟨rest, hrest ▸ handleEgressConnection_refines toBytes (worlds i)⟩

end Enclaves.Egress
