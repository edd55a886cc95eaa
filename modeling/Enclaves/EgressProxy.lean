import Enclaves.TlsParser
import Enclaves.Utf8
/-!
# The egress broker (`dns/egressproxy.rs`)

Inside the enclave every outbound TLS connection lands on port 443. The broker reads the
customer's first bytes once, takes the SNI host name out of the ClientHello
(`get_hostname`), looks the name up in the DNS cache, picks one of the cached addresses
at random, dials the host's egress forwarder, writes one `ExternalRequest` frame, and
then splices the two streams. `handle_egress_connection` is a task whose calls are the
awaits of that function; the cache, the random generator and the streams answer them.
-/

namespace Enclaves.Egress

open Nom Tls Utf8

/-- Modelled from the spec: `crate::dns::error::DNSError` is not in the source. Its
variants are the three `egressproxy.rs` names, and the transport failures its `?`
converts (the spec's `Transport`): I/O, and the framing of the request. -/
inductive DNSError where
  | tlsParseError (msg : String)
  | noHostnameFound
  | missingIP (msg : String)
  | io (e : IoError)
  | rpc (msg : String)
  deriving DecidableEq, Repr

/-! ## `get_hostname` -/

/-- The loops of `get_hostname` over the extensions and their SNI entries: every name
that is UTF-8 overwrites `destination`. -/
def sniLoop (destination : String) : List TlsExtension → String
  | [] => destination
  | .sni sniVec :: extensions =>
    sniLoop (sniVec.foldl (fun destination entry => (fromUtf8 entry.2).getD destination) destination)
      extensions
  | _ :: extensions => sniLoop destination extensions

/-- `EgressProxy::get_hostname`. -/
def getHostname (data : Bytes) : Outcome DNSError (Option String) := do
  let (_, parsedRequest) ← (finish (parseTlsPlaintext data)).mapErr fun e => .tlsParseError e.debug
  let .handshake (.clientHello clientHello) ← Outcome.index parsedRequest.msg 0 | return none
  let some rawExtensions := clientHello.ext | return none
  let (_, extensions) ← (finish (parseTlsExtensions rawExtensions)).mapErr fun e =>
    .tlsParseError e.debug
  return some (sniLoop "" extensions)

/-! ## `handle_egress_connection` -/

/-- What one read of the customer stream gives: the first `n` bytes of the 4096-byte
`buf`. -/
structure CustomerData where
  bytes : Bytes
  length_le : bytes.length ≤ 4096
  deriving DecidableEq

/-- `shared::rpc::request::ExternalRequest`: the frame for the host's forwarder. -/
structure ExternalRequest where
  ip : String
  data : Bytes
  deriving DecidableEq, Repr

/-- The awaits of an egress task. -/
inductive EgressCall where
  /-- `external_stream.read(&mut buf)` -/
  | read
  /-- `Cache::get_ip(hostname)` -/
  | getIp (hostname : String)
  /-- the index `rand::thread_rng()` draws for `choose` on `n + 1` addresses -/
  | genIndex (n : Nat)
  /-- `Self::get_listener()`: dial the host's forwarder on port 4433 -/
  | getListener
  /-- `data_plane_stream.write_all(bytes)` -/
  | writeAll (bytes : Bytes)
  /-- `pipe_streams(external_stream, data_plane_stream)` -/
  | pipeStreams
  deriving DecidableEq, Repr

/-- What each await answers; `ι` is the type of the cached addresses. -/
def EgressCall.Answer (ι : Type) : EgressCall → Type
  | .read => Except IoError CustomerData
  | .getIp _ => Option (List ι)
  | .genIndex n => Fin (n + 1)
  | .getListener => Except IoError Unit
  | .writeAll _ => Except IoError Unit
  | .pipeStreams => Except IoError Unit

/-- An egress task returning `α`. -/
abbrev EgressTask (ι α : Type) := Prog EgressCall (EgressCall.Answer ι) DNSError α

variable {ι : Type} [ToString ι]

/-- `SliceRandom::choose`: `None` on an empty slice, else the element at a random index. -/
def choose : List ι → EgressTask ι (Option ι)
  | [] => pure none
  | x :: xs => do
    let k ← Prog.await (EgressCall.genIndex xs.length)
    pure (some ((x :: xs).get k))

variable (toBytes : ExternalRequest → Except String Bytes)

/-- `handle_egress_connection` from the cache lookup on (lines 101-125). `toBytes` is
`ExternalRequest::to_bytes`, which is not in the source. -/
def forwardToHost (customerData : CustomerData) (hostname : String) : EgressTask ι Unit := do
  let cachedIps ← Prog.await (EgressCall.getIp hostname)
  match ← (match cachedIps with | some ips => choose ips | none => pure none) with
  | some remoteIp =>
    Prog.ofExcept .io (← Prog.await EgressCall.getListener)
    let externalRequest ← Prog.ofExcept .rpc (toBytes ⟨toString remoteIp, customerData.bytes⟩)
    Prog.ofExcept .io (← Prog.await (EgressCall.writeAll externalRequest))
    Prog.ofExcept .io (← Prog.await EgressCall.pipeStreams)
  | none => Prog.throw (.missingIP ("Couldn't find cached ip for " ++ hostname))

/-- `EgressProxy::handle_egress_connection`. -/
def handleEgressConnection : EgressTask ι Unit := do
  let customerData ← Prog.ofExcept .io (← Prog.await EgressCall.read)
  let some hostname ← Prog.ret (getHostname customerData.bytes) | Prog.throw .noHostnameFound
  forwardToHost toBytes customerData hostname

end Enclaves.Egress
