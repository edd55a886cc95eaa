import Enclaves.Hostname
/-!
# What an egress task sends the host

`handleEgressConnection_host_side`: for every first read, every state of the DNS cache
and every index the random generator draws, an egress task dials the host's forwarder
only after its first read parsed as a ClientHello naming `h` and the cache answered `h`
with a non-empty list of addresses; the one frame it then writes is the
`ExternalRequest` of one of those addresses and of the bytes it read, and it splices
only once that frame is written.

`handleEgressConnection_looks_up_empty_name`: a ClientHello with extensions but no
usable SNI name is not refused with `NoHostnameFound`; the task looks the empty name up
in the cache.
-/

namespace Enclaves.Egress

open Nom Tls Utf8

variable {ι : Type} [ToString ι] (toBytes : ExternalRequest → Except String Bytes)
  (env : (c : EgressCall) → EgressCall.Answer ι c)

/-- The calls on the host side: dialing the forwarder, writing to it, splicing. -/
def EgressCall.onHost : EgressCall → Bool
  | .getListener | .writeAll _ | .pipeStreams => true
  | _ => false

/-- The host calls of a task that chose the address `x` for the customer data `d`: the
dial, then the frame of `x` and `d` if it could be built, then the splice once the frame
is written. -/
def SendsFrame (d : CustomerData) (x : ι) (hostCalls : List EgressCall) : Prop :=
  hostCalls = [.getListener] ∨
  ∃ frame, toBytes ⟨toString x, d.bytes⟩ = .ok frame ∧
    (hostCalls = [.getListener, .writeAll frame] ∨
     hostCalls = [.getListener, .writeAll frame, .pipeStreams] ∧ env (.writeAll frame) = .ok ())

/-- An egress task up to its hostname: a failed read, no hostname, or the forwarding of
the name its first read gives. -/
theorem run_handleEgressConnection :
    (handleEgressConnection toBytes).run env =
      match env .read with
      | .error e => (.err (.io e), [.read])
      | .ok d =>
        match getHostname d.bytes with
        | .ok (some h) =>
          (((forwardToHost toBytes d h).run env).1, .read :: ((forwardToHost toBytes d h).run env).2)
        | .ok none => (.err .noHostnameFound, [.read])
        | .err e => (.err e, [.read])
        | .panic m => (.panic m, [.read]) := by
  rcases hr : env .read with e | d
  · simp [handleEgressConnection, Prog.run_bind, hr]
  · rcases hg : getHostname d.bytes with (_ | h) | e | m <;>
      simp [handleEgressConnection, Prog.run_bind, hr, hg]

theorem forwardToHost_calls (d : CustomerData) (h : String) :
    ∃ rest, ((forwardToHost toBytes d h).run env).2 = .getIp h :: rest :=
  ⟨_, rfl⟩

/-- A forwarding task finds no address and stops, or sends the frame of one of the
addresses the cache gave; it never ends with `NoHostnameFound`. -/
theorem forwardToHost_cases (d : CustomerData) (h : String) :
    ((forwardToHost toBytes d h).run env).1 ≠ .err .noHostnameFound ∧
    (((forwardToHost toBytes d h).run env).2.filter EgressCall.onHost = [] ∨
      ∃ ips x, env (.getIp h) = some ips ∧ x ∈ ips ∧
        SendsFrame toBytes env d x (((forwardToHost toBytes d h).run env).2.filter EgressCall.onHost)) := by
  rcases hc : env (.getIp h) with _ | _ | ⟨x, xs⟩
  · simp [forwardToHost, Prog.run_bind, hc, EgressCall.onHost]
  · simp [forwardToHost, Prog.run_bind, hc, EgressCall.onHost, choose]
  have hx : (x :: xs).get (env (.genIndex xs.length)) ∈ x :: xs := List.get_mem _ _ _
  rcases hl : env .getListener with e | ⟨⟩
  · refine ⟨?_, .inr ⟨_, _, rfl, hx, .inl ?_⟩⟩ <;>
      simp [forwardToHost, Prog.run_bind, hc, choose, hl, EgressCall.onHost]
  rcases hb : toBytes ⟨toString ((x :: xs).get (env (.genIndex xs.length))), d.bytes⟩ with e | frame <;>
    simp only [List.get_eq_getElem] at hb
  · refine ⟨?_, .inr ⟨_, _, rfl, hx, .inl ?_⟩⟩ <;>
      simp [forwardToHost, Prog.run_bind, hc, choose, hl, hb, EgressCall.onHost]
  rcases hw : env (.writeAll frame) with e | ⟨⟩
  · refine ⟨?_, .inr ⟨_, _, rfl, hx, .inr ⟨frame, hb, .inl ?_⟩⟩⟩ <;>
      simp [forwardToHost, Prog.run_bind, hc, choose, hl, hb, hw, EgressCall.onHost]
  · refine ⟨?_, .inr ⟨_, _, rfl, hx, .inr ⟨frame, hb, .inr ⟨?_, hw⟩⟩⟩⟩ <;> rcases hp : env .pipeStreams with e | ⟨⟩ <;>
      simp [forwardToHost, Prog.run_bind, hc, choose, hl, hb, hw, hp, EgressCall.onHost]

/-- The host calls of an egress task are those of its forwarding, once its first read
gave a hostname; otherwise it makes none. -/
theorem handleEgressConnection_hostCalls :
    ((handleEgressConnection toBytes).run env).2.filter EgressCall.onHost = [] ∨
    ∃ d h, env .read = .ok d ∧ getHostname d.bytes = .ok (some h) ∧
      ((handleEgressConnection toBytes).run env).2.filter EgressCall.onHost =
        ((forwardToHost toBytes d h).run env).2.filter EgressCall.onHost := by
  rcases hr : env .read with e | d
  · simp [run_handleEgressConnection, hr, EgressCall.onHost]
  rcases hg : getHostname d.bytes with (_ | h) | e | m
  · simp [run_handleEgressConnection, hr, hg, EgressCall.onHost]
  · exact .inr ⟨d, h, rfl, hg, by simp [run_handleEgressConnection, hr, hg, EgressCall.onHost]⟩
  all_goals simp [run_handleEgressConnection, hr, hg, EgressCall.onHost]

/-- For every first read, cache and random draw, an egress task makes no host call at
all, or it read `d`, whose ClientHello names `h`, the cache answered `h` with addresses
`ips`, and its host calls send the frame of one `x ∈ ips` and of `d` itself: the dial,
the frame as the first and only write, and the splice once the frame is written. -/
theorem handleEgressConnection_host_side :
    ((handleEgressConnection toBytes).run env).2.filter EgressCall.onHost = [] ∨
    ∃ d h ips x, env .read = .ok d ∧ getHostname d.bytes = .ok (some h) ∧
      env (.getIp h) = some ips ∧ x ∈ ips ∧
      SendsFrame toBytes env d x (((handleEgressConnection toBytes).run env).2.filter EgressCall.onHost) := by
  rcases handleEgressConnection_hostCalls toBytes env with h0 | ⟨d, h, hr, hg, hh⟩
  · exact .inl h0
  rw [hh]
  rcases (forwardToHost_cases toBytes env d h).2 with hn | ⟨ips, x, hc, hx, hs⟩
  · exact .inl hn
  · exact .inr ⟨d, h, ips, x, hr, hg, hc, hx, hs⟩

/-- A ClientHello with an extension block but no usable SNI name gets through
`get_hostname` as the empty name: the task looks `""` up in the cache and does not end
with `NoHostnameFound`. -/
theorem handleEgressConnection_looks_up_empty_name {d : CustomerData} {r s raw : Bytes}
    {p : TlsPlaintext} {ch : TlsClientHelloContents} {exts : List TlsExtension}
    (hread : env .read = .ok d) (hp : parseTlsPlaintext d.bytes = .ok (r, p))
    (hm : p.msg.head? = some (.handshake (.clientHello ch))) (he : ch.ext = some raw)
    (hx : parseTlsExtensions raw = .ok (s, exts))
    (hn : lastUtf8Name exts = none ∨ lastUtf8Name exts = some "") :
    EgressCall.getIp "" ∈ ((handleEgressConnection toBytes).run env).2 ∧
      ((handleEgressConnection toBytes).run env).1 ≠ .err .noHostnameFound := by
  obtain ⟨rest, hrest⟩ := forwardToHost_calls toBytes env d ""
  simp only [run_handleEgressConnection, hread, getHostname_empty_of_no_sni hp hm he hx hn, hrest]
  exact ⟨by simp, (forwardToHost_cases toBytes env d "").1⟩

/-! ## Where a task can abort -/

omit [ToString ι] in
theorem choose_noPanic (ips : List ι) : (choose ips : EgressTask ι (Option ι)).NoPanic := by
  cases ips with
  | nil => exact Prog.noPanic_pure _
  | cons x xs => exact (Prog.noPanic_await _).bind fun _ => Prog.noPanic_pure _

/-- The forwarding cannot abort: the index the generator draws is always in range, and
every other step ends with `Ok` or `Err`. -/
theorem forwardToHost_noPanic (d : CustomerData) (h : String) :
    (forwardToHost toBytes d h : EgressTask ι Unit).NoPanic := by
  refine (Prog.noPanic_await _).bind fun ips => ?_
  refine (show (match ips with | some ips => choose ips | none => pure none : EgressTask ι _).NoPanic by
    cases ips with
    | some ips => exact choose_noPanic ips
    | none => exact Prog.noPanic_pure _).bind fun x => ?_
  cases x with
  | none => exact Prog.noPanic_throw _
  | some x =>
    refine (Prog.noPanic_await _).bind fun l => (Prog.noPanic_ofExcept _ l).bind fun _ => ?_
    refine (Prog.noPanic_ofExcept _ _).bind fun frame => ?_
    refine (Prog.noPanic_await _).bind fun w => (Prog.noPanic_ofExcept _ w).bind fun _ => ?_
    exact (Prog.noPanic_await _).bind fun p => Prog.noPanic_ofExcept _ p

/-- An egress task aborts only in `finish()`, on a first read that stops inside its TLS
record; whatever the cache holds and the generator draws, no other step of the task can
panic. -/
theorem handleEgressConnection_panics_iff :
    (∃ m, ((handleEgressConnection toBytes).run env).1 = .panic m) ↔
      ∃ d n, env .read = .ok d ∧ parseTlsPlaintext d.bytes = .error (.incomplete n) := by
  rw [run_handleEgressConnection]
  rcases hr : env .read with e | d
  · simp
  refine Iff.trans ?_ ((getHostname_panics_iff d.bytes).trans
    ⟨fun ⟨n, hn⟩ => ⟨d, n, rfl, hn⟩, fun ⟨_, n, hd, hn⟩ => ⟨n, by cases hd; exact hn⟩⟩)
  rcases hg : getHostname d.bytes with (_ | h) | e | m
  · simp [hg]
  · simpa [hg] using (forwardToHost_noPanic toBytes d h).run env
  all_goals simp [hg]

/-- A supported-groups extension, and an SNI extension whose one name is the byte
`0xFF`, which is not UTF-8. -/
def extensionsNoSni : Bytes := [0, 10, 0, 4, 0, 2, 0, 29, 0, 0, 0, 6, 0, 4, 0, 0, 1, 255]

/-- A TLS 1.2 record holding a ClientHello with the extension block `extensionsNoSni`. -/
def clientHelloNoSni : Bytes :=
  [22, 3, 1, 0, 65, 1, 0, 0, 61, 3, 3] ++ List.replicate 32 0 ++ [0, 0, 2, 19, 1, 1, 0, 0, 18] ++
    extensionsNoSni

/-- The customer sends `clientHelloNoSni`, the cache holds an address for the empty name,
and every other call succeeds. -/
def emptyNameWorld : (c : EgressCall) → EgressCall.Answer String c
  | .read => .ok ⟨clientHelloNoSni, by decide⟩
  | .getIp h => if h = "" then some ["10.0.0.1"] else none
  | .genIndex _ => (0 : Fin (_ + 1))
  | .getListener => .ok ()
  | .writeAll _ => .ok ()
  | .pipeStreams => .ok ()

theorem handleEgressConnection_looks_up_empty_name_without_sni :
    parseTlsExtensions extensionsNoSni = .ok ([], [.known 10 [0, 2, 0, 29], .sni [(0, [255])]]) ∧
    lastUtf8Name [.known 10 [0, 2, 0, 29], .sni [(0, [255])]] = none ∧
    EgressCall.getIp "" ∈ ((handleEgressConnection (fun _ => .ok [])).run emptyNameWorld).2 ∧
      ((handleEgressConnection (fun _ => .ok [])).run emptyNameWorld).1 ≠ .err .noHostnameFound :=
  have hx : parseTlsExtensions extensionsNoSni =
      .ok ([], [.known 10 [0, 2, 0, 29], .sni [(0, [255])]]) := by decide
  have hn : lastUtf8Name [.known 10 [0, 2, 0, 29], .sni [(0, [255])]] = none := by decide
  ⟨hx, hn, handleEgressConnection_looks_up_empty_name (fun _ => .ok []) emptyNameWorld
    (r := []) (p := ⟨⟨22, 769, 65⟩, [.handshake (.clientHello ⟨771, List.replicate 32 0, none,
      [4865], [0], some extensionsNoSni⟩)]⟩) rfl (by decide) rfl rfl hx (.inl hn)⟩

end Enclaves.Egress
