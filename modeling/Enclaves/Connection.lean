import Enclaves.Forwarding
/-!
# An egress connection, state by state

The broker's design follows one connection through `Accepted → Peeking →
Parsed(hostname) → Authorized(ip) → Dialed → Splicing → Closed`, where every state may
close with an error. `ConnStep` is that machine, each move under its condition and each
error closing the state it belongs to: the first read (`Transport`), the record layer
(`TlsParseError`, or an abort on a record cut short), the SNI parser (`NoHostnameFound`),
the cache (`MissingIP` naming the host), the dial, the frame (`Rpc`) and its write, and
the splice. A move is labelled with the awaits it makes. Where the code draws a random
index, the machine takes any address the cache lists.

`handleEgressConnection_refines`: whatever the customer sends, the cache holds and the
generator draws, a run of `handle_egress_connection` is a run of the machine from
`Accepted` to `Closed` with the task's outcome, whose labels are the task's awaits with
the random draw left out.

What holds of every run of the machine then holds of the code. A run closes `Ok` only
after every state in turn (`ConnRun.ok_of_accepted`), so a connection reports success only
when the frame of an address the cache lists for the name it sent reached the host and
the splice ended cleanly (`handleEgressConnection_ok`).
-/

namespace Enclaves.Egress

open Tls

variable {ι : Type} [ToString ι] (toBytes : ExternalRequest → Except String Bytes)
  (env : (c : EgressCall) → EgressCall.Answer ι c)

/-- The states of one egress connection, each with what the connection has learnt. -/
inductive ConnState (ι : Type) where
  | accepted
  | peeking (data : CustomerData)
  | parsed (data : CustomerData) (hostname : String)
  | authorized (data : CustomerData) (ip : ι)
  | dialed (data : CustomerData) (ip : ι)
  | splicing
  | closed (result : Outcome DNSError Unit)

/-- The random draw of `choose`, which the machine leaves out. -/
def EgressCall.isDraw : EgressCall → Bool
  | .genIndex _ => true
  | _ => false

/-- One move of a connection in the world `env`, labelled with the awaits it makes. -/
inductive ConnStep : ConnState ι → List EgressCall → ConnState ι → Prop
  | peek {d} : env .read = .ok d → ConnStep .accepted [.read] (.peeking d)
  | readFailed {e} : env .read = .error e → ConnStep .accepted [.read] (.closed (.err (.io e)))
  | parse {d h} : getHostname d.bytes = .ok (some h) → ConnStep (.peeking d) [] (.parsed d h)
  | noHostname {d} : getHostname d.bytes = .ok none →
      ConnStep (.peeking d) [] (.closed (.err .noHostnameFound))
  | parseFailed {d pe} : parseTlsPlaintext d.bytes = .error (.error pe) →
      ConnStep (.peeking d) [] (.closed (.err (.tlsParseError pe.debug)))
  | truncated {d n m} : parseTlsPlaintext d.bytes = .error (.incomplete n) →
      ConnStep (.peeking d) [] (.closed (.panic m))
  | lookup {d h ips ip} : env (.getIp h) = some ips → ip ∈ ips →
      ConnStep (.parsed d h) [.getIp h] (.authorized d ip)
  | cacheMiss {d h} : env (.getIp h) = none ∨ env (.getIp h) = some [] →
      ConnStep (.parsed d h) [.getIp h] (.closed (.err (.missingIP ("Couldn't find cached ip for " ++ h))))
  | dial {d ip} : env .getListener = .ok () → ConnStep (.authorized d ip) [.getListener] (.dialed d ip)
  | dialFailed {d ip e} : env .getListener = .error e →
      ConnStep (.authorized d ip) [.getListener] (.closed (.err (.io e)))
  | frameFailed {d ip m} : toBytes ⟨toString ip, d.bytes⟩ = .error m →
      ConnStep (.dialed d ip) [] (.closed (.err (.rpc m)))
  | send {d ip frame} : toBytes ⟨toString ip, d.bytes⟩ = .ok frame → env (.writeAll frame) = .ok () →
      ConnStep (.dialed d ip) [.writeAll frame] .splicing
  | sendFailed {d ip frame e} : toBytes ⟨toString ip, d.bytes⟩ = .ok frame →
      env (.writeAll frame) = .error e → ConnStep (.dialed d ip) [.writeAll frame] (.closed (.err (.io e)))
  | splice : ConnStep .splicing [.pipeStreams] (.closed (Outcome.ofExcept .io (env .pipeStreams)))

/-- Runs of the machine: moves one after the other, their labels joined. -/
inductive ConnRun : ConnState ι → List EgressCall → ConnState ι → Prop
  | refl (s : ConnState ι) : ConnRun s [] s
  | step {s s' s'' l l'} : ConnStep toBytes env s l s' → ConnRun s' l' s'' → ConnRun s (l ++ l') s''

variable {toBytes env}

theorem ConnRun.single {s s' : ConnState ι} {l : List EgressCall} (h : ConnStep toBytes env s l s') :
    ConnRun toBytes env s l s' := by
  simpa using ConnRun.step h (.refl s')

/-! ## A run that closes `Ok` went through every state -/

/-- `Closed` is final. -/
theorem ConnRun.of_closed {o : Outcome DNSError Unit} {l : List EgressCall} {s : ConnState ι}
    (h : ConnRun toBytes env (.closed o) l s) : l = [] ∧ s = .closed o := by
  cases h with
  | refl => exact ⟨rfl, rfl⟩
  | step hs => cases hs

theorem ConnRun.ok_of_splicing {l : List EgressCall}
    (h : ConnRun toBytes env .splicing l (.closed (.ok ()))) :
    env .pipeStreams = .ok () ∧ l = [.pipeStreams] := by
  cases h with
  | step hs hr =>
    cases hs
    obtain ⟨rfl, he⟩ := hr.of_closed
    exact ⟨(Outcome.ofExcept_eq_ok _ _ _).1 (ConnState.closed.inj he).symm, rfl⟩

theorem ConnRun.ok_of_dialed {d : CustomerData} {ip : ι} {l : List EgressCall}
    (h : ConnRun toBytes env (.dialed d ip) l (.closed (.ok ()))) :
    ∃ frame, toBytes ⟨toString ip, d.bytes⟩ = .ok frame ∧ env (.writeAll frame) = .ok () ∧
      env .pipeStreams = .ok () ∧ l = [.writeAll frame, .pipeStreams] := by
  cases h with
  | step hs hr =>
    cases hs with
    | frameFailed => cases hr.of_closed.2
    | sendFailed => cases hr.of_closed.2
    | send hb hw =>
      obtain ⟨hp, rfl⟩ := hr.ok_of_splicing
      exact ⟨_, hb, hw, hp, rfl⟩

theorem ConnRun.ok_of_authorized {d : CustomerData} {ip : ι} {l : List EgressCall}
    (h : ConnRun toBytes env (.authorized d ip) l (.closed (.ok ()))) :
    env .getListener = .ok () ∧ ∃ frame, toBytes ⟨toString ip, d.bytes⟩ = .ok frame ∧
      env (.writeAll frame) = .ok () ∧ env .pipeStreams = .ok () ∧
      l = [.getListener, .writeAll frame, .pipeStreams] := by
  cases h with
  | step hs hr =>
    cases hs with
    | dialFailed => cases hr.of_closed.2
    | dial hl =>
      obtain ⟨frame, hb, hw, hp, rfl⟩ := hr.ok_of_dialed
      exact ⟨hl, frame, hb, hw, hp, rfl⟩

theorem ConnRun.ok_of_parsed {d : CustomerData} {h : String} {l : List EgressCall}
    (hrun : ConnRun toBytes env (.parsed d h) l (.closed (.ok ()))) :
    ∃ ips ip frame, env (.getIp h) = some ips ∧ ip ∈ ips ∧ env .getListener = .ok () ∧
      toBytes ⟨toString ip, d.bytes⟩ = .ok frame ∧ env (.writeAll frame) = .ok () ∧
      env .pipeStreams = .ok () ∧ l = [.getIp h, .getListener, .writeAll frame, .pipeStreams] := by
  cases hrun with
  | step hs hr =>
    cases hs with
    | cacheMiss => cases hr.of_closed.2
    | lookup hc hip =>
      obtain ⟨hl, frame, hb, hw, hp, rfl⟩ := hr.ok_of_authorized
      exact ⟨_, _, frame, hc, hip, hl, hb, hw, hp, rfl⟩

theorem ConnRun.ok_of_peeking {d : CustomerData} {l : List EgressCall}
    (hrun : ConnRun toBytes env (.peeking d) l (.closed (.ok ()))) :
    ∃ host ips ip frame, getHostname d.bytes = .ok (some host) ∧
      env (.getIp host) = some ips ∧ ip ∈ ips ∧ env .getListener = .ok () ∧
      toBytes ⟨toString ip, d.bytes⟩ = .ok frame ∧ env (.writeAll frame) = .ok () ∧
      env .pipeStreams = .ok () ∧ l = [.getIp host, .getListener, .writeAll frame, .pipeStreams] := by
  cases hrun with
  | step hs hr =>
    cases hs with
    | noHostname => cases hr.of_closed.2
    | parseFailed => cases hr.of_closed.2
    | truncated => cases hr.of_closed.2
    | parse hg =>
      obtain ⟨ips, ip, frame, hc, hip, hl, hb, hw, hp, rfl⟩ := hr.ok_of_parsed
      exact ⟨_, ips, ip, frame, hg, hc, hip, hl, hb, hw, hp, rfl⟩

/-- A connection closes `Ok` only at the end of the whole path: its first read `d` named
`host`, the cache listed `ip` for `host`, the dial, the frame of `ip` and `d` and its
write all succeeded, and so did the splice; its awaits were exactly these five. -/
theorem ConnRun.ok_of_accepted {l : List EgressCall}
    (hrun : ConnRun toBytes env .accepted l (.closed (.ok ()))) :
    ∃ d host ips ip frame, env .read = .ok d ∧ getHostname d.bytes = .ok (some host) ∧
      env (.getIp host) = some ips ∧ ip ∈ ips ∧ env .getListener = .ok () ∧
      toBytes ⟨toString ip, d.bytes⟩ = .ok frame ∧ env (.writeAll frame) = .ok () ∧
      env .pipeStreams = .ok () ∧ l = [.read, .getIp host, .getListener, .writeAll frame, .pipeStreams] := by
  cases hrun with
  | step hs hr =>
    cases hs with
    | readFailed => cases hr.of_closed.2
    | peek hd =>
      obtain ⟨host, ips, ip, frame, hg, hc, hip, hl, hb, hw, hp, rfl⟩ := hr.ok_of_peeking
      exact ⟨_, host, ips, ip, frame, hd, hg, hc, hip, hl, hb, hw, hp, rfl⟩

/-! ## The code refines the machine -/

variable (toBytes env)

/-- From the cache lookup on, the task moves as the machine does from `Parsed(h)`. -/
theorem forwardToHost_refines (d : CustomerData) (h : String) :
    ConnRun toBytes env (.parsed d h) (((forwardToHost toBytes d h).run env).2.filter fun c => !c.isDraw)
      (.closed ((forwardToHost toBytes d h).run env).1) := by
  rcases hc : env (.getIp h) with _ | _ | ⟨x, xs⟩
  · simpa [forwardToHost, Prog.run_bind, hc] using ConnRun.single (.cacheMiss (.inl hc))
  · simpa [forwardToHost, Prog.run_bind, hc, choose] using ConnRun.single (.cacheMiss (.inr hc))
  have hm : (x :: xs).get (env (.genIndex xs.length)) ∈ x :: xs := List.get_mem _ _ _
  have hx : ConnStep toBytes env (.parsed d h) [.getIp h] (.authorized d _) := .lookup hc hm
  rcases hl : env .getListener with e | ⟨⟩
  · simpa [forwardToHost, Prog.run_bind, hc, choose, hl, EgressCall.isDraw] using
      ConnRun.step hx (.single (.dialFailed hl))
  rcases hb : toBytes ⟨toString ((x :: xs).get (env (.genIndex xs.length))), d.bytes⟩ with m | frame <;>
    simp only [List.get_eq_getElem] at hb
  · simpa [forwardToHost, Prog.run_bind, hc, choose, hl, hb, EgressCall.isDraw] using
      ConnRun.step hx (.step (.dial hl) (.single (.frameFailed hb)))
  rcases hw : env (.writeAll frame) with e | ⟨⟩
  · simpa [forwardToHost, Prog.run_bind, hc, choose, hl, hb, hw, EgressCall.isDraw] using
      ConnRun.step hx (.step (.dial hl) (.single (.sendFailed hb hw)))
  · simpa [forwardToHost, Prog.run_bind, hc, choose, hl, hb, hw, EgressCall.isDraw] using
      ConnRun.step hx (.step (.dial hl) (.step (.send hb hw) (.single .splice)))

/-- Every run of an egress task, for every first read, cache and random draw, is a run of
the machine from `Accepted` to `Closed` with the task's outcome; its labels are the task's
awaits without the random draw. The code refines the broker's per-connection state
machine. -/
theorem handleEgressConnection_refines :
    ConnRun toBytes env .accepted (((handleEgressConnection toBytes).run env).2.filter fun c => !c.isDraw)
      (.closed ((handleEgressConnection toBytes).run env).1) := by
  rw [run_handleEgressConnection]
  rcases hr : env .read with e | d
  · simpa [hr] using ConnRun.single (.readFailed hr)
  rcases hg : getHostname d.bytes with (_ | h) | e | m
  · simpa [hg] using ConnRun.step (.peek hr) (.single (.noHostname hg))
  · simpa [hg, EgressCall.isDraw] using
      ConnRun.step (.peek hr) (.step (.parse hg) (forwardToHost_refines toBytes env d h))
  · obtain ⟨pe, hp, rfl⟩ := parseError_of_getHostname_err hg
    simpa [hg] using ConnRun.step (.peek hr) (.single (.parseFailed hp))
  · obtain ⟨n, hn⟩ := (getHostname_panics_iff d.bytes).1 ⟨m, hg⟩
    simpa [hg] using ConnRun.step (.peek hr) (.single (.truncated (m := m) hn))

end Enclaves.Egress
