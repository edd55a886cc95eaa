import Enclaves.CryptoApi
/-!
# The crypto API server: requests side by side

`CryptoApi::listen` serves every request hyper hands it with a `CryptoApi` of its own
(`CryptoApi::new()` in the service closure), so each request has its own E3 client and
opens its own connection to E3; hyper runs the requests side by side. The requests share
no state in the enclave; the tenant context, E3 and the platform answer each request in
its own world.

Whatever the interleaving, a request's calls are the start of its own run
(`Prog.callsOf_interleave`), so what `api` does for one request holds of each request of
the server: an E3 request sent on behalf of request `i` carries `i`'s own route, `api-key`
header and JSON body, and by then `i` has made no other call than the tenant context and
the connection opened for that E3 request (`listen_e3_requests`).
-/

namespace Enclaves.Crypto

open E3

variable (serde : Serde)

/-- `CryptoApi::listen`: request `n` is `requests n`, served by `api` in the world
`worlds n`, the requests interleaved by `schedule`; the calls they make, tagged with their
request. -/
def listen (enclave : Bool) (requests : Nat → Request)
    (worlds : Nat → (c : ApiCall) → ApiCall.Answer c) (schedule : List Nat) : List (Nat × ApiCall) :=
  Prog.interleave worlds (fun n => api serde enclave (requests n)) schedule

/-- However the server's requests are interleaved, an E3 request made on behalf of request
`i` is `i`'s own: it comes from `POST /encrypt` or `POST /decrypt` of `i`, goes to that
path with `i`'s `api-key` header, and its body prints `i`'s JSON with the tenant's context.
Request `i` has then made exactly the tenant read, the socket, the TLS session with
`e3ServerName`, the handshake and that request. No request's key or body is sent on
another's behalf. -/
theorem listen_e3_requests (enclave : Bool) (requests : Nat → Request)
    (worlds : Nat → (c : ApiCall) → ApiCall.Answer c) (schedule : List Nat) (i : Nat) (r : E3Request)
    (hr : ApiCall.e3 (.sendRequest r) ∈ Prog.callsOf i (listen serde enclave requests worlds schedule)) :
    (requests i).method = "POST" ∧ ((requests i).path = "/encrypt" ∨ (requests i).path = "/decrypt") ∧
    r.uri = uri (requests i).path ∧ removeHeader "api-key" (requests i).headers = some r.apiKey ∧
    (∃ ctx bytes body, worlds i .cageContext = .ok ctx ∧ (requests i).body = .ok bytes ∧
      serde.fromSlice bytes = .ok body ∧ serde.toVec (E3Payload.toValue ⟨some body, ctx⟩) = .ok r.body) ∧
    Prog.callsOf i (listen serde enclave requests worlds schedule) =
      [.cageContext, .e3 .getSocket, .e3 (.tlsConnect e3ServerName), .e3 .handshake, .e3 (.sendRequest r)] := by
  rw [listen, Prog.callsOf_interleave] at hr ⊢
  obtain ⟨⟨hm, hp, hu, -, ctx, bytes, body, hctx, hkey, hb, hj, hv⟩, -, -, -, hcalls⟩ :=
    api_sendRequest serde (worlds i) enclave (requests i) r (List.mem_of_mem_take hr)
  refine ⟨hm, hp, hu, hkey, ⟨ctx, bytes, body, hctx, hb, hj, hv⟩, ?_⟩
  rw [hcalls] at hr ⊢
  have hk : 5 ≤ schedule.count i := by
    generalize schedule.count i = k at hr
    rcases k with _ | _ | _ | _ | _ | k <;> simp at hr ⊢
  exact List.take_of_length_le (by simpa using hk)

theorem listen_e3_requests_interleaved :
    ApiCall.e3 (.sendRequest keyedE3Request) ∈ Prog.callsOf 0
        (listen jsonSerde false (fun _ => keyedEncrypt) (fun _ => tenantWorld) [1, 0, 1, 0, 1, 0, 1, 0, 1, 0]) ∧
      removeHeader "api-key" keyedEncrypt.headers = some keyedE3Request.apiKey :=
  have h : ApiCall.e3 (.sendRequest keyedE3Request) ∈ Prog.callsOf 0
      (listen jsonSerde false (fun _ => keyedEncrypt) (fun _ => tenantWorld) [1, 0, 1, 0, 1, 0, 1, 0, 1, 0]) := by
    rw [listen, Prog.callsOf_interleave]
    exact .tail _ <| .tail _ <| .tail _ <| .tail _ <| .head _
  ⟨h, (listen_e3_requests jsonSerde false _ _ _ 0 _ h).2.2.2.1⟩

end Enclaves.Crypto
