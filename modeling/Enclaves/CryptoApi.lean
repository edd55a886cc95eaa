import Enclaves.E3Client
/-!
# The crypto API (`crypto/api.rs`)

The in-enclave HTTP facade on `127.0.0.1:9999`: `POST /encrypt` and `POST /decrypt`
take the `api-key` header and a JSON body, wrap the body with the tenant's context and
pass it to E3; `GET /attestation-doc` asks the platform for an attestation document;
every other request gets a 404. `CryptoApi::api` passes every handler's error on with
`?`, so a failure reaches hyper as the service's `Err`, which drops the connection: no
error becomes a 4xx or 5xx response, and which error a crypto request gets depends first
on the tenant context, which `build_request` reads before the key (`api_outcomes`). Only
an attestation request whose JSON is not an `AttestationRequest` panics the task
(`api_panics_iff`). What E3 is sent is the caller's key, route and JSON, with the tenant's
context (`api_e3_request`), on a connection opened for that request alone, once its TLS
session with E3's name is up (`api_e3_fresh_connection`); a 200 from a crypto route
carries what E3 answered with a 2xx status (`api_crypto_ok`).
-/

namespace Enclaves.Crypto

open E3

/-- A `std::env::VarError`, only passed on. -/
structure VarError where
  msg : String
  deriving DecidableEq, Repr

/-- An `attest::AttestationError`, only passed on. -/
structure AttestationError where
  msg : String
  deriving DecidableEq, Repr

/-- `CryptoApiError`; `Attestation` exists with the `enclave` feature only. -/
inductive CryptoApiError where
  | missingApiKey
  | missingCageContext (e : VarError)
  | serdeError (e : SerdeError)
  | hyperError (e : HyperError)
  | e3Error (e : E3Error)
  | attestation (e : AttestationError)
  deriving DecidableEq, Repr

/-- A request to the API: method, path, headers (lower-case names, as `HeaderMap` keeps
them) and what reading the body to the end gives. -/
structure Request where
  method : String
  path : String
  headers : List (String × HeaderValue)
  body : Except HyperError Bytes

/-- A response: status and body. -/
structure Response where
  status : Nat
  body : Bytes
  deriving DecidableEq, Repr

/-- `AttestationRequest`. -/
structure AttestationRequest where
  nonce : Option String
  challenge : Option String

/-- What `serde_json` does here, outside the spec: read a body as a JSON value, print a
value, read the E3 answer, and read an attestation request from a value. -/
structure Serde where
  fromSlice : Bytes → Except SerdeError Value
  toVec : Value → Except SerdeError Bytes
  fromSliceResponse : Bytes → Except SerdeError CryptoResponse
  fromValue : Value → Except SerdeError AttestationRequest

/-- The awaits of an API request: the tenant context, the E3 client's own, and the
platform's attestation primitive. -/
inductive ApiCall where
  /-- `CageContext::new()`: read the tenant context from the environment -/
  | cageContext
  /-- a call of the E3 client -/
  | e3 (c : E3Call)
  /-- `attest::get_attestation_doc(challenge, nonce)` -/
  | getAttestationDoc (challenge nonce : Option Bytes)

/-- What each await answers. -/
def ApiCall.Answer : ApiCall → Type
  | .cageContext => Except VarError CageContext
  | .e3 c => E3Call.Answer c
  | .getAttestationDoc _ _ => Except AttestationError Bytes

/-- An API task returning `α`. -/
abbrev ApiTask (ε α : Type) := Prog ApiCall ApiCall.Answer ε α

/-- An E3 call made from the API. -/
def liftE3 {α : Type} : E3Task α → ApiTask E3Error α
  | .ret o => .ret o
  | .call c k => .call (.e3 c) fun a => liftE3 (k a)

/-- `HeaderMap::remove`: the first value under `name`. -/
def removeHeader (name : String) (headers : List (String × HeaderValue)) : Option HeaderValue :=
  (headers.find? (·.1 == name)).map (·.2)

/-- `s.as_bytes()`. -/
def stringBytes (s : String) : Bytes := s.toUTF8.data.toList

variable (serde : Serde)

/-- `CryptoApi::build_request`: the tenant context first, then the `api-key` header,
then the body as JSON. -/
def buildRequest (req : Request) : ApiTask CryptoApiError (HeaderValue × E3Payload) := do
  let cageContext ← Prog.ofExcept .missingCageContext (← Prog.await ApiCall.cageContext)
  let some apiKey := removeHeader "api-key" req.headers | Prog.throw .missingApiKey
  let bytes ← Prog.ofExcept .hyperError req.body
  let body ← Prog.ofExcept .serdeError (serde.fromSlice bytes)
  pure (apiKey, ⟨some body, cageContext⟩)

/-- `CryptoApi::encrypt` and `CryptoApi::decrypt`, which differ in the E3 call only. -/
def cryptoHandler (e3Call : Bytes → E3Payload → E3Task CryptoResponse) (req : Request) :
    ApiTask CryptoApiError Bytes := do
  let (apiKey, payload) ← buildRequest serde req
  let e3Response ← (liftE3 (e3Call apiKey.bytes payload)).mapErr .e3Error
  Prog.ofExcept .serdeError (serde.toVec e3Response.data)

/-- `CryptoApi::encrypt`. -/
def encrypt (req : Request) : ApiTask CryptoApiError Bytes :=
  cryptoHandler serde (E3.encrypt serde.toVec serde.fromSliceResponse) req

/-- `CryptoApi::decrypt`. -/
def decrypt (req : Request) : ApiTask CryptoApiError Bytes :=
  cryptoHandler serde (E3.decrypt serde.toVec serde.fromSliceResponse) req

/-- `CryptoApi::get_attestation_doc`, with the `enclave` feature or without it. -/
def getAttestationDoc (enclave : Bool) (req : Request) : ApiTask CryptoApiError Bytes :=
  if enclave then do
    let bytes ← Prog.ofExcept .hyperError req.body
    let body ← Prog.ofExcept .serdeError (serde.fromSlice bytes)
    let adRequest ← match serde.fromValue body with
      | .ok adRequest => pure adRequest
      | .error e => Prog.ret (.panic ("called `Result::unwrap()` on an `Err` value: " ++ e.msg))
    let challenge := adRequest.challenge.map stringBytes
    let nonce := adRequest.nonce.map stringBytes
    Prog.ofExcept .attestation (← Prog.await (ApiCall.getAttestationDoc challenge nonce))
  else pure (stringBytes "No attestation available outside enclave")

/-- `CryptoApi::api`: a 200 response carrying the handler's body, a 404 for any other
route, and every handler error passed on. -/
def api (enclave : Bool) (req : Request) : ApiTask CryptoApiError Response := do
  let response : Response := ⟨200, []⟩
  match req.method, req.path with
  | "POST", "/encrypt" => return { response with body := ← encrypt serde req }
  | "POST", "/decrypt" => return { response with body := ← decrypt serde req }
  | "GET", "/attestation-doc" => return { response with body := ← getAttestationDoc serde enclave req }
  | _, _ => return { response with status := 404 }

/-- The requests `api` hands to a handler. -/
def routed (req : Request) : Bool :=
  match req.method, req.path with
  | "POST", "/encrypt" | "POST", "/decrypt" | "GET", "/attestation-doc" => true
  | _, _ => false

/-! ## What a handler does -/

variable (env : (c : ApiCall) → ApiCall.Answer c)

/-- A handler's run as `api` answers it: 200 with the handler's body. -/
def respondRun (x : ApiTask CryptoApiError Bytes) : Outcome CryptoApiError Response × List ApiCall :=
  ((x.run env).1 >>= fun b => pure ⟨200, b⟩, (x.run env).2)

/-! ## What the handlers call -/

theorem run_liftE3 {α : Type} (x : E3Task α) :
    (liftE3 x).run env =
      ((x.run fun c => env (.e3 c)).1, ((x.run fun c => env (.e3 c)).2).map .e3) := by
  induction x with
  | ret o => rfl
  | call c k ih => simp [liftE3, ih]

/-- `build_request` awaits the tenant context and nothing else. -/
theorem buildRequest_calls (req : Request) :
    ((buildRequest serde req).run env).2 = [.cageContext] := by
  rcases hc : env .cageContext with e | ctx
  · simp [buildRequest, hc]
  rcases hk : removeHeader "api-key" req.headers with _ | key
  · simp [buildRequest, hc, hk]
  rcases hb : req.body with e | bytes
  · simp [buildRequest, hc, hk, hb]
  simp only [buildRequest, hc, hk, hb, Prog.bind_eq, Prog.call_bind, Prog.await_bind, Prog.run_call,
    Prog.ofExcept_bind]
  split <;> rfl

/-- Without the tenant context `build_request` fails at once, whatever the request. -/
theorem buildRequest_no_context (req : Request) (e : VarError) (hc : env .cageContext = .error e) :
    ((buildRequest serde req).run env).1 = .err (.missingCageContext e) := by
  simp [buildRequest, hc]

theorem buildRequest_no_key (req : Request) (ctx : CageContext) (hc : env .cageContext = .ok ctx)
    (hk : removeHeader "api-key" req.headers = none) :
    ((buildRequest serde req).run env).1 = .err .missingApiKey := by
  simp [buildRequest, hc, hk]

theorem buildRequest_bad_json (req : Request) (ctx : CageContext) (key : HeaderValue)
    (bytes : Bytes) (e : SerdeError) (hc : env .cageContext = .ok ctx)
    (hk : removeHeader "api-key" req.headers = some key) (hb : req.body = .ok bytes)
    (hj : serde.fromSlice bytes = .error e) :
    ((buildRequest serde req).run env).1 = .err (.serdeError e) := by
  simp [buildRequest, hc, hk, hb, hj]

/-- What a request `build_request` accepts gives: its key, and its JSON body with the
tenant context. -/
theorem buildRequest_ok (req : Request) (key : HeaderValue) (payload : E3Payload)
    (h : ((buildRequest serde req).run env).1 = .ok (key, payload)) :
    ∃ ctx bytes body, env .cageContext = .ok ctx ∧ removeHeader "api-key" req.headers = some key ∧
      req.body = .ok bytes ∧ serde.fromSlice bytes = .ok body ∧ payload = ⟨some body, ctx⟩ := by
  rcases hc : env .cageContext with e | ctx
  · simp [buildRequest, hc] at h
  rcases hk : removeHeader "api-key" req.headers with _ | key'
  · simp [buildRequest, hc, hk] at h
  rcases hb : req.body with e | bytes
  · simp [buildRequest, hc, hk, hb] at h
  rcases hj : serde.fromSlice bytes with e | body
  · simp [buildRequest, hc, hk, hb, hj] at h
  simp [buildRequest, hc, hk, hb, hj] at h
  exact ⟨ctx, bytes, body, rfl, by rw [h.1], rfl, hj, h.2.symm⟩

theorem run_cryptoHandler_of_err (e3Call : Bytes → E3Payload → E3Task CryptoResponse)
    (req : Request) (e : CryptoApiError) (h : ((buildRequest serde req).run env).1 = .err e) :
    (cryptoHandler serde e3Call req).run env = (.err e, [.cageContext]) := by
  simp [cryptoHandler, Prog.run_bind, h, buildRequest_calls]

/-- Every E3 call of a handler is a call of its E3 client call, made with what
`build_request` gave. -/
theorem cryptoHandler_e3_call (e3Call : Bytes → E3Payload → E3Task CryptoResponse) (req : Request)
    (c : E3Call) (hc : ApiCall.e3 c ∈ ((cryptoHandler serde e3Call req).run env).2) :
    ∃ apiKey payload, ((buildRequest serde req).run env).1 = .ok (apiKey, payload) ∧
      c ∈ ((e3Call apiKey.bytes payload).run fun c => env (.e3 c)).2 := by
  simp only [cryptoHandler, Prog.bind_eq, Prog.run_bind, buildRequest_calls] at hc
  rcases hb : ((buildRequest serde req).run env).1 with ⟨apiKey, payload⟩ | e | m <;>
    simp only [hb] at hc
  · refine ⟨apiKey, payload, rfl, ?_⟩
    simp only [Prog.run_bind, Prog.run_mapErr, run_liftE3] at hc
    generalize (e3Call apiKey.bytes payload).run (fun c => env (.e3 c)) = R at hc ⊢
    obtain ⟨o, cs⟩ := R
    cases o <;> simp_all
  all_goals simp at hc

/-- The calls of a handler whose request `build_request` accepted: the tenant context,
then those of its E3 call. -/
theorem cryptoHandler_calls (e3Call : Bytes → E3Payload → E3Task CryptoResponse) (req : Request)
    (apiKey : HeaderValue) (payload : E3Payload)
    (hb : ((buildRequest serde req).run env).1 = .ok (apiKey, payload)) :
    ((cryptoHandler serde e3Call req).run env).2 =
      .cageContext :: (((e3Call apiKey.bytes payload).run fun c => env (.e3 c)).2.map .e3) := by
  simp only [cryptoHandler, Prog.bind_eq, Prog.run_bind, hb, buildRequest_calls, Prog.run_mapErr, run_liftE3]
  split <;> simp

/-- A handler whose E3 call fails on a status outside 2xx fails with it, wrapped in
`E3Error`. -/
theorem cryptoHandler_failed (e3Call : Bytes → E3Payload → E3Task CryptoResponse)
    (he3 : ∀ apiKey payload req resp,
      E3Call.sendRequest req ∈ ((e3Call apiKey payload).run fun c => env (.e3 c)).2 →
      env (.e3 (.sendRequest req)) = .ok resp → isSuccess resp.status = false →
      ((e3Call apiKey payload).run fun c => env (.e3 c)).1 = .err (.failedRequest resp.status))
    (req : Request) (r : E3Request) (resp : E3.Response)
    (hreq : ApiCall.e3 (.sendRequest r) ∈ ((cryptoHandler serde e3Call req).run env).2)
    (hresp : env (.e3 (.sendRequest r)) = .ok resp) (hs : isSuccess resp.status = false) :
    ((cryptoHandler serde e3Call req).run env).1 = .err (.e3Error (.failedRequest resp.status)) := by
  obtain ⟨apiKey, payload, hb, hc⟩ := cryptoHandler_e3_call serde env e3Call req _ hreq
  have key := he3 apiKey.bytes payload r resp hc hresp hs
  simp [cryptoHandler, Prog.run_bind, hb, Prog.run_mapErr, run_liftE3, key]

/-- A handler that returns a body got it by printing the data of what its E3 call
returned, the call made with what `build_request` gave. -/
theorem cryptoHandler_ok (e3Call : Bytes → E3Payload → E3Task CryptoResponse) (req : Request)
    (body : Bytes) (h : ((cryptoHandler serde e3Call req).run env).1 = .ok body) :
    ∃ apiKey payload cr, ((buildRequest serde req).run env).1 = .ok (apiKey, payload) ∧
      ((e3Call apiKey.bytes payload).run fun c => env (.e3 c)).1 = .ok cr ∧
      (∀ c ∈ ((e3Call apiKey.bytes payload).run fun c => env (.e3 c)).2,
        ApiCall.e3 c ∈ ((cryptoHandler serde e3Call req).run env).2) ∧
      serde.toVec cr.data = .ok body := by
  simp only [cryptoHandler, Prog.bind_eq] at h ⊢
  obtain ⟨⟨apiKey, payload⟩, hb, h1, hc1⟩ := Prog.run_bind_ok env h
  obtain ⟨cr, he, h2, hc2⟩ := Prog.run_bind_ok env h1
  rw [Prog.run_mapErr, run_liftE3] at he hc2
  refine ⟨apiKey, payload, cr, hb, ?_, fun c hc => ?_, by simpa using h2⟩
  · cases hx : ((e3Call apiKey.bytes payload).run fun c => env (.e3 c)).1 <;> simp_all
  · rw [hc1, hc2]
    simp [hc]

/-- The attestation handler with the `enclave` feature: it reads the body as JSON, then as
an `AttestationRequest`, which it `unwrap`s, and asks the platform for a document on the
request's challenge and nonce bytes. -/
theorem run_getAttestationDoc (req : Request) :
    (getAttestationDoc serde true req).run env =
      match req.body with
      | .error e => (.err (.hyperError e), [])
      | .ok bytes =>
        match serde.fromSlice bytes with
        | .error e => (.err (.serdeError e), [])
        | .ok body =>
          match serde.fromValue body with
          | .error e => (.panic ("called `Result::unwrap()` on an `Err` value: " ++ e.msg), [])
          | .ok ad =>
            (Outcome.ofExcept .attestation
                (env (.getAttestationDoc (ad.challenge.map stringBytes) (ad.nonce.map stringBytes))),
              [.getAttestationDoc (ad.challenge.map stringBytes) (ad.nonce.map stringBytes)]) := by
  rcases hb : req.body with e | bytes
  · simp [getAttestationDoc, hb]
  rcases hj : serde.fromSlice bytes with e | body
  · simp [getAttestationDoc, hb, hj]
  rcases hv : serde.fromValue body with e | ad <;> simp [getAttestationDoc, hb, hj, hv, Prog.run_bind]

/-- The attestation handler panics exactly on a JSON body that is not an
`AttestationRequest`. -/
theorem getAttestationDoc_panics_iff (req : Request) (m : String) :
    ((getAttestationDoc serde true req).run env).1 = .panic m ↔
      ∃ bytes body e, req.body = .ok bytes ∧ serde.fromSlice bytes = .ok body ∧
        serde.fromValue body = .error e ∧ m = "called `Result::unwrap()` on an `Err` value: " ++ e.msg := by
  rw [run_getAttestationDoc]
  rcases hb : req.body with e | bytes
  · simp
  rcases hj : serde.fromSlice bytes with e | body
  · simp [hj]
  rcases hv : serde.fromValue body with e | ad
  · simp [hj, hv, eq_comm]
  · rcases ha : env (.getAttestationDoc (ad.challenge.map stringBytes) (ad.nonce.map stringBytes)) <;>
      simp [hj, hv, ha]

theorem getAttestationDoc_no_e3 (enclave : Bool) (req : Request) (c : E3Call) :
    ApiCall.e3 c ∉ ((getAttestationDoc serde enclave req).run env).2 := by
  cases enclave
  · simp [getAttestationDoc]
  rw [run_getAttestationDoc]
  repeat' split
  all_goals simp

/-! ## The routes -/

theorem run_respond (x : ApiTask CryptoApiError Bytes) :
    (do return { (⟨200, []⟩ : Response) with body := ← x } : ApiTask CryptoApiError Response).run env =
      respondRun env x := by
  simp only [respondRun, Prog.bind_eq, Prog.run_bind, Prog.pure_eq, Prog.run_ret]
  split <;> simp_all

/-- A handler answered through `api` answers 200 with the body it returned. -/
theorem respondRun_eq_ok (x : ApiTask CryptoApiError Bytes) (resp : Response)
    (h : (respondRun env x).1 = .ok resp) : ∃ b, (x.run env).1 = .ok b ∧ resp = ⟨200, b⟩ := by
  simp only [respondRun] at h
  cases hx : (x.run env).1 <;> simp [hx] at h
  exact ⟨_, rfl, h.symm⟩

theorem respondRun_eq_panic (x : ApiTask CryptoApiError Bytes) (m : String) :
    (respondRun env x).1 = .panic m ↔ (x.run env).1 = .panic m := by
  simp only [respondRun]
  cases (x.run env).1 <;> simp

theorem respondRun_eq_err (x : ApiTask CryptoApiError Bytes) (e : CryptoApiError) :
    (respondRun env x).1 = .err e ↔ (x.run env).1 = .err e := by
  simp only [respondRun]
  cases (x.run env).1 <;> simp

theorem respondRun_of_err (x : ApiTask CryptoApiError Bytes) (e : CryptoApiError)
    (h : (x.run env).1 = .err e) : respondRun env x = (.err e, (x.run env).2) := by
  simp [respondRun, h]

/-- Every request takes one of `api`'s three ways: a crypto handler or the attestation
handler, both answered 200 with the handler's body, or the 404. -/
theorem run_api_cases (enclave : Bool) (req : Request) :
    (req.method = "POST" ∧ (req.path = "/encrypt" ∨ req.path = "/decrypt") ∧
      (api serde enclave req).run env =
        respondRun env (cryptoHandler serde (E3.cryptoCall serde.toVec serde.fromSliceResponse req.path) req)) ∨
    (req.method = "GET" ∧ req.path = "/attestation-doc" ∧
      (api serde enclave req).run env = respondRun env (getAttestationDoc serde enclave req)) ∨
    (routed req = false ∧ (api serde enclave req).run env = (.ok ⟨404, []⟩, [])) := by
  unfold api routed
  split
  next hm hp => exact .inl ⟨hm, .inl hp, by rw [hp]; exact run_respond env _⟩
  next hm hp => exact .inl ⟨hm, .inr hp, by rw [hp]; exact run_respond env _⟩
  next hm hp => exact .inr (.inl ⟨hm, hp, run_respond env _⟩)
  next => exact .inr (.inr ⟨rfl, rfl⟩)

theorem api_crypto_route (enclave : Bool) (req : Request) (hm : req.method = "POST")
    (hp : req.path = "/encrypt" ∨ req.path = "/decrypt") :
    (api serde enclave req).run env =
      respondRun env (cryptoHandler serde (E3.cryptoCall serde.toVec serde.fromSliceResponse req.path) req) := by
  rcases run_api_cases serde env enclave req with ⟨-, -, h⟩ | ⟨hm', -, -⟩ | ⟨hr, -⟩
  · exact h
  · simp_all
  · rcases hp with hp | hp <;> simp [routed, hm, hp] at hr

theorem api_attestation_route (enclave : Bool) (req : Request) (hm : req.method = "GET")
    (hp : req.path = "/attestation-doc") :
    (api serde enclave req).run env = respondRun env (getAttestationDoc serde enclave req) := by
  rcases run_api_cases serde env enclave req with ⟨hm', -, -⟩ | ⟨-, -, h⟩ | ⟨hr, -⟩
  · simp_all
  · exact h
  · simp [routed, hm, hp] at hr

theorem api_unrouted (enclave : Bool) (req : Request) (h : routed req = false) :
    (api serde enclave req).run env = (.ok ⟨404, []⟩, []) := by
  rcases run_api_cases serde env enclave req with ⟨hm, hp | hp, -⟩ | ⟨hm, hp, -⟩ | ⟨-, h'⟩
  all_goals simp_all [routed]

theorem api_ok_status (enclave : Bool) (req : Request) (resp : Response)
    (h : ((api serde enclave req).run env).1 = .ok resp) :
    resp.status = 200 ∨ routed req = false ∧ resp.status = 404 := by
  rcases run_api_cases serde env enclave req with ⟨-, -, h'⟩ | ⟨-, -, h'⟩ | ⟨hr, h'⟩ <;>
    rw [h'] at h
  · obtain ⟨b, -, rfl⟩ := respondRun_eq_ok env _ resp h
    exact .inl rfl
  · obtain ⟨b, -, rfl⟩ := respondRun_eq_ok env _ resp h
    exact .inl rfl
  · cases h
    exact .inr ⟨hr, rfl⟩

/-- A crypto request that `build_request` turns down fails with its error, having read
only the tenant context. -/
theorem api_of_buildRequest_err (enclave : Bool) (req : Request) (hm : req.method = "POST")
    (hp : req.path = "/encrypt" ∨ req.path = "/decrypt") (e : CryptoApiError)
    (h : ((buildRequest serde req).run env).1 = .err e) :
    (api serde enclave req).run env = (.err e, [.cageContext]) := by
  simp [api_crypto_route serde env enclave req hm hp, respondRun, run_cryptoHandler_of_err serde env _ req _ h]

theorem api_failed_request (enclave : Bool) (req : Request) (r : E3Request) (resp : E3.Response)
    (hreq : ApiCall.e3 (.sendRequest r) ∈ ((api serde enclave req).run env).2)
    (hresp : env (.e3 (.sendRequest r)) = .ok resp) (hs : isSuccess resp.status = false) :
    ((api serde enclave req).run env).1 = .err (.e3Error (.failedRequest resp.status)) := by
  rcases run_api_cases serde env enclave req with ⟨-, -, h⟩ | ⟨-, -, h⟩ | ⟨-, h⟩ <;>
    rw [h] at hreq ⊢
  · rw [respondRun_of_err env _ _ (cryptoHandler_failed serde env _
      (fun apiKey payload => E3.cryptoCall_failed _ serde.toVec serde.fromSliceResponse req.path apiKey payload)
      req r resp hreq hresp hs)]
  · exact absurd hreq (getAttestationDoc_no_e3 serde env enclave req _)
  · simp at hreq

/-! ## Where a request can abort -/

theorem liftE3_noPanic {α : Type} {x : E3Task α} (hx : x.NoPanic) : (liftE3 x).NoPanic := by
  induction hx with
  | ret h => exact .ret h
  | call _ ih => exact .call ih

theorem buildRequest_noPanic (req : Request) : (buildRequest serde req).NoPanic := by
  refine (Prog.noPanic_await _).bind fun a => (Prog.noPanic_ofExcept _ a).bind fun ctx => ?_
  split
  · exact (Prog.noPanic_ofExcept _ _).bind fun _ => (Prog.noPanic_ofExcept _ _).bind fun _ =>
      Prog.noPanic_pure _
  · exact Prog.noPanic_throw _

/-- The crypto handlers cannot abort: `build_request` gives the E3 client a key that is
already a header value. -/
theorem cryptoHandler_noPanic (path : String) (req : Request) :
    (cryptoHandler serde (E3.cryptoCall serde.toVec serde.fromSliceResponse path) req).NoPanic :=
  (buildRequest_noPanic serde req).bind fun ⟨key, payload⟩ =>
    ((liftE3_noPanic (cryptoCall_noPanic _ _ path key payload)).mapErr _).bind fun _ =>
      Prog.noPanic_ofExcept _ _

/-- Only the attestation route with the `enclave` feature can abort a request: the
crypto routes cannot, nor can a 404 or the attestation route without the feature. -/
theorem api_panic_route (enclave : Bool) (req : Request) (m : String)
    (h : ((api serde enclave req).run env).1 = .panic m) :
    enclave = true ∧ req.method = "GET" ∧ req.path = "/attestation-doc" ∧
      ((getAttestationDoc serde true req).run env).1 = .panic m := by
  rcases run_api_cases serde env enclave req with ⟨-, -, h'⟩ | ⟨hm, hp, h'⟩ | ⟨-, h'⟩ <;> rw [h'] at h
  · exact absurd ((respondRun_eq_panic env _ m).1 h) ((cryptoHandler_noPanic serde _ req).run env m)
  · cases enclave
    · simp [respondRun, getAttestationDoc] at h
    · exact ⟨rfl, hm, hp, (respondRun_eq_panic env _ m).1 h⟩
  · cases h

/-- `CryptoApi::api` aborts a request in one place only: with the `enclave` feature, at the
`unwrap` of an attestation request whose JSON body is not an `AttestationRequest`. The
crypto routes cannot abort (the `expect` in `E3Client::send` never fires, since the key
comes from the request's headers), nor can a 404 or the attestation route without the
feature. -/
theorem api_panics_iff (enclave : Bool) (req : Request) (m : String) :
    ((api serde enclave req).run env).1 = .panic m ↔
      enclave = true ∧ req.method = "GET" ∧ req.path = "/attestation-doc" ∧
      ∃ bytes body e, req.body = .ok bytes ∧ serde.fromSlice bytes = .ok body ∧
        serde.fromValue body = .error e ∧ m = "called `Result::unwrap()` on an `Err` value: " ++ e.msg := by
  constructor
  · intro h
    obtain ⟨he, hm, hp, h⟩ := api_panic_route serde env enclave req m h
    exact ⟨he, hm, hp, (getAttestationDoc_panics_iff serde env req m).1 h⟩
  · rintro ⟨rfl, hm, hp, hx⟩
    rw [api_attestation_route serde env true req hm hp, respondRun_eq_panic]
    exact (getAttestationDoc_panics_iff serde env req m).2 hx

/-! ## What `api` answers -/

/-- Every error of `api` is its route handler's, passed on unchanged by `?`. -/
theorem api_err_iff (enclave : Bool) (req : Request) (e : CryptoApiError) :
    ((api serde enclave req).run env).1 = .err e ↔
      req.method = "POST" ∧ (req.path = "/encrypt" ∧ ((encrypt serde req).run env).1 = .err e ∨
        req.path = "/decrypt" ∧ ((decrypt serde req).run env).1 = .err e) ∨
      req.method = "GET" ∧ req.path = "/attestation-doc" ∧
        ((getAttestationDoc serde enclave req).run env).1 = .err e := by
  rcases run_api_cases serde env enclave req with ⟨hm, hp, h⟩ | ⟨hm, hp, h⟩ | ⟨hr, h⟩ <;> rw [h]
  · rw [respondRun_eq_err]
    rcases hp with hp | hp <;> simp [hm, hp] <;> exact Iff.rfl
  · simp [respondRun_eq_err, hm, hp]
  · simp only [routed] at hr
    constructor
    · nofun
    · rintro (⟨hm, ⟨hp, -⟩ | ⟨hp, -⟩⟩ | ⟨hm, hp, -⟩) <;> simp [hm, hp] at hr

/-- What `api` answers, whatever the request, the tenant context and E3 do: a 404 with no
call for an unrouted request; otherwise 200, or its route handler's error as the
service's `Err`, never another status. A crypto request fails, having read only the
tenant context, with `MissingCageContext` when the context is absent; when it is set,
with `MissingApiKey` without `api-key` and with `SerdeError` on a body that is not JSON. A
status outside 2xx from E3 fails with `E3Error(FailedRequest(status))`. Nothing aborts
but the attestation route with the `enclave` feature. -/
theorem api_outcomes (enclave : Bool) :
    (∀ req, routed req = false → (api serde enclave req).run env = (.ok ⟨404, []⟩, [])) ∧
    (∀ req resp, ((api serde enclave req).run env).1 = .ok resp →
      resp.status = 200 ∨ routed req = false ∧ resp.status = 404) ∧
    (∀ req e, ((api serde enclave req).run env).1 = .err e ↔
      req.method = "POST" ∧ (req.path = "/encrypt" ∧ ((encrypt serde req).run env).1 = .err e ∨
        req.path = "/decrypt" ∧ ((decrypt serde req).run env).1 = .err e) ∨
      req.method = "GET" ∧ req.path = "/attestation-doc" ∧
        ((getAttestationDoc serde enclave req).run env).1 = .err e) ∧
    (∀ req e, req.method = "POST" → (req.path = "/encrypt" ∨ req.path = "/decrypt") →
      env .cageContext = .error e →
      (api serde enclave req).run env = (.err (.missingCageContext e), [.cageContext])) ∧
    (∀ req ctx, req.method = "POST" → (req.path = "/encrypt" ∨ req.path = "/decrypt") →
      env .cageContext = .ok ctx → removeHeader "api-key" req.headers = none →
      (api serde enclave req).run env = (.err .missingApiKey, [.cageContext])) ∧
    (∀ req ctx key bytes e, req.method = "POST" → (req.path = "/encrypt" ∨ req.path = "/decrypt") →
      env .cageContext = .ok ctx → removeHeader "api-key" req.headers = some key →
      req.body = .ok bytes → serde.fromSlice bytes = .error e →
      (api serde enclave req).run env = (.err (.serdeError e), [.cageContext])) ∧
    (∀ req r resp, ApiCall.e3 (.sendRequest r) ∈ ((api serde enclave req).run env).2 →
      env (.e3 (.sendRequest r)) = .ok resp → isSuccess resp.status = false →
      ((api serde enclave req).run env).1 = .err (.e3Error (.failedRequest resp.status))) ∧
    (∀ req m, ((api serde enclave req).run env).1 = .panic m →
      enclave = true ∧ req.method = "GET" ∧ req.path = "/attestation-doc") :=
  ⟨api_unrouted serde env enclave, api_ok_status serde env enclave, api_err_iff serde env enclave,
    fun req e hm hp hc => api_of_buildRequest_err serde env enclave req hm hp _
      (buildRequest_no_context serde env req e hc),
    fun req ctx hm hp hc hk => api_of_buildRequest_err serde env enclave req hm hp _
      (buildRequest_no_key serde env req ctx hc hk),
    fun req ctx key bytes e hm hp hc hk hb hj => api_of_buildRequest_err serde env enclave req hm hp _
      (buildRequest_bad_json serde env req ctx key bytes e hc hk hb hj),
    api_failed_request serde env enclave,
    fun req m h => let ⟨he, hm, hp, _⟩ := api_panic_route serde env enclave req m h; ⟨he, hm, hp⟩⟩

/-! ## Runs -/

/-- An `Option<String>` field as `serde` reads it: absent or `null` is `None`. -/
def optString : Option Value → Except SerdeError (Option String)
  | none | some .null => .ok none
  | some (.string s) => .ok (some s)
  | some _ => .error ⟨"invalid type: expected a string"⟩

/-- `serde_json` as the runs use it: `readJson` reads a body, `Value.print` prints a value,
and the derived readers take `CryptoResponse` and `AttestationRequest` from an object's
fields. -/
def jsonSerde : Serde where
  fromSlice := readJson
  toVec v := .ok (stringBytes ⟨v.print⟩)
  fromSliceResponse b := do
    let .object fields ← readJson b | .error ⟨"invalid type: expected struct CryptoResponse"⟩
    let some data := fields.lookup "data" | .error ⟨"missing field data"⟩
    pure ⟨data⟩
  fromValue v := match v with
    | .object fields => do
      pure ⟨← optString (fields.lookup "nonce"), ← optString (fields.lookup "challenge")⟩
    | _ => .error ⟨"invalid type: expected struct AttestationRequest"⟩

/-- A tenant context is set, E3 answers 200 with the JSON `{"data":{"msg":"ev:aGk"}}`, and
the platform gives an empty document. -/
def tenantWorld : (c : ApiCall) → ApiCall.Answer c
  | .cageContext => .ok ⟨"team", "app"⟩
  | .e3 .getSocket | .e3 (.tlsConnect _) | .e3 .handshake => .ok ()
  | .e3 (.sendRequest _) => .ok ⟨200, .ok (stringBytes "\x7b\"data\":\x7b\"msg\":\"ev:aGk\"\x7d\x7d")⟩
  | .getAttestationDoc _ _ => .ok []

/-- The JSON body `{"msg":"hi"}`. -/
def helloBody : Bytes := stringBytes "\x7b\"msg\":\"hi\"\x7d"

/-- `POST /encrypt` with a JSON body but no `api-key` header ends the service call with
`Err(MissingApiKey)`, not with a response. -/
theorem api_missing_key_is_err :
    (api jsonSerde false ⟨"POST", "/encrypt", [], .ok helloBody⟩).run tenantWorld =
      (.err .missingApiKey, [.cageContext]) := rfl

/-! ## What E3 is sent -/

/-- Everything a request `api` sends E3 comes with: the caller's route, key and JSON body,
and a connection of its own, whose calls are all the calls of the service call. -/
theorem api_sendRequest (enclave : Bool) (req : Request) (r : E3Request)
    (hr : ApiCall.e3 (.sendRequest r) ∈ ((api serde enclave req).run env).2) :
    (req.method = "POST" ∧ (req.path = "/encrypt" ∨ req.path = "/decrypt") ∧
      r.uri = uri req.path ∧ r.method = "POST" ∧
      ∃ ctx bytes body, env .cageContext = .ok ctx ∧ removeHeader "api-key" req.headers = some r.apiKey ∧
        req.body = .ok bytes ∧ serde.fromSlice bytes = .ok body ∧
        serde.toVec (E3Payload.toValue ⟨some body, ctx⟩) = .ok r.body) ∧
    env (.e3 .getSocket) = .ok () ∧ env (.e3 (.tlsConnect e3ServerName)) = .ok () ∧
      env (.e3 .handshake) = .ok () ∧
      ((api serde enclave req).run env).2 =
        [.cageContext, .e3 .getSocket, .e3 (.tlsConnect e3ServerName), .e3 .handshake, .e3 (.sendRequest r)] := by
  rcases run_api_cases serde env enclave req with ⟨hm, hp, h⟩ | ⟨-, -, h⟩ | ⟨-, h⟩ <;> rw [h] at hr ⊢
  · obtain ⟨apiKey, payload, hb, hc⟩ := cryptoHandler_e3_call serde env _ req _ hr
    obtain ⟨key, hk, hbody, hreq, h1, h2, h3, hcalls⟩ := cryptoCall_request _ _ _ req.path _ _ r hc
    obtain ⟨ctx, bytes, body, hctx, hkey, hbytes, hj, rfl⟩ := buildRequest_ok serde env req _ _ hb
    rw [HeaderValue.tryFrom_bytes, Option.some.injEq] at hk
    subst hk
    refine ⟨?_, h1, h2, h3, by rw [respondRun, cryptoHandler_calls serde env _ req _ _ hb, hcalls]; rfl⟩
    rw [hreq] at hbody ⊢
    exact ⟨hm, hp, rfl, rfl, ctx, bytes, body, hctx, hkey, hbytes, hj, hbody⟩
  · exact absurd hr (getAttestationDoc_no_e3 serde env enclave req _)
  · simp at hr

/-- Every request `api` sends E3 comes from `POST /encrypt` or `POST /decrypt`, goes to
that path, carries the caller's `api-key` header, and its body prints the caller's JSON
with the tenant's `team_uuid` and `app_uuid`. -/
theorem api_e3_request (enclave : Bool) (req : Request) (r : E3Request)
    (hr : ApiCall.e3 (.sendRequest r) ∈ ((api serde enclave req).run env).2) :
    req.method = "POST" ∧ (req.path = "/encrypt" ∨ req.path = "/decrypt") ∧
    r.uri = uri req.path ∧ r.method = "POST" ∧
    ∃ ctx bytes body, env .cageContext = .ok ctx ∧ removeHeader "api-key" req.headers = some r.apiKey ∧
      req.body = .ok bytes ∧ serde.fromSlice bytes = .ok body ∧
      serde.toVec (E3Payload.toValue ⟨some body, ctx⟩) = .ok r.body :=
  (api_sendRequest serde env enclave req r hr).1

/-- `POST /encrypt` with `api-key: k` and the body `{"msg":"hi"}`. -/
def keyedEncrypt : Request := ⟨"POST", "/encrypt", [("api-key", ⟨[107], rfl⟩)], .ok helloBody⟩

/-- The request E3 gets for `keyedEncrypt` in `tenantWorld`: the caller's JSON with the
tenant's `app_uuid` and `team_uuid`, keys in order. -/
def keyedE3Request : E3Request :=
  ⟨uri "/encrypt", ⟨[107], rfl⟩, "POST",
    stringBytes "\x7b\"app_uuid\":\"app\",\"data\":\x7b\"msg\":\"hi\"\x7d,\"team_uuid\":\"team\"\x7d"⟩

theorem api_e3_request_keyed :
    ApiCall.e3 (.sendRequest keyedE3Request) ∈ ((api jsonSerde false keyedEncrypt).run tenantWorld).2 ∧
      keyedE3Request.uri = uri keyedEncrypt.path :=
  have h : ApiCall.e3 (.sendRequest keyedE3Request) ∈
      ((api jsonSerde false keyedEncrypt).run tenantWorld).2 :=
    .tail _ <| .tail _ <| .tail _ <| .tail _ <| .head _
  ⟨h, (api_e3_request jsonSerde tenantWorld false keyedEncrypt keyedE3Request h).2.2.1⟩

/-- A request `api` sends E3 goes out on a connection opened for it alone: the calls of the
whole service call are the tenant context, the socket, the TLS session with `e3ServerName`
and the HTTP handshake, each of which succeeded, and that one request. -/
theorem api_e3_fresh_connection (enclave : Bool) (req : Request) (r : E3Request)
    (hr : ApiCall.e3 (.sendRequest r) ∈ ((api serde enclave req).run env).2) :
    env (.e3 .getSocket) = .ok () ∧ env (.e3 (.tlsConnect e3ServerName)) = .ok () ∧
      env (.e3 .handshake) = .ok () ∧
      ((api serde enclave req).run env).2 =
        [.cageContext, .e3 .getSocket, .e3 (.tlsConnect e3ServerName), .e3 .handshake, .e3 (.sendRequest r)] :=
  (api_sendRequest serde env enclave req r hr).2

theorem api_e3_fresh_connection_keyed :
    ApiCall.e3 (.sendRequest keyedE3Request) ∈ ((api jsonSerde false keyedEncrypt).run tenantWorld).2 ∧
      ((api jsonSerde false keyedEncrypt).run tenantWorld).2 =
        [.cageContext, .e3 .getSocket, .e3 (.tlsConnect e3ServerName), .e3 .handshake,
          .e3 (.sendRequest keyedE3Request)] :=
  have h : ApiCall.e3 (.sendRequest keyedE3Request) ∈
      ((api jsonSerde false keyedEncrypt).run tenantWorld).2 :=
    .tail _ <| .tail _ <| .tail _ <| .tail _ <| .head _
  ⟨h, (api_e3_fresh_connection jsonSerde tenantWorld false keyedEncrypt keyedE3Request h).2.2.2⟩

/-! ## What a 200 carries -/

/-- A 200 from `POST /encrypt` or `POST /decrypt` carries E3's own answer: E3 answered a
request `api` sent with a 2xx status and a body that reads as a `CryptoResponse`, whose
`data`, printed, is the response body. -/
theorem api_crypto_ok (enclave : Bool) (req : Request) (resp : Response) (hm : req.method = "POST")
    (hp : req.path = "/encrypt" ∨ req.path = "/decrypt") (h : ((api serde enclave req).run env).1 = .ok resp) :
    resp.status = 200 ∧ ∃ r e3resp b cr, ApiCall.e3 (.sendRequest r) ∈ ((api serde enclave req).run env).2 ∧
      env (.e3 (.sendRequest r)) = .ok e3resp ∧ isSuccess e3resp.status = true ∧ e3resp.body = .ok b ∧
      serde.fromSliceResponse b = .ok cr ∧ serde.toVec cr.data = .ok resp.body := by
  rw [api_crypto_route serde env enclave req hm hp] at h ⊢
  obtain ⟨body, hx, rfl⟩ := respondRun_eq_ok env _ _ h
  obtain ⟨apiKey, payload, cr, -, he, hcalls, hv⟩ := cryptoHandler_ok serde env _ req body hx
  obtain ⟨r, e3resp, b, hr, hresp, hs, hb, hf⟩ :=
    cryptoCall_ok _ serde.toVec serde.fromSliceResponse req.path apiKey.bytes payload cr he
  exact ⟨rfl, r, e3resp, b, cr, hcalls _ hr, hresp, hs, hb, hf, hv⟩

/-- The 200 body that `keyedEncrypt` gets in `tenantWorld`: E3's `data`, printed. -/
def helloCiphertext : Bytes := stringBytes "\x7b\"msg\":\"ev:aGk\"\x7d"

theorem api_crypto_ok_keyed :
    ((api jsonSerde false keyedEncrypt).run tenantWorld).1 = .ok ⟨200, helloCiphertext⟩ ∧
    ∃ r e3resp b cr, ApiCall.e3 (.sendRequest r) ∈ ((api jsonSerde false keyedEncrypt).run tenantWorld).2 ∧
      tenantWorld (.e3 (.sendRequest r)) = .ok e3resp ∧ isSuccess e3resp.status = true ∧
      e3resp.body = .ok b ∧ jsonSerde.fromSliceResponse b = .ok cr ∧
      jsonSerde.toVec cr.data = .ok helloCiphertext :=
  have h : ((api jsonSerde false keyedEncrypt).run tenantWorld).1 = .ok ⟨200, helloCiphertext⟩ := rfl
  ⟨h, (api_crypto_ok jsonSerde tenantWorld false keyedEncrypt _ rfl (.inl rfl) h).2⟩

end Enclaves.Crypto
