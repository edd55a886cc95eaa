import Enclaves.Task
/-!
# The E3 client (`e3client/mod.rs`)

Every call to the E3 crypto service opens a fresh connection: a socket to the E3 port, a
TLS session, an HTTP/1.1 handshake, one `POST`. `send` builds the request, connects,
sends it, and returns `FailedRequest(status)` for any status outside 2xx. `encrypt` and
`decrypt` then decode the JSON answer; `authenticate` maps the status to a `bool`, which
after `send`'s early return can only be `true` (`authenticate_never_false`).

The JSON codec is outside the spec: `serde_json`'s printing of a value and its reading of
the E3 answer are parameters of every theorem. The concrete runs use `Value.print`, its
compact text, and `readJson`, a reader of ASCII JSON.
-/

namespace Enclaves.E3

/-- A `serde_json::Value`; a number is kept as its text. -/
inductive Value where
  | null
  | bool (b : Bool)
  | number (text : String)
  | string (s : String)
  | array (items : List Value)
  | object (fields : List (String × Value))
  deriving Repr

/-- A `serde_json::Error`, only passed on. -/
structure SerdeError where
  msg : String
  deriving DecidableEq, Repr

/-- A `hyper::Error`, only passed on. -/
structure HyperError where
  msg : String
  deriving DecidableEq, Repr

/-- `e3client::Error`. `FailedRequest` is the variant `send` returns; `error.rs` as given
lists only the other three. -/
inductive E3Error where
  | ioError (e : IoError)
  | hyperError (e : HyperError)
  | serdeError (e : SerdeError)
  | failedRequest (status : Nat)
  deriving DecidableEq, Repr

/-- `StatusCode::is_success`: `200..=299`. -/
def isSuccess (status : Nat) : Bool := 200 ≤ status && status ≤ 299

/-- `HeaderValue::from_bytes`: every byte visible ASCII, `obs-text` or a tab. -/
def isValidHeaderByte (b : UInt8) : Bool := (32 ≤ b && b != 127) || b == 9

/-- A `HeaderValue`, valid by construction. -/
structure HeaderValue where
  bytes : Bytes
  valid : bytes.all isValidHeaderByte = true
  deriving DecidableEq

/-- `HeaderValue::try_from`. -/
def HeaderValue.tryFrom (bytes : Bytes) : Option HeaderValue :=
  if h : bytes.all isValidHeaderByte = true then some ⟨bytes, h⟩ else none

@[simp] theorem HeaderValue.tryFrom_bytes (v : HeaderValue) : HeaderValue.tryFrom v.bytes = some v := by
  simp [HeaderValue.tryFrom, v.valid]

/-- The request `send` builds: `POST` to `uri` with the `api-key` header. -/
structure E3Request where
  uri : String
  apiKey : HeaderValue
  method : String
  body : Bytes
  deriving DecidableEq

/-- A response of the E3 service: its status, and what reading its body to the end
(`hyper::body::to_bytes`) gives. -/
structure Response where
  status : Nat
  body : Except HyperError Bytes
  deriving DecidableEq

/-- Modelled from the spec: `crate::CageContext` is not in the source. It is the
tenant's identity; the E3 payload reads `team_uuid` and `app_uuid` (its `cage_uuid` and
`cage_name` are read by no modelled code). -/
structure CageContext where
  teamUuid : String
  appUuid : String
  deriving DecidableEq, Repr

/-- `E3Payload`: the request's JSON data, if any, and the tenant. -/
structure E3Payload where
  data : Option Value
  context : CageContext

/-- The JSON object `try_into` prints: `{"data", "team_uuid", "app_uuid"}`. -/
def E3Payload.toValue (p : E3Payload) : Value :=
  .object [("data", p.data.getD .null), ("team_uuid", .string p.context.teamUuid),
    ("app_uuid", .string p.context.appUuid)]

/-- Modelled from the spec: `crate::e3client::CryptoResponse` is not in the source; the
crypto API reads its `data` field. -/
structure CryptoResponse where
  data : Value

/-- The awaits of an E3 call. -/
inductive E3Call where
  /-- `get_socket()`: connect to the E3 port -/
  | getSocket
  /-- `tls_connector.connect(server_name, socket)`: a TLS session with `serverName` -/
  | tlsConnect (serverName : String)
  /-- `hyper::client::conn::Builder::handshake` -/
  | handshake
  /-- `request_sender.send_request(request)` -/
  | sendRequest (request : E3Request)

/-- What each await answers. -/
def E3Call.Answer : E3Call → Type
  | .getSocket => Except IoError Unit
  | .tlsConnect _ => Except IoError Unit
  | .handshake => Except HyperError Unit
  | .sendRequest _ => Except HyperError Response

/-- An E3 call returning `α`. -/
abbrev E3Task (α : Type) := Prog E3Call E3Call.Answer E3Error α

/-- `E3Client::new`'s `e3_server_name`. -/
def e3ServerName : String := "e3.cages-e3.internal"

/-- `E3Client::uri`. -/
def uri (path : String) : String := "https://e3.cages-e3.internal" ++ path

/-- `E3Client::get_conn`: socket, TLS session, HTTP handshake. -/
def getConn : E3Task Unit := do
  Prog.ofExcept .ioError (← Prog.await E3Call.getSocket)
  Prog.ofExcept .ioError (← Prog.await (E3Call.tlsConnect e3ServerName))
  Prog.ofExcept .hyperError (← Prog.await E3Call.handshake)

/-- `E3Client::send`. The builder fails only on an api key that is not a header value,
and `expect` turns that into a panic. -/
def send (apiKey : Bytes) (path : String) (payload : Bytes) : E3Task Response := do
  let some key := HeaderValue.tryFrom apiKey
    | Prog.ret (.panic "Failed to create request: http::Error(InvalidHeaderValue)")
  let decryptRequest : E3Request := ⟨uri path, key, "POST", payload⟩
  getConn
  let response ← Prog.ofExcept .hyperError (← Prog.await (E3Call.sendRequest decryptRequest))
  if !isSuccess response.status then Prog.throw (.failedRequest response.status)
  pure response

section Codec

variable (toVec : Value → Except SerdeError Bytes)
  (fromSliceResponse : Bytes → Except SerdeError CryptoResponse)

/-- `E3Payload::try_into`: the payload printed as JSON. -/
def payloadBody (p : E3Payload) : Except SerdeError Bytes := toVec p.toValue

/-- `E3Client::parse_response`: read the body, decode it. -/
def parseResponse (res : Response) : E3Task CryptoResponse := do
  let responseBody ← Prog.ofExcept .hyperError res.body
  Prog.ofExcept .serdeError (fromSliceResponse responseBody)

/-- `E3Client::decrypt` and `E3Client::encrypt`, which differ in their path only. -/
def cryptoCall (path : String) (apiKey : Bytes) (payload : E3Payload) : E3Task CryptoResponse := do
  let body ← Prog.ofExcept .serdeError (payloadBody toVec payload)
  let response ← send apiKey path body
  parseResponse fromSliceResponse response

/-- `E3Client::decrypt`. -/
def decrypt (apiKey : Bytes) (payload : E3Payload) : E3Task CryptoResponse :=
  cryptoCall toVec fromSliceResponse "/decrypt" apiKey payload

/-- `E3Client::encrypt`. -/
def encrypt (apiKey : Bytes) (payload : E3Payload) : E3Task CryptoResponse :=
  cryptoCall toVec fromSliceResponse "/encrypt" apiKey payload

/-- `E3Client::authenticate`. -/
def authenticate (apiKey : Bytes) (payload : E3Payload) : E3Task Bool := do
  let body ← Prog.ofExcept .serdeError (payloadBody toVec payload)
  let response ← send apiKey "/authenticate" body
  pure (isSuccess response.status)

end Codec

/-! ## What a call returns -/

variable (env : (c : E3Call) → E3Call.Answer c)

theorem run_getConn :
    getConn.run env =
      match env .getSocket, env (.tlsConnect e3ServerName), env .handshake with
      | .error e, _, _ => (.err (.ioError e), [.getSocket])
      | .ok (), .error e, _ => (.err (.ioError e), [.getSocket, .tlsConnect e3ServerName])
      | .ok (), .ok (), .error e =>
        (.err (.hyperError e), [.getSocket, .tlsConnect e3ServerName, .handshake])
      | .ok (), .ok (), .ok () => (.ok (), [.getSocket, .tlsConnect e3ServerName, .handshake]) := by
  rcases h1 : env .getSocket with e | ⟨⟩ <;> rcases h2 : env (.tlsConnect e3ServerName) with e | ⟨⟩ <;>
    rcases h3 : env .handshake with e | ⟨⟩ <;> simp [getConn, Prog.run_bind, h1, h2, h3]

/-- Once `send` has sent its request, it has opened a connection of its own for it: the
socket, the TLS session with `e3ServerName` and the HTTP handshake all succeeded, in that
order, and nothing else was called. The request goes to `uri path` with the caller's key
and payload, and E3's answer decides the outcome: a 2xx response is returned, any other
status is `FailedRequest(status)`. -/
theorem send_sent (apiKey : Bytes) (path : String) (payload : Bytes) (r : E3Request)
    (hr : E3Call.sendRequest r ∈ ((send apiKey path payload).run env).2) :
    ∃ key, HeaderValue.tryFrom apiKey = some key ∧ r = ⟨uri path, key, "POST", payload⟩ ∧
      env .getSocket = .ok () ∧ env (.tlsConnect e3ServerName) = .ok () ∧ env .handshake = .ok () ∧
      ((send apiKey path payload).run env).2 =
        [.getSocket, .tlsConnect e3ServerName, .handshake, .sendRequest r] ∧
      ((send apiKey path payload).run env).1 =
        match env (.sendRequest r) with
        | .error e => .err (.hyperError e)
        | .ok resp => if isSuccess resp.status then .ok resp else .err (.failedRequest resp.status) := by
  rcases hk : HeaderValue.tryFrom apiKey with _ | key
  · simp [send, hk] at hr
  rcases h1 : env .getSocket with e | ⟨⟩ <;> rcases h2 : env (.tlsConnect e3ServerName) with e | ⟨⟩ <;>
    rcases h3 : env .handshake with e | ⟨⟩ <;> simp [send, hk, Prog.run_bind, run_getConn, h1, h2, h3] at hr ⊢
  rcases hs : env (.sendRequest ⟨uri path, key, "POST", payload⟩) with e | resp
  · simp [hs] at hr ⊢
    subst hr
    simp [hs]
  · cases hsc : isSuccess resp.status <;> simp [hs, hsc] at hr ⊢ <;> subst hr <;> simp [hs, hsc]

/-- `send` returns only a 2xx response, the answer to the request it sent. -/
theorem send_ok (apiKey : Bytes) (path : String) (payload : Bytes) (resp : Response)
    (h : ((send apiKey path payload).run env).1 = .ok resp) :
    ∃ r, E3Call.sendRequest r ∈ ((send apiKey path payload).run env).2 ∧
      env (.sendRequest r) = .ok resp ∧ isSuccess resp.status = true := by
  rcases hk : HeaderValue.tryFrom apiKey with _ | key
  · simp [send, hk] at h
  simp only [send, hk, Prog.bind_eq] at h ⊢
  obtain ⟨_, -, h1, hc⟩ := Prog.run_bind_ok env h
  refine ⟨⟨uri path, key, "POST", payload⟩, by rw [hc]; simp, ?_⟩
  rcases hr : env (.sendRequest ⟨uri path, key, "POST", payload⟩) with e | resp'
  · simp [hr] at h1
  · cases hs : isSuccess resp'.status <;> simp_all

/-- After `send`, a continuation that makes no call cannot hide a failed request: a
received status outside 2xx ends the task with `FailedRequest(status)`. -/
theorem send_bind_failed {β : Type} (apiKey : Bytes) (path : String) (body : Bytes)
    (f : Response → E3Task β) (hf : ∀ r, ((f r).run env).2 = []) (req : E3Request) (resp : Response)
    (hreq : E3Call.sendRequest req ∈ (((send apiKey path body).bind f).run env).2)
    (hresp : env (.sendRequest req) = .ok resp) (hs : isSuccess resp.status = false) :
    (((send apiKey path body).bind f).run env).1 = .err (.failedRequest resp.status) := by
  rw [Prog.run_bind] at hreq ⊢
  have hsent : E3Call.sendRequest req ∈ ((send apiKey path body).run env).2 := by
    split at hreq <;> simp_all
  obtain ⟨-, -, -, -, -, -, -, ho⟩ := send_sent env apiKey path body req hsent
  simp only [hresp, hs, Bool.false_eq_true, if_false] at ho
  rw [ho]

theorem parseResponse_calls (fromSliceResponse : Bytes → Except SerdeError CryptoResponse)
    (res : Response) : ((parseResponse fromSliceResponse res).run env).2 = [] := by
  rcases hb : res.body with e | b
  · simp [parseResponse, hb]
  · cases fromSliceResponse b <;> simp [parseResponse, hb, *]

theorem parseResponse_ok (fromSliceResponse : Bytes → Except SerdeError CryptoResponse) (res : Response)
    (cr : CryptoResponse) (h : ((parseResponse fromSliceResponse res).run env).1 = .ok cr) :
    ∃ b, res.body = .ok b ∧ fromSliceResponse b = .ok cr := by
  rcases hb : res.body with e | b
  · simp [parseResponse, hb] at h
  · cases hf : fromSliceResponse b <;> simp_all [parseResponse]

/-- `encrypt` and `decrypt` end with `FailedRequest(status)` on a received status outside
2xx. -/
theorem cryptoCall_failed (toVec : Value → Except SerdeError Bytes)
    (fromSliceResponse : Bytes → Except SerdeError CryptoResponse) (path : String) (apiKey : Bytes)
    (payload : E3Payload) (req : E3Request) (resp : Response)
    (hreq : E3Call.sendRequest req ∈ ((cryptoCall toVec fromSliceResponse path apiKey payload).run env).2)
    (hresp : env (.sendRequest req) = .ok resp) (hs : isSuccess resp.status = false) :
    ((cryptoCall toVec fromSliceResponse path apiKey payload).run env).1 =
      .err (.failedRequest resp.status) := by
  rcases hb : payloadBody toVec payload with e | body
  · simp [cryptoCall, hb] at hreq
  simp only [cryptoCall, hb, Prog.bind_eq, Prog.ofExcept_bind] at hreq ⊢
  exact send_bind_failed env apiKey path body _ (parseResponse_calls env fromSliceResponse) req resp
    hreq hresp hs

/-- The request of `encrypt` and `decrypt` carries the printed payload, and goes out on a
connection of its own, once its socket, TLS session and handshake succeeded. -/
theorem cryptoCall_request (toVec : Value → Except SerdeError Bytes)
    (fromSliceResponse : Bytes → Except SerdeError CryptoResponse) (path : String) (apiKey : Bytes)
    (payload : E3Payload) (r : E3Request)
    (hr : E3Call.sendRequest r ∈ ((cryptoCall toVec fromSliceResponse path apiKey payload).run env).2) :
    ∃ key, HeaderValue.tryFrom apiKey = some key ∧ payloadBody toVec payload = .ok r.body ∧
      r = ⟨uri path, key, "POST", r.body⟩ ∧
      env .getSocket = .ok () ∧ env (.tlsConnect e3ServerName) = .ok () ∧ env .handshake = .ok () ∧
      ((cryptoCall toVec fromSliceResponse path apiKey payload).run env).2 =
        [.getSocket, .tlsConnect e3ServerName, .handshake, .sendRequest r] := by
  rcases hb : payloadBody toVec payload with e | body
  · simp [cryptoCall, hb] at hr
  simp only [cryptoCall, hb, Prog.bind_eq, Prog.ofExcept_bind, Prog.run_bind] at hr ⊢
  have hs : E3Call.sendRequest r ∈ ((send apiKey path body).run env).2 := by
    split at hr <;> simp_all [parseResponse_calls]
  obtain ⟨key, hk, rfl, h1, h2, h3, hc, -⟩ := send_sent env apiKey path body r hs
  refine ⟨key, hk, rfl, rfl, h1, h2, h3, ?_⟩
  split <;> simp [hc, parseResponse_calls]

/-- `encrypt` and `decrypt` return only what E3's 2xx answer to the request they sent
decodes to. -/
theorem cryptoCall_ok (toVec : Value → Except SerdeError Bytes)
    (fromSliceResponse : Bytes → Except SerdeError CryptoResponse) (path : String) (apiKey : Bytes)
    (payload : E3Payload) (cr : CryptoResponse)
    (h : ((cryptoCall toVec fromSliceResponse path apiKey payload).run env).1 = .ok cr) :
    ∃ r resp b, E3Call.sendRequest r ∈ ((cryptoCall toVec fromSliceResponse path apiKey payload).run env).2 ∧
      env (.sendRequest r) = .ok resp ∧ isSuccess resp.status = true ∧ resp.body = .ok b ∧
      fromSliceResponse b = .ok cr := by
  simp only [cryptoCall, Prog.bind_eq] at h ⊢
  obtain ⟨body, -, h1, hc1⟩ := Prog.run_bind_ok env h
  obtain ⟨resp, hs, hp, hc2⟩ := Prog.run_bind_ok env h1
  obtain ⟨r, hr, hresp, hsucc⟩ := send_ok env apiKey path body resp hs
  obtain ⟨b, hb, hf⟩ := parseResponse_ok env fromSliceResponse resp cr hp
  exact ⟨r, resp, b, by rw [hc1, hc2]; simp [hr], hresp, hsucc, hb, hf⟩

/-- `authenticate` returns `Ok(b)` only with `b = true`: a received status outside 2xx
ends it with `Err(FailedRequest(status))` in `send`, before `is_success` is read. -/
theorem authenticate_never_false (toVec : Value → Except SerdeError Bytes) (apiKey : Bytes)
    (payload : E3Payload) :
    (∀ b, ((authenticate toVec apiKey payload).run env).1 = .ok b → b = true) ∧
    (∀ req resp, E3Call.sendRequest req ∈ ((authenticate toVec apiKey payload).run env).2 →
      env (.sendRequest req) = .ok resp → isSuccess resp.status = false →
      ((authenticate toVec apiKey payload).run env).1 = .err (.failedRequest resp.status)) := by
  rcases hb : payloadBody toVec payload with e | body
  · simp [authenticate, hb]
  simp only [authenticate, hb, Prog.bind_eq, Prog.ofExcept_bind]
  refine ⟨fun b hb' => ?_, send_bind_failed env apiKey "/authenticate" body _ (fun _ => rfl)⟩
  obtain ⟨resp, hs, hpure, -⟩ := Prog.run_bind_ok env hb'
  cases hpure
  obtain ⟨-, -, -, hsucc⟩ := send_ok env apiKey "/authenticate" body resp hs
  exact hsucc

/-! ## Where a call can abort -/

theorem getConn_noPanic : getConn.NoPanic :=
  (Prog.noPanic_await _).bind fun a => (Prog.noPanic_ofExcept _ a).bind fun _ =>
    (Prog.noPanic_await _).bind fun b => (Prog.noPanic_ofExcept _ b).bind fun _ =>
      (Prog.noPanic_await _).bind fun c => Prog.noPanic_ofExcept _ c

/-- `send` with a key that is already a header value cannot abort: the request builder's
`expect` fires only on a key `HeaderValue::try_from` refuses. -/
theorem send_noPanic (key : HeaderValue) (path : String) (payload : Bytes) :
    (send key.bytes path payload).NoPanic := by
  simp only [send, HeaderValue.tryFrom_bytes]
  refine getConn_noPanic.bind fun _ => (Prog.noPanic_await _).bind fun r =>
    (Prog.noPanic_ofExcept _ r).bind fun resp => ?_
  split
  · exact (Prog.noPanic_throw _).bind fun _ => Prog.noPanic_pure _
  · exact (Prog.noPanic_pure _).bind fun _ => Prog.noPanic_pure _

theorem parseResponse_noPanic (fromSliceResponse : Bytes → Except SerdeError CryptoResponse)
    (res : Response) : (parseResponse fromSliceResponse res).NoPanic :=
  (Prog.noPanic_ofExcept _ _).bind fun _ => Prog.noPanic_ofExcept _ _

theorem cryptoCall_noPanic (toVec : Value → Except SerdeError Bytes)
    (fromSliceResponse : Bytes → Except SerdeError CryptoResponse) (path : String) (key : HeaderValue)
    (payload : E3Payload) : (cryptoCall toVec fromSliceResponse path key.bytes payload).NoPanic :=
  (Prog.noPanic_ofExcept _ _).bind fun body => (send_noPanic key path body).bind fun resp =>
    parseResponse_noPanic fromSliceResponse resp

/-! ## `serde_json`'s text, for concrete runs

The theorems take the codec as a parameter; the runs use this one. `Value.print` is
`serde_json::to_vec`'s compact text, with an object's fields in key order; `readJson`
reads ASCII JSON text whose numbers are integers. -/

/-- The hex digit of `n < 16`, lower case as `serde_json` writes it. -/
def hexDigit (n : Nat) : Char := if n < 10 then Char.ofNat (48 + n) else Char.ofNat (87 + n)

/-- What `serde_json` writes for one character of a string: `\"`, `\\`, the short
escapes of five control characters, `\u00XX` for the other ones, the character itself
otherwise. -/
def escapeChar (c : Char) : List Char :=
  if c = '"' then ['\\', '"'] else if c = '\\' then ['\\', '\\']
  else if c = '\n' then ['\\', 'n'] else if c = '\r' then ['\\', 'r'] else if c = '\t' then ['\\', 't']
  else if c.toNat = 8 then ['\\', 'b'] else if c.toNat = 12 then ['\\', 'f']
  else if c.toNat < 32 then ['\\', 'u', '0', '0', hexDigit (c.toNat / 16), hexDigit (c.toNat % 16)]
  else [c]

/-- A JSON string literal. -/
def quote (s : String) : List Char := '"' :: (s.toList.flatMap escapeChar ++ ['"'])

/-- `str`'s order on keys: lexicographic on the characters' code points, which is the
order of their UTF-8 bytes. -/
def keyLt : List Char → List Char → Bool
  | [], [] => false
  | [], _ :: _ => true
  | _ :: _, [] => false
  | c :: cs, d :: ds => c.toNat < d.toNat || c.toNat = d.toNat && keyLt cs ds

/-- A field into fields kept in key order, as `BTreeMap::insert` puts it; a field already
there, being a later one, is kept. -/
def insertField (k : String) (v : List Char) : List (String × List Char) → List (String × List Char)
  | [] => [(k, v)]
  | (k', v') :: fs =>
    if keyLt k.toList k'.toList then (k, v) :: (k', v') :: fs
    else if keyLt k'.toList k.toList then (k', v') :: insertField k v fs
    else (k', v') :: fs

mutual
/-- `serde_json::to_vec`'s text of a value: compact, with an object's fields in key order,
as its `Map` (a `BTreeMap`) iterates them. -/
def Value.print : Value → List Char
  | .null => "null".toList
  | .bool b => (toString b).toList
  | .number text => text.toList
  | .string s => quote s
  | .array items => '[' :: ([','].intercalate (Value.printItems items) ++ [']'])
  | .object fields =>
    '\x7b' :: ([','].intercalate ((Value.printFields fields).map
      fun (k, v) => quote k ++ ':' :: v) ++ ['\x7d'])
/-- The texts of an array's items. -/
def Value.printItems : List Value → List (List Char)
  | [] => []
  | v :: vs => v.print :: Value.printItems vs
/-- An object's keys, in order, with the texts of their values. -/
def Value.printFields : List (String × Value) → List (String × List Char)
  | [] => []
  | (k, v) :: fs => insertField k v.print (Value.printFields fs)
end

/-- JSON whitespace. -/
def isJsonSpace (c : Char) : Bool := c = ' ' || c = '\n' || c = '\r' || c = '\t'

/-- The character a two-character escape stands for (no `\u` escapes). -/
def unescape (e : Char) : Option Char :=
  if e = '"' ∨ e = '\\' ∨ e = '/' then some e else if e = 'n' then some '\n'
  else if e = 'r' then some '\r' else if e = 't' then some '\t'
  else if e = 'b' then some (Char.ofNat 8) else if e = 'f' then some (Char.ofNat 12) else none

/-- A string literal's characters after its opening quote, to the closing one; a raw
control character is refused. -/
def readString : List Char → Option (List Char × List Char)
  | [] => none
  | '"' :: r => some ([], r)
  | '\\' :: e :: r => do
    let c ← unescape e
    let (s, r) ← readString r
    pure (c :: s, r)
  | c :: r => if c.toNat < 32 then none else (readString r).map fun (s, r) => (c :: s, r)

/-- An integer's text: an optional minus, then digits with no leading zero. -/
def readInteger (cs : List Char) : Option (List Char × List Char) :=
  let (sign, r) := match cs with
    | '-' :: r => (['-'], r)
    | r => ([], r)
  match r.span Char.isDigit with
  | (d :: ds, r) => if d = '0' ∧ ds ≠ [] then none else some (sign ++ d :: ds, r)
  | ([], _) => none

mutual
/-- One value at the head of the input, after whitespace; the fuel bounds the nesting. -/
def readValue : Nat → List Char → Option (Value × List Char)
  | 0, _ => none
  | n + 1, cs =>
    match cs.dropWhile isJsonSpace with
    | 'n' :: 'u' :: 'l' :: 'l' :: r => some (.null, r)
    | 't' :: 'r' :: 'u' :: 'e' :: r => some (.bool true, r)
    | 'f' :: 'a' :: 'l' :: 's' :: 'e' :: r => some (.bool false, r)
    | '"' :: r => (readString r).map fun (s, r) => (.string ⟨s⟩, r)
    | '[' :: r =>
      match r.dropWhile isJsonSpace with
      | ']' :: r => some (.array [], r)
      | r => (readItems n r).map fun (vs, r) => (.array vs, r)
    | '\x7b' :: r =>
      match r.dropWhile isJsonSpace with
      | '\x7d' :: r => some (.object [], r)
      | r => (readFields n r).map fun (fs, r) => (.object fs, r)
    | r => (readInteger r).map fun (t, r) => (.number ⟨t⟩, r)
/-- An array's items after its opening bracket, to the closing one. -/
def readItems : Nat → List Char → Option (List Value × List Char)
  | 0, _ => none
  | n + 1, cs => do
    let (v, r) ← readValue n cs
    match r.dropWhile isJsonSpace with
    | ',' :: r => (readItems n r).map fun (vs, r) => (v :: vs, r)
    | ']' :: r => some ([v], r)
    | _ => none
/-- An object's fields after its opening brace, to the closing one. -/
def readFields : Nat → List Char → Option (List (String × Value) × List Char)
  | 0, _ => none
  | n + 1, cs => do
    let '"' :: r := cs.dropWhile isJsonSpace | none
    let (k, r) ← readString r
    let ':' :: r := r.dropWhile isJsonSpace | none
    let (v, r) ← readValue n r
    match r.dropWhile isJsonSpace with
    | ',' :: r => (readFields n r).map fun (fs, r) => ((⟨k⟩, v) :: fs, r)
    | '\x7d' :: r => some ([(⟨k⟩, v)], r)
    | _ => none
end

/-- `serde_json::from_slice` to a `Value`, on ASCII text: one value, then whitespace only. -/
def readJson (b : Bytes) : Except SerdeError Value :=
  if b.all (· < 128) then
    match readValue (b.length + 1) (b.map fun x => Char.ofNat x.toNat) with
    | some (v, r) => if r.all isJsonSpace then .ok v else .error ⟨"trailing characters"⟩
    | none => .error ⟨"expected value"⟩
  else .error ⟨"not ASCII"⟩

/-- An E3 service that accepts every connection and answers every request with `status`
and an empty body. -/
def answeringWorld (status : Nat) : (c : E3Call) → E3Call.Answer c
  | .getSocket | .tlsConnect _ | .handshake => .ok ()
  | .sendRequest _ => .ok ⟨status, .ok []⟩

/-- E3 answering 401 to `/authenticate` makes `authenticate` fail with
`FailedRequest(401)` rather than return `Ok(false)`; the request is the fourth call. -/
theorem authenticate_unauthorized_errs :
    ((authenticate (fun _ => .ok []) [107] ⟨none, ⟨"team", "app"⟩⟩).run (answeringWorld 401)).1 =
      .err (.failedRequest 401) :=
  (authenticate_never_false (answeringWorld 401) _ _ _).2 ⟨uri "/authenticate", ⟨[107], rfl⟩, "POST", []⟩
    ⟨401, .ok []⟩ (.tail _ <| .tail _ <| .tail _ <| .head _) rfl rfl

end Enclaves.E3
