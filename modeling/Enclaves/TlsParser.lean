import Enclaves.Nom
/-!
# tls-parser: records, handshake messages and extensions

The part of `tls-parser` (0.11, nom 7) that `get_hostname` runs: `parse_tls_plaintext`
reads one record, and `parse_tls_extensions` the extension block of a ClientHello.
The record header and the `take` of the record body are streaming, so a buffer that
stops inside a record is `Incomplete`.

Each record type has its parser: change-cipher-spec, alert, handshake and
application-data messages under `many1(complete(..))`, whose guard against a round that
consumes nothing makes every application-data record an error, and the heartbeat
message, which is streaming. A handshake message is parsed by the parser of its type, and
an unknown type is an error (`Switch`). An extension is parsed by the content parser of
its type, and one of an unknown type is kept raw. `get_hostname` reads only the
ClientHello and the SNI names: the other parsers decide whether a record or an extension
parses, and the model keeps what they read as the raw body (`TlsMessageHandshake.other`,
`TlsExtension.known`), not as the crate's typed fields.
-/

namespace Enclaves.Tls

open Nom

/-- `TlsRecordHeader`. -/
structure TlsRecordHeader where
  recordType : Nat
  version : Nat
  len : Nat
  deriving DecidableEq, Repr

/-- `TlsExtension`: SNI with its `(SNIType, name)` entries; an extension of a type
`tls-parser` parses, kept as its type and body; and `TlsExtension::Unknown`. -/
inductive TlsExtension where
  | sni (names : List (Nat × Bytes))
  | known (extType : Nat) (data : Bytes)
  | unknown (extType : Nat) (data : Bytes)
  deriving DecidableEq, Repr

/-- `TlsClientHelloContents`; `ext` is the raw extension block, if there is one. -/
structure TlsClientHelloContents where
  version : Nat
  random : Bytes
  sessionId : Option Bytes
  ciphers : List Nat
  comp : List Nat
  ext : Option Bytes
  deriving DecidableEq, Repr

/-- `TlsMessageHandshake`: a ClientHello, or a message of another type that parsed, kept
as its type and body. -/
inductive TlsMessageHandshake where
  | clientHello (c : TlsClientHelloContents)
  | other (handshakeType : Nat) (raw : Bytes)
  deriving DecidableEq, Repr

/-- `TlsMessage`. -/
inductive TlsMessage where
  | handshake (m : TlsMessageHandshake)
  | changeCipherSpec
  | alert (severity code : Nat)
  | applicationData (blob : Bytes)
  | heartbeat (heartbeatType payloadLen : Nat) (payload : Bytes)
  deriving DecidableEq, Repr

/-- `TlsPlaintext`: one record and the messages it carries. -/
structure TlsPlaintext where
  hdr : TlsRecordHeader
  msg : List TlsMessage
  deriving DecidableEq, Repr

/-- `MAX_RECORD_LEN`: 2^14 bytes. -/
def MAX_RECORD_LEN : Nat := 16384

/-- Run `p` on a body whose content `get_hostname` does not read, and keep the body. -/
def keepRaw {α β : Type} (p : Parser α) (f : Bytes → β) : Parser β := fun i =>
  match p i with
  | .ok (r, _) => .ok (r, f i)
  | .error e => .error e

/-! ## Handshake messages -/

/-- `chunks(2).map(|chunk| (chunk[0] as u16) << 8 | chunk[1] as u16)`, on the even number
of bytes `parse_cipher_suites` gives it. -/
def beU16s : Bytes → List Nat
  | a :: b :: rest => (a.toNat * 256 + b.toNat) :: beU16s rest
  | _ => []

/-- `parse_cipher_suites`. -/
def parseCipherSuites (len : Nat) : Parser (List Nat) := fun i =>
  if len = 0 then .ok (i, [])
  else if len % 2 = 1 ∨ i.length < len then .error (.error ⟨i, .lengthValue⟩)
  else .ok (i.drop len, beU16s (i.take len))

/-- `parse_compressions_algs`. -/
def parseCompressionsAlgs (len : Nat) : Parser (List Nat) := fun i =>
  if len = 0 then .ok (i, [])
  else if i.length < len then .error (.error ⟨i, .lengthValue⟩)
  else .ok (i.drop len, (i.take len).map UInt8.toNat)

/-- `parse_tls_handshake_msg_client_hello`. -/
def parseTlsHandshakeMsgClientHello : Parser TlsMessageHandshake := fun i => do
  let (i, version) ← beU16 i
  let (i, random) ← take 32 i
  let (i, sidlen) ← verify beU8 (· ≤ 32) i
  let (i, sid) ← cond (sidlen > 0) (take sidlen) i
  let (i, ciphersLen) ← beU16 i
  let (i, ciphers) ← parseCipherSuites ciphersLen i
  let (i, compLen) ← beU8 i
  let (i, comp) ← parseCompressionsAlgs compLen i
  let (i, ext) ← opt (complete (lengthData beU16)) i
  pure (i, .clientHello ⟨version, random, sid, ciphers, comp, ext⟩)

/-- `parse_tls_server_hello_tlsv12`. -/
def parseTlsServerHelloTlsv12 : Parser (Option Bytes) := fun i => do
  let (i, _) ← beU16 i
  let (i, _) ← take 32 i
  let (i, sidlen) ← verify beU8 (· ≤ 32) i
  let (i, _) ← cond (sidlen > 0) (take sidlen) i
  let (i, _) ← beU16 i
  let (i, _) ← beU8 i
  opt (complete (lengthData beU16)) i

/-- `parse_tls_handshake_msg_server_hello_tlsv13draft18`. -/
def parseTlsHandshakeMsgServerHelloTlsv13draft18 : Parser (Option Bytes) := fun i => do
  let (i, _) ← beU16 i
  let (i, _) ← take 32 i
  let (i, _) ← beU16 i
  opt (complete (lengthData beU16)) i

/-- `parse_tls_handshake_msg_server_hello`: the version, read ahead, picks the layout. -/
def parseTlsHandshakeMsgServerHello : Parser (Option Bytes) := fun i => do
  let (_, version) ← beU16 i
  match version with
  | 0x7f12 => parseTlsHandshakeMsgServerHelloTlsv13draft18 i
  | 0x0303 | 0x0302 | 0x0301 => parseTlsServerHelloTlsv12 i
  | _ => throw (.error ⟨i, .tag⟩)

/-- `parse_tls_handshake_msg_newsessionticket`. -/
def parseTlsHandshakeMsgNewsessionticket (len : Nat) : Parser Bytes := fun i =>
  if len < 4 then .error (.error ⟨i, .verify⟩)
  else do
    let (i, _) ← beU32 i
    take (len - 4) i

/-- `parse_tls_handshake_msg_hello_retry_request`. -/
def parseTlsHandshakeMsgHelloRetryRequest : Parser (Option Bytes) := fun i => do
  let (i, _) ← beU16 i
  let (i, _) ← beU16 i
  opt (complete (lengthData beU16)) i

/-- `parse_tls_handshake_msg_certificate`, with `parse_certs`. -/
def parseTlsHandshakeMsgCertificate : Parser (List Bytes) := fun i => do
  let (i, certLen) ← beU24 i
  mapParser (take certLen) (many0 (complete (lengthData beU24))) i

/-- `parse_certrequest_full`. -/
def parseCertrequestFull : Parser (List Bytes) := fun i => do
  let (i, _) ← lengthCount beU8 beU8 i
  let (i, sigHashAlgsLen) ← beU16 i
  let (i, _) ← mapParser (take sigHashAlgsLen) (many0 (complete beU16)) i
  let (i, caLen) ← beU16 i
  mapParser (take caLen) (many0 (complete (lengthData beU16))) i

/-- `parse_certrequest_nosigalg`. -/
def parseCertrequestNosigalg : Parser (List Bytes) := fun i => do
  let (i, _) ← lengthCount beU8 beU8 i
  let (i, caLen) ← beU16 i
  mapParser (take caLen) (many0 (complete (lengthData beU16))) i

/-- `parse_tls_handshake_msg_certificaterequest`. -/
def parseTlsHandshakeMsgCertificaterequest : Parser (List Bytes) :=
  alt (complete parseCertrequestFull) (complete parseCertrequestNosigalg)

/-- `parse_tls_handshake_msg_certificatestatus`. -/
def parseTlsHandshakeMsgCertificatestatus : Parser Bytes := fun i => do
  let (i, _) ← beU8 i
  lengthData beU24 i

/-- `parse_tls_handshake_msg_next_protocol`. -/
def parseTlsHandshakeMsgNextProtocol : Parser Bytes := fun i => do
  let (i, _) ← lengthData beU8 i
  lengthData beU8 i

/-- The `match` of `parse_tls_message_handshake` on the type `ht` of a message of `hl`
bytes: the type's parser on the body `rawMsg`; an unknown type fails with `Switch` at
`i`, the input after the body. -/
def parseTlsHandshakeMsg (ht hl : Nat) (i rawMsg : Bytes) : Except Err (Bytes × TlsMessageHandshake) :=
  match ht with
  | 0 => .ok (rawMsg, .other 0 rawMsg)  -- HelloRequest
  | 1 => parseTlsHandshakeMsgClientHello rawMsg
  | 2 => keepRaw parseTlsHandshakeMsgServerHello (.other 2) rawMsg
  | 4 => keepRaw (parseTlsHandshakeMsgNewsessionticket hl) (.other 4) rawMsg
  | 5 => .ok (rawMsg, .other 5 rawMsg)  -- EndOfEarlyData
  | 6 => keepRaw parseTlsHandshakeMsgHelloRetryRequest (.other 6) rawMsg
  | 11 => keepRaw parseTlsHandshakeMsgCertificate (.other 11) rawMsg
  | 12 => keepRaw (take hl) (.other 12) rawMsg  -- parse_tls_handshake_msg_serverkeyexchange
  | 13 => keepRaw parseTlsHandshakeMsgCertificaterequest (.other 13) rawMsg
  | 14 => keepRaw (take hl) (.other 14) rawMsg  -- parse_tls_handshake_msg_serverdone
  | 15 => keepRaw (take hl) (.other 15) rawMsg  -- parse_tls_handshake_msg_certificateverify
  | 16 => keepRaw (take hl) (.other 16) rawMsg  -- parse_tls_handshake_msg_clientkeyexchange
  | 20 => keepRaw (take hl) (.other 20) rawMsg  -- parse_tls_handshake_msg_finished
  | 22 => keepRaw parseTlsHandshakeMsgCertificatestatus (.other 22) rawMsg
  | 24 => keepRaw beU8 (.other 24) rawMsg  -- parse_tls_handshake_msg_key_update
  | 67 => keepRaw parseTlsHandshakeMsgNextProtocol (.other 67) rawMsg
  | _ => .error (.error ⟨i, .switch⟩)

/-- `parse_tls_message_handshake`: type, 24-bit length, body. -/
def parseTlsMessageHandshake : Parser TlsMessage := fun i => do
  let (i, ht) ← beU8 i
  let (i, hl) ← beU24 i
  let (i, rawMsg) ← take hl i
  let (_, msg) ← parseTlsHandshakeMsg ht hl i rawMsg
  pure (i, .handshake msg)

/-! ## Records -/

/-- `parse_tls_record_header`. -/
def parseTlsRecordHeader : Parser TlsRecordHeader := fun i => do
  let (i, recordType) ← beU8 i
  let (i, version) ← beU16 i
  let (i, len) ← beU16 i
  pure (i, ⟨recordType, version, len⟩)

/-- `parse_tls_message_changecipherspec`. -/
def parseTlsMessageChangecipherspec : Parser TlsMessage := fun i => do
  let (i, _) ← verify beU8 (· = 1) i
  pure (i, .changeCipherSpec)

/-- `parse_tls_message_alert`. -/
def parseTlsMessageAlert : Parser TlsMessage := fun i => do
  let (i, severity) ← beU8 i
  let (i, code) ← beU8 i
  pure (i, .alert severity code)

/-- `parse_tls_message_applicationdata`: the whole input. -/
def parseTlsMessageApplicationdata : Parser TlsMessage := fun i => .ok ([], .applicationData i)

/-- `parse_tls_message_heartbeat`, on the body of a record of `tlsPlaintextLen` bytes. -/
def parseTlsMessageHeartbeat (tlsPlaintextLen : Nat) : Parser (List TlsMessage) := fun i => do
  let (i, heartbeatType) ← beU8 i
  let (i, payloadLen) ← beU16 i
  if tlsPlaintextLen < 3 then throw (.error ⟨i, .verify⟩)
  let (i, payload) ← take payloadLen i
  let (i, _) ← cond (payloadLen < tlsPlaintextLen - 3) (take (tlsPlaintextLen - 3 - payloadLen)) i
  pure (i, [.heartbeat heartbeatType payloadLen payload])

/-- `parse_tls_record_with_header`. -/
def parseTlsRecordWithHeader (hdr : TlsRecordHeader) : Parser (List TlsMessage) := fun i =>
  match hdr.recordType with
  | 20 => many1 (complete parseTlsMessageChangecipherspec) i
  | 21 => many1 (complete parseTlsMessageAlert) i
  | 22 => many1 (complete parseTlsMessageHandshake) i
  | 23 => many1 (complete parseTlsMessageApplicationdata) i
  | 24 => parseTlsMessageHeartbeat hdr.len i
  | _ => .error (.error ⟨i, .switch⟩)

/-- `parse_tls_plaintext`: one record, as long as its header says. -/
def parseTlsPlaintext : Parser TlsPlaintext := fun i => do
  let (i, hdr) ← parseTlsRecordHeader i
  if MAX_RECORD_LEN < hdr.len then throw (.error ⟨i, .tooLarge⟩)
  let (i, msg) ← mapParser (take hdr.len) (parseTlsRecordWithHeader hdr) i
  pure (i, ⟨hdr, msg⟩)

/-! ## Extensions -/

/-- `parse_tls_extension_sni_hostname`. -/
def parseTlsExtensionSniHostname : Parser (Nat × Bytes) := fun i => do
  let (i, t) ← beU8 i
  let (i, v) ← lengthData beU16 i
  pure (i, (t, v))

/-- `parse_tls_extension_sni_content`: an empty body is an empty list. -/
def parseTlsExtensionSniContent : Parser TlsExtension := fun i =>
  if i = [] then .ok (i, .sni [])
  else do
    let (i, listLen) ← beU16 i
    let (i, v) ← mapParser (take listLen) (many0 (complete parseTlsExtensionSniHostname)) i
    pure (i, .sni v)

/-- `parse_tls_extension_status_request_content`. -/
def parseTlsExtensionStatusRequestContent (extLen : Nat) : Parser (Option Bytes) := fun i =>
  if extLen = 0 then .ok (i, none)
  else do
    let (i, _) ← beU8 i
    let (i, request) ← take (extLen - 1) i
    pure (i, some request)

/-- `parse_named_groups`: the loop of `parse_cipher_suites`, over the whole input. -/
def parseNamedGroups : Parser (List Nat) := fun i => parseCipherSuites i.length i

/-- `parse_tls_versions`: the same loop. -/
def parseTlsVersions : Parser (List Nat) := fun i => parseCipherSuites i.length i

/-- `parse_tls_extension_supported_versions_content`: one version in a ServerHello, a
list after its length byte in a ClientHello. -/
def parseTlsExtensionSupportedVersionsContent (extLen : Nat) : Parser (List Nat) := fun i =>
  if extLen = 2 then do
    let (i, x) ← beU16 i
    pure (i, [x])
  else do
    let (i, _) ← beU8 i
    if extLen = 0 then throw (.error ⟨i, .verify⟩)
    mapParser (take (extLen - 1)) parseTlsVersions i

/-- `parse_tls_extension_encrypt_then_mac_content`, and the same check of
`parse_tls_extension_extended_master_secret_content` and
`parse_tls_extension_post_handshake_auth_content`: the extension has no content. -/
def parseTlsExtensionEmptyContent (extLen : Nat) : Parser Unit := fun i =>
  if extLen ≠ 0 then .error (.error ⟨i, .verify⟩) else .ok (i, ())

/-- `parse_tls_oid_filter`. -/
def parseTlsOidFilter : Parser Bytes := fun i => do
  let (i, _) ← lengthData beU8 i
  lengthData beU16 i

/-- `parse_tls_extension_encrypted_server_name`. -/
def parseTlsExtensionEncryptedServerName : Parser Bytes := fun i => do
  let (i, _) ← beU16 i
  let (i, _) ← beU16 i
  let (i, _) ← lengthData beU16 i
  let (i, _) ← lengthData beU16 i
  lengthData beU16 i

/-- `parse_tls_extension_unknown`. -/
def parseTlsExtensionUnknown (extType extLen : Nat) : Parser TlsExtension := fun i => do
  let (i, extData) ← take extLen i
  pure (i, .unknown extType extData)

/-- `parse_tls_extension_with_type`: the content parser of the extension's type, or
`parse_tls_extension_unknown`. -/
def parseTlsExtensionWithType (extType extLen : Nat) : Parser TlsExtension :=
  match extType with
  | 0x0000 => parseTlsExtensionSniContent
  | 0x0001 => keepRaw beU8 (.known 0x0001)  -- max_fragment_length
  | 0x0005 => keepRaw (parseTlsExtensionStatusRequestContent extLen) (.known 0x0005)
  | 0x000a => keepRaw (mapParser (lengthData beU16) parseNamedGroups) (.known 0x000a)  -- elliptic_curves
  | 0x000b => keepRaw (lengthData beU8) (.known 0x000b)  -- ec_point_formats
  | 0x000d => keepRaw (mapParser (lengthData beU16) (many0 (complete beU16))) (.known 0x000d)  -- signature_algorithms
  | 0x000f => keepRaw beU8 (.known 0x000f)  -- heartbeat
  | 0x0010 => keepRaw (mapParser (lengthData beU16) (many0 (complete (lengthData beU8)))) (.known 0x0010)  -- alpn
  | 0x0012 => keepRaw (opt (complete (lengthData beU16))) (.known 0x0012)  -- signed_certificate_timestamp
  | 0x0015 => keepRaw (take extLen) (.known 0x0015)  -- padding
  | 0x0016 => keepRaw (parseTlsExtensionEmptyContent extLen) (.known 0x0016)  -- encrypt_then_mac
  | 0x0017 => keepRaw (parseTlsExtensionEmptyContent extLen) (.known 0x0017)  -- extended_master_secret
  | 0x001c => keepRaw beU16 (.known 0x001c)  -- record_size_limit
  | 0x0023 => keepRaw (take extLen) (.known 0x0023)  -- session_ticket
  | 0x0028 => keepRaw (take extLen) (.known 0x0028)  -- key_share_old
  | 0x0029 => keepRaw (take extLen) (.known 0x0029)  -- pre_shared_key
  | 0x002a => keepRaw (cond (extLen > 0) beU32) (.known 0x002a)  -- early_data
  | 0x002b => keepRaw (parseTlsExtensionSupportedVersionsContent extLen) (.known 0x002b)
  | 0x002c => keepRaw (take extLen) (.known 0x002c)  -- cookie
  | 0x002d => keepRaw (lengthData beU8) (.known 0x002d)  -- psk_key_exchange_modes
  | 0x0030 => keepRaw (mapParser (lengthData beU16) (many0 (complete parseTlsOidFilter))) (.known 0x0030)  -- oid_filters
  | 0x0031 => keepRaw (parseTlsExtensionEmptyContent extLen) (.known 0x0031)  -- post_handshake_auth
  | 0x0033 => keepRaw (take extLen) (.known 0x0033)  -- key_share
  | 0x3374 => keepRaw (take extLen) (.known 0x3374)  -- npn
  | 0xff01 => keepRaw (lengthData beU8) (.known 0xff01)  -- renegotiation_info
  | 0xffce => keepRaw parseTlsExtensionEncryptedServerName (.known 0xffce)
  | _ => parseTlsExtensionUnknown extType extLen

/-- `parse_tls_extension`. -/
def parseTlsExtension : Parser TlsExtension := fun i => do
  let (i, extType) ← beU16 i
  let (i, extLen) ← beU16 i
  mapParser (take extLen) (parseTlsExtensionWithType extType extLen) i

/-- `parse_tls_extensions`. -/
def parseTlsExtensions : Parser (List TlsExtension) := many0 (complete parseTlsExtension)

/-! ## What the parsers keep to -/

theorem parseTlsRecordHeader_rests : Rests parseTlsRecordHeader := by
  intro i r o h
  simp only [parseTlsRecordHeader, bind_eq_ok] at h
  obtain ⟨⟨i1, _⟩, h1, ⟨i2, _⟩, h2, ⟨i3, _⟩, h3, h⟩ := h
  dsimp only at h2 h3 h
  simp only [except_pure, Except.ok.injEq, Prod.mk.injEq] at h
  obtain ⟨rfl, -⟩ := h
  exact (beU16_rests h3).trans ((beU16_rests h2).trans (beU8_rests h1))

theorem parseTlsRecordHeader_streams : Streams parseTlsRecordHeader := by
  intro i r o e h
  simp only [parseTlsRecordHeader, bind_eq_ok] at h ⊢
  obtain ⟨⟨i1, _⟩, h1, ⟨i2, _⟩, h2, ⟨i3, _⟩, h3, h⟩ := h
  dsimp only at h2 h3 h ⊢
  simp only [except_pure, Except.ok.injEq, Prod.mk.injEq] at h
  obtain ⟨rfl, rfl⟩ := h
  exact ⟨_, beU8_streams e h1, _, beU16_streams e h2, _, beU16_streams e h3, rfl⟩

theorem parseCipherSuites_rests (len : Nat) : Rests (parseCipherSuites len) := by
  intro i r o h
  unfold parseCipherSuites at h
  split_ifs at h <;> cases h
  · exact List.suffix_refl i
  · exact List.drop_suffix len i

theorem parseCompressionsAlgs_rests (len : Nat) : Rests (parseCompressionsAlgs len) := by
  intro i r o h
  unfold parseCompressionsAlgs at h
  split_ifs at h <;> cases h
  · exact List.suffix_refl i
  · exact List.drop_suffix len i

/-- The extension block of a ClientHello is a slice of the handshake message. -/
theorem parseTlsHandshakeMsgClientHello_ext {i r raw : Bytes} {ch : TlsClientHelloContents}
    (h : parseTlsHandshakeMsgClientHello i = .ok (r, .clientHello ch)) (he : ch.ext = some raw) :
    raw <:+: i := by
  simp only [parseTlsHandshakeMsgClientHello, bind_eq_ok] at h
  obtain ⟨⟨i1, _⟩, h1, ⟨i2, _⟩, h2, ⟨i3, _⟩, h3, ⟨i4, _⟩, h4, ⟨i5, _⟩, h5, ⟨i6, _⟩, h6,
    ⟨i7, _⟩, h7, ⟨i8, _⟩, h8, ⟨i9, ext⟩, h9, h⟩ := h
  dsimp only at h2 h3 h4 h5 h6 h7 h8 h9 h
  simp only [except_pure, Except.ok.injEq, Prod.mk.injEq, TlsMessageHandshake.clientHello.injEq] at h
  obtain ⟨-, rfl⟩ := h
  subst he
  have hi8 : i8 <:+ i := (parseCompressionsAlgs_rests _ h8).trans <| (beU8_rests h7).trans <|
    (parseCipherSuites_rests _ h6).trans <| (beU16_rests h5).trans <|
    (cond_rests (take_rests _) _ h4).trans <| (verify_rests beU8_rests _ h3).trans <|
    (take_rests _ h2).trans (beU16_rests h1)
  exact (lengthData_output beU16_rests (complete_eq_ok (opt_eq_ok_some h9))).trans hi8.isInfix

theorem keepRaw_eq_ok {α β : Type} {p : Parser α} {f : Bytes → β} {i r : Bytes} {o : β}
    (h : keepRaw p f i = .ok (r, o)) : o = f i := by
  unfold keepRaw at h
  split at h <;> cases h
  rfl

/-- Only a message of type 1 is a ClientHello, and it is the ClientHello parser's. -/
theorem parseTlsHandshakeMsg_clientHello {ht hl : Nat} {i rawMsg r : Bytes} {ch : TlsClientHelloContents}
    (h : parseTlsHandshakeMsg ht hl i rawMsg = .ok (r, .clientHello ch)) :
    parseTlsHandshakeMsgClientHello rawMsg = .ok (r, .clientHello ch) := by
  unfold parseTlsHandshakeMsg at h
  split at h <;> first | exact h | cases keepRaw_eq_ok h | cases h

/-- A ClientHello message was parsed from a slice of the input. -/
theorem parseTlsMessageHandshake_clientHello {i r : Bytes} {ch : TlsClientHelloContents}
    (h : parseTlsMessageHandshake i = .ok (r, .handshake (.clientHello ch))) :
    ∃ rawMsg r', rawMsg <:+: i ∧ parseTlsHandshakeMsgClientHello rawMsg = .ok (r', .clientHello ch) := by
  simp only [parseTlsMessageHandshake, bind_eq_ok] at h
  obtain ⟨⟨i1, ht⟩, h1, ⟨i2, _⟩, h2, ⟨i3, rawMsg⟩, h3, ⟨r', _⟩, h4, h⟩ := h
  simp only [except_pure, Except.ok.injEq, Prod.mk.injEq, TlsMessage.handshake.injEq] at h
  obtain ⟨-, rfl⟩ := h
  exact ⟨rawMsg, r', (take_output h3).isInfix.trans ((beU24_rests h2).trans (beU8_rests h1)).isInfix,
    parseTlsHandshakeMsg_clientHello h4⟩

/-- A heartbeat record carries one heartbeat message. -/
theorem parseTlsMessageHeartbeat_eq_ok {n : Nat} {i r : Bytes} {msgs : List TlsMessage}
    (h : parseTlsMessageHeartbeat n i = .ok (r, msgs)) : ∃ t l p, msgs = [.heartbeat t l p] := by
  simp only [parseTlsMessageHeartbeat, bind_eq_ok] at h
  obtain ⟨⟨_, t⟩, -, ⟨_, l⟩, -, h⟩ := h
  split at h
  · cases h
  simp only [except_pure, except_ok_bind, bind_eq_ok] at h
  obtain ⟨⟨_, p⟩, -, _, -, h⟩ := h
  simp only [except_pure, Except.ok.injEq, Prod.mk.injEq] at h
  exact ⟨t, l, p, h.2.symm⟩

/-- A record carries a message, and a first handshake message is the handshake parser's,
on the whole body: the other record types carry no handshake message. -/
theorem parseTlsRecordWithHeader_eq_ok {hdr : TlsRecordHeader} {i r : Bytes} {msgs : List TlsMessage}
    (h : parseTlsRecordWithHeader hdr i = .ok (r, msgs)) :
    msgs ≠ [] ∧ ∀ m, msgs.head? = some (.handshake m) → ∃ r', parseTlsMessageHandshake i = .ok (r', .handshake m) := by
  unfold parseTlsRecordWithHeader at h
  split at h
  case h_5 =>
    obtain ⟨t, l, p, rfl⟩ := parseTlsMessageHeartbeat_eq_ok h
    exact ⟨List.cons_ne_nil _ _, fun m hm => by cases hm⟩
  case h_6 => cases h
  all_goals refine ⟨fun hn => many1_ne_nil (hn ▸ h), fun m hm => ?_⟩
  all_goals
    obtain ⟨r', o, h1, ho⟩ := many1_head h
    rw [hm, Option.some.injEq] at ho
    subst ho
    replace h1 := complete_eq_ok h1
  case h_3 => exact ⟨r', h1⟩
  all_goals simp [parseTlsMessageChangecipherspec, parseTlsMessageAlert, parseTlsMessageApplicationdata,
    bind_eq_ok] at h1

/-- The extension block of a record's first ClientHello is a slice of the buffer. -/
theorem parseTlsPlaintext_ext {d r raw : Bytes} {p : TlsPlaintext} {ch : TlsClientHelloContents}
    (hp : parseTlsPlaintext d = .ok (r, p)) (hm : p.msg.head? = some (.handshake (.clientHello ch)))
    (he : ch.ext = some raw) : raw <:+: d := by
  simp only [parseTlsPlaintext, bind_eq_ok] at hp
  obtain ⟨⟨i1, hdr⟩, h1, hp⟩ := hp
  split at hp
  · cases hp
  simp only [except_pure, bind_eq_ok] at hp
  obtain ⟨-, -, ⟨i2, msg⟩, h2, hp⟩ := hp
  simp only [Except.ok.injEq, Prod.mk.injEq] at hp
  obtain ⟨-, rfl⟩ := hp
  obtain ⟨body, _, ht, hq⟩ := mapParser_eq_ok h2
  obtain ⟨_, hmsg⟩ := (parseTlsRecordWithHeader_eq_ok hq).2 _ hm
  obtain ⟨rawMsg, _, hraw, hch⟩ := parseTlsMessageHandshake_clientHello hmsg
  exact (parseTlsHandshakeMsgClientHello_ext hch he).trans <| hraw.trans <|
    (take_output ht).isInfix.trans (parseTlsRecordHeader_rests h1).isInfix

/-- A record that parses gives the same record, and leaves the bytes after it, on any
longer input. -/
theorem parseTlsPlaintext_streams : Streams parseTlsPlaintext := by
  intro i r p e h
  simp only [parseTlsPlaintext, bind_eq_ok] at h ⊢
  obtain ⟨⟨i1, hdr⟩, h1, h⟩ := h
  refine ⟨(i1 ++ e, hdr), parseTlsRecordHeader_streams e h1, ?_⟩
  dsimp only at h ⊢
  split at h
  · cases h
  rw [if_neg ‹_›]
  simp only [except_pure, except_ok_bind, bind_eq_ok] at h ⊢
  obtain ⟨⟨i2, msg⟩, h2, h⟩ := h
  simp only [Except.ok.injEq, Prod.mk.injEq] at h
  obtain ⟨rfl, rfl⟩ := h
  exact ⟨_, mapParser_streams _ (take_streams _) e h2, rfl⟩

theorem parseTlsRecordHeader_ne_error (i : Bytes) (x : Error) :
    parseTlsRecordHeader i ≠ .error (.error x) := by
  intro h
  rcases i with _ | ⟨_, _ | ⟨_, _ | ⟨_, _ | ⟨_, _ | ⟨_, _⟩⟩⟩⟩⟩ <;> cases h

/-- A record that fails to parse with an error fails with an error on any longer input:
only a record that asks for more input can be decided otherwise by more bytes. -/
theorem parseTlsPlaintext_error_streams {d : Bytes} {x : Error} (e : Bytes)
    (h : parseTlsPlaintext d = .error (.error x)) : ∃ x', parseTlsPlaintext (d ++ e) = .error (.error x') := by
  rcases h1 : parseTlsRecordHeader d with (n | x1) | ⟨i1, hdr⟩
  · simp [parseTlsPlaintext, h1] at h
  · exact absurd h1 (parseTlsRecordHeader_ne_error d x1)
  have h1' := parseTlsRecordHeader_streams e h1
  by_cases hl : MAX_RECORD_LEN < hdr.len
  · exact ⟨⟨i1 ++ e, .tooLarge⟩, by simp [parseTlsPlaintext, h1', hl]⟩
  rcases ht : take hdr.len i1 with (n | x2) | ⟨r1, body⟩
  · simp [parseTlsPlaintext, h1, hl, mapParser, ht] at h
  · unfold take at ht
    split at ht <;> cases ht
  rcases hq : parseTlsRecordWithHeader hdr body with x3 | ⟨r2, msg⟩
  · simp only [parseTlsPlaintext, h1, hl, mapParser, ht, hq, except_ok_bind, if_false, except_pure,
      except_error_bind] at h
    exact ⟨x, by simp [parseTlsPlaintext, h1', hl, mapParser, take_streams _ e ht, hq, h]⟩
  · simp [parseTlsPlaintext, h1, hl, mapParser, ht, hq] at h

/-! ## Extensions -/

theorem parseTlsExtensionSniHostname_ok {i r : Bytes} {o : Nat × Bytes}
    (h : parseTlsExtensionSniHostname i = .ok (r, o)) : r <:+ i ∧ o.2 <:+: i := by
  simp only [parseTlsExtensionSniHostname, bind_eq_ok] at h
  obtain ⟨⟨i1, _⟩, h1, ⟨i2, _⟩, h2, h⟩ := h
  dsimp only at h2 h
  simp only [except_pure, Except.ok.injEq, Prod.mk.injEq] at h
  obtain ⟨rfl, rfl⟩ := h
  exact ⟨(lengthData_rests beU16_rests h2).trans (beU8_rests h1),
    (lengthData_output beU16_rests h2).trans (beU8_rests h1).isInfix⟩

/-- The names of an SNI extension are slices of its body. -/
theorem parseTlsExtensionSniContent_names {i r : Bytes} {v : List (Nat × Bytes)}
    (h : parseTlsExtensionSniContent i = .ok (r, .sni v)) : ∀ e ∈ v, e.2 <:+: i := by
  unfold parseTlsExtensionSniContent at h
  split at h
  · cases h
    exact fun _ he => nomatch he
  simp only [bind_eq_ok] at h
  obtain ⟨⟨i1, _⟩, h1, ⟨i2, v'⟩, h2, h⟩ := h
  dsimp only at h2 h
  simp only [except_pure, Except.ok.injEq, Prod.mk.injEq, TlsExtension.sni.injEq] at h
  obtain ⟨-, rfl⟩ := h
  obtain ⟨list, _, ht, hm⟩ := mapParser_eq_ok h2
  intro e he
  obtain ⟨j, _, hj, hp⟩ :=
    manyLoop_mem (complete_rests fun ⦃_ _ _⦄ h => (parseTlsExtensionSniHostname_ok h).1) hm he
  exact (parseTlsExtensionSniHostname_ok (complete_eq_ok hp)).2.trans <| hj.isInfix.trans <|
    (take_output ht).isInfix.trans (beU16_rests h1).isInfix

/-- Only an extension of type 0 is SNI, and it is the SNI parser's. -/
theorem parseTlsExtensionWithType_sni {t n : Nat} {i r : Bytes} {v : List (Nat × Bytes)}
    (h : parseTlsExtensionWithType t n i = .ok (r, .sni v)) : parseTlsExtensionSniContent i = .ok (r, .sni v) := by
  unfold parseTlsExtensionWithType at h
  split at h <;> first | exact h | cases keepRaw_eq_ok h | simp [parseTlsExtensionUnknown, bind_eq_ok] at h

/-- An extension that parses takes at least its type and length fields and leaves an end
of its input; the names of an SNI extension are slices of it. -/
theorem parseTlsExtension_ok {i r : Bytes} {o : TlsExtension} (h : parseTlsExtension i = .ok (r, o)) :
    r <:+ i ∧ r.length < i.length ∧ ∀ v, o = .sni v → ∀ e ∈ v, e.2 <:+: i := by
  simp only [parseTlsExtension, bind_eq_ok] at h
  obtain ⟨⟨i1, _⟩, h1, ⟨i2, _⟩, h2, h⟩ := h
  dsimp only at h2 h
  obtain ⟨body, _, ht, hw⟩ := mapParser_eq_ok h
  have hi2 : i2 <:+ i := (beU16_rests h2).trans (beU16_rests h1)
  refine ⟨(take_rests _ ht).trans hi2, ?_, fun v hv e he => ?_⟩
  · have := beU16_consumes h1
    have := beU16_consumes h2
    rw [(take_eq_ok ht).1, List.length_drop]
    omega
  · subst hv
    exact (parseTlsExtensionSniContent_names (parseTlsExtensionWithType_sni hw) e he).trans
      ((take_output ht).isInfix.trans hi2.isInfix)

/-- The extension parser never fails: `many0` stops at the first extension that does not
parse and keeps the ones before it. -/
theorem parseTlsExtensions_ok (raw : Bytes) : ∃ s exts, parseTlsExtensions raw = .ok (s, exts) :=
  manyLoop_ok (complete_ne_incomplete _)
    (fun _ _ _ h => (parseTlsExtension_ok (complete_eq_ok h)).2.1) _ _ _

/-- Every name of an SNI extension the extension parser returns is a slice of the block. -/
theorem parseTlsExtensions_names {raw s : Bytes} {exts : List TlsExtension}
    (h : parseTlsExtensions raw = .ok (s, exts)) {v : List (Nat × Bytes)} (hv : .sni v ∈ exts) :
    ∀ e ∈ v, e.2 <:+: raw := by
  obtain ⟨j, _, hj, hp⟩ :=
    manyLoop_mem (complete_rests fun ⦃_ _ _⦄ h => (parseTlsExtension_ok h).1) h hv
  exact fun e he => ((parseTlsExtension_ok (complete_eq_ok hp)).2.2 v rfl e he).trans hj.isInfix

end Enclaves.Tls
