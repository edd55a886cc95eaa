import Enclaves.Forwarding
/-!
# ClientHello records, written and read back

What a TLS client sends first, as bytes: SNI entries and other extensions, the
ClientHello body, its handshake message and its record. The encoder is ours (the source
only parses); it says which inputs are well formed, an extension other than SNI being well
formed when the content parser of its type accepts its body. The parsers of `tls-parser`
read back everything it writes, followed by anything (`parseTlsExtensions_flatMap`,
`parseTlsPlaintext_clientHelloRecord`), so `get_hostname` on any such record, of any size
up to `MAX_RECORD_LEN`, returns the last SNI name that is UTF-8, the empty name when there
is none, and no name when the ClientHello has no extension block
(`getHostname_clientHelloRecord`). When the SNI entries carry the UTF-8 bytes of host names,
an egress task looks up the last of them, the host the client asked for
(`handleEgressConnection_looks_up_sent_name`).
-/

namespace Enclaves.Tls

open Nom

/-! ## Length-prefixed fields -/

/-- `n < 2^16` in two big-endian bytes. -/
def u16Bytes (n : Nat) : Bytes := [UInt8.ofNat (n / 256), UInt8.ofNat (n % 256)]

/-- `n < 2^24` in three big-endian bytes. -/
def u24Bytes (n : Nat) : Bytes := [UInt8.ofNat (n / 65536), UInt8.ofNat (n / 256 % 256), UInt8.ofNat (n % 256)]

/-- `b` after its length in two bytes. -/
def withLen16 (b : Bytes) : Bytes := u16Bytes b.length ++ b

theorem beU16_u16Bytes {n : Nat} (h : n < 65536) (i : Bytes) : beU16 (u16Bytes n ++ i) = .ok (i, n) := by
  simp only [u16Bytes, List.cons_append, List.nil_append, beU16_cons,
    toNat_ofNat_lt (show n / 256 < 256 by omega), toNat_ofNat_lt (show n % 256 < 256 by omega)]
  congr 2
  omega

theorem beU24_u24Bytes {n : Nat} (h : n < 16777216) (i : Bytes) : beU24 (u24Bytes n ++ i) = .ok (i, n) := by
  simp only [u24Bytes, List.cons_append, List.nil_append, beU24_cons,
    toNat_ofNat_lt (show n / 65536 < 256 by omega), toNat_ofNat_lt (show n / 256 % 256 < 256 by omega),
    toNat_ofNat_lt (show n % 256 < 256 by omega)]
  congr 2
  omega

theorem beU16_withLen16 {b : Bytes} (h : b.length < 65536) (i : Bytes) :
    beU16 (withLen16 b ++ i) = .ok (b ++ i, b.length) := by
  rw [withLen16, List.append_assoc, beU16_u16Bytes h]

theorem take_append (xs i : Bytes) : take xs.length (xs ++ i) = .ok (i, xs) := by
  unfold take
  rw [if_neg (by rw [List.length_append]; omega), List.drop_left, List.take_left]

theorem lengthData_withLen16 {b : Bytes} (h : b.length < 65536) (i : Bytes) :
    lengthData beU16 (withLen16 b ++ i) = .ok (i, b) := by
  simp only [lengthData, withLen16, List.append_assoc, beU16_u16Bytes h, take_append]

theorem mapParser_take_append {α : Type} {q : Parser α} {xs r : Bytes} {o : α} (h : q xs = .ok (r, o))
    (i : Bytes) : mapParser (take xs.length) q (xs ++ i) = .ok (i, o) := by
  simp [mapParser, take_append, h]

theorem complete_of_ok {α : Type} {p : Parser α} {i r : Bytes} {o : α} (h : p i = .ok (r, o)) :
    complete p i = .ok (r, o) := by
  simp [complete, h]

theorem complete_of_incomplete {α : Type} {p : Parser α} {i : Bytes} {n : Nat}
    (h : p i = .error (.incomplete n)) : complete p i = .error (.error ⟨i, .complete⟩) := by
  simp [complete, h]

section Repeat

variable {β : Type} {enc : β → Bytes} {p : Parser β}

/-- A loop over `p` reads back a list of items `p` reads one by one, up to the end of
its input. -/
theorem manyLoop_flatMap (kind : ErrorKind) (xs : List β)
    (hp : ∀ x ∈ xs, ∀ i, p (enc x ++ i) = .ok (i, x)) (hne : ∀ x ∈ xs, enc x ≠ [])
    (hend : ∃ e, p [] = .error (.error e)) (fuel : Nat) (hf : xs.length < fuel) :
    manyLoop kind p fuel (xs.flatMap enc) = .ok ([], xs) := by
  induction xs generalizing fuel with
  | nil =>
    obtain ⟨e, he⟩ := hend
    obtain ⟨f, rfl⟩ : ∃ f, fuel = f + 1 := ⟨fuel - 1, by simp at hf; omega⟩
    simp [manyLoop, he]
  | cons x xs ih =>
    obtain ⟨f, rfl⟩ : ∃ f, fuel = f + 1 := ⟨fuel - 1, by simp at hf; omega⟩
    have hlen : (xs.flatMap enc).length ≠ (enc x ++ xs.flatMap enc).length := by
      have := List.length_pos.2 (hne x (.head _))
      simp only [List.length_append]
      omega
    rw [List.flatMap_cons, manyLoop, hp x (.head _)]
    simp only [if_neg hlen, ih (fun y hy => hp y (.tail _ hy)) (fun y hy => hne y (.tail _ hy)) f
      (by simp at hf; omega)]

theorem many0_flatMap (xs : List β)
    (hp : ∀ x ∈ xs, ∀ i, p (enc x ++ i) = .ok (i, x)) (hne : ∀ x ∈ xs, enc x ≠ [])
    (hend : ∃ e, p [] = .error (.error e)) :
    many0 p (xs.flatMap enc) = .ok ([], xs) :=
  manyLoop_flatMap _ xs hp hne hend _ (Nat.lt_succ_of_le (length_le_flatMap xs hne))

end Repeat

/-! ## Extensions -/

/-- The bytes of an SNI entry: its type, then its name after a 16-bit length. -/
def sniEntryBytes (entry : Nat × Bytes) : Bytes := UInt8.ofNat entry.1 :: withLen16 entry.2

/-- The bytes of an extension: its type, then its data after a 16-bit length. -/
def extensionBytes : TlsExtension → Bytes
  | .sni names => u16Bytes 0 ++ withLen16 (withLen16 (names.flatMap sniEntryBytes))
  | .known extType data | .unknown extType data => u16Bytes extType ++ withLen16 data

/-- An extension the encoder writes within its fields, as `tls-parser` reads it: SNI
entries and lengths that fit; for another extension, a type and a body that fit, the body
being one the content parser of its type accepts (a known type), or the type one the
crate does not know. -/
def ExtensionFits : TlsExtension → Prop
  | .sni names => (∀ e ∈ names, e.1 < 256 ∧ e.2.length < 65536) ∧
      (names.flatMap sniEntryBytes).length + 2 < 65536
  | .known extType data => extType < 65536 ∧ data.length < 65536 ∧
      ∃ r, parseTlsExtensionWithType extType data.length data = .ok (r, .known extType data)
  | .unknown extType data => extType < 65536 ∧ data.length < 65536 ∧
      ∃ r, parseTlsExtensionWithType extType data.length data = .ok (r, .unknown extType data)

theorem parseTlsExtensionSniHostname_sniEntryBytes {e : Nat × Bytes}
    (h : e.1 < 256 ∧ e.2.length < 65536) (i : Bytes) :
    parseTlsExtensionSniHostname (sniEntryBytes e ++ i) = .ok (i, e) := by
  simp [parseTlsExtensionSniHostname, sniEntryBytes, toNat_ofNat_lt h.1, lengthData_withLen16 h.2]

theorem parseTlsExtensionSniContent_withLen16 (names : List (Nat × Bytes))
    (h : ∀ e ∈ names, e.1 < 256 ∧ e.2.length < 65536) (hl : (names.flatMap sniEntryBytes).length < 65536)
    (i : Bytes) :
    parseTlsExtensionSniContent (withLen16 (names.flatMap sniEntryBytes) ++ i) = .ok (i, .sni names) := by
  have hm : many0 (complete parseTlsExtensionSniHostname) (names.flatMap sniEntryBytes) = .ok ([], names) :=
    many0_flatMap names (fun e he i => complete_of_ok (parseTlsExtensionSniHostname_sniEntryBytes (h e he) i))
      (fun _ _ => List.cons_ne_nil _ _) ⟨_, complete_of_incomplete rfl⟩
  have hne : withLen16 (names.flatMap sniEntryBytes) ++ i ≠ [] := by simp [withLen16, u16Bytes]
  simp only [parseTlsExtensionSniContent, if_neg hne, beU16_withLen16 hl, except_ok_bind,
    mapParser_take_append hm, except_pure]

theorem parseTlsExtension_extensionBytes {e : TlsExtension} (h : ExtensionFits e) (i : Bytes) :
    parseTlsExtension (extensionBytes e ++ i) = .ok (i, e) := by
  cases e with
  | sni names =>
    obtain ⟨hn, hl⟩ := h
    set W := withLen16 (names.flatMap sniEntryBytes) with hW
    have hWl : W.length < 65536 := by
      simp only [hW, withLen16, u16Bytes, List.length_append, List.length_cons, List.length_nil]; omega
    have hw : parseTlsExtensionWithType 0 W.length W = .ok ([], .sni names) := by
      have hc := parseTlsExtensionSniContent_withLen16 names hn (by omega) []
      rwa [List.append_nil] at hc
    have he : extensionBytes (.sni names) ++ i = u16Bytes 0 ++ (u16Bytes W.length ++ (W ++ i)) := rfl
    rw [he]
    simp only [parseTlsExtension, beU16_u16Bytes (show 0 < 65536 by omega), beU16_u16Bytes hWl,
      except_ok_bind, mapParser_take_append hw]
  | known t data | unknown t data =>
    obtain ⟨ht, hd, r, hw⟩ := h
    simp only [parseTlsExtension, extensionBytes, withLen16, List.append_assoc, beU16_u16Bytes ht,
      beU16_u16Bytes hd, except_ok_bind, mapParser_take_append hw]

/-- The extension parser reads back every list of extensions the encoder writes. -/
theorem parseTlsExtensions_flatMap (exts : List TlsExtension) (h : ∀ e ∈ exts, ExtensionFits e) :
    parseTlsExtensions (exts.flatMap extensionBytes) = .ok ([], exts) :=
  many0_flatMap exts (fun e he i => complete_of_ok (parseTlsExtension_extensionBytes (h e he) i))
    (fun e _ => by cases e <;> simp [extensionBytes, u16Bytes]) ⟨_, complete_of_incomplete rfl⟩

/-! ## The ClientHello -/

/-- The bytes of a session id: its length, then its bytes; no session id is length 0. -/
def sessionIdBytes : Option Bytes → Bytes
  | none => [0]
  | some s => UInt8.ofNat s.length :: s

/-- The body of a ClientHello handshake message. -/
def clientHelloBytes (c : TlsClientHelloContents) : Bytes :=
  u16Bytes c.version ++ c.random ++ sessionIdBytes c.sessionId ++
    withLen16 (c.ciphers.flatMap u16Bytes) ++ (UInt8.ofNat c.comp.length :: c.comp.map UInt8.ofNat) ++
    (c.ext.map withLen16).getD []

/-- A ClientHello the encoder writes within its fields. -/
structure ClientHelloFits (c : TlsClientHelloContents) : Prop where
  version : c.version < 65536
  random : c.random.length = 32
  sessionId : ∀ s, c.sessionId = some s → 0 < s.length ∧ s.length ≤ 32
  ciphers : ∀ x ∈ c.ciphers, x < 65536
  ciphersLen : 2 * c.ciphers.length < 65536
  comp : ∀ x ∈ c.comp, x < 256
  compLen : c.comp.length < 256
  ext : ∀ e, c.ext = some e → e.length < 65536

theorem take_of_length {n : Nat} {xs : Bytes} (h : xs.length = n) (i : Bytes) :
    take n (xs ++ i) = .ok (i, xs) := h ▸ take_append xs i

theorem length_flatMap_u16Bytes (xs : List Nat) : (xs.flatMap u16Bytes).length = 2 * xs.length := by
  induction xs with
  | nil => rfl
  | cons x xs ih => simp [u16Bytes, ih]; omega

theorem beU16s_flatMap (xs : List Nat) (h : ∀ x ∈ xs, x < 65536) : beU16s (xs.flatMap u16Bytes) = xs := by
  induction xs with
  | nil => rfl
  | cons x xs ih =>
    have hx := h x (.head _)
    rw [List.flatMap_cons]
    show beU16s (_ :: _ :: xs.flatMap u16Bytes) = _
    rw [beU16s, ih fun y hy => h y (.tail _ hy), toNat_ofNat_lt (show x / 256 < 256 by omega),
      toNat_ofNat_lt (show x % 256 < 256 by omega)]
    congr 1
    omega

theorem parseCipherSuites_flatMap (xs : List Nat) (h : ∀ x ∈ xs, x < 65536) (i : Bytes) :
    parseCipherSuites (xs.flatMap u16Bytes).length (xs.flatMap u16Bytes ++ i) = .ok (i, xs) := by
  unfold parseCipherSuites
  split
  next h0 =>
    obtain rfl : xs = [] := List.length_eq_zero.1 (by rw [length_flatMap_u16Bytes] at h0; omega)
    rfl
  next h0 =>
    rw [if_neg (by rw [List.length_append, length_flatMap_u16Bytes]; omega), List.drop_left, List.take_left,
      beU16s_flatMap xs h]

theorem map_toNat_ofNat (xs : List Nat) (h : ∀ x ∈ xs, x < 256) :
    (xs.map UInt8.ofNat).map UInt8.toNat = xs := by
  induction xs with
  | nil => rfl
  | cons x xs ih => simp [toNat_ofNat_lt (h x (.head _)), ih fun y hy => h y (.tail _ hy)]

theorem parseCompressionsAlgs_map (xs : List Nat) (h : ∀ x ∈ xs, x < 256) (i : Bytes) :
    parseCompressionsAlgs xs.length (xs.map UInt8.ofNat ++ i) = .ok (i, xs) := by
  unfold parseCompressionsAlgs
  split
  next h0 => rw [List.length_eq_zero.1 h0]; rfl
  next h0 =>
    rw [if_neg (by simp)]
    simp [map_toNat_ofNat xs h]

theorem sessionId_roundTrip (sid : Option Bytes) (h : ∀ s, sid = some s → 0 < s.length ∧ s.length ≤ 32)
    (i : Bytes) : ∃ n rest, verify beU8 (· ≤ 32) (sessionIdBytes sid ++ i) = .ok (rest, n) ∧
      Nom.cond (n > 0) (take n) rest = .ok (i, sid) := by
  cases sid with
  | none => exact ⟨0, i, rfl, rfl⟩
  | some s =>
    obtain ⟨h0, h32⟩ := h s rfl
    refine ⟨s.length, s ++ i, ?_, ?_⟩
    · simp [verify, sessionIdBytes, toNat_ofNat_lt (show s.length < 256 by omega), h32]
    · simp [Nom.cond, h0, take_append]

theorem opt_ext_roundTrip (ext : Option Bytes) (h : ∀ e, ext = some e → e.length < 65536) :
    opt (complete (lengthData beU16)) ((ext.map withLen16).getD []) = .ok ([], ext) := by
  cases ext with
  | none => rfl
  | some e =>
    have he := lengthData_withLen16 (h e rfl) []
    rw [List.append_nil] at he
    simp [opt, complete_of_ok he]

/-- The ClientHello parser reads back every ClientHello the encoder writes. -/
theorem parseTlsHandshakeMsgClientHello_clientHelloBytes (c : TlsClientHelloContents)
    (hc : ClientHelloFits c) : parseTlsHandshakeMsgClientHello (clientHelloBytes c) = .ok ([], .clientHello c) := by
  obtain ⟨version, random, sid, ciphers, comp, ext⟩ := c
  have hcl : (ciphers.flatMap u16Bytes).length < 65536 := by rw [length_flatMap_u16Bytes]; exact hc.ciphersLen
  obtain ⟨n, rest, h1, h2⟩ := sessionId_roundTrip sid hc.sessionId
    (withLen16 (ciphers.flatMap u16Bytes) ++ UInt8.ofNat comp.length :: (comp.map UInt8.ofNat ++
      (ext.map withLen16).getD []))
  simp only [parseTlsHandshakeMsgClientHello, clientHelloBytes, List.append_assoc, List.cons_append,
    beU16_u16Bytes hc.version, take_of_length hc.random, h1, h2, beU16_withLen16 hcl,
    parseCipherSuites_flatMap ciphers hc.ciphers,
    beU8_cons, toNat_ofNat_lt hc.compLen, parseCompressionsAlgs_map comp hc.comp, opt_ext_roundTrip ext hc.ext,
    except_ok_bind, except_pure]

/-! ## The record -/

/-- A ClientHello handshake message: type 1, the body's length in three bytes, the body. -/
def handshakeBytes (c : TlsClientHelloContents) : Bytes :=
  1 :: (u24Bytes (clientHelloBytes c).length ++ clientHelloBytes c)

/-- A handshake record (content type 22) of protocol version `version`, holding one
ClientHello. -/
def clientHelloRecord (version : Nat) (c : TlsClientHelloContents) : Bytes :=
  22 :: (u16Bytes version ++ withLen16 (handshakeBytes c))

theorem parseTlsMessageHandshake_handshakeBytes (c : TlsClientHelloContents) (hc : ClientHelloFits c)
    (hl : (clientHelloBytes c).length < 16777216) (i : Bytes) :
    parseTlsMessageHandshake (handshakeBytes c ++ i) = .ok (i, .handshake (.clientHello c)) := by
  simp [parseTlsMessageHandshake, parseTlsHandshakeMsg, handshakeBytes, beU24_u24Bytes hl, take_append,
    parseTlsHandshakeMsgClientHello_clientHelloBytes c hc]

/-- The record parser reads back every ClientHello record the encoder writes, whatever
follows it. -/
theorem parseTlsPlaintext_clientHelloRecord (version : Nat) (c : TlsClientHelloContents)
    (hv : version < 65536) (hc : ClientHelloFits c) (hl : (handshakeBytes c).length ≤ MAX_RECORD_LEN)
    (i : Bytes) :
    parseTlsPlaintext (clientHelloRecord version c ++ i) =
      .ok (i, ⟨⟨22, version, (handshakeBytes c).length⟩, [.handshake (.clientHello c)]⟩) := by
  have hcl : (clientHelloBytes c).length < 16777216 := by
    simp only [handshakeBytes, List.length_cons, List.length_append, MAX_RECORD_LEN] at hl; omega
  have hm := parseTlsMessageHandshake_handshakeBytes c hc hcl []
  rw [List.append_nil] at hm
  have hr : parseTlsRecordWithHeader ⟨22, version, (handshakeBytes c).length⟩ (handshakeBytes c) =
      .ok ([], [.handshake (.clientHello c)]) := by
    have hend : manyLoop .many1 (complete parseTlsMessageHandshake) 1 [] = .ok ([], []) := rfl
    simp only [parseTlsRecordWithHeader, if_pos, many1, complete_of_ok hm, List.length_nil, Nat.zero_add,
      hend]
  have h22 : (22 : UInt8).toNat = 22 := rfl
  simp only [parseTlsPlaintext, parseTlsRecordHeader, clientHelloRecord, List.cons_append, List.append_assoc,
    beU8_cons, h22, beU16_u16Bytes hv,
    beU16_withLen16 (show (handshakeBytes c).length < 65536 by simp only [MAX_RECORD_LEN] at hl; omega),
    except_ok_bind, if_neg (Nat.not_lt.2 hl), mapParser_take_append hr, except_pure]

end Enclaves.Tls

namespace Enclaves.Egress

open Nom Tls Utf8

/-- For every ClientHello record the encoder writes, followed by anything, `get_hostname`
returns no name when the ClientHello has no extension block, and otherwise the last SNI
name of its extensions that is UTF-8, or the empty name when there is none. -/
theorem getHostname_clientHelloRecord (version : Nat) (c : TlsClientHelloContents)
    (exts : List TlsExtension) (hv : version < 65536) (hc : ClientHelloFits c)
    (hl : (handshakeBytes c).length ≤ MAX_RECORD_LEN)
    (he : c.ext = none ∨ c.ext = some (exts.flatMap extensionBytes)) (hx : ∀ e ∈ exts, ExtensionFits e)
    (i : Bytes) :
    getHostname (clientHelloRecord version c ++ i) = .ok (c.ext.map fun _ => (lastUtf8Name exts).getD "") := by
  have hp := parseTlsPlaintext_clientHelloRecord version c hv hc hl i
  rcases he with he | he
  · simp [getHostname, hp, he]
  · rw [getHostname_clientHello hp rfl he (parseTlsExtensions_flatMap exts hx), sniLoop_eq_lastUtf8Name, he]
    rfl

/-- SNI names that are the UTF-8 bytes of `names` decode to `names`: the last one wins. -/
theorem lastUtf8Name_of_sniNames {exts : List TlsExtension} {names : List String}
    (hn : sniNames exts = names.map utf8Bytes) : lastUtf8Name exts = names.getLast? := by
  have hs : fromUtf8 ∘ utf8Bytes = some := funext fromUtf8_utf8Bytes
  rw [lastUtf8Name, hn, List.filterMap_map, hs, List.filterMap_some]

variable {ι : Type} [ToString ι] (toBytes : ExternalRequest → Except String Bytes)
  (env : (c : EgressCall) → EgressCall.Answer ι c)

/-- A connection whose first read is a ClientHello record the encoder writes, with SNI
entries that carry the UTF-8 bytes of `names`, followed by anything, looks up the last of
`names` right after the read (the empty name when there is none). -/
theorem handleEgressConnection_looks_up_sent_name (version : Nat) (c : TlsClientHelloContents)
    (exts : List TlsExtension) (names : List String) (d : CustomerData) (i : Bytes)
    (hv : version < 65536) (hc : ClientHelloFits c) (hl : (handshakeBytes c).length ≤ MAX_RECORD_LEN)
    (he : c.ext = some (exts.flatMap extensionBytes)) (hx : ∀ e ∈ exts, ExtensionFits e)
    (hn : sniNames exts = names.map utf8Bytes) (hd : d.bytes = clientHelloRecord version c ++ i)
    (hr : env .read = .ok d) :
    ∃ rest, ((handleEgressConnection toBytes).run env).2 =
      .read :: .getIp (names.getLast?.getD "") :: rest := by
  have hg : getHostname d.bytes = .ok (some (names.getLast?.getD "")) := by
    rw [hd, getHostname_clientHello (parseTlsPlaintext_clientHelloRecord version c hv hc hl i) rfl he
      (parseTlsExtensions_flatMap exts hx), sniLoop_eq_lastUtf8Name, lastUtf8Name_of_sniNames hn]
  obtain ⟨rest, hrest⟩ := forwardToHost_calls toBytes env d (names.getLast?.getD "")
  exact ⟨rest, by simp only [run_handleEgressConnection, hr, hg, hrest]⟩

/-- A supported-groups extension (x25519), then one SNI extension naming `a`. -/
def extsA : List TlsExtension := [.known 0x000a [0, 2, 0, 29], .sni [(0, utf8Bytes "a")]]

/-- A ClientHello of TLS 1.2 with a zero random, no session id, one cipher suite, the null
compression, and the extensions `extsA`. -/
def helloA : TlsClientHelloContents :=
  ⟨771, List.replicate 32 0, none, [4865], [0], some (extsA.flatMap extensionBytes)⟩

theorem clientHelloFits_helloA : ClientHelloFits helloA :=
  ⟨by decide, by decide, (fun s h => by cases h), by decide, by decide, by decide, by decide,
    (fun e h => by cases h; decide)⟩

theorem extensionFits_extsA : ∀ e ∈ extsA, ExtensionFits e := by
  intro e he
  rcases List.mem_cons.1 he with rfl | he
  · exact ⟨by decide, by decide, [], by decide⟩
  · rw [List.mem_singleton.1 he]
    exact ⟨by decide, by decide⟩

theorem getHostname_helloA : getHostname (clientHelloRecord 769 helloA) = .ok (some "a") := by
  have h := getHostname_clientHelloRecord 769 helloA extsA (by decide) clientHelloFits_helloA (by decide)
    (.inr rfl) extensionFits_extsA []
  rw [List.append_nil] at h
  rw [h]
  decide

/-- The client sends the record of `helloA`, the cache knows `a`, and every other call
succeeds. -/
def helloAWorld : (c : EgressCall) → EgressCall.Answer String c
  | .read => .ok ⟨clientHelloRecord 769 helloA, by decide⟩
  | .getIp h => if h = "a" then some ["10.0.0.1"] else none
  | .genIndex _ => (0 : Fin (_ + 1))
  | .getListener => .ok ()
  | .writeAll _ => .ok ()
  | .pipeStreams => .ok ()

theorem handleEgressConnection_looks_up_a :
    ∃ rest, ((handleEgressConnection (fun _ => .ok [])).run helloAWorld).2 = .read :: .getIp "a" :: rest :=
  handleEgressConnection_looks_up_sent_name (fun _ => .ok []) helloAWorld 769 helloA extsA ["a"]
    ⟨clientHelloRecord 769 helloA, by decide⟩ [] (by decide) clientHelloFits_helloA (by decide) rfl
    extensionFits_extsA rfl (List.append_nil _).symm rfl

end Enclaves.Egress
