import Enclaves.EgressProxy
/-!
# What `get_hostname` returns

What `EgressProxy::get_hostname` answers, for every byte buffer:

- it panics exactly when the record parser answers `Incomplete`, which it does on every
  buffer that stops inside a record: the empty read of a connection closed before
  sending, any proper prefix of a record (`getHostname_panics_on_truncated_record`);
- its only error is the record parser's (`getHostname_err_iff`): the extension parser
  never fails, since `many0` keeps the extensions before the first bad one;
- it returns `Ok(None)` exactly when the record's first message is not a ClientHello
  with an extension block (`getHostname_none_iff`);
- on a ClientHello with extensions it returns the last SNI name that is UTF-8
  (`getHostname_last_sni_wins`), read against the spec's `lastUtf8Name`;
- when no SNI name is UTF-8, or the last one is empty, it returns `Ok(Some(""))`, not
  `Ok(None)` (`getHostname_empty_of_no_sni`).
-/

namespace Enclaves.Egress

open Nom Tls Utf8

/-! ## The parsers -/

/-- A record that parses carries a message, so `parsed_request.msg[0]` never panics. -/
theorem parseTlsPlaintext_msg_ne_nil {d r : Bytes} {p : TlsPlaintext}
    (h : parseTlsPlaintext d = .ok (r, p)) : p.msg ≠ [] := by
  simp only [parseTlsPlaintext, bind_eq_ok] at h
  obtain ⟨⟨i, hdr⟩, -, h⟩ := h
  split at h
  · cases h
  · simp only [except_pure, bind_eq_ok] at h
    obtain ⟨-, -, ⟨i', msg⟩, hm, h⟩ := h
    simp only [Except.ok.injEq, Prod.mk.injEq] at h
    obtain ⟨rfl, rfl⟩ := h
    obtain ⟨_, _, -, hq⟩ := mapParser_eq_ok hm
    exact (parseTlsRecordWithHeader_eq_ok hq).1

/-- The length field of a record header (its bytes 3 and 4). -/
def recordLen (d : Bytes) : Nat := (d.getD 3 0).toNat * 256 + (d.getD 4 0).toNat

/-- A buffer that stops inside a record: inside the 5-byte header, or inside a body of
at most `MAX_RECORD_LEN` bytes. Every proper prefix of a record is one. -/
def Truncated (d : Bytes) : Prop :=
  d.length < 5 ∨ (recordLen d ≤ MAX_RECORD_LEN ∧ d.length < 5 + recordLen d)

/-- On a truncated buffer the streaming record parser asks for more input. -/
theorem parseTlsPlaintext_truncated {d : Bytes} (h : Truncated d) :
    ∃ n, parseTlsPlaintext d = .error (.incomplete n) := by
  match d, h with
  | [], _ | [_], _ | [_, _], _ | [_, _, _], _ | [_, _, _, _], _ => exact ⟨_, rfl⟩
  | _ :: _ :: _ :: _ :: _ :: _, .inl h => simp only [List.length_cons] at h; omega
  | _ :: _ :: _ :: e :: f :: rest, .inr ⟨hle, hlt⟩ =>
    simp only [recordLen, List.getD_cons_succ, List.getD_cons_zero, List.length_cons] at hle hlt
    simp [parseTlsPlaintext, parseTlsRecordHeader, Nat.not_lt.2 hle, mapParser,
      take_short (show rest.length < e.toNat * 256 + f.toNat by omega)]

/-! ## The SNI loop -/

/-- The names of the SNI entries, in extension order, then entry order; other
extensions give none. -/
def sniNames (extensions : List TlsExtension) : List Bytes :=
  extensions.flatMap fun
    | .sni sniVec => sniVec.map Prod.snd
    | _ => []

/-- The spec's tie-break: the last SNI name that is UTF-8, decoded. -/
def lastUtf8Name (extensions : List TlsExtension) : Option String :=
  ((sniNames extensions).filterMap fromUtf8).getLast?

/-- An overwriting loop ends with the last value it was given, or where it started. -/
theorem foldl_getD_eq {α β : Type} (f : α → Option β) (l : List α) (b : β) :
    l.foldl (fun acc x => (f x).getD acc) b = ((l.filterMap f).getLast?).getD b := by
  induction l using List.reverseRecOn with
  | nil => rfl
  | append_singleton l x ih => cases hx : f x <;> simp [List.filterMap_append, hx, ih]

/-- The last value of a `filterMap` comes from an element after which every element
maps to `none`. -/
theorem exists_last_of_getLast?_filterMap {α β : Type} {f : α → Option β} {l : List α} {b : β}
    (h : (l.filterMap f).getLast? = some b) :
    ∃ pre x post, l = pre ++ x :: post ∧ f x = some b ∧ ∀ y ∈ post, f y = none := by
  induction l using List.reverseRecOn with
  | nil => cases h
  | append_singleton l z ih =>
    cases hz : f z with
    | some c =>
      simp only [List.filterMap_append, hz, List.filterMap_cons_some, List.filterMap_nil,
        List.getLast?_append, List.getLast?_singleton, Option.or_some, Option.some.injEq] at h
      exact ⟨l, z, [], rfl, h ▸ hz, by simp⟩
    | none =>
      simp only [List.filterMap_append, hz, List.filterMap_cons_none, List.filterMap_nil,
        List.append_nil] at h
      obtain ⟨pre, x, post, rfl, hx, hpost⟩ := ih h
      refine ⟨pre, x, post ++ [z], by simp, hx, fun y hy => ?_⟩
      rcases List.mem_append.1 hy with hy | hy
      · exact hpost y hy
      · rw [List.mem_singleton.1 hy, hz]

theorem sniLoop_eq (b : String) (extensions : List TlsExtension) :
    sniLoop b extensions = (sniNames extensions).foldl (fun acc n => (fromUtf8 n).getD acc) b := by
  induction extensions generalizing b with
  | nil => rfl
  | cons e extensions ih =>
    cases e <;> simp [sniLoop, sniNames, List.foldl_map, ih]

/-- The code's loop computes the spec's tie-break. -/
theorem sniLoop_eq_lastUtf8Name (extensions : List TlsExtension) :
    sniLoop "" extensions = (lastUtf8Name extensions).getD "" := by
  rw [sniLoop_eq, foldl_getD_eq]; rfl

/-! ## `get_hostname` -/

/-- On a ClientHello with an extension block, `get_hostname` returns what the loop over
the extensions leaves in `destination`. -/
theorem getHostname_clientHello {d r s raw : Bytes} {p : TlsPlaintext} {ch : TlsClientHelloContents}
    {exts : List TlsExtension} (hp : parseTlsPlaintext d = .ok (r, p))
    (hm : p.msg.head? = some (.handshake (.clientHello ch))) (he : ch.ext = some raw)
    (hx : parseTlsExtensions raw = .ok (s, exts)) :
    getHostname d = .ok (some (sniLoop "" exts)) := by
  obtain ⟨ms, hms⟩ : ∃ ms, p.msg = .handshake (.clientHello ch) :: ms := by
    cases h : p.msg <;> simp_all
  simp [getHostname, hp, hms, he, hx]

theorem getHostname_of_incomplete {d : Bytes} {n : Nat}
    (hp : parseTlsPlaintext d = .error (.incomplete n)) : ∃ m, getHostname d = .panic m :=
  ⟨_, by simp [getHostname, hp, finish]; rfl⟩

theorem getHostname_of_error {d : Bytes} {e : Error} (hp : parseTlsPlaintext d = .error (.error e)) :
    getHostname d = .err (.tlsParseError e.debug) := by
  simp [getHostname, hp]

/-- On a record that parses, `get_hostname` answers `Ok`: `Some` of what the loop leaves
in `destination` when the first message is a ClientHello with an extension block, `None`
otherwise. -/
theorem getHostname_of_parsed {d r : Bytes} {p : TlsPlaintext} (hp : parseTlsPlaintext d = .ok (r, p)) :
    (∃ ch raw s exts, p.msg.head? = some (.handshake (.clientHello ch)) ∧ ch.ext = some raw ∧
      parseTlsExtensions raw = .ok (s, exts) ∧ getHostname d = .ok (some (sniLoop "" exts))) ∨
    ((∀ ch, p.msg.head? = some (.handshake (.clientHello ch)) → ch.ext = none) ∧
      getHostname d = .ok none) := by
  obtain ⟨msg, msgs, hmsg⟩ := List.exists_cons_of_ne_nil (parseTlsPlaintext_msg_ne_nil hp)
  rcases msg with (⟨ch⟩ | ⟨ht, raw⟩) | ⟨rt, raw⟩
  · rcases he : ch.ext with _ | raw
    · exact .inr ⟨by simp [hmsg, he], by simp [getHostname, hp, hmsg, he]⟩
    · obtain ⟨s, exts, hx⟩ := parseTlsExtensions_ok raw
      have hm : p.msg.head? = some (.handshake (.clientHello ch)) := by simp [hmsg]
      exact .inl ⟨ch, raw, s, exts, hm, he, hx, getHostname_clientHello hp hm he hx⟩
  all_goals exact .inr ⟨by simp [hmsg], by simp [getHostname, hp, hmsg]⟩

/-- `get_hostname` panics exactly when the record parser asks for more input: the
extension parser never does, and a parsed record always has a first message. -/
theorem getHostname_panics_iff (d : Bytes) :
    (∃ m, getHostname d = .panic m) ↔ ∃ n, parseTlsPlaintext d = .error (.incomplete n) := by
  refine ⟨fun ⟨m, hm⟩ => ?_, fun ⟨n, hn⟩ => getHostname_of_incomplete hn⟩
  rcases hp : parseTlsPlaintext d with (n | e) | ⟨r, p⟩
  · exact ⟨n, rfl⟩
  · cases (getHostname_of_error hp).symm.trans hm
  · rcases getHostname_of_parsed hp with ⟨_, _, _, _, -, -, -, h⟩ | ⟨-, h⟩ <;> cases h.symm.trans hm

/-- A buffer `get_hostname` answers `Ok` for has a first record that parses. -/
theorem parsed_of_getHostname_ok {d : Bytes} {o : Option String} (h : getHostname d = .ok o) :
    ∃ r p, parseTlsPlaintext d = .ok (r, p) := by
  rcases hp : parseTlsPlaintext d with (n | _) | ⟨r, p⟩
  · obtain ⟨m, hm⟩ := getHostname_of_incomplete hp
    cases hm.symm.trans h
  · cases (getHostname_of_error hp).symm.trans h
  · exact ⟨r, p, rfl⟩

theorem parseError_of_getHostname_err {d : Bytes} {e : DNSError} (h : getHostname d = .err e) :
    ∃ pe, parseTlsPlaintext d = .error (.error pe) ∧ e = .tlsParseError pe.debug := by
  rcases hp : parseTlsPlaintext d with (n | pe) | ⟨r, p⟩
  · obtain ⟨m, hm⟩ := getHostname_of_incomplete hp
    cases hm.symm.trans h
  · cases (getHostname_of_error hp).symm.trans h
    exact ⟨pe, rfl, rfl⟩
  · rcases getHostname_of_parsed hp with ⟨_, _, _, _, -, -, -, h'⟩ | ⟨-, h'⟩ <;> cases h'.symm.trans h

/-- `get_hostname`'s only error is the record parser's. The extension parser never fails,
so the second `map_err` is never taken: a ClientHello whose extension block does not parse
still gives a name, from the extensions before the first bad one. -/
theorem getHostname_err_iff (d : Bytes) (e : DNSError) :
    getHostname d = .err e ↔
      ∃ pe, parseTlsPlaintext d = .error (.error pe) ∧ e = .tlsParseError pe.debug :=
  ⟨parseError_of_getHostname_err, fun ⟨_, hp, he⟩ => he ▸ getHostname_of_error hp⟩

/-- SNI `a`, then an extension whose body is cut short: the name is still returned. -/
example : getHostname ([22, 3, 1, 0, 62, 1, 0, 0, 58, 3, 3] ++ List.replicate 32 0 ++
    [0, 0, 2, 19, 1, 1, 0, 0, 15, 0, 0, 0, 6, 0, 4, 0, 0, 1, 97, 0, 10, 0, 9, 1]) =
    .ok (some "a") := by
  decide

/-- `get_hostname` answers `Ok(None)`, which the broker refuses with `NoHostnameFound`,
exactly when the record parses and its first message is not a ClientHello with an
extension block. -/
theorem getHostname_none_iff (d : Bytes) :
    getHostname d = .ok none ↔ ∃ r p, parseTlsPlaintext d = .ok (r, p) ∧
      ∀ ch, p.msg.head? = some (.handshake (.clientHello ch)) → ch.ext = none := by
  constructor
  · intro h
    obtain ⟨r, p, hp⟩ := parsed_of_getHostname_ok h
    rcases getHostname_of_parsed hp with ⟨_, _, _, _, -, -, -, h'⟩ | ⟨hn, -⟩
    · cases h'.symm.trans h
    · exact ⟨r, p, hp, hn⟩
  · rintro ⟨r, p, hp, hn⟩
    rcases getHostname_of_parsed hp with ⟨ch, raw, -, -, hm, he, -, -⟩ | ⟨-, h⟩
    · rw [hn ch hm] at he
      cases he
    · exact h

/-- A buffer that stops inside a record makes `get_hostname` panic in `finish()`, where
the code means to return `TlsParseError`. -/
theorem getHostname_panics_on_truncated_record (d : Bytes) (h : Truncated d) :
    ∃ m, getHostname d = .panic m :=
  (getHostname_panics_iff d).2 (parseTlsPlaintext_truncated h)

/-- The read of a connection closed before sending is empty, and `get_hostname` panics
on it. -/
theorem getHostname_panics_on_empty_read : Truncated [] ∧ ∃ m, getHostname [] = .panic m :=
  ⟨.inl (by decide), getHostname_panics_on_truncated_record [] (.inl (by decide))⟩

/-- SNI `a` then a name that is not UTF-8, a supported-groups extension, SNI `b` then a
name that is not UTF-8. -/
def extensionsAB : Bytes :=
  [0, 0, 0, 10, 0, 8, 0, 0, 1, 97, 0, 0, 1, 255, 0, 10, 0, 4, 0, 2, 0, 29,
    0, 0, 0, 10, 0, 8, 0, 0, 1, 98, 0, 0, 1, 192]

/-- A TLS 1.2 record holding a ClientHello with the extension block `extensionsAB`. -/
def clientHelloAB : Bytes :=
  [22, 3, 1, 0, 83, 1, 0, 0, 79, 3, 3] ++ List.replicate 32 0 ++ [0, 0, 2, 19, 1, 1, 0, 0, 36] ++
    extensionsAB

theorem parseTlsExtensions_extensionsAB :
    parseTlsExtensions extensionsAB =
      .ok ([], [.sni [(0, [97]), (0, [255])], .known 10 [0, 2, 0, 29], .sni [(0, [98]), (0, [192])]]) := by
  decide

theorem parseTlsPlaintext_clientHelloAB :
    parseTlsPlaintext clientHelloAB = .ok ([], ⟨⟨22, 769, 83⟩, [.handshake (.clientHello
      ⟨771, List.replicate 32 0, none, [4865], [0], some extensionsAB⟩)]⟩) := by
  decide

theorem getHostname_clientHelloAB : getHostname clientHelloAB = .ok (some "b") :=
  (getHostname_clientHello parseTlsPlaintext_clientHelloAB rfl rfl parseTlsExtensions_extensionsAB).trans
    (by decide)

/-- On a ClientHello with extensions but no SNI name that is UTF-8, or whose last such
name is empty, `get_hostname` returns `Ok(Some(""))`. -/
theorem getHostname_empty_of_no_sni {d r s raw : Bytes} {p : TlsPlaintext}
    {ch : TlsClientHelloContents} {exts : List TlsExtension} (hp : parseTlsPlaintext d = .ok (r, p))
    (hm : p.msg.head? = some (.handshake (.clientHello ch))) (he : ch.ext = some raw)
    (hx : parseTlsExtensions raw = .ok (s, exts))
    (hn : lastUtf8Name exts = none ∨ lastUtf8Name exts = some "") :
    getHostname d = .ok (some "") := by
  rw [getHostname_clientHello hp hm he hx, sniLoop_eq_lastUtf8Name]
  rcases hn with hn | hn <;> rw [hn] <;> rfl

/-! ## What it reads -/

/-- Every SNI name of a parsed extension block is a slice of the block. -/
theorem parseTlsExtensions_sniNames {raw s : Bytes} {exts : List TlsExtension}
    (h : parseTlsExtensions raw = .ok (s, exts)) : ∀ n ∈ sniNames exts, n <:+: raw := by
  intro n hn
  obtain ⟨x, hx, hnx⟩ := List.mem_flatMap.1 hn
  cases x with
  | sni v =>
    obtain ⟨e, he, rfl⟩ := List.mem_map.1 hnx
    exact parseTlsExtensions_names h hx e he
  | known | unknown => cases hnx

/-- What `get_hostname` answers depends on the parsed record only. -/
theorem getHostname_eq_of_parsed {d d' r r' : Bytes} {p : TlsPlaintext}
    (h : parseTlsPlaintext d = .ok (r, p)) (h' : parseTlsPlaintext d' = .ok (r', p)) :
    getHostname d = getHostname d' := by
  simp [getHostname, h, h']

/-- The name `get_hostname` returns is one the client sent: it is the last UTF-8 SNI name
of the first record's ClientHello (or empty), and its UTF-8 bytes are a slice of the
buffer. The broker never looks up a name the customer's bytes do not carry. -/
theorem getHostname_name_sent (d : Bytes) (h : String) (hg : getHostname d = .ok (some h)) :
    utf8Bytes h <:+: d ∧
    ∃ r p ch raw s exts, parseTlsPlaintext d = .ok (r, p) ∧ p.msg.head? = some (.handshake (.clientHello ch)) ∧
      ch.ext = some raw ∧ parseTlsExtensions raw = .ok (s, exts) ∧ h = (lastUtf8Name exts).getD "" := by
  obtain ⟨r, p, hp⟩ := parsed_of_getHostname_ok hg
  rcases getHostname_of_parsed hp with ⟨ch, raw, s, exts, hm, he, hx, h'⟩ | ⟨-, h'⟩
  · have hh : (lastUtf8Name exts).getD "" = h := by
      rw [← sniLoop_eq_lastUtf8Name]
      cases h'.symm.trans hg
      rfl
    refine ⟨?_, r, p, ch, raw, s, exts, hp, hm, he, hx, hh.symm⟩
    rcases hl : lastUtf8Name exts with _ | h'' <;> rw [hl] at hh <;> subst hh
    · exact List.nil_infix
    · obtain ⟨n, hn, hu⟩ := List.mem_filterMap.1 (List.mem_of_getLast?_eq_some hl)
      rw [Option.getD_some, ← eq_utf8Bytes_of_fromUtf8 hu]
      exact (parseTlsExtensions_sniNames hx n hn).trans (parseTlsPlaintext_ext hp hm he)
  · cases h'.symm.trans hg

theorem getHostname_name_sent_b :
    getHostname clientHelloAB = .ok (some "b") ∧ utf8Bytes "b" <:+: clientHelloAB :=
  ⟨getHostname_clientHelloAB, (getHostname_name_sent clientHelloAB "b" getHostname_clientHelloAB).1⟩

/-- `get_hostname` decides on the first record alone. On a buffer whose first record
parses, the bytes after it (the rest of a 4096-byte read) change nothing; one whose record
fails to parse still fails. Only a buffer that stops inside its record can be decided
otherwise by more bytes. -/
theorem getHostname_append (d e : Bytes) :
    (∀ o, getHostname d = .ok o → getHostname (d ++ e) = .ok o) ∧
    ((∃ m, getHostname d = .err m) → ∃ m, getHostname (d ++ e) = .err m) := by
  refine ⟨fun o h => ?_, fun ⟨m, h⟩ => ?_⟩
  · obtain ⟨r, p, hp⟩ := parsed_of_getHostname_ok h
    exact getHostname_eq_of_parsed (parseTlsPlaintext_streams e hp) hp ▸ h
  · obtain ⟨pe, hp, -⟩ := parseError_of_getHostname_err h
    obtain ⟨pe', hp'⟩ := parseTlsPlaintext_error_streams e hp
    exact ⟨_, getHostname_of_error hp'⟩

theorem getHostname_append_b :
    getHostname clientHelloAB = .ok (some "b") ∧
      getHostname (clientHelloAB ++ [20, 3, 3, 0, 1, 1]) = .ok (some "b") :=
  ⟨getHostname_clientHelloAB,
    (getHostname_append clientHelloAB [20, 3, 3, 0, 1, 1]).1 _ getHostname_clientHelloAB⟩

end Enclaves.Egress
