import Enclaves.Task
/-!
# `std::str::from_utf8`

Rust's `run_utf8_validation` reads one character a round: the first byte of a character
gives its width (1 to 4), the second byte's range depends on the first (no overlong forms,
no surrogates, nothing past U+10FFFF), and every later byte is a continuation byte
`0x80..=0xBF`. A Rust `String` is valid UTF-8 by construction; we read it as the Lean
`String` of the same characters.

The validation accepts exactly the UTF-8 encodings of strings, and reads each back as the
string it encodes (`fromUtf8_eq_some_iff`): one round reads back one character's encoding
(`nextChar_encodeChar_append`), what a round accepts is such an encoding
(`nextChar_eq_some`), and the loop does so character after character.
-/

namespace Enclaves.Utf8

/-- A continuation byte: `byte as i8 < -64`. -/
def isCont (b : UInt8) : Bool := 0x80 ≤ b && b ≤ 0xBF

/-- The second byte allowed after the first byte `a` of a three-byte character. -/
def second3 (a b : UInt8) : Bool :=
  (a = 0xE0 && 0xA0 ≤ b && b ≤ 0xBF) || (0xE1 ≤ a && a ≤ 0xEC && isCont b) ||
    (a = 0xED && 0x80 ≤ b && b ≤ 0x9F) || (0xEE ≤ a && a ≤ 0xEF && isCont b)

/-- The second byte allowed after the first byte `a` of a four-byte character. -/
def second4 (a b : UInt8) : Bool :=
  (a = 0xF0 && 0x90 ≤ b && b ≤ 0xBF) || (0xF1 ≤ a && a ≤ 0xF3 && isCont b) ||
    (a = 0xF4 && 0x80 ≤ b && b ≤ 0x8F)

/-- The bits of a byte below `m` (a power of two). -/
def low (m : Nat) (b : UInt8) : Nat := b.toNat % m

/-- One round of the validation loop: the character `v` starts with, read over the width
its first byte gives, and the bytes after it; `none` where `v` does not start with one. -/
def nextChar : Bytes → Option (Char × Bytes)
  | [] => none
  | a :: l =>
    if a ≤ 0x7F then some (Char.ofNat a.toNat, l)
    else if 0xC2 ≤ a ∧ a ≤ 0xDF then
      match l with
      | b :: l => if isCont b then some (Char.ofNat (low 32 a * 64 + low 64 b), l) else none
      | [] => none
    else if 0xE0 ≤ a ∧ a ≤ 0xEF then
      match l with
      | b :: c :: l =>
        if second3 a b && isCont c then
          some (Char.ofNat ((low 16 a * 64 + low 64 b) * 64 + low 64 c), l)
        else none
      | _ => none
    else if 0xF0 ≤ a ∧ a ≤ 0xF4 then
      match l with
      | b :: c :: d :: l =>
        if second4 a b && isCont c && isCont d then
          some (Char.ofNat (((low 8 a * 64 + low 64 b) * 64 + low 64 c) * 64 + low 64 d), l)
        else none
      | _ => none
    else none

/-- The validation loop, one character a round, for at most `fuel` rounds. -/
def charsLoop : Nat → Bytes → Option (List Char)
  | _, [] => some []
  | 0, _ :: _ => none
  | fuel + 1, a :: l =>
    match nextChar (a :: l) with
    | some (c, rest) => (c :: ·) <$> charsLoop fuel rest
    | none => none

/-- The characters of a byte sequence, or `none` where it is not UTF-8. A round reads a
byte at least, so `v.length` rounds finish the loop. -/
def chars (v : Bytes) : Option (List Char) := charsLoop v.length v

/-- `std::str::from_utf8`, with the string it borrows. Its `Utf8Error` (where decoding
stopped) is read by no modelled code. -/
def fromUtf8 (v : Bytes) : Option String := (chars v).map String.mk

@[simp] theorem fromUtf8_nil : fromUtf8 [] = some "" := rfl

example : fromUtf8 [97, 0xC3, 0xA9] = some "aé" := by decide

/-! ## The encoding it checks -/

/-- The UTF-8 bytes of a character, as `char::encode_utf8` writes them: one byte below
U+0080, two below U+0800, three below U+10000, four above. -/
def encodeChar (c : Char) : Bytes :=
  let n := c.toNat
  if n < 0x80 then [UInt8.ofNat n]
  else if n < 0x800 then [UInt8.ofNat (0xC0 + n / 64), UInt8.ofNat (0x80 + n % 64)]
  else if n < 0x10000 then
    [UInt8.ofNat (0xE0 + n / 4096), UInt8.ofNat (0x80 + n / 64 % 64), UInt8.ofNat (0x80 + n % 64)]
  else
    [UInt8.ofNat (0xF0 + n / 262144), UInt8.ofNat (0x80 + n / 4096 % 64),
      UInt8.ofNat (0x80 + n / 64 % 64), UInt8.ofNat (0x80 + n % 64)]

/-- A string's bytes, as `str::as_bytes` gives them. -/
def utf8Bytes (s : String) : Bytes := s.data.flatMap encodeChar

theorem encodeChar_ne_nil (c : Char) : encodeChar c ≠ [] := by
  simp only [encodeChar]
  split_ifs <;> exact List.cons_ne_nil _ _

/-! ## The byte tests as arithmetic -/

theorem le_iff_toNat {a b : UInt8} : a ≤ b ↔ a.toNat ≤ b.toNat := .rfl

theorem eq_iff_toNat {a b : UInt8} : a = b ↔ a.toNat = b.toNat := ⟨congrArg _, UInt8.toNat.inj⟩

theorem ofNat_eq_iff {a : UInt8} {k : Nat} (hk : k < 256) : UInt8.ofNat k = a ↔ k = a.toNat := by
  rw [eq_iff_toNat, toNat_ofNat_lt hk]

theorem toNat_lit (n : Nat) : UInt8.toNat (no_index (OfNat.ofNat n)) = (OfNat.ofNat n : Nat) % 256 := rfl

theorem isCont_iff (b : UInt8) : isCont b = true ↔ 0x80 ≤ b.toNat ∧ b.toNat ≤ 0xBF := by
  simp only [isCont, Bool.and_eq_true, decide_eq_true_eq, le_iff_toNat, toNat_lit]

theorem second3_iff (a b : UInt8) : second3 a b = true ↔
    (a.toNat = 0xE0 ∧ 0xA0 ≤ b.toNat ∧ b.toNat ≤ 0xBF) ∨
    (0xE1 ≤ a.toNat ∧ a.toNat ≤ 0xEC ∧ 0x80 ≤ b.toNat ∧ b.toNat ≤ 0xBF) ∨
    (a.toNat = 0xED ∧ 0x80 ≤ b.toNat ∧ b.toNat ≤ 0x9F) ∨
    (0xEE ≤ a.toNat ∧ a.toNat ≤ 0xEF ∧ 0x80 ≤ b.toNat ∧ b.toNat ≤ 0xBF) := by
  simp only [second3, isCont_iff, Bool.or_eq_true, Bool.and_eq_true, decide_eq_true_eq, le_iff_toNat,
    toNat_lit, eq_iff_toNat, Nat.reduceMod, and_assoc, or_assoc]

theorem second4_iff (a b : UInt8) : second4 a b = true ↔
    (a.toNat = 0xF0 ∧ 0x90 ≤ b.toNat ∧ b.toNat ≤ 0xBF) ∨
    (0xF1 ≤ a.toNat ∧ a.toNat ≤ 0xF3 ∧ 0x80 ≤ b.toNat ∧ b.toNat ≤ 0xBF) ∨
    (a.toNat = 0xF4 ∧ 0x80 ≤ b.toNat ∧ b.toNat ≤ 0x8F) := by
  simp only [second4, isCont_iff, Bool.or_eq_true, Bool.and_eq_true, decide_eq_true_eq, le_iff_toNat,
    toNat_lit, eq_iff_toNat, Nat.reduceMod, and_assoc, or_assoc]

theorem toNat_ofNat_char {n : Nat} (h : n < 0xD800 ∨ 0xDFFF < n ∧ n < 0x110000) :
    (Char.ofNat n).toNat = n := by
  rw [Char.ofNat, dif_pos h]; rfl

/-! ## One round -/

/-- A round reads back a character's encoding, whatever follows it. -/
theorem nextChar_encodeChar_append (c : Char) (l : Bytes) : nextChar (encodeChar c ++ l) = some (c, l) := by
  have hc : c.toNat < 0xD800 ∨ 0xDFFF < c.toNat ∧ c.toNat < 0x110000 := c.valid
  generalize hn : c.toNat = n at hc
  have hval : ∀ m, m = n → Char.ofNat m = c := fun m hm => hm ▸ hn ▸ Char.ofNat_toNat c
  simp only [encodeChar, hn]
  split_ifs <;>
    simp (disch := omega) only [List.cons_append, List.singleton_append, List.nil_append, nextChar,
      le_iff_toNat, toNat_lit, toNat_ofNat_lt, if_pos, if_neg, isCont_iff, second3_iff, second4_iff,
      Bool.and_eq_true, low] <;>
    rw [hval _ (by omega)]

theorem encodeChar_one {a : UInt8} (ha : a ≤ 0x7F) : encodeChar (Char.ofNat a.toNat) = [a] := by
  simp only [le_iff_toNat, toNat_lit, Nat.reduceMod] at ha
  simp (disch := omega) only [encodeChar, toNat_ofNat_char, if_pos, List.cons.injEq, ofNat_eq_iff, and_true]

theorem encodeChar_two {a b : UInt8} (ha : 0xC2 ≤ a ∧ a ≤ 0xDF) (hb : isCont b = true) :
    encodeChar (Char.ofNat (low 32 a * 64 + low 64 b)) = [a, b] := by
  simp only [le_iff_toNat, toNat_lit, Nat.reduceMod, isCont_iff, low] at ha hb ⊢
  generalize hn : a.toNat % 32 * 64 + b.toNat % 64 = n
  have h0 : 0x80 ≤ n ∧ n < 0x800 := by omega
  simp (disch := omega) only [encodeChar, toNat_ofNat_char, if_pos, if_neg, List.cons.injEq, ofNat_eq_iff,
    and_true]
  omega

/-- No overlong form and no surrogate: the value is a scalar value of three bytes. -/
theorem encodeChar_three {a b c : UInt8} (ha : 0xE0 ≤ a ∧ a ≤ 0xEF) (hb : (second3 a b && isCont c) = true) :
    encodeChar (Char.ofNat ((low 16 a * 64 + low 64 b) * 64 + low 64 c)) = [a, b, c] := by
  simp only [le_iff_toNat, toNat_lit, Nat.reduceMod, Bool.and_eq_true, second3_iff, isCont_iff, low] at ha hb ⊢
  generalize hn : (a.toNat % 16 * 64 + b.toNat % 64) * 64 + c.toNat % 64 = n
  have h0 : 0x800 ≤ n ∧ n < 0xD800 ∨ 0xDFFF < n ∧ n < 0x10000 := by omega
  simp (disch := omega) only [encodeChar, toNat_ofNat_char, if_pos, if_neg, List.cons.injEq, ofNat_eq_iff,
    and_true]
  omega

/-- No overlong form and nothing past U+10FFFF: the value is a scalar value of four bytes. -/
theorem encodeChar_four {a b c d : UInt8} (ha : 0xF0 ≤ a ∧ a ≤ 0xF4)
    (hb : (second4 a b && isCont c && isCont d) = true) :
    encodeChar (Char.ofNat (((low 8 a * 64 + low 64 b) * 64 + low 64 c) * 64 + low 64 d)) = [a, b, c, d] := by
  simp only [le_iff_toNat, toNat_lit, Nat.reduceMod, Bool.and_eq_true, second4_iff, isCont_iff, low] at ha hb ⊢
  generalize hn : ((a.toNat % 8 * 64 + b.toNat % 64) * 64 + c.toNat % 64) * 64 + d.toNat % 64 = n
  have h0 : 0x10000 ≤ n ∧ n < 0x110000 := by omega
  simp (disch := omega) only [encodeChar, toNat_ofNat_char, if_pos, if_neg, List.cons.injEq, ofNat_eq_iff,
    and_true]
  omega

/-- What a round accepts is the encoding of the character it reads. -/
theorem nextChar_eq_some {v : Bytes} {c : Char} {rest : Bytes} (h : nextChar v = some (c, rest)) :
    v = encodeChar c ++ rest := by
  cases v with
  | nil => cases h
  | cons a l =>
    simp only [nextChar] at h
    repeat' split at h
    all_goals cases h
    · rw [encodeChar_one ‹_›]; rfl
    · rw [encodeChar_two ‹_› ‹_›]; rfl
    · rw [encodeChar_three ‹_› ‹_›]; rfl
    · rw [encodeChar_four ‹_› ‹_›]; rfl

/-! ## The loop -/

theorem charsLoop_flatMap (cs : List Char) (fuel : Nat) (h : cs.length ≤ fuel) :
    charsLoop fuel (cs.flatMap encodeChar) = some cs := by
  induction cs generalizing fuel with
  | nil => cases fuel <;> rfl
  | cons c cs ih =>
    obtain ⟨f, rfl⟩ : ∃ f, fuel = f + 1 := ⟨fuel - 1, by simp at h; omega⟩
    obtain ⟨a, l, hal⟩ : ∃ a l, encodeChar c ++ cs.flatMap encodeChar = a :: l :=
      List.exists_cons_of_ne_nil (List.append_ne_nil_of_left_ne_nil (encodeChar_ne_nil c) _)
    rw [List.flatMap_cons, hal, charsLoop, ← hal, nextChar_encodeChar_append]
    simp only [ih f (by simp at h; omega)]
    rfl

theorem charsLoop_eq_some {fuel : Nat} {v : Bytes} {cs : List Char} (h : charsLoop fuel v = some cs) :
    v = cs.flatMap encodeChar := by
  induction fuel generalizing v cs with
  | zero => cases v <;> cases h; rfl
  | succ f ih =>
    cases v with
    | nil => cases h; rfl
    | cons a l =>
      simp only [charsLoop] at h
      split at h
      · next c rest hn =>
        obtain ⟨cs', hl, rfl⟩ := Option.map_eq_some'.1 h
        rw [nextChar_eq_some hn, ih hl, List.flatMap_cons]
      · cases h

theorem fromUtf8_utf8Bytes (s : String) : fromUtf8 (utf8Bytes s) = some s := by
  rw [fromUtf8, chars, utf8Bytes, charsLoop_flatMap _ _ (length_le_flatMap _ fun c _ => encodeChar_ne_nil c)]
  rfl

/-- What `from_utf8` accepts is the encoding of the string it borrows. -/
theorem eq_utf8Bytes_of_fromUtf8 {v : Bytes} {s : String} (h : fromUtf8 v = some s) : v = utf8Bytes s := by
  obtain ⟨cs, hc, rfl⟩ := Option.map_eq_some'.1 h
  exact charsLoop_eq_some hc

/-- `from_utf8` accepts exactly the encodings of strings, and borrows the string encoded. -/
theorem fromUtf8_eq_some_iff (v : Bytes) (s : String) : fromUtf8 v = some s ↔ v = utf8Bytes s :=
  ⟨eq_utf8Bytes_of_fromUtf8, fun h => h ▸ fromUtf8_utf8Bytes s⟩

end Enclaves.Utf8
