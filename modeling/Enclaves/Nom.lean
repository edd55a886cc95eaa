import Enclaves.Task
/-!
# nom's streaming parsers

`tls-parser` is written with nom 7's streaming combinators. A streaming parser that runs
out of input does not fail: it answers `Err::Incomplete(n)`, "give me `n` more bytes".
`complete` turns that answer into an error, and `Finish::finish`, which `get_hostname`
calls on every parse, panics on it. We model the combinators `tls-parser` uses, over byte
lists, each returning the rest of its input with its output.
-/

namespace Enclaves.Nom

/-- The `nom::error::ErrorKind`s the modelled parsers raise. -/
inductive ErrorKind where
  | complete | verify | many0 | many1 | tooLarge | switch | lengthValue | tag
  deriving DecidableEq, Repr

/-- The name `{:?}` prints. -/
def ErrorKind.name : ErrorKind → String
  | .complete => "Complete"
  | .verify => "Verify"
  | .many0 => "Many0"
  | .many1 => "Many1"
  | .tooLarge => "TooLarge"
  | .switch => "Switch"
  | .lengthValue => "LengthValue"
  | .tag => "Tag"

/-- `nom::error::Error<&[u8]>`: the input where the parser stopped, and why. -/
structure Error where
  input : Bytes
  code : ErrorKind
  deriving DecidableEq, Repr

/-- `format!("{:?}", e)` of a `nom::error::Error<&[u8]>`. -/
def Error.debug (e : Error) : String :=
  "Error \x7b input: " ++ toString (e.input.map UInt8.toNat) ++ ", code: " ++ e.code.name ++ " \x7d"

/-- `nom::Err`: more input needed (`Needed::Size`), or an error. -/
inductive Err where
  | incomplete (needed : Nat)
  | error (e : Error)
  deriving DecidableEq, Repr

/-- A parser over byte slices: `IResult<&[u8], O>` is the rest of the input and the
output, or an `Err`. -/
abbrev Parser (α : Type) := Bytes → Except Err (Bytes × α)

variable {α : Type}

/-! ## Streaming primitives -/

/-- `number::streaming::be_u8`. -/
def beU8 : Parser Nat
  | a :: i => .ok (i, a.toNat)
  | [] => .error (.incomplete 1)

/-- `number::streaming::be_u16`. -/
def beU16 : Parser Nat
  | a :: b :: i => .ok (i, a.toNat * 256 + b.toNat)
  | i => .error (.incomplete (2 - i.length))

/-- `number::streaming::be_u24`. -/
def beU24 : Parser Nat
  | a :: b :: c :: i => .ok (i, (a.toNat * 256 + b.toNat) * 256 + c.toNat)
  | i => .error (.incomplete (3 - i.length))

/-- `number::streaming::be_u32`. -/
def beU32 : Parser Nat
  | a :: b :: c :: d :: i => .ok (i, ((a.toNat * 256 + b.toNat) * 256 + c.toNat) * 256 + d.toNat)
  | i => .error (.incomplete (4 - i.length))

/-- `bytes::streaming::take(n)`. -/
def take (n : Nat) : Parser Bytes := fun i =>
  if i.length < n then .error (.incomplete (n - i.length)) else .ok (i.drop n, i.take n)

/-- `multi::length_data(f)`: a length, then that many bytes. -/
def lengthData (f : Parser Nat) : Parser Bytes := fun i =>
  match f i with
  | .ok (i, n) => take n i
  | .error e => .error e

/-- `g` applied `n` times in a row (the loop of `multi::length_count`). -/
def count (g : Parser α) : Nat → Parser (List α)
  | 0, i => .ok (i, [])
  | n + 1, i =>
    match g i with
    | .ok (i, o) =>
      match count g n i with
      | .ok (r, os) => .ok (r, o :: os)
      | .error e => .error e
    | .error e => .error e

/-- `multi::length_count(f, g)`: a count, then `g` that many times. -/
def lengthCount (f : Parser Nat) (g : Parser α) : Parser (List α) := fun i =>
  match f i with
  | .ok (i, n) => count g n i
  | .error e => .error e

/-! ## Combinators -/

/-- `combinator::complete`: running out of input is an error. -/
def complete (p : Parser α) : Parser α := fun i =>
  match p i with
  | .error (.incomplete _) => .error (.error ⟨i, .complete⟩)
  | r => r

/-- `combinator::verify`. -/
def verify (p : Parser α) (check : α → Bool) : Parser α := fun i =>
  match p i with
  | .ok (r, o) => if check o then .ok (r, o) else .error (.error ⟨i, .verify⟩)
  | .error e => .error e

/-- `combinator::cond`. -/
def cond (b : Bool) (p : Parser α) : Parser (Option α) := fun i =>
  if b then
    match p i with
    | .ok (r, o) => .ok (r, some o)
    | .error e => .error e
  else .ok (i, none)

/-- `combinator::opt`: an error is an absent value; `Incomplete` is passed on. -/
def opt (p : Parser α) : Parser (Option α) := fun i =>
  match p i with
  | .ok (r, o) => .ok (r, some o)
  | .error (.error _) => .ok (i, none)
  | .error (.incomplete n) => .error (.incomplete n)

/-- `branch::alt((p, q))`: `q` when `p` fails with an error. -/
def alt (p q : Parser α) : Parser α := fun i =>
  match p i with
  | .error (.error _) => q i
  | r => r

/-- `combinator::map_parser`: run `q` on what `p` took; `q`'s rest is dropped. -/
def mapParser (p : Parser Bytes) (q : Parser α) : Parser α := fun i =>
  match p i with
  | .ok (i, o1) =>
    match q o1 with
    | .ok (_, o2) => .ok (i, o2)
    | .error e => .error e
  | .error e => .error e

/-- The loop of `many0` and `many1`: apply `p` until it errs, failing with `kind` if a
round consumes nothing. Every other round consumes, so the input's length bounds the
rounds (`fuel`). -/
def manyLoop (kind : ErrorKind) (p : Parser α) : Nat → Parser (List α)
  | 0, i => .ok (i, [])
  | fuel + 1, i =>
    match p i with
    | .error (.error _) => .ok (i, [])
    | .error (.incomplete n) => .error (.incomplete n)
    | .ok (i1, o) =>
      if i1.length = i.length then .error (.error ⟨i, kind⟩)
      else
        match manyLoop kind p fuel i1 with
        | .ok (r, os) => .ok (r, o :: os)
        | .error e => .error e

/-- `multi::many0`. -/
def many0 (p : Parser α) : Parser (List α) := fun i => manyLoop .many0 p (i.length + 1) i

/-- `multi::many1`: the first round must succeed (its error is passed on as it is). -/
def many1 (p : Parser α) : Parser (List α) := fun i =>
  match p i with
  | .error e => .error e
  | .ok (i1, o) =>
    match manyLoop .many1 p (i1.length + 1) i1 with
    | .ok (r, os) => .ok (r, o :: os)
    | .error e => .error e

/-- `Finish::finish`: an error becomes `Err`, and `Incomplete`, which cannot be finished,
panics. -/
def finish : Except Err (Bytes × α) → Outcome Error (Bytes × α)
  | .ok r => .ok r
  | .error (.error e) => .err e
  | .error (.incomplete _) => .panic
    "Cannot call `finish()` on `Err(Err::Incomplete(_))`: this result means that the parser does not have enough data to decide, you should gather more data and try to reapply  the parser instead"

/-! ## What the combinators answer -/

section
variable {β γ : Type}

@[simp] theorem except_ok_bind (r : β) (f : β → Except Err γ) : (Except.ok r >>= f) = f r := rfl

@[simp] theorem except_error_bind (e : Err) (f : β → Except Err γ) :
    (Except.error e >>= f) = .error e := rfl

@[simp] theorem except_pure (r : β) : (pure r : Except Err β) = .ok r := rfl

@[simp] theorem except_throw (e : Err) : (throw e : Except Err β) = .error e := rfl

theorem bind_eq_ok {x : Except Err β} {f : β → Except Err γ} {c : γ} :
    (x >>= f) = .ok c ↔ ∃ b, x = .ok b ∧ f b = .ok c := by
  cases x <;> simp

end

@[simp] theorem beU8_nil : beU8 [] = .error (.incomplete 1) := rfl

@[simp] theorem beU8_cons (a : UInt8) (i : Bytes) : beU8 (a :: i) = .ok (i, a.toNat) := rfl

@[simp] theorem beU16_cons (a b : UInt8) (i : Bytes) :
    beU16 (a :: b :: i) = .ok (i, a.toNat * 256 + b.toNat) := rfl

@[simp] theorem beU24_cons (a b c : UInt8) (i : Bytes) :
    beU24 (a :: b :: c :: i) = .ok (i, (a.toNat * 256 + b.toNat) * 256 + c.toNat) := rfl

theorem take_short {n : Nat} {i : Bytes} (h : i.length < n) :
    take n i = .error (.incomplete (n - i.length)) := by
  simp [take, h]

theorem take_ok {n : Nat} {i : Bytes} (h : n ≤ i.length) : take n i = .ok (i.drop n, i.take n) := by
  simp [take, Nat.not_lt.2 h]

theorem beU16_consumes {i r : Bytes} {n : Nat} (h : beU16 i = .ok (r, n)) :
    r.length + 2 = i.length := by
  rcases i with _ | ⟨a, _ | ⟨b, i⟩⟩ <;> cases h
  rfl

theorem take_eq_ok {n : Nat} {i r o : Bytes} (h : take n i = .ok (r, o)) :
    r = i.drop n ∧ o = i.take n := by
  unfold take at h
  split at h <;> cases h
  exact ⟨rfl, rfl⟩

@[simp] theorem finish_ok (r : Bytes × α) : finish (.ok r) = .ok r := rfl

@[simp] theorem finish_error (e : Error) : finish (.error (.error e) : Except Err (Bytes × α)) = .err e := rfl

/-- `complete` never asks for more input. -/
theorem complete_ne_incomplete (p : Parser α) (i : Bytes) (n : Nat) :
    complete p i ≠ .error (.incomplete n) := by
  unfold complete
  split <;> simp_all

/-- A success of `complete p` is a success of `p`. -/
theorem complete_eq_ok {p : Parser α} {i r : Bytes} {o : α} (h : complete p i = .ok (r, o)) :
    p i = .ok (r, o) := by
  unfold complete at h
  split at h <;> first | cases h | exact h

theorem mapParser_eq_ok {p : Parser Bytes} {q : Parser α} {i r : Bytes} {o : α}
    (h : mapParser p q i = .ok (r, o)) : ∃ o1 r1, p i = .ok (r, o1) ∧ q o1 = .ok (r1, o) := by
  unfold mapParser at h
  split at h
  · split at h
    · cases h; exact ⟨_, _, ‹_›, ‹_›⟩
    · cases h
  · cases h

/-- A loop over a parser that consumes input on every success and never asks for more
input never fails: it stops at the first error and keeps what it has parsed. -/
theorem manyLoop_ok {p : Parser α} (hp : ∀ i n, p i ≠ .error (.incomplete n))
    (hc : ∀ i r o, p i = .ok (r, o) → r.length < i.length) (kind : ErrorKind) (fuel : Nat)
    (i : Bytes) : ∃ r os, manyLoop kind p fuel i = .ok (r, os) := by
  induction fuel generalizing i with
  | zero => exact ⟨i, [], rfl⟩
  | succ fuel ih =>
    rcases h : p i with (n | e) | ⟨i1, o⟩
    · exact absurd h (hp i n)
    · exact ⟨i, [], by simp only [manyLoop, h]⟩
    · obtain ⟨r, os, hr⟩ := ih i1
      exact ⟨r, o :: os, by simp only [manyLoop, h, (hc i i1 o h).ne, hr, if_false]⟩

/-- What `many1` returns is never empty. -/
theorem many1_ne_nil {p : Parser α} {i r : Bytes} (h : many1 p i = .ok (r, [])) : False := by
  unfold many1 at h
  split at h
  · cases h
  · split at h <;> simp at h

/-! ## What a parser keeps to -/

/-- A parser that keeps to its input: what it leaves is an unchanged end of it. -/
def Rests (p : Parser α) : Prop := ∀ ⦃i r : Bytes⦄ ⦃o : α⦄, p i = .ok (r, o) → r <:+ i

/-- A streaming parser that has decided on `i` decides alike on any longer input: the
bytes after those it took are left as they are. -/
def Streams (p : Parser α) : Prop :=
  ∀ ⦃i r : Bytes⦄ ⦃o : α⦄ (e : Bytes), p i = .ok (r, o) → p (i ++ e) = .ok (r ++ e, o)

theorem beU8_rests : Rests beU8 := by
  intro i r o h
  rcases i with _ | ⟨a, i⟩ <;> cases h
  exact List.suffix_cons _ _

theorem beU16_rests : Rests beU16 := by
  intro i r o h
  rcases i with _ | ⟨a, _ | ⟨b, i⟩⟩ <;> cases h
  exact ⟨[a, b], rfl⟩

theorem beU24_rests : Rests beU24 := by
  intro i r o h
  rcases i with _ | ⟨a, _ | ⟨b, _ | ⟨c, i⟩⟩⟩ <;> cases h
  exact ⟨[a, b, c], rfl⟩

theorem take_rests (n : Nat) : Rests (take n) := fun ⦃i _ _⦄ h =>
  (take_eq_ok h).1 ▸ List.drop_suffix n i

/-- What `take` returns is the start of its input. -/
theorem take_output {n : Nat} {i r o : Bytes} (h : take n i = .ok (r, o)) : o <+: i :=
  (take_eq_ok h).2 ▸ List.take_prefix n i

theorem lengthData_eq_ok {f : Parser Nat} {i r o : Bytes} (h : lengthData f i = .ok (r, o)) :
    ∃ i1 n, f i = .ok (i1, n) ∧ take n i1 = .ok (r, o) := by
  unfold lengthData at h
  split at h
  · exact ⟨_, _, ‹_›, h⟩
  · cases h

theorem lengthData_rests {f : Parser Nat} (hf : Rests f) : Rests (lengthData f) := fun ⦃_ _ _⦄ h =>
  let ⟨_, _, h1, h2⟩ := lengthData_eq_ok h
  (take_rests _ h2).trans (hf h1)

/-- What `length_data` returns is a slice of its input. -/
theorem lengthData_output {f : Parser Nat} (hf : Rests f) {i r o : Bytes}
    (h : lengthData f i = .ok (r, o)) : o <:+: i :=
  let ⟨_, _, h1, h2⟩ := lengthData_eq_ok h
  (take_output h2).isInfix.trans (hf h1).isInfix

theorem complete_rests {p : Parser α} (hp : Rests p) : Rests (complete p) := fun ⦃_ _ _⦄ h =>
  hp (complete_eq_ok h)

theorem verify_rests {p : Parser α} (hp : Rests p) (check : α → Bool) : Rests (verify p check) := by
  intro i r o h
  unfold verify at h
  split at h
  · split at h <;> cases h
    exact hp ‹_›
  · cases h

theorem cond_rests {p : Parser α} (hp : Rests p) (b : Bool) : Rests (cond b p) := by
  intro i r o h
  unfold cond at h
  split at h
  · split at h <;> cases h
    exact hp ‹_›
  · cases h
    exact List.suffix_refl i

/-- A value `opt` found is its parser's. -/
theorem opt_eq_ok_some {p : Parser α} {i r : Bytes} {o : α} (h : opt p i = .ok (r, some o)) :
    p i = .ok (r, o) := by
  unfold opt at h
  split at h <;> cases h
  assumption

/-- Every value a loop returns was parsed, by its parser, from an end of its input. -/
theorem manyLoop_mem {p : Parser α} (hp : Rests p) {kind : ErrorKind} {fuel : Nat} {i r : Bytes}
    {os : List α} (h : manyLoop kind p fuel i = .ok (r, os)) {o : α} (ho : o ∈ os) :
    ∃ j r', j <:+ i ∧ p j = .ok (r', o) := by
  induction fuel generalizing i os with
  | zero => cases h; cases ho
  | succ fuel ih =>
    rcases h1 : p i with (n | e) | ⟨i1, o1⟩ <;> simp only [manyLoop, h1] at h
    · cases h
    · cases h; cases ho
    split at h
    · cases h
    rcases h2 : manyLoop kind p fuel i1 with e | ⟨r', os'⟩ <;> simp only [h2] at h <;> cases h
    rcases List.mem_cons.1 ho with rfl | ho
    · exact ⟨i, _, List.suffix_refl i, h1⟩
    · obtain ⟨j, r'', hj, hpj⟩ := ih h2 ho
      exact ⟨j, r'', hj.trans (hp h1), hpj⟩

/-- The first value `many1` returns is its parser's, on the whole input. -/
theorem many1_head {p : Parser α} {i r : Bytes} {os : List α} (h : many1 p i = .ok (r, os)) :
    ∃ i1 o, p i = .ok (i1, o) ∧ os.head? = some o := by
  rcases h1 : p i with e | ⟨i1, o⟩ <;> simp only [many1, h1] at h
  · cases h
  · split at h <;> cases h
    exact ⟨i1, o, rfl, rfl⟩

theorem beU8_streams : Streams beU8 := by
  intro i r o e h
  rcases i with _ | ⟨a, i⟩ <;> cases h
  rfl

theorem beU16_streams : Streams beU16 := by
  intro i r o e h
  rcases i with _ | ⟨a, _ | ⟨b, i⟩⟩ <;> cases h
  rfl

theorem take_streams (n : Nat) : Streams (take n) := by
  intro i r o e h
  have hn : n ≤ i.length := by
    unfold take at h
    split at h
    · cases h
    · omega
  obtain ⟨rfl, rfl⟩ := take_eq_ok h
  rw [take_ok (by simp only [List.length_append]; omega), List.drop_append_of_le_length hn,
    List.take_append_of_le_length hn]

theorem mapParser_streams {p : Parser Bytes} (q : Parser α) (hp : Streams p) :
    Streams (mapParser p q) := by
  intro i r o e h
  obtain ⟨o1, r1, h1, h2⟩ := mapParser_eq_ok h
  simp only [mapParser, hp e h1, h2]

end Enclaves.Nom
