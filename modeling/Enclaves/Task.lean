import Mathlib.Data.List.Infix
/-!
# Tasks of the data plane

Every connection the enclave's servers accept runs as its own task. We model a task as
the code runs it: either it has returned, with what a Rust function ends with (a value,
an error, or a panic), or it waits on an I/O call and goes on with the call's answer.
The calls and their answers are parameters (`Call`, `Answer`), one signature per
component. `Prog.run env` answers each call with `env` and gives the outcome and the
calls made, in order; the answers range over everything the world can say, so a
property of `run env` for every `env` holds for every run of the task. A server's tasks
run side by side (`Prog.interleave`); in any interleaving each task has made exactly the
first calls of its own run, as many as its turns (`Prog.callsOf_interleave`).
-/

namespace Enclaves

/-- A byte buffer (`Vec<u8>`, `&[u8]`). -/
abbrev Bytes := List UInt8

theorem toNat_ofNat_lt {n : Nat} (h : n < 256) : (UInt8.ofNat n).toNat = n :=
  UInt8.toNat_ofNat_of_lt h

/-- Writing values one after another with an encoder that writes a byte at least takes a
byte a value at least. -/
theorem length_le_flatMap {β : Type} {enc : β → Bytes} (xs : List β) (hne : ∀ x ∈ xs, enc x ≠ []) :
    xs.length ≤ (xs.flatMap enc).length := by
  induction xs with
  | nil => simp
  | cons x xs ih =>
    have := List.length_pos.2 (hne x (.head _))
    simp only [List.flatMap_cons, List.length_append, List.length_cons]
    have := ih fun y hy => hne y (.tail _ hy)
    omega

/-- A `std::io::Error`: the tasks only pass it on. -/
structure IoError where
  kind : String
  deriving DecidableEq, Repr

/-- Results of the code and of its parsers can be compared. -/
instance instDecidableEqExcept {ε α : Type} [DecidableEq ε] [DecidableEq α] :
    DecidableEq (Except ε α)
  | .ok a, .ok b => decidable_of_iff (a = b) (by simp)
  | .error a, .error b => decidable_of_iff (a = b) (by simp)
  | .ok _, .error _ => isFalse (by simp)
  | .error _, .ok _ => isFalse (by simp)

/-- What a Rust function ends with: `Ok`, `Err`, or a panic with its message. -/
inductive Outcome (ε α : Type) where
  | ok : α → Outcome ε α
  | err : ε → Outcome ε α
  | panic : String → Outcome ε α
  deriving DecidableEq, Repr

namespace Outcome

variable {ε ε' α β : Type}

/-- Rust's `?`: stop at an error or a panic. -/
def bind : Outcome ε α → (α → Outcome ε β) → Outcome ε β
  | .ok a, f => f a
  | .err e, _ => .err e
  | .panic m, _ => .panic m

instance : Monad (Outcome ε) where
  pure := .ok
  bind := bind

/-- `map_err`. -/
def mapErr (f : ε → ε') : Outcome ε α → Outcome ε' α
  | .ok a => .ok a
  | .err e => .err (f e)
  | .panic m => .panic m

/-- A `Result` of the code, `?`-converted by `into`. -/
def ofExcept (into : ε' → ε) : Except ε' α → Outcome ε α
  | .ok a => .ok a
  | .error e => .err (into e)

/-- Indexing a `Vec`, which panics out of bounds. -/
def index (v : List α) (i : Nat) : Outcome ε α :=
  match v.get? i with
  | some a => .ok a
  | none => .panic ("index out of bounds: the len is " ++ toString v.length ++ " but the index is " ++
      toString i)

@[simp] theorem pure_eq (a : α) : (pure a : Outcome ε α) = .ok a := rfl

@[simp] theorem ok_bind (a : α) (f : α → Outcome ε β) : (Outcome.ok a >>= f) = f a := rfl

@[simp] theorem err_bind (e : ε) (f : α → Outcome ε β) : (Outcome.err e >>= f) = .err e := rfl

@[simp] theorem panic_bind (m : String) (f : α → Outcome ε β) :
    (Outcome.panic m >>= f) = .panic m := rfl

@[simp] theorem index_cons_zero (a : α) (v : List α) : (index (a :: v) 0 : Outcome ε α) = .ok a := rfl

@[simp] theorem ofExcept_ok (into : ε' → ε) (a : α) : Outcome.ofExcept into (.ok a) = .ok a := rfl

@[simp] theorem ofExcept_error (into : ε' → ε) (e : ε') :
    (Outcome.ofExcept into (.error e) : Outcome ε α) = .err (into e) := rfl

@[simp] theorem ofExcept_eq_ok (into : ε' → ε) (x : Except ε' α) (a : α) :
    Outcome.ofExcept into x = .ok a ↔ x = .ok a := by
  cases x <;> simp

@[simp] theorem mapErr_ok (f : ε → ε') (a : α) : (Outcome.ok a).mapErr f = .ok a := rfl

@[simp] theorem mapErr_err (f : ε → ε') (e : ε) : (Outcome.err e : Outcome ε α).mapErr f = .err (f e) :=
  rfl

@[simp] theorem mapErr_panic (f : ε → ε') (m : String) :
    (Outcome.panic m : Outcome ε α).mapErr f = .panic m := rfl

end Outcome

/-- A task: it has returned, or it waits on the call `c` and goes on with its answer. -/
inductive Prog (Call : Type) (Answer : Call → Type) (ε α : Type) where
  | ret : Outcome ε α → Prog Call Answer ε α
  | call (c : Call) : (Answer c → Prog Call Answer ε α) → Prog Call Answer ε α

namespace Prog

variable {Call : Type} {Answer : Call → Type} {ε ε' α β : Type}

/-- Sequencing with Rust's `?`: an error or a panic ends the task. -/
def bind : Prog Call Answer ε α → (α → Prog Call Answer ε β) → Prog Call Answer ε β
  | .ret (.ok a), f => f a
  | .ret (.err e), _ => .ret (.err e)
  | .ret (.panic m), _ => .ret (.panic m)
  | .call c k, f => .call c (fun r => (k r).bind f)

instance : Monad (Prog Call Answer ε) where
  pure a := .ret (.ok a)
  bind := bind

/-- `.await` on the call `c`. -/
def await (c : Call) : Prog Call Answer ε (Answer c) := .call c (fun r => .ret (.ok r))

/-- `return Err(e)`. -/
def throw (e : ε) : Prog Call Answer ε α := .ret (.err e)

/-- Rust's `?` on a `Result`, with the `From` conversion `into`. -/
def ofExcept (into : ε' → ε) (x : Except ε' α) : Prog Call Answer ε α :=
  .ret (Outcome.ofExcept into x)

/-- Rust's `?` on another task's result, with the `From` conversion `into`. -/
def mapErr (into : ε → ε') : Prog Call Answer ε α → Prog Call Answer ε' α
  | .ret o => .ret (o.mapErr into)
  | .call c k => .call c (fun r => (k r).mapErr into)

/-- The task run against the answers `env`: its outcome and the calls it made. -/
def run (env : (c : Call) → Answer c) : Prog Call Answer ε α → Outcome ε α × List Call
  | .ret o => (o, [])
  | .call c k => (((k (env c)).run env).1, c :: ((k (env c)).run env).2)

variable (env : (c : Call) → Answer c)

@[simp] theorem pure_eq (a : α) : (pure a : Prog Call Answer ε α) = .ret (.ok a) := rfl

@[simp] theorem bind_eq (x : Prog Call Answer ε α) (f : α → Prog Call Answer ε β) :
    x >>= f = x.bind f := rfl

@[simp] theorem ret_ok_bind (a : α) (f : α → Prog Call Answer ε β) : (ret (.ok a)).bind f = f a := rfl

@[simp] theorem ret_err_bind (e : ε) (f : α → Prog Call Answer ε β) :
    (ret (.err e)).bind f = ret (.err e) := rfl

@[simp] theorem ret_panic_bind (m : String) (f : α → Prog Call Answer ε β) :
    (ret (.panic m)).bind f = ret (.panic m) := rfl

@[simp] theorem call_bind (c : Call) (k : Answer c → Prog Call Answer ε α)
    (f : α → Prog Call Answer ε β) : (call c k).bind f = call c (fun r => (k r).bind f) := rfl

@[simp] theorem await_bind (c : Call) (f : Answer c → Prog Call Answer ε β) :
    (await c).bind f = call c f := rfl

@[simp] theorem throw_bind (e : ε) (f : α → Prog Call Answer ε β) : (throw e).bind f = throw e := rfl

@[simp] theorem ofExcept_bind (into : ε' → ε) (x : Except ε' α) (f : α → Prog Call Answer ε β) :
    (ofExcept into x).bind f = match x with | .ok a => f a | .error e => throw (into e) := by
  cases x <;> rfl

@[simp] theorem run_ofExcept (into : ε' → ε) (x : Except ε' α) :
    (ofExcept into x : Prog Call Answer ε α).run env = (Outcome.ofExcept into x, []) := rfl

@[simp] theorem run_ret (o : Outcome ε α) : (ret o : Prog Call Answer ε α).run env = (o, []) := rfl

@[simp] theorem run_throw (e : ε) : (throw e : Prog Call Answer ε α).run env = (.err e, []) := rfl

@[simp] theorem run_call (c : Call) (k : Answer c → Prog Call Answer ε α) :
    (call c k).run env = (((k (env c)).run env).1, c :: ((k (env c)).run env).2) := rfl

@[simp] theorem mapErr_ret (into : ε → ε') (o : Outcome ε α) :
    (ret o : Prog Call Answer ε α).mapErr into = ret (o.mapErr into) := rfl

@[simp] theorem mapErr_call (into : ε → ε') (c : Call) (k : Answer c → Prog Call Answer ε α) :
    (call c k).mapErr into = call c (fun r => (k r).mapErr into) := rfl

/-- A task ends as its first part does, unless that part returns a value. -/
theorem run_bind (x : Prog Call Answer ε α) (f : α → Prog Call Answer ε β) :
    (x.bind f).run env =
      match (x.run env).1 with
      | .ok a => (((f a).run env).1, (x.run env).2 ++ ((f a).run env).2)
      | .err e => (.err e, (x.run env).2)
      | .panic m => (.panic m, (x.run env).2) := by
  induction x with
  | ret o => cases o <;> rfl
  | call c k ih =>
    simp only [call_bind, run_call, ih]
    split <;> simp_all

/-- A task that returns a value got one from its first part, and went on from it. -/
theorem run_bind_ok {x : Prog Call Answer ε α} {f : α → Prog Call Answer ε β} {b : β}
    (h : ((x.bind f).run env).1 = .ok b) :
    ∃ a, (x.run env).1 = .ok a ∧ ((f a).run env).1 = .ok b ∧
      ((x.bind f).run env).2 = (x.run env).2 ++ ((f a).run env).2 := by
  rw [run_bind] at h ⊢
  split at h
  · next a ha => exact ⟨a, ha, h, rfl⟩
  all_goals cases h

/-- `?` on a task changes its error only. -/
theorem run_mapErr (into : ε → ε') (x : Prog Call Answer ε α) :
    (x.mapErr into).run env = (((x.run env).1).mapErr into, (x.run env).2) := by
  induction x with
  | ret o => rfl
  | call c k ih => simp [ih]

/-! ## Tasks that cannot panic -/

/-- A task that ends with `Ok` or `Err` whatever the world answers: no `panic!`, `unwrap`
or `expect` in it can fire. -/
inductive NoPanic : Prog Call Answer ε α → Prop
  | ret {o : Outcome ε α} : (∀ m, o ≠ .panic m) → NoPanic (.ret o)
  | call {c : Call} {k : Answer c → Prog Call Answer ε α} : (∀ a, NoPanic (k a)) → NoPanic (.call c k)

theorem NoPanic.run {x : Prog Call Answer ε α} (hx : x.NoPanic) (m : String) :
    (x.run env).1 ≠ .panic m := by
  induction hx with
  | ret h => exact h m
  | call _ ih => exact ih _

theorem noPanic_pure (a : α) : (pure a : Prog Call Answer ε α).NoPanic :=
  .ret fun _ h => nomatch h

theorem noPanic_throw (e : ε) : (throw e : Prog Call Answer ε α).NoPanic :=
  .ret fun _ h => nomatch h

theorem noPanic_ofExcept (into : ε' → ε) (x : Except ε' α) :
    (ofExcept into x : Prog Call Answer ε α).NoPanic :=
  .ret fun _ h => by cases x <;> cases h

theorem noPanic_await (c : Call) : (await c : Prog Call Answer ε (Answer c)).NoPanic :=
  .call fun _ => .ret fun _ h => nomatch h

/-- `?` keeps a task from panicking when both its parts cannot. -/
theorem NoPanic.bind {x : Prog Call Answer ε α} {f : α → Prog Call Answer ε β} (hx : x.NoPanic)
    (hf : ∀ a, (f a).NoPanic) : (x.bind f).NoPanic := by
  induction hx with
  | @ret o h =>
    cases o with
    | ok a => exact hf a
    | err e => exact .ret fun _ h => nomatch h
    | panic m => exact absurd rfl (h m)
  | call _ ih => exact .call ih

theorem NoPanic.mapErr {x : Prog Call Answer ε α} (into : ε → ε') (hx : x.NoPanic) :
    (x.mapErr into).NoPanic := by
  induction hx with
  | @ret o h => exact .ret fun m hm => by cases o <;> cases hm; exact h m rfl
  | call _ ih => exact .call ih

/-! ## Tasks side by side -/

/-- Tasks run side by side, as the runtime interleaves the ones a server spawns: each
entry of the schedule lets task `i` take its next await, answered by its own world
`worlds i`; a task that has returned is skipped. The result is the interleaved list of
calls, each tagged with its task. -/
def interleave (worlds : Nat → (c : Call) → Answer c) :
    (Nat → Prog Call Answer ε α) → List Nat → List (Nat × Call)
  | _, [] => []
  | tasks, i :: schedule =>
    match tasks i with
    | .ret _ => interleave worlds tasks schedule
    | .call c k => (i, c) :: interleave worlds (Function.update tasks i (k (worlds i c))) schedule

/-- The calls of task `i` in an interleaved list, in order. -/
def callsOf (i : Nat) (trace : List (Nat × Call)) : List Call :=
  (trace.filter (·.1 == i)).map (·.2)

@[simp] theorem callsOf_nil (i : Nat) : callsOf i ([] : List (Nat × Call)) = [] := rfl

@[simp] theorem callsOf_cons_self (i : Nat) (c : Call) (trace : List (Nat × Call)) :
    callsOf i ((i, c) :: trace) = c :: callsOf i trace := by
  simp [callsOf]

theorem callsOf_cons_other {i j : Nat} (h : j ≠ i) (c : Call) (trace : List (Nat × Call)) :
    callsOf i ((j, c) :: trace) = callsOf i trace := by
  simp [callsOf, h]

/-- However the tasks are interleaved, the calls of each task are the start of its own
run, as long as the schedule has given it turns: a task gets only its own answers, and
nothing another task does, returns or fails with, enters its list or changes it. -/
theorem callsOf_interleave (worlds : Nat → (c : Call) → Answer c)
    (tasks : Nat → Prog Call Answer ε α) (schedule : List Nat) (i : Nat) :
    callsOf i (interleave worlds tasks schedule) = ((tasks i).run (worlds i)).2.take (schedule.count i) := by
  induction schedule generalizing tasks with
  | nil => simp [interleave]
  | cons j schedule ih =>
    simp only [interleave]
    split
    next o hj =>
      rw [ih tasks]
      by_cases hji : j = i
      · subst hji
        simp [hj]
      · rw [List.count_cons_of_ne (Ne.symm hji)]
    next c k hj =>
      have step := ih (Function.update tasks j (k (worlds j c)))
      by_cases hji : j = i
      · subst hji
        rw [Function.update_same] at step
        rw [callsOf_cons_self, step, hj, run_call, List.count_cons_self, List.take_succ_cons]
      · rw [Function.update_noteq (Ne.symm hji)] at step
        rw [callsOf_cons_other hji, step, List.count_cons_of_ne (Ne.symm hji)]

theorem callsOf_interleave_prefix (worlds : Nat → (c : Call) → Answer c)
    (tasks : Nat → Prog Call Answer ε α) (schedule : List Nat) (i : Nat) :
    callsOf i (interleave worlds tasks schedule) <+: ((tasks i).run (worlds i)).2 :=
  callsOf_interleave worlds tasks schedule i ▸ List.take_prefix _ _

end Prog

end Enclaves
