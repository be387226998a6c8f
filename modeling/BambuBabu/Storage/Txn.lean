import Mathlib.Order.Basic

/-!
# `Storage.Txn` — database transactions as programs

A transaction is a tree of statements over an arbitrary database type `δ`: it reads, it updates, it may
raise an exception of type `ε` and it may end with a value. One program has two meanings:

* `Txn.run` / `Txn.commit` execute it **atomically**: all statements against one database, committed when
  the program ends and rolled back when it raises;
* `Storage.Interleave` executes it **statement by statement**, against a database that other transactions
  change in between.

Nothing here mentions any particular schema.
-/

namespace Storage

/-- A transaction program. `read` is a SELECT: its continuation sees the database the statement ran against.
    `update` is an INSERT/UPDATE: it writes, and its continuation sees the database from *before* the
    write (a row count is a function of that). -/
inductive Txn (δ ε α : Type) : Type where
  | done (a : α)
  | fail (e : ε)
  | read (k : δ → Txn δ ε α)
  | update (w : δ → δ) (k : δ → Txn δ ε α)

namespace Txn

variable {δ ε α β : Type}

/-- Sequencing; an exception skips the rest. -/
def bind : Txn δ ε α → (α → Txn δ ε β) → Txn δ ε β
  | done a, f => f a
  | fail e, _ => fail e
  | read k, f => read fun d => (k d).bind f
  | update w k, f => update w fun d => (k d).bind f

/-- Catch an exception *inside* the transaction: what was written before it stays written. -/
def tryCatch : Txn δ ε α → (ε → Txn δ ε α) → Txn δ ε α
  | done a, _ => done a
  | fail e, h => h e
  | read k, h => read fun d => (k d).tryCatch h
  | update w k, h => update w fun d => (k d).tryCatch h

instance : Monad (Txn δ ε) where
  pure := done
  bind := bind

instance : MonadExceptOf ε (Txn δ ε) where
  throw := fail
  tryCatch := tryCatch

/-- A query: the value `q` of the database the statement sees. -/
def select (q : δ → β) : Txn δ ε β := read fun d => done (q d)

/-- A write whose result (the row count) is computed on the database it was executed against. -/
def exec (w : δ → δ) (r : δ → β) : Txn δ ε β := update w fun d => done (r d)

/-- Forget the result. -/
def void (t : Txn δ ε α) : Txn δ ε Unit := do
  let _ ← t

/-! ## Atomic execution -/

/-- Execute the statements against `d`: the outcome and the working copy left behind. -/
def run : Txn δ ε α → δ → Except ε α × δ
  | done a, d => (.ok a, d)
  | fail e, d => (.error e, d)
  | read k, d => (k d).run d
  | update w k, d => (k d).run (w d)

/-- Execute and end the transaction: commit the working copy, or roll back when the program raised. -/
def commit (t : Txn δ ε α) (d : δ) : Except ε α × δ :=
  match t.run d with
  | (.ok a, d') => (.ok a, d')
  | (.error e, _) => (.error e, d)

section run

variable (d : δ)

@[simp] theorem run_done (a : α) : (done a : Txn δ ε α).run d = (.ok a, d) := rfl

@[simp] theorem run_fail (e : ε) : (fail e : Txn δ ε α).run d = (.error e, d) := rfl

@[simp] theorem run_pure (a : α) : (pure a : Txn δ ε α).run d = (.ok a, d) := rfl

@[simp] theorem run_throw (e : ε) : (throw e : Txn δ ε α).run d = (.error e, d) := rfl

@[simp] theorem run_select (q : δ → β) : (select q : Txn δ ε β).run d = (.ok (q d), d) := rfl

@[simp] theorem run_exec (w : δ → δ) (r : δ → β) :
    (exec w r : Txn δ ε β).run d = (.ok (r d), w d) := rfl

theorem run_bind' (t : Txn δ ε α) (f : α → Txn δ ε β) :
    ∀ d, (t.bind f).run d = match t.run d with
      | (.ok a, d') => (f a).run d'
      | (.error e, d') => (.error e, d') := by
  induction t with
  | done a => intro d; rfl
  | fail e => intro d; rfl
  | read k ih => intro d; exact ih d d
  | update w k ih => intro d; exact ih d (w d)

/-- **A program runs its parts in order**, on the working copy the part before left. -/
@[simp] theorem run_bind (t : Txn δ ε α) (f : α → Txn δ ε β) :
    (t >>= f).run d = match t.run d with
      | (.ok a, d') => (f a).run d'
      | (.error e, d') => (.error e, d') := run_bind' t f d

/-- A part that returned: the rest runs on what it left. -/
theorem run_bind_of_ok {t : Txn δ ε α} {f : α → Txn δ ε β} {d d' : δ} {a : α}
    (h : t.run d = (.ok a, d')) : (t >>= f).run d = (f a).run d' := by
  rw [run_bind, h]

/-- A part that raised: the rest does not run. -/
theorem run_bind_of_error {t : Txn δ ε α} {f : α → Txn δ ε β} {d d' : δ} {e : ε}
    (h : t.run d = (.error e, d')) : (t >>= f).run d = (.error e, d') := by
  rw [run_bind, h]

/-- **Inversion of sequencing**: a program that returned has returned from its first part. -/
theorem run_bind_ok {t : Txn δ ε α} {f : α → Txn δ ε β} {d d' : δ} {b : β}
    (h : (t >>= f).run d = (.ok b, d')) :
    ∃ a d₁, t.run d = (.ok a, d₁) ∧ (f a).run d₁ = (.ok b, d') := by
  rw [run_bind] at h
  rcases ht : t.run d with ⟨_ | a, d₁⟩
  · rw [ht] at h; cases h
  · rw [ht] at h; exact ⟨a, d₁, rfl, h⟩

/-- Inversion of an exception: it came from the first part or from the rest. -/
theorem run_bind_error {t : Txn δ ε α} {f : α → Txn δ ε β} {d d' : δ} {e : ε}
    (h : (t >>= f).run d = (.error e, d')) :
    t.run d = (.error e, d') ∨ ∃ a d₁, t.run d = (.ok a, d₁) ∧ (f a).run d₁ = (.error e, d') := by
  rw [run_bind] at h
  rcases ht : t.run d with ⟨e' | a, d₁⟩
  · rw [ht] at h; cases h; exact .inl rfl
  · rw [ht] at h; exact .inr ⟨a, d₁, rfl, h⟩

theorem run_tryCatch' (t : Txn δ ε α) (h : ε → Txn δ ε α) :
    ∀ d, (t.tryCatch h).run d = match t.run d with
      | (.ok a, d') => (.ok a, d')
      | (.error e, d') => (h e).run d' := by
  induction t with
  | done a => intro d; rfl
  | fail e => intro d; rfl
  | read k ih => intro d; exact ih d d
  | update w k ih => intro d; exact ih d (w d)

@[simp] theorem run_tryCatch (t : Txn δ ε α) (h : ε → Txn δ ε α) :
    (MonadExcept.tryCatch t h).run d = match t.run d with
      | (.ok a, d') => (.ok a, d')
      | (.error e, d') => (h e).run d' := run_tryCatch' t h d

@[simp] theorem run_ite (c : Prop) [Decidable c] (t e : Txn δ ε α) :
    (if c then t else e).run d = if c then t.run d else e.run d := by
  split <;> rfl

end run

/-! ## What a commit leaves -/

section commit

variable {t : Txn δ ε α} {d d' : δ}

theorem commit_of_ok {a : α} (h : t.run d = (.ok a, d')) : t.commit d = (.ok a, d') := by
  rw [commit, h]

/-- A program that returned without writing leaves the database as it was. -/
theorem commit_of_kept {a : α} (h : t.run d = (.ok a, d)) : t.commit d = (.ok a, d) := commit_of_ok h

theorem commit_of_error {e : ε} (h : t.run d = (.error e, d')) : t.commit d = (.error e, d) := by
  rw [commit, h]

theorem run_of_commit_ok {a : α} (h : t.commit d = (.ok a, d')) : t.run d = (.ok a, d') := by
  unfold commit at h
  rcases hr : t.run d with ⟨_ | b, d₁⟩ <;> rw [hr] at h
  · cases h
  · exact h

/-- A transaction that raised leaves the database as it found it. -/
theorem eq_of_commit_error {e : ε} (h : t.commit d = (.error e, d')) : d' = d := by
  unfold commit at h
  rcases hr : t.run d with ⟨_ | b, d₁⟩ <;> rw [hr] at h
  · exact (congrArg Prod.snd h).symm
  · cases h

/-- **Inversion of a commit**: it returned and stored the working copy, or raised and stored nothing. -/
theorem commit_cases {r : Except ε α} (h : t.commit d = (r, d')) :
    (∃ a, r = .ok a ∧ t.run d = (.ok a, d')) ∨
      ∃ e d₁, r = .error e ∧ d' = d ∧ t.run d = (.error e, d₁) := by
  unfold commit at h
  rcases hr : t.run d with ⟨e | a, d₁⟩ <;> rw [hr] at h <;> cases h
  · exact .inr ⟨e, d₁, rfl, rfl, rfl⟩
  · exact .inl ⟨a, rfl, rfl⟩

/-- A program commits the same whether or not its result is kept. -/
theorem commit_void (t : Txn δ ε α) (d : δ) : (t.void.commit d).2 = (t.commit d).2 := by
  have hrun : t.void.run d = ((t.run d).1.map fun _ => (), (t.run d).2) := by
    show (t >>= fun _ => pure ()).run d = _
    rw [run_bind]
    rcases t.run d with ⟨e | a, d'⟩ <;> rfl
  unfold commit
  rw [hrun]
  rcases t.run d with ⟨e | a, d'⟩ <;> rfl

end commit

/-! ## Loops -/

/-- **Loop rule.** A loop whose body keeps `I` (an invariant indexed by the items still to come) from any
    database it holds in, and never raises there, ends with the invariant of the empty rest. -/
theorem run_forM_ok {f : α → Txn δ ε PUnit} (I : List α → δ → Prop)
    (hbody : ∀ x xs d, I (x :: xs) d → ∃ d', (f x).run d = (.ok ⟨⟩, d') ∧ I xs d') :
    ∀ (xs : List α) (d : δ), I xs d → ∃ d', (xs.forM f).run d = (.ok ⟨⟩, d') ∧ I [] d' := by
  intro xs
  induction xs with
  | nil => intro d hI; exact ⟨d, rfl, hI⟩
  | cons x xs ih =>
      intro d hI
      obtain ⟨d₁, hx, hI₁⟩ := hbody x xs d hI
      obtain ⟨d₂, hxs, hI₂⟩ := ih d₁ hI₁
      refine ⟨d₂, ?_, hI₂⟩
      show (f x >>= fun _ => xs.forM f).run d = _
      rw [run_bind_of_ok hx, hxs]

end Txn

end Storage
