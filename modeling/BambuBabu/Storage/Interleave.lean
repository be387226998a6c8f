import BambuBabu.Runs.Machine
import BambuBabu.Storage.Txn

/-!
# `Storage.Interleave` — transactions statement by statement

Several threads run transactions against one database, one statement at a time, under a single write lock: a
SELECT takes no lock and sees the last committed database, or the thread's own writes once it has any; the
first UPDATE of a transaction takes the lock and the end of the transaction gives it back.

* `Sessions` — the statement-level machine.
* `Blocks` — the same threads in larger steps: a SELECT before the first UPDATE is one step, and everything
  from the first UPDATE to the end of the transaction is one.
* `Abstracts.step` — **the reduction**: every statement is a step of `Blocks`, or none. So what a
  transaction read *before* its first UPDATE may be stale, and nothing else.
* `Txn.Within` — a bound on every UPDATE of a program, whatever its SELECTs saw.
-/

namespace Storage

open Runs

/-! ## Threads -/

/-- A thread: transactions one after another. How one ended decides how the thread goes on. -/
inductive Proc (δ ε : Type) : Type where
  | ended
  | tx (t : Txn δ ε Unit) (next : Except ε Unit → Proc δ ε)

/-- Whether nothing is left of the thread. -/
def Proc.isEnded {δ ε : Type} : Proc δ ε → Bool
  | .ended => true
  | .tx _ _ => false

theorem Proc.eq_ended {δ ε : Type} {p : Proc δ ε} (h : p.isEnded = true) : p = .ended := by
  cases p with
  | ended => rfl
  | tx => cases h

/-- The threads `ι` on a database: what is committed, who holds the write lock with which working copy, and
    what is left of each thread. -/
structure Sessions (ι δ ε : Type) where
  db : δ
  writer : Option (ι × δ)
  proc : ι → Proc δ ε

namespace Sessions

variable {ι δ ε : Type} [DecidableEq ι] (s : Sessions ι δ ε) (i k : ι)

/-- Whether thread `i` holds the write lock. -/
def holds : Bool := s.writer.any fun w => w.1 = i

/-- The database that a statement of thread `i` sees. -/
def sees : δ := (s.writer.filter fun w => w.1 = i).elim s.db Prod.snd

/-- The lock after thread `i` ended its transaction. -/
def release : Option (ι × δ) := s.writer.filter fun w => w.1 ≠ i

/-- Move thread `i` on. -/
def goto (c : Proc δ ε) : Sessions ι δ ε := { s with proc := Function.update s.proc i c }

/-- The next statement of thread `i`; `none` when it has ended, or waits for the lock. -/
def step : Option (Sessions ι δ ε) :=
  match s.proc i with
  | .ended => none
  | .tx (.read k) next => some (s.goto i (.tx (k (s.sees i)) next))
  | .tx (.update w k) next =>
      if s.writer.isNone || s.holds i then
        some { s.goto i (.tx (k (s.sees i)) next) with writer := some (i, w (s.sees i)) }
      else none
  | .tx (.done a) next => some { s.goto i (next (.ok a)) with db := s.sees i, writer := s.release i }
  | .tx (.fail e) next => some { s.goto i (next (.error e)) with writer := s.release i }

/-- Nothing is left to run. -/
def ended : Prop := ∀ i, s.proc i = .ended

variable {s} {i k}

theorem holds_of_writer {d : δ} (h : s.writer = some (i, d)) : s.holds i = true := by simp [holds, h]

theorem writer_of_holds (h : s.holds i = true) : ∃ d, s.writer = some (i, d) := by
  unfold holds at h
  obtain ⟨⟨h', d⟩, hw, heq⟩ := (Option.any_eq_true _ _).mp h
  cases of_decide_eq_true heq
  exact ⟨d, hw⟩

theorem sees_of_writer {d : δ} (h : s.writer = some (i, d)) : s.sees i = d := by
  rw [sees, h]
  simp [Option.filter]

/-- A thread without the lock sees what is committed. -/
theorem sees_of_not_holds (h : s.holds i = false) : s.sees i = s.db := by
  unfold holds at h
  unfold sees
  cases hw : s.writer with
  | none => rfl
  | some w => simp_all [Option.filter]

theorem release_of_writer {d : δ} (h : s.writer = some (i, d)) : s.release i = none := by simp [release, h]

theorem release_of_not_holds (h : s.holds i = false) : s.release i = s.writer := by
  unfold holds at h
  unfold release
  cases hw : s.writer with
  | none => rfl
  | some w => simp_all

/-- Only one thread holds the lock. -/
theorem holds_unique (h : s.holds k = true) (hne : i ≠ k) : s.holds i = false := by
  obtain ⟨d, hw⟩ := writer_of_holds h
  simp [holds, hw, hne.symm]

/-- A statement of a thread without the lock commits nothing. -/
theorem step_db {s' : Sessions ι δ ε} (h : s.step i = some s') (hh : s.holds i = false) : s'.db = s.db := by
  unfold step at h
  split at h
  · cases h
  · cases h; rfl
  · split at h <;> cases h
    rfl
  · cases h
    exact sees_of_not_holds hh
  · cases h; rfl

/-- A statement of a thread moves no other one, -/
theorem step_proc {s' : Sessions ι δ ε} (h : s.step i = some s') (hk : k ≠ i) : s'.proc k = s.proc k := by
  unfold step at h
  split at h
  · cases h
  · cases h
    exact Function.update_of_ne hk _ _
  · split at h <;> cases h
    exact Function.update_of_ne hk _ _
  · cases h
    exact Function.update_of_ne hk _ _
  · cases h
    exact Function.update_of_ne hk _ _

/-- and takes the lock for itself only. -/
theorem step_holds {s' : Sessions ι δ ε} (h : s.step i = some s') (hk : k ≠ i) (hh : s.holds k = false) :
    s'.holds k = false := by
  have hrelease : (s.release i).any (fun w => decide (w.1 = k)) = false := by
    unfold holds at hh
    unfold release
    cases hw : s.writer with
    | none => rfl
    | some w =>
        rw [hw] at hh
        simp only [Option.filter]
        split
        · exact hh
        · rfl
  unfold step at h
  split at h
  · cases h
  · cases h
    exact hh
  · split at h <;> cases h
    exact decide_eq_false hk.symm
  · cases h
    exact hrelease
  · cases h
    exact hrelease

end Sessions

/-- The statement-level machine. -/
def sessions {ι δ ε : Type} [DecidableEq ι] : Machine (Sessions ι δ ε) ι where
  init s := s.writer = none
  step := Sessions.step

/-! ## Larger steps -/

/-- A program whose next statement is a SELECT. -/
def Txn.reads {δ ε α : Type} : Txn δ ε α → Bool
  | .read _ => true
  | _ => false

/-- The threads on a database, between two of the larger steps. -/
structure Blocks (ι δ ε : Type) where
  db : δ
  proc : ι → Proc δ ε

namespace Blocks

variable {ι δ ε : Type} [DecidableEq ι] (c : Blocks ι δ ε) (i : ι)

/-- The next step of thread `i`: one SELECT, or the rest of the transaction at once. -/
def step : Option (Blocks ι δ ε) :=
  match c.proc i with
  | .ended => none
  | .tx (.read k) next => some { c with proc := Function.update c.proc i (.tx (k c.db) next) }
  | .tx t next => some ⟨(t.commit c.db).2, Function.update c.proc i (next (t.commit c.db).1)⟩

variable {c i} {c' : Blocks ι δ ε}

theorem step_read {q : δ → Txn δ ε Unit} {next : Except ε Unit → Proc δ ε}
    (h : c.proc i = .tx (.read q) next) :
    c.step i = some { c with proc := Function.update c.proc i (.tx (q c.db) next) } := by
  unfold step
  rw [h]

theorem step_block {t : Txn δ ε Unit} {next : Except ε Unit → Proc δ ε} (h : c.proc i = .tx t next)
    (ht : t.reads = false) :
    c.step i = some ⟨(t.commit c.db).2, Function.update c.proc i (next (t.commit c.db).1)⟩ := by
  unfold step
  rw [h]
  cases t with
  | read => cases ht
  | _ => rfl

/-- A step of a thread moves no other one. -/
theorem step_frame {k : ι} (h : c.step i = some c') (hk : k ≠ i) : c'.proc k = c.proc k := by
  unfold step at h
  split at h
  · cases h
  all_goals
    cases h
    exact Function.update_of_ne hk _ _

end Blocks

/-- The machine of the larger steps. -/
def blocks {ι δ ε : Type} [DecidableEq ι] : Machine (Blocks ι δ ε) ι where
  init _ := True
  step := Blocks.step

/-! ## The reduction -/

/-- `c` is `s` with the transaction that holds the lock put back to before its first UPDATE. -/
structure Abstracts {ι δ ε : Type} [DecidableEq ι] (s : Sessions ι δ ε) (c : Blocks ι δ ε) : Prop where
  db : c.db = s.db
  reader : ∀ i, s.holds i = false → c.proc i = s.proc i
  writer : ∀ i d, s.writer = some (i, d) → ∃ t t₀ next, s.proc i = .tx t next ∧ c.proc i = .tx t₀ next ∧
    t₀.reads = false ∧ t.run d = t₀.run s.db

/-- Two families of threads that agree, after the same change of one thread. -/
theorem update_congr {ι α : Type} [DecidableEq ι] {f g : ι → α} {i k : ι} (x : α) (h : k ≠ i → f k = g k) :
    Function.update f i x k = Function.update g i x k := by
  by_cases hk : k = i
  · rw [hk, Function.update_self, Function.update_self]
  · rw [Function.update_of_ne hk, Function.update_of_ne hk, h hk]

namespace Abstracts

variable {ι δ ε : Type} [DecidableEq ι] {s s' : Sessions ι δ ε} {c : Blocks ι δ ε} {i : ι}

/-- Without a lock there is nothing to put back. -/
theorem of_unlocked (h : s.writer = none) : Abstracts s ⟨s.db, s.proc⟩ :=
  ⟨rfl, fun _ _ => rfl, fun _ _ hw => by rw [h] at hw; cases hw⟩

/-- A thread that has ended has nothing to put back. -/
theorem ended (hA : Abstracts s c) (h : s.proc i = .ended) : c.proc i = .ended := by
  cases hh : s.holds i with
  | false => rw [hA.reader i hh, h]
  | true =>
      obtain ⟨d, hw⟩ := Sessions.writer_of_holds hh
      obtain ⟨t, -, next, ht, -⟩ := hA.writer i d hw
      rw [h] at ht
      cases ht

/-- A thread that has ended does not hold the lock. -/
theorem idle (hA : Abstracts s c) (h : s.proc i = .ended) : s.holds i = false := by
  cases hh : s.holds i with
  | false => rfl
  | true =>
      obtain ⟨d, hw⟩ := Sessions.writer_of_holds hh
      obtain ⟨t, -, next, ht, -⟩ := hA.writer i d hw
      rw [h] at ht
      cases ht

/-- A thread without the lock goes on while the database and the lock stay as they are. -/
theorem goto (hA : Abstracts s c) (hh : s.holds i = false) (p' : Proc δ ε) :
    Abstracts (s.goto i p') { c with proc := Function.update c.proc i p' } := by
  have hwriter : ∀ k d, s.writer = some (k, d) → k ≠ i := by
    rintro k d hw rfl
    rw [Sessions.holds_of_writer hw] at hh
    cases hh
  refine ⟨hA.db, fun k hk => ?_, fun k d hw => ?_⟩
  · exact update_congr _ fun _ => hA.reader k hk
  · have hki := hwriter k d hw
    obtain ⟨t, t₀, next, ht, ht₀, hrest⟩ := hA.writer k d hw
    exact ⟨t, t₀, next, (Function.update_of_ne hki _ _).trans ht,
      (Function.update_of_ne hki _ _).trans ht₀, hrest⟩

/-- A statement of the thread that holds the lock: only the end of its transaction is seen by others. -/
theorem step_holding (hA : Abstracts s c) {d : δ} (hw : s.writer = some (i, d)) (hs : s.step i = some s') :
    Abstracts s' c ∨ ∃ c', c.step i = some c' ∧ Abstracts s' c' := by
  obtain ⟨t, t₀, next, ht, ht₀, hblock, hrun⟩ := hA.writer i d hw
  have hsees := Sessions.sees_of_writer hw
  have hother : ∀ k, k ≠ i → s.holds k = false := fun k hk => by
    simp [Sessions.holds, hw, hk.symm]
  -- the working copy goes from `d` to `d'`, with the same outcome ahead
  have write : ∀ {t' : Txn δ ε Unit} {d' : δ}, t'.run d' = t₀.run s.db →
      Abstracts { s.goto i (.tx t' next) with writer := some (i, d') } c := fun {t' d'} hrun' => by
    refine ⟨hA.db, fun k hk => ?_, fun k dk hwk => ?_⟩
    · have hne : k ≠ i := by
        rintro rfl
        simp [Sessions.holds] at hk
      rw [hA.reader k (hother k hne)]
      exact (Function.update_of_ne hne _ _).symm
    · cases hwk
      exact ⟨t', t₀, next, Function.update_self .., ht₀, hblock, hrun'⟩
  -- the transaction ends, and the lock is given back
  have finish : ∀ {r : Except ε Unit} {d' : δ}, t₀.commit s.db = (r, d') →
      ∃ c', c.step i = some c' ∧
        Abstracts { s.goto i (next r) with db := d', writer := s.release i } c' := fun {r d'} hcommit => by
    refine ⟨⟨d', Function.update c.proc i (next r)⟩, ?_, rfl, fun k _ => ?_, fun k dk hwk => ?_⟩
    · rw [Blocks.step_block ht₀ hblock, hA.db, hcommit]
    · exact update_congr _ fun hk => hA.reader k (hother k hk)
    · have hfree : s.release i = some (k, dk) := hwk
      rw [Sessions.release_of_writer hw] at hfree
      cases hfree
  unfold Sessions.step at hs
  rw [ht] at hs
  cases t with
  | read q =>
      cases hs
      rw [hsees]
      refine .inl ?_
      have hkept : Abstracts { s.goto i (.tx (q d) next) with writer := some (i, d) } c := write hrun
      rwa [← hw] at hkept
  | update w q =>
      simp only [Sessions.holds_of_writer hw, Bool.or_true, if_true, hsees] at hs
      cases hs
      exact .inl (write hrun)
  | done a =>
      simp only [hsees] at hs
      cases hs
      exact .inr (finish (Txn.commit_of_ok hrun.symm))
  | fail e =>
      cases hs
      exact .inr (finish (Txn.commit_of_error hrun.symm))

/-- A statement of a thread without the lock: it sees what is committed. -/
theorem step_waiting (hA : Abstracts s c) (hh : s.holds i = false) (hs : s.step i = some s') :
    Abstracts s' c ∨ ∃ c', c.step i = some c' ∧ Abstracts s' c' := by
  have hsees := Sessions.sees_of_not_holds hh
  have hproc := hA.reader i hh
  have move : ∀ p' : Proc δ ε, Abstracts (s.goto i p') { c with proc := Function.update c.proc i p' } :=
    fun p' => hA.goto hh p'
  unfold Sessions.step at hs
  cases hp : s.proc i with
  | ended => rw [hp] at hs; cases hs
  | tx t next =>
      rw [hp] at hs hproc
      cases t with
      | read q =>
          cases hs
          refine .inr ⟨_, Blocks.step_read hproc, ?_⟩
          rw [hsees, ← hA.db]
          exact move _
      | update w q =>
          -- the first UPDATE takes the lock; the block it begins is still to come
          simp only [hh, Bool.or_false, hsees] at hs
          split at hs
          · next hfree =>
              cases hs
              have hnone : s.writer = none := Option.isNone_iff_eq_none.mp hfree
              refine .inl ⟨hA.db, fun k hk => ?_, fun k d hw => ?_⟩
              · have hki : k ≠ i := by
                  rintro rfl
                  simp [Sessions.holds] at hk
                rw [hA.reader k (by simp [Sessions.holds, hnone])]
                exact (Function.update_of_ne hki _ _).symm
              · cases hw
                exact ⟨_, .update w q, next, Function.update_self .., hproc, rfl, rfl⟩
          · cases hs
      | done a =>
          cases hs
          refine .inr ⟨_, Blocks.step_block hproc rfl, ?_⟩
          rw [hsees, Sessions.release_of_not_holds hh]
          exact move _
      | fail e =>
          cases hs
          refine .inr ⟨_, Blocks.step_block hproc rfl, ?_⟩
          rw [Sessions.release_of_not_holds hh]
          exact move _

/-- **The reduction.** A statement either changes nothing that other threads can see, or completes a larger
    step. -/
theorem step (hA : Abstracts s c) (hs : s.step i = some s') :
    Abstracts s' c ∨ ∃ c', c.step i = some c' ∧ Abstracts s' c' := by
  cases hh : s.holds i with
  | false => exact hA.step_waiting hh hs
  | true =>
      obtain ⟨d, hw⟩ := Sessions.writer_of_holds hh
      exact hA.step_holding hw hs

end Abstracts

/-! ## Bounds on what a program writes -/

/-- Every UPDATE of the program, whatever its SELECTs saw, changes the database within `G`, and it ends with
    an outcome in `Q`. -/
def Txn.Within {δ ε α : Type} (G : δ → δ → Prop) (Q : Except ε α → Prop) : Txn δ ε α → Prop
  | .done a => Q (.ok a)
  | .fail e => Q (.error e)
  | .read k => ∀ d, (k d).Within G Q
  | .update w k => (∀ d, G d (w d)) ∧ ∀ d, (k d).Within G Q

namespace Txn

variable {δ ε α β : Type} {G : δ → δ → Prop} {Q : Except ε α → Prop} {R : Except ε β → Prop}

/-- Any outcome. -/
def anyOutcome : Except ε α → Prop := fun _ => True

theorem Within.mono {Q' : Except ε α → Prop} (himp : ∀ r, Q r → Q' r) {t : Txn δ ε α} (h : t.Within G Q) :
    t.Within G Q' := by
  induction t with
  | done a => exact himp _ h
  | fail e => exact himp _ h
  | read k ih => exact fun d => ih d (h d)
  | update w k ih => exact ⟨h.1, fun d => ih d (h.2 d)⟩

/-- **Sequencing.** -/
theorem Within.bind {t : Txn δ ε α} {f : α → Txn δ ε β} (h : t.Within G Q)
    (hf : ∀ a, Q (.ok a) → (f a).Within G R) (he : ∀ e, Q (.error e) → R (.error e)) :
    (t >>= f).Within G R := by
  induction t with
  | done a => exact hf a h
  | fail e => exact he e h
  | read k ih => exact fun d => ih d (h d)
  | update w k ih => exact ⟨h.1, fun d => ih d (h.2 d)⟩

/-- Sequencing where outcomes do not matter. -/
theorem Within.andThen {t : Txn δ ε α} {f : α → Txn δ ε β} (h : t.Within G anyOutcome)
    (hf : ∀ a, (f a).Within G anyOutcome) : (t >>= f).Within G anyOutcome :=
  h.bind (fun a _ => hf a) fun _ _ => trivial

theorem Within.tryCatch {t : Txn δ ε α} {f : ε → Txn δ ε α} (h : t.Within G Q)
    (hf : ∀ e, (f e).Within G Q) : (MonadExcept.tryCatch t f).Within G Q := by
  induction t with
  | done a => exact h
  | fail e => exact hf e
  | read k ih => exact fun d => ih d (h d)
  | update w k ih => exact ⟨h.1, fun d => ih d (h.2 d)⟩

theorem Within.select {q : δ → α} : (select q : Txn δ ε α).Within G anyOutcome := fun _ => trivial

theorem Within.exec {w : δ → δ} {r : δ → α} (h : ∀ d, G d (w d)) : (exec w r : Txn δ ε α).Within G anyOutcome :=
  ⟨h, fun _ => trivial⟩

/-- A loop is bounded if its body is. -/
theorem Within.forM {f : α → Txn δ ε PUnit} (h : ∀ x, (f x).Within G anyOutcome) :
    ∀ xs : List α, (xs.forM f).Within G anyOutcome
  | [] => trivial
  | x :: xs => (h x).andThen fun _ => Within.forM h xs

theorem Within.void {t : Txn δ ε α} (h : t.Within G anyOutcome) : t.void.Within G anyOutcome :=
  h.andThen fun _ => trivial

theorem Within.ite {c : Prop} [Decidable c] {t t' : Txn δ ε α} (h : c → t.Within G Q)
    (h' : ¬ c → t'.Within G Q) : (if c then t else t').Within G Q := by
  split
  · next hc => exact h hc
  · next hc => exact h' hc

/-- A bounded program executed from any database changes it within the bound. -/
theorem Within.run (hrefl : ∀ d, G d d) (htrans : ∀ a b c, G a b → G b c → G a c) {t : Txn δ ε α}
    (h : t.Within G Q) : ∀ d, Q (t.run d).1 ∧ G d (t.run d).2 := by
  induction t with
  | done a => exact fun d => ⟨h, hrefl d⟩
  | fail e => exact fun d => ⟨h, hrefl d⟩
  | read k ih => exact fun d => ih d (h d) d
  | update w k ih =>
      intro d
      obtain ⟨hq, hg⟩ := ih d (h.2 d) (w d)
      exact ⟨hq, htrans _ _ _ (h.1 d) hg⟩

theorem Within.commit (hrefl : ∀ d, G d d) (htrans : ∀ a b c, G a b → G b c → G a c) {t : Txn δ ε α}
    (h : t.Within G Q) (d : δ) : Q (t.commit d).1 ∧ G d (t.commit d).2 := by
  obtain ⟨hq, hg⟩ := h.run hrefl htrans d
  unfold Txn.commit
  rcases hr : t.run d with ⟨e | a, d'⟩ <;> rw [hr] at hq hg
  · exact ⟨hq, hrefl d⟩
  · exact ⟨hq, hg⟩

end Txn

/-- Every transaction of the thread stays within `G`. -/
def Proc.Within {δ ε : Type} (G : δ → δ → Prop) : Proc δ ε → Prop
  | .ended => True
  | .tx t next => t.Within G Txn.anyOutcome ∧ ∀ r, (next r).Within G

/-- **A step of a bounded thread** changes the database within the bound, and the thread stays bounded. -/
theorem Blocks.step_within {ι δ ε : Type} [DecidableEq ι] {G : δ → δ → Prop} (hrefl : ∀ d, G d d)
    (htrans : ∀ a b c, G a b → G b c → G a c) {c c' : Blocks ι δ ε} {i : ι} (h : c.step i = some c')
    (hG : (c.proc i).Within G) : G c.db c'.db ∧ (c'.proc i).Within G := by
  cases hp : c.proc i with
  | ended => rw [step, hp] at h; cases h
  | tx t next =>
      rw [hp] at hG
      obtain ⟨ht, hnext⟩ := hG
      cases hr : t.reads with
      | true =>
          cases t with
          | read q =>
              cases (step_read hp).symm.trans h
              refine ⟨hrefl _, ?_⟩
              show (Function.update c.proc i _ i).Within G
              rw [Function.update_self]
              exact ⟨ht _, hnext⟩
          | _ => cases hr
      | false =>
          cases (step_block hp hr).symm.trans h
          refine ⟨(ht.commit hrefl htrans c.db).2, ?_⟩
          show (Function.update c.proc i _ i).Within G
          rw [Function.update_self]
          exact hnext _

end Storage
