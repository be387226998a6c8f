import BambuBabu.Runs.Machine
import BambuBabu.Storage.Interleave

/-!
# `Storage.Rely` — reasoning about transactions under interference

A transaction reads committed databases until its first UPDATE and a working copy from then on. What it read
first may be stale: all it may rely on is how the committed database can have moved since, which is a relation
`later`. `Txn.Along` is the weakest precondition of a program in that setting, with one rule for each way to
compose programs.

* `View` — where a transaction stands: before its first UPDATE, or with a working copy.
* `Txn.Along`, `Txn.Ensures` — what a program ensures from a view, whatever the others commit in between.
* `clients` — any number of threads that start transactions at any time, and crashes.
* `Clients.reach` — **the theorem**: if every program keeps a guarantee under the interference of commits that
  do, then every commit does.
-/

namespace Storage

open Runs

/-! ## Views -/

/-- Where a transaction stands. Before its first UPDATE it last saw the committed database `d`; from then on it
    has the working copy `d` of the committed database `base`. -/
inductive View (δ : Type) where
  | reading (d : δ)
  | writing (base d : δ)

namespace View

variable {δ : Type}

/-- The committed database that the view is about. -/
def base : View δ → δ
  | reading d => d
  | writing b _ => b

/-- The database that the next SELECT sees, if nobody commits. -/
def current : View δ → δ
  | reading d => d
  | writing _ d => d

/-- The relation holds between the base and the working copy, if there is one. -/
def Sat (A : δ → δ → Prop) : View δ → Prop
  | reading _ => True
  | writing b d => A b d

variable (later : δ → δ → Prop)

/-- A SELECT moves the view, and sees this database. -/
inductive Selects : View δ → View δ → δ → Prop
  | reading {d d' : δ} (h : later d d') : Selects (reading d) (reading d') d'
  | writing {b d : δ} : Selects (writing b d) (writing b d) d

/-- An UPDATE is executed on this working copy of this base. -/
inductive Updates : View δ → δ → δ → Prop
  | reading {d d' : δ} (h : later d d') : Updates (reading d) d' d'
  | writing {b d : δ} : Updates (writing b d) b d

variable {later} {v v' : View δ} {b d : δ}

/-- What holds of the base and survives commits still holds at the next statement. -/
theorem Selects.stable {K : δ → Prop} (hK : ∀ a b, later a b → K a → K b) (h : v.Selects later v' d)
    (hv : K v.base) : K v'.base := by
  cases h with
  | reading hl => exact hK _ _ hl hv
  | writing => exact hv

theorem Updates.stable {K : δ → Prop} (hK : ∀ a b, later a b → K a → K b) (h : v.Updates later b d)
    (hv : K v.base) : K b := by
  cases h with
  | reading hl => exact hK _ _ hl hv
  | writing => exact hv

theorem Selects.current {K : δ → Prop} (hK : ∀ a b, later a b → K a → K b) (h : v.Selects later v' d)
    (hv : K v.current) : K v'.current := by
  cases h with
  | reading hl => exact hK _ _ hl hv
  | writing => exact hv

theorem Updates.current {K : δ → Prop} (hK : ∀ a b, later a b → K a → K b) (h : v.Updates later b d)
    (hv : K v.current) : K d := by
  cases h with
  | reading hl => exact hK _ _ hl hv
  | writing => exact hv

/-- A relation that an untouched working copy satisfies holds when an UPDATE is issued. -/
theorem Updates.sat {A : δ → δ → Prop} (hA : ∀ b, A b b) (h : v.Updates later b d) (hv : v.Sat A) : A b d := by
  cases h with
  | reading => exact hA _
  | writing => exact hv

theorem Sat.mono {A B : δ → δ → Prop} (h : v.Sat A) (himp : ∀ b d, A b d → B b d) : v.Sat B := by
  cases v with
  | reading => trivial
  | writing b d => exact himp b d h

theorem Selects.sat {A : δ → δ → Prop} (h : v.Selects later v' d) (hv : v.Sat A) : v'.Sat A := by
  cases h with
  | reading => trivial
  | writing => exact hv

end View

/-! ## What a program ensures -/

namespace Txn

variable {δ ε α β : Type} (later : δ → δ → Prop)

/-- Executed from the view `v`, while other transactions move the committed database along `later`, the
    program ends with an outcome and a view that satisfy `Q`. -/
def Along (Q : Except ε α → View δ → Prop) : Txn δ ε α → View δ → Prop
  | .done a, v => Q (.ok a) v
  | .fail e, v => Q (.error e) v
  | .read k, v => ∀ v' d, v.Selects later v' d → (k d).Along Q v'
  | .update w k, v => ∀ b d, v.Updates later b d → (k d).Along Q (.writing b (w d))

/-- If it returns, its result and its view satisfy `P`. -/
def Ensures (P : α → View δ → Prop) (t : Txn δ ε α) (v : View δ) : Prop :=
  t.Along later (fun r v' => ∀ a, r = .ok a → P a v') v

/-- What it commits is a step of `G`. -/
def Commits (G : δ → δ → Prop) (t : Txn δ ε α) (v : View δ) : Prop :=
  t.Ensures later (fun _ v' => v'.Sat G) v

variable {later} {Q Q' : Except ε α → View δ → Prop} {R : Except ε β → View δ → Prop}
  {P P' : α → View δ → Prop} {S : β → View δ → Prop} {v : View δ} {t : Txn δ ε α}

/-! ### Rules -/

theorem Along.mono (himp : ∀ r v', Q r v' → Q' r v') (h : t.Along later Q v) : t.Along later Q' v := by
  induction t generalizing v with
  | done a => exact himp _ _ h
  | fail e => exact himp _ _ h
  | read k ih => exact fun v' d hs => ih d (h v' d hs)
  | update w k ih => exact fun b d hu => ih d (h b d hu)

/-- **Sequencing.** -/
theorem Along.bind {f : α → Txn δ ε β} (h : t.Along later Q v) (hf : ∀ a v', Q (.ok a) v' → (f a).Along later R v')
    (he : ∀ e v', Q (.error e) v' → R (.error e) v') : (t >>= f).Along later R v := by
  induction t generalizing v with
  | done a => exact hf _ _ h
  | fail e => exact he _ _ h
  | read k ih => exact fun v' d hs => ih d (h v' d hs)
  | update w k ih => exact fun b d hu => ih d (h b d hu)

/-- **Catching.** The handler goes on with the working copy. -/
theorem Along.tryCatch {f : ε → Txn δ ε α} (h : t.Along later Q v) (hok : ∀ a v', Q (.ok a) v' → Q' (.ok a) v')
    (hf : ∀ e v', Q (.error e) v' → (f e).Along later Q' v') : (MonadExcept.tryCatch t f).Along later Q' v := by
  induction t generalizing v with
  | done a => exact hok _ _ h
  | fail e => exact hf _ _ h
  | read k ih => exact fun v' d hs => ih d (h v' d hs)
  | update w k ih => exact fun b d hu => ih d (h b d hu)

/-- **With a working copy** a program runs as it does alone. -/
theorem along_writing {b d : δ} : t.Along later Q (.writing b d) ↔ Q (t.run d).1 (.writing b (t.run d).2) := by
  induction t generalizing d with
  | done a => exact Iff.rfl
  | fail e => exact Iff.rfl
  | read k ih =>
      constructor
      · intro h
        exact (ih d).mp (h _ d .writing)
      · rintro h v' d' ⟨⟩
        exact (ih d).mpr h
  | update w k ih =>
      constructor
      · intro h
        exact (ih d).mp (h b d .writing)
      · rintro h b' d' ⟨⟩
        exact (ih d).mpr h

/-- **From its first UPDATE on** a program runs as it does alone. -/
theorem Along.of_update {w : δ → δ} {k : δ → Txn δ ε α} (ht : t = .update w k)
    (h : ∀ b d, v.Updates later b d → Q (t.run d).1 (.writing b (t.run d).2)) : t.Along later Q v := by
  subst ht
  intro b d hu
  exact along_writing.mpr (h b d hu)

theorem Ensures.mono (himp : ∀ a v', P a v' → P' a v') (h : t.Ensures later P v) : t.Ensures later P' v :=
  Along.mono (fun _ _ hr a ha => himp a _ (hr a ha)) h

theorem Ensures.bind {f : α → Txn δ ε β} (h : t.Ensures later P v)
    (hf : ∀ a v', P a v' → (f a).Ensures later S v') : (t >>= f).Ensures later S v :=
  Along.bind h (fun a v' hr => hf a v' (hr a rfl)) fun _ _ _ _ hb => by cases hb

theorem Ensures.pure {a : α} (h : P a v) : (pure a : Txn δ ε α).Ensures later P v := by
  intro b hb
  cases hb
  exact h

theorem Ensures.throw {e : ε} : (throw e : Txn δ ε α).Ensures later P v := by
  intro b hb
  cases hb

theorem Ensures.select {q : δ → α} (h : ∀ v' d, v.Selects later v' d → P (q d) v') :
    (select q : Txn δ ε α).Ensures later P v := by
  intro v' d hs a ha
  cases ha
  exact h v' d hs

theorem Ensures.exec {w : δ → δ} {r : δ → α} (h : ∀ b d, v.Updates later b d → P (r d) (.writing b (w d))) :
    (exec w r : Txn δ ε α).Ensures later P v := by
  intro b d hu a ha
  cases ha
  exact h b d hu

theorem Ensures.ite {c : Prop} [Decidable c] {t' : Txn δ ε α} (h : c → t.Ensures later P v)
    (h' : ¬ c → t'.Ensures later P v) : (if c then t else t').Ensures later P v := by
  split
  · next hc => exact h hc
  · next hc => exact h' hc

/-- What holds of the base and survives commits holds at the end. -/
theorem Ensures.stable {K : δ → Prop} (hK : ∀ a b, later a b → K a → K b) (h : t.Ensures later P v)
    (hv : K v.base) : t.Ensures later (fun a v' => P a v' ∧ K v'.base) v := by
  unfold Ensures at h ⊢
  induction t generalizing v with
  | done a => exact fun a ha => ⟨h a ha, hv⟩
  | fail e => exact fun a ha => by cases ha
  | read k ih => exact fun v' d hs => ih d (h v' d hs) (hs.stable hK hv)
  | update w k ih => exact fun b d hu => ih d (h b d hu) (hu.stable hK hv)

/-- **Loop rule.** A loop whose body keeps `I` keeps `I`. -/
theorem Ensures.forM {f : α → Txn δ ε PUnit} {I : View δ → Prop} {xs : List α}
    (hbody : ∀ x ∈ xs, ∀ v, I v → (f x).Ensures later (fun _ => I) v) (hI : I v) :
    (xs.forM f).Ensures later (fun _ => I) v := by
  induction xs generalizing v with
  | nil => exact Ensures.pure hI
  | cons x xs ih =>
      refine Ensures.bind (hbody x List.mem_cons_self v hI) fun _ v' hv' => ?_
      exact ih (fun y hy => hbody y (List.mem_cons_of_mem _ hy)) hv'

/-- What a program ensures of its view it ensures without its result. -/
theorem Ensures.void {K : View δ → Prop} (h : t.Ensures later (fun _ => K) v) :
    t.void.Ensures later (fun _ => K) v :=
  .bind h fun _ _ hk => .pure hk

/-- A program all of whose UPDATEs stay within `G` ensures `G`. -/
theorem Within.ensures {G : δ → δ → Prop} {Q : Except ε α → Prop} (hrefl : ∀ d, G d d)
    (htrans : ∀ a b c, G a b → G b c → G a c) (h : t.Within G Q) (hv : v.Sat G) :
    t.Ensures later (fun a v' => Q (.ok a) ∧ v'.Sat G) v := by
  unfold Ensures
  induction t generalizing v with
  | done a =>
      rintro b ⟨⟩
      exact ⟨h, hv⟩
  | fail e => exact nofun
  | read k ih => exact fun v' d hs => ih d (h d) (hs.sat hv)
  | update w k ih => exact fun b d hu => ih d (h.2 d) (htrans _ _ _ (hu.sat hrefl hv) (h.1 d))

/-! ### Whole transactions -/

variable {G : δ → δ → Prop}

/-- What follows the last SELECT commits a step of `G`, on any later database. -/
theorem Commits.block {d d' : δ} (h : t.Commits later G (.reading d)) (ht : t.reads = false) (hl : later d d')
    (hG : G d' d') : G d' (t.commit d').2 := by
  cases t with
  | done a => exact hG
  | fail e => exact hG
  | read k => cases ht
  | update w k =>
      have hrun := along_writing.mp (h d' d' (.reading hl))
      unfold commit
      rcases hr : (Txn.update w k).run d' with ⟨e | a, d₁⟩
      · exact hG
      · have hr' : (k d').run (w d') = (.ok a, d₁) := hr
        rw [hr'] at hrun
        exact hrun a rfl

/-- A transaction that nobody disturbs commits a step of `G`. -/
theorem Commits.atomic {d : δ} (h : t.Commits later G (.reading d)) (hl : later d d) (hG : G d d) :
    G d (t.commit d).2 := by
  induction t with
  | done a => exact hG
  | fail e => exact hG
  | read k ih => exact ih d (h _ d (.reading hl))
  | update w k => exact h.block rfl hl hG

end Txn

/-! ## Clients -/

/-- A thread executes its next statement, an idle thread starts a transaction, or all of them die. -/
inductive ClientEvent (ι ρ : Type) where
  | statement (i : ι)
  | request (i : ι) (r : ρ)
  | crash

/-- Threads that start transactions at any time, on a database that is `initial` at first. -/
def clients {ι δ ε ρ : Type} [DecidableEq ι] (program : ρ → Txn δ ε Unit) (initial : δ → Prop) :
    Machine (Sessions ι δ ε) (ClientEvent ι ρ) where
  init s := initial s.db ∧ s.writer = none ∧ s.ended
  step s
    | .statement i => s.step i
    | .request i r =>
        match s.proc i with
        | .ended => some (s.goto i (.tx (program r) fun _ => .ended))
        | .tx _ _ => none
    | .crash => some { db := s.db, writer := none, proc := fun _ => .ended }

/-- Every program keeps the guarantee `G` while the others do, and `later` is what such commits amount to. -/
structure Clients {δ ε ρ : Type} (program : ρ → Txn δ ε Unit) (later G : δ → δ → Prop) : Prop where
  grows : ∀ a b c, later a b → G b c → later a c
  stays : ∀ a b, later a b → later b b
  idle : ∀ a, later a a → G a a
  keeps : ∀ r d, later d d → (program r).Commits later G (.reading d)

section clients

variable {ι δ ε ρ : Type} [DecidableEq ι] {program : ρ → Txn δ ε Unit} {initial : δ → Prop}
  {later G : δ → δ → Prop} {s s' : Sessions ι δ ε} {c c' : Blocks ι δ ε} {e : ClientEvent ι ρ} {i : ι}

/-- The thread keeps the guarantee from here on, while the others do. -/
def Proc.Keeps (later G : δ → δ → Prop) (d : δ) : Proc δ ε → Prop
  | .ended => True
  | .tx t next => (∃ d₀, later d₀ d ∧ t.Commits later G (.reading d₀)) ∧ ∀ r, next r = .ended

/-- All threads do. -/
structure Blocks.Keeps (later G : δ → δ → Prop) (c : Blocks ι δ ε) : Prop where
  stays : later c.db c.db
  proc : ∀ i, (c.proc i).Keeps later G c.db

theorem Proc.Keeps.grow {d d' : δ} {p : Proc δ ε} (hC : Clients program later G) (h : p.Keeps later G d)
    (hG : G d d') : p.Keeps later G d' := by
  cases p with
  | ended => trivial
  | tx t next =>
      obtain ⟨⟨d₀, hl, ht⟩, hnext⟩ := h
      exact ⟨⟨d₀, hC.grows _ _ _ hl hG, ht⟩, hnext⟩

/-- Moving one thread on. -/
theorem Blocks.Keeps.update {d' : δ} {p : Proc δ ε} (hC : Clients program later G) (h : c.Keeps later G)
    (hG : G c.db d') (hp : p.Keeps later G d') : Blocks.Keeps later G ⟨d', Function.update c.proc i p⟩ where
  stays := hC.stays _ _ (hC.grows _ _ _ h.stays hG)
  proc k := by
    show (Function.update c.proc i p k).Keeps later G d'
    by_cases hk : k = i
    · rw [hk, Function.update_self]
      exact hp
    · rw [Function.update_of_ne hk]
      exact (h.proc k).grow hC hG

/-- **A step of a thread** commits a step of `G`; the thread has read more then, or ended. -/
theorem Proc.Keeps.step (hl : later c.db c.db) (hG : G c.db c.db) (h : (c.proc i).Keeps later G c.db)
    (hs : c.step i = some c') :
    G c.db c'.db ∧ ∃ p, c'.proc = Function.update c.proc i p ∧ p.Keeps later G c'.db := by
  cases hp : c.proc i with
  | ended =>
      unfold Blocks.step at hs
      rw [hp] at hs
      cases hs
  | tx t next =>
      rw [hp] at h
      obtain ⟨⟨d₀, hl₀, ht⟩, hnext⟩ := h
      cases hr : t.reads with
      | true =>
          cases t with
          | read q =>
              cases (Blocks.step_read hp).symm.trans hs
              exact ⟨hG, _, rfl, ⟨c.db, hl, ht _ c.db (.reading hl₀)⟩, hnext⟩
          | _ => cases hr
      | false =>
          cases (Blocks.step_block hp hr).symm.trans hs
          refine ⟨ht.block hr hl₀ hG, _, rfl, ?_⟩
          rw [hnext]
          trivial

/-- **A step of the threads** commits a step of `G`, and all of them still keep the guarantee. -/
theorem Blocks.Keeps.step (hC : Clients program later G) (h : c.Keeps later G) (hs : c.step i = some c') :
    G c.db c'.db ∧ c'.Keeps later G := by
  obtain ⟨hG, p, hp, hkeeps⟩ := (h.proc i).step h.stays (hC.idle _ h.stays) hs
  refine ⟨hG, ?_⟩
  obtain ⟨d', proc'⟩ := c'
  cases hp
  exact h.update hC hG hkeeps

/-- The sessions, seen in larger steps, keep the guarantee. -/
def Sessions.Keeps (later G : δ → δ → Prop) (s : Sessions ι δ ε) : Prop :=
  ∃ c : Blocks ι δ ε, Abstracts s c ∧ c.Keeps later G

theorem Sessions.Keeps.init (hl : later s.db s.db) (hw : s.writer = none) (hended : s.ended) :
    s.Keeps later G := by
  refine ⟨⟨s.db, s.proc⟩, .of_unlocked hw, hl, fun i => ?_⟩
  show (s.proc i).Keeps later G s.db
  rw [hended i]
  trivial

/-- **A step of the clients** commits a step of `G` or nothing, and all of them still keep the guarantee. -/
theorem Sessions.Keeps.step (hC : Clients program later G) (h : s.Keeps later G)
    (hs : (clients program initial).step s e = some s') : G s.db s'.db ∧ s'.Keeps later G := by
  obtain ⟨c, hA, hc⟩ := h
  have hidle : G s.db s.db := hA.db ▸ hC.idle _ hc.stays
  cases e with
  | statement i =>
      rcases hA.step hs with hA' | ⟨c', hc', hA'⟩
      · refine ⟨?_, c, hA', hc⟩
        rw [← hA'.db, hA.db]
        exact hidle
      · obtain ⟨hG, hkeeps⟩ := hc.step hC hc'
        refine ⟨?_, c', hA', hkeeps⟩
        rw [← hA.db, ← hA'.db]
        exact hG
  | request i r =>
      cases hp : s.proc i with
      | tx t next =>
          simp only [clients, hp] at hs
          cases hs
      | ended =>
          simp only [clients, hp] at hs
          cases hs
          refine ⟨hidle, _, hA.goto (hA.idle hp) _, hc.update hC (hC.idle _ hc.stays) ?_⟩
          exact ⟨⟨c.db, hc.stays, hC.keeps r c.db hc.stays⟩, fun _ => rfl⟩
  | crash =>
      cases hs
      refine ⟨hidle, .init ?_ rfl fun _ => rfl⟩
      show later s.db s.db
      rw [← hA.db]
      exact hc.stays

/-- **The guarantee holds of every commit** of a run of the clients. -/
theorem Clients.reach {ok : Sessions ι δ ε → ClientEvent ι ρ → Prop} (hC : Clients program later G)
    (hinit : ∀ d, initial d → later d d) (h : (clients program initial).Reach ok s) : s.Keeps later G :=
  h.invariant (I := fun s => s.Keeps later G)
    (fun _ h₀ => .init (hinit _ h₀.1) h₀.2.1 h₀.2.2) fun _ _ _ _ hk _ hs => (hk.step hC hs).2

/-! ### One thread among any others -/

/-- Whatever the other threads do, thread `i` commits steps of `G` from here on. -/
def Sessions.Binds (G : δ → δ → Prop) (i : ι) (s : Sessions ι δ ε) : Prop :=
  ∃ c : Blocks ι δ ε, Abstracts s c ∧ (c.proc i).Keeps (fun _ _ => True) G c.db

/-- A thread that has ended is bound to anything. -/
theorem Sessions.Binds.ended (hA : Abstracts s c) (hp : s.proc i = .ended) : s.Binds G i := by
  refine ⟨c, hA, ?_⟩
  rw [hA.ended hp]
  trivial

/-- **A step of the clients** that does not start another transaction of the thread leaves it bound. -/
theorem Sessions.Binds.step (hG : ∀ a, G a a) (h : s.Binds G i)
    (hs : (clients program initial).step s e = some s') (he : ∀ r, e ≠ .request i r) :
    s'.Binds G i ∧ (e = .statement i → G s.db s'.db) := by
  obtain ⟨c, hA, hc⟩ := h
  cases e with
  | statement k =>
      rcases hA.step hs with hA' | ⟨c', hc', hA'⟩
      · refine ⟨⟨c, hA', hc⟩, fun _ => ?_⟩
        rw [← hA'.db, hA.db]
        exact hG _
      · by_cases hk : i = k
        · subst hk
          obtain ⟨hstep, p, hp, hkeeps⟩ := hc.step trivial (hG _) hc'
          refine ⟨⟨c', hA', ?_⟩, fun _ => ?_⟩
          · rw [hp, Function.update_self]
            exact hkeeps
          · rw [← hA.db, ← hA'.db]
            exact hstep
        · refine ⟨⟨c', hA', ?_⟩, ?_⟩
          · rw [Blocks.step_frame hc' hk]
            cases hp : c.proc i with
            | ended => trivial
            | tx t next =>
                rw [hp] at hc
                exact hc
          · rintro ⟨⟩
            exact absurd rfl hk
  | request k r =>
      have hk : i ≠ k := by
        rintro rfl
        exact he r rfl
      cases hp : s.proc k with
      | tx t next =>
          simp only [clients, hp] at hs
          cases hs
      | ended =>
          simp only [clients, hp] at hs
          cases hs
          refine ⟨⟨_, hA.goto (hA.idle hp) _, ?_⟩, nofun⟩
          show (Function.update c.proc k _ i).Keeps _ _ _
          rw [Function.update_of_ne hk]
          exact hc
  | crash =>
      cases hs
      exact ⟨.ended (.of_unlocked rfl) rfl, nofun⟩

end clients

end Storage
