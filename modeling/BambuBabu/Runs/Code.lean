import Mathlib.Order.Basic

/-!
# `Runs.Code` — code that raises and keeps what it has done

A piece of code over a state `σ` may return a value or raise an exception of type `ε`; either way the effects it
has had stay. Handlers (`tryCatch`, `ensuring`) are code themselves and may raise as well.

* `Code.exec` — how the code ends, and the state it leaves.
* `Triple P x Q E` — from every state with `P`, the code returns with `Q` or raises with `E`.

The rules below follow the constructs; a proof about a program applies one rule for each of its lines.
-/

namespace Runs

/-- Code over the state `σ` that may raise an `ε`. -/
abbrev Code (σ ε : Type) := ExceptT ε (StateM σ)

namespace Code

variable {σ ε α β : Type}

/-- What the code returns or raises, and the state it leaves. -/
def exec (x : Code σ ε α) (s : σ) : Except ε α × σ := StateT.run (ExceptT.run x) s

/-- `try: x finally: f`. An exception of `f` takes the place of how `x` ended. -/
def ensuring (x : Code σ ε α) (f : Code σ ε Unit) : Code σ ε α := ExceptT.mk fun s =>
  match exec x s with
  | (r, s') =>
      match exec f s' with
      | (.ok _, s'') => (r, s'')
      | (.error e, s'') => (.error e, s'')

/-- One operation on the state. -/
def act (g : σ → Except ε α × σ) : Code σ ε α := ExceptT.mk g

/-- What has been computed, or its exception. -/
def lift (r : Except ε α) : Code σ ε α := act fun s => (r, s)

/-- An assignment. -/
def assign (g : σ → σ) : Code σ ε Unit := act fun s => (.ok (), g s)

/-- The operation at `p`, which the environment may let raise. -/
def attempt {π : Type} (fails : π → Option ε) (p : π) : Code σ ε Unit := lift ((fails p).elim (.ok ()) .error)

/-- From every state that satisfies `P` the code returns with `Q` or raises with `E`. -/
structure Triple (P : σ → Prop) (x : Code σ ε α) (Q : α → σ → Prop) (E : ε → σ → Prop) : Prop where
  returns : ∀ s a s', P s → exec x s = (.ok a, s') → Q a s'
  raises : ∀ s e s', P s → exec x s = (.error e, s') → E e s'

variable {P I : σ → Prop} {Q G : α → σ → Prop} {R : β → σ → Prop} {E F : ε → σ → Prop} {x : Code σ ε α}

/-! ## Single operations -/

theorem Triple.pure {a : α} (h : ∀ s, P s → Q a s) : Triple P (Pure.pure a : Code σ ε α) Q E where
  returns := by
    rintro s a s' hP ⟨⟩
    exact h s hP
  raises := by
    rintro s e s' hP ⟨⟩

theorem Triple.throw {e : ε} (h : ∀ s, P s → E e s) : Triple P (MonadExcept.throw e : Code σ ε α) Q E where
  returns := by
    rintro s a s' hP ⟨⟩
  raises := by
    rintro s e s' hP ⟨⟩
    exact h s hP

theorem Triple.act {g : σ → Except ε α × σ} (hok : ∀ s a s', P s → g s = (.ok a, s') → Q a s')
    (herr : ∀ s e s', P s → g s = (.error e, s') → E e s') : Triple P (Code.act g) Q E where
  returns := hok
  raises := herr

theorem Triple.lift {r : Except ε α} (hE : ∀ s e, P s → r = .error e → E e s) :
    Triple P (Code.lift r) (fun a s => P s ∧ r = .ok a) E := by
  apply Triple.act
  · intro s a s' hP hr
    obtain ⟨hok, rfl⟩ := Prod.mk.inj hr
    exact ⟨hP, hok⟩
  · intro s e s' hP hr
    obtain ⟨herr, rfl⟩ := Prod.mk.inj hr
    exact hE s e hP herr

/-- An action that always returns. -/
theorem Triple.act_ok {f : σ → α} {g : σ → σ} (hQ : ∀ s, P s → Q (f s) (g s)) :
    Triple P (Code.act fun s => (.ok (f s), g s)) Q E := by
  apply Triple.act
  · intro s a s' hP hr
    obtain ⟨ha, rfl⟩ := Prod.mk.inj hr
    exact Except.ok.inj ha ▸ hQ s hP
  · intro s e s' hP hr
    cases congrArg Prod.fst hr

theorem Triple.assign {g : σ → σ} {Q : Unit → σ → Prop} (hQ : ∀ s, P s → Q () (g s)) :
    Triple P (Code.assign g) Q E := Triple.act_ok hQ

/-- An operation that raises changes nothing. -/
theorem Triple.attempt {π : Type} {fails : π → Option ε} {p : π} (hE : ∀ s e, P s → E e s) :
    Triple P (Code.attempt fails p) (fun _ => P) E := by
  apply Triple.act
  · intro s _ s' hP hr
    obtain ⟨-, rfl⟩ := Prod.mk.inj hr
    exact hP
  · intro s e s' hP hr
    obtain ⟨-, rfl⟩ := Prod.mk.inj hr
    exact hE s e hP

theorem Triple.attempt_of_none {π : Type} {fails : π → Option ε} {p : π} (hnone : fails p = none) :
    Triple P (Code.attempt fails p) (fun _ => P) E := by
  apply Triple.act
  · intro s _ s' hP hr
    obtain ⟨-, rfl⟩ := Prod.mk.inj hr
    exact hP
  · intro s e s' hP hr
    rw [hnone] at hr
    cases hr

/-- An operation that decides by itself whether it raises. -/
theorem Triple.attempt_iff {π : Type} {fails : π → Option ε} {p : π} {Q : Unit → σ → Prop}
    (hE : ∀ e s, P s → fails p = some e → E e s) (hQ : fails p = none → ∀ s, P s → Q () s) :
    Triple P (Code.attempt fails p) Q E := by
  apply Triple.act
  · rintro s ⟨⟩ s' hP hr
    obtain ⟨hok, rfl⟩ := Prod.mk.inj hr
    cases hp : fails p with
    | none => exact hQ hp s hP
    | some e => rw [hp] at hok; cases hok
  · intro s e s' hP hr
    obtain ⟨herr, rfl⟩ := Prod.mk.inj hr
    cases hp : fails p with
    | none => rw [hp] at herr; cases herr
    | some e' =>
        rw [hp] at herr
        cases herr
        exact hE e s hP hp

/-! ## Composition -/

theorem exec_bind (x : Code σ ε α) (k : α → Code σ ε β) (s : σ) :
    exec (x >>= k) s = match exec x s with
      | (.ok a, s') => exec (k a) s'
      | (.error e, s') => (.error e, s') := by
  have hrun : exec (x >>= k) s = StateT.run (ExceptT.bindCont k (exec x s).1) (exec x s).2 := rfl
  rw [hrun]
  obtain ⟨r, s'⟩ := exec x s
  cases r with
  | ok a => rfl
  | error e => rfl

@[simp] theorem exec_pure (a : α) (s : σ) : exec (Pure.pure a : Code σ ε α) s = (.ok a, s) := rfl

@[simp] theorem exec_throw (e : ε) (s : σ) : exec (MonadExcept.throw e : Code σ ε α) s = (.error e, s) := rfl

@[simp] theorem exec_act (g : σ → Except ε α × σ) (s : σ) : exec (act g) s = g s := rfl

@[simp] theorem exec_assign (g : σ → σ) (s : σ) : exec (assign g : Code σ ε Unit) s = (.ok (), g s) := rfl

theorem exec_attempt_of_none {π : Type} {fails : π → Option ε} {p : π} (h : fails p = none) (s : σ) :
    exec (attempt fails p) s = (.ok (), s) := by
  unfold attempt
  rw [h]
  rfl

theorem exec_attempt_of_some {π : Type} {fails : π → Option ε} {p : π} {e : ε} (h : fails p = some e) (s : σ) :
    exec (attempt fails p) s = (.error e, s) := by
  unfold attempt
  rw [h]
  rfl

/-- A part that returned: the rest runs on what it left. -/
theorem exec_bind_of_ok {k : α → Code σ ε β} {s s' : σ} {a : α} (h : exec x s = (.ok a, s')) :
    exec (x >>= k) s = exec (k a) s' := by
  rw [exec_bind, h]

/-- A part that raised: the rest does not run. -/
theorem exec_bind_of_error {k : α → Code σ ε β} {s s' : σ} {e : ε} (h : exec x s = (.error e, s')) :
    exec (x >>= k) s = (.error e, s') := by
  rw [exec_bind, h]

/-- **Sequencing**: the second part starts in what the first one leaves. -/
theorem Triple.bind {k : α → Code σ ε β} (hx : Triple P x Q E) (hk : ∀ a, Triple (Q a) (k a) R E) :
    Triple P (x >>= k) R E where
  returns := by
    intro s b s'' hP h
    rw [exec_bind] at h
    rcases hr : exec x s with ⟨e | a, s'⟩ <;> rw [hr] at h
    · cases h
    · exact (hk a).returns s' b s'' (hx.returns s a s' hP hr) h
  raises := by
    intro s e s'' hP h
    rw [exec_bind] at h
    rcases hr : exec x s with ⟨e' | a, s'⟩ <;> rw [hr] at h
    · cases h
      exact hx.raises s e s'' hP hr
    · exact (hk a).raises s' e s'' (hx.returns s a s' hP hr) h

/-- **An operation at the head of a block**: it raises, or the rest runs and may use that it did not. -/
theorem Triple.attempt_bind {π : Type} {fails : π → Option ε} {p : π} {k : Unit → Code σ ε β}
    (hE : ∀ e s, P s → fails p = some e → E e s) (hk : fails p = none → Triple P (k ()) R E) :
    Triple P (Code.attempt fails p >>= k) R E := by
  cases hp : fails p with
  | none => exact (Triple.attempt_of_none hp).bind fun _ => hk hp
  | some e =>
      constructor
      · intro s b s' _ hr
        rw [exec_bind_of_error (exec_attempt_of_some hp s)] at hr
        cases hr
      · intro s e' s' hP hr
        rw [exec_bind_of_error (exec_attempt_of_some hp s)] at hr
        cases hr
        exact hE e s hP hp

theorem exec_tryCatch (x : Code σ ε α) (h : ε → Code σ ε α) (s : σ) :
    exec (MonadExcept.tryCatch x h) s = match exec x s with
      | (.ok a, s') => (.ok a, s')
      | (.error e, s') => exec (h e) s' := by
  have hrun : exec (MonadExcept.tryCatch x h) s = match (exec x s).1 with
      | .ok a => (.ok a, (exec x s).2)
      | .error e => exec (h e) (exec x s).2 := by
    show StateT.run (ExceptT.run (ExceptT.tryCatch x h)) s = _
    rw [ExceptT.tryCatch, ExceptT.run_mk, StateT.run_bind]
    show StateT.run (match (exec x s).1 with | .ok a => _ | .error e => _) (exec x s).2 = _
    rcases (exec x s).1 with e | a <;> rfl
  rw [hrun]
  rcases exec x s with ⟨e | a, s'⟩ <;> rfl

theorem exec_ensuring (x : Code σ ε α) (f : Code σ ε Unit) (s : σ) :
    exec (ensuring x f) s = match exec x s with
      | (r, s') => match exec f s' with
          | (.ok _, s'') => (r, s'')
          | (.error e, s'') => (.error e, s'') := rfl

/-- **Handlers**: the handler starts in what the exception leaves. -/
theorem Triple.tryCatch {h : ε → Code σ ε α} (hx : Triple P x Q F) (hh : ∀ e, Triple (F e) (h e) Q E) :
    Triple P (MonadExcept.tryCatch x h) Q E where
  returns := by
    intro s a s'' hP hr
    rw [exec_tryCatch] at hr
    rcases hx' : exec x s with ⟨e | b, s'⟩ <;> rw [hx'] at hr
    · exact (hh e).returns s' a s'' (hx.raises s e s' hP hx') hr
    · cases hr
      exact hx.returns s a s'' hP hx'
  raises := by
    intro s e s'' hP hr
    rw [exec_tryCatch] at hr
    rcases hx' : exec x s with ⟨e' | b, s'⟩ <;> rw [hx'] at hr
    · exact (hh e').raises s' e s'' (hx.raises s e' s' hP hx') hr
    · cases hr

/-- **`finally`**: the last part starts in whatever the first one leaves, and keeps how it ended. -/
theorem Triple.ensuring {f : Code σ ε Unit} (hx : Triple P x G F)
    (hret : ∀ a, Triple (G a) f (fun _ => Q a) E) (hexc : ∀ e, Triple (F e) f (fun _ => E e) E) :
    Triple P (Code.ensuring x f) Q E where
  returns := by
    intro s a s'' hP hr
    rw [exec_ensuring] at hr
    rcases hx' : exec x s with ⟨e | b, s'⟩ <;> rw [hx'] at hr <;> simp only at hr
    · split at hr <;> cases hr
    · split at hr <;> cases hr
      next hf => exact (hret a).returns s' _ s'' (hx.returns s a s' hP hx') hf
  raises := by
    intro s e s'' hP hr
    rw [exec_ensuring] at hr
    rcases hx' : exec x s with ⟨e' | b, s'⟩ <;> rw [hx'] at hr <;> simp only at hr
    · have hE := hx.raises s e' s' hP hx'
      split at hr <;> cases hr
      · next hf => exact (hexc e).returns s' _ s'' hE hf
      · next hf => exact (hexc e').raises s' e s'' hE hf
    · have hQ := hx.returns s b s' hP hx'
      split at hr <;> cases hr
      next hf => exact (hret b).raises s' e s'' hQ hf

/-- **Consequence.** -/
theorem Triple.mono (h : Triple I x G F) (hP : ∀ s, P s → I s) (hQ : ∀ a s, G a s → Q a s)
    (hE : ∀ e s, F e s → E e s) : Triple P x Q E where
  returns := fun s a s' hs hr => hQ a s' (h.returns s a s' (hP s hs) hr)
  raises := fun s e s' hs hr => hE e s' (h.raises s e s' (hP s hs) hr)

/-- What a result says besides the state may be assumed. -/
theorem Triple.assume {φ : Prop} (h : φ → Triple P x Q E) : Triple (fun s => P s ∧ φ) x Q E where
  returns := fun s a s' hs hr => (h hs.2).returns s a s' hs.1 hr
  raises := fun s e s' hs hr => (h hs.2).raises s e s' hs.1 hr

/-- Cases of the state in which the code starts. -/
theorem Triple.or {P' : σ → Prop} (h : Triple P x Q E) (h' : Triple P' x Q E) : Triple (fun s => P s ∨ P' s) x Q E where
  returns := fun s a s' hs hr => hs.elim (h.returns s a s' · hr) (h'.returns s a s' · hr)
  raises := fun s e s' hs hr => hs.elim (h.raises s e s' · hr) (h'.raises s e s' · hr)

/-- What holds of some `i` is dealt with for every `i`. -/
theorem Triple.ofExists {ι : Type} {P : ι → σ → Prop} (h : ∀ i, Triple (P i) x Q E) :
    Triple (fun s => ∃ i, P i s) x Q E where
  returns := fun s a s' ⟨i, hs⟩ hr => (h i).returns s a s' hs hr
  raises := fun s e s' ⟨i, hs⟩ hr => (h i).raises s e s' hs hr

/-! ## What code leaves alone -/

/-- However the code ends, `f` of the state is what it was. -/
def Keeps {τ : Type} (f : σ → τ) (x : Code σ ε α) : Prop := ∀ s, f (exec x s).2 = f s

section keeps

variable {τ : Type} {f : σ → τ}

theorem Keeps.pure (a : α) : Keeps f (Pure.pure a : Code σ ε α) := fun _ => rfl

theorem Keeps.throw (e : ε) : Keeps f (MonadExcept.throw e : Code σ ε α) := fun _ => rfl

theorem Keeps.act {g : σ → Except ε α × σ} (h : ∀ s, f (g s).2 = f s) : Keeps f (Code.act g) := h

theorem Keeps.lift (r : Except ε α) : Keeps f (Code.lift r : Code σ ε α) := fun _ => rfl

theorem Keeps.assign {g : σ → σ} (h : ∀ s, f (g s) = f s) : Keeps f (Code.assign g : Code σ ε Unit) := h

theorem Keeps.attempt {π : Type} (fails : π → Option ε) (p : π) :
    Keeps f (Code.attempt fails p : Code σ ε Unit) := fun _ => rfl

theorem Keeps.bind {k : α → Code σ ε β} (hx : Keeps f x) (hk : ∀ a, Keeps f (k a)) : Keeps f (x >>= k) := by
  intro s
  rw [exec_bind]
  have hfirst := hx s
  rcases hr : exec x s with ⟨e | a, s'⟩ <;> rw [hr] at hfirst
  · exact hfirst
  · exact (hk a s').trans hfirst

theorem Keeps.tryCatch {h : ε → Code σ ε α} (hx : Keeps f x) (hh : ∀ e, Keeps f (h e)) :
    Keeps f (MonadExcept.tryCatch x h) := by
  intro s
  rw [exec_tryCatch]
  have hfirst := hx s
  rcases hr : exec x s with ⟨e | a, s'⟩ <;> rw [hr] at hfirst
  · exact (hh e s').trans hfirst
  · exact hfirst

theorem Keeps.ensuring {g : Code σ ε Unit} (hx : Keeps f x) (hg : Keeps f g) : Keeps f (Code.ensuring x g) := by
  intro s
  rw [exec_ensuring]
  have hfirst := hx s
  rcases hr : exec x s with ⟨r, s'⟩
  rw [hr] at hfirst
  have hlast := hg s'
  simp only
  rcases hr' : exec g s' with ⟨e | a, s''⟩ <;> rw [hr'] at hlast <;> exact hlast.trans hfirst

/-- **Frame.** -/
theorem Keeps.triple (h : Keeps f x) (v : τ) :
    Triple (fun s => f s = v) x (fun _ s => f s = v) (fun _ s => f s = v) where
  returns := by
    intro s a s' hv hr
    have hkept := h s
    rw [hr] at hkept
    exact hkept.trans hv
  raises := by
    intro s e s' hv hr
    have hkept := h s
    rw [hr] at hkept
    exact hkept.trans hv

end keeps

/-- What a triple says of one run that returns, -/
theorem Triple.of_ok {s₀ : σ} {a : α} (h : Triple (· = s₀) x Q E) (hr : (exec x s₀).1 = .ok a) :
    Q a (exec x s₀).2 := h.returns s₀ a _ rfl (Prod.ext hr rfl)

/-- and of one that raises. -/
theorem Triple.of_error {s₀ : σ} {e : ε} (h : Triple (· = s₀) x Q E) (hr : (exec x s₀).1 = .error e) :
    E e (exec x s₀).2 := h.raises s₀ e _ rfl (Prod.ext hr rfl)

end Code

end Runs
