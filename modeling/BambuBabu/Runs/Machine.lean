import Mathlib.Order.Basic

/-!
# `Runs.Machine` — runs of a transition system

A machine is a set of initial states and a partial step function on events. This module holds the notions
that statements about runs are made of, over arbitrary state and event types:

* `Path ok` — finite runs all of whose steps meet a condition `ok` on the state before the step and the
  event (`always` for no condition);
* `Reach ok` — the states such runs reach from an initial state;
* `Follows ok` — the runs that follow a given schedule;
* `Trace ok` — the states a run visits;
* the rules that turn a fact about one step into a fact about a run (`Reach.invariant`, `Path.keeps`,
  `Path.keeps_until`), or into a run of another machine (`Path.simulate`).
-/

namespace Runs

/-- A transition system: `step s e = none` when event `e` cannot happen in `s`. -/
structure Machine (σ ε : Type) where
  init : σ → Prop
  step : σ → ε → Option σ

/-- The condition every step meets. -/
def always {σ ε : Type} : σ → ε → Prop := fun _ _ => True

namespace Machine

variable {σ ε : Type} (M : Machine σ ε)

/-- `Path ok s s'`: finitely many steps, each meeting `ok`, lead from `s` to `s'`. -/
inductive Path (ok : σ → ε → Prop) : σ → σ → Prop where
  | refl {s} : Path ok s s
  | step {s s₁ s₂ e} : Path ok s s₁ → ok s₁ e → M.step s₁ e = some s₂ → Path ok s s₂

/-- `Follows ok s es s'`: the events `es`, in this order and each meeting `ok`, lead from `s` to `s'`. -/
inductive Follows (ok : σ → ε → Prop) : σ → List ε → σ → Prop where
  | nil {s} : Follows ok s [] s
  | cons {s s₁ s₂ e es} : ok s e → M.step s e = some s₁ → Follows ok s₁ es s₂ → Follows ok s (e :: es) s₂

/-- The states reached from an initial state by steps that meet `ok`. -/
def Reach (ok : σ → ε → Prop) (s : σ) : Prop := ∃ s₀, M.init s₀ ∧ M.Path ok s₀ s

/-- `Trace ok ss`: a run from an initial state visits the states `ss`, the last one first. -/
inductive Trace (ok : σ → ε → Prop) : List σ → Prop where
  | init {s} : M.init s → Trace ok [s]
  | step {s s' e ss} : Trace ok (s :: ss) → ok s e → M.step s e = some s' → Trace ok (s' :: s :: ss)

variable {M} {ok ok' : σ → ε → Prop} {s s' s₁ s₂ : σ} {e : ε}

/-! ## Composing runs -/

theorem Path.single (hok : ok s e) (hs : M.step s e = some s') : M.Path ok s s' :=
  .step .refl hok hs

theorem Path.trans (h₁ : M.Path ok s s₁) (h₂ : M.Path ok s₁ s₂) : M.Path ok s s₂ := by
  induction h₂ with
  | refl => exact h₁
  | step _ hok hs ih => exact .step ih hok hs

/-- A stronger condition leaves fewer runs. -/
theorem Path.mono (himp : ∀ s e, ok s e → ok' s e) (h : M.Path ok s s') : M.Path ok' s s' := by
  induction h with
  | refl => exact .refl
  | step _ hok hs ih => exact .step ih (himp _ _ hok) hs

theorem Reach.init (h : M.init s) : M.Reach ok s := ⟨s, h, .refl⟩

theorem Reach.step (h : M.Reach ok s) (hok : ok s e) (hs : M.step s e = some s') : M.Reach ok s' := by
  obtain ⟨s₀, h₀, hp⟩ := h
  exact ⟨s₀, h₀, .step hp hok hs⟩

theorem Reach.path (h : M.Reach ok s) (hp : M.Path ok s s') : M.Reach ok s' := by
  obtain ⟨s₀, h₀, hp₀⟩ := h
  exact ⟨s₀, h₀, hp₀.trans hp⟩

theorem Reach.mono (himp : ∀ s e, ok s e → ok' s e) (h : M.Reach ok s) : M.Reach ok' s := by
  obtain ⟨s₀, h₀, hp⟩ := h
  exact ⟨s₀, h₀, hp.mono himp⟩

theorem Reach.weaken (h : M.Reach ok s) : M.Reach always s := h.mono fun _ _ _ => trivial

/-- Where a trace ends is reached, -/
theorem Trace.reach {ss : List σ} (h : M.Trace ok ss) : ∀ s ∈ ss.head?, M.Reach ok s := by
  induction h with
  | init h₀ =>
      rintro s ⟨⟩
      exact .init h₀
  | step _ hok hs ih =>
      rintro s ⟨⟩
      exact (ih _ rfl).step hok hs

/-- and every state that is reached ends a trace. -/
theorem Reach.trace (h : M.Reach ok s) : ∃ ss, M.Trace ok (s :: ss) := by
  obtain ⟨s₀, h₀, hp⟩ := h
  induction hp with
  | refl => exact ⟨[], .init h₀⟩
  | step _ hok hs ih =>
      obtain ⟨ss, htrace⟩ := ih
      exact ⟨_, .step htrace hok hs⟩

/-! ## From one step to a run -/

/-- **Invariant rule.** What holds initially and survives every step taken from a reachable state holds in
    every reachable state. -/
theorem Reach.invariant {I : σ → Prop} (hinit : ∀ s, M.init s → I s)
    (hstep : ∀ s e s', M.Reach ok s → I s → ok s e → M.step s e = some s' → I s')
    (h : M.Reach ok s) : I s := by
  obtain ⟨s₀, h₀, hp⟩ := h
  induction hp with
  | refl => exact hinit _ h₀
  | step hp hok hs ih => exact hstep _ _ _ ⟨s₀, h₀, hp⟩ ih hok hs

/-- **Stability rule.** What holds in a reachable state and survives every step holds at the end of every
    run that starts there. -/
theorem Path.keeps {P : σ → Prop} (hr : M.Reach ok s) (hp : M.Path ok s s') (hP : P s)
    (hstep : ∀ s e s', M.Reach ok s → P s → ok s e → M.step s e = some s' → P s') : P s' := by
  induction hp with
  | refl => exact hP
  | step hp hok hs ih => exact hstep _ _ _ (hr.path hp) ih hok hs

/-- **Until rule.** What every step keeps unless it is a release is kept by every run without a release. -/
theorem Path.keeps_until {P : σ → Prop} {release : σ → ε → Prop} (hr : M.Reach ok s)
    (hp : M.Path (fun s e => ok s e ∧ ¬ release s e) s s') (hP : P s)
    (hstep : ∀ s e s', M.Reach ok s → P s → ok s e → ¬ release s e → M.step s e = some s' → P s') :
    P s' := by
  have hkeep : P s' ∧ M.Reach ok s' := by
    induction hp with
    | refl => exact ⟨hP, hr⟩
    | step _ hok hs ih => exact ⟨hstep _ _ _ ih.2 ih.1 hok.1 hok.2 hs, ih.2.step hok.1 hs⟩
  exact hkeep.1

/-- A property of the end of a run and of the states before its steps holds at its beginning. -/
theorem Path.start {P : σ → Prop} (hp : M.Path (fun t e => ok t e ∧ P t) s s') (hP : P s') : P s := by
  induction hp with
  | refl => exact hP
  | step _ hok _ ih => exact ih hok.2

/-- **What a run establishes**, some step establishes, and the rest of the run keeps. -/
theorem Path.established {P : σ → Prop} (hp : M.Path ok s s') (hno : ¬ P s) (hP : P s') :
    ∃ a e b, M.Path ok s a ∧ ¬ P a ∧ ok a e ∧ M.step a e = some b ∧
      M.Path (fun t e => ok t e ∧ P t) b s' := by
  induction hp with
  | refl => exact absurd hP hno
  | @step s₁ s₂ e hp hok hs ih =>
      by_cases h : P s₁
      · obtain ⟨a, e', b, hpre, hnot, hok', hs', hrest⟩ := ih h
        exact ⟨a, e', b, hpre, hnot, hok', hs', .step hrest ⟨hok, h⟩ hs⟩
      · exact ⟨s₁, e, s₂, hp, h, hok, hs, .refl⟩

/-! ## Simulation -/

/-- **Simulation rule.** If every step of `M` that meets `ok` is matched by one step of `N` that meets `okN`,
    or by none, then so is every run. -/
theorem Path.simulate {σN εN : Type} {N : Machine σN εN} {R : σ → σN → Prop} {okN : σN → εN → Prop} {c : σN}
    (hsim : ∀ s e s' c, R s c → ok s e → M.step s e = some s' →
      R s' c ∨ ∃ e' c', okN c e' ∧ N.step c e' = some c' ∧ R s' c')
    (h : M.Path ok s s') (hR : R s c) : ∃ c', N.Path okN c c' ∧ R s' c' := by
  induction h with
  | refl => exact ⟨c, .refl, hR⟩
  | step _ hok hs ih =>
      obtain ⟨c₁, hp, hR₁⟩ := ih
      rcases hsim _ _ _ _ hR₁ hok hs with hR₂ | ⟨e', c₂, hok', hs', hR₂⟩
      · exact ⟨c₁, hp, hR₂⟩
      · exact ⟨c₂, .step hp hok' hs', hR₂⟩

/-! ## Schedules -/

theorem Follows.path {es : List ε} (h : M.Follows ok s es s') : M.Path ok s s' := by
  induction h with
  | nil => exact .refl
  | cons hok hs _ ih => exact (Path.single hok hs).trans ih

/-- Schedules compose. -/
theorem Follows.append {es es' : List ε} (h : M.Follows ok s es s₁) (h' : M.Follows ok s₁ es' s') :
    M.Follows ok s (es ++ es') s' := by
  induction h with
  | nil => exact h'
  | cons hok hs _ ih => exact .cons hok hs (ih h')

/-- **A schedule meets a condition throughout, or has a first step that does not.** -/
theorem Follows.split {es : List ε} (h : M.Follows always s es s') (ok : σ → ε → Prop) :
    M.Follows ok s es s' ∨
      ∃ s₁ e s₂, M.Path ok s s₁ ∧ ¬ ok s₁ e ∧ M.step s₁ e = some s₂ ∧ M.Path always s₂ s' := by
  induction h with
  | nil => exact .inl .nil
  | @cons s s₁ s₂ e es _ hs hrest ih =>
      by_cases hok : ok s e
      · rcases ih with hgood | ⟨t, e', t', hp, hbad, ht, hp'⟩
        · exact .inl (.cons hok hs hgood)
        · exact .inr ⟨t, e', t', (Path.single hok hs).trans hp, hbad, ht, hp'⟩
      · exact .inr ⟨s, e, s₁, .refl, hok, hs, hrest.path⟩

/-- **What a schedule establishes**, one of its steps establishes: the schedule splits there. -/
theorem Follows.established {P : σ → Prop} {es : List ε} (h : M.Follows ok s es s') (hno : ¬ P s) (hP : P s') :
    ∃ es₁ e es₂ a b, es = es₁ ++ e :: es₂ ∧ M.Follows ok s es₁ a ∧ ¬ P a ∧ ok a e ∧ M.step a e = some b ∧ P b ∧
      M.Follows ok b es₂ s' := by
  induction h with
  | nil => exact absurd hP hno
  | @cons s s₁ s' e es hok hs hrest ih =>
      by_cases h₁ : P s₁
      · exact ⟨[], e, es, s, s₁, rfl, .nil, hno, hok, hs, h₁, hrest⟩
      · obtain ⟨es₁, e', es₂, a, b, rfl, hpre, hbefore, hok', hs', hafter, hpost⟩ := ih h₁ hP
        exact ⟨e :: es₁, e', es₂, a, b, rfl, .cons hok hs hpre, hbefore, hok', hs', hafter, hpost⟩

theorem Follows.snoc {es : List ε} (h : M.Follows ok s es s₁) (hok : ok s₁ e) (hs : M.step s₁ e = some s') :
    M.Follows ok s (es ++ [e]) s' := by
  induction h with
  | nil => exact .cons hok hs .nil
  | cons hok' hs' _ ih => exact .cons hok' hs' (ih hok hs)

/-- The last step of a schedule. -/
theorem Follows.last {es : List ε} (h : M.Follows ok s (es ++ [e]) s') :
    ∃ s₁, M.Follows ok s es s₁ ∧ ok s₁ e ∧ M.step s₁ e = some s' := by
  induction es generalizing s with
  | nil =>
      cases h with
      | cons hok hs hrest =>
          cases hrest
          exact ⟨s, .nil, hok, hs⟩
  | cons a es ih =>
      cases h with
      | cons hok hs hrest =>
          obtain ⟨s₁, hpre, hlast⟩ := ih hrest
          exact ⟨s₁, .cons hok hs hpre, hlast⟩

/-- A schedule leads to one state only. -/
theorem Follows.det {es : List ε} (h₁ : M.Follows ok s es s₁) (h₂ : M.Follows ok' s es s₂) : s₁ = s₂ := by
  induction h₁ with
  | nil =>
      cases h₂
      rfl
  | cons _ hs _ ih =>
      cases h₂ with
      | cons _ hs' hrest =>
          cases Option.some.inj (hs.symm.trans hs')
          exact ih hrest

theorem Follows.weaken_of_reach {es : List ε} (hr : M.Reach always s)
    (himp : ∀ s e s', M.Reach always s → M.step s e = some s' → ok s e → ok' s e) (h : M.Follows ok s es s') :
    M.Follows ok' s es s' := by
  induction h with
  | nil => exact .nil
  | cons hok hs _ ih => exact .cons (himp _ _ _ hr hs hok) hs (ih (hr.step trivial hs))

/-- **Conditions that agree on every step from a reachable state** admit the same schedules. -/
theorem Follows.congr {es : List ε} (hr : M.Reach always s)
    (hiff : ∀ s e s', M.Reach always s → M.step s e = some s' → (ok s e ↔ ok' s e)) :
    M.Follows ok s es s' ↔ M.Follows ok' s es s' := by
  constructor
  · exact Follows.weaken_of_reach hr fun s e s' hs hstep => (hiff s e s' hs hstep).mp
  · exact Follows.weaken_of_reach hr fun s e s' hs hstep => (hiff s e s' hs hstep).mpr

theorem Follows.weaken_of_inv {I : σ → Prop} {es : List ε} (hr : M.Reach always s) (hI : I s)
    (himp : ∀ s e s', M.Reach always s → I s → M.step s e = some s' → ok s e → ok' s e ∧ I s')
    (h : M.Follows ok s es s') : M.Follows ok' s es s' := by
  induction h with
  | nil => exact .nil
  | cons hok hs _ ih =>
      obtain ⟨hok', hI'⟩ := himp _ _ _ hr hI hs hok
      exact .cons hok' hs (ih (hr.step trivial hs) hI')

/-- **Conditions that agree while an invariant holds**, and that both keep it, admit the same schedules. -/
theorem Follows.congr_of_inv {I : σ → Prop} {es : List ε} (hr : M.Reach always s) (hI : I s)
    (hiff : ∀ s e s', M.Reach always s → I s → M.step s e = some s' → (ok s e ↔ ok' s e))
    (hkeep : ∀ s e s', M.Reach always s → I s → M.step s e = some s' → ok s e → I s') :
    M.Follows ok s es s' ↔ M.Follows ok' s es s' := by
  constructor
  · intro h
    refine h.weaken_of_inv hr hI ?_
    intro s e s' hs hI hstep hok
    exact ⟨(hiff s e s' hs hI hstep).mp hok, hkeep s e s' hs hI hstep hok⟩
  · intro h
    refine h.weaken_of_inv hr hI ?_
    intro s e s' hs hI hstep hok'
    have hok := (hiff s e s' hs hI hstep).mpr hok'
    exact ⟨hok, hkeep s e s' hs hI hstep hok⟩

/-! ## Executing a list of events -/

/-- Execute the events in order, while the check `good` passes. -/
def run (M : Machine σ ε) (good : σ → ε → Bool) : σ → List ε → Option σ
  | s, [] => some s
  | s, e :: es => if good s e then (M.step s e).bind fun s' => run M good s' es else none

variable {good : σ → ε → Bool}

/-- An executed list of events is a schedule that is followed, -/
theorem follows_of_run (hgood : ∀ s e, good s e = true → ok s e) {es : List ε} :
    ∀ {s s' : σ}, M.run good s es = some s' → M.Follows ok s es s' := by
  induction es with
  | nil =>
      intro s s' h
      cases h
      exact .nil
  | cons e es ih =>
      intro s s' h
      unfold run at h
      split at h
      · next hg =>
          obtain ⟨s₁, hs, hrest⟩ := Option.bind_eq_some_iff.mp h
          exact .cons (hgood s e hg) hs (ih hrest)
      · cases h

/-- and so a run. -/
theorem path_of_run (hgood : ∀ s e, good s e = true → ok s e) {es : List ε} {s s' : σ}
    (h : M.run good s es = some s') : M.Path ok s s' := (follows_of_run hgood h).path

/-- **Runs are exhibited by computing them**: a list of events that executes from an initial state to a state
    with property `p` shows that such a state is reachable, -/
theorem reach_of_run (hgood : ∀ s e, good s e = true → ok s e) (es : List ε) (p : σ → Bool)
    (hinit : M.init s) (h : (M.run good s es).any p = true) : ∃ s', M.Reach ok s' ∧ p s' = true := by
  cases hr : M.run good s es with
  | none => rw [hr] at h; cases h
  | some s' =>
      rw [hr] at h
      exact ⟨s', ⟨s, hinit, path_of_run hgood hr⟩, h⟩

/-- and one that executes to a state with property `p` and on to one with property `q` shows that the second
    is reachable from the first. -/
theorem reach_follows_of_run (hgood : ∀ s e, good s e = true → ok s e) (es₁ es₂ : List ε) (p q : σ → Bool)
    (hinit : M.init s)
    (h : (M.run good s es₁).any (fun s₁ => p s₁ && (M.run good s₁ es₂).any q) = true) :
    ∃ s₁ s₂, M.Reach ok s₁ ∧ p s₁ = true ∧ M.Follows ok s₁ es₂ s₂ ∧ q s₂ = true := by
  obtain ⟨s₁, hr, hp⟩ := reach_of_run hgood es₁ _ hinit h
  obtain ⟨hp, hq⟩ := Bool.and_eq_true_iff.mp hp
  cases hrun : M.run good s₁ es₂ with
  | none => rw [hrun] at hq; cases hq
  | some s₂ =>
      rw [hrun] at hq
      exact ⟨s₁, s₂, hr, hp, follows_of_run hgood hrun, hq⟩

/-- The check that every step passes. -/
def anyStep : σ → ε → Bool := fun _ _ => true

theorem always_of_anyStep : ∀ (s : σ) (e : ε), anyStep s e = true → always s e := fun _ _ _ => trivial

end Machine

end Runs
