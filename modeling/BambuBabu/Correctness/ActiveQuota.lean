import BambuBabu.Service.Intake

/-!
# `Correctness.ActiveQuota` — the number of active jobs stays within its quota

An upload counts the active jobs long before it commits its own: in between come all the chunks of its file, and
whatever the rest of the service commits. The count is still good at the commit, because the lock that the
request holds keeps other uploads out, and nothing but an upload activates a job.

* `Quota` — the invariant: while a request holds the lock there is room for its job.
* `active_quota` — **the theorem**.
-/

namespace BambuBabu

open Storage Runs

variable {ι : Type} [DecidableEq ι] {limits : UploadLimits} {s s' : Intake ι}

/-- The quota is kept, at most one request is past its checks, and there is room for its job. -/
structure Quota (limits : UploadLimits) (s : Intake ι) : Prop where
  bound : s.service.db.countActiveJobs ≤ limits.maxActiveJobs
  owner : ∀ i u, s.uploads i = some u → u.holds = true → s.lock = some i
  room : s.lock ≠ none → s.service.db.countActiveJobs < limits.maxActiveJobs

/-- The change of one request keeps the owner of the lock, if a request that holds the lock afterwards owns it. -/
theorem Quota.owner_update {i : ι} {o : Option Upload} {lock : Option ι} (hQ : Quota limits s)
    (hlock : ∀ k, k ≠ i → s.lock = some k → lock = some k)
    (hi : ∀ u, o = some u → u.holds = true → lock = some i) :
    ∀ k u, Function.update s.uploads i o k = some u → u.holds = true → lock = some k := by
  intro k u hu hh
  by_cases hk : k = i
  · subst hk
    rw [Function.update_self] at hu
    exact hi u hu hh
  · rw [Function.update_of_ne hk] at hu
    exact hlock k hk (hQ.owner k u hu hh)

/-- A request that holds the lock ends: nobody holds it. -/
theorem Quota.owner_leave {i : ι} {u : Upload} (hQ : Quota limits s) (hu : s.uploads i = some u)
    (hh : u.holds = true) :
    ∀ k v, Function.update s.uploads i none k = some v → v.holds = true → (none : Option ι) = some k := by
  refine hQ.owner_update (fun k hk hlock => ?_) fun v hv => by cases hv
  have hsame := (hQ.owner i u hu hh).symm.trans hlock
  exact absurd (Option.some.inj hsame).symm hk

/-- **Every step keeps the quota.** -/
theorem Quota.step (hQ : Quota limits s) (ht : IntakeTrans limits s s') : Quota limits s' := by
  cases ht with
  | @served e sv he hs hrun =>
      have hcount := (unactivating_step hs he).count_le
      exact {
        bound := hcount.trans hQ.bound
        owner := hQ.owner
        room := fun hlock => hcount.trans_lt (hQ.room hlock) }
  | @stopped e sv he hs =>
      have hcount := (unactivating_step hs he).count_le
      exact {
        bound := hcount.trans hQ.bound
        owner := fun _ _ hu => by cases hu
        room := fun hlock => absurd rfl hlock }
  | posted _ _ hw =>
      refine { bound := hQ.bound, owner := hQ.owner_update (fun _ _ hlock => hlock) ?_, room := hQ.room }
      rintro v ⟨⟩ hh
      rw [hw] at hh
      cases hh
  | admitted _ hlock hroom =>
      -- the lock was free, so nobody else holds it
      refine {
        bound := hQ.bound
        owner := hQ.owner_update (fun k _ hk => ?_) fun _ _ _ => rfl
        room := fun _ => hroom }
      rw [hlock] at hk
      cases hk
  | refused =>
      exact {
        bound := hQ.bound
        owner := hQ.owner_update (fun _ _ hlock => hlock) fun _ hv => by cases hv
        room := hQ.room }
  | received hu hh =>
      exact {
        bound := hQ.bound
        owner := hQ.owner_update (fun _ _ hlock => hlock) fun _ _ _ => hQ.owner _ _ hu hh
        room := hQ.room }
  | left hu hh =>
      exact {
        bound := hQ.bound
        owner := hQ.owner_leave hu hh
        room := fun hlock => absurd rfl hlock }
  | @accepted i u hu hh =>
      -- the room that was found under the lock is still there
      have hroom : s.service.db.countActiveJobs < limits.maxActiveJobs := by
        apply hQ.room
        rw [hQ.owner i u hu hh]
        exact Option.some_ne_none i
      exact {
        bound := commitUpload_count.trans hroom
        owner := hQ.owner_leave hu hh
        room := fun hlock => absurd rfl hlock }

/-- **Active-job quota**: over any interleaving of any number of uploads with every other step of the service,
    crashes and restarts included, the number of active jobs never exceeds `MAX_ACTIVE_JOBS`. -/
theorem active_quota (h : (intake ι limits).Reach always s) :
    s.service.db.countActiveJobs ≤ limits.maxActiveJobs := by
  have hquota : Quota limits s := by
    refine Machine.Reach.invariant (I := Quota limits) ?_ ?_ h
    · rintro s ⟨-, hbound, hlock, hnone⟩
      exact {
        bound := hbound
        owner := fun i u hu => by rw [hnone] at hu; cases hu
        room := fun hno => absurd hlock hno }
    · intro s e s' _ hQ _ hs
      exact hQ.step (intake_trans hs)
  exact hquota.bound

/-- Two uploads when there is room for one job: the first streams its file while the second waits, and the second
    is refused once the first has committed. -/
def lastPlace : List (IntakeEvent Bool) :=
  [.other (.boot Script.p1sOnly), .other .reconcile,
    .post true "a" ⟨"Ada", "ada@example.org", none, "part.stl"⟩,
    .post false "b" ⟨"Bob", "bob@example.org", none, "lid.stl"⟩,
    .enter true 0, .chunk true 1000, .other (.clock 1), .chunk true 84, .complete true (.ok ()),
    .enter false 1084]

theorem active_quota_last_place : ∃ s, (intake Bool ⟨1, 50, 1024⟩).Reach always s ∧ s.lock = none ∧
    s.service.db.statusOf "a" = some .pending ∧ s.service.db.job "b" = none ∧
    s.service.db.countActiveJobs ≤ 1 := by
  obtain ⟨s, hr, hs⟩ := Machine.reach_of_run (M := intake Bool ⟨1, 50, 1024⟩) Machine.always_of_anyStep lastPlace
    (fun s => decide (s.lock = none ∧ s.service.db.statusOf "a" = some .pending) &&
      (s.service.db.job "b").isNone)
    (s := ⟨Service.fresh Script.p1sOnly 0, none, fun _ => none⟩)
    ⟨⟨Script.p1sOnly, 0, Db.seeded, rfl⟩, by decide, rfl, fun _ => rfl⟩ (by decide +kernel)
  obtain ⟨hended, hnone⟩ := Bool.and_eq_true_iff.mp hs
  obtain ⟨hlock, hpending⟩ := of_decide_eq_true hended
  exact ⟨s, hr, hlock, hpending, Option.isNone_iff_eq_none.mp hnone, active_quota hr⟩

end BambuBabu
