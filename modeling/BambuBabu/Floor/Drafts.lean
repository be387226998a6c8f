import BambuBabu.Floor.Moves
import BambuBabu.Storage.Rely

/-!
# `Floor.Drafts` — working copies

What a transaction has done so far, compared with the committed database it will replace. Most transactions of
the service read a job, write columns of it without a guard and swap its status last; so a working copy passes
through states that must not be committed, and only the swap, or the rollback after a lost one, puts that
right. A `Draft` keeps track of it:

* `R` relates the committed status of every job to its new one;
* `risky` is a job whose row was written before its swap: it may have been cancelled meanwhile;
* `owed` is a job whose status has changed and whose log entry is still to be written.

There is one rule for each kind of write, and one for each operation of `Db.Crud`, whatever the rows that the
operation was given are worth by now.
-/

namespace BambuBabu

open Storage

/-! ## Drafts -/

/-- The job was sent to a printer. -/
def Dispatched (d : Db) (k : JobId) : Prop := ∃ st ∈ owning, d.statusOf k = some st

/-- The working copy `d` of the committed database `b`. -/
structure Draft (R : JobStatus → JobStatus → Prop) (risky owed : Option JobId) (b d : Db) : Prop where
  row : ∀ k j, b.job k = some j → ∃ j', d.job k = some j' ∧ R j.status j'.status
  absent : ∀ k, b.job k = none → d.job k = none
  /-- A cancelled job is left alone. -/
  frozen : ∀ k, risky ≠ some k → b.statusOf k = some .cancelled → d.job k = b.job k
  /-- A slot is given to a job that was sent to a printer. -/
  slot : ∀ p k, (d.printers p).currentJobId = some k → (b.printers p).currentJobId = some k ∨ Dispatched d k
  /-- A status change has an entry in the log. -/
  audit : ∃ new, d.logs = b.logs ++ new ∧
    ∀ k, owed ≠ some k → d.statusOf k ≠ b.statusOf k → ∃ e ∈ new, e.jobId = some k

namespace Draft

variable {R R' : JobStatus → JobStatus → Prop} {risky risky' owed owed' : Option JobId} {b d : Db}
  {id : JobId} {j : Job} {p : PrinterID}

/-- Nothing has been written yet. -/
theorem start (hR : ∀ a, R a a) : Draft R risky owed b b where
  row _ j hj := ⟨j, hj, hR _⟩
  absent _ hk := hk
  frozen _ _ _ := rfl
  slot _ _ h := .inl h
  audit := ⟨[], (List.append_nil _).symm, fun _ _ hne => absurd rfl hne⟩

/-- A draft of which less is known. -/
theorem weaken (h : Draft R risky owed b d) (hR : ∀ a c, R a c → R' a c)
    (hrisk : ∀ k, risky = some k → risky' = some k) (howed : ∀ k, owed = some k → owed' = some k) :
    Draft R' risky' owed' b d where
  row k j hj := by
    obtain ⟨j', hj', hst⟩ := h.row k j hj
    exact ⟨j', hj', hR _ _ hst⟩
  absent := h.absent
  frozen k hk := h.frozen k fun hc => hk (hrisk k hc)
  slot := h.slot
  audit := by
    obtain ⟨new, hlogs, haudit⟩ := h.audit
    exact ⟨new, hlogs, fun k hk => haudit k fun hc => hk (howed k hc)⟩

/-- The status a job had, as far as `R` tells. -/
theorem source (h : Draft R risky owed b d) (hj : d.job id = some j) :
    ∃ i, b.job id = some i ∧ R i.status j.status := by
  cases hi : b.job id with
  | none =>
      rw [h.absent id hi] at hj
      cases hj
  | some i =>
      obtain ⟨j', hj', hst⟩ := h.row id i hi
      cases Option.some.inj (hj.symm.trans hj')
      exact ⟨i, rfl, hst⟩

/-- **An unguarded write** of columns other than the status. The job may have been cancelled, unless something
    is known of it. -/
theorem write {g : Job → Job} (h : Draft R risky owed b d) (hg : ∀ j, (g j).status = j.status)
    (hrisk : ∀ k, risky = some k → risky' = some k)
    (hlive : risky' = some id ∨ b.statusOf id ≠ some .cancelled) : Draft R risky' owed b (d.modifyJob id g) := by
  have hstatus : ∀ k, (d.modifyJob id g).statusOf k = d.statusOf k := by
    intro k
    unfold Db.statusOf
    rw [Db.job_modifyJob]
    split
    · rw [Option.map_map]
      congr 1
      funext j
      exact hg j
    · rfl
  refine ⟨fun k j hj => ?_, fun k hk => ?_, fun k hk hcan => ?_, fun p k hk => ?_, ?_⟩
  · obtain ⟨j', hj', hst⟩ := h.row k j hj
    rw [Db.job_modifyJob]
    split
    · exact ⟨g j', by rw [hj']; rfl, by rw [hg]; exact hst⟩
    · exact ⟨j', hj', hst⟩
  · rw [Db.job_modifyJob, h.absent k hk, Option.map_none, ite_self]
  · rw [Db.job_modifyJob]
    split
    · next heq =>
        subst heq
        rcases hlive with hsame | hno
        · exact absurd hsame hk
        · exact absurd hcan hno
    · exact h.frozen k (fun hc => hk (hrisk k hc)) hcan
  · unfold Dispatched
    rw [hstatus]
    exact h.slot p k hk
  · obtain ⟨new, hlogs, haudit⟩ := h.audit
    refine ⟨new, hlogs, fun k hk => ?_⟩
    rw [hstatus]
    exact haudit k hk

/-- **A swap that succeeded.** The job was not cancelled, so the writes before it did no harm; its log entry is
    owed now. -/
theorem swap {now : Time} {new : JobStatus} {err rej : Option String} (h : Draft R risky owed b d)
    (hj : d.job id = some j) (hnew : new ∈ allowedJobTransitions j.status)
    (hR : ∀ a, R a j.status → R' a new ∧ a ≠ .cancelled) (hmono : ∀ a c, R a c → R' a c)
    (hrisk : ∀ k, risky = some k → k = id) (howed : ∀ k, owed = some k → k = id) :
    Draft R' none (some id) b (d.setJob id (j.transitioned now new err rej)) := by
  obtain ⟨i, hi, hst⟩ := h.source hj
  obtain ⟨hstep, hlive⟩ := hR _ hst
  -- one clause of the draft after the other, for the job and for the others
  have hother : ∀ k, k ≠ id → (d.setJob id (j.transitioned now new err rej)).job k = d.job k := fun k hk => by
    rw [Db.job_setJob, if_neg hk]
  have hself : (d.setJob id (j.transitioned now new err rej)).job id = some (j.transitioned now new err rej) := by
    rw [Db.job_setJob, if_pos rfl, hj, Option.map_some]
  have hstatus : ∀ k, k ≠ id → (d.setJob id (j.transitioned now new err rej)).statusOf k = d.statusOf k :=
    fun k hk => by rw [Db.statusOf, hother k hk, Db.statusOf]
  refine ⟨fun k i' hk => ?_, fun k hk => ?_, fun k _ hcan => ?_, fun p k hk => ?_, ?_⟩
  · by_cases hkid : k = id
    · subst hkid
      cases Option.some.inj (hi.symm.trans hk)
      exact ⟨_, hself, hstep⟩
    · obtain ⟨j', hj', hst'⟩ := h.row k i' hk
      exact ⟨j', (hother k hkid).trans hj', hmono _ _ hst'⟩
  · have hne : k ≠ id := by
      rintro rfl
      rw [hi] at hk
      cases hk
    exact (hother k hne).trans (h.absent k hk)
  · have hne : k ≠ id := by
      rintro rfl
      rw [Db.statusOf_eq hi] at hcan
      exact hlive (Option.some.inj hcan)
    exact (hother k hne).trans (h.frozen k (fun hc => hne (hrisk k hc)) hcan)
  · rcases h.slot p k hk with hold | ⟨st, hown, hst'⟩
    · exact .inl hold
    · by_cases hkid : k = id
      · subst hkid
        rw [Db.statusOf_eq hj] at hst'
        cases hst'
        exact .inr ⟨new, owning_closed hown hnew, Db.statusOf_eq hself⟩
      · exact .inr ⟨st, hown, (hstatus k hkid).trans hst'⟩
  · obtain ⟨new', hlogs, haudit⟩ := h.audit
    refine ⟨new', hlogs, fun k hk hne => ?_⟩
    have hkid : k ≠ id := fun hc => hk (congrArg some hc.symm)
    rw [hstatus k hkid] at hne
    exact haudit k (fun hc => hkid (howed k hc)) hne

/-- **A log entry** pays what is owed, if it names the job. -/
theorem log {e : LogEntry} (h : Draft R risky owed b d)
    (howed : ∀ k, owed = some k → owed' = some k ∨ e.jobId = some k) :
    Draft R risky owed' b (d.insertLog e) := by
  refine ⟨h.row, h.absent, h.frozen, h.slot, ?_⟩
  obtain ⟨new, hlogs, haudit⟩ := h.audit
  refine ⟨new ++ [e], ?_, fun k hk hne => ?_⟩
  · show d.logs ++ [e] = _
    rw [hlogs, List.append_assoc]
  · by_cases hc : owed = some k
    · rcases howed k hc with hc' | he
      · exact absurd hc' hk
      · exact ⟨e, List.mem_append_right _ (List.mem_singleton_self e), he⟩
    · obtain ⟨e', he', hid⟩ := haudit k hc hne
      exact ⟨e', List.mem_append_left _ he', hid⟩

/-- **A printer row** may be written if the slot is kept, freed, or given to a job that was sent to a
    printer. -/
theorem printer {g : PrinterState → PrinterState} (h : Draft R risky owed b d)
    (hg : ∀ st, (g st).currentJobId = st.currentJobId ∨ (g st).currentJobId = none ∨
      ∃ k, (g st).currentJobId = some k ∧ Dispatched d k) :
    Draft R risky owed b (d.modifyPrinter p g) := by
  refine ⟨h.row, h.absent, h.frozen, fun q k hk => ?_, h.audit⟩
  rw [Db.printers_modifyPrinter] at hk
  split at hk
  · next hq =>
      subst hq
      rcases hg (d.printers q) with hsame | hnone | ⟨k', hk', hown⟩
      · exact h.slot q k (hsame.symm.trans hk)
      · rw [hnone] at hk
        cases hk
      · cases Option.some.inj (hk'.symm.trans hk)
        exact .inr hown
  · exact h.slot q k hk

end Draft

/-! ## What other transactions do meanwhile -/

/-- Every slot is owned by a job that was sent to a printer. -/
def Owned (d : Db) : Prop := ∀ p k, (d.printers p).currentJobId = some k → Dispatched d k

/-- How the committed database moves, over any number of commits: no row disappears, every status goes along
    the graph, and the slots stay owned. -/
structure Later (a b : Db) : Prop where
  owned : Owned b
  row : ∀ k j, a.job k = some j → ∃ j', b.job k = some j' ∧
    Relation.ReflTransGen (fun s t => t ∈ allowedJobTransitions s) j.status j'.status

/-- What every commit keeps to. -/
structure Lawful (b d : Db) : Prop where
  row : ∀ k j, b.job k = some j → ∃ j', d.job k = some j' ∧
    (j'.status = j.status ∨ j'.status ∈ allowedJobTransitions j.status)
  born : ∀ k j', b.job k = none → d.job k = some j' → j'.status = .pending
  frozen : ∀ k, b.statusOf k = some .cancelled → d.job k = b.job k
  slot : ∀ p k, (d.printers p).currentJobId = some k → (b.printers p).currentJobId = some k ∨ Dispatched d k

/-- Every job whose status the commit changed has an entry among the ones it added. -/
def Audited (b d : Db) : Prop :=
  ∃ new, d.logs = b.logs ++ new ∧ ∀ k, d.statusOf k ≠ b.statusOf k → ∃ e ∈ new, e.jobId = some k

section later

variable {a b c : Db} {k : JobId}

/-- The slot discipline implies it. -/
theorem FloorInv.owned (h : FloorInv a.floor) : Owned a := by
  intro p k hk
  obtain ⟨j, hj, hs, -⟩ := h.owner p k hk
  exact ⟨j.status, hs, Db.statusOf_eq hj⟩

/-- A set of statuses that no edge leaves is never left. -/
theorem Later.closed {S : List JobStatus} (hS : ∀ st ∈ S, ∀ st' ∈ allowedJobTransitions st, st' ∈ S)
    (h : Later a b) (hk : ∃ st ∈ S, a.statusOf k = some st) : ∃ st ∈ S, b.statusOf k = some st := by
  obtain ⟨st, hst, hstatus⟩ := hk
  obtain ⟨j, hj, rfl⟩ := Option.map_eq_some_iff.mp hstatus
  obtain ⟨j', hj', hpath⟩ := h.row k j hj
  refine ⟨j'.status, ?_, Db.statusOf_eq hj'⟩
  generalize j'.status = last at hpath
  induction hpath with
  | refl => exact hst
  | tail _ hedge ih => exact hS _ ih _ hedge

theorem Later.dispatched (h : Later a b) (hk : Dispatched a k) : Dispatched b k :=
  h.closed (fun _ hst _ hedge => owning_closed hst hedge) hk

/-- A job that was sent to a printer is not cancelled. -/
theorem Dispatched.live (h : Dispatched a k) : a.statusOf k ≠ some .cancelled := by
  obtain ⟨st, hst, hstatus⟩ := h
  rw [hstatus]
  rintro ⟨⟩
  exact absurd hst (by decide)

theorem Later.refl (h : Owned a) : Later a a := ⟨h, fun _ j hj => ⟨j, hj, .refl⟩⟩

/-- **One more commit.** -/
theorem Later.grows (h : Later a b) (hG : Lawful b c) : Later a c := by
  have hrow : Later b c := by
    refine ⟨fun p k hk => ?_, fun k j hj => ?_⟩
    · rcases hG.slot p k hk with hold | hnew
      · obtain ⟨st, hst, hstatus⟩ := h.owned p k hold
        obtain ⟨j, hj, rfl⟩ := Option.map_eq_some_iff.mp hstatus
        obtain ⟨j', hj', hsame | hedge⟩ := hG.row k j hj
        · exact ⟨j'.status, hsame ▸ hst, Db.statusOf_eq hj'⟩
        · exact ⟨j'.status, owning_closed hst hedge, Db.statusOf_eq hj'⟩
      · exact hnew
    · obtain ⟨j', hj', hsame | hedge⟩ := hG.row k j hj
      · exact ⟨j', hj', by rw [hsame]⟩
      · exact ⟨j', hj', .single hedge⟩
  refine ⟨hrow.owned, fun k j hj => ?_⟩
  obtain ⟨j', hj', hp⟩ := h.row k j hj
  obtain ⟨j'', hj'', hp'⟩ := hrow.row k j' hj'
  exact ⟨j'', hj'', hp.trans hp'⟩

theorem Lawful.refl (a : Db) : Lawful a a where
  row _ j hj := ⟨j, hj, .inl rfl⟩
  born _ _ hk hj' := by rw [hk] at hj'; cases hj'
  frozen _ _ := rfl
  slot _ _ h := .inl h

theorem Audited.refl (a : Db) : Audited a a := ⟨[], (List.append_nil _).symm, fun _ hne => absurd rfl hne⟩

/-- A finished draft is lawful, -/
theorem Draft.lawful {R : JobStatus → JobStatus → Prop} {owed : Option JobId}
    (hR : ∀ s t, R s t → t = s ∨ t ∈ allowedJobTransitions s) (h : Draft R none owed b c) : Lawful b c where
  row k j hj := by
    obtain ⟨j', hj', hst⟩ := h.row k j hj
    exact ⟨j', hj', hR _ _ hst⟩
  born k j' hk hj' := by
    rw [h.absent k hk] at hj'
    cases hj'
  frozen k hcan := h.frozen k (by simp) hcan
  slot := h.slot

/-- and audited when nothing is owed. -/
theorem Draft.audited {R : JobStatus → JobStatus → Prop} {risky : Option JobId} (h : Draft R risky none b c) :
    Audited b c := by
  obtain ⟨new, hlogs, haudit⟩ := h.audit
  exact ⟨new, hlogs, fun k => haudit k (by simp)⟩

end later

/-! ## The operations of `Db.Crud` -/

section operations

variable {R R' : JobStatus → JobStatus → Prop} {risky risky' owed owed' : Option JobId} {v : View Db}
  {now : Time} {id : JobId} {p : PrinterID}

/-- An UPDATE is issued on a draft. -/
theorem Draft.updates {b d : Db} (hv : v.Sat (Draft R risky owed)) (hrefl : ∀ a, R a a)
    (hu : v.Updates Later b d) : Draft R risky owed b d :=
  hu.sat (fun _ => .start hrefl) hv

theorem Dispatched.stable {k : JobId} : ∀ a b : Db, Later a b → Dispatched a k → Dispatched b k :=
  fun _ _ hl hk => hl.dispatched hk

/-- Who owned the slot when the printer row was read was sent to a printer. -/
theorem getPrinterState_ensures {A : Db → Db → Prop} {d : Db} :
    (getPrinterState p).Ensures Later
      (fun st v' => v'.Sat A ∧ ∀ state k, st = some state → state.currentJobId = some k →
        Dispatched v'.base k) (.reading d) := by
  refine .select fun v' d' hs => ?_
  cases hs with
  | reading hl =>
      refine ⟨trivial, fun state k hst hk => ?_⟩
      cases hst
      exact hl.owned p k hk

theorem transition_update {loaded : Option Job} {expected : List JobStatus} {new : JobStatus}
    {err rej : Option String} (hedge : ∀ st ∈ expected, new ∈ allowedJobTransitions st) :
    ∃ w k, transitionJobStatus now loaded id expected new err rej = .update w k := by
  unfold transitionJobStatus
  rw [if_neg (by simpa using hedge)]
  exact ⟨_, _, rfl⟩

/-- **The swap** finishes the writes before it and owes a log entry. A lost one writes nothing. -/
theorem transition_along {loaded : Option Job} {expected : List JobStatus} {new : JobStatus}
    {err rej : Option String} (hv : v.Sat (Draft R risky owed)) (hrefl : ∀ a, R a a)
    (hR : ∀ a, ∀ st ∈ expected, new ∈ allowedJobTransitions st → R a st → R' a new ∧ a ≠ .cancelled)
    (hmono : ∀ a c, R a c → R' a c) (hrisk : ∀ k, risky = some k → k = id)
    (howed : ∀ k, owed = some k → k = id) :
    (transitionJobStatus now loaded id expected new err rej).Along Later
      (fun r v' => (∀ a, r = .ok a → v'.Sat (Draft R' none (some id)) ∧ v'.current.statusOf id = some new) ∧
        ∀ e, r = .error e → v'.Sat (Draft R risky owed)) v := by
  by_cases hedge : ∀ st ∈ expected, new ∈ allowedJobTransitions st
  · obtain ⟨w, k, hprog⟩ := transition_update hedge
    refine Txn.Along.of_update hprog fun b d hu => ?_
    have hd := Draft.updates hv hrefl hu
    by_cases hj : ∃ j, d.job id = some j ∧ j.status ∈ expected
    · obtain ⟨j, hj, hs⟩ := hj
      rw [transition_run now loaded expected new err rej hedge hj hs]
      refine ⟨fun a _ => ⟨?_, ?_⟩, nofun⟩
      · exact hd.swap hj (hedge _ hs) (fun a => hR a _ hs (hedge _ hs)) hmono hrisk howed
      · show (d.setJob id (j.transitioned now new err rej)).statusOf id = some new
        rw [Db.statusOf, Db.job_setJob, if_pos rfl, hj]
        rfl
    · push Not at hj
      obtain ⟨m, hm⟩ := transition_lost (d := d) now loaded expected new err rej hj
      rw [hm]
      refine ⟨fun a ha => ?_, fun _ _ => hd⟩
      cases ha
  · have hraise : ∃ e, transitionJobStatus now loaded id expected new err rej = throw e := by
      unfold transitionJobStatus
      rw [if_pos (by simpa using hedge)]
      exact ⟨_, rfl⟩
    obtain ⟨e, he⟩ := hraise
    rw [he]
    refine ⟨fun a ha => ?_, fun _ _ => hv⟩
    cases ha

theorem transition_ensures {loaded : Option Job} {expected : List JobStatus} {new : JobStatus}
    {err rej : Option String} (hv : v.Sat (Draft R risky owed)) (hrefl : ∀ a, R a a)
    (hR : ∀ a, ∀ st ∈ expected, new ∈ allowedJobTransitions st → R a st → R' a new ∧ a ≠ .cancelled)
    (hmono : ∀ a c, R a c → R' a c) (hrisk : ∀ k, risky = some k → k = id)
    (howed : ∀ k, owed = some k → k = id) :
    (transitionJobStatus now loaded id expected new err rej).Ensures Later
      (fun _ v' => v'.Sat (Draft R' none (some id)) ∧ v'.current.statusOf id = some new) v :=
  (transition_along hv hrefl hR hmono hrisk howed).mono fun _ _ hr a ha => hr.1 a ha

/-- A swap whose loss is caught. -/
theorem trySwap_ensures {job : Job} {expected new : JobStatus} {err : Option String}
    (hv : v.Sat (Draft R risky owed)) (hrefl : ∀ a, R a a)
    (hR : ∀ a, new ∈ allowedJobTransitions expected → R a expected → R' a new ∧ a ≠ .cancelled)
    (hmono : ∀ a c, R a c → R' a c)
    (hrisk : ∀ k, risky = some k → k = id) (howed : ∀ k, owed = some k → k = id) :
    (trySwap now job id expected new err).Ensures Later
      (fun swapped v' => if swapped then v'.Sat (Draft R' none (some id)) ∧ v'.current.statusOf id = some new
        else v'.Sat (Draft R risky owed)) v := by
  refine Txn.Along.tryCatch (Q := fun r v' =>
    (∀ swapped, r = .ok swapped → swapped = true ∧ v'.Sat (Draft R' none (some id)) ∧
      v'.current.statusOf id = some new) ∧ ∀ e, r = .error e → v'.Sat (Draft R risky owed)) ?_ ?_ ?_
  · refine Txn.Along.bind (transition_along hv hrefl ?_ hmono hrisk howed) ?_ ?_
    · intro a st hst
      rw [List.mem_singleton.mp hst]
      exact hR a
    · intro a v' hr
      refine ⟨fun swapped hs => ?_, nofun⟩
      cases hs
      exact ⟨rfl, hr.1 a rfl⟩
    · intro e v' hr
      exact ⟨nofun, fun e' _ => hr.2 e rfl⟩
  · intro swapped v' hr swapped' hs
    cases hs
    obtain ⟨rfl, hswapped⟩ := hr.1 swapped rfl
    exact hswapped
  · intro e v' hr
    have hkept := hr.2 e rfl
    cases e with
    | jobTransitionError m => exact Txn.Ensures.pure hkept
    | _ => exact Txn.Ensures.throw

theorem addLog_ensures {event message : String} {level : LogLevel} {jobId : Option JobId}
    {printerId : Option String} {extra : Option Analysis} (hv : v.Sat (Draft R risky owed))
    (hrefl : ∀ a, R a a) (howed : ∀ k, owed = some k → owed' = some k ∨ jobId = some k) :
    (addLog now event message level jobId printerId extra).Ensures Later
      (fun _ v' => v'.Sat (Draft R risky owed')) v := by
  refine .exec fun b d hu => ?_
  exact (Draft.updates hv hrefl hu).log howed

/-- **A flush of a job** that is not cancelled, or that a swap is still to protect. -/
theorem flushJob_ensures {loaded new : Job} {columns : Job → Job} (hv : v.Sat (Draft R risky owed))
    (hrefl : ∀ a, R a a) (hcol : ∀ cur, (columns cur).status = cur.status)
    (hrisk : ∀ k, risky = some k → risky' = some k) (hlive : risky' = some id ∨ Dispatched v.base id) :
    (flushJob id loaded new columns).Ensures Later (fun j v' => j = new ∧ v'.Sat (Draft R risky' owed)) v := by
  unfold flushJob
  refine .ite (fun heq => ?_) fun _ => ?_
  · exact .pure ⟨heq.symm, hv.mono fun b d hd => hd.weaken (fun _ _ h => h) hrisk fun _ h => h⟩
  · refine .bind (.exec (P := fun _ v' => v'.Sat (Draft R risky' owed)) fun b d hu => ?_) fun _ v' hv' =>
      .pure ⟨rfl, hv'⟩
    refine (Draft.updates hv hrefl hu).write hcol hrisk (hlive.imp_right fun hk => ?_)
    exact (hu.stable Dispatched.stable hk).live

theorem flushLive_ensures {loaded new : Job} {columns : Job → Job} (hv : v.Sat (Draft R none owed))
    (hrefl : ∀ a, R a a) (hcol : ∀ cur, (columns cur).status = cur.status) (hlive : Dispatched v.base id) :
    (flushJob id loaded new columns).Ensures Later (fun _ v' => v'.Sat (Draft R none owed)) v :=
  Txn.Ensures.mono (fun _ _ h => h.2) (flushJob_ensures hv hrefl hcol nofun (.inr hlive))

/-- What may become of a slot. -/
def SlotChange (v : View Db) (loaded new : PrinterState) : Prop :=
  new.currentJobId = loaded.currentJobId ∨ new.currentJobId = none ∨
    ∃ k, new.currentJobId = some k ∧ Dispatched v.current k

/-- **A flush of a printer row.** -/
theorem flushPrinter_ensures {loaded new : PrinterState} (hv : v.Sat (Draft R risky owed))
    (hrefl : ∀ a, R a a) (hslot : SlotChange v loaded new) :
    (flushPrinter p loaded new).Ensures Later (fun st v' => st = new ∧ v'.Sat (Draft R risky owed)) v := by
  unfold flushPrinter
  refine .ite (fun heq => .pure ⟨heq.symm, hv⟩) fun _ => ?_
  refine .bind (.exec (P := fun _ v' => v'.Sat (Draft R risky owed)) fun b d hu => ?_) fun _ v' hv' =>
    .pure ⟨rfl, hv'⟩
  refine (Draft.updates hv hrefl hu).printer fun st => ?_
  show ormColumn loaded.currentJobId new.currentJobId st.currentJobId = _ ∨
    ormColumn loaded.currentJobId new.currentJobId st.currentJobId = _ ∨ _
  by_cases hsame : new.currentJobId = loaded.currentJobId
  · exact .inl (if_pos hsame)
  · rcases hslot with hc | hnone | ⟨k, hk, hsent⟩
    · exact absurd hc hsame
    · exact .inr (.inl ((if_neg hsame).trans hnone))
    · have hsent' := hu.current (K := fun a => Dispatched a k) Dispatched.stable hsent
      exact .inr (.inr ⟨k, (if_neg hsame).trans hk, hsent'⟩)

theorem updatePrinterState_ensures {state : PrinterState} {set : PrinterState → PrinterState}
    (hv : v.Sat (Draft R risky owed)) (hrefl : ∀ a, R a a) (hslot : SlotChange v state (set state)) :
    (updatePrinterState now p state set).Ensures Later
      (fun st v' => st.currentJobId = (set state).currentJobId ∧ v'.Sat (Draft R risky owed)) v := by
  refine Txn.Ensures.mono (fun st v' hst => ?_)
    (flushPrinter_ensures hv hrefl hslot)
  obtain ⟨rfl, hv'⟩ := hst
  exact ⟨rfl, hv'⟩

theorem loadAndUpdatePrinterState_ensures {set : PrinterState → PrinterState}
    (hv : v.Sat (Draft R risky owed)) (hrefl : ∀ a, R a a)
    (hslot : ∀ v' state, v'.Sat (Draft R risky owed) → (∀ k, Dispatched v.current k → Dispatched v'.current k) →
      SlotChange v' state (set state)) :
    (loadAndUpdatePrinterState now p set).Ensures Later (fun _ v' => v'.Sat (Draft R risky owed)) v := by
  refine .bind (.select (P := fun st v' => st.isSome = true ∧ v'.Sat (Draft R risky owed) ∧
    ∀ k, Dispatched v.current k → Dispatched v'.current k) fun v' d hs => ?_) fun st v' hst => ?_
  · exact ⟨rfl, hs.sat hv, fun k hk => hs.current Dispatched.stable hk⟩
  · obtain ⟨hsome, hv', hk⟩ := hst
    cases st with
    | none => cases hsome
    | some state =>
        refine .bind (updatePrinterState_ensures hv' hrefl (hslot v' state hv' hk)) fun st v'' hst => ?_
        exact .pure hst.2

end operations

end BambuBabu
