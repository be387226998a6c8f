import BambuBabu.Db.Session

/-!
# `Correctness.BackupRotation` — what is left after a backup

`backup_database` expires files by the order of their names, without knowing which one it has just written. With a
clock behind the stamps of `DB_BACKUP_KEEP` existing backups, the new one comes last and is deleted itself; its path
is returned all the same.

* `Rotated` — the new backup is there, and the newest ones besides, as many as may remain;
* `backup_rotation_iff` — **exactly when it holds**: fewer than `DB_BACKUP_KEEP` backups carry a later stamp.

The number of backups and the choice among the previous ones are right in every case
(`length_glob_rotated`, `mem_glob_rotated`); what the condition decides is the new file.
-/

namespace BambuBabu

open Storage Runs

variable {φ : Type} {fails : BackupPoint → Option Exc} {cfg : BackupSettings} {now : UtcTime} {h h' : BackupHost φ}
  {destination : String} {stamps : List UtcTime} {content : φ}

/-- After a rotation that made `destination` it is there, as many backups remain as may, and the others are the newest
    of the previous ones. -/
structure Rotated (keep : Nat) (before after : BackupFiles φ) (destination : String) : Prop where
  kept : destination ∈ after
  count : (globBackups after).length = min ((globBackups before).length + 1) keep
  previous : ∀ name ∈ globBackups after, name = destination ∨ name ∈ globBackups before
  newest : ∀ t u : UtcTime, backupName t ∈ globBackups before → backupName u ∈ globBackups before → t.Before u →
    backupName t ∈ after → backupName u ∈ after

/-- A clock value that no existing backup carries gives a new name. -/
theorem backupName_fresh (hstamps : (globBackups h.backups).Perm (stamps.map backupName)) (hnew : now ∉ stamps) :
    backupName now ∉ globBackups h.backups := by
  intro hmem
  obtain ⟨t, ht, hname⟩ := List.mem_map.mp (hstamps.mem_iff.mp hmem)
  exact hnew (backupName_inj hname ▸ ht)

/-- The backups that come before the new one in the order of deletion are those with a later stamp. -/
theorem later_count (hstamps : (globBackups h.backups).Perm (stamps.map backupName)) (hnew : now ∉ stamps) :
    (globBackups (withNew h now content)).countP (backupName now < ·) = stamps.countP (now.Before ·) := by
  have hself : ¬ backupName now < backupName now := lt_irrefl _
  rw [(glob_withNew (backupName_fresh hstamps hnew)).countP_eq, List.countP_cons, hstamps.countP_eq, List.countP_map]
  simp only [hself, decide_false, Bool.false_eq_true, if_false, Nat.add_zero]
  refine List.countP_congr fun t _ => ?_
  simp only [Function.comp_apply, decide_eq_true_eq]
  exact backupName_lt_iff

theorem backup_rotation_iff (hstamps : (globBackups h.backups).Perm (stamps.map backupName)) (hnew : now ∉ stamps)
    (hrun : (backupDatabase fails cfg now).exec h = (.ok (some destination), h')) :
    Rotated cfg.dbBackupKeep h.backups h'.backups destination ↔
      stamps.countP (now.Before ·) < cfg.dbBackupKeep := by
  obtain ⟨rfl, content, -, hleft⟩ := (backupDatabase_triple h).returns h _ h' rfl hrun
  have hfresh := backupName_fresh hstamps hnew
  have hglob : ∀ name, name ∈ globBackups (withNew h now content) ↔
      name = backupName now ∨ name ∈ globBackups h.backups := by
    intro name
    rw [(glob_withNew hfresh).mem_iff, List.mem_cons]
  have hafter : ∀ name, name ∈ globBackups h'.backups ↔ name ∈ globBackups (withNew h now content) ∧
      (globBackups (withNew h now content)).countP (name < ·) < cfg.dbBackupKeep := by
    intro name
    rw [hleft]
    exact mem_glob_rotated
  have hkept : backupName now ∈ h'.backups ↔ stamps.countP (now.Before ·) < cfg.dbBackupKeep := by
    rw [← backupName_mem_glob, hafter, later_count hstamps hnew]
    exact and_iff_right ((hglob _).mpr (.inl rfl))
  constructor
  · intro hrotated
    exact hkept.mp hrotated.kept
  · intro hcount
    refine ⟨hkept.mpr hcount, ?_, ?_, ?_⟩
    · rw [hleft, length_glob_rotated, (glob_withNew hfresh).length_eq, List.length_cons, Nat.min_comm]
    · intro name hname
      exact (hglob name).mp ((hafter name).mp hname).1
    · -- a later stamp has no more names above it
      intro t u _ hu hbefore ht
      have hpast := ((hafter _).mp (backupName_mem_glob.mpr ht)).2
      have hle : (globBackups (withNew h now content)).countP (backupName u < ·)
          ≤ (globBackups (withNew h now content)).countP (backupName t < ·) :=
        countP_le_of_lt (backupName_lt_iff.mpr hbefore)
      exact backupName_mem_glob.mp ((hafter _).mpr ⟨(hglob _).mpr (.inr hu), hle.trans_lt hpast⟩)

namespace Script

/-- A time in the middle of a day. -/
def atSecond (year month day second : Nat) (hy : 1970 ≤ year := by decide) (hy' : year ≤ 9999 := by decide)
    (hm : 1 ≤ month := by decide) (hm' : month ≤ 12 := by decide) (hd : 1 ≤ day := by decide)
    (hd' : day ≤ 31 := by decide) (hs : second < 60 := by decide) : UtcTime :=
  ⟨year, month, day, 12, 30, second, 500000, hy, hy', hm, hm', hd, hd', by decide, by decide, hs, by decide⟩

/-- The clock of a board that has just been switched on. -/
def powerOn : UtcTime := atSecond 1970 1 1 17

def august : List UtcTime := [atSecond 2026 8 20 0, atSecond 2026 8 21 0]

/-- Two backups from August. -/
def backedUp : BackupHost Unit where
  database := some ()
  backups := (august.map backupName).foldr (fun name files => files.insert name (some ())) ∅

def keepTwo : BackupSettings := ⟨2, by decide⟩

/-- The state after a backup without failures. -/
def backupAt (now : UtcTime) : BackupHost Unit := ((backupDatabase (fun _ => none) keepTwo now).exec backedUp).2

theorem exec_backedUp (now : UtcTime) :
    (backupDatabase (fun _ => none) keepTwo now).exec backedUp = (.ok (some (backupName now)), backupAt now) := by
  have hdatabase : backedUp.database = some () := rfl
  unfold backupAt
  rw [exec_backupDatabase (fun _ => rfl) hdatabase]

end Script

/-- A new stamp takes the place of the oldest one. -/
theorem rotation_by_date : (Script.backupAt (Script.atSecond 2026 8 22 0)).backups.keys
      = [Script.atSecond 2026 8 22 0, Script.atSecond 2026 8 21 0].map backupName ∧
    Rotated 2 Script.backedUp.backups (Script.backupAt (Script.atSecond 2026 8 22 0)).backups
      (backupName (Script.atSecond 2026 8 22 0)) := by
  refine ⟨by decide +kernel, ?_⟩
  have hstamps : (globBackups Script.backedUp.backups).Perm (Script.august.map backupName) := by decide +kernel
  have hnew : Script.atSecond 2026 8 22 0 ∉ Script.august := by decide +kernel
  have hiff := backup_rotation_iff hstamps hnew (Script.exec_backedUp _)
  exact hiff.mpr (by decide +kernel)

/-- Before the clock is set, the backup that has just been made is the one that goes. -/
theorem rotation_at_power_on : ¬ ∀ (fails : BackupPoint → Option Exc) (cfg : BackupSettings) (now : UtcTime)
    (h h' : BackupHost Unit) (destination : String) (stamps : List UtcTime),
    (globBackups h.backups).Perm (stamps.map backupName) → now ∉ stamps →
    (backupDatabase fails cfg now).exec h = (.ok (some destination), h') →
    Rotated cfg.dbBackupKeep h.backups h'.backups destination := by
  intro hall
  have hrotated := hall (fun _ => none) Script.keepTwo Script.powerOn Script.backedUp
    (Script.backupAt Script.powerOn) (backupName Script.powerOn) Script.august (by decide +kernel)
    (by decide +kernel) (Script.exec_backedUp _)
  exact absurd hrotated.kept (by decide +kernel)

end BambuBabu
