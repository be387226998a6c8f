import BambuBabu.Core.Stamps
import BambuBabu.Core.Text
import BambuBabu.Db.Crud
import BambuBabu.Runs.Code
import BambuBabu.Storage.Files
import BambuBabu.Storage.Rotation

/-!
# `Db.Session` — the backup of `backend/db/session.py`

`backup_database` copies the database under a name that carries the time and then deletes all but the last names in
the order of the names. Every operation can raise (`BackupPoint`); what has been done by then stays done.

* `backupDatabase` — the function;
* `backupDatabase_triple` — **what it leaves** when it returns.
-/

namespace BambuBabu

open Storage Runs

variable {φ : Type}

/-- The files in `DB_BACKUP_DIR`: complete copies, or `none` for one that was not finished. -/
abbrev BackupFiles (φ : Type) := Files String (Option φ)

/-- The file at `DB_PATH`, if there is one, and the backups. -/
structure BackupHost (φ : Type) where
  database : Option φ
  backups : BackupFiles φ

/-- `DB_BACKUP_KEEP: int = Field(14, gt=0)` -/
structure BackupSettings where
  dbBackupKeep : Nat
  keep_pos : 0 < dbBackupKeep

/-- Where the backup can raise. -/
inductive BackupPoint where
  | mkdir
  /-- Opening the database and the new file. -/
  | connect
  /-- `source.backup(target)` -/
  | backup
  | chmod | glob
  | unlink (name : String)
  deriving DecidableEq

/-- `f"bambubabu-{stamp}.db"` -/
def backupName (now : UtcTime) : String := "bambubabu-" ++ String.ofList now.strftime ++ ".db"

/-- What `DB_BACKUP_DIR.glob("bambubabu-*.db")` finds. -/
def globBackups (files : BackupFiles φ) : List String :=
  files.keys.filter fun name => startsWith "bambubabu-" name && endsWith ".db" name

variable (fails : BackupPoint → Option Exc)

/-- `for expired in …: expired.unlink(missing_ok=True)` -/
def unlinkExpired : List String → Code (BackupHost φ) Exc Unit
  | [] => return ()
  | expired :: rest => do
      Code.attempt fails (.unlink expired)
      .assign fun h => { h with backups := h.backups.erase expired }
      unlinkExpired rest

/-- Create a consistent SQLite backup without stopping the application. -/
def backupDatabase (cfg : BackupSettings) (now : UtcTime) : Code (BackupHost φ) Exc (Option String) := do
  match ← .act fun h => (.ok h.database, h) with
  | none => return none
  | some content =>
      Code.attempt fails .mkdir
      let destination := backupName now
      Code.attempt fails .connect
      .assign fun h => { h with backups := h.backups.insert destination none }
      Code.attempt fails .backup
      .assign fun h => { h with backups := h.backups.insert destination (some content) }
      Code.attempt fails .chmod
      Code.attempt fails .glob
      let backups ← .act fun h => (.ok (descending (globBackups h.backups)), h)
      unlinkExpired fails (backups.drop cfg.dbBackupKeep)
      return some destination

/-! ## What the names say -/

variable {fails} {files : BackupFiles φ} {name : String} {t u now : UtcTime} {cfg : BackupSettings}

theorem toList_backupName (t : UtcTime) :
    (backupName t).toList = "bambubabu-".toList ++ (t.strftime ++ ".db".toList) := by
  have hstamp : (String.ofList t.strftime).toList = t.strftime := String.toList_ofList
  unfold backupName
  rw [String.toList_append, String.toList_append, hstamp, List.append_assoc]

/-- **The names are ordered as the times are.** -/
theorem backupName_lt_iff : backupName t < backupName u ↔ t.Before u := by
  have hlength : t.strftime.length = u.strftime.length := by
    rw [UtcTime.length_strftime, UtcTime.length_strftime]
  rw [String.lt_iff_toList_lt, toList_backupName, toList_backupName, append_lt_append_iff rfl,
    append_lt_append_iff hlength, UtcTime.strftime_lt_iff]
  simp only [List.lt_irrefl, and_false, or_false, false_or, true_and]

theorem backupName_inj (h : backupName t = backupName u) : t = u := by
  have htext : "bambubabu-".toList ++ (t.strftime ++ ".db".toList)
      = "bambubabu-".toList ++ (u.strftime ++ ".db".toList) := by
    rw [← toList_backupName, ← toList_backupName, h]
  exact UtcTime.strftime_inj (List.append_left_injective _ (List.append_cancel_left htext))

/-- A name with a stamp is found. -/
theorem isBackup_backupName (t : UtcTime) :
    (startsWith "bambubabu-" (backupName t) && endsWith ".db" (backupName t)) = true := by
  unfold startsWith endsWith
  rw [Bool.and_eq_true, List.isPrefixOf_iff_prefix, List.isSuffixOf_iff_suffix, toList_backupName]
  refine ⟨List.prefix_append _ _, ?_⟩
  exact List.suffix_append_of_suffix (List.suffix_append _ _)

theorem mem_globBackups : name ∈ globBackups files ↔
    name ∈ files ∧ (startsWith "bambubabu-" name && endsWith ".db" name) = true := by
  unfold globBackups
  rw [List.mem_filter, AList.mem_keys]

theorem backupName_mem_glob : backupName t ∈ globBackups files ↔ backupName t ∈ files := by
  rw [mem_globBackups, and_iff_left (isBackup_backupName t)]

theorem nodup_globBackups (files : BackupFiles φ) : (globBackups files).Nodup := files.keys_nodup.filter _

/-! ## What is left -/

/-- The backups after the new one was written. -/
def withNew (h : BackupHost φ) (now : UtcTime) (content : φ) : BackupFiles φ :=
  h.backups.insert (backupName now) (some content)

/-- **The names in the directory after the deletion** of all but the first `keep`. -/
theorem mem_glob_rotated {keep : Nat} :
    name ∈ globBackups (files.eraseAll ((descending (globBackups files)).drop keep)) ↔
      name ∈ globBackups files ∧ (globBackups files).countP (name < ·) < keep := by
  rw [mem_globBackups, Files.mem_eraseAll, mem_drop_descending (nodup_globBackups files), and_right_comm,
    ← mem_globBackups, not_and, Nat.not_le]
  exact and_congr_right fun hmem => ⟨fun h => h hmem, fun h _ => h⟩

/-- Their number. -/
theorem length_glob_rotated {keep : Nat} :
    (globBackups (files.eraseAll ((descending (globBackups files)).drop keep))).length
      = min keep (globBackups files).length := by
  have hperm : (globBackups (files.eraseAll ((descending (globBackups files)).drop keep))).Perm
      ((descending (globBackups files)).take keep) := by
    have hsorted : (descending (globBackups files)).Nodup :=
      (descending_perm _).nodup_iff.mpr (nodup_globBackups files)
    refine (List.perm_ext_iff_of_nodup (nodup_globBackups _) (hsorted.sublist (List.take_sublist _ _))).mpr ?_
    intro name
    rw [mem_glob_rotated, mem_take_descending (nodup_globBackups files)]
  rw [hperm.length_eq, List.length_take, length_descending]

/-- The new name joins the others. -/
theorem glob_withNew {h : BackupHost φ} {content : φ} (hnew : backupName now ∉ globBackups h.backups) :
    (globBackups (withNew h now content)).Perm (backupName now :: globBackups h.backups) := by
  have hcons : (backupName now :: globBackups h.backups).Nodup :=
    List.nodup_cons.mpr ⟨hnew, nodup_globBackups h.backups⟩
  refine (List.perm_ext_iff_of_nodup (nodup_globBackups _) hcons).mpr fun name => ?_
  rw [mem_globBackups, withNew, AList.mem_insert, List.mem_cons, mem_globBackups]
  constructor
  · rintro ⟨rfl | hmem, hname⟩
    · exact .inl rfl
    · exact .inr ⟨hmem, hname⟩
  · rintro (rfl | ⟨hmem, hname⟩)
    · exact ⟨.inl rfl, isBackup_backupName now⟩
    · exact ⟨.inr hmem, hname⟩

theorem unlinkExpired_triple : ∀ {expired : List String} {h₀ : BackupHost φ},
    Code.Triple (· = h₀) (unlinkExpired fails expired)
      (fun _ h => h = { h₀ with backups := h₀.backups.eraseAll expired }) (fun _ _ => True)
  | [], h₀ => Code.Triple.pure fun _ hh => hh
  | name :: rest, h₀ => by
      apply (Code.Triple.attempt fun _ _ _ => trivial).bind
      intro _
      apply Code.Triple.bind (Q := fun _ h => h = { h₀ with backups := h₀.backups.erase name })
      · apply Code.Triple.assign
        rintro h rfl
        rfl
      · intro _
        exact unlinkExpired_triple

/-- **What the function leaves**: without a database everything as it was, otherwise the new backup among those that
    are kept. -/
theorem backupDatabase_triple (h₀ : BackupHost φ) : Code.Triple (· = h₀) (backupDatabase fails cfg now)
    (fun result h => match result with
      | none => h₀.database = none ∧ h = h₀
      | some destination => destination = backupName now ∧ ∃ content, h₀.database = some content ∧
          h.backups = (withNew h₀ now content).eraseAll
            ((descending (globBackups (withNew h₀ now content))).drop cfg.dbBackupKeep))
    (fun _ _ => True) := by
  unfold backupDatabase
  apply Code.Triple.bind (Q := fun database h => database = h₀.database ∧ h = h₀)
  · apply Code.Triple.act_ok
    rintro h rfl
    exact ⟨rfl, rfl⟩
  rintro (_ | content)
  · exact Code.Triple.pure fun h ⟨hnone, hh⟩ => ⟨hnone.symm, hh⟩
  apply (Code.Triple.attempt fun _ _ _ => trivial).bind
  intro _
  apply (Code.Triple.attempt fun _ _ _ => trivial).bind
  intro _
  -- the new file, first empty
  apply Code.Triple.bind (Q := fun _ h => some content = h₀.database ∧
    h = { h₀ with backups := h₀.backups.insert (backupName now) none })
  · apply Code.Triple.assign
    rintro h ⟨hdb, rfl⟩
    exact ⟨hdb, rfl⟩
  intro _
  apply (Code.Triple.attempt fun _ _ _ => trivial).bind
  intro _
  apply Code.Triple.bind (Q := fun _ h => some content = h₀.database ∧
    h = { h₀ with backups := withNew h₀ now content })
  · apply Code.Triple.assign
    rintro h ⟨hdb, rfl⟩
    refine ⟨hdb, ?_⟩
    rw [AList.insert_insert, withNew]
  intro _
  apply (Code.Triple.attempt fun _ _ _ => trivial).bind
  intro _
  apply (Code.Triple.attempt fun _ _ _ => trivial).bind
  intro _
  apply Code.Triple.bind (Q := fun sorted h => some content = h₀.database ∧
    h = { h₀ with backups := withNew h₀ now content } ∧
    sorted = descending (globBackups (withNew h₀ now content)))
  · apply Code.Triple.act_ok
    rintro h ⟨hdb, rfl⟩
    exact ⟨hdb, rfl, rfl⟩
  intro sorted
  apply Code.Triple.bind (Q := fun _ h => some content = h₀.database ∧ h.backups =
    (withNew h₀ now content).eraseAll
      ((descending (globBackups (withNew h₀ now content))).drop cfg.dbBackupKeep))
  · constructor
    · rintro h a h' ⟨hdb, rfl, rfl⟩ hr
      rw [unlinkExpired_triple.returns _ _ _ rfl hr]
      exact ⟨hdb, rfl⟩
    · exact fun _ _ _ _ _ => trivial
  intro _
  exact Code.Triple.pure fun h ⟨hdb, hbackups⟩ => ⟨rfl, content, hdb.symm, hbackups⟩

/-! ## A backup without failures -/

theorem exec_unlinkExpired (hnone : ∀ p, fails p = none) : ∀ (expired : List String) (h : BackupHost φ),
    (unlinkExpired fails expired).exec h = (.ok (), { h with backups := h.backups.eraseAll expired })
  | [], h => rfl
  | name :: rest, h => by
      rw [unlinkExpired, Code.exec_bind_of_ok (Code.exec_attempt_of_none (hnone _) h),
        Code.exec_bind_of_ok (Code.exec_assign _ h), exec_unlinkExpired hnone rest]
      rfl

/-- It returns the path of the new backup. -/
theorem exec_backupDatabase {h : BackupHost φ} {content : φ} (hnone : ∀ p, fails p = none)
    (hdb : h.database = some content) :
    (backupDatabase fails cfg now).exec h = (.ok (some (backupName now)),
      ⟨h.database, (withNew h now content).eraseAll
        ((descending (globBackups (withNew h now content))).drop cfg.dbBackupKeep)⟩) := by
  unfold backupDatabase
  rw [Code.exec_bind, Code.exec_act, hdb]
  simp only
  rw [Code.exec_bind_of_ok (Code.exec_attempt_of_none (hnone _) _),
    Code.exec_bind_of_ok (Code.exec_attempt_of_none (hnone _) _), Code.exec_bind_of_ok (Code.exec_assign _ _),
    Code.exec_bind_of_ok (Code.exec_attempt_of_none (hnone _) _), Code.exec_bind_of_ok (Code.exec_assign _ _),
    Code.exec_bind_of_ok (Code.exec_attempt_of_none (hnone _) _),
    Code.exec_bind_of_ok (Code.exec_attempt_of_none (hnone _) _), Code.exec_bind, Code.exec_act]
  simp only [AList.insert_insert]
  rw [Code.exec_bind_of_ok (exec_unlinkExpired hnone _ _), Code.exec_pure]
  simp only [hdb, withNew]

end BambuBabu
