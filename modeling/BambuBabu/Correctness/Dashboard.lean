import BambuBabu.Correctness.Retention
import BambuBabu.Frontend.App

/-!
# `Correctness.Dashboard` — can a stored text get into the markup of the dashboard?

The dashboard writes names, file names, error texts and log messages into `innerHTML`, next to ids, labels and numbers
that it does not escape. Whatever the database holds in a state that the service reaches, the three lists consist of
their blocks and show the texts as texts.

* `Reads` — a rendered list is read as it was put together;
* `JobDict.blanked`, `LogDict.blanked` — a row without its texts;
* `dashboard_markup` — **the theorem**.
-/

namespace BambuBabu

open Storage Runs

namespace App

open Api Text Text.Html

/-! ## Reading a list -/

/-- The list, written with its values, is read as the blocks it was put together of, with the values as they are. -/
abbrev Reads (t : Template Shown) : Prop := Template.Reads .standard t Shown.raw (t.render Shown.written)

/-- A list whose values that are not escaped are plain. -/
def Tame (t : Template Shown) : Prop := ∀ s, .hole (.plain s) ∈ t → Verbatim s

theorem knows_jsEscape : CharRefs.standard.Knows jsEscape := by
  unfold CharRefs.Knows
  decide

theorem Reads.of_whole {t : Template Shown} (hwhole : t.Whole) (htame : Tame t) : Reads t := by
  apply hwhole.reads
  intro v hv
  cases v with
  | escaped s =>
      simp only [Shown.written, Shown.raw, esc, String.toList_ofList]
      exact ⟨jsEscape.inert_escape _, CharRefs.decode_escape knows_jsEscape _⟩
  | plain s =>
      obtain ⟨hinert, hamp⟩ := htame s hv
      exact ⟨hinert, fun rest => CharRefs.decode_append_plain hamp⟩

theorem Tame.flatMap {α : Type} {rows : List α} {f : α → Template Shown} (h : ∀ a ∈ rows, Tame (f a)) :
    Tame (rows.flatMap f) := by
  intro s hs
  obtain ⟨a, ha, hmem⟩ := List.mem_flatMap.mp hs
  exact h a ha s hmem

theorem Tame.fill {ι : Type} {t : Template ι} {f : ι → Shown} (h : ∀ i s, f i = .plain s → Verbatim s) :
    Tame (t.fill f) := by
  intro s hs
  obtain ⟨i, -, hi⟩ := Template.mem_fill hs
  exact h i s hi

theorem emptyState_tame (icon text : String) : Tame (emptyState icon text) := by
  intro s hs
  simp [emptyState] at hs

/-! ## Verbatim values -/

/-- Nothing in an id needs escaping. -/
theorem shortId_verbatim {id : JobId} (h : IsUuid id) : Verbatim (shortId id) := by
  rw [verbatim_iff]
  intro c hc hbad
  have hmem : c ∈ id.toList := by
    unfold shortId at hc
    rw [String.toList_ofList] at hc
    exact List.mem_of_mem_take hc
  refine h.notMem ?_ hmem
  simp only [delimiters, List.mem_cons, List.not_mem_nil, or_false] at hbad
  rcases hbad with rfl | rfl | rfl | rfl | rfl <;> decide

variable {b : Browser}

theorem timeAgo_verbatim (t : Time) : Verbatim (timeAgo b t) := by
  unfold timeAgo
  dsimp only
  split
  · exact (b.number_verbatim _).append (by decide)
  · split
    · exact (b.number_verbatim _).append (by decide)
    · split
      · exact (b.number_verbatim _).append (by decide)
      · exact (b.number_verbatim _).append (by decide)

theorem jobValue_verbatim {j : JobDict} (hid : IsUuid j.id) (i : JobField) (s : String) (h : jobValue b j i = .plain s) :
    Verbatim s := by
  cases i with
  | filename | userName | errorMessage | rejectionReason => cases h
  | status =>
      cases h
      cases j.status <;> decide
  | printerLabel =>
      cases h
      rcases j.assignedPrinter with _ | _ | _ <;> decide
  | score =>
      cases h
      exact Verbatim.append (by decide) (b.toFixed_verbatim _ _)
  | estTime =>
      cases h
      exact (Verbatim.append (by decide) (b.number_verbatim _)).append (by decide)
  | submitted =>
      cases h
      exact Verbatim.append (by decide) (timeAgo_verbatim _)
  | progress =>
      cases h
      exact b.number_verbatim _
  | shortId =>
      cases h
      exact shortId_verbatim hid

/-- The words that a printer's status may be. -/
def statusWords : List String := ["disabled", "idle", "printing", "paused", "error", "offline", "finished"]

theorem printerValue_verbatim {p : PrinterDict} (hstatus : p.status ∈ statusWords)
    (hid : ∀ id, p.currentJobId = some id → IsUuid id) (i : PrinterField) (s : String)
    (h : printerValue b p i = .plain s) : Verbatim s := by
  have hword : Verbatim p.status := (by decide : ∀ w ∈ statusWords, Verbatim w) _ hstatus
  cases i with
  | name => cases h
  | printerId =>
      cases h
      cases p.printerId <;> decide
  | status =>
      cases h
      exact hword
  | cardClass =>
      cases h
      split <;> decide
  | badge =>
      cases h
      split
      · split
        · exact hword
        · decide
      · decide
  | progress =>
      cases h
      exact b.number_verbatim _
  | shortJobId =>
      cases h
      cases hjob : p.currentJobId with
      | none => exact (by decide : Verbatim (shortId ""))
      | some id => exact shortId_verbatim (hid id hjob)
  | nozzle | bed =>
      cases h
      split
      · exact b.toFixed_verbatim _ _
      · decide
  | connectionColor | plateColor =>
      cases h
      split <;> decide
  | connection | plate =>
      cases h
      split
      · split <;> decide
      · decide

theorem logValue_verbatim {l : LogDict} (i : LogField) (s : String) (h : logValue b l i = .plain s) : Verbatim s := by
  cases i with
  | event | message => cases h
  | time =>
      cases h
      exact b.localeTime_verbatim _
  | level =>
      cases h
      cases l.level <;> decide

/-! ## The lists -/

theorem mem_filteredJobs {currentFilter : String} {rows : List JobDict} {j : JobDict}
    (h : j ∈ filteredJobs currentFilter rows) : j ∈ rows := by
  unfold filteredJobs at h
  split at h
  · exact h
  · exact List.mem_of_mem_filter h

theorem renderJobs_reads (currentFilter : String) {rows : List JobDict} (hid : ∀ j ∈ rows, IsUuid j.id) :
    Reads (renderJobs b currentFilter rows) := by
  refine .of_whole (renderJobs_whole ..) ?_
  unfold renderJobs
  split
  · exact emptyState_tame _ _
  · exact .flatMap fun j hj => .fill (jobValue_verbatim (hid j (mem_filteredJobs hj)))

theorem renderPrinters_reads {rows : List PrinterDict} (hstatus : ∀ p ∈ rows, p.status ∈ statusWords)
    (hid : ∀ p ∈ rows, ∀ id, p.currentJobId = some id → IsUuid id) : Reads (renderPrinters b rows) :=
  .of_whole (renderPrinters_whole _) (.flatMap fun p hp => .fill (printerValue_verbatim (hstatus p hp) (hid p hp)))

theorem renderLogs_reads (rows : List LogDict) : Reads (renderLogs b rows) := by
  refine .of_whole (renderLogs_whole _) ?_
  unfold renderLogs
  split
  · exact emptyState_tame _ _
  · exact .flatMap fun l _ => .fill logValue_verbatim

/-! ## Rows without their texts -/

/-- What is left of an optional text: that there is one. -/
def blanked (s : Option String) : Option String := s.map fun t => if t = "" then "" else "x"

theorem truthy_blanked (s : Option String) : truthy (blanked s) = truthy s := by
  cases s with
  | none => rfl
  | some t =>
      by_cases ht : t = ""
      · simp [truthy, blanked, ht]
      · simp [truthy, blanked, ht]

end App

namespace Api

/-- The job without what its customer and the tools wrote. -/
def JobDict.blanked (j : JobDict) : JobDict :=
  { j with userName := "", originalFilename := "", description := none,
           errorMessage := App.blanked j.errorMessage, rejectionReason := App.blanked j.rejectionReason }

/-- The entry without its texts. -/
def LogDict.blanked (l : LogDict) : LogDict := { l with event := "", message := "" }

end Api

namespace App

open Api Text Text.Html

variable {b : Browser}

theorem jobCard_blanked (j : JobDict) : jobCard j.blanked = jobCard j := by
  simp only [jobCard, JobDict.blanked, truthy_blanked]
  rfl

theorem filteredJobs_blanked (currentFilter : String) (rows : List JobDict) :
    filteredJobs currentFilter (rows.map JobDict.blanked) = (filteredJobs currentFilter rows).map JobDict.blanked := by
  unfold filteredJobs
  split
  · rfl
  · rw [List.filter_map]
    rfl

/-- The blocks of the list are those of its rows. -/
theorem renderJobs_blanked (currentFilter : String) (rows : List JobDict) :
    (renderJobs b currentFilter (rows.map JobDict.blanked)).markup .text = (renderJobs b currentFilter rows).markup .text := by
  unfold renderJobs
  rw [filteredJobs_blanked, List.isEmpty_map]
  split
  · rfl
  · rw [List.flatMap_map, Template.markup_flatMap fun j _ => (jobCard_whole _).fill _,
      Template.markup_flatMap fun j _ => (jobCard_whole j).fill _]
    simp only [Template.markup_fill, jobCard_blanked]

theorem renderLogs_blanked (rows : List LogDict) :
    (renderLogs b (rows.map LogDict.blanked)).markup .text = (renderLogs b rows).markup .text := by
  unfold renderLogs
  rw [List.isEmpty_map]
  split
  · rfl
  · rw [List.flatMap_map, Template.markup_flatMap fun l _ => logEntry_whole.fill _,
      Template.markup_flatMap fun l _ => logEntry_whole.fill _]
    simp only [Template.markup_fill]

/-! ## The dashboard -/

/-- What is assigned to `innerHTML`. -/
def innerHTML (t : Template Shown) : List Char := (t.render Shown.written).toList

variable {s : Service}

theorem mem_listJobs {d : Db} {limit : Nat} {j : JobDict} (h : j ∈ listJobs d limit) : ∃ job, d.job j.id = some job := by
  obtain ⟨row, hrow, rfl⟩ := List.mem_map.mp h
  exact ⟨row.2, (mem_jobsWhere.mp (List.mem_of_mem_take hrow)).1⟩

theorem getPrinters_status {cfg : Settings} {live : PrinterID → BambuPrinter} {d : Db} {p : PrinterDict}
    (h : p ∈ getPrinters cfg live d) : p.status ∈ statusWords := by
  obtain ⟨q, -, rfl⟩ := List.mem_map.mp h
  unfold printerDict
  dsimp only
  split
  · show (live q).status.value ∈ statusWords
    cases (live q).status <;> decide
  · exact List.mem_cons_self

theorem getPrinters_currentJobId {cfg : Settings} {live : PrinterID → BambuPrinter} {d : Db} {p : PrinterDict}
    (h : p ∈ getPrinters cfg live d) : p.currentJobId = (d.printers p.printerId).currentJobId := by
  obtain ⟨q, -, rfl⟩ := List.mem_map.mp h
  unfold printerDict
  dsimp only
  split <;> rfl

/-- **No stored text gets into the markup of the dashboard**: in every state that the service reaches, the three lists
    are read as the blocks they were put together of, with the texts as texts, and their markup is that of the same
    rows without any text of a customer, a tool or a log message. -/
theorem dashboard_markup (hr : service.Reach uuidNames s) (b : Browser) (currentFilter : String) :
    let jobs := listJobs s.db 100
    let printers := getPrinters s.settings s.live s.db
    let logs := getLogs s.db 80
    (Reads (renderJobs b currentFilter jobs) ∧ Reads (renderPrinters b printers) ∧ Reads (renderLogs b logs)) ∧
      Html.markup .text (innerHTML (renderJobs b currentFilter jobs)) =
        Html.markup .text (innerHTML (renderJobs b currentFilter (jobs.map JobDict.blanked))) ∧
      Html.markup .text (innerHTML (renderLogs b logs)) =
        Html.markup .text (innerHTML (renderLogs b (logs.map LogDict.blanked))) := by
  intro jobs printers logs
  have hN := fileNames_of_reach hr
  have hI := (disciplined_of_reach hr).floor
  have hjobs : ∀ j ∈ jobs, IsUuid j.id := by
    intro j hj
    obtain ⟨job, hjob⟩ := mem_listJobs hj
    exact (hN.rows j.id job hjob).uuid
  have hblank : ∀ j ∈ jobs.map JobDict.blanked, IsUuid j.id := by
    intro j hj
    obtain ⟨i, hi, rfl⟩ := List.mem_map.mp hj
    exact hjobs i hi
  have hprinters : ∀ p ∈ printers, ∀ id, p.currentJobId = some id → IsUuid id := by
    intro p hp id hid
    rw [getPrinters_currentJobId hp] at hid
    obtain ⟨job, hjob, -⟩ := hI.owner p.printerId id hid
    exact (hN.rows id job hjob).uuid
  refine ⟨⟨renderJobs_reads _ hjobs, renderPrinters_reads (fun p hp => getPrinters_status hp) hprinters,
    renderLogs_reads _⟩, ?_, ?_⟩
  · rw [innerHTML, innerHTML, (renderJobs_reads _ hjobs).markup, (renderJobs_reads _ hblank).markup, renderJobs_blanked]
  · rw [innerHTML, innerHTML, (renderLogs_reads _).markup, (renderLogs_reads _).markup, renderLogs_blanked]

theorem digits_verbatim (n : Nat) : Verbatim (String.ofList (Nat.toDigits 10 n)) := by
  rw [verbatim_iff, String.toList_ofList]
  intro c hc hbad
  have hdigit := Nat.isDigit_of_mem_toDigits (by decide) (by decide) hc
  simp only [delimiters, List.mem_cons, List.not_mem_nil, or_false] at hbad
  rcases hbad with rfl | rfl | rfl | rfl | rfl <;> revert hdigit <;> decide

/-- A browser in India, twelve seconds after the upload at time 0. -/
def indianBrowser : Browser where
  number n := (if n < 0 then "-" else "") ++ String.ofList (Nat.toDigits 10 n.natAbs)
  toFixed _ digits := if digits = 0 then "0" else "0.0"
  secondsSince t := 12 - t
  localeTime _ := "05:30:00 am"
  number_verbatim n := by
    refine Verbatim.append ?_ (digits_verbatim _)
    split <;> decide
  toFixed_verbatim _ _ := by split <;> decide
  localeTime_verbatim _ := by decide

/-- An upload whose name and file name try to get out of their places. -/
def markupUpload : List Event :=
  [.boot Script.p1sOnly, .reconcile, .upload "123e4567-e89b-42d3-a456-426614174000"
    ⟨"<img src=x onerror=alert(1)>", "ada@example.org", none, "a\" onmouseover=\"alert(1).stl"⟩]

theorem dashboard_markup_upload : ∃ s : Service, (listJobs s.db 100).map JobDict.userName =
      ["<img src=x onerror=alert(1)>"] ∧
    Reads (renderJobs indianBrowser "all" (listJobs s.db 100)) ∧
    Html.markup .text (innerHTML (renderJobs indianBrowser "all" (listJobs s.db 100))) =
      Html.markup .text (innerHTML (renderJobs indianBrowser "all" ((listJobs s.db 100).map JobDict.blanked))) := by
  obtain ⟨s, hr, hs⟩ := Machine.reach_of_run (M := service)
    uuidNames_of_check markupUpload
    (fun s => decide ((listJobs s.db 100).map JobDict.userName = ["<img src=x onerror=alert(1)>"]))
    (service_init Script.p1sOnly 0) (by decide +kernel)
  obtain ⟨⟨hjobs, -, -⟩, hsame, -⟩ := dashboard_markup hr indianBrowser "all"
  exact ⟨s, of_decide_eq_true hs, hjobs, hsame⟩

end App

end BambuBabu
