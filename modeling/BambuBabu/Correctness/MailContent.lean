import BambuBabu.Email.Mailer

/-!
# `Correctness.MailContent` — can a user write into the markup of a mail?

Names, file names and error texts reach the lifecycle mails, and a file name reaches their subjects. No value of a job
changes what a mail consists of.

* `mail_content` — **the theorem**: every mail is read as one of the four pages with the job's values in their places,
  and its subject is one line.
-/

namespace BambuBabu.Mailer

variable {cfg : MailSettings} {id : JobId} {job : Job} {p : PrinterID} {mail : Mail}

/-- Every mail of the service is one of the four pages, under a header. -/
theorem page_of_mem (h : mail ∈ sendPrintStarted cfg id job p ++ sendPrintComplete cfg id job p ++
    sendPrintFailed cfg id job p) :
    (∃ t ∈ pages, mail.html = page id job p t) ∧ ∃ subject, mail.subject = header subject 200 := by
  have hsent : ∀ {recipients : List String} {subject : String} {t}, t ∈ pages →
      mail ∈ send cfg recipients subject (page id job p t) →
      (∃ t ∈ pages, mail.html = page id job p t) ∧ ∃ subject, mail.subject = header subject 200 := by
    intro recipients subject t ht hmem
    obtain ⟨-, -, hsubject, hhtml⟩ := mem_send hmem
    exact ⟨⟨t, ht, hhtml⟩, subject, hsubject⟩
  simp only [sendPrintStarted, sendPrintComplete, sendPrintFailed, List.mem_append] at h
  rcases h with (hstarted | hcomplete | hclearance) | hfailed
  · exact hsent (by simp [pages]) hstarted
  · exact hsent (by simp [pages]) hcomplete
  · exact hsent (by simp [pages]) hclearance
  · exact hsent (by simp [pages]) hfailed

/-- **No value of a job changes what a mail consists of**: its page has the markup of one of the four templates and
    shows the values as they are, and its subject is one line of at most 200 characters. -/
theorem mail_content (h : mail ∈ sendPrintStarted cfg id job p ++ sendPrintComplete cfg id job p ++
    sendPrintFailed cfg id job p) :
    (∃ t ∈ pages, t.Reads .standard (fieldValue id job p) mail.html) ∧ mail.subject.toList.length ≤ 200 ∧
      ∀ c ∈ mail.subject.toList, c = ' ' ∨ isSpace c = false := by
  obtain ⟨⟨t, ht, hhtml⟩, subject, hsubject⟩ := page_of_mem h
  rw [hhtml, hsubject]
  exact ⟨⟨t, ht, reads_page ht⟩, header_line subject 200⟩

/-- A job whose name and file name try to get out of their places. -/
def markupJob : Job :=
  Job.submitted 0 "<img src=x onerror=alert(1)>" "ada@example.org" none "a\"&lt;'.stl\r\nBcc: all@example.org"
    "uploads/a.stl"

def gmail : MailSettings := ⟨"bot@example.org", "secret", "admin@example.org"⟩

theorem mail_content_markup : ∃ mail : Mail, (∃ t ∈ pages, t.Reads .standard (fieldValue "a" markupJob .p1s) mail.html) ∧
    mail.subject.toList.length ≤ 200 ∧ ∀ c ∈ mail.subject.toList, c = ' ' ∨ isSpace c = false := by
  have hmem : (sendPrintFailed gmail "a" markupJob .p1s).head (by simp [sendPrintFailed, send, gmail]) ∈
      sendPrintStarted gmail "a" markupJob .p1s ++ sendPrintComplete gmail "a" markupJob .p1s ++
        sendPrintFailed gmail "a" markupJob .p1s :=
    List.mem_append_right _ (List.head_mem _)
  exact ⟨_, mail_content hmem⟩

end BambuBabu.Mailer
