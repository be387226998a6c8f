import BambuBabu.Api.UploadJob
import BambuBabu.Text.Html
import BambuBabu.Text.Words

/-!
# `Email.Mailer` — the lifecycle mails of `backend/email/mailer.py`

The four mails as templates of HTML with places for the values of a job, and the functions that fill and address
them. What the SMTP server makes of a mail is not modelled: `_send` catches every exception and returns nothing.

* `sendPrintStarted`, `sendPrintComplete`, `sendPrintFailed` — the functions, with the mails they hand to SMTP;
* `reads_of_mem` — **each page is read as its template** with the job's own values in it;
* `header_line` — a header is one line.
-/

namespace BambuBabu.Mailer

open Text Text.Html

/-- `SMTP_USER`, `SMTP_PASSWORD`, `ADMIN_EMAIL` -/
structure MailSettings where
  smtpUser : String
  smtpPassword : String
  adminEmail : String

/-- A message as it is handed to `server.sendmail`, with the envelope recipients. -/
structure Mail where
  recipients : List String
  subject : String
  fromHeader : String
  toHeader : String
  html : String
  deriving DecidableEq

/-- `PRINTER_NAMES` -/
def printerNames : PrinterID → String
  | .p1s => "Bambu Lab P1S"
  | .a1Mini => "Bambu Lab A1 Mini"

/-- The replacements of `html.escape(value, quote=True)`, in its order. -/
def pythonEscape : Escaper where
  table := [('&', "amp".toList), ('<', "lt".toList), ('>', "gt".toList), ('"', "quot".toList), ('\'', "#x27".toList)]
  ordered := by decide
  ampersand := by decide
  covers := by simp [delimiters]
  inert := List.all_iff_forall_prop.mp (by decide)

/-- Escape untrusted job metadata before inserting it into HTML mail. -/
def safe (value : String) : String := String.ofList (pythonEscape.escape value.toList)

/-- Prevent newline injection into MIME headers. -/
def header (value : String) (limit : Nat) : String := String.ofList (([' '].intercalate (words value)).take limit)

/-! ## The templates -/

/-- The values that the mails show. -/
inductive Field where
  | printerName | userName | userEmail | filename | jobShortId | est | errorMessage
  deriving DecidableEq, Repr

/-- `_template`, with the body of the mail. -/
def template (title color : String) (body : Template Field) : Template Field := [
  .lit "\n",
  .lit "<!DOCTYPE html>\n",
  .lit "<html>\n",
  .lit "<head><meta charset=\"utf-8\"></head>\n",
  .lit "<body style=\"margin:0;padding:0;background:#0f0f17;font-family:Arial,sans-serif;\">\n",
  .lit "  <div style=\"max-width:560px;margin:32px auto;background:#1a1a2e;border-radius:12px;\n",
  .lit "              overflow:hidden;border:1px solid #2a2a3e;\">\n",
  .lit "    <!-- Header -->\n",
  .lit "    <div style=\"background:", .lit color, .lit ";padding:24px 32px;\">\n",
  .lit "      <h1 style=\"margin:0;color:#fff;font-size:22px;font-weight:700;\">\n",
  .lit "        🐼 BambuBabu\n",
  .lit "      </h1>\n",
  .lit "      <p style=\"margin:8px 0 0;color:rgba(255,255,255,0.85);font-size:14px;\">\n",
  .lit "        Automated 3D Print Management\n",
  .lit "      </p>\n",
  .lit "    </div>\n",
  .lit "    <!-- Body -->\n",
  .lit "    <div style=\"padding:28px 32px;color:#e2e2e8;font-size:15px;line-height:1.6;\">\n",
  .lit "      <h2 style=\"margin:0 0 16px;color:#fff;font-size:18px;\">", .lit title, .lit "</h2>\n",
  .lit "      <style>\n",
  .lit "        table \x7b width:100%;border-collapse:collapse;margin:12px 0; \x7d\n",
  .lit "        td \x7b padding:8px 12px;border-bottom:1px solid #2a2a3e; \x7d\n",
  .lit "        td:first-child \x7b color:#888;width:40%; \x7d\n",
  .lit "        code \x7b background:#0f0f17;padding:2px 6px;border-radius:4px;\n",
  .lit "                font-family:monospace;font-size:13px; \x7d\n",
  .lit "      </style>\n",
  .lit "      "] ++ body ++ [
  .lit "\n",
  .lit "    </div>\n",
  .lit "    <!-- Footer -->\n",
  .lit "    <div style=\"padding:16px 32px;background:#13131f;color:#555;font-size:12px;\">\n",
  .lit "      BambuBabu — Raspberry Pi 3D Print Automation\n",
  .lit "    </div>\n",
  .lit "  </div>\n",
  .lit "</body>\n",
  .lit "</html>\n"]

/-- The page of `send_print_started`. -/
def startedPage : Template Field := template "🖨️ Your Print Has Started!" "#00c896" [
  .lit "\n",
  .lit "        <p>Great news, <strong>", .hole .userName, .lit "</strong>!</p>\n",
  .lit "        <p>Your file <strong>", .hole .filename, .lit "</strong> has started printing.</p>\n",
  .lit "        <table>\n",
  .lit "          <tr><td>🖨️ Printer</td><td><strong>", .hole .printerName, .lit "</strong></td></tr>\n",
  .lit "          <tr><td>⏱️ Estimated Time</td><td><strong>", .hole .est, .lit "</strong></td></tr>\n",
  .lit "          <tr><td>📋 Job ID</td><td><code>", .hole .jobShortId, .lit "</code></td></tr>\n",
  .lit "        </table>\n",
  .lit "        <p>You'll receive another email when it's done.</p>\n",
  .lit "        "]

/-- The page of `send_print_complete` for the user. -/
def completePage : Template Field := template "✅ Print Complete!" "#7c3aed" [
  .lit "\n",
  .lit "        <p>Hi <strong>", .hole .userName, .lit "</strong>,</p>\n",
  .lit "        <p>Your print is done! Come collect it from the printer.</p>\n",
  .lit "        <table>\n",
  .lit "          <tr><td>📄 File</td><td><strong>", .hole .filename, .lit "</strong></td></tr>\n",
  .lit "          <tr><td>🖨️ Printer</td><td><strong>", .hole .printerName, .lit "</strong></td></tr>\n",
  .lit "          <tr><td>📋 Job ID</td><td><code>", .hole .jobShortId, .lit "</code></td></tr>\n",
  .lit "        </table>\n",
  .lit "        "]

/-- Its page for the admin. -/
def clearancePage : Template Field := template "🗑️ Plate Clearance Required" "#f59e0b" [
  .lit "\n",
  .lit "        <p>The following print has completed and the plate needs to be cleared\n",
  .lit "        before the next job can start.</p>\n",
  .lit "        <table>\n",
  .lit "          <tr><td>📄 File</td><td><strong>", .hole .filename, .lit "</strong></td></tr>\n",
  .lit "          <tr><td>👤 User</td><td>", .hole .userName, .lit " (", .hole .userEmail, .lit ")</td></tr>\n",
  .lit "          <tr><td>🖨️ Printer</td><td><strong>", .hole .printerName, .lit "</strong></td></tr>\n",
  .lit "        </table>\n",
  .lit "        <p>Please remove the model from the plate and click\n",
  .lit "        <strong>Plate Cleared</strong> in the BambuBabu dashboard.</p>\n",
  .lit "        "]

/-- The page of `send_print_failed`. -/
def failedPage : Template Field := template "❌ Print Failed" "#ef4444" [
  .lit "\n",
  .lit "        <p>Unfortunately, the print for <strong>", .hole .userName, .lit "</strong> has failed.</p>\n",
  .lit "        <table>\n",
  .lit "          <tr><td>📄 File</td><td><strong>", .hole .filename, .lit "</strong></td></tr>\n",
  .lit "          <tr><td>🖨️ Printer</td><td><strong>", .hole .printerName, .lit "</strong></td></tr>\n",
  .lit "          <tr><td>❗ Error</td><td>", .hole .errorMessage, .lit "</td></tr>\n",
  .lit "        </table>\n",
  .lit "        <p>Please check the printer and clear the plate before the next job\n",
  .lit "        can run.</p>\n",
  .lit "        "]

/-- The pages that a job can be put into. -/
def pages : List (Template Field) := [startedPage, completePage, clearancePage, failedPage]

/-! ## The functions -/

variable (cfg : MailSettings) (id : JobId) (job : Job) (p : PrinterID)

/-- The values of a job, before they are escaped. -/
def fieldValue : Field → String
  | .printerName => printerNames p
  | .userName => job.userName
  | .userEmail => job.userEmail
  | .filename => job.originalFilename
  | .jobShortId => String.ofList (id.toList.take 8)
  | .est =>
      match job.estimatedMinutes with
      | none => "unknown"
      | some 0 => "unknown"
      | some m => s!"~{m} min"
  | .errorMessage =>
      match job.errorMessage with
      | none => "Unknown error"
      | some m => if m = "" then "Unknown error" else m

/-- The page with the job's values. -/
def page (t : Template Field) : String := t.render fun f => safe (fieldValue id job p f)

/-- `_send`: without a password nothing is sent. -/
def send (recipients : List String) (subject htmlBody : String) : List Mail :=
  if cfg.smtpPassword = "" then []
  else
    [{ recipients := recipients
       subject := header subject 200
       fromHeader := s!"BambuBabu 🐼 <{header cfg.smtpUser 256}>"
       toHeader := ", ".intercalate recipients
       html := htmlBody }]

def sendPrintStarted : List Mail :=
  send cfg [job.userEmail] s!"🖨️ Printing started — {header job.originalFilename 200}" (page id job p startedPage)

/-- It also notifies the admin to clear the plate. -/
def sendPrintComplete : List Mail :=
  send cfg [job.userEmail] s!"✅ Print complete — {header job.originalFilename 200}" (page id job p completePage) ++
    send cfg [cfg.adminEmail] s!"🗑️ Plate clearance needed — {safe (printerNames p)}" (page id job p clearancePage)

/-- The recipients are a set; their order is not fixed. -/
def sendPrintFailed : List Mail :=
  send cfg (if job.userEmail = cfg.adminEmail then [job.userEmail] else [job.userEmail, cfg.adminEmail])
    s!"❌ Print failed — {header job.originalFilename 200}" (page id job p failedPage)

/-! ## What a reader sees -/

variable {cfg id job p} {mail : Mail} {t : Template Field}

theorem knows_pythonEscape : CharRefs.standard.Knows pythonEscape := by
  unfold CharRefs.Knows
  decide

/-- Values go into text, in every page. -/
theorem pages_whole : ∀ t ∈ pages, t.Whole := by decide +kernel

/-- **The values of a job are read back** from every page, and change nothing else in it. -/
theorem reads_page (ht : t ∈ pages) : t.Reads .standard (fieldValue id job p) (page id job p t) := by
  apply (pages_whole t ht).reads
  intro f _
  unfold safe
  rw [String.toList_ofList]
  exact ⟨pythonEscape.inert_escape _, CharRefs.decode_escape knows_pythonEscape _⟩

/-- A header is one line, within its limit. -/
theorem header_line (value : String) (limit : Nat) : (header value limit).toList.length ≤ limit ∧
    ∀ c ∈ (header value limit).toList, c = ' ' ∨ isSpace c = false := by
  have hjoined : [' '].intercalate (words value) = squeeze isSpace ' ' .start value.toList :=
    splitJoin_eq_squeeze value.toList
  unfold header
  rw [String.toList_ofList, hjoined]
  exact ⟨List.length_take_le .., fun c hc => mem_squeeze (List.mem_of_mem_take hc)⟩

theorem mem_send {recipients : List String} {subject htmlBody : String} (h : mail ∈ send cfg recipients subject htmlBody) :
    cfg.smtpPassword ≠ "" ∧ mail.recipients = recipients ∧ mail.subject = header subject 200 ∧ mail.html = htmlBody := by
  unfold send at h
  split at h
  · cases h
  · next hpassword =>
      cases List.mem_singleton.mp h
      exact ⟨hpassword, rfl, rfl, rfl⟩

end BambuBabu.Mailer
