import BambuBabu.Api.Responses
import BambuBabu.Text.Html

/-!
# `Frontend.App` — the pages of `frontend/js/app.js`

The dashboard polls the API and writes what it gets into `innerHTML`. Here the three lists that it renders are templates
of HTML, put together of blocks, with places for the values of a row; a value is either escaped by `esc` or inserted as
it is. What the browser makes of numbers and of the time is a parameter.

* `jobCard`, `printerCard`, `logEntry` — the blocks of a row, by its data;
* `renderJobs`, `renderPrinters`, `renderLogs` — the lists;
* `renderJobs_whole`, `renderPrinters_whole`, `renderLogs_whole` — **their values stand in content only**.
-/

namespace BambuBabu

/-- `LogLevel.value` -/
def LogLevel.value : LogLevel → String
  | debug => "DEBUG"
  | info => "INFO"
  | warning => "WARNING"
  | error => "ERROR"

namespace App

open Api Text.Html

/-! ## Values -/

/-- The replacements of `esc`, in its order. -/
def jsEscape : Escaper where
  table := [('&', "amp".toList), ('<', "lt".toList), ('>', "gt".toList), ('"', "quot".toList), ('\'', "#39".toList)]
  ordered := by decide
  ampersand := by decide
  covers := by simp [delimiters]
  inert := List.all_iff_forall_prop.mp (by decide)

/-- `esc` of a string; of `null` it is empty, too. -/
def esc (str : String) : String := String.ofList (jsEscape.escape str.toList)

/-- What a page shows in a place: `esc` of a value, or the value as it is. -/
inductive Shown where
  | escaped (s : String)
  | plain (s : String)
  deriving DecidableEq

/-- What is written into the page, -/
def Shown.written : Shown → String
  | escaped s => esc s
  | plain s => s

/-- and what it stands for. -/
def Shown.raw : Shown → String
  | escaped s | plain s => s

/-- How the browser writes numbers and times. -/
structure Browser where
  /-- `${n}` of an integer. -/
  number : Int → String
  /-- `x.toFixed(digits)` -/
  toFixed : ℚ → Nat → String
  /-- `Math.floor((Date.now() - new Date(isoStr)) / 1000)` -/
  secondsSince : Time → Int
  /-- `new Date(isoStr).toLocaleTimeString("en-IN", ...)` -/
  localeTime : Time → String
  number_verbatim : ∀ n, Verbatim (number n)
  toFixed_verbatim : ∀ x digits, Verbatim (toFixed x digits)
  localeTime_verbatim : ∀ t, Verbatim (localeTime t)

variable (b : Browser)

def timeAgo (t : Time) : String :=
  let diff := b.secondsSince t
  if diff < 60 then b.number diff ++ "s ago"
  else if diff < 3600 then b.number (diff / 60) ++ "m ago"
  else if diff < 86400 then b.number (diff / 3600) ++ "h ago"
  else b.number (diff / 86400) ++ "d ago"

/-- `id.substring(0, 8)` -/
def shortId (id : JobId) : String := String.ofList (id.toList.take 8)

/-- `${condition ? block : ""}` -/
def block {ι : Type} (condition : Bool) (t : Template ι) : Template ι := if condition then t else []

/-- Whether an optional text is shown: `null` and `""` are not. -/
def truthy (s : Option String) : Bool := s.any (· ≠ "")

/-! ## Jobs -/

/-- The places of a job card. -/
inductive JobField where
  | status | filename | userName | printerLabel | score | estTime | submitted | progress | errorMessage
  | rejectionReason | shortId
  deriving DecidableEq

namespace JobCard

def top : Template JobField := [
  .lit "\n    <div class=\"job-card ", .hole .status, .lit "\">\n",
  .lit "      <div class=\"job-status-dot dot-", .hole .status, .lit "\"></div>\n",
  .lit "      <div class=\"job-meta\">\n",
  .lit "        <div class=\"job-filename\" title=\"", .hole .filename, .lit "\">", .hole .filename, .lit "</div>\n",
  .lit "        <div class=\"job-sub\">\n",
  .lit "          <span>👤 ", .hole .userName, .lit "</span>\n          "]

def printerSpan : Template JobField := [.lit "<span>", .hole .printerLabel, .lit "</span>"]

def scoreSpan : Template JobField := [.lit "<span>🧠 ", .hole .score, .lit "</span>"]

def estTimeSpan : Template JobField := [.lit "<span>⏱️ ", .hole .estTime, .lit "</span>"]

def submittedSpan : Template JobField := [.lit "<span>🕒 ", .hole .submitted, .lit "</span>"]

def nextSpan : Template JobField := [.lit "\n          "]

def subEnd : Template JobField := [.lit "\n        </div>\n        "]

def progressBlock : Template JobField := [
  .lit "\n          <div style=\"margin-top:8px\">\n",
  .lit "            <div class=\"printer-progress-label\">\n",
  .lit "              <span>Print Progress</span><span>", .hole .progress, .lit "%</span>\n",
  .lit "            </div>\n",
  .lit "            <div class=\"progress-bar-wrap\">\n",
  .lit "         <div class=\"progress-bar\" style=\"width:", .hole .progress, .lit "%\"></div>\n",
  .lit "       </div>\n",
  .lit "          </div>"]

def errorBlock : Template JobField := [
  .lit "<div style=\"color:var(--red);font-size:12px;margin-top:4px\">❗ ", .hole .errorMessage, .lit "</div>"]

def rejectionBlock : Template JobField := [
  .lit "<div style=\"color:var(--red);font-size:12px;margin-top:4px\">🚫 ", .hole .rejectionReason, .lit "</div>"]

def nextBlock : Template JobField := [.lit "\n        "]

def bottom : Template JobField := [
  .lit "\n      </div>\n",
  .lit "      <div class=\"job-right\">\n",
  .lit "        <span class=\"status-badge s-", .hole .status, .lit "\">", .hole .status, .lit "</span>\n",
  .lit "        <span style=\"font-size:11px;color:var(--text-muted);",
  .lit "font-family:ui-monospace,'SFMono-Regular',Consolas,monospace\">", .hole .shortId, .lit "</span>\n",
  .lit "      </div>\n",
  .lit "    </div>\n  "]

def blocks : List (Template JobField) := [top, printerSpan, scoreSpan, estTimeSpan, submittedSpan, nextSpan, subEnd,
  progressBlock, errorBlock, rejectionBlock, nextBlock, bottom]

end JobCard

open JobCard in
/-- `jobCard`: the blocks that are there for this job. The label of the printer and the time of submission always are;
    the bar that `progress` holds for a completed job is in no block. -/
def jobCard (j : JobDict) : Template JobField :=
  top ++ printerSpan ++ nextSpan ++ block j.complexityScore.isSome scoreSpan ++ nextSpan ++
    block (j.estimatedMinutes.any (· ≠ 0)) estTimeSpan ++ nextSpan ++ submittedSpan ++ subEnd ++
    block (j.status = .printing) progressBlock ++ nextBlock ++ block (truthy j.errorMessage) errorBlock ++ nextBlock ++
    block (truthy j.rejectionReason) rejectionBlock ++ bottom

/-- The values of a job card. -/
def jobValue (j : JobDict) : JobField → Shown
  | .status => .plain j.status.value
  | .filename => .escaped j.originalFilename
  | .userName => .escaped j.userName
  | .printerLabel => .plain <|
      match j.assignedPrinter with
      | none => "—"
      | some .p1s => "🖥️ P1S"
      | some .a1Mini => "🖨️ A1 Mini"
  | .score => .plain ("Score: " ++ b.toFixed (j.complexityScore.getD 0) 1)
  | .estTime => .plain ("~" ++ b.number (j.estimatedMinutes.getD 0) ++ " min")
  | .submitted => .plain ("Submitted " ++ timeAgo b j.submittedAt)
  | .progress => .plain (b.number j.printProgress)
  | .errorMessage => .escaped (j.errorMessage.getD "")
  | .rejectionReason => .escaped (j.rejectionReason.getD "")
  | .shortId => .plain (shortId j.id)

def emptyState (icon text : String) : Template Shown := [
  .lit "<div class=\"empty-state\"><div>", .lit icon, .lit "</div><div>", .lit text, .lit "</div></div>"]

/-- The jobs that the chosen filter leaves. -/
def filteredJobs (currentFilter : String) (allJobs : List JobDict) : List JobDict :=
  if currentFilter = "all" then allJobs else allJobs.filter fun j => currentFilter.isPrefixOf j.status.value

/-- `renderJobs` -/
def renderJobs (currentFilter : String) (allJobs : List JobDict) : Template Shown :=
  if (filteredJobs currentFilter allJobs).isEmpty then emptyState "📭" "No jobs to show."
  else (filteredJobs currentFilter allJobs).flatMap fun j => (jobCard j).fill (jobValue b j)

/-! ## Printers -/

/-- The places of a printer card. -/
inductive PrinterField where
  | printerId | name | status | cardClass | badge | progress | shortJobId | nozzle | bed | connectionColor | connection
  | plateColor | plate
  deriving DecidableEq

namespace PrinterCard

def top : Template PrinterField := [
  .lit "\n    <div class=\"printer-card ", .hole .cardClass, .lit "\">\n",
  .lit "      <div class=\"printer-header\">\n",
  .lit "        <div>\n",
  .lit "          <div class=\"printer-title\">", .hole .name, .lit "</div>\n          "]

def currentJobBlock : Template PrinterField := [
  .lit "<div style=\"font-size:12px;color:var(--text-muted);margin-top:4px\">\n",
  .lit "         Job: <code style=\"color:var(--purple)\">", .hole .shortJobId, .lit "</code>\n",
  .lit "       </div>"]

def nozzleBox : Template PrinterField := [
  .lit "\n        </div>\n",
  .lit "        <span class=\"printer-status-badge s-", .hole .status, .lit "\">\n",
  .lit "          ", .hole .badge, .lit "\n",
  .lit "        </span>\n",
  .lit "      </div>\n\n",
  .lit "      <div class=\"printer-stats\">\n",
  .lit "        <div class=\"stat-box\">\n",
  .lit "          <div class=\"stat-label\">🌡️ Nozzle</div>\n",
  .lit "          <div class=\"stat-value\">\n",
  .lit "            ", .hole .nozzle, .lit "\n            "]

def degrees : Template PrinterField := [.lit "<span class=\"stat-unit\">°C</span>"]

def bedBox : Template PrinterField := [
  .lit "\n          </div>\n",
  .lit "        </div>\n",
  .lit "        <div class=\"stat-box\">\n",
  .lit "          <div class=\"stat-label\">🛏️ Bed</div>\n",
  .lit "          <div class=\"stat-value\">\n",
  .lit "            ", .hole .bed, .lit "\n            "]

def statBoxes : Template PrinterField := [
  .lit "\n          </div>\n",
  .lit "        </div>\n",
  .lit "        <div class=\"stat-box\">\n",
  .lit "          <div class=\"stat-label\">🔗 Connection</div>\n",
  .lit "          <div class=\"stat-value\" style=\"font-size:14px;font-weight:600\">\n",
  .lit "            <span style=\"color:", .hole .connectionColor, .lit "\">\n",
  .lit "              ", .hole .connection, .lit "\n",
  .lit "            </span>\n",
  .lit "          </div>\n",
  .lit "        </div>\n",
  .lit "        <div class=\"stat-box\">\n",
  .lit "          <div class=\"stat-label\">🗑️ Plate</div>\n",
  .lit "          <div class=\"stat-value\" style=\"font-size:14px;font-weight:600\">\n",
  .lit "            <span style=\"color:", .hole .plateColor, .lit "\">\n",
  .lit "              ", .hole .plate, .lit "\n",
  .lit "            </span>\n",
  .lit "          </div>\n",
  .lit "        </div>\n",
  .lit "      </div>\n\n      "]

def progressBlock : Template PrinterField := [
  .lit "<div class=\"printer-progress-label\">\n",
  .lit "         <span>Progress</span><span>", .hole .progress, .lit "%</span>\n",
  .lit "       </div>\n",
  .lit "       <div class=\"progress-bar-wrap\">\n",
  .lit "         <div class=\"progress-bar\" style=\"width:", .hole .progress, .lit "%\"></div>\n",
  .lit "       </div>"]

def nextBlock : Template PrinterField := [.lit "\n      "]

def plateBtnSection : Template PrinterField := [
  .lit "<div class=\"plate-btn-wrap\">\n",
  .lit "         <button class=\"plate-clear-btn\" id=\"plate-btn-", .hole .printerId, .lit "\">\n",
  .lit "           🗑️ Plate Cleared — Start Next Job\n",
  .lit "         </button>\n",
  .lit "       </div>"]

def idleAcknowledgeSection : Template PrinterField := [
  .lit "<div class=\"plate-btn-wrap\">\n",
  .lit "         <button class=\"plate-clear-btn\" id=\"idle-btn-", .hole .printerId, .lit "\">\n",
  .lit "           ✓ I Inspected It — Printer Is Idle\n",
  .lit "         </button>\n",
  .lit "       </div>"]

def bottom : Template PrinterField := [.lit "\n    </div>\n  "]

def blocks : List (Template PrinterField) := [top, currentJobBlock, nozzleBox, degrees, bedBox, statBoxes, progressBlock,
  nextBlock, plateBtnSection, idleAcknowledgeSection, bottom]

end PrinterCard

/-- `needsClear`: the button for the plate is there. -/
def needsClear (p : PrinterDict) : Bool := p.enabled && !p.plateCleared

/-- The condition of `idleAcknowledgeSection`. -/
def offersAcknowledge (p : PrinterDict) : Bool :=
  p.enabled && p.connected && p.status == "error" && p.gcodeState == "FAILED" && !truthy p.currentJobId &&
    p.plateCleared

open PrinterCard in
/-- `printerCard` -/
def printerCard (p : PrinterDict) : Template PrinterField :=
  top ++ block (truthy p.currentJobId) currentJobBlock ++ nozzleBox ++ block (p.nozzleTemp ≠ 0) degrees ++ bedBox ++
    block (p.bedTemp ≠ 0) degrees ++ statBoxes ++ block (p.status == "printing") progressBlock ++ nextBlock ++
    block (needsClear p) plateBtnSection ++ nextBlock ++ block (offersAcknowledge p) idleAcknowledgeSection ++ bottom

/-- The values of a printer card. -/
def printerValue (p : PrinterDict) : PrinterField → Shown
  | .printerId => .plain p.printerId.value
  | .name => .escaped p.name
  | .status => .plain p.status
  | .cardClass => .plain (if needsClear p then "needs-clear" else "")
  | .badge => .plain (if p.enabled then if p.connected then p.status else "offline" else "disabled")
  | .progress => .plain (b.number p.progress)
  | .shortJobId => .plain (shortId (p.currentJobId.getD ""))
  | .nozzle => .plain (if p.nozzleTemp ≠ 0 then b.toFixed p.nozzleTemp 0 else "—")
  | .bed => .plain (if p.bedTemp ≠ 0 then b.toFixed p.bedTemp 0 else "—")
  | .connectionColor => .plain (if p.connected then "var(--green)" else "var(--text-muted)")
  | .connection => .plain (if p.enabled then if p.connected then "● Online" else "● Offline" else "○ Disabled")
  | .plateColor => .plain (if p.plateCleared then "var(--green)" else "var(--amber)")
  | .plate => .plain (if p.enabled then if p.plateCleared then "✅ Clear" else "⚠️ Needs Clear" else "— Not in service")

/-- `renderPrinters` -/
def renderPrinters (printers : List PrinterDict) : Template Shown :=
  printers.flatMap fun p => (printerCard p).fill (printerValue b p)

/-! ## Logs -/

/-- The places of a log entry. -/
inductive LogField where
  | time | level | event | message
  deriving DecidableEq

/-- The entry that `renderLogs` maps a log to. -/
def logEntry : Template LogField := [
  .lit "\n    <div class=\"log-entry\">\n",
  .lit "      <span class=\"log-time\">", .hole .time, .lit "</span>\n",
  .lit "      <span class=\"log-level ", .hole .level, .lit "\">", .hole .level, .lit "</span>\n",
  .lit "      <span class=\"log-event\">", .hole .event, .lit "</span>\n",
  .lit "      <span class=\"log-msg\" title=\"", .hole .message, .lit "\">", .hole .message, .lit "</span>\n",
  .lit "    </div>\n  "]

/-- The values of a log entry. -/
def logValue (l : LogDict) : LogField → Shown
  | .time => .plain (b.localeTime l.timestamp)
  | .level => .plain l.level.value
  | .event => .escaped l.event
  | .message => .escaped l.message

/-- `renderLogs` -/
def renderLogs (logs : List LogDict) : Template Shown :=
  if logs.isEmpty then emptyState "📜" "No logs yet."
  else logs.flatMap fun l => logEntry.fill (logValue b l)

/-! ## Values stand in content -/

theorem jobBlocks_whole : ∀ t ∈ JobCard.blocks, t.Whole := by decide +kernel

theorem printerBlocks_whole : ∀ t ∈ PrinterCard.blocks, t.Whole := by decide +kernel

theorem logEntry_whole : logEntry.Whole := by decide +kernel

theorem block_whole {ι : Type} {condition : Bool} {t : Template ι} (h : t.Whole) : (block condition t).Whole := by
  cases condition with
  | false => exact .nil
  | true => exact h

theorem jobCard_whole (j : JobDict) : (jobCard j).Whole := by
  unfold jobCard
  repeat' apply Template.Whole.append
  all_goals first
    | exact block_whole (jobBlocks_whole _ (by simp [JobCard.blocks]))
    | exact jobBlocks_whole _ (by simp [JobCard.blocks])

theorem printerCard_whole (p : PrinterDict) : (printerCard p).Whole := by
  unfold printerCard
  repeat' apply Template.Whole.append
  all_goals first
    | exact block_whole (printerBlocks_whole _ (by simp [PrinterCard.blocks]))
    | exact printerBlocks_whole _ (by simp [PrinterCard.blocks])

variable {b}

theorem renderJobs_whole (currentFilter : String) (rows : List JobDict) :
    (renderJobs b currentFilter rows).Whole := by
  unfold renderJobs
  split
  · decide +kernel
  · exact .flatMap fun j _ => (jobCard_whole j).fill _

theorem renderPrinters_whole (rows : List PrinterDict) : (renderPrinters b rows).Whole :=
  .flatMap fun p _ => (printerCard_whole p).fill _

theorem renderLogs_whole (rows : List LogDict) : (renderLogs b rows).Whole := by
  unfold renderLogs
  split
  · decide +kernel
  · exact .flatMap fun l _ => logEntry_whole.fill _

end App

end BambuBabu
