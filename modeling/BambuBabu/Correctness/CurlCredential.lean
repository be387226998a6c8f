import BambuBabu.Core.Ftps
import BambuBabu.Service.Step
import BambuBabu.Text.CurlConfig

/-!
# `Correctness.CurlCredential` — the access code stays inside its line

The two replacements of `upload_file`, first of the backslashes and then of the quotes, come to the same as escaping
character by character (`toList_escapeAccessCode`): the second one finds no quote that the first one has made. With
the round trip of the grammar, what `curl` reads is the access code; that the line does not end early is what
`validate_runtime` checks.

* `curl_credential` — **the theorem**, for every call of every upload of a started service.
-/

namespace BambuBabu

open Text

variable {cfg : RuntimeConfig} {env : HostEnvironment} {p : PrinterID} {call : CurlCall}

theorem toList_replaceChar (old : Char) (new text : String) :
    (replaceChar old new text).toList = text.toList.flatMap fun c => if c = old then new.toList else [c] :=
  String.toList_ofList

/-- **Two replacements are one escaping.** -/
theorem toList_escapeAccessCode (code : String) : (escapeAccessCode code).toList = escapeValue code.toList := by
  unfold escapeAccessCode escapeValue
  rw [toList_replaceChar, toList_replaceChar, List.flatMap_assoc]
  congr 1
  funext c
  by_cases hback : c = '\\'
  · subst hback
    decide
  · by_cases hquote : c = '"'
    · subst hquote
      decide
    · simp [hback, hquote]

/-- The line, between the name of the option and the newline. -/
def credentialLine (code : String) : List Char :=
  "user = \"".toList ++ (escapeValue ("bblp:".toList ++ code.toList) ++ ['"'])

/-- The user name has nothing to escape. -/
theorem escapeValue_user (code : List Char) :
    escapeValue ("bblp:".toList ++ code) = "bblp:".toList ++ escapeValue code := by
  have hplain : escapeValue "bblp:".toList = "bblp:".toList := by decide
  unfold escapeValue at hplain ⊢
  rw [List.flatMap_append, hplain]

theorem toList_curlConfig (code : String) : (curlConfig code).toList = credentialLine code ++ ['\n'] := by
  have htext : curlConfig code = "user = \"" ++ mqttUser ++ ":" ++ escapeAccessCode code ++ "\"\n" := by
    unfold curlConfig
    rfl
  have huser : mqttUser.toList = "bblp".toList := rfl
  have hcolon : "bblp:".toList = "bblp".toList ++ ":".toList := by decide
  have hend : "\"\n".toList = ['"'] ++ ['\n'] := by decide
  unfold credentialLine
  rw [escapeValue_user, ← toList_escapeAccessCode, htext, String.toList_append, String.toList_append,
    String.toList_append, String.toList_append, huser, hcolon, hend]
  simp only [List.append_assoc]

/-- A text for `curl` that is one line: the `user` option, with a value that ends at the last character and decodes to
    the credential. -/
def CarriesCredential (code text : String) : Prop :=
  ∃ line, text.toList = line ++ ['\n'] ∧ configLines text.toList = [line] ∧
    configOption line = some ("user".toList, "bblp:".toList ++ code.toList, [])

/-- A code without a newline stays inside its line. -/
theorem carriesCredential_curlConfig {code : String} (h : '\n' ∉ code.toList) :
    CarriesCredential code (curlConfig code) := by
  refine ⟨credentialLine code, toList_curlConfig code, ?_, ?_⟩
  · rw [toList_curlConfig]
    apply configLines_line
    intro hmem
    rcases List.mem_append.mp hmem with hname | hmem
    · exact absurd hname (by decide)
    rcases List.mem_append.mp hmem with hvalue | hquote
    · rcases mem_escapeValue hvalue with hcred | hback
      · rcases List.mem_append.mp hcred with huser | hcode
        · exact absurd huser (by decide)
        · exact h hcode
      · exact absurd hback (by decide)
    · exact absurd hquote (by decide)
  · have hoption : configOption (credentialLine code)
        = (quotedValue (escapeValue ("bblp:".toList ++ code.toList) ++ ['"'])).map
            fun found => ("user".toList, found.1, found.2) := rfl
    rw [hoption, quotedValue_escapeValue]
    rfl

theorem curl_credential {source remoteFilename : String} {size : Option Nat} {results : Fin 3 → CurlResult}
    (hvalid : cfg.validateRuntime env = .ok ()) (hlive : cfg.settings.livePrinterEnabled p = true)
    (hcall : call ∈ ((cfg.ftpsClient p).uploadFile source remoteFilename size results).2) :
    CarriesCredential (cfg.printer p).accessCode call.input := by
  rw [FtpsClient.call_of_mem_uploadFile hcall]
  apply carriesCredential_curlConfig
  intro hnewline
  have hcontrol := RuntimeConfig.accessCode_of_validateRuntime hvalid hlive '\n' hnewline
  exact absurd hcontrol (by decide)

namespace Script

/-- An access code of backslashes, quotes and escape letters. -/
def awkwardCode : String := "a\\\"n\\\\t\""

/-- One live printer with this code. -/
def awkward : RuntimeConfig where
  settings := p1sOnly
  host := "127.0.0.1"
  corsOrigins := ""
  authenticationMode := "external-pending"
  p1s := ⟨"192.168.1.20", "01S00A000000000", awkwardCode, "/etc/bambubabu/p1s.pem",
    "sha256//AAAAAAAAAAAAAAAAAAAAAAAAAAAAAAAAAAAAAAAAAAA="⟩
  a1Mini := ⟨"", "", "", "", ""⟩
  smtpUser := ""
  smtpPassword := ""
  adminEmail := ""
  orcaSlicerPath := "/opt/bambubabu/orca/appimage-root/AppRun"
  slicerProfilesDir := "/opt/bambubabu/orca/appimage-root/resources/profiles/BBL"

/-- A machine with everything in place. -/
def installed : HostEnvironment where
  ipAddress := fun address => some (startsWith "192.168." address)
  validEmail := fun _ => true
  isFile := fun _ => true
  isDir := fun _ => true
  which := fun _ => true
  findLibrary := fun _ => true

/-- The calls of an upload whose first one times out. -/
def awkwardUpload : List CurlCall :=
  ((awkward.ftpsClient .p1s).uploadFile "data/sliced/ab-12-p1s.gcode.3mf" "ab-12-p1s.gcode.3mf" (some 1024)
    fun i => if i = 0 then .timedOut else .exited 0).2

end Script

/-- Both calls carry the code unchanged. -/
theorem curl_credential_awkward : Script.awkwardUpload.length = 2 ∧
    ∀ call ∈ Script.awkwardUpload, CarriesCredential Script.awkwardCode call.input := by
  refine ⟨by decide +kernel, fun call hcall => ?_⟩
  have hvalid : Script.awkward.validateRuntime Script.installed = .ok () := by decide +kernel
  exact curl_credential hvalid (p := .p1s) (by decide) hcall

end BambuBabu
