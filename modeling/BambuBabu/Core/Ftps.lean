import BambuBabu.Core.Credentials
import BambuBabu.Db.Crud

/-!
# `Core.Ftps` — the upload to a printer of `backend/core/printer.py`

`upload_file` hands a sliced file to `curl`, which it calls up to three times. The access code goes to `curl` on its
standard input, as a line of a config file. What each call of `curl` comes to is an argument (`CurlResult`); the log
lines in between are left out.

* `curlConfig` — the text on standard input;
* `uploadFile` — the function, with the calls it makes.
-/

namespace BambuBabu

/-- The fields of `BambuPrinter` that `upload_file` reads. -/
structure FtpsClient where
  ip : String
  accessCode : String
  ftpsPin : String

/-- The client that `PrinterManager.init` makes for a printer. -/
def RuntimeConfig.ftpsClient (cfg : RuntimeConfig) (p : PrinterID) : FtpsClient :=
  ⟨(cfg.printer p).ip, (cfg.printer p).accessCode, (cfg.printer p).ftpsPin⟩

def mqttUser : String := "bblp"

/-- What `subprocess.run` comes to. -/
inductive CurlResult where
  /-- `FileNotFoundError` -/
  | notInstalled
  /-- `subprocess.TimeoutExpired` -/
  | timedOut
  | exited (returncode : Int)
  deriving DecidableEq

/-- One call of `curl`: its arguments and its standard input. -/
structure CurlCall where
  command : List String
  input : String
  deriving DecidableEq

/-- `quote(text, safe="")` -/
def quoteUrl (text : String) : String :=
  let hex (n : UInt8) : Char := (Nat.digitChar n.toNat).toUpper
  let quoteByte (b : UInt8) : List Char :=
    let c := Char.ofNat b.toNat
    if b < 128 && (c.isAlphanum || ['_', '.', '-', '~'].contains c) then [c] else ['%', hex (b / 16), hex (b % 16)]
  String.ofList (text.toUTF8.toList.flatMap quoteByte)

/-- `escaped_access_code` -/
def escapeAccessCode (accessCode : String) : String :=
  replaceChar '"' "\\\"" (replaceChar '\\' "\\\\" accessCode)

/-- `curl_config` -/
def curlConfig (accessCode : String) : String := s!"user = \"{mqttUser}:{escapeAccessCode accessCode}\"\n"

namespace FtpsClient

variable (client : FtpsClient) (source remoteFilename : String)

def url : String :=
  let urlHost := if client.ip.toList.contains ':' then s!"[{client.ip}]" else client.ip
  s!"ftps://{urlHost}:990/{quoteUrl remoteFilename}"

/-- `command`, with what is piped into it. -/
def curlCall : CurlCall where
  command := ["curl", "--silent", "--show-error", "--fail", "--insecure", "--pinnedpubkey", client.ftpsPin,
    "--ftp-pasv", "--connect-timeout", "15", "--max-time", "120", "--config", "-", "--upload-file", source,
    client.url remoteFilename]
  input := curlConfig client.accessCode

/-- The loop of `upload_file` over what the remaining calls come to. -/
def attempts : List CurlResult → Except Exc Unit × List CurlCall
  | [] => (.error (.runtimeError "FTPS upload failed after three attempts"), [])
  | .notInstalled :: _ => (.error (.runtimeError "curl is required for Bambu FTPS uploads"), [])
  | .exited 0 :: _ => (.ok (), [client.curlCall source remoteFilename])
  | _ :: rest =>
      let (result, calls) := attempts rest
      (result, client.curlCall source remoteFilename :: calls)

/-- Upload via implicit FTPS without exposing the access code in argv. `source` is the local path, `size` the size of
    the file there if it is one. -/
def uploadFile (size : Option Nat) (results : Fin 3 → CurlResult) : Except Exc Unit × List CurlCall :=
  match size with
  | none => (.error (.runtimeError s!"Sliced file is missing or empty: {source}"), [])
  | some 0 => (.error (.runtimeError s!"Sliced file is missing or empty: {source}"), [])
  | some _ => client.attempts source remoteFilename (List.ofFn results)

variable {client source remoteFilename} {results : List CurlResult} {size : Option Nat} {call : CurlCall}

/-- Every call of an upload is the same. -/
theorem call_of_mem_attempts (h : call ∈ (client.attempts source remoteFilename results).2) :
    call = client.curlCall source remoteFilename := by
  induction results with
  | nil => cases h
  | cons result rest ih =>
      unfold attempts at h
      split at h
      · next heq => cases heq
      · cases h
      · exact List.mem_singleton.mp h
      · next heq =>
          obtain ⟨-, rfl⟩ := List.cons.inj heq
          rcases List.mem_cons.mp h with hcall | hrest
          · exact hcall
          · exact ih hrest

theorem call_of_mem_uploadFile {results : Fin 3 → CurlResult}
    (h : call ∈ (client.uploadFile source remoteFilename size results).2) :
    call = client.curlCall source remoteFilename := by
  unfold uploadFile at h
  split at h
  · cases h
  · cases h
  · exact call_of_mem_attempts h

end FtpsClient

example : quoteUrl "a b-1.3mf" = "a%20b-1.3mf" := by decide +kernel

end BambuBabu
