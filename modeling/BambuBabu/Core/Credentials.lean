import BambuBabu.Core.Config
import BambuBabu.Core.Text

/-!
# `Core.Credentials` — the start-up checks of `backend/config.py`

`validate_runtime` with all its checks, in their order, and the printer settings they are about. What it asks of the
machine (files, programs, libraries) and of other packages (IP addresses, email addresses) is an argument. The checks
on the enable flags and the mock slicer are those of `Settings.validateRuntime` (`settings_of_validateRuntime`).

* `RuntimeConfig.validateRuntime` — the checks;
* `accessCode_of_validateRuntime` — **what they say about an access code**.
-/

namespace BambuBabu

/-- `<P>_IP`, `<P>_SERIAL`, `<P>_ACCESS_CODE`, `<P>_MQTT_CERT_PATH`, `<P>_FTPS_PIN` -/
structure PrinterConfig where
  ip : String
  serial : String
  accessCode : String
  mqttCertPath : String
  ftpsPin : String

structure RuntimeConfig where
  settings : Settings
  host : String
  corsOrigins : String
  authenticationMode : String
  p1s : PrinterConfig
  a1Mini : PrinterConfig
  smtpUser : String
  smtpPassword : String
  adminEmail : String
  orcaSlicerPath : String
  slicerProfilesDir : String

/-- What the checks ask of the machine and of other packages. -/
structure HostEnvironment where
  /-- `ip_address(address)`: `none` when it raises, else whether the address is private or link-local. -/
  ipAddress : String → Option Bool
  /-- `EmailStr` accepts the address. -/
  validEmail : String → Bool
  isFile : String → Bool
  isDir : String → Bool
  /-- `which(program) is not None` -/
  which : String → Bool
  /-- `find_library(name) is not None` -/
  findLibrary : String → Bool

/-- The prefix of the printer's settings. -/
def PrinterID.key : PrinterID → String
  | p1s => "P1S"
  | a1Mini => "A1_MINI"

/-- `if not ok: raise RuntimeError(msg)` -/
def require (ok : Bool) (msg : String) : Except String Unit := if ok then .ok () else .error msg

/-- `if condition: …` -/
def onlyIf (condition : Bool) (check : Except String Unit) : Except String Unit := if condition then check else .ok ()

/-- `for x in …: …` -/
def forEach {α : Type} (check : α → Except String Unit) : List α → Except String Unit
  | [] => .ok ()
  | x :: xs => do
      check x
      forEach check xs

/-- `re.fullmatch(r"sha256//[A-Za-z0-9+/]{43}=", pin)` -/
def isFtpsPin (pin : String) : Bool :=
  let digest := pin.toList.drop 8
  startsWith "sha256//" pin && digest.length = 44 && digest.getLast? = some '=' &&
    (digest.take 43).all fun c => c.isAlphanum || c = '+' || c = '/'

/-- `not value or value.lower() in {…}` -/
def isPlaceholder (value : String) : Bool :=
  value = "" || ["replace_me", "changeme", "example"].contains value.toLower

namespace RuntimeConfig

variable (cfg : RuntimeConfig) (env : HostEnvironment)

def printer : PrinterID → PrinterConfig
  | .p1s => cfg.p1s
  | .a1Mini => cfg.a1Mini

/-- `cors_origins` -/
def corsOriginList : List (List Char) :=
  ((cfg.corsOrigins.toList.splitOnP (· = ',')).map strip).filter (· ≠ [])

/-- `enabled_configs`, with the printer they belong to. -/
def enabledConfigs : List (PrinterID × PrinterConfig) :=
  ([.p1s, .a1Mini].filter cfg.settings.printerEnabled).map fun p => (p, cfg.printer p)

/-- `values` -/
def credentials : List (String × String) :=
  cfg.enabledConfigs.flatMap fun (p, c) =>
    [(p.key ++ "_IP", c.ip), (p.key ++ "_SERIAL", c.serial), (p.key ++ "_ACCESS_CODE", c.accessCode),
      (p.key ++ "_MQTT_CERT_PATH", c.mqttCertPath), (p.key ++ "_FTPS_PIN", c.ftpsPin)]

def missing : List String := (cfg.credentials.filter fun (_, value) => isPlaceholder value).map Prod.fst

def checkAccessCode : PrinterID × PrinterConfig → Except String Unit
  | (p, c) => require (!c.accessCode.toList.any isControl) (p.key ++ "_ACCESS_CODE contains control characters")

def checkEndpoint : PrinterID × PrinterConfig → Except String Unit
  | (p, c) => do
      match env.ipAddress c.ip with
      | none => throw (p.key ++ "_IP is not a valid IP address")
      | some isPrivate => require isPrivate (p.key ++ "_IP must be a private LAN address")
      require (env.isFile c.mqttCertPath) (p.key ++ "_MQTT_CERT_PATH must reference the trusted printer certificate")
      require (isFtpsPin c.ftpsPin) (p.key ++ "_FTPS_PIN must be a curl sha256// SPKI pin")

/-- `if self.PRINTERS_ENABLED:` -/
def validatePrinters : Except String Unit := do
  require (!cfg.settings.mockSlicer) "MOCK_SLICER cannot be used with live printers"
  require (!cfg.enabledConfigs.isEmpty) "PRINTERS_ENABLED requires at least one enabled physical printer"
  require cfg.missing.isEmpty ("Live printer mode requires fresh credentials in .env; missing/placeholder: " ++
    ", ".intercalate cfg.missing)
  forEach checkAccessCode cfg.enabledConfigs
  forEach (checkEndpoint env) cfg.enabledConfigs

/-- `if not self.MOCK_SLICER:` -/
def validateSlicer : Except String Unit := do
  require (env.isFile cfg.orcaSlicerPath) s!"OrcaSlicer not found: {cfg.orcaSlicerPath}"
  require (env.isDir cfg.slicerProfilesDir)
    s!"Complete OrcaSlicer BBL profile tree not found: {cfg.slicerProfilesDir}"
  require (env.which "xvfb-run") "xvfb-run is required for headless slicing"
  require (env.which "xauth") "xauth is required by xvfb-run for headless slicing"
  require (env.findLibrary "OpenGL" && env.findLibrary "GLU")
    "libopengl0 and libglu1-mesa are required for headless OrcaSlicer"

/-- Fail startup when a live integration is configured unsafely or incompletely. -/
def validateRuntime : Except String Unit := do
  require (!cfg.corsOriginList.contains ['*']) "Wildcard CORS is not permitted"
  require (cfg.authenticationMode ≠ "external-pending" || ["127.0.0.1", "localhost", "::1"].contains cfg.host)
    ("Unauthenticated mode must bind to loopback; use an authenticated " ++
      "reverse proxy before exposing the service")
  onlyIf cfg.settings.printersEnabled (cfg.validatePrinters env)
  onlyIf (cfg.smtpPassword ≠ "")
    (require (env.validEmail cfg.smtpUser && env.validEmail cfg.adminEmail)
      "SMTP_USER and ADMIN_EMAIL must be valid when email is enabled")
  onlyIf (!cfg.settings.mockSlicer) (cfg.validateSlicer env)

end RuntimeConfig

/-! ## What passes -/

variable {cfg : RuntimeConfig} {env : HostEnvironment} {p : PrinterID} {ok condition : Bool} {msg : String}
  {x y : Except String Unit}

theorem require_ok : require ok msg = .ok () ↔ ok = true := by
  unfold require
  split_ifs with h
  · exact iff_of_true rfl h
  · exact iff_of_false (fun hok => by cases hok) h

theorem onlyIf_ok : onlyIf condition x = .ok () ↔ (condition = true → x = .ok ()) := by
  unfold onlyIf
  split_ifs with h
  · exact ⟨fun hok _ => hok, fun hok => hok h⟩
  · exact iff_of_true rfl fun hc => absurd hc h

/-- One check after the other. -/
theorem andThen_ok : (do x; y : Except String Unit) = .ok () ↔ x = .ok () ∧ y = .ok () := by
  cases x with
  | error e => exact iff_of_false (fun h => by cases h) (fun h => by cases h.1)
  | ok a => exact ⟨fun h => ⟨rfl, h⟩, fun h => h.2⟩

theorem forEach_ok {α : Type} {check : α → Except String Unit} {xs : List α} :
    forEach check xs = .ok () ↔ ∀ a ∈ xs, check a = .ok () := by
  induction xs with
  | nil => exact iff_of_true rfl fun a ha => absurd ha List.not_mem_nil
  | cons a xs ih => rw [forEach, andThen_ok, ih, List.forall_mem_cons]

namespace RuntimeConfig

theorem mem_enabledConfigs (h : cfg.settings.printerEnabled p = true) : (p, cfg.printer p) ∈ cfg.enabledConfigs := by
  refine List.mem_map.mpr ⟨p, List.mem_filter.mpr ⟨?_, h⟩, rfl⟩
  cases p <;> decide

/-- The checks on the flags are those of the settings. -/
theorem settings_of_validateRuntime (h : cfg.validateRuntime env = .ok ()) :
    cfg.settings.validateRuntime = .ok () := by
  unfold validateRuntime validatePrinters at h
  simp only [andThen_ok, onlyIf_ok, require_ok] at h
  obtain ⟨-, -, hprinters, -⟩ := h
  unfold Settings.validateRuntime
  split_ifs with hlive hmock hnone
  · have hoff := (hprinters hlive).1
    rw [hmock] at hoff
    cases hoff
  · -- without an enabled printer the list is empty
    have hsome := (hprinters hlive).2.1
    have hempty : cfg.enabledConfigs = [] := by
      unfold enabledConfigs Settings.printerEnabled
      simp [hnone.1, hnone.2]
    rw [hempty] at hsome
    cases hsome
  · rfl
  · rfl

/-- **The access code of an enabled printer has no control character**, once the service has started. -/
theorem accessCode_of_validateRuntime (h : cfg.validateRuntime env = .ok ())
    (hlive : cfg.settings.livePrinterEnabled p = true) :
    ∀ c ∈ (cfg.printer p).accessCode.toList, isControl c = false := by
  obtain ⟨hprinters, henabled⟩ := Bool.and_eq_true_iff.mp hlive
  unfold validateRuntime validatePrinters at h
  simp only [andThen_ok, onlyIf_ok, require_ok, forEach_ok] at h
  have hcheck := (h.2.2.1 hprinters).2.2.2.1 _ (mem_enabledConfigs henabled)
  have hnone := require_ok.mp hcheck
  rw [Bool.not_eq_true', List.any_eq_false] at hnone
  exact fun c hc => Bool.eq_false_iff.mpr (hnone c hc)

end RuntimeConfig

end BambuBabu
