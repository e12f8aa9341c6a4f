/-
# The session that the window shows

`win32_main.c`: what the program prepares before it starts a receiver. The base URL of the
relay comes from the environment, the jobs root from the shell, and the session's URL and
its QR code are made from both. The QR encoder is a library, which is given as a parameter,
and so is the conversion to wide characters.

What a call that fails leaves in its output buffer is not read, and is left as it was. The
checks for a null application are left out.
-/

import PrintDrop.Receiver.Credential
import PrintDrop.Transfer.SessionLink

namespace PrintDrop.Desktop

/-- `pd_qr_code`: the number of modules on each side, and which of them are dark. -/
structure QrCode where
  size : ℤ
  modules : ℤ → ℤ → Bool

namespace QrCode

/-- A code that has been zeroed. -/
def zero : QrCode where
  size := 0
  modules _ _ := false

/-- `pd_qr_get_module`. -/
def getModule (code : QrCode) (x y : ℤ) : Bool :=
  if code.size ≤ 0 then false else code.modules x y

end QrCode

/-- `qrcodegen_encodeText` with the program's settings, and `MultiByteToWideChar` into a
buffer of `PD_UI_URL_CAPACITY` characters. -/
structure UiPlatform where
  encodeText : Bytes → Option QrCode
  multiByteToWideChar : Bytes → Option WideString

/-- `pd_qr_encode_text`. -/
def qrEncodeText (platform : UiPlatform) (text : Bytes) : Option QrCode :=
  if text = [] then none else platform.encodeText text

inductive UiState
  | connecting
  | ready
  | receiving
  | verifying
  | complete
  | failed
  deriving DecidableEq, Repr

/-- `pd_app`. A handle is the number of the thread that it was made for. -/
structure App where
  window : Bool
  worker : Option ℕ
  session : ReceiverSession
  qr : QrCode
  relayBase : CString
  publicUrl : Bytes
  publicUrlWide : WideString
  jobsRoot : WideString
  state : UiState
  runtimeResult : Win32ReceiverRuntimeResult
  receivedBytes : UInt64
  totalBytes : UInt64
  qrValid : Bool

/-- The zeroed application. -/
def App.zero : App where
  window := false
  worker := none
  session := receiverSessionReset
  qr := .zero
  relayBase := ⟨[], by simp⟩
  publicUrl := []
  publicUrlWide := []
  jobsRoot := []
  state := .connecting
  runtimeResult := .ok
  receivedBytes := 0
  totalBytes := 0
  qrValid := false

def uiSessionTtlMs : UInt64 := 300000

/-- `pd_copy_bytes` of a whole string. -/
def copyBytes (capacity : ℕ) (source : CString) : Option CString :=
  if capacity < source.val.length + 1 then none else some source

def defaultRelayBase : CString :=
  ⟨ascii ['h', 't', 't', 'p', 's', ':', '/', '/', 's', 'e', 'n', 'd', '.', 'p', 'r', 'i', 'n', 't',
    'd', 'r', 'o', 'p', '.', 'a', 'p', 'p'], by decide⟩

/-- `pd_load_relay_base`, given the value of `PRINTDROP_BASE_URL`. -/
def loadRelayBase (environment : Option CString) : Option CString :=
  let read := getEnvironmentVariable environment uiRelayCapacity
  if read.1 = 0 then copyBytes uiRelayCapacity defaultRelayBase
  else if read.1 < uiRelayCapacity then read.2
  else none

def jobsComponent : WideString :=
  ['\\', 'P', 'r', 'i', 'n', 't', 'D', 'r', 'o', 'p'].map fun character =>
    UInt16.ofNat character.toNat

/-- `pd_prepare_jobs_root`, given the folder of documents if there is one. `wcscat_s` checks
the same length again. -/
def prepareJobsRoot (documents : Option WideString) : Option WideString :=
  match documents with
  | none => none
  | some documents =>
    if win32PathCapacity < documents.length + (jobsComponent.length + 1) then none
    else some (documents ++ jobsComponent)

/-- What the system tells the program while it prepares a session. -/
structure Preparation where
  environment : Option CString
  documents : Option WideString
  nowMs : UInt64
  random : Option SessionEntropy

def App.closeSession (app : App) : App := { app with session := receiverSessionClose app.session }

/-- The part of `pd_prepare_session` that follows the making of the URL. -/
def showUrl (platform : UiPlatform) (app : App) : Bool × App :=
  match qrEncodeText platform app.publicUrl with
  | none => (false, { app with qr := .zero }.closeSession)
  | some code =>
    match platform.multiByteToWideChar app.publicUrl with
    | none => (false, { app with qr := code }.closeSession)
    | some wide =>
      (true, { app with
        qr := code
        publicUrlWide := wide
        qrValid := true
        state := .connecting
        runtimeResult := .ok })

/-- The part of `pd_prepare_session` that follows the creation of the session. -/
def showSession (platform : UiPlatform) (app : App) : Bool × App :=
  match buildSessionPrefix (some app.relayBase) with
  | none => (false, app.closeSession)
  | some sessionPrefix =>
    let built := receiverSessionBuildUrl app.session (some sessionPrefix) (some uiUrlCapacity)
    let publicUrl := built.output.getD app.publicUrl
    if built.result ≠ .ok then (false, { app with publicUrl := publicUrl }.closeSession)
    else showUrl platform { app with publicUrl := publicUrl }

/-- The session that was shown before is shown no more. -/
def App.clear (app : App) : App :=
  { app with
    qrValid := false
    publicUrl := []
    publicUrlWide := []
    receivedBytes := 0
    totalBytes := 0 }

/-- `pd_prepare_session`. -/
def prepareSession (platform : UiPlatform) (app : App) (given : Preparation) : Bool × App :=
  match loadRelayBase given.environment with
  | none => (false, app.clear)
  | some base =>
    match prepareJobsRoot given.documents with
    | none => (false, { app.clear with relayBase := base })
    | some root =>
      let created := receiverSessionCreate app.session given.nowMs uiSessionTtlMs
        (some given.random)
      let app := { app.clear with relayBase := base, jobsRoot := root, session := created.2 }
      if created.1 ≠ .ok then (false, app) else showSession platform app

/-- `pd_state_text`. -/
def stateText (app : App) : String :=
  match app.state with
  | .connecting => "Connecting to relay"
  | .ready => "Ready - scan the QR code"
  | .receiving => "Receiving file"
  | .verifying => "Verifying SHA-256"
  | .complete => "Complete - preparing next QR"
  | .failed =>
    match app.runtimeResult with
    | .registrationError => "Relay registration failed"
    | .relayError => "Relay connection failed"
    | .storageError => "Could not write the file"
    | .protocolError => "Transfer protocol failed"
    | .endpointError => "Relay URL is invalid"
    | _ => "PrintDrop failed to start"

/-- What `pd_paint` puts on the screen: the code, or a text in its place, the status, the
URL, the progress and the jobs root. -/
structure Screen where
  code : Option QrCode
  placeholder : Option String
  status : String
  url : Option WideString
  progress : Option (UInt64 × UInt64)
  path : Option WideString

/-- `pd_paint`. -/
def paint (app : App) : Screen :=
  let showQr := app.qrValid &&
    (app.state == .ready || app.state == .receiving || app.state == .verifying)
  { code := if showQr then some app.qr else none
    placeholder :=
      if showQr then none
      else if app.state = .complete then some "Transfer complete"
      else if app.state = .failed then some "Receiver unavailable"
      else some "Preparing QR code..."
    status := stateText app
    url := if app.publicUrlWide.isEmpty then none else some app.publicUrlWide
    progress :=
      if app.state == .receiving || app.state == .verifying || app.state == .complete then
        some (app.receivedBytes, app.totalBytes)
      else none
    path := if app.jobsRoot.isEmpty then none else some app.jobsRoot }

end PrintDrop.Desktop
