/-
# The receiver's secret

Where the secret of a session goes: `win32_relay_registration.c`, the beginning of
`win32_relay_client.c`, and `win32_receiver_runtime.c`, which calls both. libcurl and the
heap are asked one call after another and may answer anything; what a request is set up
with is part of the calls.

Calls that return nothing are left out, and so is the text of an error. Once the relay is
connected the loop only makes calls on the connection: any number of them, with any result.
-/

import PrintDrop.Math.Dialogue
import PrintDrop.Receiver.RelayRegistration
import PrintDrop.Receiver.Handler
import PrintDrop.Receiver.Loop

namespace PrintDrop

open Math

/-- The two easy handles of a session: that of `pd_win32_relay_register_session` and that
of the client. -/
inductive CurlHandle
  | registration
  | client
  deriving DecidableEq, Repr

/-- An option as it is set by `curl_easy_setopt`. -/
inductive CurlOption
  | errorBuffer
  | url (url : Bytes)
  | httpHeader (headers : List Bytes)
  | post (value : ℕ)
  | postFields (body : Bytes)
  | postFieldSize (size : ℕ)
  | writeFunction
  | connectOnly (value : ℕ)
  | connectTimeoutMs (value : ℕ)
  | timeoutMs (value : ℕ)
  | sslVerifyPeer (value : ℕ)
  | sslVerifyHost (value : ℕ)
  | followLocation (value : ℕ)
  | noSignal (value : ℕ)
  deriving DecidableEq, Repr

/-- What the loop asks of the connection. -/
inductive ConnectionCall
  | wsSend (data : Bytes)
  | wsRecv
  | waitSocket
  deriving DecidableEq, Repr

/-- A call of libcurl or of the heap; `set` are the options that the handle has by then. -/
inductive RelayCall
  | globalInit
  | heapAlloc (size : ℕ)
  | easyInit (handle : CurlHandle)
  | slistAppend (text : Bytes)
  | setOpt (handle : CurlHandle) (set : List CurlOption) (option : CurlOption)
  | perform (handle : CurlHandle) (set : List CurlOption)
  | getResponseCode (handle : CurlHandle)
  | onConnection (call : ConnectionCall)
  deriving DecidableEq, Repr

/-- `ok` where a call returns CURLE_OK or a pointer. -/
structure RelayAnswer where
  ok : Bool
  responseCode : ℤ
  deriving DecidableEq, Repr

/-- A function that calls libcurl and the heap. -/
abbrev RelayProgram := Dialogue RelayCall RelayAnswer

/-- The options one after another, while each is set. The options of the handle, if all
were. -/
def curlSetOpts (handle : CurlHandle) :
    List CurlOption → List CurlOption → RelayProgram (Option (List CurlOption))
  | set, [] => pure (some set)
  | set, option :: rest => do
    let answer ← Dialogue.question (.setOpt handle set option)
    if answer.ok then curlSetOpts handle (set ++ [option]) rest else pure none

inductive Win32RelayRegistrationResult
  | ok
  | invalidArgument
  | invalidRequest
  | authRejected
  | conflict
  | httpError
  | curlError
  deriving DecidableEq, Repr

/-- `pd_secret_is_lower_hex`. -/
def secretIsLowerHex (value : Option CString) : Bool := isLowerHex value receiverSecretHexChars

/-- `pd_base_url_requires_insecure_opt_in`. -/
def baseUrlRequiresInsecureOptIn (baseUrl : Option CString) : Bool :=
  match baseUrl with
  | none => false
  | some baseUrl =>
    httpPrefix.length < baseUrl.val.length && baseUrl.val.take httpPrefix.length == httpPrefix

def authPrefix : Bytes :=
  ascii ['A', 'u', 't', 'h', 'o', 'r', 'i', 'z', 'a', 't', 'i', 'o', 'n', ':', ' ',
    'B', 'e', 'a', 'r', 'e', 'r', ' ']

/-- The header that both functions put together. -/
def authHeader (receiverSecret : CString) : Bytes :=
  authPrefix ++ receiverSecret.val.take receiverSecretHexChars

def contentTypeHeader : Bytes :=
  ascii ['C', 'o', 'n', 't', 'e', 'n', 't', '-', 'T', 'y', 'p', 'e', ':', ' ',
    'a', 'p', 'p', 'l', 'i', 'c', 'a', 't', 'i', 'o', 'n', '/', 'j', 's', 'o', 'n']

/-- The options of the registration's request. -/
def registrationOptions (endpoint body : Bytes) (bodySize : ℕ) (headers : List Bytes) :
    List CurlOption :=
  [.errorBuffer, .url endpoint, .httpHeader headers, .post 1, .postFields body,
    .postFieldSize bodySize, .writeFunction, .connectTimeoutMs 10000, .timeoutMs 15000,
    .sslVerifyPeer 1, .sslVerifyHost 2, .followLocation 0, .noSignal 1]

def registrationResultOfResponse (responseCode : ℤ) : Win32RelayRegistrationResult :=
  if responseCode = 200 ∨ responseCode = 201 then .ok
  else if responseCode = 401 ∨ responseCode = 403 then .authRejected
  else if responseCode = 409 then .conflict
  else .httpError

/-- The part of `pd_win32_relay_register_session` that follows its checks. -/
def registrationRequest (endpoint body : Bytes) (bodySize : ℕ) (receiverSecret : CString) :
    RelayProgram Win32RelayRegistrationResult := do
  let easy ← Dialogue.question (.easyInit .registration)
  if !easy.ok then return .curlError
  let contentType ← Dialogue.question (.slistAppend contentTypeHeader)
  if !contentType.ok then return .curlError
  let authorization ← Dialogue.question (.slistAppend (authHeader receiverSecret))
  if !authorization.ok then return .curlError
  match ← curlSetOpts .registration []
    (registrationOptions endpoint body bodySize [contentTypeHeader, authHeader receiverSecret]) with
  | none => return .curlError
  | some set =>
    let performed ← Dialogue.question (.perform .registration set)
    if !performed.ok then return .curlError
    let response ← Dialogue.question (.getResponseCode .registration)
    if !response.ok then return .curlError
    return registrationResultOfResponse response.responseCode

/-- `pd_win32_relay_register_session`, in an environment with the given value of
`PRINTDROP_ALLOW_INSECURE_HTTP`. -/
def win32RelayRegisterSession (insecure httpsBaseUrl sessionId receiverSecret : Option CString) :
    RelayProgram Win32RelayRegistrationResult :=
  match httpsBaseUrl, sessionId, receiverSecret with
  | some base, some sessionId, some receiverSecret =>
    if (baseUrlRequiresInsecureOptIn (some base) && !insecureHttpEnabled insecure) ||
        !secretIsLowerHex (some receiverSecret) then
      pure .invalidRequest
    else
      match relayRegistrationBuildEndpoint (some base) (some relayRegistrationEndpointCapacity),
        relayRegistrationBuildBody (some sessionId) (some relayRegistrationBodyCapacity) with
      | ⟨.ok, some endpoint⟩, (⟨.ok, some body⟩, bodySize) =>
        registrationRequest endpoint body bodySize receiverSecret
      | _, _ => pure .invalidRequest
  | _, _, _ => pure .invalidArgument

inductive RelayClientInitResult
  | ok
  | invalidArgument
  | invalidUrl
  | invalidSecret
  | curlError
  deriving DecidableEq, Repr

/-- `pd_receiver_secret_is_valid`. -/
def receiverSecretIsValid (secret : Option CString) : Bool :=
  isLowerHex secret receiverSecretHexChars

/-- The options of the client's request. -/
def clientOptions (wssUrl : Bytes) (headers : List Bytes) : List CurlOption :=
  [.errorBuffer, .url wssUrl, .httpHeader headers, .connectOnly 2, .connectTimeoutMs 10000,
    .sslVerifyPeer 1, .sslVerifyHost 2, .followLocation 0]

/-- `pd_win32_relay_client_init`: its result, and the options of the handle of a client that
it has prepared. -/
def win32RelayClientInit (insecure wssUrl receiverSecret : Option CString) :
    RelayProgram (RelayClientInitResult × Option (List CurlOption)) :=
  match wssUrl, receiverSecret with
  | some wssUrl, some receiverSecret =>
    if !relayUrlIsAllowed insecure (some wssUrl) then pure (.invalidUrl, none)
    else if !receiverSecretIsValid (some receiverSecret) then pure (.invalidSecret, none)
    else do
      let buffer ← Dialogue.question (.heapAlloc relayWsMessageMaxSize)
      if !buffer.ok then return (.curlError, none)
      let easy ← Dialogue.question (.easyInit .client)
      if !easy.ok then return (.curlError, none)
      let authorization ← Dialogue.question (.slistAppend (authHeader receiverSecret))
      if !authorization.ok then return (.curlError, none)
      match ← curlSetOpts .client [] (clientOptions wssUrl.val [authHeader receiverSecret]) with
      | none => return (.curlError, none)
      | some set => return (.ok, some set)
  | _, _ => pure (.invalidArgument, none)

/-- `pd_win32_relay_client_connect` of a client that has been prepared. -/
def win32RelayClientConnect (set : List CurlOption) : RelayProgram Bool := do
  let performed ← Dialogue.question (.perform .client set)
  return performed.ok

inductive Win32ReceiverRuntimeResult
  | ok
  | invalidArgument
  | endpointError
  | registrationError
  | relayError
  | storageError
  | protocolError
  deriving DecidableEq, Repr

/-- The calls of a loop, one after another. -/
def connectionCalls : List ConnectionCall → RelayProgram Unit
  | [] => pure ()
  | call :: rest => do
    let _ ← Dialogue.question (.onConnection call)
    connectionCalls rest

def runtimeResultOfLoop (result : ReceiverLoopResult) : Win32ReceiverRuntimeResult :=
  match result with
  | .ok => .ok
  | .receiveError => .relayError
  | .sendError => .relayError
  | .protocolError => .protocolError

/-- The part of `pd_win32_receiver_run_session` that follows the registration. -/
def connectedSession (insecure : Option CString) (receiverUrl : Bytes) (session : ReceiverSession)
    (jobsRootDirectory : WideString) (served : List ConnectionCall × ReceiverLoopResult) :
    RelayProgram Win32ReceiverRuntimeResult := do
  match ← win32RelayClientInit insecure (some (cString receiverUrl))
    (some (cString session.receiverSecret.toList)) with
  | (.ok, some set) =>
    let connected ← win32RelayClientConnect set
    if !connected then return .relayError
    match win32ReceiveHandlerInit jobsRootDirectory () () [] with
    | .error _ => return .storageError
    | .ok _ =>
      connectionCalls served.1
      return runtimeResultOfLoop served.2
  | _ => return .relayError

/-- `pd_win32_receiver_run_session`, with the session that it leaves behind. What the loop
asks of the connection, and how it ends, is given. -/
def win32ReceiverRunSession (insecure relayHttpsBaseUrl : Option CString)
    (session : Option ReceiverSession) (jobsRootDirectory : Option WideString)
    (served : List ConnectionCall × ReceiverLoopResult) :
    RelayProgram (Win32ReceiverRuntimeResult × Option ReceiverSession) :=
  match relayHttpsBaseUrl, session, jobsRootDirectory with
  | some base, some session, some root =>
    if session.state ≠ .waiting ∨ byteAt session.token.toList 0 = 0 ∨
        byteAt session.receiverSecret.toList 0 = 0 then
      pure (.invalidArgument, some session)
    else
      match relayBuildReceiverWssUrl (some base) (some (cString session.token.toList))
        (some relayEndpointCapacity) with
      | ⟨.ok, some receiverUrl⟩ => do
        let initialized ← Dialogue.question .globalInit
        if !initialized.ok then return (.relayError, some session)
        let registered ← win32RelayRegisterSession insecure (some base)
          (some (cString session.token.toList)) (some (cString session.receiverSecret.toList))
        if registered ≠ .ok then return (.registrationError, some session)
        let result ← connectedSession insecure receiverUrl session root served
        return (result, some (receiverSessionClose session))
      | _ => pure (.endpointError, some session)
  | _, session, _ => pure (.invalidArgument, session)

/-! ## Where the secret goes -/

/-- The options of the request that a call works on. -/
def RelayCall.options : RelayCall → List CurlOption
  | .setOpt _ set option => set ++ [option]
  | .perform _ set => set
  | _ => []

/-- The handle of the request that a call works on. -/
def RelayCall.handle? : RelayCall → Option CurlHandle
  | .setOpt handle _ _ => some handle
  | .perform handle _ => some handle
  | _ => none

def CurlOption.url? : CurlOption → Option Bytes
  | .url text => some text
  | _ => none

/-- The texts that an option puts into the request. -/
def CurlOption.texts : CurlOption → List Bytes
  | .url text => [text]
  | .httpHeader headers => headers
  | .postFields body => [body]
  | _ => []

/-- The URL that was set last. -/
def requestUrl (options : List CurlOption) : Option Bytes :=
  options.reverse.findSome? CurlOption.url?

/-- The text occurs somewhere in the request. -/
def RelayCall.PutsIntoRequest (call : RelayCall) (secret : Bytes) : Prop :=
  ∃ option ∈ call.options, ∃ text ∈ option.texts, secret <:+: text

/-- libcurl is given the text. -/
def RelayCall.Discloses (call : RelayCall) (secret : Bytes) : Prop :=
  call.PutsIntoRequest secret ∨ ∃ text, call = .slistAppend text ∧ secret <:+: text

/-- A base over https, and its own text after the scheme: all but the slashes at its end. -/
structure SecureBase (base : CString) (authority : Bytes) : Prop where
  split : ∃ slashes, base.val = httpsPrefix ++ authority ++ List.replicate slashes urlSlash
  nonempty : authority ≠ []
  last : authority.getLast? ≠ some urlSlash

/-- The URLs under such a base: that of the registration, and that of the client. -/
inductive SecureUrl (base : CString) : CurlHandle → Bytes → Prop
  | registration {authority : Bytes} (hbase : SecureBase base authority) :
    SecureUrl base .registration (httpsPrefix ++ authority ++ sessionsPath)
  | client {authority sessionId : Bytes} (hbase : SecureBase base authority) :
    SecureUrl base .client (wssPrefix ++ authority ++ receiverPath ++ sessionId)

/-- The call puts the secret into a request to a secure URL of the base only, and libcurl
gets to know it only where the base is a secure one. -/
structure KeepsSecret (base : CString) (secret : Bytes) (call : RelayCall) : Prop where
  requests : call.PutsIntoRequest secret → ∃ handle url,
    call.handle? = some handle ∧ requestUrl call.options = some url ∧ SecureUrl base handle url
  disclosed : call.Discloses secret → httpsPrefix <+: base.val

section Calls

variable {base : CString} {secret : Bytes}

theorem SecureUrl.base_secure {handle : CurlHandle} {url : Bytes}
    (hurl : SecureUrl base handle url) : httpsPrefix <+: base.val := by
  have hbegins : ∀ {authority : Bytes}, SecureBase base authority →
      httpsPrefix <+: base.val := by
    intro authority hbase
    obtain ⟨slashes, hsplit⟩ := hbase.split
    rw [hsplit, List.append_assoc]
    exact List.prefix_append _ _
  cases hurl with
  | registration hbase => exact hbegins hbase
  | client hbase => exact hbegins hbase

/-- A call without options and without a text gives nothing away. -/
theorem keepsSecret_of_silent {call : RelayCall} (hoptions : call.options = [])
    (htext : ∀ text, call ≠ .slistAppend text) : KeepsSecret base secret call := by
  have hnone : ¬call.PutsIntoRequest secret := by
    rintro ⟨option, hoption, -⟩
    rw [hoptions] at hoption
    cases hoption
  refine ⟨fun hputs => absurd hputs hnone, ?_⟩
  rintro (hputs | ⟨text, hcall, -⟩)
  · exact absurd hputs hnone
  · exact absurd hcall (htext text)

theorem keepsSecret_slistAppend (hbase : httpsPrefix <+: base.val) (text : Bytes) :
    KeepsSecret base secret (.slistAppend text) := by
  refine ⟨?_, fun _ => hbase⟩
  rintro ⟨option, hoption, -⟩
  cases hoption

/-- Once a request has a text, its URL has been set, and is not set again. -/
theorem requestUrl_of_taken {taken tail : List CurlOption} {url : Bytes}
    (htaken : taken <+: .errorBuffer :: .url url :: tail)
    (htail : ∀ option ∈ tail, option.url? = none)
    (htext : ∃ option ∈ taken, option.texts ≠ []) : requestUrl taken = some url := by
  obtain ⟨other, hother, htexts⟩ := htext
  obtain ⟨rest, hsplit⟩ := htaken
  rcases taken with _ | ⟨first, _ | ⟨second, taken⟩⟩
  · cases hother
  · simp only [List.cons_append, List.cons.injEq] at hsplit
    obtain ⟨rfl, -⟩ := hsplit
    rw [List.mem_singleton.mp hother] at htexts
    exact absurd rfl htexts
  · simp only [List.cons_append, List.cons.injEq] at hsplit
    obtain ⟨rfl, rfl, rfl⟩ := hsplit
    have hnone : taken.reverse.findSome? CurlOption.url? = none := by
      rw [List.findSome?_eq_none_iff]
      intro option hoption
      exact htail option (List.mem_append_left _ (List.mem_reverse.mp hoption))
    simp only [requestUrl, List.reverse_cons, List.append_assoc, List.findSome?_append, hnone]
    rfl

/-- A call on a request that is being set up for a secure URL. -/
theorem keepsSecret_of_taken {call : RelayCall} {handle : CurlHandle} {tail : List CurlOption}
    {url : Bytes} (hurl : SecureUrl base handle url) (hhandle : call.handle? = some handle)
    (htaken : call.options <+: .errorBuffer :: .url url :: tail)
    (htail : ∀ option ∈ tail, option.url? = none) : KeepsSecret base secret call := by
  refine ⟨?_, fun _ => hurl.base_secure⟩
  rintro ⟨option, hoption, text, htext, -⟩
  have hset : requestUrl call.options = some url :=
    requestUrl_of_taken htaken htail ⟨option, hoption, List.ne_nil_of_mem htext⟩
  exact ⟨handle, url, hhandle, hset, hurl⟩

/-- A call whose failure ends the function. -/
theorem satisfies_askOrStop {α : Type} {allowed : RelayCall → Prop} {post : α → Prop}
    {call : RelayCall} {failure : α} {later : RelayAnswer → RelayProgram α}
    (hallowed : allowed call) (hfailure : post failure)
    (hlater : ∀ answer, (later answer).Satisfies allowed post) :
    (Dialogue.question call >>= fun answer =>
      if !answer.ok then pure failure else later answer).Satisfies allowed post := by
  apply Dialogue.satisfies_ask hallowed
  intro answer
  split
  · exact hfailure
  · exact hlater answer

/-- Setting options asks for one after another, and ends with all of them or none. -/
theorem satisfies_curlSetOpts {allowed : RelayCall → Prop} (handle : CurlHandle)
    (options : List CurlOption) : ∀ set : List CurlOption,
    (∀ before option after, options = before ++ option :: after →
      allowed (.setOpt handle (set ++ before) option)) →
    (curlSetOpts handle set options).Satisfies allowed
      fun result => ∀ taken ∈ result, taken = set ++ options := by
  induction options with
  | nil =>
      intro set _ taken htaken
      rw [List.append_nil]
      exact (Option.some.inj htaken).symm
  | cons option rest ih =>
      intro set hallowed
      unfold curlSetOpts
      have hfirst : allowed (.setOpt handle set option) := by
        simpa using hallowed [] option rest rfl
      refine Dialogue.satisfies_ask hfirst fun answer => ?_
      split
      · have hrest := ih (set ++ [option]) fun before other after hsplit => by
          simpa using hallowed (option :: before) other after (by rw [hsplit]; rfl)
        refine hrest.mono (fun _ => id) fun result hresult taken htaken => ?_
        rw [hresult taken htaken, List.append_assoc]
        rfl
      · refine Dialogue.satisfies_pure fun taken htaken => ?_
        cases htaken

/-- Setting up a request to a secure URL and making it. -/
theorem satisfies_request {handle : CurlHandle} {url : Bytes} (hurl : SecureUrl base handle url)
    {tail : List CurlOption} (htail : ∀ option ∈ tail, option.url? = none) :
    (curlSetOpts handle [] (.errorBuffer :: .url url :: tail)).Satisfies
      (KeepsSecret base secret) fun result => ∀ set ∈ result,
        KeepsSecret base secret (.perform handle set) := by
  refine (satisfies_curlSetOpts handle _ [] fun before option after hsplit => ?_).mono
    (fun _ => id) fun result hresult set hset => ?_
  · have htaken : (RelayCall.setOpt handle ([] ++ before) option).options <+:
        .errorBuffer :: .url url :: tail := by
      rw [hsplit]
      exact ⟨after, by simp [RelayCall.options]⟩
    exact keepsSecret_of_taken hurl rfl htaken htail
  · have htaken : (RelayCall.perform handle set).options <+:
        .errorBuffer :: .url url :: tail := by
      rw [hresult set hset]
      exact List.prefix_refl _
    exact keepsSecret_of_taken hurl rfl htaken htail

theorem satisfies_registrationRequest {endpoint : Bytes}
    (hurl : SecureUrl base .registration endpoint) (body : Bytes) (bodySize : ℕ)
    (receiverSecret : CString) :
    (registrationRequest endpoint body bodySize receiverSecret).Satisfies
      (KeepsSecret base secret) fun _ => True := by
  unfold registrationRequest
  apply satisfies_askOrStop (keepsSecret_of_silent rfl (by simp)) trivial
  intro _
  apply satisfies_askOrStop (keepsSecret_slistAppend hurl.base_secure _) trivial
  intro _
  apply satisfies_askOrStop (keepsSecret_slistAppend hurl.base_secure _) trivial
  intro _
  refine (satisfies_request hurl (by simp [CurlOption.url?])).bind fun set hset => ?_
  split
  · exact trivial
  apply satisfies_askOrStop (hset _ rfl) trivial
  intro _
  apply satisfies_askOrStop (keepsSecret_of_silent rfl (by simp)) trivial
  intro _
  exact trivial

/-- A base that is normalised to an insecure one requires the opt-in. -/
theorem requiresOptIn_of_not_secure {normalized : NormalizedBase} {authority : Bytes}
    {slashes : ℕ} (hparts : BaseParts base normalized authority slashes)
    (hinsecure : normalized.secure = false) :
    baseUrlRequiresInsecureOptIn (some base) = true := by
  have hscheme : schemePrefix normalized.secure = httpPrefix := by rw [hinsecure]; rfl
  have hlength : 0 < authority.length := List.length_pos_iff.mpr hparts.nonempty
  simp only [baseUrlRequiresInsecureOptIn, Bool.and_eq_true, decide_eq_true_eq, beq_iff_eq]
  rw [hparts.split, hscheme, List.append_assoc, List.take_left, List.length_append,
    List.length_append]
  exact ⟨by omega, rfl⟩

theorem BaseParts.secureBase {normalized : NormalizedBase} {authority : Bytes} {slashes : ℕ}
    (hparts : BaseParts base normalized authority slashes) (hsecure : normalized.secure = true) :
    SecureBase base authority := by
  have hsplit := hparts.split
  rw [hsecure] at hsplit
  exact ⟨⟨slashes, hsplit⟩, hparts.nonempty, hparts.last⟩

/-- Without the opt-in a session is registered at a secure endpoint only. -/
theorem secure_of_registrationEndpoint {insecure : Option CString}
    (hinsecure : insecureHttpEnabled insecure = false) {endpoint : Bytes}
    (hoptIn : (baseUrlRequiresInsecureOptIn (some base) && !insecureHttpEnabled insecure) = false)
    (hendpoint : relayRegistrationBuildEndpoint (some base)
      (some relayRegistrationEndpointCapacity) = ⟨.ok, some endpoint⟩) :
    SecureUrl base .registration endpoint := by
  cases hnormalized : normalizeBase (some base) with
  | error result =>
      rw [relayRegistrationBuildEndpoint_error hnormalized] at hendpoint
      cases hendpoint
  | ok normalized =>
      obtain ⟨slashes, hparts⟩ := exists_baseParts hnormalized
      rw [hinsecure, Bool.not_false, Bool.and_true] at hoptIn
      have hsecure : normalized.secure = true := by
        by_contra hplain
        rw [requiresOptIn_of_not_secure hparts (Bool.eq_false_iff.mpr hplain)] at hoptIn
        cases hoptIn
      rw [relayRegistrationBuildEndpoint_eq hnormalized] at hendpoint
      split at hendpoint
      · cases hendpoint
      have hkept : base.val.take normalized.baseLength = httpsPrefix ++ baseAuthority base := by
        rw [hparts.baseLength, hparts.split, List.take_left, hsecure]
        rfl
      have hbuilt : base.val.take normalized.baseLength ++ sessionsPath = endpoint :=
        Option.some.inj (congrArg RelayRegistrationBuilt.output hendpoint)
      rw [← hbuilt, hkept]
      exact .registration (hparts.secureBase hsecure)

theorem satisfies_registerSession {insecure : Option CString}
    (hinsecure : insecureHttpEnabled insecure = false)
    (sessionId receiverSecret : Option CString) :
    (win32RelayRegisterSession insecure (some base) sessionId receiverSecret).Satisfies
      (KeepsSecret base secret) fun _ => True := by
  cases sessionId with
  | none => exact trivial
  | some sessionId =>
  cases receiverSecret with
  | none => exact trivial
  | some receiverSecret =>
  simp only [win32RelayRegisterSession]
  split
  · exact trivial
  rename_i hchecked
  rw [Bool.or_eq_true, not_or, Bool.not_eq_true] at hchecked
  split
  · rename_i endpoint body bodySize hendpoint _
    have hurl := secure_of_registrationEndpoint hinsecure hchecked.1 hendpoint
    exact satisfies_registrationRequest hurl body bodySize receiverSecret
  · exact trivial

/-- What is known of the result of `pd_win32_relay_client_init`. -/
def PreparedSafely (base : CString) (secret : Bytes)
    (prepared : RelayClientInitResult × Option (List CurlOption)) : Prop :=
  ∀ set ∈ prepared.2, KeepsSecret base secret (.perform .client set)

theorem preparedSafely_none (result : RelayClientInitResult) :
    PreparedSafely base secret (result, none) := by
  intro set hset
  cases hset

/-- The client is prepared for the URLs that it allows only. -/
theorem satisfies_clientInit {insecure : Option CString} {wssUrl : CString}
    (hurl : relayUrlIsAllowed insecure (some wssUrl) = true → SecureUrl base .client wssUrl.val)
    (receiverSecret : Option CString) :
    (win32RelayClientInit insecure (some wssUrl) receiverSecret).Satisfies
      (KeepsSecret base secret) (PreparedSafely base secret) := by
  cases receiverSecret with
  | none => exact preparedSafely_none _
  | some receiverSecret =>
  simp only [win32RelayClientInit]
  split
  · exact preparedSafely_none _
  rename_i hallowed
  have hsecure : SecureUrl base .client wssUrl.val := hurl (by simpa using hallowed)
  split
  · exact preparedSafely_none _
  apply satisfies_askOrStop (keepsSecret_of_silent rfl (by simp)) (preparedSafely_none _)
  intro _
  apply satisfies_askOrStop (keepsSecret_of_silent rfl (by simp)) (preparedSafely_none _)
  intro _
  apply satisfies_askOrStop (keepsSecret_slistAppend hsecure.base_secure _)
    (preparedSafely_none _)
  intro _
  refine (satisfies_request hsecure (by simp [CurlOption.url?])).bind fun result hset => ?_
  split
  · exact preparedSafely_none _
  · exact hset

theorem satisfies_clientConnect {set : List CurlOption}
    (hperform : KeepsSecret base secret (.perform .client set)) :
    (win32RelayClientConnect set).Satisfies (KeepsSecret base secret) fun _ => True :=
  (Dialogue.satisfies_question hperform).bind fun _ _ => trivial

/-- Without the opt-in the client takes the URL that the builder made over https only. -/
theorem secure_of_receiverUrl {insecure : Option CString}
    (hinsecure : insecureHttpEnabled insecure = false) {sessionId : CString} {receiverUrl : Bytes}
    (hbuilt : relayBuildReceiverWssUrl (some base) (some sessionId) (some relayEndpointCapacity) =
      ⟨.ok, some receiverUrl⟩)
    (hallowed : relayUrlIsAllowed insecure (some (cString receiverUrl)) = true) :
    SecureUrl base .client (cString receiverUrl).val := by
  obtain ⟨normalized, hnormalized⟩ := exists_normalized_of_buildWsPath_ok
    (congrArg RelayEndpointBuilt.result hbuilt)
  obtain ⟨slashes, hparts⟩ := exists_baseParts hnormalized
  have hvalid : sessionIdIsValid (some sessionId) = true := by
    by_contra hinvalid
    rw [Bool.not_eq_true] at hinvalid
    simp only [relayBuildReceiverWssUrl, buildWsPath, hinvalid, Bool.not_false, if_true] at hbuilt
    cases hbuilt
  rw [relayBuildReceiverWssUrl, buildWsPath_eq_ok hnormalized le_rfl hvalid] at hbuilt
  have hurl := Option.some.inj (congrArg RelayEndpointBuilt.output hbuilt)
  have hterminated : (0 : UInt8) ∉ receiverUrl := by
    have hscheme : (0 : UInt8) ∉ webSocketPrefix normalized.secure := by
      cases normalized.secure <;> decide
    have hauthority : (0 : UInt8) ∉ baseAuthority base := by
      intro hmem
      apply base.property
      rw [hparts.split]
      simp [hmem]
    rw [← hurl]
    simp only [List.mem_append, not_or]
    exact ⟨⟨⟨hscheme, hauthority⟩, by decide⟩, sessionId.property⟩
  have hwss := relayUrlIsAllowed_of_not_insecure hinsecure hallowed
  rw [cString_of_terminated hterminated, ← hurl] at hwss ⊢
  have hsecure : normalized.secure = true := by
    by_contra hplain
    rw [Bool.eq_false_iff.mpr hplain, List.append_assoc, List.append_assoc] at hwss
    have hws := List.prefix_of_prefix_length_le (List.prefix_append wsPrefix _) hwss (by decide)
    exact absurd hws (by decide)
  rw [hsecure]
  exact .client (hparts.secureBase hsecure)

theorem satisfies_connectionCalls (calls : List ConnectionCall) :
    (connectionCalls calls).Satisfies (KeepsSecret base secret) fun _ => True := by
  induction calls with
  | nil => exact trivial
  | cons call rest ih =>
      refine Dialogue.satisfies_ask (keepsSecret_of_silent rfl (by simp)) fun _ => ?_
      exact ih

theorem satisfies_connectedSession {insecure : Option CString} {receiverUrl : Bytes}
    (hurl : relayUrlIsAllowed insecure (some (cString receiverUrl)) = true →
      SecureUrl base .client (cString receiverUrl).val) (session : ReceiverSession)
    (root : WideString) (served : List ConnectionCall × ReceiverLoopResult) :
    (connectedSession insecure receiverUrl session root served).Satisfies
      (KeepsSecret base secret) fun _ => True := by
  unfold connectedSession
  refine (satisfies_clientInit hurl _).bind fun prepared hprepared => ?_
  split
  swap
  · exact trivial
  refine (satisfies_clientConnect (hprepared _ rfl)).bind fun connected _ => ?_
  split
  · exact trivial
  split
  · exact trivial
  exact (satisfies_connectionCalls served.1).bind fun _ _ => trivial

/-- Every call of a session keeps the secret. -/
theorem satisfies_runSession {insecure : Option CString}
    (hinsecure : insecureHttpEnabled insecure = false) (session : Option ReceiverSession)
    (root : Option WideString) (served : List ConnectionCall × ReceiverLoopResult) :
    (win32ReceiverRunSession insecure (some base) session root served).Satisfies
      (KeepsSecret base secret) fun _ => True := by
  cases session with
  | none => exact trivial
  | some session =>
  cases root with
  | none => exact trivial
  | some root =>
  simp only [win32ReceiverRunSession]
  split
  · exact trivial
  split
  swap
  · exact trivial
  rename_i receiverUrl hbuilt
  have hurl := secure_of_receiverUrl hinsecure hbuilt
  apply satisfies_askOrStop (keepsSecret_of_silent rfl (by simp)) trivial
  intro _
  refine (satisfies_registerSession hinsecure _ _).bind fun _ _ => ?_
  split
  · exact trivial
  exact (satisfies_connectedSession hurl session root served).bind fun _ _ => trivial

end Calls

/-- Unless `PRINTDROP_ALLOW_INSECURE_HTTP` is exactly `1`, no call of a session, whatever
libcurl answers, puts the secret into a request to another than a secure URL of the base, and
under a base that is not a secure one libcurl does not get to know the secret. -/
theorem runSession_keepsSecret (insecure : Option CString)
    (hinsecure : ∀ value, insecure = some value → value.val ≠ ascii ['1']) (base : CString)
    (session : ReceiverSession) (root : WideString)
    (served : List ConnectionCall × ReceiverLoopResult)
    (environment : List RelayCall → RelayCall → RelayAnswer) :
    ∀ call ∈ ((win32ReceiverRunSession insecure (some base) (some session) (some root)
        served).run environment []).1,
      KeepsSecret base (cString session.receiverSecret.toList).val call := by
  have hdisabled : insecureHttpEnabled insecure = false := by
    by_contra henabled
    obtain ⟨value, hvalue, hone⟩ := insecureHttpEnabled_iff.mp (by simpa using henabled)
    exact hinsecure value hvalue hone
  have hsatisfies : (win32ReceiverRunSession insecure (some base) (some session) (some root)
      served).Satisfies (KeepsSecret base (cString session.receiverSecret.toList).val)
        fun _ => True := satisfies_runSession hdisabled (some session) (some root) served
  exact (hsatisfies.run environment [] fun call hcall => by cases hcall).1

/-- An environment in which all calls succeed. -/
def obligingEnvironment (_ : List RelayCall) (_ : RelayCall) : RelayAnswer := ⟨true, 201⟩

/-- A session over `https://h` in it, without a frame. -/
def obligingSession : ReceiverSession :=
  (receiverSessionCreate receiverSessionReset 0 300000 (some (some (Vector.replicate _ 0)))).2

def obligingCalls : List RelayCall :=
  ((win32ReceiverRunSession none (some ⟨httpsPrefix ++ ascii ['h'], by decide⟩)
    (some obligingSession) (some [1]) ([.wsRecv], .ok)).run obligingEnvironment []).1

/-- It makes two requests, with thirteen options and with eight. -/
theorem obligingCalls_keepSecret :
    (obligingCalls.filterMap RelayCall.handle?).length = (13 + 1) + (8 + 1) ∧
      ∀ call ∈ obligingCalls, KeepsSecret ⟨httpsPrefix ++ ascii ['h'], by decide⟩
        (cString obligingSession.receiverSecret.toList).val call :=
  ⟨by decide +kernel, runSession_keepsSecret none (by simp) _ obligingSession [1] _ _⟩

end PrintDrop
