/-
# Registering at the relay

`relay_registration.c`: the endpoint and the body of the request that registers a session.
The endpoint is built from the same base URL as the WebSocket URLs of the session, by a
builder of its own; the results at the end say that the two agree on every base.
-/

import PrintDrop.Receiver.RelayEndpoint

namespace PrintDrop

def relayRegistrationEndpointCapacity : ℕ := 512
def relayRegistrationBodyCapacity : ℕ := 64

inductive RelayRegistrationBuildResult
  | ok
  | invalidArgument
  | invalidBaseUrl
  | invalidSessionId
  | bufferTooSmall
  deriving DecidableEq, Repr

/-- What a call of a builder leaves behind: its result, and the string in the output buffer
if it wrote one. -/
structure RelayRegistrationBuilt where
  result : RelayRegistrationBuildResult
  output : Option Bytes
  deriving DecidableEq, Repr

/-- `pd_is_lower_hex`. -/
def isLowerHex (value : Option CString) (expectedLength : ℕ) : Bool :=
  match value with
  | none => false
  | some value => value.val.length == expectedLength && value.val.all isLowerHexDigit

def sessionsPath : Bytes :=
  ascii ['/', 'v', '1', '/', 's', 'e', 's', 's', 'i', 'o', 'n', 's']

/-- The length of the scheme of a base. -/
def registrationSchemeLength (base : Bytes) : Option ℕ :=
  if httpsPrefix.length < base.length ∧ base.take httpsPrefix.length = httpsPrefix then
    some httpsPrefix.length
  else if httpPrefix.length < base.length ∧ base.take httpPrefix.length = httpPrefix then
    some httpPrefix.length
  else none

/-- `pd_relay_registration_build_endpoint`; a null output pointer is an absent capacity. -/
def relayRegistrationBuildEndpoint (httpsBaseUrl : Option CString) (outputCapacity : Option ℕ) :
    RelayRegistrationBuilt :=
  match httpsBaseUrl, outputCapacity with
  | some base, some capacity =>
    match registrationSchemeLength base.val with
    | none => ⟨.invalidBaseUrl, none⟩
    | some schemeLength =>
      if relayBaseUrlMaxBytes < base.val.length ∨ Char.toUInt8 '?' ∈ base.val ∨
          Char.toUInt8 '#' ∈ base.val then
        ⟨.invalidBaseUrl, none⟩
      else
        let trimmedLength := trimSlashes base.val schemeLength base.val.length
        if trimmedLength ≤ schemeLength then ⟨.invalidBaseUrl, none⟩
        else
          let required := trimmedLength + sessionsPath.length + 1
          if capacity < required then
            ⟨.bufferTooSmall, if 0 < capacity then some [] else none⟩
          else ⟨.ok, some (base.val.take trimmedLength ++ sessionsPath)⟩
  | _, _ => ⟨.invalidArgument, none⟩

/-- The JSON text before the identifier. The bytes that are not letters are the opening
brace, the quotes and the colon. -/
def bodyPrefix : Bytes :=
  [0x7b, 0x22] ++ ascii ['s', 'e', 's', 's', 'i', 'o', 'n', '_', 'i', 'd'] ++ [0x22, 0x3a, 0x22]
def bodySuffix : Bytes := [0x22, 0x7d]

/-- `pd_relay_registration_build_body`, with the size it reports. -/
def relayRegistrationBuildBody (sessionId : Option CString) (outputCapacity : Option ℕ) :
    RelayRegistrationBuilt × ℕ :=
  match sessionId, outputCapacity with
  | some sessionId, some capacity =>
    if !isLowerHex (some sessionId) sessionTokenHexChars then (⟨.invalidSessionId, none⟩, 0)
    else
      let required := bodyPrefix.length + sessionTokenHexChars + bodySuffix.length + 1
      if capacity < required then
        (⟨.bufferTooSmall, if 0 < capacity then some [] else none⟩, 0)
      else
        (⟨.ok, some (bodyPrefix ++ sessionId.val.take sessionTokenHexChars ++ bodySuffix)⟩,
          required - 1)
  | _, _ => (⟨.invalidArgument, none⟩, 0)

/-- `GetEnvironmentVariableA` of a variable that may be unset: the length it returns, and
the value if the buffer holds it with its terminator. -/
def getEnvironmentVariable (value : Option CString) (capacity : ℕ) : ℕ × Option CString :=
  match value with
  | none => (0, none)
  | some value =>
    if value.val.length < capacity then (value.val.length, some value)
    else (value.val.length + 1, none)

/-- `pd_insecure_http_enabled`, given the value of `PRINTDROP_ALLOW_INSECURE_HTTP`. -/
def insecureHttpEnabled (value : Option CString) : Bool :=
  let read := getEnvironmentVariable value 2
  read.1 == 1 && read.2.any fun text => byteAt text.val 0 == Char.toUInt8 '1'

def relayUrlMaxBytes : ℕ := 511

/-- `pd_relay_url_is_allowed`. -/
def relayUrlIsAllowed (insecure : Option CString) (url : Option CString) : Bool :=
  match url with
  | none => false
  | some url =>
    (wssPrefix.length < url.val.length && url.val.length ≤ relayUrlMaxBytes &&
        url.val.take wssPrefix.length == wssPrefix) ||
      (insecureHttpEnabled insecure && wsPrefix.length < url.val.length &&
        url.val.length ≤ relayUrlMaxBytes && url.val.take wsPrefix.length == wsPrefix)

/-- The opt-in is the text `1` and nothing else. -/
theorem insecureHttpEnabled_iff {value : Option CString} :
    insecureHttpEnabled value = true ↔ ∃ text, value = some text ∧ text.val = ascii ['1'] := by
  cases value with
  | none => simp [insecureHttpEnabled, getEnvironmentVariable]
  | some text =>
      obtain ⟨text, hterminated⟩ := text
      rcases text with _ | ⟨first, _ | ⟨second, rest⟩⟩
      · simp [insecureHttpEnabled, getEnvironmentVariable, ascii]
      · simp [insecureHttpEnabled, getEnvironmentVariable, ascii, byteAt]
      · have hlong : ¬rest.length + 1 + 1 < 2 := by omega
        simp [insecureHttpEnabled, getEnvironmentVariable, ascii, hlong]

/-- A URL that the client takes without the opt-in goes to a secure WebSocket. -/
theorem relayUrlIsAllowed_of_not_insecure {insecure : Option CString} {url : CString}
    (hinsecure : insecureHttpEnabled insecure = false)
    (hallowed : relayUrlIsAllowed insecure (some url) = true) : wssPrefix <+: url.val := by
  simp only [relayUrlIsAllowed, hinsecure, Bool.false_and, Bool.or_false, Bool.and_eq_true,
    beq_iff_eq] at hallowed
  exact List.prefix_iff_eq_take.mpr hallowed.2.symm

/-! ## One normalisation, written twice -/

theorem registrationSchemeLength_eq (base : Bytes) :
    registrationSchemeLength base = (baseScheme base).map Prod.fst := by
  unfold registrationSchemeLength baseScheme
  split_ifs <;> rfl

/-- What the builder of the endpoint makes of a base that the other builders normalise. -/
theorem relayRegistrationBuildEndpoint_eq {base : CString} {normalized : NormalizedBase}
    (hnormalized : normalizeBase (some base) = .ok normalized) (capacity : ℕ) :
    relayRegistrationBuildEndpoint (some base) (some capacity) =
      if capacity < normalized.baseLength + sessionsPath.length + 1 then
        ⟨.bufferTooSmall, if 0 < capacity then some [] else none⟩
      else ⟨.ok, some (base.val.take normalized.baseLength ++ sessionsPath)⟩ := by
  unfold normalizeBase at hnormalized
  unfold relayRegistrationBuildEndpoint
  dsimp only at hnormalized ⊢
  rw [registrationSchemeLength_eq]
  cases hscheme : baseScheme base.val with
  | none =>
      rw [hscheme] at hnormalized
      cases hnormalized
  | some scheme =>
      rw [hscheme] at hnormalized
      dsimp only [Option.map_some] at hnormalized ⊢
      split at hnormalized
      · cases hnormalized
      rename_i hbounded
      split at hnormalized
      · cases hnormalized
      rename_i hkept
      obtain rfl := Except.ok.inj hnormalized
      rw [if_neg hbounded, if_neg hkept]

/-- It takes no base that the other builders do not normalise. -/
theorem relayRegistrationBuildEndpoint_error {base : CString} {result : RelayEndpointResult}
    (herror : normalizeBase (some base) = .error result) (capacity : ℕ) :
    relayRegistrationBuildEndpoint (some base) (some capacity) = ⟨.invalidBaseUrl, none⟩ := by
  unfold normalizeBase at herror
  unfold relayRegistrationBuildEndpoint
  dsimp only at herror ⊢
  rw [registrationSchemeLength_eq]
  cases hscheme : baseScheme base.val with
  | none => rfl
  | some scheme =>
      rw [hscheme] at herror
      dsimp only [Option.map_some] at herror ⊢
      split at herror
      · rename_i hunbounded
        rw [if_pos hunbounded]
      rename_i hbounded
      split at herror
      · rename_i hslashes
        rw [if_neg hbounded, if_pos hslashes]
      · cases herror

/-- The scheme of a normalised base is the one it begins with. -/
theorem secure_iff_of_prefix {base rest : Bytes} {secure : Bool}
    (hsplit : base = schemePrefix secure ++ rest) :
    (secure = true ↔ httpsPrefix <+: base) ∧ (secure = false ↔ httpPrefix <+: base) := by
  have hown : schemePrefix secure <+: base := ⟨rest, hsplit.symm⟩
  -- No text begins with both.
  have hboth : ¬(httpsPrefix <+: base ∧ httpPrefix <+: base) := by
    rintro ⟨hhttps, hhttp⟩
    exact absurd (List.prefix_of_prefix_length_le hhttp hhttps (by decide)) (by decide)
  cases secure with
  | true =>
      exact ⟨iff_of_true rfl hown, iff_of_false (by decide) fun hhttp => hboth ⟨hown, hhttp⟩⟩
  | false =>
      exact ⟨iff_of_false (by decide) fun hhttps => hboth ⟨hhttps, hown⟩, iff_of_true rfl hown⟩

/-- Nothing but the empty string has been written. -/
def AtMostEmpty (output : Option Bytes) : Prop := output = none ∨ output = some []

theorem atMostEmpty_ite (condition : Prop) [Decidable condition] :
    AtMostEmpty (if condition then some [] else none) := by
  by_cases hcondition : condition
  · exact .inr (if_pos hcondition)
  · exact .inl (if_neg hcondition)

/-- A builder of a WebSocket URL refuses a buffer that does not hold it. -/
theorem buildWsPath_bufferTooSmall {base : CString} {normalized : NormalizedBase}
    (hnormalized : normalizeBase (some base) = .ok normalized) (pathPrefix : Bytes)
    {sessionId : CString} (hvalid : sessionIdIsValid (some sessionId) = true) {capacity : ℕ}
    (hcapacity : capacity <
      (webSocketUrl base normalized.secure pathPrefix sessionId).length + 1) :
    (buildWsPath (some base) pathPrefix (some sessionId) (some capacity)).result =
        .bufferTooSmall ∧
      AtMostEmpty
        (buildWsPath (some base) pathPrefix (some sessionId) (some capacity)).output := by
  rw [buildWsPath_eq hnormalized pathPrefix hvalid]
  dsimp only
  rw [if_pos (.inl hcapacity)]
  exact ⟨rfl, atMostEmpty_ite _⟩

/-- What the three builders make of a base that they take, with the buffers that the program
gives them and with smaller ones. -/
structure UrlsOf (base sessionId : CString) (secure : Bool) (authority : Bytes) (slashes : ℕ) :
    Prop where
  split : base.val = schemePrefix secure ++ authority ++ List.replicate slashes urlSlash
  last : authority ≠ [] ∧ authority.getLast? ≠ some urlSlash
  secure_iff : secure = true ↔ httpsPrefix <+: base.val
  insecure_iff : secure = false ↔ httpPrefix <+: base.val
  endpoint : relayRegistrationBuildEndpoint (some base) (some relayRegistrationEndpointCapacity) =
    ⟨.ok, some (schemePrefix secure ++ authority ++ sessionsPath)⟩
  receiver : relayBuildReceiverWssUrl (some base) (some sessionId) (some relayEndpointCapacity) =
    ⟨.ok, some (webSocketPrefix secure ++ authority ++ receiverPath ++ sessionId.val)⟩
  sender : relayBuildSenderWssUrl (some base) (some sessionId) (some relayEndpointCapacity) =
    ⟨.ok, some (webSocketPrefix secure ++ authority ++ senderPath ++ sessionId.val)⟩
  limit : ∀ path ∈ [receiverPath, senderPath],
    (webSocketPrefix secure ++ authority ++ path ++ sessionId.val).length ≤ relayUrlMaxBytes
  endpointTooSmall : ∀ capacity < (schemePrefix secure ++ authority ++ sessionsPath).length + 1,
    (relayRegistrationBuildEndpoint (some base) (some capacity)).result = .bufferTooSmall ∧
      AtMostEmpty (relayRegistrationBuildEndpoint (some base) (some capacity)).output
  receiverTooSmall : ∀ capacity <
      (webSocketPrefix secure ++ authority ++ receiverPath ++ sessionId.val).length + 1,
    (relayBuildReceiverWssUrl (some base) (some sessionId) (some capacity)).result =
        .bufferTooSmall ∧
      AtMostEmpty (relayBuildReceiverWssUrl (some base) (some sessionId) (some capacity)).output
  senderTooSmall : ∀ capacity <
      (webSocketPrefix secure ++ authority ++ senderPath ++ sessionId.val).length + 1,
    (relayBuildSenderWssUrl (some base) (some sessionId) (some capacity)).result =
        .bufferTooSmall ∧
      AtMostEmpty (relayBuildSenderWssUrl (some base) (some sessionId) (some capacity)).output

theorem urlsOf_of_normalized {base sessionId : CString} {normalized : NormalizedBase}
    (hnormalized : normalizeBase (some base) = .ok normalized)
    (hvalid : sessionIdIsValid (some sessionId) = true) :
    ∃ slashes, UrlsOf base sessionId normalized.secure (baseAuthority base) slashes := by
  obtain ⟨slashes, hparts⟩ := exists_baseParts hnormalized
  have hscheme := secure_iff_of_prefix (hparts.split.trans (List.append_assoc _ _ _))
  have hkept : base.val.take normalized.baseLength =
      schemePrefix normalized.secure ++ baseAuthority base := by
    rw [hparts.baseLength, hparts.split, List.take_left]
  have hendpoint : (schemePrefix normalized.secure ++ baseAuthority base ++ sessionsPath).length =
      normalized.baseLength + sessionsPath.length := by
    rw [List.length_append, hparts.baseLength]
  have hbase : normalized.baseLength ≤ relayBaseUrlMaxBytes := by
    have hbounded := hparts.bounded
    rw [hparts.split, List.length_append] at hbounded
    rw [hparts.baseLength]
    exact Nat.le_of_add_right_le hbounded
  refine ⟨slashes, hparts.split, ⟨hparts.nonempty, hparts.last⟩, hscheme.1, hscheme.2, ?_,
    buildWsPath_eq_ok hnormalized (Nat.le_refl _) hvalid,
    buildWsPath_eq_ok hnormalized (by decide) hvalid, ?_, ?_, ?_, ?_⟩
  · have hpath : sessionsPath.length = 12 := rfl
    have hmax : relayBaseUrlMaxBytes = 447 := rfl
    have hcapacity : relayRegistrationEndpointCapacity = 512 := rfl
    rw [relayRegistrationBuildEndpoint_eq hnormalized, if_neg (by omega), hkept]
  · intro path hpath
    have hlength : path.length ≤ receiverPath.length := by
      rcases List.mem_pair.mp hpath with rfl | rfl <;> decide
    exact (length_webSocketUrl_le hnormalized hlength hvalid).trans (by decide)
  · intro capacity hcapacity
    rw [hendpoint] at hcapacity
    rw [relayRegistrationBuildEndpoint_eq hnormalized, if_pos hcapacity]
    exact ⟨rfl, atMostEmpty_ite _⟩
  · exact fun _ hcapacity => buildWsPath_bufferTooSmall hnormalized _ hvalid hcapacity
  · exact fun _ hcapacity => buildWsPath_bufferTooSmall hnormalized _ hvalid hcapacity

/-- A base that is not normalised is refused by every builder, whatever its buffer. -/
theorem builders_error {base : CString} {result : RelayEndpointResult}
    (herror : normalizeBase (some base) = .error result) {sessionId : CString}
    (hvalid : sessionIdIsValid (some sessionId) = true) (capacity : ℕ) :
    (relayRegistrationBuildEndpoint (some base) (some capacity)).result = .invalidBaseUrl ∧
      ∀ pathPrefix, (buildWsPath (some base) pathPrefix (some sessionId)
        (some capacity)).result = .invalidBaseUrl := by
  obtain rfl := normalizeBase_error_eq herror
  refine ⟨by rw [relayRegistrationBuildEndpoint_error herror], fun pathPrefix => ?_⟩
  simp [buildWsPath, hvalid, herror]

/-- The builders agree on a base and a session. -/
structure UrlBuildersAgree (base sessionId : CString) : Prop where
  receiver : (relayRegistrationBuildEndpoint (some base)
      (some relayRegistrationEndpointCapacity)).result = .ok ↔
    (relayBuildReceiverWssUrl (some base) (some sessionId)
      (some relayEndpointCapacity)).result = .ok
  sender : (relayRegistrationBuildEndpoint (some base)
      (some relayRegistrationEndpointCapacity)).result = .ok ↔
    (relayBuildSenderWssUrl (some base) (some sessionId)
      (some relayEndpointCapacity)).result = .ok
  roomy : (relayRegistrationBuildEndpoint (some base)
        (some relayRegistrationEndpointCapacity)).result ≠ .bufferTooSmall ∧
      (relayBuildReceiverWssUrl (some base) (some sessionId)
        (some relayEndpointCapacity)).result ≠ .bufferTooSmall ∧
      (relayBuildSenderWssUrl (some base) (some sessionId)
        (some relayEndpointCapacity)).result ≠ .bufferTooSmall
  built : (relayRegistrationBuildEndpoint (some base)
      (some relayRegistrationEndpointCapacity)).result = .ok →
    ∃ secure authority slashes, UrlsOf base sessionId secure authority slashes

/-- The two native URL builders agree on every base and every valid session. -/
theorem urlBuilders_agree (base sessionId : CString)
    (hvalid : sessionIdIsValid (some sessionId) = true) : UrlBuildersAgree base sessionId := by
  cases hnormalized : normalizeBase (some base) with
  | error result =>
      obtain ⟨hendpoint, -⟩ :=
        builders_error hnormalized hvalid relayRegistrationEndpointCapacity
      obtain ⟨-, hwebSocket⟩ := builders_error hnormalized hvalid relayEndpointCapacity
      have hreceiver := hwebSocket receiverPath
      have hsender := hwebSocket senderPath
      rw [← relayBuildReceiverWssUrl] at hreceiver
      rw [← relayBuildSenderWssUrl] at hsender
      constructor
      · rw [hendpoint, hreceiver]
        decide
      · rw [hendpoint, hsender]
        decide
      · rw [hendpoint, hreceiver, hsender]
        decide
      · intro hok
        rw [hendpoint] at hok
        cases hok
  | ok normalized =>
      obtain ⟨slashes, hurls⟩ := urlsOf_of_normalized hnormalized hvalid
      constructor
      · rw [hurls.endpoint, hurls.receiver]
        exact iff_of_true rfl rfl
      · rw [hurls.endpoint, hurls.sender]
        exact iff_of_true rfl rfl
      · rw [hurls.endpoint, hurls.receiver, hurls.sender]
        exact ⟨(by rintro ⟨⟩), (by rintro ⟨⟩), (by rintro ⟨⟩)⟩
      · exact fun _ => ⟨_, _, slashes, hurls⟩

/-- The URLs of a base of nothing but a host and slashes. -/
theorem urlBuilders_agree_slashes :
    UrlBuildersAgree ⟨httpPrefix ++ ascii ['a', '/', '/'], by decide⟩
      ⟨List.replicate 32 (Char.toUInt8 '0'), by decide⟩ :=
  urlBuilders_agree _ _ (by decide)

end PrintDrop
