/-
# Relay endpoints

`relay_endpoint.c`: the WebSocket URLs at which the receiver and the sender of a session
meet. Both are the base URL under the WebSocket scheme and without its trailing slashes,
with a path for the role and the identifier of the session.
-/

import PrintDrop.Receiver.Session

namespace PrintDrop

def relayBaseUrlMaxBytes : ℕ := 447
def relayEndpointMaxBytes : ℕ := 511
def relayEndpointCapacity : ℕ := relayEndpointMaxBytes + 1

inductive RelayEndpointResult
  | ok
  | invalidArgument
  | invalidBaseUrl
  | invalidSessionId
  | bufferTooSmall
  deriving DecidableEq, Repr

/-- What a call of a builder leaves behind: its result, and the string in the output buffer
if it wrote one. -/
structure RelayEndpointBuilt where
  result : RelayEndpointResult
  output : Option Bytes
  deriving DecidableEq, Repr

/-- `pd_session_id_is_valid`. -/
def sessionIdIsValid (sessionId : Option CString) : Bool :=
  match sessionId with
  | none => false
  | some sessionId =>
    sessionId.val.length == sessionTokenHexChars && sessionId.val.all isLowerHexDigit

theorem length_of_sessionIdIsValid {sessionId : CString}
    (hvalid : sessionIdIsValid (some sessionId) = true) :
    sessionId.val.length = sessionTokenHexChars := by
  simp only [sessionIdIsValid, Bool.and_eq_true, beq_iff_eq] at hvalid
  exact hvalid.1

def urlSlash : UInt8 := Char.toUInt8 '/'

def httpsPrefix : Bytes := ascii ['h', 't', 't', 'p', 's', ':', '/', '/']
def httpPrefix : Bytes := ascii ['h', 't', 't', 'p', ':', '/', '/']

/-- The loops that drop trailing slashes from a length, down to one that they keep. -/
def trimSlashes (text : Bytes) (kept : ℕ) : ℕ → ℕ
  | 0 => 0
  | length + 1 =>
    if kept < length + 1 ∧ byteAt text length = urlSlash then trimSlashes text kept length
    else length + 1

/-- The loops read no further than the length that they start from. -/
theorem trimSlashes_append (text rest : Bytes) (kept : ℕ) :
    ∀ {length : ℕ}, length ≤ text.length →
      trimSlashes (text ++ rest) kept length = trimSlashes text kept length
  | 0, _ => rfl
  | length + 1, hlength => by
      have hbyte : byteAt (text ++ rest) length = byteAt text length := by
        rw [byteAt, byteAt, List.getD_append _ _ _ _ hlength]
      rw [trimSlashes, trimSlashes, hbyte, trimSlashes_append text rest kept (by omega)]

/-- Nothing is dropped from a text that does not end with a slash. -/
theorem trimSlashes_of_last_ne {text : Bytes} {kept : ℕ}
    (hlast : kept < text.length → text.getLast? ≠ some urlSlash)
    (hkept : kept ≤ text.length) :
    trimSlashes text kept text.length = text.length := by
  cases text using List.reverseRecOn with
  | nil => rfl
  | append_singleton front last =>
      rw [List.length_append, List.length_singleton, trimSlashes]
      refine if_neg fun hdropped => ?_
      refine hlast (by simpa using hdropped.1) ?_
      have hbyte := hdropped.2
      rw [byteAt, List.getD_append_right _ _ _ _ (Nat.le_refl _), Nat.sub_self] at hbyte
      rw [List.getLast?_concat, ← hbyte]
      rfl

/-- The loops drop a row of slashes after what they keep. -/
theorem trimSlashes_replicate (text : Bytes) {kept : ℕ} (hkept : kept ≤ text.length)
    (count : ℕ) :
    trimSlashes (text ++ List.replicate count urlSlash) kept (text.length + count) =
      trimSlashes text kept text.length := by
  induction count with
  | zero => rw [List.replicate_zero, List.append_nil, Nat.add_zero]
  | succ count ih =>
      have hbyte : byteAt (text ++ List.replicate (count + 1) urlSlash) (text.length + count) =
          urlSlash := by
        rw [byteAt, List.getD_append_right _ _ _ _ (Nat.le_add_right _ _), Nat.add_sub_cancel_left,
          List.getD_replicate _ (Nat.lt_succ_self count)]
      rw [← Nat.add_assoc, trimSlashes, if_pos ⟨by omega, hbyte⟩, List.replicate_succ',
        ← List.append_assoc, trimSlashes_append _ _ _ (by simp), ih]

/-- What the loops keep of a text, and what they drop. -/
theorem exists_trimmed (text : Bytes) {kept : ℕ} (hkept : kept ≤ text.length) :
    ∃ front count, text = front ++ List.replicate count urlSlash ∧ kept ≤ front.length ∧
      (kept < front.length → front.getLast? ≠ some urlSlash) := by
  induction text using List.reverseRecOn with
  | nil => exact ⟨[], 0, rfl, hkept, fun hlt => by simp at hlt⟩
  | append_singleton text last ih =>
      by_cases hdropped : kept ≤ text.length ∧ last = urlSlash
      · obtain ⟨front, count, hsplit, hfront, hlast⟩ := ih hdropped.1
        refine ⟨front, count + 1, ?_, hfront, hlast⟩
        rw [List.replicate_succ', ← List.append_assoc, ← hsplit, hdropped.2]
      · refine ⟨text ++ [last], 0, by simp, hkept, fun hlt hend => hdropped ⟨?_, ?_⟩⟩
        · simpa [Nat.lt_succ_iff] using hlt
        · simpa using hend

structure NormalizedBase where
  baseLength : ℕ
  schemeLength : ℕ
  secure : Bool
  deriving DecidableEq, Repr

/-- The scheme of a base: its length, and whether it is the secure one. -/
def baseScheme (base : Bytes) : Option (ℕ × Bool) :=
  if httpsPrefix.length < base.length ∧ base.take httpsPrefix.length = httpsPrefix then
    some (httpsPrefix.length, true)
  else if httpPrefix.length < base.length ∧ base.take httpPrefix.length = httpPrefix then
    some (httpPrefix.length, false)
  else none

/-- `pd_normalize_base`. -/
def normalizeBase (base : Option CString) : Except RelayEndpointResult NormalizedBase :=
  match base with
  | none => .error .invalidArgument
  | some base =>
    match baseScheme base.val with
    | none => .error .invalidBaseUrl
    | some (prefixLength, isSecure) =>
      if relayBaseUrlMaxBytes < base.val.length ∨ Char.toUInt8 '?' ∈ base.val ∨
          Char.toUInt8 '#' ∈ base.val then
        .error .invalidBaseUrl
      else
        let length := trimSlashes base.val prefixLength base.val.length
        if length ≤ prefixLength then .error .invalidBaseUrl
        else .ok ⟨length, prefixLength, isSecure⟩

/-- A base is refused for what it is. -/
theorem normalizeBase_error_eq {base : CString} {result : RelayEndpointResult}
    (herror : normalizeBase (some base) = .error result) : result = .invalidBaseUrl := by
  unfold normalizeBase at herror
  dsimp only at herror
  split at herror
  · exact (Except.error.inj herror).symm
  split at herror
  · exact (Except.error.inj herror).symm
  split at herror
  · exact (Except.error.inj herror).symm
  · cases herror

/-- A base is never refused with the result of success. -/
theorem normalizeBase_error_ne_ok {base : CString} {result : RelayEndpointResult}
    (herror : normalizeBase (some base) = .error result) : result ≠ .ok := by
  rw [normalizeBase_error_eq herror]
  decide

/-- The authority of a base that is normalised: what is kept of it after the scheme. -/
def baseAuthority (base : CString) : Bytes :=
  match normalizeBase (some base) with
  | .error _ => []
  | .ok normalized => (base.val.take normalized.baseLength).drop normalized.schemeLength

def schemePrefix (secure : Bool) : Bytes := if secure then httpsPrefix else httpPrefix

theorem eq_append_of_baseScheme {base : Bytes} {length : ℕ} {secure : Bool}
    (hscheme : baseScheme base = some (length, secure)) :
    length = (schemePrefix secure).length ∧ length < base.length ∧
      base = schemePrefix secure ++ base.drop length := by
  unfold baseScheme at hscheme
  split at hscheme
  · rename_i hhttps
    obtain ⟨rfl, rfl⟩ := Prod.mk.inj (Option.some.inj hscheme)
    refine ⟨rfl, hhttps.1, ?_⟩
    conv_lhs => rw [← List.take_append_drop httpsPrefix.length base, hhttps.2]
    rfl
  · split at hscheme
    · rename_i hhttp
      obtain ⟨rfl, rfl⟩ := Prod.mk.inj (Option.some.inj hscheme)
      refine ⟨rfl, hhttp.1, ?_⟩
      conv_lhs => rw [← List.take_append_drop httpPrefix.length base, hhttp.2]
      rfl
    · cases hscheme

/-- What a base consists of, if it is normalised: the scheme, the authority and the slashes
that are dropped. -/
structure BaseParts (base : CString) (normalized : NormalizedBase) (authority : Bytes)
    (slashes : ℕ) : Prop where
  split : base.val =
    schemePrefix normalized.secure ++ authority ++ List.replicate slashes urlSlash
  nonempty : authority ≠ []
  last : authority.getLast? ≠ some urlSlash
  schemeLength : normalized.schemeLength = (schemePrefix normalized.secure).length
  baseLength : normalized.baseLength = (schemePrefix normalized.secure ++ authority).length
  bounded : base.val.length ≤ relayBaseUrlMaxBytes

/-- The last character of a base is that of its authority. -/
theorem BaseParts.getLast?_kept {base : CString} {normalized : NormalizedBase}
    {authority : Bytes} {slashes : ℕ} (hparts : BaseParts base normalized authority slashes) :
    (schemePrefix normalized.secure ++ authority).getLast? ≠ some urlSlash := by
  rw [List.getLast?_append_of_ne_nil _ hparts.nonempty]
  exact hparts.last

theorem exists_baseParts {base : CString} {normalized : NormalizedBase}
    (hok : normalizeBase (some base) = .ok normalized) :
    ∃ slashes, BaseParts base normalized (baseAuthority base) slashes := by
  have hauthority : baseAuthority base =
      (base.val.take normalized.baseLength).drop normalized.schemeLength := by
    simp [baseAuthority, hok]
  unfold normalizeBase at hok
  dsimp only at hok
  split at hok
  · cases hok
  rename_i schemeLength secure hscheme
  split at hok
  · cases hok
  rename_i hbounded
  split at hok
  · cases hok
  rename_i hkept
  obtain rfl := Except.ok.inj hok
  obtain ⟨rfl, hlonger, hbase⟩ := eq_append_of_baseScheme hscheme
  obtain ⟨kept, count, hsplit, hlength, hlast⟩ := exists_trimmed base.val hlonger.le
  have htrimmed : trimSlashes base.val (schemePrefix secure).length base.val.length =
      kept.length := by
    rw [hsplit, List.length_append, List.length_replicate, trimSlashes_replicate _ hlength,
      trimSlashes_of_last_ne hlast hlength]
  rw [htrimmed] at hkept hauthority ⊢
  -- What is kept goes past the scheme, so it begins with it.
  obtain ⟨authority, rfl⟩ : ∃ authority, kept = schemePrefix secure ++ authority := by
    refine ⟨kept.drop (schemePrefix secure).length, ?_⟩
    have htake := congrArg (List.take (schemePrefix secure).length) (hsplit.symm.trans hbase)
    rw [List.take_append_of_le_length hlength, List.take_left] at htake
    conv_lhs => rw [← List.take_append_drop (schemePrefix secure).length kept, htake]
  have hsame : baseAuthority base = authority := by
    rw [hauthority]
    dsimp only
    rw [hsplit, List.take_left, List.drop_left]
  rw [List.length_append, Nat.not_le] at hkept
  have hne : authority ≠ [] := by
    rintro rfl
    simp at hkept
  rw [hsame]
  refine ⟨count, hsplit, hne, ?_, rfl, rfl, Nat.not_lt.mp fun hlong => hbounded (.inl hlong)⟩
  rw [← List.getLast?_append_of_ne_nil (schemePrefix secure) hne]
  exact hlast (by rw [List.length_append]; exact hkept)

/-! ## The builders -/

def wssPrefix : Bytes := ascii ['w', 's', 's', ':', '/', '/']
def wsPrefix : Bytes := ascii ['w', 's', ':', '/', '/']

/-- `pd_build_ws_path`; a null output pointer is an absent capacity. -/
def buildWsPath (base : Option CString) (pathPrefix : Bytes) (sessionId : Option CString)
    (outputCapacity : Option ℕ) : RelayEndpointBuilt :=
  match outputCapacity, sessionId with
  | none, _ => ⟨.invalidArgument, none⟩
  | some _, none => ⟨.invalidSessionId, none⟩
  | some capacity, some sessionId =>
    if !sessionIdIsValid (some sessionId) then ⟨.invalidSessionId, none⟩
    else
      match base, normalizeBase base with
      | none, _ => ⟨.invalidArgument, none⟩
      | some _, .error result => ⟨result, none⟩
      | some base, .ok normalized =>
        let outputScheme := if normalized.secure then wssPrefix else wsPrefix
        let hostLength := normalized.baseLength - normalized.schemeLength
        let required := outputScheme.length + hostLength + pathPrefix.length +
          sessionTokenHexChars + 1
        if capacity < required ∨ relayEndpointCapacity < required then
          ⟨.bufferTooSmall, if capacity ≠ 0 then some [] else none⟩
        else
          ⟨.ok, some (outputScheme ++ (base.val.drop normalized.schemeLength).take hostLength ++
            pathPrefix ++ sessionId.val.take sessionTokenHexChars)⟩

def receiverPath : Bytes :=
  ascii ['/', 'v', '1', '/', 'r', 'e', 'c', 'e', 'i', 'v', 'e', 'r', '/']
def senderPath : Bytes := ascii ['/', 'v', '1', '/', 's', 'e', 'n', 'd', 'e', 'r', '/']

/-- `pd_relay_build_receiver_wss_url`. -/
def relayBuildReceiverWssUrl (base sessionId : Option CString) (outputCapacity : Option ℕ) :
    RelayEndpointBuilt :=
  buildWsPath base receiverPath sessionId outputCapacity

/-- `pd_relay_build_sender_wss_url`. -/
def relayBuildSenderWssUrl (base sessionId : Option CString) (outputCapacity : Option ℕ) :
    RelayEndpointBuilt :=
  buildWsPath base senderPath sessionId outputCapacity

/-- The scheme of the endpoints of a base. -/
def webSocketPrefix (secure : Bool) : Bytes := if secure then wssPrefix else wsPrefix

section Builders

variable {base : CString} {normalized : NormalizedBase}

/-- The URL that a builder writes if the buffer holds it. -/
def webSocketUrl (base : CString) (secure : Bool) (pathPrefix : Bytes) (sessionId : CString) :
    Bytes :=
  webSocketPrefix secure ++ baseAuthority base ++ pathPrefix ++ sessionId.val

/-- What a builder makes of a base that is normalised. -/
theorem buildWsPath_eq (hnormalized : normalizeBase (some base) = .ok normalized)
    (pathPrefix : Bytes) {sessionId : CString} (hvalid : sessionIdIsValid (some sessionId) = true)
    (capacity : ℕ) :
    buildWsPath (some base) pathPrefix (some sessionId) (some capacity) =
      let url := webSocketUrl base normalized.secure pathPrefix sessionId
      if capacity < url.length + 1 ∨ relayEndpointCapacity < url.length + 1 then
        ⟨.bufferTooSmall, if capacity ≠ 0 then some [] else none⟩
      else ⟨.ok, some url⟩ := by
  obtain ⟨slashes, hparts⟩ := exists_baseParts hnormalized
  have hid : sessionId.val.length = sessionTokenHexChars := length_of_sessionIdIsValid hvalid
  have hhostLength : normalized.baseLength - normalized.schemeLength =
      (baseAuthority base).length := by
    rw [hparts.schemeLength, hparts.baseLength, List.length_append, Nat.add_sub_cancel_left]
  have hhost : (base.val.drop normalized.schemeLength).take (baseAuthority base).length =
      baseAuthority base := by
    rw [hparts.schemeLength, hparts.split, List.append_assoc, List.drop_left, List.take_left]
  have hrequired : (webSocketPrefix normalized.secure).length + (baseAuthority base).length +
      pathPrefix.length + sessionTokenHexChars + 1 =
        (webSocketUrl base normalized.secure pathPrefix sessionId).length + 1 := by
    simp only [webSocketUrl, List.length_append, hid]
  simp only [buildWsPath, hvalid, Bool.not_true, Bool.false_eq_true, if_false, hnormalized]
  rw [← webSocketPrefix, hhostLength, hrequired, hhost, List.take_of_length_le hid.le]
  rfl

/-- The limit on a base leaves room for a path as long as the receiver's. -/
theorem length_webSocketUrl_le (hnormalized : normalizeBase (some base) = .ok normalized)
    {pathPrefix : Bytes} (hpath : pathPrefix.length ≤ receiverPath.length) {sessionId : CString}
    (hvalid : sessionIdIsValid (some sessionId) = true) :
    (webSocketUrl base normalized.secure pathPrefix sessionId).length ≤ 490 := by
  obtain ⟨slashes, hparts⟩ := exists_baseParts hnormalized
  have hbounded := hparts.bounded
  rw [hparts.split, List.length_append, List.length_append] at hbounded
  have hscheme : (webSocketPrefix normalized.secure).length + 2 =
      (schemePrefix normalized.secure).length := by cases normalized.secure <;> rfl
  have hid : sessionId.val.length = sessionTokenHexChars := length_of_sessionIdIsValid hvalid
  have hreceiver : receiverPath.length = 13 := rfl
  have hchars : sessionTokenHexChars = 32 := rfl
  have hmax : relayBaseUrlMaxBytes = 447 := rfl
  simp only [webSocketUrl, List.length_append]
  omega

/-- A path as long as the receiver's has room under every base that is normalised. -/
theorem buildWsPath_eq_ok (hnormalized : normalizeBase (some base) = .ok normalized)
    {pathPrefix : Bytes} (hpath : pathPrefix.length ≤ receiverPath.length) {sessionId : CString}
    (hvalid : sessionIdIsValid (some sessionId) = true) :
    buildWsPath (some base) pathPrefix (some sessionId) (some relayEndpointCapacity) =
      ⟨.ok, some (webSocketPrefix normalized.secure ++ baseAuthority base ++ pathPrefix ++
        sessionId.val)⟩ := by
  have hlength := length_webSocketUrl_le hnormalized hpath hvalid
  have hcapacity : relayEndpointCapacity = 512 := rfl
  rw [buildWsPath_eq hnormalized pathPrefix hvalid]
  dsimp only
  rw [if_neg (by omega)]
  rfl

/-- A builder that succeeds has normalised its base. -/
theorem exists_normalized_of_buildWsPath_ok {pathPrefix : Bytes} {sessionId : Option CString}
    {outputCapacity : Option ℕ}
    (hok : (buildWsPath (some base) pathPrefix sessionId outputCapacity).result = .ok) :
    ∃ normalized, normalizeBase (some base) = .ok normalized := by
  cases hnormalized : normalizeBase (some base) with
  | ok normalized => exact ⟨normalized, rfl⟩
  | error result =>
      exfalso
      cases outputCapacity with
      | none => cases hok
      | some capacity =>
      cases sessionId with
      | none => cases hok
      | some sessionId =>
          simp only [buildWsPath, hnormalized] at hok
          split at hok
          · cases hok
          · exact normalizeBase_error_ne_ok hnormalized hok

end Builders

end PrintDrop
