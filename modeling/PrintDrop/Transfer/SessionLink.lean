/-
# The link of a session

The link that `win32_main.c` shows, from the base URL of the relay and the token of the
session, and where it leads: the page that a browser opens it at builds the URL of the
sender's WebSocket from the location, the receiver builds its own from the base.
-/

import PrintDrop.Receiver.Lifecycle
import PrintDrop.Receiver.RelayEndpoint
import PrintDrop.Sender.SessionPage

namespace PrintDrop

open Math Web

def uiRelayCapacity : ℕ := 256
def uiUrlCapacity : ℕ := 512

def sessionSuffix : Bytes := ascii ['/', 's', '/']

/-- `pd_build_session_prefix`. -/
def buildSessionPrefix (relayBase : Option CString) : Option CString :=
  match relayBase with
  | none => none
  | some base =>
    let length := trimSlashes base.val 0 base.val.length
    let required := length + sessionSuffix.length + 1
    if length = 0 ∨ uiRelayCapacity < required then none
    else some ⟨base.val.take length ++ sessionSuffix, by
      rw [List.mem_append, not_or]
      exact ⟨fun hmem => base.property (List.mem_of_mem_take hmem), by decide⟩⟩

/-- The string in the array of the token. -/
def ReceiverSession.tokenText (session : ReceiverSession) : CString :=
  ⟨session.token.toList.takeWhile fun character => character != 0, fun hmem => by
    simpa using List.mem_takeWhile_imp hmem⟩

/-- The receiver takes the base for some session. -/
def BaseAccepted (base : CString) : Prop :=
  ∃ sessionId, (relayBuildReceiverWssUrl (some base) sessionId
    (some relayEndpointCapacity)).result = .ok

/-- A link that leads back to its session. The location is that of the link, and the two
endpoints differ in the paths of their roles only. -/
structure LinkLeads (base : CString) (session : ReceiverSession) (sessionPrefix : CString)
    (url origin : Bytes) (location : Location) : Prop where
  prefixed : buildSessionPrefix (some base) = some sessionPrefix
  built : (receiverSessionBuildUrl session (some sessionPrefix) (some uiUrlCapacity)).result = .ok
  shown : (receiverSessionBuildUrl session (some sessionPrefix) (some uiUrlCapacity)).output =
    some url
  receiver : relayBuildReceiverWssUrl (some base) (some session.tokenText)
    (some relayEndpointCapacity) = ⟨.ok, some (origin ++ receiverPath ++ session.tokenText.val)⟩
  sender : relayBuildSenderWssUrl (some base) (some session.tokenText)
    (some relayEndpointCapacity) = ⟨.ok, some (origin ++ senderPath ++ session.tokenText.val)⟩
  opened : locationOf (unitsOf url) = some location
  parsed : parseSessionId location.pathname = some (unitsOf session.tokenText.val)
  connected : buildSenderWebSocketUrl location (unitsOf session.tokenText.val) =
    .ok (unitsOf (origin ++ senderPath ++ session.tokenText.val))

def LeadsBack (base : CString) (session : ReceiverSession) : Prop :=
  ∃ sessionPrefix url origin location, LinkLeads base session sessionPrefix url origin location

def urlAt : UInt8 := Char.toUInt8 '@'

/-- Behind its scheme the base has no slash but trailing ones, and no user information. -/
def NamesOrigin (base : CString) : Prop :=
  urlSlash ∉ baseAuthority base ∧ urlAt ∉ baseAuthority base

/-- Without its trailing slashes the base leaves room for the suffix of a session. -/
def LeavesRoom (base : CString) : Prop :=
  trimSlashes base.val 0 base.val.length + sessionSuffix.length + 1 ≤ uiRelayCapacity

instance (base : CString) : Decidable (NamesOrigin base) :=
  inferInstanceAs (Decidable (_ ∧ _))

instance (base : CString) : Decidable (LeavesRoom base) :=
  inferInstanceAs (Decidable (_ ≤ uiRelayCapacity))

/-- The token of a session that is live is a valid identifier. -/
theorem tokenText_of_live {s : SessionRun} (hreachable : SessionRun.system.Reachable s)
    (hlive : s.session.Live) :
    sessionIdIsValid (some s.session.tokenText) = true ∧
      s.session.token.toList = s.session.tokenText.val ++ [0] := by
  obtain ⟨creation, -, hcreated⟩ := (sessionInv_of_reachable hreachable).live hlive
  have hdigit : ∀ character ∈ hexText creation.entropy.token.toList,
      isLowerHexDigit character = true := fun character hmem => isLowerHexDigit_of_mem_hexText hmem
  have htext : s.session.tokenText.val = hexText creation.entropy.token.toList := by
    show (cString s.session.token.toList).val = _
    rw [hcreated.token]
    exact cString_append [] (zero_not_mem_hexText _)
  refine ⟨?_, by rw [htext, hcreated.token]⟩
  simp only [sessionIdIsValid, htext, Bool.and_eq_true, beq_iff_eq, List.all_eq_true]
  refine ⟨?_, hdigit⟩
  rw [length_hexText, Vector.length_toList]
  rfl

/-- A prefix that leaves room for a token is completed by it. -/
theorem receiverSessionBuildUrl_eq_ok {session : ReceiverSession} (hlive : session.Live)
    (hvalid : sessionIdIsValid (some session.tokenText) = true)
    (htoken : session.token.toList = session.tokenText.val ++ [0]) {sessionPrefix : CString}
    (hne : sessionPrefix.val ≠ []) (hlength : sessionPrefix.val.length ≤ uiRelayCapacity) :
    receiverSessionBuildUrl session (some sessionPrefix) (some uiUrlCapacity) =
      ⟨.ok, some (sessionPrefix.val ++ session.tokenText.val),
        sessionPrefix.val.length + sessionTokenHexChars + 1⟩ := by
  have hid : session.tokenText.val.length = sessionTokenHexChars :=
    length_of_sessionIdIsValid hvalid
  have hstrlen : strlen session.token = sessionTokenHexChars := hid
  have hfirst : session.token[0] ≠ 0 := by
    intro hzero
    cases htext : session.tokenText.val with
    | nil =>
        rw [htext] at hid
        cases hid
    | cons first rest =>
        rw [htext] at htoken
        have hhead : session.token.toList[0]? = some session.token[0] := by simp
        rw [htoken, hzero] at hhead
        have hmem : (0 : UInt8) ∈ session.tokenText.val := by
          rw [htext, ← Option.some.inj hhead]
          exact List.mem_cons_self
        exact session.tokenText.property hmem
  have hlengthPos : 0 < sessionPrefix.val.length := List.length_pos_iff.mpr hne
  have hui : uiRelayCapacity = 256 := rfl
  have hurl : uiUrlCapacity = 512 := rfl
  have hchars : sessionTokenHexChars = 32 := rfl
  have hmax : sizeMax = 2 ^ 64 - 1 := rfl
  have hstate : ¬((session.state ≠ .waiting ∧ session.state ≠ .transferring) ∨
      session.token[0] = 0) := by
    rintro (⟨hwaiting, htransferring⟩ | hzero)
    · rcases hlive with hstate | hstate
      · exact hwaiting hstate
      · exact htransferring hstate
    · exact hfirst hzero
  unfold receiverSessionBuildUrl
  dsimp only
  rw [if_neg hstate, hstrlen, if_neg (by omega), if_neg (by omega), htoken, ← hid, List.take_left]

section Link

variable {base : CString} {normalized : NormalizedBase} {slashes : ℕ}

/-- The interface drops the slashes that the endpoints drop. -/
theorem trimSlashes_base {authority : Bytes}
    (hparts : BaseParts base normalized authority slashes) :
    trimSlashes base.val 0 base.val.length =
      (schemePrefix normalized.secure ++ authority).length := by
  rw [hparts.split, List.length_append, List.length_replicate,
    trimSlashes_replicate _ (Nat.zero_le _),
    trimSlashes_of_last_ne (fun _ => hparts.getLast?_kept) (Nat.zero_le _)]

/-- The prefix of a base that leaves room for it. -/
theorem buildSessionPrefix_eq_some {authority : Bytes}
    (hparts : BaseParts base normalized authority slashes) (hroom : LeavesRoom base) :
    ∃ sessionPrefix, buildSessionPrefix (some base) = some sessionPrefix ∧
      sessionPrefix.val = schemePrefix normalized.secure ++ authority ++ sessionSuffix ∧
      sessionPrefix.val.length ≤ uiRelayCapacity := by
  have hlength := trimSlashes_base hparts
  have htake : base.val.take (trimSlashes base.val 0 base.val.length) =
      schemePrefix normalized.secure ++ authority := by
    rw [hlength, hparts.split, List.take_left]
  have hpos : trimSlashes base.val 0 base.val.length ≠ 0 := by
    rw [hlength, List.length_append]
    have hauthority := List.length_pos_iff.mpr hparts.nonempty
    omega
  unfold LeavesRoom at hroom
  unfold buildSessionPrefix
  dsimp only
  rw [if_neg (by omega)]
  refine ⟨_, rfl, congrArg (· ++ sessionSuffix) htake, ?_⟩
  show (base.val.take (trimSlashes base.val 0 base.val.length) ++ sessionSuffix).length ≤
    uiRelayCapacity
  rw [htake, List.length_append, ← hlength]
  omega

theorem leavesRoom_of_buildSessionPrefix {sessionPrefix : CString}
    (hbuilt : buildSessionPrefix (some base) = some sessionPrefix) : LeavesRoom base := by
  unfold buildSessionPrefix at hbuilt
  dsimp only at hbuilt
  split at hbuilt
  · cases hbuilt
  · rename_i hroom
    exact Nat.not_lt.mp fun hlarge => hroom (.inr hlarge)

/-- The location of a link under a base: its authority ends where the first slash is. -/
theorem locationOf_base (secure : Bool) {authority : Bytes} (hauthority : urlSlash ∉ authority)
    (path : Bytes) :
    locationOf (unitsOf (schemePrefix secure ++ authority ++ urlSlash :: path)) =
      some ⟨unitsOf (if secure then ascii ['h', 't', 't', 'p', 's', ':']
        else ascii ['h', 't', 't', 'p', ':']), hostOf (unitsOf authority),
        pathOf (slashUnit :: unitsOf path)⟩ := by
  have hunits : slashUnit ∉ unitsOf authority := fun hmem =>
    hauthority (toUInt16_mem_unitsOf.mp hmem)
  have hslash : unitsOf (urlSlash :: path) = slashUnit :: unitsOf path := rfl
  rw [unitsOf_append, unitsOf_append, hslash]
  cases secure with
  | true =>
      exact @locationOf_append (unitsOf (ascii ['h', 't', 't', 'p', 's'])) _ _ (by decide) hunits
  | false =>
      exact @locationOf_append (unitsOf (ascii ['h', 't', 't', 'p'])) _ _ (by decide) hunits

theorem hostOf_unitsOf {authority : Bytes} (hat : urlAt ∉ authority) :
    hostOf (unitsOf authority) = unitsOf authority :=
  (List.rtakeWhile_suffix _ _).eq_of_length
    (hostOf_eq_self_iff.mpr fun hmem => hat (toUInt16_mem_unitsOf.mp hmem))

/-- The URL of a sender at a host. -/
theorem buildSenderWebSocketUrl_base (secure : Bool) {host path : JsString} {sessionId : Bytes}
    (hvalid : isSessionId (unitsOf sessionId) = true) :
    buildSenderWebSocketUrl ⟨unitsOf (if secure then ascii ['h', 't', 't', 'p', 's', ':']
        else ascii ['h', 't', 't', 'p', ':']), host, path⟩ (unitsOf sessionId) =
      .ok (unitsOf (webSocketPrefix secure) ++ host ++ unitsOf senderPath ++
        unitsOf sessionId) := by
  simp only [buildSenderWebSocketUrl, hvalid, Bool.not_true, Bool.false_eq_true, if_false]
  cases secure with
  | true => rfl
  | false => rfl

/-- The URL that a waiting session shows under a base. -/
theorem receiverSessionBuildUrl_base {s : SessionRun}
    (hreachable : SessionRun.system.Reachable s) (hwaiting : s.session.state = .waiting)
    {authority : Bytes} (hparts : BaseParts base normalized authority slashes)
    {sessionPrefix : CString} (hprefixed : buildSessionPrefix (some base) = some sessionPrefix) :
    receiverSessionBuildUrl s.session (some sessionPrefix) (some uiUrlCapacity) =
      ⟨.ok, some (schemePrefix normalized.secure ++ authority ++ sessionSuffix ++
        s.session.tokenText.val), sessionPrefix.val.length + sessionTokenHexChars + 1⟩ := by
  obtain ⟨hvalid, htoken⟩ := tokenText_of_live hreachable (.inl hwaiting)
  obtain ⟨built, hbuilt, hval, hlength⟩ := buildSessionPrefix_eq_some hparts
    (leavesRoom_of_buildSessionPrefix hprefixed)
  obtain rfl : sessionPrefix = built := Option.some.inj (hprefixed.symm.trans hbuilt)
  have hne : sessionPrefix.val ≠ [] := by
    rw [hval]
    exact List.append_ne_nil_of_right_ne_nil _ (by decide)
  rw [receiverSessionBuildUrl_eq_ok (.inl hwaiting) hvalid htoken hne hlength, hval]

end Link

section Session

variable {s : SessionRun} {base : CString}

theorem BaseAccepted.exists_baseParts (haccepted : BaseAccepted base) :
    ∃ normalized slashes, normalizeBase (some base) = .ok normalized ∧
      BaseParts base normalized (baseAuthority base) slashes := by
  obtain ⟨sessionId, hok⟩ := haccepted
  obtain ⟨normalized, hnormalized⟩ := exists_normalized_of_buildWsPath_ok hok
  obtain ⟨slashes, hparts⟩ := PrintDrop.exists_baseParts hnormalized
  exact ⟨normalized, slashes, hnormalized, hparts⟩

/-- A token that the receiver's pattern takes is one that the page's pattern takes. -/
private theorem isSessionId_tokenText {session : ReceiverSession}
    (hvalid : sessionIdIsValid (some session.tokenText) = true) :
    isSessionId (unitsOf session.tokenText.val) = true := by
  rw [isSessionId_unitsOf]
  exact hvalid

/-- The host that the page reads from a link that leads back is as long as the authority. -/
private theorem hostOf_length_of_linkLeads (hreachable : SessionRun.system.Reachable s)
    (hwaiting : s.session.state = .waiting) {normalized : NormalizedBase} {slashes : ℕ}
    (hnormalized : normalizeBase (some base) = .ok normalized)
    (hparts : BaseParts base normalized (baseAuthority base) slashes) {sessionPrefix : CString}
    {url origin : Bytes} {location : Location}
    (hlink : LinkLeads base s.session sessionPrefix url origin location) {host path : Bytes}
    (hsplit : baseAuthority base ++ sessionSuffix ++ s.session.tokenText.val =
      host ++ urlSlash :: path) (hhost : urlSlash ∉ host) :
    (hostOf (unitsOf host)).length = (unitsOf (baseAuthority base)).length := by
  obtain ⟨hvalid, -⟩ := tokenText_of_live hreachable (.inl hwaiting)
  have hpage := isSessionId_tokenText hvalid
  have hurl := hlink.shown
  rw [receiverSessionBuildUrl_base hreachable hwaiting hparts hlink.prefixed] at hurl
  obtain rfl := Option.some.inj hurl
  have hopened := hlink.opened
  rw [List.append_assoc, List.append_assoc, ← List.append_assoc (baseAuthority base), hsplit,
    ← List.append_assoc, locationOf_base _ hhost] at hopened
  obtain rfl := Option.some.inj hopened
  have hsender := hlink.sender
  rw [relayBuildSenderWssUrl, buildWsPath_eq_ok hnormalized (by decide) hvalid] at hsender
  have hconnected := hlink.connected
  rw [buildSenderWebSocketUrl_base _ hpage,
    ← Option.some.inj (congrArg RelayEndpointBuilt.output hsender)] at hconnected
  -- The URL that the page builds is the endpoint, which has the whole authority.
  have hlength := congrArg List.length (Except.ok.inj hconnected)
  simp only [List.length_append, length_unitsOf] at hlength
  rw [length_unitsOf]
  omega

/-- The location of the link under an authority without a slash. -/
private theorem locationOf_link (hslash : urlSlash ∉ baseAuthority base) (secure : Bool)
    {token : Bytes} (hvalid : isSessionId (unitsOf token) = true) :
    locationOf (unitsOf (schemePrefix secure ++ baseAuthority base ++ sessionSuffix ++ token)) =
      some ⟨unitsOf (if secure then ascii ['h', 't', 't', 'p', 's', ':']
        else ascii ['h', 't', 't', 'p', ':']), hostOf (unitsOf (baseAuthority base)),
        unitsOf (ascii ['/', 's', '/']) ++ unitsOf token⟩ := by
  have hsplit : schemePrefix secure ++ baseAuthority base ++ sessionSuffix ++ token =
      schemePrefix secure ++ baseAuthority base ++ urlSlash :: (ascii ['s', '/'] ++ token) :=
    List.append_assoc _ _ _
  have hpath : slashUnit :: unitsOf (ascii ['s', '/'] ++ token) =
      unitsOf (ascii ['/', 's', '/']) ++ unitsOf token := by
    rw [unitsOf_append]
    rfl
  rw [hsplit, locationOf_base secure hslash, hpath, pathOf_session hvalid]

/-- A link that leads back is the link of an origin: the page leaves the path of any other, and
its user information, out of the sender's URL. -/
theorem namesOrigin_of_leadsBack (hreachable : SessionRun.system.Reachable s)
    (hwaiting : s.session.state = .waiting) (haccepted : BaseAccepted base)
    (hback : LeadsBack base s.session) : NamesOrigin base := by
  obtain ⟨normalized, slashes, hnormalized, hparts⟩ := haccepted.exists_baseParts
  obtain ⟨sessionPrefix, url, origin, location, hlink⟩ := hback
  have hwhole := @hostOf_length_of_linkLeads s base hreachable hwaiting _ _ hnormalized hparts _ _
    _ _ hlink
  have hslash : urlSlash ∉ baseAuthority base := by
    intro hmem
    obtain ⟨host, path, hauthority, hhost⟩ := List.eq_append_cons_of_mem hmem
    have hlength := @hwhole host (path ++ sessionSuffix ++ s.session.tokenText.val)
      (by simp [hauthority]) hhost
    have hshorter := (List.rtakeWhile_suffix (fun unit => unit != atUnit) (unitsOf host)).length_le
    rw [hostOf] at hlength
    simp only [length_unitsOf, hauthority, List.length_append, List.length_cons] at hlength hshorter
    omega
  refine ⟨hslash, fun hat => ?_⟩
  have hlength := @hwhole (baseAuthority base) (ascii ['s', '/'] ++ s.session.tokenText.val)
    (List.append_assoc _ _ _) hslash
  exact hostOf_eq_self_iff.mp hlength (toUInt16_mem_unitsOf.mpr hat)

theorem leadsBack_of_namesOrigin (hreachable : SessionRun.system.Reachable s)
    (hwaiting : s.session.state = .waiting) (haccepted : BaseAccepted base)
    (horigin : NamesOrigin base) (hroom : LeavesRoom base) : LeadsBack base s.session := by
  obtain ⟨normalized, slashes, hnormalized, hparts⟩ := haccepted.exists_baseParts
  obtain ⟨hvalid, -⟩ := tokenText_of_live hreachable (.inl hwaiting)
  have hpage := isSessionId_tokenText hvalid
  obtain ⟨sessionPrefix, hprefixed, -, -⟩ := buildSessionPrefix_eq_some hparts hroom
  have hshown := receiverSessionBuildUrl_base hreachable hwaiting hparts hprefixed
  have hopened := locationOf_link horigin.1 normalized.secure hpage
  rw [hostOf_unitsOf horigin.2] at hopened
  have hconnected := @buildSenderWebSocketUrl_base normalized.secure
    (hostOf (unitsOf (baseAuthority base)))
    (unitsOf (ascii ['/', 's', '/']) ++ unitsOf s.session.tokenText.val) _ hpage
  rw [hostOf_unitsOf horigin.2] at hconnected
  simp only [← unitsOf_append] at hconnected hopened
  exact ⟨sessionPrefix, _, webSocketPrefix normalized.secure ++ baseAuthority base, _,
    ⟨hprefixed, congrArg SessionUrlBuilt.result hshown, congrArg SessionUrlBuilt.output hshown,
      buildWsPath_eq_ok hnormalized (Nat.le_refl _) hvalid,
      buildWsPath_eq_ok hnormalized (by decide) hvalid, hopened, parseSessionId_append hpage,
      hconnected⟩⟩

/-- The link of a waiting session leads back to it exactly when the base names an origin and
leaves room for the link: over every base that the receiver takes, in every run of the
session. -/
theorem leadsBack_iff (hreachable : SessionRun.system.Reachable s)
    (hwaiting : s.session.state = .waiting) (haccepted : BaseAccepted base) :
    LeadsBack base s.session ↔ NamesOrigin base ∧ LeavesRoom base := by
  constructor
  · intro hback
    have ⟨_, _, _, _, hlink⟩ := hback
    exact ⟨namesOrigin_of_leadsBack hreachable hwaiting haccepted hback,
      leavesRoom_of_buildSessionPrefix hlink.prefixed⟩
  · rintro ⟨horigin, hroom⟩
    exact leadsBack_of_namesOrigin hreachable hwaiting haccepted horigin hroom

end Session

/-- A session that has just been created. -/
def waitingSession : SessionRun :=
  SessionRun.system.init.call (.create 0 300000 (some (some (Vector.replicate _ 0))))

theorem waitingSession_reachable : SessionRun.system.Reachable waitingSession :=
  TransitionSystem.reachable_of_run [.create 0 300000 (some (some (Vector.replicate _ 0)))] rfl

/-- `https://h/`. -/
def originBase : CString := ⟨httpsPrefix ++ ascii ['h', '/'], by decide⟩

/-- `https://h/r`. -/
def pathBase : CString := ⟨httpsPrefix ++ ascii ['h', '/', 'r'], by decide⟩

/-- `https://u@h`. -/
def userBase : CString := ⟨httpsPrefix ++ ascii ['u', '@', 'h'], by decide⟩

theorem originBase_leadsBack :
    BaseAccepted originBase ∧ LeadsBack originBase waitingSession.session := by
  have haccepted : BaseAccepted originBase := ⟨some waitingSession.session.tokenText, by decide⟩
  exact ⟨haccepted, (leadsBack_iff waitingSession_reachable rfl haccepted).mpr
    ⟨by decide, by decide⟩⟩

/-- The receiver takes a base with a path and one with user information, but the page does not
take the link of the first, and not the user information of the second. -/
theorem pathBase_not_leadsBack :
    SessionRun.system.Reachable waitingSession ∧ waitingSession.session.state = .waiting ∧
      BaseAccepted pathBase ∧ LeavesRoom pathBase ∧
      ¬LeadsBack pathBase waitingSession.session ∧
      BaseAccepted userBase ∧ LeavesRoom userBase ∧
      ¬LeadsBack userBase waitingSession.session := by
  have hpath : BaseAccepted pathBase := ⟨some waitingSession.session.tokenText, by decide⟩
  have huser : BaseAccepted userBase := ⟨some waitingSession.session.tokenText, by decide⟩
  refine ⟨waitingSession_reachable, rfl, hpath, by decide, fun hback => ?_, huser, by decide,
    fun hback => ?_⟩
  · have horigin := namesOrigin_of_leadsBack waitingSession_reachable rfl hpath hback
    exact absurd horigin (by decide)
  · have horigin := namesOrigin_of_leadsBack waitingSession_reachable rfl huser hback
    exact absurd horigin (by decide)

end PrintDrop
