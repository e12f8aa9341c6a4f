/-
# The rendezvous

The receiver thread sets its session up at the relay, and a browser that has opened the
session's link asks the relay for the session's receiver. libcurl makes the requests that the
thread has set up, and the relay answers them; between any two calls of the thread, and before
`websocket.Accept` answers it, the relay may do anything else, for others and by itself. So
the two meet at one bridge, if nobody else names the session before it expires.
-/

import PrintDrop.Desktop.Worker
import PrintDrop.Relay.OwnSession
import PrintDrop.Transfer.SessionLink
import PrintDrop.Transfer.Identifiers

namespace PrintDrop

open Math Web
open Relay (ApiRequest Front FrontAction RelayServer)

universe u

/-- The path that a URL asks for. -/
def requestPath (url : JsString) : Bytes :=
  textEncode ((locationOf url).elim [] Location.pathname)

def authorizationName : Bytes :=
  ascii ['A', 'u', 't', 'h', 'o', 'r', 'i', 'z', 'a', 't', 'i', 'o', 'n', ':', ' ']

def CurlOption.headers : CurlOption → List Bytes
  | .httpHeader headers => headers
  | _ => []

def CurlOption.body? : CurlOption → Option Bytes
  | .postFields body => some body
  | _ => none

/-- The request that libcurl makes with the options of a handle. -/
def curlRequest (options : List CurlOption) : ApiRequest where
  method := if .post 1 ∈ options then "POST" else "GET"
  path := requestPath (unitsOf ((requestUrl options).getD []))
  authorization :=
    (((options.flatMap CurlOption.headers).find? authorizationName.isPrefixOf).getD []).drop
      authorizationName.length
  body := (options.findSome? CurlOption.body?).getD []

/-- The request that a browser makes for a WebSocket. -/
def pageRequest (url : JsString) : ApiRequest where
  method := "GET"
  path := requestPath url
  authorization := []
  body := []

/-- The relay that the thread reaches, what else happens there before each of the thread's
next calls and before it is upgraded, and the status of the thread's last request. -/
structure Surroundings (Hash : Type u) where
  front : Front Hash
  interludes : List (List FrontAction)
  status : ℕ

namespace Surroundings

variable {Hash : Type u} [DecidableEq Hash]

/-- The next interlude, if its actions are allowed and enabled. -/
def interlude (hash : Bytes → Hash) (ttl : ℕ) (allowed : FrontAction → Bool)
    (s : Surroundings Hash) : Surroundings Hash :=
  let actions := s.interludes.headD []
  { s with
    front :=
      if actions.all allowed then ((Front.system hash ttl).run s.front actions).getD s.front
      else s.front
    interludes := s.interludes.tail }

/-- Whatever else happens before the thread's next call. -/
def pass (hash : Bytes → Hash) (ttl : ℕ) (s : Surroundings Hash) : Surroundings Hash :=
  s.interlude hash ttl fun _ => true

/-- `websocket.Accept` upgrades a request, if it has not been answered. -/
def upgrade (hash : Bytes → Hash) (s : Surroundings Hash) (pointer : ℕ) : Surroundings Hash :=
  match Front.step hash s.front (.accept pointer none) with
  | some front => { s with front := front, status := 101 }
  | none => s

/-- A request of the thread is answered. If it is granted a bridge it is upgraded, and only
that is not left to what else happens before. -/
def request (hash : Bytes → Hash) (ttl : ℕ) (s : Surroundings Hash) (r : ApiRequest) :
    Surroundings Hash :=
  let replied := Relay.routes hash s.front.relay r s.front.relay.server.now
  let next := { s with front := ⟨replied.2, s.front.log ++ [(r, replied.1)]⟩ }
  match replied.1 with
  | .answered response => { next with status := response.status }
  | .granted _ =>
    let pointer := s.front.relay.handlers.length
    (next.interlude hash ttl fun action => !action.answers pointer).upgrade hash pointer

/-- A call of the thread. Nothing fails but what the relay refuses: a WebSocket is connected
only where the request is upgraded. -/
def respond (hash : Bytes → Hash) (ttl : ℕ) (s : Surroundings Hash) :
    RelayCall → RelayAnswer × Surroundings Hash
  | .perform .registration options =>
    (⟨true, 0⟩, (s.pass hash ttl).request hash ttl (curlRequest options))
  | .perform .client options =>
    let answered := (s.pass hash ttl).request hash ttl (curlRequest options)
    (⟨answered.status == 101, 0⟩, answered)
  | .getResponseCode _ => (⟨true, s.status⟩, s.pass hash ttl)
  | _ => (⟨true, 0⟩, s.pass hash ttl)

section Keeps

variable {hash : Bytes → Hash} {ttl deadline : ℕ} {id : Bytes}

/-- Others do not change it before the deadline. -/
structure Framed (hash : Bytes → Hash) (id : Bytes) (deadline : ℕ) (P : RelayServer Hash → Prop) :
    Prop where
  step : ∀ {before after : Relay.RelayState Hash} {action : Relay.RelayAction},
    Relay.RelayInv hash before → ¬action.Names id →
      Relay.step hash before action = some after → after.server.now < deadline →
        P before.server → P after.server

/-- The relay is in a state of its runs, in which something holds; what is still to happen in
between is about other sessions, and is over before the deadline. -/
structure Amid (hash : Bytes → Hash) (ttl : ℕ) (id : Bytes) (start : ℕ)
    (P : RelayServer Hash → Prop) (s : Surroundings Hash) : Prop where
  reachable : (Front.system hash ttl).Reachable s.front
  others : ∀ actions ∈ s.interludes, ∀ action ∈ actions, ¬action.Names id
  started : start ≤ s.front.relay.server.now
  time : s.front.relay.server.now + (s.interludes.flatten.map FrontAction.elapsed).sum <
    start + ttl
  holds : P s.front.relay.server

variable {start : ℕ} {P : RelayServer Hash → Prop} {s : Surroundings Hash}

/-- Nothing happens in an interlude, or a run of its actions. -/
private theorem interlude_cases (hash : Bytes → Hash) (ttl : ℕ) (allowed : FrontAction → Bool)
    (s : Surroundings Hash) :
    s.interlude hash ttl allowed = ⟨s.front, s.interludes.tail, s.status⟩ ∨
      ∃ actions rest after, s.interludes = actions :: rest ∧ actions.all allowed = true ∧
        (Front.system hash ttl).run s.front actions = some after ∧
        s.interlude hash ttl allowed = ⟨after, rest, s.status⟩ := by
  obtain ⟨front, interludes, status⟩ := s
  cases interludes with
  | nil => exact .inl (by simp [interlude])
  | cons actions rest =>
      by_cases hallowed : actions.all allowed = true
      · cases hrun : (Front.system hash ttl).run front actions with
        | none => exact .inl (by simp [interlude, hrun])
        | some after => exact .inr ⟨actions, rest, after, rfl, hallowed, hrun, by
            simp only [interlude, List.headD_cons, hallowed, if_true, hrun, Option.getD_some,
              List.tail_cons]⟩
      · refine .inl ?_
        simp only [interlude, List.headD_cons, hallowed, Bool.false_eq_true, if_false]

theorem Amid.interlude (hs : Amid hash ttl id start P s) (hframed : Framed hash id (start + ttl) P)
    (allowed : FrontAction → Bool) : Amid hash ttl id start P (s.interlude hash ttl allowed) := by
  have hothers := hs.others
  have htime := hs.time
  rcases interlude_cases hash ttl allowed s with
    hpass | ⟨actions, rest, after, hnext, -, hrun, hpass⟩
  · rw [hpass]
    refine ⟨hs.reachable, fun actions hmem => hothers actions (List.mem_of_mem_tail hmem),
      hs.started, ?_, hs.holds⟩
    have hless : (s.interludes.tail.flatten.map FrontAction.elapsed).sum ≤
        (s.interludes.flatten.map FrontAction.elapsed).sum := by
      cases s.interludes with
      | nil => exact le_refl _
      | cons actions rest =>
          rw [List.tail_cons, List.flatten_cons, List.map_append, List.sum_append]
          exact Nat.le_add_left _ _
    dsimp only
    omega
  · rw [hpass]
    rw [hnext] at hothers
    rw [hnext, List.flatten_cons, List.map_append, List.sum_append] at htime
    have hnow := Front.now_of_run actions hrun
    have hstarted := hs.started
    refine ⟨hs.reachable.run actions hrun,
      fun others hmem => hothers others (List.mem_cons_of_mem _ hmem), ?_, ?_, ?_⟩
    · dsimp only
      omega
    · dsimp only
      omega
    · refine Front.run_others hframed.step actions hs.reachable
        (hothers actions List.mem_cons_self) hrun ?_ hs.holds
      dsimp only
      omega

theorem Amid.pass (hs : Amid hash ttl id start P s) (hframed : Framed hash id (start + ttl) P) :
    Amid hash ttl id start P (s.pass hash ttl) :=
  hs.interlude hframed fun _ => true

/-- One more step, which takes no time. -/
private theorem Amid.step {Q : RelayServer Hash → Prop} (hs : Amid hash ttl id start P s)
    {action : FrontAction} {front : Front Hash} (status : ℕ)
    (hstep : Front.step hash s.front action = some front)
    (hnow : front.relay.server.now = s.front.relay.server.now) (hholds : Q front.relay.server) :
    Amid hash ttl id start Q ⟨front, s.interludes, status⟩ where
  reachable := .step hs.reachable trivial hstep
  others := hs.others
  started := by
    rw [hnow]
    exact hs.started
  time := by
    rw [hnow]
    exact hs.time
  holds := hholds

/-- A request of the thread that the relay answers at once. -/
theorem Amid.answered {Q : RelayServer Hash → Prop} (hs : Amid hash ttl id start P s)
    (r : ApiRequest) {response : Relay.ApiResponse} {server : RelayServer Hash}
    (hroutes : Relay.routes hash s.front.relay r s.front.relay.server.now =
      (.answered response, ⟨server, s.front.relay.handlers⟩))
    (hnow : server.now = s.front.relay.server.now) (hholds : Q server) :
    Amid hash ttl id start Q (s.request hash ttl r) ∧
      (s.request hash ttl r).status = response.status := by
  have hstep : Front.step hash s.front (.request r s.front.relay.server.now) =
      some ⟨⟨server, s.front.relay.handlers⟩, s.front.log ++ [(r, .answered response)]⟩ := by
    rw [Front.step, if_pos (le_refl _), hroutes]
  have hrequest : s.request hash ttl r = ⟨⟨⟨server, s.front.relay.handlers⟩,
      s.front.log ++ [(r, .answered response)]⟩, s.interludes, response.status⟩ := by
    simp only [Surroundings.request, hroutes]
  rw [hrequest]
  exact ⟨hs.step _ hstep hnow hholds, rfl⟩

/-- A request that has been granted a bridge is upgraded, whatever happens before. -/
theorem Amid.upgraded (hs : Amid hash ttl id start P s) (hframed : Framed hash id (start + ttl) P)
    {pointer bridge : ℕ} {r : ApiRequest} (hpending : s.front.Pending pointer r bridge) :
    ∃ last, (s.interlude hash ttl fun action => !action.answers pointer).upgrade hash pointer =
        last ∧ Amid hash ttl id start P last ∧ last.status = 101 ∧
      last.front.log.getLast? = some (r, .answered (.upgrade bridge)) := by
  have hwaiting := hs.interlude hframed fun action => !action.answers pointer
  have hkept : (s.interlude hash ttl fun action => !action.answers pointer).front.Pending pointer
      r bridge := by
    rcases interlude_cases hash ttl (fun action => !action.answers pointer) s with
      hpass | ⟨actions, rest, after, -, hallowed, hrun, hpass⟩
    · rw [hpass]
      exact hpending
    · rw [hpass]
      exact Front.Pending.run actions hs.reachable hpending hallowed hrun
  generalize (s.interlude hash ttl fun action => !action.answers pointer) = waiting
    at hwaiting hkept
  have haccept : Front.step hash waiting.front (.accept pointer none) = some _ := hkept.accept
  refine ⟨_, rfl, ?_⟩
  rw [Surroundings.upgrade, haccept]
  exact ⟨hwaiting.step 101 haccept rfl hwaiting.holds, rfl, List.getLast?_concat⟩

/-- A request of the thread that the relay grants a bridge. -/
theorem Amid.granted {Q : RelayServer Hash → Prop} (hs : Amid hash ttl id start P s)
    (hframed : Framed hash id (start + ttl) Q) (r : ApiRequest) {bridge : ℕ}
    {server : RelayServer Hash} {handler : Relay.Handler}
    (hroutes : Relay.routes hash s.front.relay r s.front.relay.server.now =
      (.granted bridge, ⟨server, s.front.relay.handlers ++ [handler]⟩))
    (hphase : handler.phase = .accepting) (hnow : server.now = s.front.relay.server.now)
    (hholds : Q server) :
    ∃ last, s.request hash ttl r = last ∧ Amid hash ttl id start Q last ∧ last.status = 101 ∧
      last.front.log.getLast? = some (r, .answered (.upgrade bridge)) := by
  have hstep : Front.step hash s.front (.request r s.front.relay.server.now) =
      some ⟨⟨server, s.front.relay.handlers ++ [handler]⟩,
        s.front.log ++ [(r, .granted bridge)]⟩ := by
    rw [Front.step, if_pos (le_refl _), hroutes]
  have hpending : Front.Pending ⟨⟨server, s.front.relay.handlers ++ [handler]⟩,
      s.front.log ++ [(r, .granted bridge)]⟩ s.front.relay.handlers.length r bridge := by
    have hlength := congrArg List.length (Front.frontDoor_of_reachable hs.reachable).handlers
    simp only [List.length_map] at hlength
    refine ⟨?_, handler, List.getElem?_concat_length, hphase⟩
    rw [hlength, Front.granted, List.filterMap_append]
    exact List.getElem?_concat_length
  have hrequest : ∀ next, next = Surroundings.mk ⟨⟨server, s.front.relay.handlers ++ [handler]⟩,
      s.front.log ++ [(r, .granted bridge)]⟩ s.interludes s.status → s.request hash ttl r =
        (next.interlude hash ttl fun action =>
          !action.answers s.front.relay.handlers.length).upgrade hash
            s.front.relay.handlers.length := by
    rintro _ rfl
    simp only [Surroundings.request, hroutes]
  rw [hrequest _ rfl]
  exact (hs.step s.status hstep hnow hholds).upgraded hframed hpending

/-- A call that is not a request. -/
theorem Amid.comes_call (hs : Amid hash ttl id start P s) (hframed : Framed hash id (start + ttl) P)
    {call : RelayCall} (hresponds : s.respond hash ttl call = (⟨true, 0⟩, s.pass hash ttl)) :
    Dialogue.Comes (respond hash ttl) s (Dialogue.question call) (⟨true, 0⟩ : RelayAnswer)
      (Amid hash ttl id start P) :=
  Dialogue.comes_question hresponds (hs.pass hframed)

/-- A call whose failure would end the program. -/
theorem comes_unless {α : Type} {call : RelayCall} {answer : RelayAnswer} {bad good : α}
    {later : RelayAnswer → RelayProgram α} {between ends : Surroundings Hash → Prop}
    (hcall : Dialogue.Comes (respond hash ttl) s (Dialogue.question call) answer between)
    (hok : answer.ok = true)
    (hlater : ∀ {next}, between next →
      Dialogue.Comes (respond hash ttl) next (later answer) good ends) :
    Dialogue.Comes (respond hash ttl) s (Dialogue.question call >>= fun answer : RelayAnswer =>
      if !answer.ok then pure bad else later answer) good ends := by
  apply hcall.bind
  intro next hnext
  simp only [hok, Bool.not_true, Bool.false_eq_true, if_false]
  exact hlater hnext

/-- All options are set. -/
theorem Amid.comes_curlSetOpts (hframed : Framed hash id (start + ttl) P) (handle : CurlHandle)
    (options : List CurlOption) : ∀ {s : Surroundings Hash} (taken : List CurlOption),
      Amid hash ttl id start P s →
        Dialogue.Comes (respond hash ttl) s (curlSetOpts handle taken options)
          (some (taken ++ options)) (Amid hash ttl id start P) := by
  induction options with
  | nil =>
      intro s taken hs
      rw [List.append_nil]
      exact Dialogue.comes_pure hs
  | cons option rest ih =>
      intro s taken hs
      apply (hs.comes_call hframed rfl).bind
      intro next hnext
      have hrest := ih (taken ++ [option]) hnext
      rw [List.append_assoc] at hrest
      exact hrest

end Keeps

end Surroundings

/-! ## The three requests -/

section Paths

/-- A byte that stays in a path: ASCII, and not the start of a query or of a fragment. -/
def isPathByte (byte : UInt8) : Bool :=
  byte < 0x80 && byte != Char.toUInt8 '?' && byte != Char.toUInt8 '#'

theorem isPathByte_of_isLowerHexDigit {byte : UInt8} (hdigit : isLowerHexDigit byte = true) :
    isPathByte byte = true := by
  have hascii : decide (byte < 0x80) = true := decide_eq_true (ascii_of_isLowerHexDigit hdigit)
  have hother : ∀ other, isLowerHexDigit other = false → (byte != other) = true := by
    rintro other hnone
    refine bne_iff_ne.mpr ?_
    rintro rfl
    rw [hdigit] at hnone
    cases hnone
  rw [isPathByte, hascii, hother _ (by decide), hother _ (by decide)]
  rfl

/-- The units of such bytes stay as well. -/
private theorem pathOf_unitsOf {path : Bytes} (hpath : path.all isPathByte = true) :
    pathOf (unitsOf path) = unitsOf path := by
  apply pathOf_eq_self
  intro unit hunit
  obtain ⟨byte, hbyte, rfl⟩ := List.mem_map.mp hunit
  have hplain := List.all_eq_true.mp hpath byte hbyte
  simp only [isPathByte, Bool.and_eq_true, bne_iff_ne] at hplain
  exact ⟨fun hsame => hplain.1.2 (toUInt16_injective hsame),
    fun hsame => hplain.2 (toUInt16_injective hsame)⟩

/-- The path of a URL is what follows its host. -/
private theorem requestPath_append {scheme host path : Bytes} (hscheme : Char.toUInt8 ':' ∉ scheme)
    (hhost : urlSlash ∉ host) (hpath : path.all isPathByte = true) :
    requestPath (unitsOf (scheme ++ ascii [':', '/', '/'] ++ host ++ urlSlash :: path)) =
      urlSlash :: path := by
  have hcolon : colonUnit ∉ unitsOf scheme := fun hmem => hscheme (toUInt16_mem_unitsOf.mp hmem)
  have hslash : slashUnit ∉ unitsOf host := fun hmem => hhost (toUInt16_mem_unitsOf.mp hmem)
  have hurl : unitsOf (scheme ++ ascii [':', '/', '/'] ++ host ++ urlSlash :: path) =
      unitsOf scheme ++ colonUnit :: slashUnit :: slashUnit ::
        (unitsOf host ++ slashUnit :: unitsOf path) := by
    simp only [unitsOf_append, List.append_assoc]
    rfl
  have hrest : slashUnit :: unitsOf path = unitsOf (urlSlash :: path) := rfl
  have hall : (urlSlash :: path).all isPathByte = true := hpath
  rw [requestPath, hurl, locationOf_append hcolon hslash, Option.elim_some, hrest,
    pathOf_unitsOf hall]
  apply textEncode_unitsOf
  intro byte hbyte
  have hplain := List.all_eq_true.mp hall byte hbyte
  simp only [isPathByte, Bool.and_eq_true, decide_eq_true_eq] at hplain
  exact hplain.1.1

variable {host path : Bytes}

theorem requestPath_schemePrefix (hhost : urlSlash ∉ host) (hpath : path.all isPathByte = true)
    (secure : Bool) :
    requestPath (unitsOf (schemePrefix secure ++ host ++ urlSlash :: path)) = urlSlash :: path := by
  cases secure with
  | true => exact @requestPath_append (ascii ['h', 't', 't', 'p', 's']) _ _ (by decide) hhost hpath
  | false => exact @requestPath_append (ascii ['h', 't', 't', 'p']) _ _ (by decide) hhost hpath

theorem requestPath_webSocketPrefix (hhost : urlSlash ∉ host)
    (hpath : path.all isPathByte = true) (secure : Bool) :
    requestPath (unitsOf (webSocketPrefix secure ++ host ++ urlSlash :: path)) =
      urlSlash :: path := by
  cases secure with
  | true => exact @requestPath_append (ascii ['w', 's', 's']) _ _ (by decide) hhost hpath
  | false => exact @requestPath_append (ascii ['w', 's']) _ _ (by decide) hhost hpath

end Paths

section Requests

variable {host : Bytes} {id secret : CString}

/-- The bytes of a path that ends in an identifier. -/
private theorem all_isPathByte {front : Bytes} (hfront : front.all isPathByte = true)
    (hid : sessionIdIsValid (some id) = true) : (front ++ id.val).all isPathByte = true := by
  rw [sessionIdIsValid, Bool.and_eq_true, List.all_eq_true] at hid
  rw [List.all_append, hfront, Bool.true_and, List.all_eq_true]
  exact fun byte hbyte => isPathByte_of_isLowerHexDigit (hid.2 byte hbyte)

/-- The header of a request. -/
private theorem drop_authHeader (hsecret : receiverSecretIsValid (some secret) = true) :
    (authHeader secret).drop authorizationName.length = Relay.bearer ++ secret.val := by
  have hlength : secret.val.length = receiverSecretHexChars := by
    simp only [receiverSecretIsValid, isLowerHex, Bool.and_eq_true, beq_iff_eq] at hsecret
    exact hsecret.1
  have hname : authPrefix = authorizationName ++ Relay.bearer := rfl
  rw [authHeader, List.take_of_length_le hlength.le, hname, List.append_assoc, List.drop_left]

private theorem isPrefixOf_authHeader :
    authorizationName.isPrefixOf (authHeader secret) = true := by
  have hname : authPrefix = authorizationName ++ Relay.bearer := rfl
  rw [List.isPrefixOf_iff_prefix, authHeader, hname, List.append_assoc]
  exact List.prefix_append _ _

private theorem validLowerHex_secret (hsecret : receiverSecretIsValid (some secret) = true) :
    Relay.validLowerHex secret.val Relay.receiverSecretHexChars = true :=
  (Relay.validLowerHex_eq _ _).trans hsecret

/-- The registration of the thread registers its session. -/
theorem registers_curlRequest (secure : Bool) (hhost : urlSlash ∉ host)
    (hid : sessionIdIsValid (some id) = true)
    (hsecret : receiverSecretIsValid (some secret) = true) (size : ℕ) :
    Relay.Registers (curlRequest (registrationOptions (schemePrefix secure ++ host ++ sessionsPath)
      (bodyPrefix ++ id.val ++ bodySuffix) size [contentTypeHeader, authHeader secret]))
      id.val secret.val where
  method := by simp [curlRequest, registrationOptions]
  path := by
    have hpath : sessionsPath = urlSlash :: ascii ['v', '1', '/', 's', 'e', 's', 's', 'i', 'o', 'n',
      's'] := rfl
    show requestPath (unitsOf (schemePrefix secure ++ host ++ sessionsPath)) = _
    rw [hpath, requestPath_schemePrefix hhost (by decide)]
    rfl
  authorization := by
    have hother : authorizationName.isPrefixOf contentTypeHeader = false := by decide
    have hfind : ([contentTypeHeader, authHeader secret].find? authorizationName.isPrefixOf) =
        some (authHeader secret) := by
      rw [List.find?_cons_of_neg (by simp [hother]),
        List.find?_cons_of_pos isPrefixOf_authHeader]
    have hheaders : (registrationOptions (schemePrefix secure ++ host ++ sessionsPath)
        (bodyPrefix ++ id.val ++ bodySuffix) size [contentTypeHeader, authHeader secret]).flatMap
          CurlOption.headers = [contentTypeHeader, authHeader secret] := rfl
    simp only [curlRequest, hheaders, hfind, Option.getD_some]
    exact drop_authHeader hsecret
  secret := validLowerHex_secret hsecret
  body := by
    simp only [sessionIdIsValid, Bool.and_eq_true, beq_iff_eq] at hid
    exact Relay.decodeRegisterSession_body hid.2 hid.1
  id := (Relay.validLowerHex_eq _ _).trans hid

/-- The client of the thread asks for the receiver of its session. -/
theorem asksForReceiver_curlRequest (secure : Bool) (hhost : urlSlash ∉ host)
    (hid : sessionIdIsValid (some id) = true)
    (hsecret : receiverSecretIsValid (some secret) = true) :
    Relay.AsksForReceiver (curlRequest (clientOptions
      (webSocketPrefix secure ++ host ++ receiverPath ++ id.val) [authHeader secret]))
      id.val secret.val where
  method := by simp [curlRequest, clientOptions]
  path := by
    have hpath : receiverPath ++ id.val = urlSlash :: (ascii ['v', '1', '/', 'r', 'e', 'c', 'e',
      'i', 'v', 'e', 'r', '/'] ++ id.val) := rfl
    show requestPath (unitsOf (webSocketPrefix secure ++ host ++ receiverPath ++ id.val)) = _
    rw [List.append_assoc _ receiverPath, hpath,
      requestPath_webSocketPrefix hhost (all_isPathByte (by decide) hid)]
    rfl
  id := (Relay.validLowerHex_eq _ _).trans hid
  authorization := by
    have hfind : ([authHeader secret].find? authorizationName.isPrefixOf) =
        some (authHeader secret) := List.find?_cons_of_pos isPrefixOf_authHeader
    have hheaders : (clientOptions (webSocketPrefix secure ++ host ++ receiverPath ++ id.val)
        [authHeader secret]).flatMap CurlOption.headers = [authHeader secret] := rfl
    simp only [curlRequest, hheaders, hfind, Option.getD_some]
    exact drop_authHeader hsecret
  secret := validLowerHex_secret hsecret

/-- The page asks for a sender of the session. -/
theorem asksForSender_pageRequest (secure : Bool) (hhost : urlSlash ∉ host)
    (hid : sessionIdIsValid (some id) = true) :
    Relay.AsksForSender
      (pageRequest (unitsOf (webSocketPrefix secure ++ host ++ senderPath ++ id.val))) id.val where
  method := rfl
  path := by
    have hpath : senderPath ++ id.val = urlSlash :: (ascii ['v', '1', '/', 's', 'e', 'n', 'd', 'e',
      'r', '/'] ++ id.val) := rfl
    show requestPath (unitsOf (webSocketPrefix secure ++ host ++ senderPath ++ id.val)) = _
    rw [List.append_assoc _ senderPath, hpath,
      requestPath_webSocketPrefix hhost (all_isPathByte (by decide) hid)]
    rfl
  id := (Relay.validLowerHex_eq _ _).trans hid

end Requests

namespace Surroundings

section Setting

variable {Hash : Type u} [DecidableEq Hash] {hash : Bytes → Hash} {ttl start pointer : ℕ}
  {id secret : CString} {s : Surroundings Hash}

/-- The session is registered and waits until the deadline or longer. -/
def AwaitsLong (hash : Bytes → Hash) (id secret : Bytes) (deadline : ℕ)
    (server : RelayServer Hash) : Prop :=
  ∃ expiresAt, deadline ≤ expiresAt ∧ Relay.Awaits hash server id secret expiresAt

/-- The receiver offers its bridge until the deadline or longer. -/
def OffersLong (hash : Bytes → Hash) (id secret : Bytes) (deadline pointer : ℕ)
    (server : RelayServer Hash) : Prop :=
  ∃ expiresAt, deadline ≤ expiresAt ∧ Relay.Offers hash server id secret expiresAt pointer

theorem framed_unused (hash : Bytes → Hash) (id : Bytes) (deadline : ℕ) :
    Framed hash id deadline fun server => Relay.Unused server id where
  step hinv hother hstep _ hs := hs.step hinv hother hstep

theorem framed_awaitsLong (hash : Bytes → Hash) (id secret : Bytes) (deadline : ℕ) :
    Framed hash id deadline (AwaitsLong hash id secret deadline) where
  step hinv hother hstep hlive hs := by
    obtain ⟨expiresAt, hdeadline, hawaits⟩ := hs
    exact ⟨expiresAt, hdeadline, hawaits.step hinv hother hstep (hlive.trans_le hdeadline)⟩

theorem framed_offersLong (hash : Bytes → Hash) (id secret : Bytes) (deadline pointer : ℕ) :
    Framed hash id deadline (OffersLong hash id secret deadline pointer) where
  step hinv hother hstep hlive hs := by
    obtain ⟨expiresAt, hdeadline, hoffers⟩ := hs
    exact ⟨expiresAt, hdeadline, hoffers.step hinv hother hstep (hlive.trans_le hdeadline)⟩

/-- The relay registers the session. -/
theorem Amid.register {r : ApiRequest}
    (hs : Amid hash ttl id.val start (fun server => Relay.Unused server id.val) s)
    (hregisters : Relay.Registers r id.val secret.val) :
    Amid hash ttl id.val start (AwaitsLong hash id.val secret.val (start + ttl))
        (s.request hash ttl r) ∧ (s.request hash ttl r).status = 201 := by
  have hroutes := hregisters.routes hash s.front.relay s.front.relay.server.now
  obtain ⟨server, hregister, hnow, hresponse, hawaits⟩ :=
    @Relay.Unused.register Hash hash s.front.relay _ _ hs.holds secret.val s.front.relay.server.now
  rw [hresponse, hregister] at hroutes
  have httl := (Relay.timed_of_runWithin (Front.relay_of_reachable hs.reachable)).lifetime
  refine hs.answered r hroutes hnow ⟨_, ?_, hawaits⟩
  have hstarted := hs.started
  omega

/-- The relay attaches the receiver to a bridge, which the end of the log tells. -/
theorem Amid.attach {r : ApiRequest}
    (hs : Amid hash ttl id.val start (AwaitsLong hash id.val secret.val (start + ttl)) s)
    (hasks : Relay.AsksForReceiver r id.val secret.val) :
    ∃ pointer last, s.request hash ttl r = last ∧
      Amid hash ttl id.val start (OffersLong hash id.val secret.val (start + ttl) pointer) last ∧
      last.status = 101 ∧ last.front.log.getLast? = some (r, .answered (.upgrade pointer)) := by
  obtain ⟨expiresAt, hdeadline, hawaits⟩ := hs.holds
  have hinv := Relay.relayInv_of_runWithin (Front.relay_of_reachable hs.reachable)
  have htime := hs.time
  obtain ⟨server, hattached, hnow, hoffers⟩ := hawaits.attachReceiver hinv (by omega)
  have hroutes := hasks.routes hash s.front.relay s.front.relay.server.now
  rw [hattached] at hroutes
  have hlong : OffersLong hash id.val secret.val (start + ttl) s.front.relay.server.bridges.length
      server := ⟨expiresAt, hdeadline, hoffers⟩
  exact ⟨_, hs.granted (framed_offersLong hash _ _ _ _) r hroutes rfl hnow hlong⟩

variable {host : Bytes} {secure : Bool}

/-- The request of the registration. -/
theorem Amid.comes_registrationRequest (hhost : urlSlash ∉ host)
    (hid : sessionIdIsValid (some id) = true)
    (hsecret : receiverSecretIsValid (some secret) = true) (size : ℕ)
    (hs : Amid hash ttl id.val start (fun server => Relay.Unused server id.val) s) :
    Dialogue.Comes (respond hash ttl) s
      (registrationRequest (schemePrefix secure ++ host ++ sessionsPath)
        (bodyPrefix ++ id.val ++ bodySuffix) size secret)
      .ok (Amid hash ttl id.val start (AwaitsLong hash id.val secret.val (start + ttl))) := by
  have hunused := framed_unused hash id.val (start + ttl)
  have hawaits := framed_awaitsLong hash id.val secret.val (start + ttl)
  unfold registrationRequest
  refine comes_unless (hs.comes_call hunused rfl) rfl fun hs => ?_
  refine comes_unless (hs.comes_call hunused rfl) rfl fun hs => ?_
  refine comes_unless (hs.comes_call hunused rfl) rfl fun hs => ?_
  refine (Amid.comes_curlSetOpts hunused _ _ [] hs).bind fun {s} hs => ?_
  have hasked : Dialogue.Comes (respond hash ttl) s (Dialogue.question (.perform .registration
      (registrationOptions (schemePrefix secure ++ host ++ sessionsPath)
        (bodyPrefix ++ id.val ++ bodySuffix) size [contentTypeHeader, authHeader secret])))
      (⟨true, 0⟩ : RelayAnswer) (fun s => Amid hash ttl id.val start
        (AwaitsLong hash id.val secret.val (start + ttl)) s ∧ s.status = 201) :=
    Dialogue.comes_question rfl
      ((hs.pass hunused).register (registers_curlRequest secure hhost hid hsecret size))
  refine comes_unless hasked rfl fun {s} hs => ?_
  have hcode : Dialogue.Comes (respond hash ttl) s
      (Dialogue.question (.getResponseCode .registration)) (⟨true, 201⟩ : RelayAnswer)
      (Amid hash ttl id.val start (AwaitsLong hash id.val secret.val (start + ttl))) := by
    refine Dialogue.comes_question ?_ (hs.1.pass hawaits)
    simp only [respond, hs.2]
    rfl
  refine comes_unless hcode rfl fun hs => ?_
  exact Dialogue.comes_pure hs

/-- The receiver is connected to a bridge, which the end of the log tells. -/
def Attached (hash : Bytes → Hash) (ttl start : ℕ) (id secret : Bytes) (s : Surroundings Hash) :
    Prop :=
  ∃ pointer asked, Amid hash ttl id start (OffersLong hash id secret (start + ttl) pointer) s ∧
    Relay.AsksForReceiver asked id secret ∧
      s.front.log.getLast? = some (asked, .answered (.upgrade pointer))

/-- The request of the client, with which the thread's own part is over. -/
theorem Amid.comes_clientSetUp {insecure : Option CString} {jobsRoot : WideString}
    {session : ReceiverSession} (hhost : urlSlash ∉ host)
    (hid : sessionIdIsValid (some id) = true)
    (hsecret : receiverSecretIsValid (some secret) = true)
    (htext : cString session.receiverSecret.toList = secret) {receiverUrl : CString}
    (hurl : receiverUrl.val = webSocketPrefix secure ++ host ++ receiverPath ++ id.val)
    (hallowed : relayUrlIsAllowed insecure (some receiverUrl) = true)
    (hroot : jobsRoot ≠ [] ∧ jobsRoot.length < win32PathCapacity)
    (hs : Amid hash ttl id.val start (AwaitsLong hash id.val secret.val (start + ttl)) s) :
    Dialogue.Comes (respond hash ttl) s
      (Desktop.clientSetUp insecure receiverUrl.val session jobsRoot) .connected
      (Attached hash ttl start id.val secret.val) := by
  have hawaits := framed_awaitsLong hash id.val secret.val (start + ttl)
  have hsame : cString receiverUrl.val = receiverUrl :=
    Subtype.ext (cString_of_terminated receiverUrl.property)
  have hinit : Dialogue.Comes (respond hash ttl) s
      (win32RelayClientInit insecure (some receiverUrl) (some secret))
      (.ok, some (clientOptions receiverUrl.val [authHeader secret]))
      (Amid hash ttl id.val start (AwaitsLong hash id.val secret.val (start + ttl))) := by
    simp only [win32RelayClientInit, hallowed, hsecret, Bool.not_true, Bool.false_eq_true, if_false]
    refine comes_unless (hs.comes_call hawaits rfl) rfl fun hs => ?_
    refine comes_unless (hs.comes_call hawaits rfl) rfl fun hs => ?_
    refine comes_unless (hs.comes_call hawaits rfl) rfl fun hs => ?_
    refine (Amid.comes_curlSetOpts hawaits _ _ [] hs).bind fun hs => ?_
    exact Dialogue.comes_pure hs
  unfold Desktop.clientSetUp
  rw [hsame, htext]
  refine hinit.bind fun {s} hs => ?_
  have hasks := asksForReceiver_curlRequest secure hhost hid hsecret
  rw [← hurl] at hasks
  obtain ⟨pointer, last, hrequest, hamid, hstatus, hlast⟩ := (hs.pass hawaits).attach hasks
  have hasked : Dialogue.Comes (respond hash ttl) s (Dialogue.question (.perform .client
      (clientOptions receiverUrl.val [authHeader secret]))) (⟨true, 0⟩ : RelayAnswer)
      (Attached hash ttl start id.val secret.val) := by
    refine Dialogue.comes_question ?_ ⟨pointer, _, hamid, hasks, hlast⟩
    simp only [respond, hrequest, hstatus]
    rfl
  have hconnect : Dialogue.Comes (respond hash ttl) s
      (win32RelayClientConnect (clientOptions receiverUrl.val [authHeader secret])) true
      (Attached hash ttl start id.val secret.val) := hasked.bind Dialogue.comes_pure
  refine hconnect.bind fun hs => ?_
  have hhandler : win32ReceiveHandlerInit jobsRoot () () [] =
      .ok (.fresh jobsRoot () () []) := by
    rw [win32ReceiveHandlerInit, if_neg hroot.1, if_neg (by omega)]
  simp only [Bool.not_true, Bool.false_eq_true, if_false, hhandler]
  exact Dialogue.comes_pure hs

end Setting

end Surroundings

/-! ## Meeting -/

section Meeting

variable {Hash : Type u} [DecidableEq Hash] {hash : Bytes → Hash} {ttl : ℕ}
  {run : SessionRun} {base : CString} {insecure : Option CString} {jobsRoot : WideString}
  {s : Surroundings Hash}

/-- The string in the array of the secret. -/
def ReceiverSession.secretText (session : ReceiverSession) : CString :=
  cString session.receiverSecret.toList

/-- The secret of a session that is live is a valid one. -/
theorem secretText_of_live (hreachable : SessionRun.system.Reachable run)
    (hlive : run.session.Live) :
    receiverSecretIsValid (some run.session.secretText) = true ∧
      run.session.receiverSecret.toList = run.session.secretText.val ++ [0] := by
  obtain ⟨creation, -, hcreated⟩ := (sessionInv_of_reachable hreachable).live hlive
  have htext : run.session.secretText.val = hexText creation.entropy.secret.toList := by
    rw [ReceiverSession.secretText, hcreated.secret]
    exact cString_append [] (zero_not_mem_hexText _)
  exact ⟨isLowerHex_of_text htext, by rw [htext, hcreated.secret]⟩

/-- An array that holds a text does not begin with a zero. -/
private theorem byteAt_zero_of_text {array : Bytes} {text : CString}
    (harray : array = text.val ++ [0]) (hlength : 0 < text.val.length) : byteAt array 0 ≠ 0 := by
  obtain ⟨first, rest, htext⟩ := List.exists_cons_of_length_pos hlength
  intro hzero
  rw [harray, htext] at hzero
  obtain rfl : first = 0 := hzero
  exact text.property (by rw [htext]; exact List.mem_cons_self)

/-- A URL over an insecure connection is allowed where its base is. -/
private theorem relayUrlIsAllowed_webSocketPrefix {secure : Bool} {rest : Bytes} {url : CString}
    (hurl : url.val = webSocketPrefix secure ++ rest) (hrest : 0 < rest.length)
    (hlength : url.val.length ≤ relayUrlMaxBytes)
    (hinsecure : secure = false → insecureHttpEnabled insecure = true) :
    relayUrlIsAllowed insecure (some url) = true := by
  have hlonger : (webSocketPrefix secure).length < url.val.length := by
    rw [hurl, List.length_append]
    omega
  have htake : url.val.take (webSocketPrefix secure).length = webSocketPrefix secure := by
    rw [hurl, List.take_left]
  cases secure with
  | true =>
      simp only [webSocketPrefix, if_true] at hlonger htake
      simp [relayUrlIsAllowed, hlonger, hlength, htake]
  | false =>
      simp only [webSocketPrefix, Bool.false_eq_true, if_false] at hlonger htake
      simp [relayUrlIsAllowed, hinsecure rfl, hlonger, hlength, htake]

/-- The session's receiver is connected to a bridge at the relay, and the session's link leads
to this bridge: whatever others do until the session expires, the page that a browser opens
at the link is granted it, unless the bridge has been cancelled. -/
structure Meets (hash : Bytes → Hash) (ttl start : ℕ) (base : CString) (session : ReceiverSession)
    (front : Front Hash) : Prop where
  bridge : ∃ (pointer : ℕ) (asked : ApiRequest),
    front.log.getLast? = some (asked, .answered (.upgrade pointer)) ∧
    Relay.AsksForReceiver asked session.tokenText.val session.secretText.val ∧
    ∃ sessionPrefix url origin location wsUrl,
      LinkLeads base session sessionPrefix url origin location ∧
      buildSenderWebSocketUrl location (unitsOf session.tokenText.val) = .ok wsUrl ∧
      ∀ (actions : List FrontAction) (later : Front Hash) (reading : ℕ),
        (∀ action ∈ actions, ¬action.Names session.tokenText.val) →
          (Front.system hash ttl).run front actions = some later →
            later.relay.server.now < start + ttl →
              (∀ bridge, later.relay.server.bridges[pointer]? = some bridge →
                bridge.cancelled = false) →
                (Relay.routes hash later.relay (pageRequest wsUrl) reading).1 = .granted pointer

/-- What a waiting session and a base that names an origin give the thread's set-up. -/
private structure Prepared (run : SessionRun) (base : CString) (insecure : Option CString)
    (secure : Bool) (slashes : ℕ) : Prop where
  waiting : run.session.state = .waiting
  id : sessionIdIsValid (some run.session.tokenText) = true
  secret : receiverSecretIsValid (some run.session.secretText) = true
  tokenStarts : byteAt run.session.token.toList 0 ≠ 0
  secretStarts : byteAt run.session.receiverSecret.toList 0 ≠ 0
  urls : UrlsOf base run.session.tokenText secure (baseAuthority base) slashes
  required : baseUrlRequiresInsecureOptIn (some base) = true → insecureHttpEnabled insecure = true
  opted : secure = false → insecureHttpEnabled insecure = true

private theorem exists_prepared (hrun : SessionRun.system.Reachable run)
    (hwaiting : run.session.state = .waiting) {normalized : NormalizedBase}
    (hnormalized : normalizeBase (some base) = .ok normalized)
    (hinsecure : baseUrlRequiresInsecureOptIn (some base) = true →
      insecureHttpEnabled insecure = true) :
    ∃ slashes, Prepared run base insecure normalized.secure slashes := by
  obtain ⟨hid, htoken⟩ := tokenText_of_live hrun (.inl hwaiting)
  obtain ⟨hsecret, hsecretText⟩ := secretText_of_live hrun (.inl hwaiting)
  obtain ⟨slashes, hurls⟩ := urlsOf_of_normalized hnormalized hid
  have hidLength : run.session.tokenText.val.length = sessionTokenHexChars :=
    length_of_sessionIdIsValid hid
  have hsecretLength : run.session.secretText.val.length = receiverSecretHexChars := by
    simp only [receiverSecretIsValid, isLowerHex, Bool.and_eq_true, beq_iff_eq] at hsecret
    exact hsecret.1
  refine ⟨slashes, hwaiting, hid, hsecret,
    byteAt_zero_of_text htoken (by rw [hidLength]; decide),
    byteAt_zero_of_text hsecretText (by rw [hsecretLength]; decide), hurls, hinsecure,
    fun hsecure => hinsecure ?_⟩
  have hauthority := List.length_pos_iff.mpr hurls.last.1
  have hsplit := hurls.split
  rw [hsecure, schemePrefix, if_neg Bool.false_ne_true, List.append_assoc] at hsplit
  simp only [baseUrlRequiresInsecureOptIn, hsplit, List.take_left, List.length_append,
    beq_self_eq_true, Bool.and_true, decide_eq_true_eq]
  omega

section Prepared

variable {secure : Bool} {slashes start : ℕ}

/-- The thread registers its session. -/
private theorem Prepared.comes_register (hprepared : Prepared run base insecure secure slashes)
    (horigin : NamesOrigin base)
    (hs : Surroundings.Amid hash ttl run.session.tokenText.val start
      (fun server => Relay.Unused server run.session.tokenText.val) s) :
    Dialogue.Comes (Surroundings.respond hash ttl) s
      (win32RelayRegisterSession insecure (some base) (some run.session.tokenText)
        (some run.session.secretText)) .ok
      (Surroundings.Amid hash ttl run.session.tokenText.val start
        (Surroundings.AwaitsLong hash run.session.tokenText.val run.session.secretText.val
          (start + ttl))) := by
  have hallowed : (baseUrlRequiresInsecureOptIn (some base) && !insecureHttpEnabled insecure ||
      !secretIsLowerHex (some run.session.secretText)) = false := by
    have hvalid : secretIsLowerHex (some run.session.secretText) = true := hprepared.secret
    rw [hvalid]
    cases hrequires : baseUrlRequiresInsecureOptIn (some base) with
    | false => rfl
    | true => rw [hprepared.required hrequires]; rfl
  have hbody : relayRegistrationBuildBody (some run.session.tokenText)
      (some relayRegistrationBodyCapacity) = (⟨.ok, some (bodyPrefix ++
        run.session.tokenText.val ++ bodySuffix)⟩, 49) := by
    have hvalid : isLowerHex (some run.session.tokenText) sessionTokenHexChars = true :=
      hprepared.id
    rw [relayRegistrationBuildBody, hvalid,
      List.take_of_length_le (length_of_sessionIdIsValid hprepared.id).le]
    rfl
  simp only [win32RelayRegisterSession, hallowed, Bool.false_eq_true, if_false,
    hprepared.urls.endpoint, hbody]
  exact hs.comes_registrationRequest horigin.1 hprepared.id hprepared.secret 49

/-- The URL of the thread's client. -/
private theorem Prepared.exists_receiverUrl
    (hprepared : Prepared run base insecure secure slashes) :
    ∃ receiverUrl : CString, receiverUrl.val = webSocketPrefix secure ++ baseAuthority base ++
        receiverPath ++ run.session.tokenText.val ∧
      relayUrlIsAllowed insecure (some receiverUrl) = true := by
  have hzero : (0 : UInt8) ∉ webSocketPrefix secure ++ baseAuthority base ++ receiverPath ++
      run.session.tokenText.val := by
    have hauthority : (0 : UInt8) ∉ baseAuthority base := by
      intro hmem
      apply base.property
      rw [hprepared.urls.split]
      simp [hmem]
    have hscheme : (0 : UInt8) ∉ webSocketPrefix secure := by cases secure <;> decide
    simp only [List.mem_append, not_or]
    exact ⟨⟨⟨hscheme, hauthority⟩, by decide⟩, run.session.tokenText.property⟩
  have hsplit : webSocketPrefix secure ++ baseAuthority base ++ receiverPath ++
      run.session.tokenText.val = webSocketPrefix secure ++
        (baseAuthority base ++ (receiverPath ++ run.session.tokenText.val)) := by
    simp only [List.append_assoc]
  refine ⟨⟨_, hzero⟩, rfl, relayUrlIsAllowed_webSocketPrefix hsplit ?_
    (hprepared.urls.limit _ List.mem_cons_self) hprepared.opted⟩
  rw [List.length_append]
  exact Nat.add_pos_left (List.length_pos_iff.mpr hprepared.urls.last.1) _

/-- The set-up of a thread comes to a connected client. -/
private theorem Prepared.comes_sessionSetUp (hprepared : Prepared run base insecure secure slashes)
    (horigin : NamesOrigin base) (hroot : jobsRoot ≠ [] ∧ jobsRoot.length < win32PathCapacity)
    (hs : Surroundings.Amid hash ttl run.session.tokenText.val start
      (fun server => Relay.Unused server run.session.tokenText.val) s) :
    Dialogue.Comes (Surroundings.respond hash ttl) s
      (Desktop.sessionSetUp insecure base run.session jobsRoot) .connected
      (Surroundings.Attached hash ttl start run.session.tokenText.val
        run.session.secretText.val) := by
  obtain ⟨receiverUrl, hurl, hallowed⟩ := hprepared.exists_receiverUrl
  have hstate : ¬(run.session.state ≠ .waiting ∨ byteAt run.session.token.toList 0 = 0 ∨
      byteAt run.session.receiverSecret.toList 0 = 0) := by
    rintro (hstate | htokenZero | hsecretZero)
    · exact hstate hprepared.waiting
    · exact hprepared.tokenStarts htokenZero
    · exact hprepared.secretStarts hsecretZero
  have htoken : cString run.session.token.toList = run.session.tokenText := rfl
  have hsecret : cString run.session.receiverSecret.toList = run.session.secretText := rfl
  unfold Desktop.sessionSetUp
  rw [if_neg hstate, htoken, hsecret, hprepared.urls.receiver, ← hurl]
  dsimp only
  refine Surroundings.comes_unless (hs.comes_call (Surroundings.framed_unused _ _ _) rfl) rfl
    fun hs => ?_
  refine (hprepared.comes_register horigin hs).bind fun hs => ?_
  simp only [ne_eq, not_true_eq_false, if_false]
  exact hs.comes_clientSetUp horigin.1 hprepared.id hprepared.secret hsecret hurl hallowed hroot

end Prepared

/-- **Rendezvous.** A thread whose session nobody else names, at a relay that it can reach in
any state and that may do anything else between any two of the thread's calls until the
session would expire, comes to a connected client; and the session's link leads to its
bridge. -/
theorem rendezvous_of_unused (hrun : SessionRun.system.Reachable run)
    (hwaiting : run.session.state = .waiting) (haccepted : BaseAccepted base)
    (horigin : NamesOrigin base) (hroom : LeavesRoom base)
    (hinsecure : baseUrlRequiresInsecureOptIn (some base) = true →
      insecureHttpEnabled insecure = true)
    (hroot : jobsRoot ≠ [] ∧ jobsRoot.length < win32PathCapacity)
    (hreachable : (Front.system hash ttl).Reachable s.front)
    (hunused : Relay.Unused s.front.relay.server run.session.tokenText.val)
    (hothers : ∀ actions ∈ s.interludes, ∀ action ∈ actions,
      ¬action.Names run.session.tokenText.val)
    (htime : (s.interludes.flatten.map FrontAction.elapsed).sum < ttl) :
    ∃ last, (Desktop.sessionSetUp insecure base run.session jobsRoot).converse
        (Surroundings.respond hash ttl) s = (.connected, last) ∧
      Meets hash ttl s.front.relay.server.now base run.session last.front := by
  obtain ⟨normalized, slashes, hnormalized, hparts⟩ := haccepted.exists_baseParts
  obtain ⟨_, hprepared⟩ := exists_prepared hrun hwaiting hnormalized hinsecure
  have hid := hprepared.id
  have hs : Surroundings.Amid hash ttl run.session.tokenText.val s.front.relay.server.now
      (fun server => Relay.Unused server run.session.tokenText.val) s :=
    ⟨hreachable, hothers, le_refl _, Nat.add_lt_add_left htime _, hunused⟩
  obtain ⟨last, hlast, pointer, asked, hamid, hasks, hexchange⟩ :=
    hprepared.comes_sessionSetUp horigin hroot hs
  obtain ⟨sessionPrefix, url, origin, location, hlink⟩ :=
    leadsBack_of_namesOrigin hrun hwaiting haccepted horigin hroom
  refine ⟨last, hlast, pointer, asked, hexchange, hasks, sessionPrefix, url, origin, location, _,
    hlink, hlink.connected, fun actions later reading hother hlater htime hopen => ?_⟩
  -- Both URLs are those of one origin.
  have horiginEq : origin ++ senderPath ++ run.session.tokenText.val =
      webSocketPrefix normalized.secure ++ baseAuthority base ++ senderPath ++
        run.session.tokenText.val := by
    have hsender := hlink.sender
    rw [relayBuildSenderWssUrl, buildWsPath_eq_ok hnormalized (by decide) hid] at hsender
    exact (Option.some.inj (congrArg RelayEndpointBuilt.output hsender)).symm
  rw [horiginEq]
  obtain ⟨expiresAt, hdeadline, hoffers⟩ := Front.run_others
    (Surroundings.framed_offersLong hash _ _ _ pointer).step actions hamid.reachable hother hlater
    htime hamid.holds
  have hinv := Relay.relayInv_of_runWithin
    (Front.relay_of_reachable (hamid.reachable.run actions hlater))
  rw [(asksForSender_pageRequest normalized.secure horigin.1 hid).routes hash later.relay reading,
    hoffers.attachSender hinv (by omega) hopen]
  rfl

end Meeting

/-- A relay that has just started, where time passes before the thread's first call, and someone
registers another session before its second. -/
def busySurroundings : Surroundings Bytes where
  front := (Front.system id 5).init
  interludes :=
    let other : Bytes := List.replicate 32 0x31
    let authorization := Relay.bearer ++ List.replicate 64 0x61
    [[.relay (.tick 1)],
      [.request
        ⟨⟨"POST", Relay.sessionsRoute⟩, authorization, bodyPrefix ++ other ++ bodySuffix⟩ 1]]
  status := 0

theorem busySurroundings_rendezvous :
    ((Desktop.sessionSetUp none originBase waitingSession.session [0]).converse
        (Surroundings.respond id 5) busySurroundings).2.front.log.map
          (fun entry => entry.2.status) = [some 201, some 201, none, some 101] ∧
      ∃ last, (Desktop.sessionSetUp none originBase waitingSession.session [0]).converse
          (Surroundings.respond id 5) busySurroundings = (.connected, last) ∧
        Meets id 5 0 originBase waitingSession.session last.front :=
  ⟨by decide +kernel, rendezvous_of_unused waitingSession_reachable rfl
    ⟨some waitingSession.session.tokenText, by decide⟩ (by decide) (by decide) (by decide)
    (by decide) .init (Relay.newRelayServer_unused _ _) (by decide +kernel) (by decide)⟩

end PrintDrop
