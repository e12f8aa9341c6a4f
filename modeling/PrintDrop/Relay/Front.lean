/-
# The relay's HTTP front

The handlers of `relay/server.go` from the request to the answer: which requests register a
session, attach a receiver or attach a sender, and what all others are answered. The front
is run together with the relay behind it, and keeps a log of what its requests came to.

A path is `r.URL.Path`, as the multiplexer leaves it. A request that is granted a bridge is
answered by `websocket.Accept` in a later step: it is upgraded, or answered otherwise.
-/

import PrintDrop.Relay.Isolation
import PrintDrop.Relay.Drain
import PrintDrop.Relay.Json

namespace PrintDrop.Relay

open Math

universe u

variable {Hash : Type u}

/-- A request, with the value of its `Authorization` header, which is empty if there is none,
and with its body. -/
structure ApiRequest extends HttpRequest where
  authorization : Bytes
  body : Bytes
  deriving DecidableEq, Repr

inductive ApiResponse
  | http (response : HttpResponse)
  /-- `registerSessionResponse`, whose `ExpiresAt` is the text of the time. -/
  | registered (status : ℕ) (sessionId : Bytes) (expiresAt : ℕ)
  | upgrade (bridge : ℕ)
  deriving DecidableEq, Repr

/-- `http.StatusText` of the codes that the handlers answer. -/
def statusText (code : ℕ) : String :=
  if code = 400 then "Bad Request"
  else if code = 401 then "Unauthorized"
  else if code = 404 then "Not Found"
  else if code = 405 then "Method Not Allowed"
  else if code = 409 then "Conflict"
  else if code = 500 then "Internal Server Error"
  else ""

def ApiResponse.status : ApiResponse → ℕ
  | .http response => response.status
  | .registered status _ _ => status
  | .upgrade _ => 101

/-- The answer to a request that is refused, with the header that has been set before. -/
def refuse (header : List (String × String)) (code : ℕ) : ApiResponse :=
  .http (httpError header (statusText code) code)

/-- `writeAttachError`. -/
def writeAttachError : RelayError → ApiResponse
  | .invalidSecret => refuse [] 401
  | .receiverBusy | .senderBusy | .sessionConflict => refuse [] 409
  | .sessionNotFound => refuse [] 404

/-- What a handler of the front comes to with a request, before any connection: it has
answered it, or attached a peer to a bridge and left the answer to `websocket.Accept`. -/
inductive Reply
  | answered (response : ApiResponse)
  | granted (bridge : ℕ)
  deriving DecidableEq, Repr

/-- The status that a request has been answered with by then. -/
def Reply.status : Reply → Option ℕ
  | .answered response => some response.status
  | .granted _ => none

/-- What a request to attach a peer comes to. -/
def attachReply : Except RelayError ℕ → Reply
  | .ok bridge => .granted bridge
  | .error error => .answered (writeAttachError error)

/-- The answer of `websocket.Accept`, which fails with what it has written itself. -/
def acceptResponse (bridge : ℕ) : Option HttpResponse → ApiResponse
  | none => .upgrade bridge
  | some response => .http response

/-- The answer to the registration of a session, by the table that it leaves. -/
def registerResponse (id : Bytes) :
    Except RelayError (ℕ × Bool) × RelayServer Hash → ApiResponse
  | (.ok (pointer, created), server) =>
    .registered (if created then 201 else 200) id
      ((server.records[pointer]?).elim 0 SessionRecord.expiresAt)
  | (.error .sessionConflict, _) => refuse [] 409
  | (.error _, _) => refuse [] 500

def healthPath : Bytes := ascii ['/', 'h', 'e', 'a', 'l', 't', 'h', 'z']
def sessionsRoute : Bytes :=
  ascii ['/', 'v', '1', '/', 's', 'e', 's', 's', 'i', 'o', 'n', 's']
def receiverRoute : Bytes :=
  ascii ['/', 'v', '1', '/', 'r', 'e', 'c', 'e', 'i', 'v', 'e', 'r', '/']
def senderRoute : Bytes := ascii ['/', 'v', '1', '/', 's', 'e', 'n', 'd', 'e', 'r', '/']

/-- `handleHealth`. -/
def handleHealth : ApiResponse :=
  .http ⟨200, setHeader [] "Content-Type" "text/plain; charset=utf-8", "ok\n".toUTF8.toList⟩

section Handlers

variable [DecidableEq Hash] (hash : Bytes → Hash)

/-- `handleRegisterSession`, with the clock reading of `register`. -/
def handleRegisterSession (s : RelayState Hash) (r : ApiRequest) (reading : ℕ) :
    ApiResponse × RelayState Hash :=
  if r.method ≠ "POST" then (refuse (setHeader [] "Allow" "POST") 405, s)
  else
    match bearerSecret r.authorization with
    | none => (refuse [] 401, s)
    | some secret =>
      match decodeRegisterSession r.body with
      | none => (refuse [] 400, s)
      | some id =>
        if !validLowerHex id publicSessionHexChars then (refuse [] 400, s)
        else
          let registered := s.server.register hash id secret reading
          (registerResponse id registered, { s with server := registered.2 })

/-- `handleReceiver`, up to `websocket.Accept`. -/
def handleReceiver (s : RelayState Hash) (r : ApiRequest) : Reply × RelayState Hash :=
  if r.method ≠ "GET" then (.answered (refuse [] 405), s)
  else
    match pathSessionId r.path receiverRoute with
    | none => (.answered (refuse [] 404), s)
    | some id =>
      match bearerSecret r.authorization with
      | none => (.answered (refuse [] 401), s)
      | some secret =>
        let attached := s.server.attachReceiver hash id secret
        (attachReply attached.1, s.attached .receiver id attached)

/-- `handleSender`, up to `websocket.Accept`. -/
def handleSender (s : RelayState Hash) (r : ApiRequest) : Reply × RelayState Hash :=
  if r.method ≠ "GET" then (.answered (refuse [] 405), s)
  else
    match pathSessionId r.path senderRoute with
    | none => (.answered (refuse [] 404), s)
    | some id =>
      let attached := s.server.attachSender id
      (attachReply attached.1, s.attached .sender id attached)

/-- `routes`. -/
def routes (s : RelayState Hash) (r : ApiRequest) (reading : ℕ) : Reply × RelayState Hash :=
  if r.path = healthPath then (.answered handleHealth, s)
  else if r.path = sessionsRoute then
    let registered := handleRegisterSession hash s r reading
    (.answered registered.1, registered.2)
  else if receiverRoute.isPrefixOf r.path then handleReceiver hash s r
  else if senderRoute.isPrefixOf r.path then handleSender s r
  else (.answered (.http notFound), s)

/-- The relay, and what the requests of its front have come to, in the order of time: a
request that was granted a bridge is there again once it has been answered. -/
structure Front (Hash : Type u) where
  relay : RelayState Hash
  log : List (ApiRequest × Reply)

/-- A request that was granted a bridge. -/
def grant : ApiRequest × Reply → Option (ApiRequest × ℕ)
  | (r, .granted bridge) => some (r, bridge)
  | _ => none

/-- The requests that were granted a bridge, each for a handler. -/
def Front.granted (s : Front Hash) : List (ApiRequest × ℕ) := s.log.filterMap grant

/-- What comes in by a request, or answers one, is no action of its own. -/
def RelayAction.behind : RelayAction → Bool
  | .register .. | .attachReceiver .. | .attachSender .. | .accept .. => false
  | _ => true

inductive FrontAction
  | request (r : ApiRequest) (reading : ℕ)
  /-- `websocket.Accept` upgrades a handler's request, or answers it otherwise and fails. -/
  | accept (handler : ℕ) (refusal : Option HttpResponse)
  | relay (action : RelayAction)

def Front.step (s : Front Hash) : FrontAction → Option (Front Hash)
  | .request r reading =>
    if reading ≤ s.relay.server.now then
      let replied := routes hash s.relay r reading
      some ⟨replied.2, s.log ++ [(r, replied.1)]⟩
    else none
  | .accept handler refusal =>
    match s.granted[handler]? with
    | none => none
    | some (r, bridge) =>
      (s.relay.accept handler refusal.isNone).map fun relay =>
        ⟨relay, s.log ++ [(r, .answered (acceptResponse bridge refusal))]⟩
  | .relay action =>
    if action.behind then
      (Relay.step hash s.relay action).map fun relay => { s with relay := relay }
    else none

/-- The runs of a relay that is reached through its front only. -/
def Front.system (ttl : ℕ) : TransitionSystem (Front Hash) FrontAction where
  init := ⟨(Relay.system hash ttl).init, []⟩
  step := Front.step hash

end Handlers

/-! ## What a request comes to -/

theorem bearerSecret_eq_some_iff {value secret : Bytes} :
    bearerSecret value = some secret ↔
      value = bearer ++ secret ∧ validLowerHex secret receiverSecretHexChars = true := by
  constructor
  · intro hread
    by_cases hfront : bearer <+: value
    · obtain ⟨rest, rfl⟩ := hfront
      rw [bearerSecret_append] at hread
      split at hread
      · rename_i hvalid
        obtain rfl := Option.some.inj hread
        exact ⟨rfl, hvalid⟩
      · cases hread
    · simp [bearerSecret, hfront] at hread
  · rintro ⟨rfl, hvalid⟩
    rw [bearerSecret_append, if_pos hvalid]

section Answers

variable [DecidableEq Hash] (hash : Bytes → Hash) (s : RelayState Hash)

/-- A request that registers a session. -/
structure Registers (r : ApiRequest) (id secret : Bytes) : Prop where
  method : r.method = "POST"
  path : r.path = sessionsRoute
  authorization : r.authorization = bearer ++ secret
  secret : validLowerHex secret receiverSecretHexChars = true
  body : decodeRegisterSession r.body = some id
  id : validLowerHex id publicSessionHexChars = true

/-- A request of a receiver to be attached. -/
structure AsksForReceiver (r : ApiRequest) (id secret : Bytes) : Prop where
  method : r.method = "GET"
  path : r.path = receiverRoute ++ id
  id : validLowerHex id publicSessionHexChars = true
  authorization : r.authorization = bearer ++ secret
  secret : validLowerHex secret receiverSecretHexChars = true

/-- A request of a sender to be attached. -/
structure AsksForSender (r : ApiRequest) (id : Bytes) : Prop where
  method : r.method = "GET"
  path : r.path = senderRoute ++ id
  id : validLowerHex id publicSessionHexChars = true

/-- What a request comes to: one action of the relay, or none and then neither a registration
nor a bridge. -/
inductive Replied (r : ApiRequest) (reading : ℕ) : Reply × RelayState Hash → Prop
  | aside (response : HttpResponse) : Replied r reading (.answered (.http response), s)
  | register {id secret : Bytes} (hasks : Registers r id secret) :
    Replied r reading
      (.answered (registerResponse id (s.server.register hash id secret reading)),
        { s with server := (s.server.register hash id secret reading).2 })
  | attachReceiver {id secret : Bytes} (hasks : AsksForReceiver r id secret) :
    Replied r reading (attachReply (s.server.attachReceiver hash id secret).1,
      s.attached .receiver id (s.server.attachReceiver hash id secret))
  | attachSender {id : Bytes} (hasks : AsksForSender r id) :
    Replied r reading (attachReply (s.server.attachSender id).1,
      s.attached .sender id (s.server.attachSender id))

theorem routes_replied (r : ApiRequest) (reading : ℕ) :
    Replied hash s r reading (routes hash s r reading) := by
  unfold routes
  split
  · exact .aside _
  split
  · rename_i hpath
    unfold handleRegisterSession
    split
    · exact .aside _
    rename_i hmethod
    split
    · exact .aside _
    rename_i secret hsecret
    split
    · exact .aside _
    rename_i id hbody
    split
    · exact .aside _
    rename_i hid
    obtain ⟨hauthorization, hvalid⟩ := bearerSecret_eq_some_iff.mp hsecret
    exact .register ⟨not_not.mp hmethod, hpath, hauthorization, hvalid, hbody, by simpa using hid⟩
  split
  · unfold handleReceiver
    split
    · exact .aside _
    rename_i hmethod
    split
    · exact .aside _
    rename_i id hread
    split
    · exact .aside _
    rename_i secret hsecret
    obtain ⟨hpath, hid⟩ := pathSessionId_eq_some_iff.mp hread
    obtain ⟨hauthorization, hvalid⟩ := bearerSecret_eq_some_iff.mp hsecret
    exact .attachReceiver ⟨not_not.mp hmethod, hpath, hid, hauthorization, hvalid⟩
  split
  · unfold handleSender
    split
    · exact .aside _
    rename_i hmethod
    split
    · exact .aside _
    rename_i id hread
    obtain ⟨hpath, hid⟩ := pathSessionId_eq_some_iff.mp hread
    exact .attachSender ⟨not_not.mp hmethod, hpath, hid⟩
  · exact .aside _

variable {r : ApiRequest} {id secret : Bytes}

theorem Registers.routes (hregisters : Registers r id secret) (reading : ℕ) :
    Relay.routes hash s r reading =
      (.answered (registerResponse id (s.server.register hash id secret reading)),
        ⟨(s.server.register hash id secret reading).2, s.handlers⟩) := by
  have hother : sessionsRoute ≠ healthPath := by decide
  have hread := bearerSecret_eq_some_iff.mpr ⟨hregisters.authorization, hregisters.secret⟩
  simp only [Relay.routes, handleRegisterSession, hregisters.path, hother, hregisters.method, hread,
    hregisters.body, hregisters.id, if_false, if_true, ne_eq, not_true_eq_false, Bool.not_true,
    Bool.false_eq_true]

/-- A path under a route is not that of the health check or of the registration. -/
private theorem ne_of_route {route path : Bytes} (id : Bytes) (hroute : ¬route <+: path) :
    route ++ id ≠ path := by
  rintro rfl
  exact hroute (List.prefix_append _ _)

theorem AsksForReceiver.routes (hasks : AsksForReceiver r id secret) (reading : ℕ) :
    Relay.routes hash s r reading =
      (attachReply (s.server.attachReceiver hash id secret).1,
        s.attached .receiver id (s.server.attachReceiver hash id secret)) := by
  have hhealth : receiverRoute ++ id ≠ healthPath := ne_of_route id (by decide)
  have hsessions : receiverRoute ++ id ≠ sessionsRoute := ne_of_route id (by decide)
  have hroute : receiverRoute.isPrefixOf (receiverRoute ++ id) = true :=
    List.isPrefixOf_iff_prefix.mpr (List.prefix_append _ _)
  have hread := pathSessionId_eq_some_iff.mpr ⟨hasks.path, hasks.id⟩
  have hsecret := bearerSecret_eq_some_iff.mpr ⟨hasks.authorization, hasks.secret⟩
  rw [hasks.path] at hread
  simp only [Relay.routes, handleReceiver, hasks.path, hhealth, hsessions, hroute, hasks.method,
    hread, hsecret, if_false, if_true, ne_eq, not_true_eq_false]

theorem AsksForSender.routes (hasks : AsksForSender r id) (reading : ℕ) :
    Relay.routes hash s r reading = (attachReply (s.server.attachSender id).1,
      s.attached .sender id (s.server.attachSender id)) := by
  have hhealth : senderRoute ++ id ≠ healthPath := ne_of_route id (by decide)
  have hsessions : senderRoute ++ id ≠ sessionsRoute := ne_of_route id (by decide)
  have hother : receiverRoute.isPrefixOf (senderRoute ++ id) = false := by
    simp [receiverRoute, senderRoute, ascii, Char.toUInt8, List.isPrefixOf]
  have hroute : senderRoute.isPrefixOf (senderRoute ++ id) = true :=
    List.isPrefixOf_iff_prefix.mpr (List.prefix_append _ _)
  have hread := pathSessionId_eq_some_iff.mpr ⟨hasks.path, hasks.id⟩
  rw [hasks.path] at hread
  simp only [Relay.routes, handleSender, hasks.path, hhealth, hsessions, hother, hroute,
    hasks.method, hread, if_false, if_true, ne_eq, not_true_eq_false, Bool.false_eq_true]

end Answers

/-- What stays of a handler: its side, its session and its bridge. -/
def Handler.place (handler : Handler) : Side × Bytes × ℕ :=
  (handler.side, handler.id, handler.bridge)

/-- The handlers are those of before, with a connection or without one as before. -/
structure KeepsHandlers (s t : RelayState Hash) : Prop where
  places : t.handlers.map Handler.place = s.handlers.map Handler.place
  connected : t.handlers.map Handler.connected = s.handlers.map Handler.connected

section Behind

variable {s : RelayState Hash} {pointer : ℕ} {handler : Handler}

private theorem keepsHandlers_modify {change : Handler → Handler}
    (hhandler : s.handlers[pointer]? = some handler)
    (hplace : (change handler).place = handler.place)
    (hconnected : (change handler).connected = handler.connected) (server : RelayServer Hash) :
    KeepsHandlers s ⟨server, s.handlers.modify pointer change⟩ := by
  constructor
  · apply map_modify_of_same
    intro other hother
    obtain rfl := Option.some.inj (hother.symm.trans hhandler)
    exact hplace
  · apply map_modify_of_same
    intro other hother
    obtain rfl := Option.some.inj (hother.symm.trans hhandler)
    exact hconnected

/-- A handler lets go of its bridge, and goes on to a phase in which it has had a connection
as before or has had none as before. -/
private theorem keepsHandlers_detach {phase : HandlerPhase}
    (hhandler : s.handlers[pointer]? = some handler)
    (hconnected : ({ handler with phase := phase } : Handler).connected = handler.connected) :
    KeepsHandlers s ((s.detach handler).setPhase pointer phase) ∧
      ((s.detach handler).setPhase pointer phase).server.registrations =
        s.server.registrations := by
  obtain ⟨_, _, hdetach⟩ := detach_eq s handler
  rw [hdetach]
  exact ⟨keepsHandlers_modify hhandler rfl hconnected _, rfl⟩

variable [DecidableEq Hash] {hash : Bytes → Hash} {t : RelayState Hash} {action : RelayAction}

/-- An action behind the front, and a connection that is not accepted, make no handler, no
connection and no registration. -/
theorem keepsHandlers_of_behind
    (hbehind : action.behind = true ∨ ∃ pointer, action = .accept pointer false)
    (hstep : Relay.step hash s action = some t) :
    KeepsHandlers s t ∧ t.server.registrations = s.server.registrations := by
  cases step_cases hstep with
  | register | attachReceiver | attachSender | accept =>
      rcases hbehind with hbehind | ⟨_, hother⟩
      · cases hbehind
      · cases hother
  | tick | timerFires => exact ⟨⟨rfl, rfl⟩, rfl⟩
  | refuse hhandler hphase =>
      apply keepsHandlers_detach hhandler
      simp [Handler.connected, hphase]
  | @leave _ handler _ hhandler hphase =>
      apply keepsHandlers_detach hhandler
      simp [Handler.connected, hphase, handler.side.left_connected]
  | serve hhandler => exact ⟨keepsHandlers_modify hhandler rfl rfl _, rfl⟩
  | cancel hhandler hphase =>
      refine ⟨keepsHandlers_modify hhandler rfl ?_ _, rfl⟩
      simp [Handler.connected, hphase]
  | close hhandler hphase =>
      refine ⟨keepsHandlers_modify hhandler rfl ?_ _, rfl⟩
      simp [Handler.connected, hphase]
  | expire => exact ⟨⟨rfl, rfl⟩, expire_registrations _ _ _⟩

/-- A connection that is accepted is the handler's first. -/
theorem handlers_of_accept (hstep : Relay.step hash s (.accept pointer true) = some t) :
    t.handlers.map Handler.place = s.handlers.map Handler.place ∧
      (s.handlers.map Handler.connected)[pointer]? = some false ∧
      t.handlers.map Handler.connected = (s.handlers.map Handler.connected).set pointer true ∧
      t.server.registrations = s.server.registrations := by
  cases step_cases hstep with
  | @accept _ handler hhandler hphase =>
      refine ⟨?_, ?_, ?_, rfl⟩
      · apply map_modify_of_same
        exact fun _ _ => rfl
      · rw [List.getElem?_map, hhandler]
        simp [Handler.connected, hphase]
      · apply map_modify_eq_set
        exact fun _ _ => rfl

end Behind

end PrintDrop.Relay
