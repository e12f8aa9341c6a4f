/-
# The relay's front door

What the log of the front says of the relay behind it, in every run: whose handlers and
whose registrations these are, which requests have had a connection, and why each request was
granted what it was granted and answered what it was answered.
-/

import PrintDrop.Relay.Front

namespace PrintDrop.Relay

open Math

universe u

variable {Hash : Type u}

section Receivers

variable {s t : RelayState Hash} {action : RelayAction}

/-- A bridge has been made for a receiver. -/
def EachForReceiver (s : RelayState Hash) : Prop :=
  ∀ {pointer : ℕ} {bridge : RelayBridge}, s.server.bridges[pointer]? = some bridge →
    ∃ handler ∈ s.handlers, handler.side = .receiver ∧ handler.bridge = pointer

private theorem EachForReceiver.effect (hs : EachForReceiver s) (heffect : Effect s t action) :
    EachForReceiver t := by
  have hkept : ∀ {pointer : ℕ} {bridge : RelayBridge},
      s.server.bridges[pointer]? = some bridge →
        ∃ handler ∈ t.handlers, handler.side = .receiver ∧ handler.bridge = pointer := by
    intro pointer bridge hbridge
    obtain ⟨handler, hmem, hside, hsame⟩ := hs hbridge
    obtain ⟨index, hhandler⟩ := List.getElem?_of_mem hmem
    obtain ⟨handler', hhandler', hside', hbridge', -⟩ := heffect.kept hhandler
    exact ⟨handler', List.mem_of_getElem? hhandler', hside'.trans hside, hbridge'.trans hsame⟩
  intro pointer bridge' hbridge'
  cases heffect with
  | table hserver =>
      obtain ⟨bridge, hbridge, -⟩ := hserver.earlier hbridge'
      exact hkept hbridge
  | grantReceiver hbridges hhandlers =>
      rw [hbridges] at hbridge'
      rcases getElem?_concat_eq_some.mp hbridge' with hbridge | ⟨rfl, rfl⟩
      · exact hkept hbridge
      · rw [hhandlers]
        exact ⟨_, List.mem_concat_self, rfl, rfl⟩
  | grantSender _ _ _ _ _ hbridges | turn _ _ hbridges | serve _ _ _ _ hbridges =>
      rw [hbridges] at hbridge'
      obtain ⟨bridge, hbridge, -⟩ := getElem?_modify_eq_some.mp hbridge'
      exact hkept hbridge
  | close _ _ hserver =>
      rw [hserver] at hbridge'
      exact hkept hbridge'

variable [DecidableEq Hash] {hash : Bytes → Hash}

theorem eachForReceiver_of_reachable {ttl : ℕ} (hreachable : (system hash ttl).Reachable s) :
    EachForReceiver s := by
  apply hreachable.invariant
  · exact fun hnone => nomatch hnone
  · exact fun hprior hs _ hstep => hs.effect (step_effect (relayInv_of_runWithin hprior) hstep)

end Receivers

/-- A session that is stored is the last that has been registered under its id. -/
structure StoresLast (s : RelayServer Hash) : Prop where
  last : ∀ {id : Bytes} {pointer other : ℕ} {registration : Registration},
    s.sessions id = some pointer → pointer < other →
      s.registrations[other]? = some registration → registration.id ≠ id

section StoresLast

variable {s t : RelayServer Hash}

/-- Sessions are removed. -/
private theorem StoresLast.shrink (hs : StoresLast s)
    (hsessions : ∀ {id pointer}, t.sessions id = some pointer → s.sessions id = some pointer)
    (hregistrations : t.registrations = s.registrations) : StoresLast t where
  last hpointer hlater hother := by
    rw [hregistrations] at hother
    exact hs.last (hsessions hpointer) hlater hother

private theorem StoresLast.expireLocked (hs : StoresLast s) (id : Bytes) (pointer : ℕ) :
    StoresLast (s.expireLocked id pointer) := by
  refine hs.shrink (fun {other stored} hstored => ?_) rfl
  exact (sessions_expireLocked.mp hstored).2

private theorem StoresLast.create (hs : StoresLast s)
    (hcounted : s.registrations.length = s.records.length) (hash : Bytes → Hash) (id secret : Bytes)
    (reading : ℕ) : StoresLast (s.create hash id secret reading) := by
  constructor
  intro other pointer later registration hpointer hlater hregistration
  rcases getElem?_concat_eq_some.mp hregistration with hbefore | ⟨rfl, rfl⟩
  · have hlength := (List.getElem?_eq_some_iff.mp hbefore).1
    rcases sessions_create.mp hpointer with ⟨rfl, rfl⟩ | ⟨-, hstored⟩
    · omega
    · exact hs.last hstored hlater hbefore
  · rcases sessions_create.mp hpointer with ⟨rfl, rfl⟩ | ⟨hother, -⟩
    · omega
    · exact Ne.symm hother

private theorem StoresLast.detach {s : RelayState Hash} (hs : StoresLast s.server)
    (handler : Handler) : StoresLast (s.detach handler).server := by
  obtain ⟨_, _, hdetach⟩ := detach_eq s handler
  rw [hdetach]
  exact ⟨hs.last⟩

variable [DecidableEq Hash] {hash : Bytes → Hash} {s t : RelayState Hash} {action : RelayAction}

private theorem StoresLast.step (hs : StoresLast s.server) (hinv : RelayInv hash s)
    (hstep : Relay.step hash s action = some t) : StoresLast t.server := by
  cases step_cases hstep with
  | tick | accept | serve | cancel | close | timerFires => exact ⟨hs.last⟩
  | @register id secret reading =>
      have houtcome := register_outcome hash s.server id secret reading
      generalize s.server.register hash id secret reading = registered at houtcome
      cases houtcome with
      | created => exact hs.create hinv.table.records.counted hash id secret reading
      | replaced =>
          refine (hs.expireLocked _ _).create ?_ hash id secret reading
          rw [RelayServer.expireLocked, List.length_modify]
          exact hinv.table.records.counted
      | repeated | conflict => exact hs
  | attachReceiver id secret =>
      have houtcome := attachReceiver_outcome hash s.server id secret
      generalize s.server.attachReceiver hash id secret = attached at houtcome
      cases houtcome with
      | expired => exact hs.expireLocked _ _
      | refused | granted => exact ⟨hs.last⟩
  | attachSender id =>
      have houtcome := attachSender_outcome s.server id
      generalize s.server.attachSender id = attached at houtcome
      cases houtcome with
      | expired => exact hs.expireLocked _ _
      | refused | granted => exact ⟨hs.last⟩
  | refuse _ _ | leave _ _ _ => exact hs.detach _
  | @expire pointer record =>
      have hset : StoresLast (s.server.setTimer pointer .done) := ⟨hs.last⟩
      have houtcome := expire_outcome (s.server.setTimer pointer .done) record.timer.id pointer
      generalize (s.server.setTimer pointer .done).expire record.timer.id pointer = t at houtcome
      cases houtcome with
      | expired => exact hset.expireLocked _ _
      | other => exact hset

theorem storesLast_of_reachable {ttl : ℕ} (hreachable : (system hash ttl).Reachable s) :
    StoresLast s.server := by
  apply hreachable.invariant (P := fun state => StoresLast state.server)
  · exact ⟨fun hnone => nomatch hnone⟩
  · exact fun hprior hs _ hstep => hs.step (relayInv_of_runWithin hprior) hstep

end StoresLast

/-- The place that a request asks for, with the bridge that it was granted. -/
def placeAsked : ApiRequest × ℕ → Option (Side × Bytes × ℕ)
  | (r, bridge) =>
    match pathSessionId r.path receiverRoute with
    | some id => some (.receiver, id, bridge)
    | none => (pathSessionId r.path senderRoute).map fun id => (.sender, id, bridge)

/-- A request that was upgraded. -/
def upgrade : ApiRequest × Reply → Option (ApiRequest × ℕ)
  | (r, .answered (.upgrade bridge)) => some (r, bridge)
  | _ => none

/-- The requests that were granted a bridge and whose handlers have had a connection. -/
def Front.connected (s : Front Hash) : List (ApiRequest × ℕ) :=
  marked (s.relay.handlers.map Handler.connected) s.granted

/-- The session that an answer has created, with its secret and its expiry. -/
def created : ApiRequest × Reply → Option (Bytes × Bytes × ℕ)
  | (r, .answered (.registered 201 id expiresAt)) =>
    (bearerSecret r.authorization).map fun secret => (id, secret, expiresAt)
  | _ => none

def Registration.terms (ttl : ℕ) (registration : Registration) : Bytes × Bytes × ℕ :=
  (registration.id, registration.secret, registration.reading + ttl)

section Requests

variable {r : ApiRequest} {id secret : Bytes} {bridge : ℕ}

theorem AsksForReceiver.placeAsked (hasks : AsksForReceiver r id secret) (bridge : ℕ) :
    Relay.placeAsked (r, bridge) = some (.receiver, id, bridge) := by
  have hread := pathSessionId_eq_some_iff.mpr ⟨hasks.path, hasks.id⟩
  simp only [Relay.placeAsked, hread]

/-- A path has one of the two routes. -/
private theorem pathSessionId_senderRoute (id : Bytes) :
    pathSessionId (senderRoute ++ id) receiverRoute = none := by
  have hother : receiverRoute.isPrefixOf (senderRoute ++ id) = false := by
    simp [receiverRoute, senderRoute, ascii, Char.toUInt8, List.isPrefixOf]
  rw [pathSessionId, hother]
  rfl

theorem AsksForSender.placeAsked (hasks : AsksForSender r id) (bridge : ℕ) :
    Relay.placeAsked (r, bridge) = some (.sender, id, bridge) := by
  have hread := pathSessionId_eq_some_iff.mpr ⟨hasks.path, hasks.id⟩
  have hother : pathSessionId r.path receiverRoute = none := by
    rw [hasks.path]
    exact pathSessionId_senderRoute id
  simp only [Relay.placeAsked, hread, hother, Option.map_some]

/-- A place that is asked for is one at the bridge that was granted. -/
private theorem bridge_of_placeAsked {side : Side} {other : ℕ}
    (hplace : placeAsked (r, bridge) = some (side, id, other)) : bridge = other := by
  simp only [placeAsked] at hplace
  split at hplace
  · exact (Prod.mk.inj (Prod.mk.inj (Option.some.inj hplace)).2).2
  · obtain ⟨_, -, hsame⟩ := Option.map_eq_some_iff.mp hplace
    exact (Prod.mk.inj (Prod.mk.inj hsame).2).2

theorem Registers.created (hregisters : Registers r id secret) (expiresAt : ℕ) :
    Relay.created (r, .answered (.registered 201 id expiresAt)) = some (id, secret, expiresAt) := by
  have hread := bearerSecret_eq_some_iff.mpr ⟨hregisters.authorization, hregisters.secret⟩
  simp only [Relay.created, hread, Option.map_some]

/-- Only a request that is answered so creates a session. -/
private theorem reply_of_created {entry : ApiRequest × Reply} {expiresAt : ℕ}
    (hcreated : created entry = some (id, secret, expiresAt)) :
    entry.2 = .answered (.registered 201 id expiresAt) := by
  unfold created at hcreated
  split at hcreated
  · obtain ⟨read, -, hsame⟩ := Option.map_eq_some_iff.mp hcreated
    obtain ⟨rfl, hrest⟩ := Prod.mk.inj hsame
    obtain ⟨-, rfl⟩ := Prod.mk.inj hrest
    rfl
  · cases hcreated

/-- A request is granted a bridge where the log says so. -/
theorem mem_granted {s : Front Hash} :
    (r, bridge) ∈ s.granted ↔ (r, .granted bridge) ∈ s.log := by
  rw [Front.granted, List.mem_filterMap]
  constructor
  · rintro ⟨⟨other, reply⟩, hmem, hgrant⟩
    unfold grant at hgrant
    split at hgrant
    · rename_i hsame
      obtain ⟨rfl, rfl⟩ := Prod.mk.inj hsame
      obtain ⟨rfl, rfl⟩ := Prod.mk.inj (Option.some.inj hgrant)
      exact hmem
    · cases hgrant
  · exact fun hmem => ⟨_, hmem, rfl⟩

end Requests

/-! ## The front door -/

/-- The request is the last of these that has created the session. -/
structure LastCreated (before : List (ApiRequest × Reply)) (id secret : Bytes)
    (expiresAt : ℕ) : Prop where
  posted : ∃ earlier post later,
    before = earlier ++ (post, .answered (.registered 201 id expiresAt)) :: later ∧
      Registers post id secret ∧ ∀ other expiresAt',
        (other, Reply.answered (.registered 201 id expiresAt')) ∉ later

/-- Why a request came to what it did, after what the others had come to. A receiver is granted
a bridge for the secret of the last request that created its session, a sender the bridge
that a receiver of its session has been granted. Who registers a session again has that secret
and is told the expiry, and an upgrade is that of a request that was granted its bridge. -/
inductive Justified {Hash : Type u} (hash : Bytes → Hash)
    (before : List (ApiRequest × Reply)) (r : ApiRequest) : Reply → Prop
  | http (response : HttpResponse) : Justified hash before r (.answered (.http response))
  | created {id secret : Bytes} {expiresAt : ℕ} (hregisters : Registers r id secret) :
    Justified hash before r (.answered (.registered 201 id expiresAt))
  | repeated {id secret posted : Bytes} {expiresAt : ℕ} (hregisters : Registers r id secret)
    (hlast : LastCreated before id posted expiresAt) (hhash : hash secret = hash posted) :
    Justified hash before r (.answered (.registered 200 id expiresAt))
  | receiver {id secret posted : Bytes} {bridge expiresAt : ℕ} (hasks : AsksForReceiver r id secret)
    (hlast : LastCreated before id posted expiresAt) (hhash : hash secret = hash posted) :
    Justified hash before r (.granted bridge)
  | sender {id secret : Bytes} {bridge : ℕ} {asked : ApiRequest} (hasks : AsksForSender r id)
    (hasked : (asked, .granted bridge) ∈ before) (hreceiver : AsksForReceiver asked id secret) :
    Justified hash before r (.granted bridge)
  | upgraded {bridge : ℕ} (hgranted : (r, .granted bridge) ∈ before) :
    Justified hash before r (.answered (.upgrade bridge))

variable [DecidableEq Hash]

/-- What the front guarantees: the relay behind it is in a state of its own runs; its handlers
are those of the requests that were granted a bridge, one by one and in order; the requests
that were upgraded are those whose handlers have had a connection; its registrations are
those that requests were answered with; and whatever a request came to has its reason. -/
structure FrontDoor (hash : Bytes → Hash) (ttl : ℕ) (s : Front Hash) : Prop where
  relay : (Relay.system hash ttl).Reachable s.relay
  handlers : (s.relay.handlers.map Handler.place).map some = s.granted.map placeAsked
  upgraded : s.connected.Perm (s.log.filterMap upgrade)
  registrations : s.relay.server.registrations.map (Registration.terms ttl) =
    s.log.filterMap created
  justified : ∀ {before after : List (ApiRequest × Reply)} {r : ApiRequest} {reply : Reply},
    s.log = before ++ (r, reply) :: after → Justified hash before r reply

omit [DecidableEq Hash] in
private theorem registerResponse_ok {server : RelayServer Hash} {pointer : ℕ} {id : Bytes}
    {record : SessionRecord Hash} (hrecord : server.records[pointer]? = some record)
    (created : Bool) : registerResponse id (.ok (pointer, created), server) =
      .registered (if created then 201 else 200) id record.expiresAt := by
  rw [registerResponse, hrecord, Option.elim_some]

section Steps

variable {hash : Bytes → Hash} {ttl : ℕ} {s t : Front Hash} {r : ApiRequest} {id secret : Bytes}

/-- What creates a session is what registers it. -/
private theorem FrontDoor.created_eq (hs : FrontDoor hash ttl s) {entry : ApiRequest × Reply}
    (hmem : entry ∈ s.log) {expiresAt : ℕ}
    (hreply : entry.2 = .answered (.registered 201 id expiresAt)) :
    ∃ secret, Registers entry.1 id secret ∧ created entry = some (id, secret, expiresAt) := by
  obtain ⟨post, reply⟩ := entry
  obtain rfl : reply = .answered (.registered 201 id expiresAt) := hreply
  obtain ⟨before, after, hsplit⟩ := List.append_of_mem hmem
  cases hs.justified hsplit with
  | created hregisters => exact ⟨_, hregisters, hregisters.created _⟩

/-- The registration of a session that is stored, in the log. -/
private theorem FrontDoor.lastCreated (hs : FrontDoor hash ttl s) {pointer : ℕ}
    {registration : Registration} (hpointer : s.relay.server.sessions id = some pointer)
    (hregistration : s.relay.server.registrations[pointer]? = some registration)
    (hid : registration.id = id) :
    LastCreated s.log id registration.secret (registration.reading + ttl) := by
  obtain ⟨front, rear, hsplit, hlength⟩ : ∃ front rear,
      s.relay.server.registrations = front ++ registration :: rear ∧ front.length = pointer := by
    obtain ⟨hlt, hget⟩ := List.getElem?_eq_some_iff.mp hregistration
    refine ⟨_, s.relay.server.registrations.drop (pointer + 1), ?_,
      List.length_take_of_le hlt.le⟩
    rw [← hget, ← List.drop_eq_getElem_cons hlt, List.take_append_drop]
  have hother : ∀ other ∈ rear, other.id ≠ id := by
    intro other hmem
    obtain ⟨index, hindex⟩ := List.getElem?_of_mem hmem
    have hlater : s.relay.server.registrations[pointer + 1 + index]? = some other := by
      have hsame : front.length + 1 + index - front.length = index + 1 := by omega
      rw [hsplit, ← hlength, List.getElem?_append_right (by omega), hsame,
        List.getElem?_cons_succ, hindex]
    exact (storesLast_of_reachable hs.relay).last hpointer (by omega) hlater
  -- The log is cut where the registrations are.
  have hterms := hs.registrations
  rw [hsplit, List.map_append, List.map_cons, eq_comm, List.filterMap_eq_append_iff] at hterms
  obtain ⟨first, second, hlog, -, hsecond⟩ := hterms
  obtain ⟨skipped, entry, later, rfl, -, hcreated, hlater⟩ :=
    List.filterMap_eq_cons_iff.mp hsecond
  rw [Registration.terms, hid] at hcreated
  have hreply := reply_of_created hcreated
  have hmem : entry ∈ s.log := by simp [hlog]
  obtain ⟨secret, hregisters, hcreated'⟩ := hs.created_eq hmem hreply
  rw [hcreated'] at hcreated
  obtain ⟨rfl, -⟩ := Prod.mk.inj (Prod.mk.inj (Option.some.inj hcreated)).2
  refine ⟨first ++ skipped, entry.1, later, ?_, hregisters, fun other expiresAt hlast => ?_⟩
  · rw [hlog, ← hreply, List.append_assoc]
  · have hmem : (other, Reply.answered (.registered 201 id expiresAt)) ∈ s.log := by
      simp [hlog, hlast]
    obtain ⟨secret, -, hcreated⟩ := hs.created_eq hmem rfl
    have hterms : (id, secret, expiresAt) ∈ rear.map (Registration.terms ttl) := by
      rw [← hlater]
      exact List.mem_filterMap.mpr ⟨_, hlast, hcreated⟩
    obtain ⟨again, hagain, hsame⟩ := List.mem_map.mp hterms
    exact hother again hagain (Prod.mk.inj hsame).1

/-- The request of a handler. -/
private theorem FrontDoor.asked (hs : FrontDoor hash ttl s) {pointer : ℕ} {handler : Handler}
    (hhandler : s.relay.handlers[pointer]? = some handler) :
    ∃ r, s.granted[pointer]? = some (r, handler.bridge) ∧
      placeAsked (r, handler.bridge) = some handler.place := by
  have hplace := congrArg (·[pointer]?) hs.handlers
  simp only [List.getElem?_map, hhandler, Option.map_some] at hplace
  obtain ⟨⟨r, bridge⟩, hgranted, hplace⟩ := Option.map_eq_some_iff.mp hplace.symm
  obtain rfl := bridge_of_placeAsked hplace
  exact ⟨r, hgranted, hplace⟩

/-- One more entry of the log. -/
private theorem FrontDoor.record (hs : FrontDoor hash ttl s) {relay : RelayState Hash}
    {reply : Reply} (hrelay : (Relay.system hash ttl).Reachable relay)
    (hhandlers : (relay.handlers.map Handler.place).map some =
      (s.relay.handlers.map Handler.place).map some ++ (grant (r, reply)).toList.map placeAsked)
    (hupgraded : (marked (relay.handlers.map Handler.connected)
      (s.granted ++ (grant (r, reply)).toList)).Perm (s.connected ++ (upgrade (r, reply)).toList))
    (hregistrations : relay.server.registrations.map (Registration.terms ttl) =
      s.relay.server.registrations.map (Registration.terms ttl) ++ (created (r, reply)).toList)
    (hjustified : Justified hash s.log r reply) :
    FrontDoor hash ttl ⟨relay, s.log ++ [(r, reply)]⟩ := by
  have hlast : ∀ {β : Type} (part : ApiRequest × Reply → Option β),
      (s.log ++ [(r, reply)]).filterMap part =
        s.log.filterMap part ++ (part (r, reply)).toList := by
    intro β part
    rw [List.filterMap_append]
    cases hpart : part (r, reply) <;> simp [hpart]
  have hgranted : Front.granted ⟨relay, s.log ++ [(r, reply)]⟩ =
      s.granted ++ (grant (r, reply)).toList := hlast grant
  constructor
  case relay => exact hrelay
  case handlers =>
    rw [hgranted, List.map_append, ← hs.handlers]
    exact hhandlers
  case upgraded =>
    rw [Front.connected, hgranted, hlast]
    exact hupgraded.trans (hs.upgraded.append_right _)
  case registrations =>
    rw [hlast, ← hs.registrations]
    exact hregistrations
  case justified =>
    intro before after other earlier hsplit
    rcases List.eq_nil_or_concat after with rfl | ⟨front, last, rfl⟩
    · obtain ⟨rfl, hsame⟩ := List.append_inj' hsplit rfl
      obtain ⟨rfl, rfl⟩ := Prod.mk.inj (List.cons.inj hsame).1
      exact hjustified
    · have hends : s.log ++ [(r, reply)] =
          (before ++ (other, earlier) :: front) ++ [last] := by simpa using hsplit
      exact hs.justified (List.append_inj_left' hends rfl)

/-- An answer that is no upgrade; the handlers are those of before. -/
private theorem FrontDoor.answer (hs : FrontDoor hash ttl s) {relay : RelayState Hash}
    {response : ApiResponse} (hrelay : (Relay.system hash ttl).Reachable relay)
    (hkeeps : KeepsHandlers s.relay relay) (hupgrade : upgrade (r, .answered response) = none)
    (hregistrations : relay.server.registrations.map (Registration.terms ttl) =
      s.relay.server.registrations.map (Registration.terms ttl) ++
        (created (r, .answered response)).toList)
    (hjustified : Justified hash s.log r (.answered response)) :
    FrontDoor hash ttl ⟨relay, s.log ++ [(r, .answered response)]⟩ := by
  apply hs.record hrelay _ _ hregistrations hjustified
  · rw [hkeeps.places]
    exact (List.append_nil _).symm
  · have hgrant : grant (r, .answered response) = none := rfl
    rw [hkeeps.connected, hgrant, hupgrade, Option.toList_none, List.append_nil, List.append_nil]
    exact .refl _

/-- A request is answered with an error, or by something else than the relay. -/
private theorem FrontDoor.http (hs : FrontDoor hash ttl s) {relay : RelayState Hash}
    (hrelay : (Relay.system hash ttl).Reachable relay) (hkeeps : KeepsHandlers s.relay relay)
    (hregistrations : relay.server.registrations = s.relay.server.registrations)
    (response : HttpResponse) :
    FrontDoor hash ttl ⟨relay, s.log ++ [(r, .answered (.http response))]⟩ := by
  apply hs.answer hrelay hkeeps rfl _ (.http response)
  rw [hregistrations]
  exact (List.append_nil _).symm

/-- A session is registered. -/
private theorem FrontDoor.register (hs : FrontDoor hash ttl s) {reading : ℕ}
    (hregisters : Registers r id secret) (hreading : reading ≤ s.relay.server.now) :
    FrontDoor hash ttl
      ⟨⟨(s.relay.server.register hash id secret reading).2, s.relay.handlers⟩, s.log ++
        [(r, .answered (registerResponse id
          (s.relay.server.register hash id secret reading)))]⟩ := by
  have hinv := relayInv_of_runWithin hs.relay
  have httl := (timed_of_runWithin hs.relay).lifetime
  have hrelay : (Relay.system hash ttl).Reachable
      ⟨(s.relay.server.register hash id secret reading).2, s.relay.handlers⟩ := by
    have hstep : (Relay.system hash ttl).step s.relay (.register id secret reading) = some _ :=
      if_pos hreading
    exact .step hs.relay trivial hstep
  have houtcome := register_outcome hash s.relay.server id secret reading
  generalize s.relay.server.register hash id secret reading = registered at hrelay houtcome ⊢
  have hnew : ∀ (server : RelayServer Hash), server.ttl = ttl →
      server.registrations = s.relay.server.registrations →
        server.records.length = s.relay.server.records.length →
          (Relay.system hash ttl).Reachable
            ⟨server.create hash id secret reading, s.relay.handlers⟩ →
            FrontDoor hash ttl ⟨⟨server.create hash id secret reading, s.relay.handlers⟩, s.log ++
              [(r, .answered (registerResponse id (.ok (s.relay.server.records.length, true),
                server.create hash id secret reading)))]⟩ := by
    intro server hlifetime hregistrations hlength hreachable
    have hrecord : (server.create hash id secret reading).records[s.relay.server.records.length]? =
        some ⟨hash secret, reading + server.ttl, ⟨id, server.now + server.ttl, .armed⟩, none⟩ := by
      rw [← hlength]
      exact List.getElem?_concat_length
    rw [registerResponse_ok hrecord true, if_pos rfl, hlifetime]
    apply hs.answer hreachable ⟨rfl, rfl⟩ rfl _ (.created hregisters)
    rw [hregisters.created, RelayServer.create, hregistrations, List.map_append]
    rfl
  cases houtcome with
  | created => exact hnew _ httl rfl rfl hrelay
  | replaced => exact hnew _ httl rfl (List.length_modify _ _ _) hrelay
  | repeated hpointer hrecord hsecret =>
      obtain ⟨registration, hregistration, hid, hhash, hexpires⟩ :=
        hinv.table.records.registration hpointer hrecord
      have hlast := hs.lastCreated hpointer hregistration hid
      rw [registerResponse_ok hrecord false, if_neg Bool.false_ne_true, hexpires, httl]
      apply hs.answer hrelay ⟨rfl, rfl⟩ rfl _
        (.repeated hregisters hlast (hsecret.symm.trans hhash))
      exact (List.append_nil _).symm
  | conflict => exact hs.http hrelay ⟨rfl, rfl⟩ rfl _

/-- A peer is refused a bridge. -/
private theorem FrontDoor.refused (hs : FrontDoor hash ttl s) {relay : RelayState Hash}
    {error : RelayError} (hrelay : (Relay.system hash ttl).Reachable relay)
    (hhandlers : relay.handlers = s.relay.handlers)
    (hregistrations : relay.server.registrations = s.relay.server.registrations) :
    FrontDoor hash ttl ⟨relay, s.log ++ [(r, .answered (writeAttachError error))]⟩ := by
  have hkeeps : KeepsHandlers s.relay relay := ⟨by rw [hhandlers], by rw [hhandlers]⟩
  have hresponse : ∃ response, writeAttachError error = .http response := by
    cases error <;> exact ⟨_, rfl⟩
  obtain ⟨response, hresponse⟩ := hresponse
  rw [hresponse]
  exact hs.http hrelay hkeeps hregistrations response

/-- A peer is granted a bridge, and has no connection yet. -/
private theorem FrontDoor.attached (hs : FrontDoor hash ttl s) {server : RelayServer Hash}
    {side : Side} {bridge : ℕ}
    (hrelay : (Relay.system hash ttl).Reachable
      (s.relay.attached side id (.ok bridge, server)))
    (hregistrations : server.registrations = s.relay.server.registrations)
    (hplace : placeAsked (r, bridge) = some (side, id, bridge))
    (hjustified : Justified hash s.log r (.granted bridge)) :
    FrontDoor hash ttl ⟨s.relay.attached side id (.ok bridge, server),
      s.log ++ [(r, .granted bridge)]⟩ := by
  have hlength : (s.relay.handlers.map Handler.connected).length = s.granted.length := by
    have hsame := congrArg List.length hs.handlers
    simpa using hsame
  apply hs.record hrelay _ _ _ hjustified
  · simp [RelayState.attached, grant, hplace, Handler.place]
  · have hconnected : (s.relay.attached side id (.ok bridge, server)).handlers.map
        Handler.connected = s.relay.handlers.map Handler.connected ++ [false] := List.map_append
    have hgrant : (grant (r, .granted bridge)).toList = [(r, bridge)] := rfl
    rw [hconnected, hgrant, marked_concat hlength]
    exact .of_eq (List.append_nil _).symm
  · rw [RelayState.attached, hregistrations]
    exact (List.append_nil _).symm

/-- A receiver asks to be attached. -/
private theorem FrontDoor.attachReceiver (hs : FrontDoor hash ttl s)
    (hasks : AsksForReceiver r id secret) :
    FrontDoor hash ttl
      ⟨s.relay.attached .receiver id (s.relay.server.attachReceiver hash id secret),
        s.log ++ [(r, attachReply (s.relay.server.attachReceiver hash id secret).1)]⟩ := by
  have hinv := relayInv_of_runWithin hs.relay
  have hrelay : (Relay.system hash ttl).Reachable
      (s.relay.attached .receiver id (s.relay.server.attachReceiver hash id secret)) := by
    have hstep : (Relay.system hash ttl).step s.relay (.attachReceiver id secret) = some _ := rfl
    exact .step hs.relay trivial hstep
  have houtcome := attachReceiver_outcome hash s.relay.server id secret
  generalize s.relay.server.attachReceiver hash id secret = attached at hrelay houtcome ⊢
  cases houtcome with
  | expired | refused => exact hs.refused hrelay rfl rfl
  | granted hpointer hrecord _ hsecret =>
      obtain ⟨registration, hregistration, hid, hhash, -⟩ :=
        hinv.table.records.registration hpointer hrecord
      have hlast := hs.lastCreated hpointer hregistration hid
      exact hs.attached hrelay rfl (hasks.placeAsked _)
        (.receiver hasks hlast (hsecret.symm.trans hhash))

/-- A sender asks to be attached. -/
private theorem FrontDoor.attachSender (hs : FrontDoor hash ttl s) (hasks : AsksForSender r id) :
    FrontDoor hash ttl ⟨s.relay.attached .sender id (s.relay.server.attachSender id),
      s.log ++ [(r, attachReply (s.relay.server.attachSender id).1)]⟩ := by
  have hinv := relayInv_of_runWithin hs.relay
  have hrelay : (Relay.system hash ttl).Reachable
      (s.relay.attached .sender id (s.relay.server.attachSender id)) := by
    have hstep : (Relay.system hash ttl).step s.relay (.attachSender id) = some _ := rfl
    exact .step hs.relay trivial hstep
  have houtcome := attachSender_outcome s.relay.server id
  generalize s.relay.server.attachSender id = attached at hrelay houtcome ⊢
  cases houtcome with
  | expired | refused => exact hs.refused hrelay rfl rfl
  | granted hpointer hrecord _ hactive hobject _ =>
      -- The bridge has been made for a receiver, which has asked for it.
      obtain ⟨receiving, hmem, hside, rfl⟩ := eachForReceiver_of_reachable hs.relay hobject
      obtain ⟨index, hreceiving⟩ := List.getElem?_of_mem hmem
      have hid : receiving.id = id := by
        have hsession := hinv.table.session_of_active hpointer hrecord hactive hobject
        obtain ⟨_, hsame, hsession'⟩ := hinv.handlers hreceiving
        obtain rfl := Option.some.inj (hsame.symm.trans hobject)
        exact hsession'.symm.trans hsession
      obtain ⟨asked, hgranted, hplace⟩ := hs.asked hreceiving
      have hlogged := mem_granted.mp (List.mem_of_getElem? hgranted)
      obtain ⟨before, after, hsplit⟩ := List.append_of_mem hlogged
      rw [Handler.place, hside, hid] at hplace
      cases hs.justified hsplit with
      | sender hasks' =>
          rw [hasks'.placeAsked] at hplace
          cases hplace
      | receiver hasked =>
          rw [hasked.placeAsked] at hplace
          obtain ⟨rfl, -⟩ := Prod.mk.inj (Prod.mk.inj (Option.some.inj hplace)).2
          exact hs.attached hrelay rfl (hasks.placeAsked _) (.sender hasks hlogged hasked)

/-- `websocket.Accept` answers the request of a handler. -/
private theorem FrontDoor.accept (hs : FrontDoor hash ttl s) {pointer bridge : ℕ}
    {refusal : Option HttpResponse} {relay : RelayState Hash}
    (hgranted : s.granted[pointer]? = some (r, bridge))
    (hstep : Relay.step hash s.relay (.accept pointer refusal.isNone) = some relay) :
    FrontDoor hash ttl ⟨relay, s.log ++ [(r, .answered (acceptResponse bridge refusal))]⟩ := by
  have htaken : (Relay.system hash ttl).step s.relay (.accept pointer refusal.isNone) =
      some relay := hstep
  have hrelay : (Relay.system hash ttl).Reachable relay := .step hs.relay trivial htaken
  cases refusal with
  | some response =>
      obtain ⟨hkeeps, hregistrations⟩ := keepsHandlers_of_behind (.inr ⟨pointer, rfl⟩) hstep
      exact hs.http hrelay hkeeps hregistrations response
  | none =>
      obtain ⟨hplaces, hmark, hconnected, hregistrations⟩ := handlers_of_accept hstep
      have hlogged := mem_granted.mp (List.mem_of_getElem? hgranted)
      apply hs.record hrelay _ _ _ (.upgraded hlogged)
      · rw [hplaces]
        exact (List.append_nil _).symm
      · have hgrant : grant (r, .answered (.upgrade bridge)) = none := rfl
        rw [hconnected, hgrant, Option.toList_none, List.append_nil]
        exact marked_set_perm hmark hgranted
      · rw [hregistrations]
        exact (List.append_nil _).symm

/-- **Step lemma.** -/
theorem FrontDoor.step (hs : FrontDoor hash ttl s) {action : FrontAction}
    (hstep : Front.step hash s action = some t) : FrontDoor hash ttl t := by
  cases action with
  | request r reading =>
      simp only [Front.step] at hstep
      split at hstep
      · rename_i hreading
        obtain rfl := Option.some.inj hstep
        have hreplied := routes_replied hash s.relay r reading
        generalize routes hash s.relay r reading = replied at hreplied ⊢
        cases hreplied with
        | aside response => exact hs.http hs.relay ⟨rfl, rfl⟩ rfl response
        | register hregisters => exact hs.register hregisters hreading
        | attachReceiver hasks => exact hs.attachReceiver hasks
        | attachSender hasks => exact hs.attachSender hasks
      · cases hstep
  | accept pointer refusal =>
      simp only [Front.step] at hstep
      split at hstep
      · cases hstep
      · rename_i r bridge hgranted
        obtain ⟨relay, htaken, rfl⟩ := Option.map_eq_some_iff.mp hstep
        exact hs.accept hgranted htaken
  | relay action =>
      simp only [Front.step] at hstep
      split at hstep
      · rename_i hbehind
        obtain ⟨relay, htaken, rfl⟩ := Option.map_eq_some_iff.mp hstep
        obtain ⟨hkeeps, hregistrations⟩ := keepsHandlers_of_behind (.inl hbehind) htaken
        refine ⟨.step hs.relay trivial htaken, ?_, ?_,
          (congrArg (List.map _) hregistrations).trans hs.registrations, hs.justified⟩
        · rw [hkeeps.places]
          exact hs.handlers
        · rw [Front.connected, hkeeps.connected]
          exact hs.upgraded
      · cases hstep

end Steps

/-- In every run of the front, with any requests in any order, whatever `websocket.Accept`
answers and whatever the relay does behind it, the front keeps its guarantees: a receiver is
let in only with the secret of the last request that created its session, a sender only to a
receiver of the session it names, and only who was let in is upgraded. -/
theorem Front.frontDoor_of_reachable {hash : Bytes → Hash} {ttl : ℕ} {s : Front Hash}
    (hreachable : (Front.system hash ttl).Reachable s) : FrontDoor hash ttl s := by
  apply hreachable.invariant
  · exact ⟨.init, rfl, .refl _, rfl, fun hsplit => by simp [Front.system] at hsplit⟩
  · exact fun _ hs _ hstep => hs.step hstep

/-- A session is registered, and attached to by a receiver and two senders, the first of which
does not get a connection. -/
def visits : List FrontAction :=
  let id : Bytes := List.replicate 32 0x30
  let authorization := bearer ++ List.replicate 64 0x61
  let post : ApiRequest :=
    ⟨⟨"POST", sessionsRoute⟩, authorization, bodyPrefix ++ id ++ bodySuffix⟩
  let send : ApiRequest := ⟨⟨"GET", senderRoute ++ id⟩, [], []⟩
  [.request post 0, .relay (.tick 1), .request ⟨⟨"GET", receiverRoute ++ id⟩, authorization, []⟩ 0,
    .request send 0, .accept 1 (some (httpError [] "Upgrade Required" 426)), .accept 0 none,
    .request send 0, .request send 0, .accept 2 none, .request post 1]

def visited : Front Bytes :=
  ((Front.system id 5).run (Front.system id 5).init visits).getD (Front.system id 5).init

theorem visited_frontDoor :
    visited.log.map (fun entry => entry.2.status) =
        [some 201, none, none, some 426, some 101, none, some 409, some 101, some 200] ∧
      FrontDoor id 5 visited :=
  ⟨by decide +kernel, Front.frontDoor_of_reachable (TransitionSystem.reachable_getD_run visits)⟩

end PrintDrop.Relay
