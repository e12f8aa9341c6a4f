/-
# The receiver thread

`pd_receiver_worker` of `win32_main.c` and `pd_win32_receiver_run_session`, cut where other
threads may run in between: the calls of libcurl and of the heap that set the session up,
the passes of the loop, the reports that are posted to the window one after another, the
closing of the session, and the message at the end.

The arguments are read from the application when the thread starts. That they stay what
they are while it runs is proved of the whole program.
-/

import PrintDrop.Desktop.Session
import PrintDrop.Receiver.AckDiscipline

namespace PrintDrop.Desktop

open Math

universe u v w

/-- What the part of `pd_win32_receiver_run_session` that precedes the loop comes to: a
result, with which the session is closed or not, or a connected client. -/
inductive SetUp
  | returned (result : Win32ReceiverRuntimeResult) (closes : Bool)
  | connected
  deriving DecidableEq

/-- From the client on. -/
def clientSetUp (insecure : Option CString) (receiverUrl : Bytes) (session : ReceiverSession)
    (jobsRoot : WideString) : RelayProgram SetUp := do
  match ← win32RelayClientInit insecure (some (cString receiverUrl))
    (some (cString session.receiverSecret.toList)) with
  | (.ok, some set) =>
    let connected ← win32RelayClientConnect set
    if !connected then return .returned .relayError true
    match win32ReceiveHandlerInit jobsRoot () () [] with
    | .error _ => return .returned .storageError true
    | .ok _ => return .connected
  | _ => return .returned .relayError true

/-- `pd_win32_receiver_run_session` up to its loop. -/
def sessionSetUp (insecure : Option CString) (relayBase : CString) (session : ReceiverSession)
    (jobsRoot : WideString) : RelayProgram SetUp :=
  if session.state ≠ .waiting ∨ byteAt session.token.toList 0 = 0 ∨
      byteAt session.receiverSecret.toList 0 = 0 then
    pure (.returned .invalidArgument false)
  else
    match relayBuildReceiverWssUrl (some relayBase) (some (cString session.token.toList))
      (some relayEndpointCapacity) with
    | ⟨.ok, some receiverUrl⟩ => do
      let initialized ← Dialogue.question .globalInit
      if !initialized.ok then return .returned .relayError false
      let registered ← win32RelayRegisterSession insecure (some relayBase)
        (some (cString session.token.toList)) (some (cString session.receiverSecret.toList))
      if registered ≠ .ok then return .returned .registrationError false
      clientSetUp insecure receiverUrl session jobsRoot
    | _ => pure (.returned .endpointError false)

/-- What follows the set-up. -/
def afterSetUp (session : ReceiverSession) (served : List ConnectionCall × ReceiverLoopResult) :
    SetUp → RelayProgram (Win32ReceiverRuntimeResult × Option ReceiverSession)
  | .returned result closes =>
    pure (result, some (if closes then receiverSessionClose session else session))
  | .connected => do
    connectionCalls served.1
    return (runtimeResultOfLoop served.2, some (receiverSessionClose session))

private theorem clientSetUp_eq (insecure : Option CString) (receiverUrl : Bytes)
    (session : ReceiverSession) (jobsRoot : WideString)
    (served : List ConnectionCall × ReceiverLoopResult) :
    (do
      let result ← connectedSession insecure receiverUrl session jobsRoot served
      return (result, some (receiverSessionClose session))) =
    clientSetUp insecure receiverUrl session jobsRoot >>= afterSetUp session served := by
  unfold connectedSession clientSetUp
  rw [Dialogue.bind_assoc, Dialogue.bind_assoc]
  congr 1
  funext ⟨result, set⟩
  cases set with
  | none => cases result <;> rfl
  | some set =>
      cases result with
      | ok =>
          dsimp only
          rw [Dialogue.bind_assoc, Dialogue.bind_assoc]
          congr 1
          funext connected
          cases connected with
          | false => rfl
          | true =>
              cases win32ReceiveHandlerInit jobsRoot () () [] with
              | error _ => rfl
              | ok _ => exact Dialogue.bind_assoc _ _ _
      | invalidArgument | invalidUrl | invalidSecret | curlError => rfl

/-- The whole of `pd_win32_receiver_run_session` is its set-up and what follows. -/
theorem win32ReceiverRunSession_eq (insecure : Option CString) (relayBase : CString)
    (session : ReceiverSession) (jobsRoot : WideString)
    (served : List ConnectionCall × ReceiverLoopResult) :
    win32ReceiverRunSession insecure (some relayBase) (some session) (some jobsRoot) served =
      sessionSetUp insecure relayBase session jobsRoot >>= afterSetUp session served := by
  unfold win32ReceiverRunSession sessionSetUp
  dsimp only
  split
  · rfl
  cases relayBuildReceiverWssUrl (some relayBase) (some (cString session.token.toList))
      (some relayEndpointCapacity) with
  | mk result receiverUrl =>
  cases receiverUrl with
  | none => cases result <;> rfl
  | some receiverUrl =>
      cases result with
      | ok =>
          dsimp only
          rw [Dialogue.bind_assoc]
          congr 1
          funext initialized
          split
          · rfl
          rw [Dialogue.bind_assoc]
          congr 1
          funext registered
          split
          · rfl
          · exact clientSetUp_eq insecure receiverUrl session jobsRoot served
      | invalidArgument | invalidBaseUrl | invalidSessionId | bufferTooSmall => rfl

/-- What the relay has been asked before the loop: it has taken the registration of the
session, and after that the client has connected as its receiver. -/
structure Registered (relayBase : CString) (session : ReceiverSession)
    (calls : List (RelayCall × RelayAnswer)) : Prop where
  asked : ∃ (endpoint body receiverUrl : Bytes) (bodySize : ℕ)
      (performed response connected : RelayAnswer),
    relayRegistrationBuildEndpoint (some relayBase) (some relayRegistrationEndpointCapacity) =
      ⟨.ok, some endpoint⟩ ∧
    relayRegistrationBuildBody (some (cString session.token.toList))
      (some relayRegistrationBodyCapacity) = (⟨.ok, some body⟩, bodySize) ∧
    relayBuildReceiverWssUrl (some relayBase) (some (cString session.token.toList))
      (some relayEndpointCapacity) = ⟨.ok, some receiverUrl⟩ ∧
    [(RelayCall.perform .registration (registrationOptions endpoint body bodySize
        [contentTypeHeader, authHeader (cString session.receiverSecret.toList)]), performed),
      (.getResponseCode .registration, response),
      (.perform .client (clientOptions (cString receiverUrl).val
        [authHeader (cString session.receiverSecret.toList)]), connected)].Sublist calls ∧
    performed.ok = true ∧ (response.responseCode = 200 ∨ response.responseCode = 201) ∧
    connected.ok = true

section Leads

variable {calls : List (RelayCall × RelayAnswer)}

/-- A question whose answer has to be good. -/
private theorem leads_unless {α : Type} {question : RelayCall} {bad good : α}
    {later : RelayAnswer → RelayProgram α} (hne : bad ≠ good)
    (hleads : (Dialogue.question question >>= fun answer : RelayAnswer =>
      if !answer.ok then pure bad else later answer).Leads calls good) :
    ∃ answer rest, calls = (question, answer) :: rest ∧ answer.ok = true ∧
      (later answer).Leads rest good := by
  obtain ⟨answer, first, rest, rfl, hfirst, hrest⟩ := Dialogue.leads_bind.mp hleads
  obtain rfl := Dialogue.leads_question.mp hfirst
  cases hok : answer.ok with
  | true =>
      rw [hok] at hrest
      exact ⟨answer, rest, rfl, hok, hrest⟩
  | false =>
      rw [hok] at hrest
      exact absurd hrest.2 hne

/-- The options that a handle has once all were set. -/
private theorem leads_curlSetOpts {handle : CurlHandle} {set taken options : List CurlOption}
    (hleads : (curlSetOpts handle taken options).Leads calls (some set)) :
    set = taken ++ options := by
  induction options generalizing calls taken with
  | nil =>
      obtain ⟨-, hset⟩ := hleads
      rw [List.append_nil]
      exact (Option.some.inj hset).symm
  | cons option rest ih =>
      obtain ⟨answer, first, later, rfl, -, hlater⟩ := Dialogue.leads_bind.mp hleads
      split at hlater
      · rw [ih hlater, List.append_assoc]
        rfl
      · cases hlater.2

private theorem leads_registrationRequest {endpoint body : Bytes} {bodySize : ℕ}
    {receiverSecret : CString}
    (hleads : (registrationRequest endpoint body bodySize receiverSecret).Leads calls .ok) :
    ∃ performed response,
      [(RelayCall.perform .registration (registrationOptions endpoint body bodySize
          [contentTypeHeader, authHeader receiverSecret]), performed),
        (.getResponseCode .registration, response)].Sublist calls ∧
      performed.ok = true ∧ (response.responseCode = 200 ∨ response.responseCode = 201) := by
  unfold registrationRequest at hleads
  obtain ⟨-, rest₁, rfl, -, hleads⟩ := leads_unless (by decide) hleads
  obtain ⟨-, rest₂, rfl, -, hleads⟩ := leads_unless (by decide) hleads
  obtain ⟨-, rest₃, rfl, -, hleads⟩ := leads_unless (by decide) hleads
  obtain ⟨options, first, rest₄, rfl, hoptions, hleads⟩ := Dialogue.leads_bind.mp hleads
  cases options with
  | none => cases hleads.2
  | some set =>
      obtain rfl := leads_curlSetOpts hoptions
      obtain ⟨performed, rest₅, rfl, hperformed, hleads⟩ := leads_unless (by decide) hleads
      obtain ⟨response, rest₆, rfl, -, hleads⟩ := leads_unless (by decide) hleads
      have hcode : registrationResultOfResponse response.responseCode = .ok := hleads.2
      refine ⟨performed, response, ?_, hperformed, ?_⟩
      · refine ((List.Sublist.append (List.nil_sublist first) ?_).cons _).cons _ |>.cons _
        exact ((List.nil_sublist _).cons_cons _).cons_cons _
      · unfold registrationResultOfResponse at hcode
        split at hcode
        · assumption
        · split at hcode
          · cases hcode
          · split at hcode <;> cases hcode

private theorem leads_registerSession {insecure : Option CString}
    {relayBase token receiverSecret : CString}
    (hleads : (win32RelayRegisterSession insecure (some relayBase) (some token)
      (some receiverSecret)).Leads calls .ok) :
    ∃ endpoint body bodySize,
      relayRegistrationBuildEndpoint (some relayBase) (some relayRegistrationEndpointCapacity) =
        ⟨.ok, some endpoint⟩ ∧
      relayRegistrationBuildBody (some token) (some relayRegistrationBodyCapacity) =
        (⟨.ok, some body⟩, bodySize) ∧
      (registrationRequest endpoint body bodySize receiverSecret).Leads calls .ok := by
  unfold win32RelayRegisterSession at hleads
  dsimp only at hleads
  split at hleads
  · cases hleads.2
  split at hleads
  · rename_i endpoint body bodySize hendpoint hbody
    exact ⟨endpoint, body, bodySize, hendpoint, hbody, hleads⟩
  · cases hleads.2

private theorem leads_clientInit {insecure : Option CString} {wssUrl receiverSecret : CString}
    {set : List CurlOption}
    (hleads : (win32RelayClientInit insecure (some wssUrl) (some receiverSecret)).Leads calls
      (.ok, some set)) : set = clientOptions wssUrl.val [authHeader receiverSecret] := by
  unfold win32RelayClientInit at hleads
  dsimp only at hleads
  split at hleads
  · cases hleads.2
  split at hleads
  · cases hleads.2
  obtain ⟨-, rest₁, -, -, hleads⟩ := leads_unless (by simp) hleads
  obtain ⟨-, rest₂, -, -, hleads⟩ := leads_unless (by simp) hleads
  obtain ⟨-, rest₃, -, -, hleads⟩ := leads_unless (by simp) hleads
  obtain ⟨options, first, rest₄, -, hoptions, hleads⟩ := Dialogue.leads_bind.mp hleads
  cases options with
  | none => cases hleads.2
  | some given =>
      obtain rfl := leads_curlSetOpts hoptions
      exact (Option.some.inj (congrArg Prod.snd hleads.2)).symm

private theorem leads_clientSetUp {insecure : Option CString} {receiverUrl : Bytes}
    {session : ReceiverSession} {jobsRoot : WideString}
    (hleads : (clientSetUp insecure receiverUrl session jobsRoot).Leads calls .connected) :
    ∃ connected : RelayAnswer, connected.ok = true ∧
      (RelayCall.perform .client (clientOptions (cString receiverUrl).val
        [authHeader (cString session.receiverSecret.toList)]), connected) ∈ calls := by
  obtain ⟨⟨result, set⟩, first, rest, rfl, hinit, hleads⟩ := Dialogue.leads_bind.mp hleads
  split at hleads
  · rename_i set' hprepared
    obtain ⟨rfl, rfl⟩ := Prod.mk.inj hprepared
    obtain rfl := leads_clientInit hinit
    obtain ⟨connected, second, last, rfl, hconnect, hlater⟩ := Dialogue.leads_bind.mp hleads
    obtain ⟨answer, third, fourth, rfl, hperform, rfl, rfl⟩ := Dialogue.leads_bind.mp hconnect
    obtain rfl := Dialogue.leads_question.mp hperform
    cases hok : answer.ok with
    | true => exact ⟨answer, hok, by simp⟩
    | false =>
        rw [hok] at hlater
        cases hlater.2
  · cases hleads.2

/-- A client is connected only for a session that the relay has registered. -/
theorem registered_of_leads {insecure : Option CString} {relayBase : CString}
    {session : ReceiverSession} {jobsRoot : WideString}
    (hleads : (sessionSetUp insecure relayBase session jobsRoot).Leads calls .connected) :
    Registered relayBase session calls := by
  unfold sessionSetUp at hleads
  split at hleads
  · cases hleads.2
  split at hleads
  · rename_i receiverUrl hreceiverUrl
    obtain ⟨-, rest, rfl, -, hleads⟩ := leads_unless (by decide) hleads
    obtain ⟨registered, first, last, rfl, hregister, hleads⟩ := Dialogue.leads_bind.mp hleads
    split at hleads
    · cases hleads.2
    rename_i hok
    obtain rfl := not_not.mp hok
    obtain ⟨endpoint, body, bodySize, hendpoint, hbody, hrequest⟩ := leads_registerSession hregister
    obtain ⟨performed, response, hsub, hperformed, hresponse⟩ :=
      leads_registrationRequest hrequest
    obtain ⟨connected, hconnected, hmem⟩ := leads_clientSetUp hleads
    refine ⟨endpoint, body, receiverUrl, bodySize, performed, response, connected, hendpoint,
      hbody, hreceiverUrl, ?_, hperformed, hresponse, hconnected⟩
    exact (hsub.append (List.singleton_sublist.mpr hmem)).cons _
  · cases hleads.2

end Leads

end PrintDrop.Desktop
