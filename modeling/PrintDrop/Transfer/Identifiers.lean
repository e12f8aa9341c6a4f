/-
# One language of identifiers

The receiver, the relay and the sender's page each test the identifiers of sessions, and
the receiver and the relay the secrets of receivers, with tests of their own and over three
kinds of strings. They are one language, and the identifiers that a session creates are in
it. A string of the page is that of the others whose bytes it is encoded as.
-/

import PrintDrop.Receiver.Credential
import PrintDrop.Receiver.DigestHex
import PrintDrop.Relay.SenderWeb
import PrintDrop.Sender.SessionPage

namespace PrintDrop

open Relay (validLowerHex bearerSecret)
open Web (JsString textEncode isSessionId parseSessionId unitsOf)

/-- The tests of an identifier agree on the text. -/
structure IdentifierTestsAgree (text : CString) : Prop where
  registration : isLowerHex (some text) sessionTokenHexChars = sessionIdIsValid (some text)
  job : jobIdIsValid text.val = sessionIdIsValid (some text)
  relay : validLowerHex text.val Relay.publicSessionHexChars = sessionIdIsValid (some text)
  page : ∀ units, textEncode units = text.val →
    isSessionId units = sessionIdIsValid (some text)

/-- The tests of a secret agree on the text, which the relay reads after `Bearer `. -/
structure SecretTestsAgree (text : CString) : Prop where
  registration : secretIsLowerHex (some text) = receiverSecretIsValid (some text)
  relay : bearerSecret (Relay.bearer ++ text.val) =
    if receiverSecretIsValid (some text) then some text.val else none

theorem identifierTestsAgree (text : CString) : IdentifierTestsAgree text := by
  constructor
  · rfl
  · rfl
  · exact Relay.validLowerHex_eq text.val _
  · intro units hunits
    rw [Web.isSessionId_eq, hunits]
    rfl

theorem secretTestsAgree (text : CString) : SecretTestsAgree text := by
  have hrelay : validLowerHex text.val Relay.receiverSecretHexChars =
      receiverSecretIsValid (some text) := Relay.validLowerHex_eq text.val _
  constructor
  · rfl
  · rw [Relay.bearerSecret_append, hrelay]

/-- All tests accept the text as an identifier. -/
structure IdentifierAccepted (text : CString) : Prop where
  endpoint : sessionIdIsValid (some text) = true
  registration : isLowerHex (some text) sessionTokenHexChars = true
  job : jobIdIsValid text.val = true
  relay : validLowerHex text.val Relay.publicSessionHexChars = true
  page : ∃ units, textEncode units = text.val ∧ isSessionId units = true

/-- All tests accept the text as a secret. -/
structure SecretAccepted (text : CString) : Prop where
  client : receiverSecretIsValid (some text) = true
  registration : secretIsLowerHex (some text) = true
  relay : bearerSecret (Relay.bearer ++ text.val) = some text.val

/-- The session has been created from these random bytes. -/
def CreatedFrom (entropy : SessionEntropy) (session : ReceiverSession) : Prop :=
  ∃ before nowMs ttlMs,
    receiverSessionCreate before nowMs ttlMs (some (some entropy)) = (.ok, session)

theorem ascii_of_all_isLowerHexDigit {text : Bytes} (hall : text.all isLowerHexDigit = true) :
    ∀ character ∈ text, character < 0x80 := by
  intro character hmem
  exact ascii_of_isLowerHexDigit (List.all_eq_true.mp hall character hmem)

/-- What one test accepts all do. -/
theorem identifierAccepted_of_valid {text : CString}
    (hvalid : sessionIdIsValid (some text) = true) : IdentifierAccepted text := by
  obtain ⟨hregistration, hjob, hrelay, hpage⟩ := identifierTestsAgree text
  rw [hvalid] at hregistration hjob hrelay hpage
  have hdigits : text.val.all isLowerHexDigit = true := by
    rw [sessionIdIsValid, Bool.and_eq_true] at hvalid
    exact hvalid.2
  have hunits : textEncode (unitsOf text.val) = text.val :=
    Web.textEncode_unitsOf (ascii_of_all_isLowerHexDigit hdigits)
  exact ⟨hvalid, hregistration, hjob, hrelay, _, hunits, hpage _ hunits⟩

theorem secretAccepted_of_valid {text : CString}
    (hvalid : receiverSecretIsValid (some text) = true) : SecretAccepted text := by
  obtain ⟨hregistration, hrelay⟩ := secretTestsAgree text
  rw [hvalid] at hregistration hrelay
  exact ⟨hvalid, hregistration, hrelay⟩

section Created

variable {entropy : SessionEntropy} {session : ReceiverSession}

/-- The texts of a session are those of its random bytes. -/
theorem texts_of_createdFrom (hcreated : CreatedFrom entropy session) :
    (cString session.token.toList).val = hexText entropy.token.toList ∧
      (cString session.receiverSecret.toList).val = hexText entropy.secret.toList := by
  obtain ⟨before, nowMs, ttlMs, hok⟩ := hcreated
  unfold receiverSessionCreate at hok
  split_ifs at hok
  · cases hok
  · cases hok
  · obtain rfl := (Prod.mk.inj hok).2
    exact ⟨cString_encodeHex _, cString_encodeHex _⟩

theorem isLowerHex_of_text {size : ℕ} {input : Vector UInt8 size} {text : CString}
    (htext : text.val = hexText input.toList) : isLowerHex (some text) (size * 2) = true := by
  rw [isLowerHex, htext, length_hexText, Vector.length_toList, beq_self_eq_true, Bool.true_and,
    List.all_eq_true]
  exact fun character hmem => isLowerHexDigit_of_mem_hexText hmem

/-- The two halves are all that was drawn. -/
theorem entropy_ext {first second : SessionEntropy} (htoken : first.token = second.token)
    (hsecret : first.secret = second.secret) : first = second := by
  apply Vector.ext
  intro index hindex
  by_cases hlow : index < 16
  · have hbyte := congrArg (fun token : Vector UInt8 16 => token[index]) htoken
    simpa [SessionEntropy.token] using hbyte
  · have hrange : index - 16 < 32 := by omega
    have hbyte := congrArg (fun secret : Vector UInt8 32 => secret[index - 16]) hsecret
    have hindex : 16 + (index - 16) = index := by omega
    simpa [SessionEntropy.secret, hindex] using hbyte

/-- The token and the secret of a new session are accepted everywhere. -/
theorem accepted_of_createdFrom (hcreated : CreatedFrom entropy session) :
    IdentifierAccepted (cString session.token.toList) ∧
      SecretAccepted (cString session.receiverSecret.toList) := by
  obtain ⟨htoken, hsecret⟩ := texts_of_createdFrom hcreated
  exact ⟨identifierAccepted_of_valid (isLowerHex_of_text htoken),
    secretAccepted_of_valid (isLowerHex_of_text hsecret)⟩

/-- The texts of a session determine the random bytes. -/
theorem entropy_eq_of_texts {other : SessionEntropy} {otherSession : ReceiverSession}
    (hcreated : CreatedFrom entropy session) (hother : CreatedFrom other otherSession)
    (htoken : cString session.token.toList = cString otherSession.token.toList)
    (hsecret : cString session.receiverSecret.toList =
      cString otherSession.receiverSecret.toList) : entropy = other := by
  obtain ⟨htokenText, hsecretText⟩ := texts_of_createdFrom hcreated
  obtain ⟨hotherToken, hotherSecret⟩ := texts_of_createdFrom hother
  rw [htoken, hotherToken] at htokenText
  rw [hsecret, hotherSecret] at hsecretText
  apply entropy_ext
  · exact Vector.toList_inj.mp (hexText_injective htokenText.symm)
  · exact Vector.toList_inj.mp (hexText_injective hsecretText.symm)

end Created

/-- The bytes of an identifier's path are ASCII. -/
theorem ascii_of_sessionPath {id rest : Bytes}
    (hvalid : validLowerHex id Relay.publicSessionHexChars = true)
    (hrest : ∀ character ∈ rest, character < 0x80) :
    ∀ character ∈ Relay.SenderWebHandler.sessionPath ++ id ++ rest, character < 0x80 := by
  have hfront : Relay.SenderWebHandler.sessionPath.all (fun character => character < 0x80) =
      true := by decide
  rw [Relay.validLowerHex_eq, Bool.and_eq_true] at hvalid
  intro character hmem
  simp only [List.mem_append] at hmem
  rcases hmem with (hmem | hmem) | hmem
  · exact of_decide_eq_true (List.all_eq_true.mp hfront character hmem)
  · exact ascii_of_all_isLowerHexDigit hvalid.2 character hmem
  · exact hrest character hmem

/-- A path is answered with the page if it is that of an identifier, with at most one slash
after it. -/
theorem answersWithPage_iff {h : Relay.SenderWebHandler} {path : Bytes} :
    h.AnswersWithPage path ↔ ∃ id, validLowerHex id Relay.publicSessionHexChars = true ∧
      (path = Relay.SenderWebHandler.sessionPath ++ id ∨
        path = Relay.SenderWebHandler.sessionPath ++ id ++ [Relay.slash]) := by
  rw [h.answersWithPage_iff_pathSessionId, Relay.SenderWebHandler.isSome_pathSessionId_trimSuffix]
  refine and_iff_right_of_imp ?_
  rintro ⟨id, -, rfl | rfl⟩
  · exact List.prefix_append _ _
  · rw [List.append_assoc]
    exact List.prefix_append _ _

theorem ascii_of_answersWithPage {h : Relay.SenderWebHandler} {path : Bytes}
    (hanswers : h.AnswersWithPage path) : ∀ character ∈ path, character < 0x80 := by
  obtain ⟨id, hvalid, hpath⟩ := answersWithPage_iff.mp hanswers
  rcases hpath with rfl | rfl
  · rw [← List.append_nil (_ ++ id)]
    exact ascii_of_sessionPath hvalid (by simp)
  · refine ascii_of_sessionPath hvalid fun character hmem => ?_
    rw [List.mem_singleton.mp hmem]
    decide

theorem ascii_of_parseSessionId {pathname : JsString}
    (hparsed : (parseSessionId pathname).isSome = true) : ∀ unit ∈ pathname, unit < 0x80 := by
  obtain ⟨sessionId, hvalid, hpath⟩ := Web.isSome_parseSessionId.mp hparsed
  have hid := Web.ascii_of_isSessionId hvalid
  have hall : (unitsOf (ascii ['/', 's', '/'])).all (fun unit => unit < 0x80) = true := by decide
  have hfront : ∀ unit ∈ unitsOf (ascii ['/', 's', '/']), unit < 0x80 :=
    fun unit hunit => of_decide_eq_true (List.all_eq_true.mp hall unit hunit)
  have hslash : Web.slashUnit < 0x80 := by decide
  rcases hpath with rfl | rfl
  · simp only [List.forall_mem_append]
    exact ⟨hfront, hid⟩
  · simp only [List.forall_mem_append, List.forall_mem_singleton]
    exact ⟨⟨hfront, hid⟩, hslash⟩

/-- The relay and the page take the same texts of bytes. -/
theorem answersWithPage_iff_unitsOf {h : Relay.SenderWebHandler} {path : Bytes} :
    h.AnswersWithPage path ↔ (parseSessionId (unitsOf path)).isSome = true := by
  have hids : ∀ id : Bytes, isSessionId (unitsOf id) =
      validLowerHex id Relay.publicSessionHexChars := by
    intro id
    rw [Web.isSessionId_unitsOf, Relay.validLowerHex_eq]
    rfl
  rw [answersWithPage_iff, Web.isSome_parseSessionId]
  constructor
  · rintro ⟨id, hvalid, hpath⟩
    refine ⟨unitsOf id, (hids id).trans hvalid, ?_⟩
    rcases hpath with rfl | rfl
    · exact .inl (Web.unitsOf_append _ _)
    · refine .inr ?_
      rw [Web.unitsOf_append, Web.unitsOf_append]
      rfl
  · rintro ⟨sessionId, hvalid, hpath⟩
    have hunits := Web.unitsOf_textEncode (Web.ascii_of_isSessionId hvalid)
    rw [← hunits] at hvalid hpath
    refine ⟨textEncode sessionId, (hids _).symm.trans hvalid, ?_⟩
    rcases hpath with hpath | hpath
    · rw [← Web.unitsOf_append] at hpath
      exact .inl (Web.unitsOf_injective hpath)
    · have hslash : [Web.slashUnit] = unitsOf [Relay.slash] := rfl
      rw [hslash, ← Web.unitsOf_append, ← Web.unitsOf_append] at hpath
      exact .inr (Web.unitsOf_injective hpath)

/-- The relay and the page take the same paths. -/
theorem answersWithPage_textEncode {h : Relay.SenderWebHandler} {pathname : JsString} :
    h.AnswersWithPage (textEncode pathname) ↔ (parseSessionId pathname).isSome = true := by
  constructor
  · intro hanswers
    have hunits := Web.unitsOf_textEncode
      (Web.ascii_of_textEncode (ascii_of_answersWithPage hanswers))
    rw [← hunits]
    exact answersWithPage_iff_unitsOf.mp hanswers
  · intro hparsed
    have hunits := Web.unitsOf_textEncode (ascii_of_parseSessionId hparsed)
    rw [← hunits] at hparsed
    exact answersWithPage_iff_unitsOf.mpr hparsed

/-- There is one language of identifiers and one of secrets. -/
structure OneLanguage : Prop where
  identifiers : ∀ text, IdentifierTestsAgree text
  secrets : ∀ text, SecretTestsAgree text
  created : ∀ entropy session, CreatedFrom entropy session →
    IdentifierAccepted (cString session.token.toList) ∧
      SecretAccepted (cString session.receiverSecret.toList)
  distinct : ∀ first firstSession second secondSession, CreatedFrom first firstSession →
    CreatedFrom second secondSession → first ≠ second →
      cString firstSession.token.toList ≠ cString secondSession.token.toList ∨
        cString firstSession.receiverSecret.toList ≠ cString secondSession.receiverSecret.toList
  pages : ∀ (h : Relay.SenderWebHandler) pathname,
    h.AnswersWithPage (textEncode pathname) ↔ (parseSessionId pathname).isSome = true
  /-- The relay answers no path with the page that the page could not be opened at. -/
  paths : ∀ (h : Relay.SenderWebHandler) path, h.AnswersWithPage path →
    ∃ pathname, textEncode pathname = path ∧ (parseSessionId pathname).isSome = true

theorem identifiers_oneLanguage : OneLanguage where
  identifiers := identifierTestsAgree
  secrets := secretTestsAgree
  created entropy session hcreated := accepted_of_createdFrom hcreated
  distinct first firstSession second secondSession hfirst hsecond hne := by
    by_contra hsame
    rw [not_or, not_not, not_not] at hsame
    exact hne (entropy_eq_of_texts hfirst hsecond hsame.1 hsame.2)
  pages h pathname := answersWithPage_textEncode
  paths h path hanswers :=
    ⟨unitsOf path, Web.textEncode_unitsOf (ascii_of_answersWithPage hanswers),
      answersWithPage_iff_unitsOf.mp hanswers⟩

end PrintDrop
