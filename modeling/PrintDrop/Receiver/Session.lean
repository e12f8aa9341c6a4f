/-
# The receiver's session

`receiver_session.c` and `session_url.c`: the capability that a receiver shows to senders.
A token and a secret are drawn together, are good until the session expires, is used or is
closed, and are zeroed then. The checks for a null session are left out.
-/

import PrintDrop.Receiver.JobId

namespace PrintDrop

/-- A C string: the bytes before the terminator. -/
abbrev CString := { text : Bytes // (0 : UInt8) ∉ text }

/-- The string in a buffer. -/
def cString (buffer : Bytes) : CString :=
  ⟨buffer.takeWhile fun character => character != 0, fun hmem => by
    simpa using List.mem_takeWhile_imp hmem⟩

theorem bne_zero_of_terminated {text : Bytes} (hterminated : (0 : UInt8) ∉ text) :
    ∀ character ∈ text, (character != 0) = true := by
  intro character hmem
  rw [bne_iff_ne]
  rintro rfl
  exact hterminated hmem

theorem cString_of_terminated {buffer : Bytes} (hterminated : (0 : UInt8) ∉ buffer) :
    (cString buffer).val = buffer :=
  List.takeWhile_eq_self_iff.mpr (bne_zero_of_terminated hterminated)

/-- The string ends at the first zero. -/
theorem cString_append {text : Bytes} (rest : Bytes) (hterminated : (0 : UInt8) ∉ text) :
    (cString (text ++ 0 :: rest)).val = text := by
  show (text ++ 0 :: rest).takeWhile _ = text
  rw [List.takeWhile_append_of_pos (bne_zero_of_terminated hterminated),
    List.takeWhile_cons_of_neg (by simp), List.append_nil]

/-- `strlen` of an array of characters. -/
def strlen {capacity : ℕ} (array : Vector UInt8 capacity) : ℕ :=
  (array.toList.takeWhile fun character => character != 0).length

def sessionTokenBytes : ℕ := 16
def sessionTokenHexChars : ℕ := sessionTokenBytes * 2
def receiverSecretBytes : ℕ := 32
def receiverSecretHexChars : ℕ := receiverSecretBytes * 2

inductive ReceiverSessionState
  | inactive
  | waiting
  | transferring
  | expired
  | closed
  deriving DecidableEq, Repr

inductive ReceiverSessionResult
  | ok
  | invalidArgument
  | invalidState
  | entropyFailure
  | clockOverflow
  | tokenMismatch
  | expired
  deriving DecidableEq, Repr

/-- `pd_receiver_session`. -/
structure ReceiverSession where
  token : Vector UInt8 (16 * 2 + 1)
  receiverSecret : Vector UInt8 (32 * 2 + 1)
  createdAtMs : UInt64
  expiresAtMs : UInt64
  state : ReceiverSessionState
  deriving DecidableEq

/-- The bytes of one draw for a session, the token's before the secret's. -/
abbrev SessionEntropy := Vector UInt8 (16 + 32)

namespace SessionEntropy

def token (entropy : SessionEntropy) : Vector UInt8 16 := Vector.ofFn fun index => entropy[index]

def secret (entropy : SessionEntropy) : Vector UInt8 32 :=
  Vector.ofFn fun index => entropy[16 + index.val]

end SessionEntropy

/-- `pd_hex_digit`, which is `pd_job_hex_digit` again. -/
def hexDigit (value : UInt8) : UInt8 := jobHexDigit value

/-- The two digits of every byte. -/
def hexText (input : Bytes) : Bytes :=
  input.flatMap fun byte : UInt8 => [hexDigit (byte >>> 4), hexDigit byte]

theorem length_hexText (input : Bytes) : (hexText input).length = input.length * 2 :=
  length_jobHexDigits input

theorem isLowerHexDigit_of_mem_hexText {input : Bytes} {character : UInt8}
    (hmem : character ∈ hexText input) : isLowerHexDigit character = true :=
  isLowerHexDigit_of_mem_jobHexDigits hmem

/-- `pd_encode_hex`, with its terminator. -/
def encodeHex {size : ℕ} (input : Vector UInt8 size) : Vector UInt8 (size * 2 + 1) :=
  ⟨(hexText input.toList ++ [0]).toArray, by simp [length_hexText]⟩

theorem zero_not_mem_hexText (input : Bytes) : (0 : UInt8) ∉ hexText input := by
  intro hzero
  exact absurd (isLowerHexDigit_of_mem_hexText hzero) (by decide)

/-- The string in an array of digits. -/
theorem cString_encodeHex {size : ℕ} (input : Vector UInt8 size) :
    (cString (encodeHex input).toList).val = hexText input.toList :=
  cString_append [] (zero_not_mem_hexText input.toList)

/-- `pd_constant_time_text_equal`. The loop or-s all differences together. -/
def constantTimeTextEqual {capacity : ℕ} (expected : Vector UInt8 capacity) (expectedLength : ℕ)
    (candidate : Option CString) : Bool :=
  match candidate with
  | none => false
  | some candidate =>
    if candidate.val.length ≠ expectedLength then false
    else
      (List.range expectedLength).foldl (fun difference index =>
        difference ||| (byteAt expected.toList index ^^^ byteAt candidate.val index)) 0 == 0

/-- The comparison decides equality with the first characters of the array. -/
theorem constantTimeTextEqual_iff {capacity expectedLength : ℕ}
    {expected : Vector UInt8 capacity} (hlength : expectedLength ≤ capacity)
    {candidate : Option CString} :
    constantTimeTextEqual expected expectedLength candidate = true ↔
      ∃ text, candidate = some text ∧ text.val = expected.toList.take expectedLength := by
  cases candidate with
  | none => simp [constantTimeTextEqual]
  | some candidate =>
      have htake : (expected.toList.take expectedLength).length = expectedLength := by
        rw [List.length_take, Vector.length_toList]
        omega
      simp only [constantTimeTextEqual, Option.some.injEq, exists_eq_left']
      split
      · rename_i hne
        refine iff_of_false Bool.false_ne_true fun hsame => hne ?_
        rw [hsame, htake]
      rename_i hsize
      rw [beq_iff_eq, foldl_or_eq_zero
        fun index => byteAt expected.toList index ^^^ byteAt candidate.val index]
      simp only [List.mem_range, true_and, UInt8.xor_eq_zero_iff]
      constructor
      · intro hbytes
        refine List.ext_getElem ((not_not.mp hsize).trans htake.symm) fun index hleft hright => ?_
        have hindex : index < expectedLength := by rwa [not_not.mp hsize] at hleft
        have hbyte := hbytes index hindex
        rw [byteAt, byteAt, List.getD_eq_getElem?_getD, List.getD_eq_getElem?_getD,
          List.getElem?_eq_getElem hleft,
          List.getElem?_eq_getElem (by rw [Vector.length_toList]; omega)] at hbyte
        rw [List.getElem_take]
        exact hbyte.symm
      · intro hsame index hindex
        rw [byteAt, byteAt, hsame, List.getD_eq_getElem?_getD, List.getD_eq_getElem?_getD,
          List.getElem?_take_of_lt hindex]

def receiverSessionReset : ReceiverSession where
  token := Vector.replicate _ 0
  receiverSecret := Vector.replicate _ 0
  createdAtMs := 0
  expiresAtMs := 0
  state := .inactive

def receiverSessionClearCredentials (session : ReceiverSession) : ReceiverSession :=
  { session with token := Vector.replicate _ 0, receiverSecret := Vector.replicate _ 0 }

/-- `pd_receiver_session_create`, with the draw that the random source makes if there is a
source. -/
def receiverSessionCreate (session : ReceiverSession) (nowMs ttlMs : UInt64)
    (randomFill : Option (Option SessionEntropy)) : ReceiverSessionResult × ReceiverSession :=
  match randomFill with
  | none => (.invalidArgument, session)
  | some random =>
    if ttlMs = 0 then (.invalidArgument, session)
    else if 0xffffffffffffffff - nowMs < ttlMs then (.clockOverflow, receiverSessionReset)
    else
      match random with
      | none => (.entropyFailure, receiverSessionReset)
      | some entropy =>
        (.ok, {
          token := encodeHex entropy.token
          receiverSecret := encodeHex entropy.secret
          createdAtMs := nowMs
          expiresAtMs := nowMs + ttlMs
          state := .waiting })

def receiverSessionTokenMatches (session : ReceiverSession) (candidate : Option CString) : Bool :=
  constantTimeTextEqual session.token sessionTokenHexChars candidate

def receiverSessionSecretMatches (session : ReceiverSession) (candidate : Option CString) :
    Bool :=
  constantTimeTextEqual session.receiverSecret receiverSecretHexChars candidate

/-- `pd_receiver_session_expire_if_due`. -/
def receiverSessionExpireIfDue (session : ReceiverSession) (nowMs : UInt64) :
    Bool × ReceiverSession :=
  if session.state = .inactive ∨ session.state = .closed ∨ session.state = .expired then
    (false, session)
  else if nowMs < session.expiresAtMs then (false, session)
  else (true, { receiverSessionClearCredentials session with state := .expired })

/-- `pd_receiver_session_begin_transfer`. -/
def receiverSessionBeginTransfer (session : ReceiverSession) (candidateToken : Option CString)
    (nowMs : UInt64) : ReceiverSessionResult × ReceiverSession :=
  if candidateToken = none then (.invalidArgument, session)
  else if session.state ≠ .waiting then
    (if session.state = .expired then .expired else .invalidState, session)
  else
    let due := receiverSessionExpireIfDue session nowMs
    if due.1 then (.expired, due.2)
    else if !receiverSessionTokenMatches due.2 candidateToken then (.tokenMismatch, due.2)
    else (.ok, { due.2 with state := .transferring })

def receiverSessionClose (session : ReceiverSession) : ReceiverSession :=
  if session.state = .inactive then session
  else { receiverSessionClearCredentials session with state := .closed }

inductive SessionUrlResult
  | ok
  | invalidArgument
  | sessionUnavailable
  | bufferTooSmall
  deriving DecidableEq, Repr

/-- What a call of `pd_receiver_session_build_url` leaves behind: its result, the string in
the output buffer if it wrote one, and the required capacity. -/
structure SessionUrlBuilt where
  result : SessionUrlResult
  output : Option Bytes
  requiredCapacity : ℕ
  deriving DecidableEq, Repr

def sizeMax : ℕ := 2 ^ 64 - 1

/-- `pd_receiver_session_build_url`; a null output pointer is an absent capacity. -/
def receiverSessionBuildUrl (session : ReceiverSession) (sessionPrefix : Option CString)
    (outputCapacity : Option ℕ) : SessionUrlBuilt :=
  match sessionPrefix, outputCapacity with
  | some sessionPrefix, some capacity =>
    if (session.state ≠ .waiting ∧ session.state ≠ .transferring) ∨ session.token[0] = 0 then
      ⟨.sessionUnavailable, none, 0⟩
    else
      let prefixLength := sessionPrefix.val.length
      let tokenLength := strlen session.token
      if prefixLength = 0 ∨ tokenLength ≠ sessionTokenHexChars ∨
          sizeMax - tokenLength - 1 < prefixLength then
        ⟨.invalidArgument, none, 0⟩
      else
        let required := prefixLength + tokenLength + 1
        if capacity < required then
          ⟨.bufferTooSmall, if 0 < capacity then some [] else none, required⟩
        else ⟨.ok, some (sessionPrefix.val ++ session.token.toList.take tokenLength), required⟩
  | _, _ => ⟨.invalidArgument, none, 0⟩

end PrintDrop
