/-
# Acknowledgements

`ack.c`: the twelve-byte payload by which the receiver answers FILE_BEGIN, CHUNK
and FILE_END. The status field of a C record holds any integer, as the type
field does; the enumerators are the values the receiver itself uses.
-/

import PrintDrop.Wire.Frame

namespace PrintDrop

/-- `PD_ACK_PAYLOAD_SIZE`. -/
def ackPayloadSize : ℕ := 12

/-- The storage of a `pd_ack_status`. -/
abbrev AckStatus := UInt32

namespace AckStatus

/-- `PD_ACK_OK`; the statuses below follow it. -/
def ok : AckStatus := 0
def protocolError : AckStatus := 1
def storageError : AckStatus := 2
def integrityError : AckStatus := 3
def rejected : AckStatus := 4

end AckStatus

/-- `pd_ack_result`. -/
inductive AckResult
  | ok
  | invalidArgument
  | invalidType
  | invalidStatus
  | malformed
  deriving DecidableEq, Repr

/-- `pd_ack`. -/
structure Ack where
  acknowledgedType : MessageType
  status : AckStatus
  receivedBytes : UInt64
  deriving DecidableEq, Repr, Inhabited

/-- `pd_ack_type_is_allowed`: an answer is to FILE_BEGIN, CHUNK or FILE_END. -/
def ackTypeIsAllowed (type : MessageType) : Bool :=
  type == MessageType.fileBegin || type == MessageType.chunk || type == MessageType.fileEnd

/-- `pd_ack_status_is_valid`, of the byte on the wire. -/
def ackStatusIsValid (status : UInt8) : Bool :=
  status ≤ AckStatus.rejected.toUInt8

/-- `pd_ack_encode`: the twelve bytes it writes, or its error code. -/
def ackEncode (ack : Option Ack) : Except AckResult Bytes :=
  match ack with
  | none => .error .invalidArgument
  | some ack =>
    if !ackTypeIsAllowed ack.acknowledgedType then .error .invalidType
    else if !ackStatusIsValid ack.status.toUInt8 then .error .invalidStatus
    else
      .ok ([ack.acknowledgedType.toUInt8, ack.status.toUInt8, 0, 0] ++
        writeU64BE ack.receivedBytes)

/-- `pd_ack_decode`, which overwrites the caller's record on success only. -/
def ackDecode (input : Buffer) (ack : Ack) : AckResult × Ack :=
  match input with
  | .null _ => (.invalidArgument, ack)
  | .bytes input =>
    if input.length ≠ ackPayloadSize ∨ byteAt input 2 ≠ 0 ∨ byteAt input 3 ≠ 0 then
      (.malformed, ack)
    else
      let type := (byteAt input 0).toUInt32
      let status := byteAt input 1
      if !ackTypeIsAllowed type then (.invalidType, ack)
      else if !ackStatusIsValid status then (.invalidStatus, ack)
      else
        (.ok, {
          acknowledgedType := type
          status := status.toUInt32
          receivedBytes := readU64BE (input.drop 4) })

/-- The payload the encoder writes for an acknowledgement it accepts. -/
def ackPayload (ack : Ack) : Bytes :=
  [ack.acknowledgedType.toUInt8, ack.status.toUInt8, 0, 0] ++ writeU64BE ack.receivedBytes

/-- A payload has its twelve bytes, whatever is acknowledged. -/
@[simp]
theorem length_ackPayload (ack : Ack) : (ackPayload ack).length = ackPayloadSize := rfl

/-- The encoder writes the payload of an acknowledgement that passes its checks. -/
theorem ackEncode_eq_ok {ack : Ack} (htype : ackTypeIsAllowed ack.acknowledgedType = true)
    (hstatus : ackStatusIsValid ack.status.toUInt8 = true) :
    ackEncode (some ack) = .ok (ackPayload ack) := by
  simp [ackEncode, htype, hstatus, ackPayload]

/-- An acknowledgement as its payload gives it: each field in its one byte. -/
def ackOfPayload (payload : Bytes) : Ack where
  acknowledgedType := (byteAt payload 0).toUInt32
  status := (byteAt payload 1).toUInt32
  receivedBytes := readU64BE (payload.drop 4)

/-- A payload of the right size with zeroed reserved bytes is the payload of what it says. -/
theorem eq_ackPayload {payload : Bytes} (hlength : payload.length = ackPayloadSize)
    (hreserved : byteAt payload 2 = 0 ∧ byteAt payload 3 = 0) :
    payload = ackPayload (ackOfPayload payload) := by
  simp only [ackPayloadSize] at hlength
  have hfirst : payload.take 4 = [byteAt payload 0, byteAt payload 1, 0, 0] := by
    rw [← map_byteAt_range (by omega)]
    simp [List.range_succ, hreserved]
  have hcount : writeU64BE (readU64BE (payload.drop 4)) = payload.drop 4 := by
    rw [writeU64BE_readU64BE (by rw [List.length_drop]; omega)]
    apply List.take_of_length_le
    rw [List.length_drop]
    omega
  simp only [ackPayload, ackOfPayload, hcount, UInt8.toUInt8_toUInt32, ← hfirst]
  exact (List.take_append_drop 4 payload).symm

/-- What a payload says of an acknowledgement that it was written for: the fields cut to
the byte they have on the wire. -/
theorem ackOfPayload_ackPayload (ack : Ack) :
    ackOfPayload (ackPayload ack) =
      { acknowledgedType := ack.acknowledgedType.toUInt8.toUInt32
        status := ack.status.toUInt8.toUInt32
        receivedBytes := ack.receivedBytes } := by
  have hcount : readU64BE ((ackPayload ack).drop 4) = ack.receivedBytes := by
    simpa [ackPayload] using readU64BE_writeU64BE ack.receivedBytes []
  rw [ackOfPayload, hcount]
  rfl

/-- An allowed type fits its byte. -/
theorem toNat_lt_of_ackTypeIsAllowed {type : MessageType} (htype : ackTypeIsAllowed type = true) :
    type.toNat < 256 := by
  simp only [ackTypeIsAllowed, Bool.or_eq_true, beq_iff_eq] at htype
  rcases htype with (rfl | rfl) | rfl <;> decide

/-- An acknowledgement whose status fits its byte is what its payload says. -/
theorem ackOfPayload_ackPayload_of_lt {ack : Ack}
    (htype : ackTypeIsAllowed ack.acknowledgedType = true) (hstatus : ack.status.toNat < 256) :
    ackOfPayload (ackPayload ack) = ack := by
  rw [ackOfPayload_ackPayload,
    toUInt8_toUInt32_eq_iff.mpr (toNat_lt_of_ackTypeIsAllowed htype),
    toUInt8_toUInt32_eq_iff.mpr hstatus]

/-- The valid statuses are the five that there are. -/
theorem ackStatusIsValid_iff {status : UInt8} :
    ackStatusIsValid status = true ↔ status.toNat ≤ 4 := by
  simp only [ackStatusIsValid, decide_eq_true_eq, UInt8.le_iff_toNat_le]
  rfl

/-- The decoder accepts exactly the payloads of acknowledgements within its ranges. -/
theorem ackDecode_eq_ok_iff {payload : Bytes} {record ack : Ack} :
    ackDecode (.bytes payload) record = (.ok, ack) ↔
      ackTypeIsAllowed ack.acknowledgedType = true ∧
        ackStatusIsValid (byteAt payload 1) = true ∧ ack = ackOfPayload payload ∧
        payload = ackPayload ack := by
  constructor
  · intro hok
    unfold ackDecode at hok
    dsimp only at hok
    split at hok
    · cases hok
    rename_i hform
    split at hok
    · cases hok
    rename_i htype
    split at hok
    · cases hok
    rename_i hstatus
    rw [Bool.not_eq_true', Bool.not_eq_false] at htype hstatus
    rw [not_or, not_or, not_not, not_not, not_not] at hform
    have hack : ack = ackOfPayload payload := (Prod.mk.inj hok).2.symm
    subst hack
    exact ⟨htype, hstatus, rfl, eq_ackPayload hform.1 hform.2⟩
  · rintro ⟨htype, hstatus, hack, hpayload⟩
    have hlength : payload.length = ackPayloadSize := by rw [hpayload, length_ackPayload]
    have hreserved : byteAt payload 2 = 0 ∧ byteAt payload 3 = 0 := by
      rw [hpayload]
      exact ⟨rfl, rfl⟩
    rw [hack] at htype
    have htype' : ackTypeIsAllowed (byteAt payload 0).toUInt32 = true := htype
    unfold ackDecode
    dsimp only
    rw [if_neg (by simp [hlength, hreserved]), if_neg (by simp [htype']),
      if_neg (by simp [hstatus]), hack]
    rfl

end PrintDrop
