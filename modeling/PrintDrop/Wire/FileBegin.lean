/-
# FILE_BEGIN metadata

`file_begin.c` and the digest comparison of `integrity.c`. The payload is the
file size, its SHA-256 digest, the length of the name and the name.
-/

import PrintDrop.Wire.Filename

namespace PrintDrop

def sha256Bytes : ℕ := 32

/-- A `uint8_t[PD_SHA256_BYTES]`. -/
abbrev Digest := Vector UInt8 32

namespace Digest

/-- The first 32 bytes at a pointer. -/
def ofBytes (input : Bytes) : Digest := Vector.ofFn fun index => byteAt input index

theorem ofBytes_append {digest rest : Bytes} (hlength : digest.length = 32) :
    ofBytes (digest ++ rest) = ofBytes digest := by
  apply Vector.ext
  intro index hindex
  simp only [ofBytes, Vector.getElem_ofFn, byteAt, List.getD_eq_getElem?_getD]
  rw [List.getElem?_append_left (by omega)]

theorem toList_ofBytes {digest : Bytes} (hlength : digest.length = 32) :
    (ofBytes digest).toList = digest := by
  apply List.ext_getElem
  · simp [hlength]
  · intro index hleft hright
    simp [ofBytes, byteAt, List.getElem?_eq_getElem hright]

theorem ofBytes_toList (digest : Digest) : ofBytes digest.toList = digest := by
  apply Vector.ext
  intro index hindex
  simp [ofBytes, byteAt, List.getD_eq_getElem?_getD]

end Digest

/-- `pd_digest_equal` on two digests: the loop or-s all byte differences together. -/
def digestEqual (left right : Digest) : Bool :=
  (List.finRange 32).foldl (fun difference index =>
    difference ||| (left[index] ^^^ right[index])) (0 : UInt8) == 0

/-- The comparison decides equality. -/
theorem digestEqual_iff {left right : Digest} : digestEqual left right = true ↔ left = right := by
  simp only [digestEqual, beq_iff_eq]
  rw [foldl_or_eq_zero fun index : Fin 32 => left[index] ^^^ right[index]]
  simp only [List.mem_finRange, forall_const, true_and, UInt8.xor_eq_zero_iff]
  constructor
  · intro hbytes
    apply Vector.ext
    intro index hindex
    exact hbytes ⟨index, hindex⟩
  · rintro rfl index
    rfl

def fileBeginFixedSize : ℕ := 42
def fileBeginMaxPayload : ℕ := fileBeginFixedSize + filenameMaxBytes

inductive FileBeginResult
  | ok
  | invalidArgument
  | invalidFilename
  | bufferTooSmall
  | malformed
  deriving DecidableEq, Repr

/-- `pd_file_begin`; the name is the string in its `filename` array. -/
structure FileBegin where
  fileSize : UInt64
  sha256 : Digest
  filename : Bytes
  deriving DecidableEq, Inhabited

/-- `pd_file_begin_decode`, which overwrites the caller's record on success only. -/
def fileBeginDecode (payload : Buffer) (metadata : FileBegin) : FileBeginResult × FileBegin :=
  match payload with
  | .null _ => (.invalidArgument, metadata)
  | .bytes payload =>
    if payload.length < fileBeginFixedSize then (.malformed, metadata)
    else
      let filenameLength := (readU16BE (payload.drop 40)).toNat
      if filenameLength = 0 ∨ filenameMaxBytes < filenameLength ∨
          payload.length ≠ fileBeginFixedSize + filenameLength then
        (.malformed, metadata)
      else
        let filename := (payload.drop fileBeginFixedSize).take filenameLength
        if filename.contains 0 then (.malformed, metadata)
        else
          (.ok, {
            fileSize := readU64BE payload
            sha256 := Digest.ofBytes (payload.drop 8)
            filename := filename })

/-- `pd_file_begin_encode`: the bytes it writes, or its error code. A null output pointer is
an absent capacity. -/
def fileBeginEncode (metadata : Option FileBegin) (outputCapacity : Option ℕ) :
    Except FileBeginResult Bytes :=
  match metadata, outputCapacity with
  | some metadata, some capacity =>
    let filenameLength := metadata.filename.length
    if filenameLength = 0 ∨ filenameMaxBytes < filenameLength then .error .invalidFilename
    else if capacity < fileBeginFixedSize + filenameLength then .error .bufferTooSmall
    else
      .ok (writeU64BE metadata.fileSize ++ metadata.sha256.toList ++
        writeU16BE (UInt16.ofNat filenameLength) ++ metadata.filename)
  | _, _ => .error .invalidArgument

/-- The payload of a FILE_BEGIN frame. -/
def fileBeginPayload (fileSize : UInt64) (sha256 filename : Bytes) : Bytes :=
  writeU64BE fileSize ++ sha256 ++ writeU16BE (UInt16.ofNat filename.length) ++ filename

theorem length_fileBeginPayload {fileSize : UInt64} {sha256 filename : Bytes}
    (hdigest : sha256.length = 32) :
    (fileBeginPayload fileSize sha256 filename).length =
      fileBeginFixedSize + filename.length := by
  simp only [fileBeginPayload, writeU64BE, writeU16BE, List.length_append, List.length_cons,
    List.length_nil, hdigest, fileBeginFixedSize]

/-- The decoder takes the payload of every name without a NUL byte and of a
length the format holds. -/
theorem fileBeginDecode_fileBeginPayload {fileSize : UInt64} {sha256 filename : Bytes}
    (hdigest : sha256.length = 32) (hname : filename ≠ [])
    (hlength : filename.length ≤ filenameMaxBytes) (hnul : (0 : UInt8) ∉ filename)
    (metadata : FileBegin) :
    fileBeginDecode (.bytes (fileBeginPayload fileSize sha256 filename)) metadata =
      (.ok, { fileSize := fileSize, sha256 := Digest.ofBytes sha256, filename := filename }) := by
  have hsize : (fileBeginPayload fileSize sha256 filename).length =
      fileBeginFixedSize + filename.length := length_fileBeginPayload hdigest
  have hdrop8 : (fileBeginPayload fileSize sha256 filename).drop 8 =
      sha256 ++ (writeU16BE (UInt16.ofNat filename.length) ++ filename) := by
    simp [fileBeginPayload, writeU64BE]
  have hdrop40 : (fileBeginPayload fileSize sha256 filename).drop 40 =
      writeU16BE (UInt16.ofNat filename.length) ++ filename := by
    rw [show 40 = 8 + 32 from rfl, ← List.drop_drop, hdrop8, List.drop_left' hdigest]
  have hdropFixed : (fileBeginPayload fileSize sha256 filename).drop fileBeginFixedSize =
      filename := by
    rw [show fileBeginFixedSize = 40 + 2 from rfl, ← List.drop_drop, hdrop40]
    rfl
  have hread : (readU16BE ((fileBeginPayload fileSize sha256 filename).drop 40)).toNat =
      filename.length := by
    rw [hdrop40, readU16BE_writeU16BE, UInt16.toNat_ofNat']
    simp only [filenameMaxBytes] at hlength
    omega
  have hsizeField : readU64BE (fileBeginPayload fileSize sha256 filename) = fileSize := by
    rw [fileBeginPayload, List.append_assoc, List.append_assoc, readU64BE_writeU64BE]
  have hnonempty : filename.length ≠ 0 := fun hzero => hname (List.length_eq_zero_iff.mp hzero)
  simp only [fileBeginDecode, hread, hsize, hdropFixed, hdrop8, hsizeField]
  rw [if_neg (by omega), if_neg (by omega), List.take_length, if_neg (by simpa using hnul),
    Digest.ofBytes_append hdigest]

/-- The encoder writes the payload of every name of a length the format holds. -/
theorem fileBeginEncode_eq_ok {metadata : FileBegin} {capacity : ℕ}
    (hname : metadata.filename ≠ []) (hlength : metadata.filename.length ≤ filenameMaxBytes)
    (hcapacity : fileBeginFixedSize + metadata.filename.length ≤ capacity) :
    fileBeginEncode (some metadata) (some capacity) =
      .ok (fileBeginPayload metadata.fileSize metadata.sha256.toList metadata.filename) := by
  have hnonempty : metadata.filename.length ≠ 0 :=
    fun hzero => hname (List.length_eq_zero_iff.mp hzero)
  simp [fileBeginEncode, fileBeginPayload, hname, Nat.not_lt.mpr hlength,
    Nat.not_lt.mpr hcapacity]

/-- A payload that is decoded is the one its fields are encoded as. -/
theorem fileBeginDecode_eq_ok {payload : Bytes} {record metadata : FileBegin}
    (hok : fileBeginDecode (.bytes payload) record = (.ok, metadata)) :
    metadata.filename ≠ [] ∧ metadata.filename.length ≤ filenameMaxBytes ∧
      (0 : UInt8) ∉ metadata.filename ∧
      payload = fileBeginPayload metadata.fileSize metadata.sha256.toList metadata.filename := by
  unfold fileBeginDecode at hok
  dsimp only at hok
  split at hok
  · cases hok
  rename_i hfixed
  split at hok
  · cases hok
  rename_i hlengths
  split at hok
  · cases hok
  rename_i hnul
  rw [not_or, not_or, not_not, Nat.not_lt] at hlengths
  obtain ⟨hnonzero, hmax, htotal⟩ := hlengths
  rw [Nat.not_lt] at hfixed
  obtain ⟨-, rfl⟩ := Prod.mk.inj hok
  dsimp only
  have hname : (payload.drop fileBeginFixedSize).take (readU16BE (payload.drop 40)).toNat =
      payload.drop fileBeginFixedSize := by
    apply List.take_of_length_le
    rw [List.length_drop]
    omega
  have hnameLength : (payload.drop fileBeginFixedSize).length =
      (readU16BE (payload.drop 40)).toNat := by
    rw [List.length_drop]
    omega
  rw [hname] at hnul ⊢
  refine ⟨?_, ?_, ?_, ?_⟩
  · intro hempty
    rw [hempty] at hnameLength
    exact hnonzero hnameLength.symm
  · omega
  · simpa using hnul
  simp only [fileBeginFixedSize] at hfixed
  have hsize : writeU64BE (readU64BE payload) = payload.take 8 :=
    writeU64BE_readU64BE (by omega)
  have hdigest : (Digest.ofBytes (payload.drop 8)).toList = (payload.drop 8).take 32 := by
    have hlength : ((payload.drop 8).take 32).length = 32 := by
      rw [List.length_take, List.length_drop]
      omega
    rw [← Digest.toList_ofBytes hlength]
    conv_lhs => rw [← List.take_append_drop 32 (payload.drop 8), Digest.ofBytes_append hlength]
  have hcount : writeU16BE (UInt16.ofNat (payload.drop fileBeginFixedSize).length) =
      (payload.drop 40).take 2 := by
    rw [hnameLength, UInt16.ofNat_toNat, writeU16BE_readU16BE]
    rw [List.length_drop]
    omega
  rw [fileBeginPayload, hsize, hdigest, hcount]
  calc payload
      = payload.take 8 ++ ((payload.drop 8).take 32 ++ ((payload.drop 40).take 2 ++
          payload.drop fileBeginFixedSize)) := by
        rw [show payload.drop fileBeginFixedSize = (payload.drop 40).drop 2 by
            rw [List.drop_drop]; rfl,
          List.take_append_drop, show payload.drop 40 = (payload.drop 8).drop 32 by
            rw [List.drop_drop],
          List.take_append_drop, List.take_append_drop]
    _ = _ := by simp only [List.append_assoc]

end PrintDrop
