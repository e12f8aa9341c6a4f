/-
# The sender's page

The part of `web/sender.js` that reads the link it was opened at: the identifier of the
session from the path, and the URL of the sender's WebSocket from the location.
-/

import Mathlib.Data.List.DropRight
import PrintDrop.Wire.WebProtocol
import PrintDrop.Receiver.JobId

namespace PrintDrop.Web

/-- The code units of a text of bytes. A link is ASCII where a browser opens it unchanged, so
its units are its bytes. -/
def unitsOf (text : Bytes) : JsString := text.map UInt8.toUInt16

@[simp]
theorem unitsOf_append (front rest : Bytes) :
    unitsOf (front ++ rest) = unitsOf front ++ unitsOf rest :=
  List.map_append

@[simp]
theorem length_unitsOf (text : Bytes) : (unitsOf text).length = text.length := List.length_map ..

theorem toUInt16_injective : Function.Injective UInt8.toUInt16 := by
  intro first second hsame
  have hvalue := congrArg UInt16.toNat hsame
  exact UInt8.toNat_inj.mp (by simpa using hvalue)

theorem toUInt16_mem_unitsOf {value : UInt8} {text : Bytes} :
    value.toUInt16 ∈ unitsOf text ↔ value ∈ text :=
  List.mem_map_of_injective toUInt16_injective

theorem unitsOf_injective : Function.Injective unitsOf :=
  List.map_injective_iff.mpr toUInt16_injective

theorem unitsOf_encodeUnit {unit : UInt16} (hascii : unit < 0x80) :
    unitsOf (encodeUnit unit) = [unit] := by
  have hunit : unit.toNat < 0x80 := UInt16.lt_iff_toNat_lt.mp hascii
  have hsurrogate : (isHighSurrogate unit || isLowSurrogate unit) = false := by
    simp only [isHighSurrogate, isLowSurrogate, Bool.or_eq_false_iff, Bool.and_eq_false_iff,
      decide_eq_false_iff_not, UInt16.le_iff_toNat_le, UInt16.reduceToNat]
    omega
  have hbyte : (UInt8.ofNat unit.toNat).toUInt16 = unit := by
    apply UInt16.toNat_inj.mp
    rw [UInt8.toNat_toUInt16, UInt8.toNat_ofNat']
    omega
  rw [encodeUnit, if_neg (Bool.eq_false_iff.mp hsurrogate), encodeCodePoint, if_pos hunit]
  exact congrArg (fun value => [value]) hbyte

/-- The code points whose bytes are ASCII are ASCII. -/
theorem ascii_of_encodeCodePoint {point : ℕ} (hpoint : point < 0x110000)
    (hascii : ∀ value ∈ encodeCodePoint point, value < 0x80) : point < 0x80 := by
  by_contra hother
  have hlead : ∃ value ∈ encodeCodePoint point, 0x80 ≤ value.toNat := by
    unfold encodeCodePoint
    rw [if_neg hother]
    split_ifs
    · exact ⟨_, .head _, by rw [UInt8.toNat_ofNat']; omega⟩
    · exact ⟨_, .head _, by rw [UInt8.toNat_ofNat']; omega⟩
    · exact ⟨_, .head _, by rw [UInt8.toNat_ofNat']; omega⟩
  obtain ⟨value, hmem, hvalue⟩ := hlead
  have hlow : value.toNat < 0x80 := UInt8.lt_iff_toNat_lt.mp (hascii value hmem)
  omega

theorem ascii_of_encodeUnit {unit : UInt16} (hascii : ∀ value ∈ encodeUnit unit, value < 0x80) :
    unit < 0x80 := by
  have hunit := unit.toNat_lt
  unfold encodeUnit at hascii
  split at hascii
  · exact absurd (ascii_of_encodeCodePoint (by decide) hascii) (by decide)
  · exact UInt16.lt_iff_toNat_lt.mpr (ascii_of_encodeCodePoint (by omega) hascii)

/-- A text is ASCII if its bytes are. -/
theorem ascii_of_textEncode {text : JsString} (hascii : ∀ value ∈ textEncode text, value < 0x80) :
    ∀ unit ∈ text, unit < 0x80 := by
  fun_induction textEncode text with
  | case1 => simp
  | case2 unit => simpa using ascii_of_encodeUnit hascii
  | case3 first second rest hpair ih =>
      obtain ⟨hfirst, hsecond⟩ := Bool.and_eq_true_iff.mp hpair
      have hpoint := ascii_of_encodeCodePoint (surrogatePair_lt hfirst hsecond) fun value hmem =>
        hascii value (List.mem_append_left _ hmem)
      omega
  | case4 first second rest hpair ih =>
      intro unit hunit
      rcases List.mem_cons.mp hunit with rfl | hunit
      · exact ascii_of_encodeUnit fun value hmem => hascii value (List.mem_append_left _ hmem)
      · exact ih (fun value hmem => hascii value (List.mem_append_right _ hmem)) unit hunit

/-- An ASCII text is encoded unit by unit. -/
theorem unitsOf_textEncode {text : JsString} (hascii : ∀ unit ∈ text, unit < 0x80) :
    unitsOf (textEncode text) = text := by
  fun_induction textEncode text with
  | case1 => rfl
  | case2 unit => exact unitsOf_encodeUnit (hascii unit (.head _))
  | case3 first second rest hpair ih =>
      have hfirst := UInt16.lt_iff_toNat_lt.mp (hascii first (.head _))
      simp only [isHighSurrogate, Bool.and_eq_true, decide_eq_true_eq,
        UInt16.le_iff_toNat_le, UInt16.reduceToNat] at hpair hfirst
      omega
  | case4 first second rest hpair ih =>
      rw [unitsOf_append, unitsOf_encodeUnit (hascii first (.head _)),
        ih fun unit hunit => hascii unit (.tail _ hunit)]
      rfl

theorem textEncode_unitsOf {value : Bytes} (hascii : ∀ byte ∈ value, byte < 0x80) :
    textEncode (unitsOf value) = value := by
  apply unitsOf_injective
  refine unitsOf_textEncode fun unit hunit => ?_
  obtain ⟨byte, hbyte, rfl⟩ := List.mem_map.mp hunit
  rw [UInt16.lt_iff_toNat_lt, UInt8.toNat_toUInt16]
  exact UInt8.lt_iff_toNat_lt.mp (hascii byte hbyte)

def slashUnit : UInt16 := 0x2f
def colonUnit : UInt16 := 0x3a
def atUnit : UInt16 := 0x40
def questionUnit : UInt16 := 0x3f
def hashUnit : UInt16 := 0x23

/-- The parts of `window.location` that the page reads. -/
structure Location where
  protocol : JsString
  host : JsString
  pathname : JsString
  deriving DecidableEq, Repr

/-- The host of an authority, which follows the user information and its last `@`. -/
def hostOf (authority : JsString) : JsString := authority.rtakeWhile fun unit => unit != atUnit

/-- The path of what follows an authority: all up to the query and the fragment. -/
def pathOf (rest : JsString) : JsString :=
  rest.takeWhile fun unit => unit != questionUnit && unit != hashUnit

/-- The location of a link that a browser opens unchanged: the protocol up to its colon, the
host of the authority after two slashes, and the path from the next slash on. Such a link
has that slash, for a browser would put one behind its authority. -/
def locationOf (link : JsString) : Option Location :=
  let protocol := link.takeWhile (fun unit => unit != colonUnit) ++ [colonUnit]
  let rest := link.drop protocol.length
  if rest.take 2 = [slashUnit, slashUnit] then
    let rest := rest.drop 2
    some ⟨protocol, hostOf (rest.takeWhile fun unit => unit != slashUnit),
      pathOf (rest.dropWhile fun unit => unit != slashUnit)⟩
  else none

/-- An authority is its host if it has no user information, and no shorter than it. -/
theorem hostOf_eq_self_iff {authority : JsString} :
    (hostOf authority).length = authority.length ↔ atUnit ∉ authority := by
  have hself : (hostOf authority).length = authority.length ↔ hostOf authority = authority :=
    ⟨(List.rtakeWhile_suffix _ _).eq_of_length, congrArg List.length⟩
  rw [hself, hostOf, List.rtakeWhile_eq_self_iff]
  constructor
  · intro hall hmem
    simpa using hall _ hmem
  · intro hnone unit hunit
    exact bne_iff_ne.mpr fun hat => hnone (hat ▸ hunit)

theorem pathOf_eq_self {rest : JsString}
    (hplain : ∀ unit ∈ rest, unit ≠ questionUnit ∧ unit ≠ hashUnit) : pathOf rest = rest := by
  rw [pathOf, List.takeWhile_eq_self_iff]
  intro unit hunit
  simp [hplain unit hunit]

/-- A link is read as it is put together. -/
theorem locationOf_append {scheme authority path : JsString} (hscheme : colonUnit ∉ scheme)
    (hauthority : slashUnit ∉ authority) :
    locationOf (scheme ++ colonUnit :: slashUnit :: slashUnit ::
        (authority ++ slashUnit :: path)) =
      some ⟨scheme ++ [colonUnit], hostOf authority, pathOf (slashUnit :: path)⟩ := by
  have hprotocol : ∀ rest : JsString, (scheme ++ colonUnit :: rest).takeWhile
      (fun unit => unit != colonUnit) = scheme := by
    intro rest
    rw [List.takeWhile_append_of_pos, List.takeWhile_cons_of_neg (by simp), List.append_nil]
    exact fun unit hunit => bne_iff_ne.mpr fun hcolon => hscheme (hcolon ▸ hunit)
  have hother : ∀ unit ∈ authority, (unit != slashUnit) = true := fun unit hunit =>
    bne_iff_ne.mpr fun hslash => hauthority (hslash ▸ hunit)
  have hdrop : ∀ rest, (scheme ++ colonUnit :: rest).drop (scheme ++ [colonUnit]).length =
      rest := by
    intro rest
    rw [List.append_cons scheme colonUnit rest, List.drop_left]
  have htake : (slashUnit :: slashUnit :: (authority ++ slashUnit :: path)).take 2 =
      [slashUnit, slashUnit] := rfl
  unfold locationOf
  dsimp only
  rw [hprotocol, hdrop, if_pos htake]
  simp only [List.drop_succ_cons, List.drop_zero]
  rw [List.takeWhile_append_of_pos hother, List.dropWhile_append_of_pos hother,
    List.takeWhile_cons_of_neg (by simp), List.dropWhile_cons_of_neg (by simp), List.append_nil]

/-- The class `[0-9a-f]` of the patterns. -/
def isSessionUnit (unit : UInt16) : Bool :=
  (0x30 ≤ unit && unit ≤ 0x39) || (0x61 ≤ unit && unit ≤ 0x66)

/-- The pattern `^[0-9a-f]{32}$`. -/
def isSessionId (sessionId : JsString) : Bool :=
  sessionId.length == 32 && sessionId.all isSessionUnit

/-- `parseSessionId`, whose pattern is `^\/s\/([0-9a-f]{32})\/?$`. -/
def parseSessionId (pathname : JsString) : Option JsString :=
  let sessionId := (pathname.drop 3).take 32
  let rest := pathname.drop 35
  if pathname.take 3 = unitsOf (ascii ['/', 's', '/']) ∧ isSessionId sessionId ∧
      (rest = [] ∨ rest = [slashUnit]) then
    some sessionId
  else none

/-- `buildSenderWebSocketUrl`. -/
def buildSenderWebSocketUrl (location : Location) (sessionId : JsString) :
    Except JsError JsString :=
  if !isSessionId sessionId then
    .error ⟨.typeError, "invalid sender WebSocket URL input"⟩
  else
    let url (scheme : List Char) : JsString := unitsOf (ascii scheme) ++
      [slashUnit, slashUnit] ++ location.host ++
      unitsOf (ascii ['/', 'v', '1', '/', 's', 'e', 'n', 'd', 'e', 'r', '/']) ++ sessionId
    if location.protocol = unitsOf (ascii ['h', 't', 't', 'p', 's', ':']) then
      .ok (url ['w', 's', 's', ':'])
    else if location.protocol = unitsOf (ascii ['h', 't', 't', 'p', ':']) then
      .ok (url ['w', 's', ':'])
    else .error ⟨.error, "PrintDrop sender requires HTTP or HTTPS"⟩

/-- The classes of the page and of the receiver are the same. -/
theorem isSessionUnit_toUInt16 (value : UInt8) :
    isSessionUnit value.toUInt16 = isLowerHexDigit value := by
  rw [Bool.eq_iff_iff]
  simp only [isSessionUnit, isLowerHexDigit, Bool.or_eq_true, Bool.and_eq_true, decide_eq_true_eq,
    UInt16.le_iff_toNat_le, UInt8.le_iff_toNat_le, UInt8.toNat_toUInt16]
  exact Iff.rfl

theorem isSessionId_unitsOf (sessionId : Bytes) :
    isSessionId (unitsOf sessionId) =
      (sessionId.length == 32 && sessionId.all isLowerHexDigit) := by
  rw [isSessionId, length_unitsOf, unitsOf, List.all_map]
  simp only [Function.comp_def, isSessionUnit_toUInt16]

theorem ascii_of_isSessionUnit {unit : UInt16} (hunit : isSessionUnit unit = true) :
    unit < 0x80 := by
  simp only [isSessionUnit, Bool.or_eq_true, Bool.and_eq_true, decide_eq_true_eq,
    UInt16.le_iff_toNat_le, UInt16.reduceToNat] at hunit
  rw [UInt16.lt_iff_toNat_lt]
  show unit.toNat < 0x80
  omega

theorem ascii_of_isSessionId {sessionId : JsString} (hvalid : isSessionId sessionId = true) :
    ∀ unit ∈ sessionId, unit < 0x80 := by
  rw [isSessionId, Bool.and_eq_true, List.all_eq_true] at hvalid
  exact fun unit hunit => ascii_of_isSessionUnit (hvalid.2 unit hunit)

/-- The path of a session has no query and no fragment. -/
theorem pathOf_session {sessionId : JsString} (hvalid : isSessionId sessionId = true) :
    pathOf (unitsOf (ascii ['/', 's', '/']) ++ sessionId) =
      unitsOf (ascii ['/', 's', '/']) ++ sessionId := by
  apply pathOf_eq_self
  intro unit hunit
  rcases List.mem_append.mp hunit with hunit | hunit
  · have hall : (unitsOf (ascii ['/', 's', '/'])).all
        (fun unit => unit != questionUnit && unit != hashUnit) = true := by decide
    simpa using List.all_eq_true.mp hall unit hunit
  · rw [isSessionId, Bool.and_eq_true, List.all_eq_true] at hvalid
    have hdigit := hvalid.2 unit hunit
    constructor
    · rintro rfl
      exact absurd hdigit (by decide)
    · rintro rfl
      exact absurd hdigit (by decide)

/-- The pattern reads a text as the receiver reads its bytes. -/
theorem isSessionId_eq (sessionId : JsString) :
    isSessionId sessionId = ((textEncode sessionId).length == 32 &&
      (textEncode sessionId).all isLowerHexDigit) := by
  by_cases hascii : ∀ unit ∈ sessionId, unit < 0x80
  · rw [← isSessionId_unitsOf, unitsOf_textEncode hascii]
  · have hpage : isSessionId sessionId = false :=
      Bool.eq_false_iff.mpr fun hvalid => hascii (ascii_of_isSessionId hvalid)
    have hbytes : (textEncode sessionId).all isLowerHexDigit = false := by
      refine Bool.eq_false_iff.mpr fun hall => hascii (ascii_of_textEncode fun value hmem => ?_)
      exact ascii_of_isLowerHexDigit (List.all_eq_true.mp hall value hmem)
    rw [hpage, hbytes, Bool.and_false]

/-- The paths that the pattern takes. -/
theorem isSome_parseSessionId {pathname : JsString} :
    (parseSessionId pathname).isSome = true ↔ ∃ sessionId, isSessionId sessionId = true ∧
      (pathname = unitsOf (ascii ['/', 's', '/']) ++ sessionId ∨
        pathname = unitsOf (ascii ['/', 's', '/']) ++ sessionId ++ [slashUnit]) := by
  unfold parseSessionId
  dsimp only
  constructor
  · intro hparsed
    split at hparsed
    swap
    · cases hparsed
    rename_i hmatched
    obtain ⟨hfront, hvalid, hrest⟩ := hmatched
    have hsplit : pathname = unitsOf (ascii ['/', 's', '/']) ++ (pathname.drop 3).take 32 ++
        pathname.drop 35 := by
      conv_lhs => rw [← List.take_append_drop 3 pathname, hfront,
        ← List.take_append_drop 32 (pathname.drop 3), List.drop_drop, ← List.append_assoc]
    refine ⟨_, hvalid, ?_⟩
    rcases hrest with hrest | hrest
    · rw [hrest, List.append_nil] at hsplit
      exact .inl hsplit
    · rw [hrest] at hsplit
      exact .inr hsplit
  · rintro ⟨sessionId, hvalid, hpath⟩
    have hlength : sessionId.length = 32 := by
      rw [isSessionId, Bool.and_eq_true, beq_iff_eq] at hvalid
      exact hvalid.1
    have hmatches : ∀ rest, pathname = unitsOf (ascii ['/', 's', '/']) ++ sessionId ++ rest →
        pathname.take 3 = unitsOf (ascii ['/', 's', '/']) ∧
          (pathname.drop 3).take 32 = sessionId ∧ pathname.drop 35 = rest := by
      rintro rest rfl
      refine ⟨rfl, ?_, ?_⟩
      · rw [List.append_assoc]
        exact List.take_left' hlength
      · refine List.drop_left' ?_
        rw [List.length_append, hlength]
        rfl
    rcases hpath with hpath | hpath
    · obtain ⟨hfront, hid, hrest⟩ := hmatches [] (by rw [hpath, List.append_nil])
      rw [hid, if_pos ⟨hfront, hvalid, .inl hrest⟩]
      rfl
    · obtain ⟨hfront, hid, hrest⟩ := hmatches [slashUnit] hpath
      rw [hid, if_pos ⟨hfront, hvalid, .inr hrest⟩]
      rfl

/-- A path that ends in an identifier is the path of a session if nothing else is in it. -/
theorem parseSessionId_append {sessionId : JsString} (hvalid : isSessionId sessionId = true) :
    parseSessionId (unitsOf (ascii ['/', 's', '/']) ++ sessionId) = some sessionId := by
  have hlength : sessionId.length = 32 := by
    simp only [isSessionId, Bool.and_eq_true, beq_iff_eq] at hvalid
    exact hvalid.1
  have hdrop : (unitsOf (ascii ['/', 's', '/']) ++ sessionId).drop 3 = sessionId := rfl
  have htake : (unitsOf (ascii ['/', 's', '/']) ++ sessionId).take 3 =
      unitsOf (ascii ['/', 's', '/']) := rfl
  have hrest : (unitsOf (ascii ['/', 's', '/']) ++ sessionId).drop 35 = [] := by
    refine List.drop_of_length_le ?_
    rw [List.length_append, hlength]
    decide
  unfold parseSessionId
  dsimp only
  rw [hdrop, List.take_of_length_le hlength.le, if_pos ⟨htake, hvalid, .inl hrest⟩]

end PrintDrop.Web
