/-
# The body of a registration

How Go's `encoding/json` decodes the body that `handleRegisterSession` is sent into a
`registerSessionRequest`, without unknown fields and with nothing after the object. The
scanner takes one byte after another and keeps a stack of the objects and arrays that it is
in; a member's name and value are decoded when the scanner is through with them.

A body that is no object is an error here; in Go a `null` leaves the request as it was, with
an identifier that is not valid.
-/

import PrintDrop.Relay.SenderWeb
import PrintDrop.Receiver.RelayRegistration

namespace PrintDrop.Relay

inductive ParseState
  | objectKey
  | objectValue
  | arrayValue
  deriving DecidableEq, Repr

/-- The states inside a number, under the names of the step functions of the scanner. -/
inductive NumberState
  | neg
  | digit0
  | digit1
  | dot
  | dot0
  | e
  | eSign
  | e0
  deriving DecidableEq, Repr

inductive ScanState
  | beginValueOrEmpty
  | beginValue
  | beginStringOrEmpty
  | beginString
  | inString
  | inStringEsc
  /-- Some digits of a `\u` escape are still to come. -/
  | inStringEscU (digits : ℕ)
  | inNumber (state : NumberState)
  /-- In `true`, `false` or `null`, before the rest of it. -/
  | inLiteral (rest : Bytes)
  | endValue
  | endTop
  deriving DecidableEq, Repr

/-- What a byte was to the scanner. -/
inductive ScanOp
  | goOn
  | skipSpace
  | beginLiteral
  | beginObject
  | objectKey
  | objectValue
  | endObject
  | beginArray
  | arrayValue
  | endArray
  deriving DecidableEq, Repr

structure Scanner where
  state : ScanState
  /-- The objects and arrays that are open, the innermost first. -/
  parseState : List ParseState
  deriving DecidableEq, Repr

/-- The outcome of a step, which is none after an error. -/
abbrev Scanned := Option (ScanOp × Scanner)

def isJsonSpace (c : UInt8) : Bool := c == 0x20 || c == 0x09 || c == 0x0d || c == 0x0a

def isJsonDigit (c : UInt8) : Bool := Char.toUInt8 '0' ≤ c && c ≤ Char.toUInt8 '9'

def isJsonHexDigit (c : UInt8) : Bool :=
  isJsonDigit c || (Char.toUInt8 'a' ≤ c && c ≤ Char.toUInt8 'f') ||
    (Char.toUInt8 'A' ≤ c && c ≤ Char.toUInt8 'F')

def openBrace : UInt8 := 0x7b
def closeBrace : UInt8 := 0x7d
def quoteMark : UInt8 := 0x22
def backslash : UInt8 := 0x5c

namespace Scanner

def goTo (s : Scanner) (op : ScanOp) (state : ScanState) : Scanned :=
  some (op, { s with state := state })

/-- `pushParseState`; the bodies that are read are too short to nest too deep. -/
def pushParseState (s : Scanner) (op : ScanOp) (pushed : ParseState) (state : ScanState) :
    Scanned :=
  some (op, ⟨state, pushed :: s.parseState⟩)

def popParseState (op : ScanOp) : List ParseState → Scanned
  | [] => some (op, ⟨.endTop, []⟩)
  | rest => some (op, ⟨.endValue, rest⟩)

def stateEndValue (s : Scanner) (c : UInt8) : Scanned :=
  match s.parseState with
  | [] => none
  | .objectKey :: rest =>
    if isJsonSpace c then s.goTo .skipSpace .endValue
    else if c = Char.toUInt8 ':' then some (.objectKey, ⟨.beginValue, .objectValue :: rest⟩)
    else none
  | .objectValue :: rest =>
    if isJsonSpace c then s.goTo .skipSpace .endValue
    else if c = Char.toUInt8 ',' then some (.objectValue, ⟨.beginString, .objectKey :: rest⟩)
    else if c = closeBrace then popParseState .endObject rest
    else none
  | .arrayValue :: rest =>
    if isJsonSpace c then s.goTo .skipSpace .endValue
    else if c = Char.toUInt8 ',' then s.goTo .arrayValue .beginValue
    else if c = Char.toUInt8 ']' then popParseState .endArray rest
    else none

def stateBeginValue (s : Scanner) (c : UInt8) : Scanned :=
  if isJsonSpace c then s.goTo .skipSpace s.state
  else if c = openBrace then s.pushParseState .beginObject .objectKey .beginStringOrEmpty
  else if c = Char.toUInt8 '[' then s.pushParseState .beginArray .arrayValue .beginValueOrEmpty
  else if c = quoteMark then s.goTo .beginLiteral .inString
  else if c = Char.toUInt8 '-' then s.goTo .beginLiteral (.inNumber .neg)
  else if c = Char.toUInt8 '0' then s.goTo .beginLiteral (.inNumber .digit0)
  else if c = Char.toUInt8 't' then s.goTo .beginLiteral (.inLiteral (ascii ['r', 'u', 'e']))
  else if c = Char.toUInt8 'f' then s.goTo .beginLiteral (.inLiteral (ascii ['a', 'l', 's', 'e']))
  else if c = Char.toUInt8 'n' then s.goTo .beginLiteral (.inLiteral (ascii ['u', 'l', 'l']))
  else if isJsonDigit c then s.goTo .beginLiteral (.inNumber .digit1)
  else none

def stateBeginString (s : Scanner) (c : UInt8) : Scanned :=
  if isJsonSpace c then s.goTo .skipSpace s.state
  else if c = quoteMark then s.goTo .beginLiteral .inString
  else none

/-- The end of an object without members. -/
def stateBeginStringOrEmpty (s : Scanner) (c : UInt8) : Scanned :=
  if c = closeBrace then
    stateEndValue { s with parseState := .objectValue :: s.parseState.tail } c
  else s.stateBeginString c

def stateInString (s : Scanner) (c : UInt8) : Scanned :=
  if c = quoteMark then s.goTo .goOn .endValue
  else if c = backslash then s.goTo .goOn .inStringEsc
  else if c < 0x20 then none
  else s.goTo .goOn .inString

def stateInStringEsc (s : Scanner) (c : UInt8) : Scanned :=
  if c ∈ quoteMark :: backslash :: ascii ['b', 'f', 'n', 'r', 't', '/'] then
    s.goTo .goOn .inString
  else if c = Char.toUInt8 'u' then s.goTo .goOn (.inStringEscU 4)
  else none

def stateInStringEscU (s : Scanner) (digits : ℕ) (c : UInt8) : Scanned :=
  if isJsonHexDigit c then
    s.goTo .goOn (if digits ≤ 1 then .inString else .inStringEscU (digits - 1))
  else none

def stateInNumber (s : Scanner) (state : NumberState) (c : UInt8) : Scanned :=
  let goTo (state : NumberState) := s.goTo .goOn (.inNumber state)
  let exponent := c = Char.toUInt8 'e' ∨ c = Char.toUInt8 'E'
  let afterDigits :=
    if c = Char.toUInt8 '.' then goTo .dot
    else if exponent then goTo .e
    else s.stateEndValue c
  match state with
  | .neg =>
    if c = Char.toUInt8 '0' then goTo .digit0
    else if isJsonDigit c then goTo .digit1
    else none
  | .digit1 => if isJsonDigit c then goTo .digit1 else afterDigits
  | .digit0 => afterDigits
  | .dot => if isJsonDigit c then goTo .dot0 else none
  | .dot0 =>
    if isJsonDigit c then goTo .dot0
    else if exponent then goTo .e
    else s.stateEndValue c
  | .e =>
    if c = Char.toUInt8 '+' ∨ c = Char.toUInt8 '-' then goTo .eSign
    else if isJsonDigit c then goTo .e0
    else none
  | .eSign => if isJsonDigit c then goTo .e0 else none
  | .e0 => if isJsonDigit c then goTo .e0 else s.stateEndValue c

def stateInLiteral (s : Scanner) (c : UInt8) : Bytes → Scanned
  | [] => none
  | [last] => if c = last then s.goTo .goOn .endValue else none
  | next :: rest => if c = next then s.goTo .goOn (.inLiteral rest) else none

/-- The step function of each state. -/
def step (s : Scanner) (c : UInt8) : Scanned :=
  match s.state with
  | .beginValueOrEmpty => if c = Char.toUInt8 ']' then s.stateEndValue c else s.stateBeginValue c
  | .beginValue => s.stateBeginValue c
  | .beginStringOrEmpty => s.stateBeginStringOrEmpty c
  | .beginString => s.stateBeginString c
  | .inString => s.stateInString c
  | .inStringEsc => s.stateInStringEsc c
  | .inStringEscU digits => s.stateInStringEscU digits c
  | .inNumber state => s.stateInNumber state c
  | .inLiteral rest => s.stateInLiteral c rest
  | .endValue => s.stateEndValue c
  | .endTop => if isJsonSpace c then s.goTo .skipSpace .endTop else none

end Scanner

/-- The scanner in an object, with the text of the name or value that it reads and the
members that it is through with, as texts. -/
structure ObjectDecoder where
  scanner : Scanner
  name : Bytes
  text : Bytes
  members : List (Bytes × Bytes)
  deriving DecidableEq, Repr

namespace ObjectDecoder

/-- After the opening brace. -/
def start : ObjectDecoder := ⟨⟨.beginStringOrEmpty, [.objectKey]⟩, [], [], []⟩

def endMember (d : ObjectDecoder) : ObjectDecoder :=
  if d.text.isEmpty then d
  else { d with name := [], text := [], members := d.members ++ [(d.name, d.text)] }

def step (d : ObjectDecoder) (c : UInt8) : Option ObjectDecoder :=
  (d.scanner.step c).map fun (op, scanner) =>
    let d := { d with scanner := scanner }
    match op, scanner.parseState.length with
    | .skipSpace, _ => d
    | .objectKey, 1 => { d with name := d.text, text := [] }
    | .objectValue, 1 | .endObject, 0 => d.endMember
    | _, _ => { d with text := d.text ++ [c] }

end ObjectDecoder

/-- The members of a text that is one object and nothing else. -/
def objectMembers (text : Bytes) : Option (List (Bytes × Bytes)) :=
  match text.dropWhile isJsonSpace with
  | [] => none
  | first :: rest =>
    if first = openBrace then
      match rest.foldlM ObjectDecoder.step .start with
      | none => none
      | some d => if d.scanner.state = .endTop then some d.members else none
    else none

/-- `utf8.AppendRune`. -/
def encodeRune (rune : ℕ) : Bytes :=
  let continuation (rune : ℕ) : UInt8 := UInt8.ofNat (0x80 + rune % 0x40)
  if rune < 0x80 then [UInt8.ofNat rune]
  else if rune < 0x800 then [UInt8.ofNat (0xc0 + rune / 0x40), continuation rune]
  else if rune < 0x10000 then
    [UInt8.ofNat (0xe0 + rune / 0x1000), continuation (rune / 0x40), continuation rune]
  else
    [UInt8.ofNat (0xf0 + rune / 0x40000), continuation (rune / 0x1000),
      continuation (rune / 0x40), continuation rune]

def jsonHexValue (c : UInt8) : ℕ :=
  if isJsonDigit c then c.toNat - '0'.toNat
  else if Char.toUInt8 'a' ≤ c then c.toNat - 'a'.toNat + 10
  else c.toNat - 'A'.toNat + 10

/-- `getu4`: the code unit of a `\u` escape that the text begins with. -/
def getu4 : Bytes → Option ℕ
  | first :: second :: third :: fourth :: fifth :: sixth :: _ =>
    let digits := [third, fourth, fifth, sixth]
    if first = backslash ∧ second = Char.toUInt8 'u' ∧ digits.all isJsonHexDigit then
      some (digits.foldl (fun value digit => value * 16 + jsonHexValue digit) 0)
    else none
  | _ => none

/-- The rune of two surrogates. -/
def decodeSurrogates (high low : ℕ) : Option ℕ :=
  if 0xd800 ≤ high ∧ high < 0xdc00 ∧ 0xdc00 ≤ low ∧ low < 0xe000 then
    some ((high - 0xd800) * 0x400 + (low - 0xdc00) + 0x10000)
  else none

/-- What the byte after a backslash stands for. -/
def escaped (c : UInt8) : UInt8 :=
  if c = Char.toUInt8 'b' then 0x08
  else if c = Char.toUInt8 'f' then 0x0c
  else if c = Char.toUInt8 'n' then 0x0a
  else if c = Char.toUInt8 'r' then 0x0d
  else if c = Char.toUInt8 't' then 0x09
  else c

/-- What the text begins with, and how many bytes of it that takes. -/
def unquoteFirst (first : UInt8) (rest : Bytes) : Bytes × ℕ :=
  if first = backslash then
    match getu4 (first :: rest) with
    | none => (rest.head?.toList.map escaped, 2)
    | some unit =>
      if 0xd800 ≤ unit ∧ unit < 0xe000 then
        match (getu4 (rest.drop 5)).bind (decodeSurrogates unit) with
        | some rune => (encodeRune rune, 12)
        | none => (encodeRune runeError, 6)
      else (encodeRune unit, 6)
  else if first < 0x80 then ([first], 1)
  else
    let (rune, width) := decodeRune first rest
    (encodeRune rune, width)

def unquoteAfter : ℕ → Bytes → Bytes
  | _, [] => []
  | 0, first :: rest =>
    let (value, width) := unquoteFirst first rest
    value ++ unquoteAfter (width - 1) rest
  | skipped + 1, _ :: rest => unquoteAfter skipped rest

/-- `unquote` of a text that the scanner has taken for a string. -/
def unquote (text : Bytes) : Bytes := unquoteAfter 0 (text.drop 1).dropLast

/-- `foldRune`, as far as it leads to ASCII: the letters, and the two other runes that fold to
one. -/
def foldRune (rune : ℕ) : ℕ :=
  if 'a'.toNat ≤ rune ∧ rune ≤ 'z'.toNat then rune - 0x20
  else if rune = 0x17f then 'S'.toNat
  else if rune = 0x212a then 'K'.toNat
  else rune

def sessionIdField : Bytes := ascii ['s', 'e', 's', 's', 'i', 'o', 'n', '_', 'i', 'd']

/-- A name is that of the only field, which `SessionID` is tagged with, also in other
letters. -/
def namesSessionId (name : Bytes) : Bool :=
  (runes name).map foldRune == (runes sessionIdField).map foldRune

/-- A member is stored into the identifier. -/
def storeMember (id : Bytes) (member : Bytes × Bytes) : Option Bytes :=
  if !namesSessionId (unquote member.1) then none
  else
    match member.2.head? with
    | some first =>
      if first = quoteMark then some (unquote member.2)
      else if first = Char.toUInt8 'n' then some id
      else none
    | none => none

def registerBodyLimit : ℕ := 1024

/-- The identifier of a request, of which the body is one object with no other field. -/
def decodeRegisterSession (body : Bytes) : Option Bytes :=
  if registerBodyLimit < body.length then none
  else (objectMembers body).bind fun members => members.foldlM storeMember []

/-! ## The body that the receiver builds -/

/-- In a string, the byte stands for itself. -/
structure PlainByte (c : UInt8) : Prop where
  notControl : ¬c < 0x20
  ascii : c < 0x80
  notQuote : c ≠ quoteMark
  notBackslash : c ≠ backslash

theorem plainByte_of_isLowerHexDigit {c : UInt8} (hdigit : isLowerHexDigit c = true) :
    PlainByte c := by
  have hascii := ascii_of_isLowerHexDigit hdigit
  refine ⟨fun hcontrol => ?_, hascii, ?_, ?_⟩
  · simp only [isLowerHexDigit, Bool.or_eq_true, Bool.and_eq_true, decide_eq_true_eq,
      UInt8.le_iff_toNat_le] at hdigit
    rw [UInt8.lt_iff_toNat_lt] at hcontrol
    have hzero : (Char.toUInt8 '0').toNat = 0x30 := rfl
    have ha : (Char.toUInt8 'a').toNat = 0x61 := rfl
    have hbound : (0x20 : UInt8).toNat = 0x20 := rfl
    omega
  · rintro rfl
    exact absurd hdigit (by decide)
  · rintro rfl
    exact absurd hdigit (by decide)

/-- A plain text inside the value of a member. -/
theorem foldlM_plain (name : Bytes) {plain : Bytes} (hplain : ∀ c ∈ plain, PlainByte c)
    (text : Bytes) :
    plain.foldlM ObjectDecoder.step ⟨⟨.inString, [.objectValue]⟩, name, text, []⟩ =
      some ⟨⟨.inString, [.objectValue]⟩, name, text ++ plain, []⟩ := by
  induction plain generalizing text with
  | nil => simp
  | cons c plain ih =>
      obtain ⟨hcontrol, -, hquote, hbackslash⟩ := hplain c List.mem_cons_self
      have hstep : ObjectDecoder.step ⟨⟨.inString, [.objectValue]⟩, name, text, []⟩ c =
          some ⟨⟨.inString, [.objectValue]⟩, name, text ++ [c], []⟩ := by
        simp [ObjectDecoder.step, Scanner.step, Scanner.stateInString, Scanner.goTo, hquote,
          hbackslash, hcontrol]
      rw [List.foldlM_cons, hstep]
      simpa using ih (fun other hother => hplain other (List.mem_cons_of_mem _ hother))
        (text ++ [c])

theorem unquoteAfter_plain {plain : Bytes} (hplain : ∀ c ∈ plain, PlainByte c) :
    unquoteAfter 0 plain = plain := by
  induction plain with
  | nil => rfl
  | cons c plain ih =>
      obtain ⟨-, hascii, -, hbackslash⟩ := hplain c List.mem_cons_self
      have hrest := ih fun other hother => hplain other (List.mem_cons_of_mem _ hother)
      simp [unquoteAfter, unquoteFirst, hbackslash, hascii, hrest]

theorem unquote_plain {plain : Bytes} (hplain : ∀ c ∈ plain, PlainByte c) :
    unquote (quoteMark :: plain ++ [quoteMark]) = plain := by
  rw [unquote, List.cons_append, List.drop_one, List.tail_cons, List.dropLast_concat,
    unquoteAfter_plain hplain]

/-- The receiver's body holds one member. -/
theorem objectMembers_body {plain : Bytes} (hplain : ∀ c ∈ plain, PlainByte c) :
    objectMembers (bodyPrefix ++ plain ++ bodySuffix) =
      some [(quoteMark :: sessionIdField ++ [quoteMark], quoteMark :: plain ++ [quoteMark])] := by
  obtain ⟨name, hname⟩ : ∃ name, bodyPrefix = openBrace :: name := ⟨_, rfl⟩
  have hfront : name.foldlM ObjectDecoder.step .start = some ⟨⟨.inString, [.objectValue]⟩,
      quoteMark :: sessionIdField ++ [quoteMark], [quoteMark], []⟩ := by
    obtain rfl : name = bodyPrefix.tail := by rw [hname, List.tail_cons]
    decide
  have hall : (name ++ plain ++ bodySuffix).foldlM ObjectDecoder.step .start =
      bodySuffix.foldlM ObjectDecoder.step ⟨⟨.inString, [.objectValue]⟩,
        quoteMark :: sessionIdField ++ [quoteMark], quoteMark :: plain, []⟩ := by
    rw [List.foldlM_append, List.foldlM_append, hfront]
    simp only [Option.bind_eq_bind, Option.bind_some]
    rw [foldlM_plain _ hplain]
    rfl
  have hspace : (bodyPrefix ++ plain ++ bodySuffix).dropWhile isJsonSpace =
      openBrace :: (name ++ plain ++ bodySuffix) := by
    rw [hname, List.cons_append, List.cons_append, List.dropWhile_cons_of_neg (by decide)]
  unfold objectMembers
  rw [hspace]
  dsimp only
  rw [if_pos rfl, hall]
  simp [bodySuffix, ObjectDecoder.step, ObjectDecoder.endMember, Scanner.step,
    Scanner.stateInString, Scanner.stateEndValue, Scanner.popParseState, Scanner.goTo,
    isJsonSpace, quoteMark, closeBrace, Char.toUInt8]

/-- **Round trip.** The relay decodes the body that the receiver builds for an identifier to
that identifier. -/
theorem decodeRegisterSession_body {id : Bytes} (hid : id.all isLowerHexDigit = true)
    (hlength : id.length = sessionTokenHexChars) :
    decodeRegisterSession (bodyPrefix ++ id ++ bodySuffix) = some id := by
  have hplain : ∀ c ∈ id, PlainByte c := fun c hc =>
    plainByte_of_isLowerHexDigit (List.all_eq_true.mp hid c hc)
  have hlimit : ¬registerBodyLimit < (bodyPrefix ++ id ++ bodySuffix).length := by
    rw [List.length_append, List.length_append, hlength]
    decide
  have hname : namesSessionId (unquote (quoteMark :: sessionIdField ++ [quoteMark])) = true := by
    decide
  have hstored : storeMember [] (quoteMark :: sessionIdField ++ [quoteMark],
      quoteMark :: id ++ [quoteMark]) = some id := by
    rw [storeMember, hname]
    exact congrArg some (unquote_plain hplain)
  rw [decodeRegisterSession, if_neg hlimit, objectMembers_body hplain, Option.bind_some,
    List.foldlM_cons, hstored]
  rfl

end PrintDrop.Relay
