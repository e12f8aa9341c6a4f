/-
# The relay's sender web

The identifiers that the relay takes from a request, of `relay/server.go`, and the handler
of the sender's page, `relay/web.go`. A Go string is its bytes, and a range over it reads
them as UTF-8.

The path of a request is `r.URL.Path`. The files are as they were when the handler was made.
-/

import PrintDrop.Receiver.JobId

namespace PrintDrop.Relay

/-- `utf8.RuneError`. -/
def runeError : ℕ := 0xfffd

/-- What the first byte of a sequence says: how many bytes follow, its own part of the rune,
and the least rune that needs a sequence so long. -/
def runeLead (first : UInt8) : Option (ℕ × ℕ × ℕ) :=
  if first < 0x80 then some (0, first.toNat, 0)
  else if first < 0xc0 then none
  else if first < 0xe0 then some (1, first.toNat - 0xc0, 0x80)
  else if first < 0xf0 then some (2, first.toNat - 0xe0, 0x800)
  else if first < 0xf8 then some (3, first.toNat - 0xf0, 0x10000)
  else none

def isContinuation (value : UInt8) : Bool := 0x80 ≤ value && value < 0xc0

/-- The rune that the bytes begin with, and its width. Where they do not begin with a
well-formed sequence it is a rune error of one byte. -/
def decodeRune (first : UInt8) (rest : Bytes) : ℕ × ℕ :=
  match runeLead first with
  | none => (runeError, 1)
  | some (count, own, least) =>
    let following := rest.take count
    let rune := following.foldl (fun rune value => rune * 0x40 + (value.toNat - 0x80)) own
    if following.length = count ∧ following.all isContinuation ∧ least ≤ rune ∧
        rune ≤ 0x10ffff ∧ ¬(0xd800 ≤ rune ∧ rune ≤ 0xdfff) then
      (rune, count + 1)
    else (runeError, 1)

/-- The runes of a range over the string, after the bytes that belong to the last one. -/
def runesAfter : ℕ → Bytes → List ℕ
  | _, [] => []
  | 0, first :: rest =>
    let (rune, width) := decodeRune first rest
    rune :: runesAfter (width - 1) rest
  | skipped + 1, _ :: rest => runesAfter skipped rest

def runes (value : Bytes) : List ℕ := runesAfter 0 value

theorem decodeRune_ascii {first : UInt8} (hascii : first < 0x80) (rest : Bytes) :
    decodeRune first rest = (first.toNat, 1) := by
  have hbyte := first.toNat_lt
  simp only [decodeRune, runeLead, if_pos hascii, List.take_zero, List.foldl_nil,
    List.length_nil, List.all_nil, true_and]
  rw [if_pos (by omega)]

/-- A byte that is not ASCII does not begin a rune that is. -/
theorem decodeRune_of_not_ascii {first : UInt8} (hother : ¬first < 0x80) (rest : Bytes) :
    0x80 ≤ (decodeRune first rest).1 := by
  have herror : 0x80 ≤ runeError := by decide
  unfold decodeRune
  cases hlead : runeLead first with
  | none => exact herror
  | some lead =>
      obtain ⟨count, own, least⟩ := lead
      have hleast : 0x80 ≤ least := by
        unfold runeLead at hlead
        rw [if_neg hother] at hlead
        split_ifs at hlead <;> simp only [Option.some.injEq, Prod.mk.injEq] at hlead <;> omega
      dsimp only
      split
      · rename_i hformed
        exact hleast.trans hformed.2.2.1
      · exact herror

def publicSessionHexChars : ℕ := 32
def receiverSecretHexChars : ℕ := 64

/-- The test of `validLowerHex` on a rune. -/
def isLowerHexRune (character : ℕ) : Bool :=
  !((character < '0'.toNat || '9'.toNat < character) &&
    (character < 'a'.toNat || 'f'.toNat < character))

def validLowerHex (value : Bytes) (length : ℕ) : Bool :=
  if value.length ≠ length then false else (runes value).all isLowerHexRune

/-- `strings.TrimPrefix`. -/
def trimPrefix (value front : Bytes) : Bytes :=
  if front.isPrefixOf value then value.drop front.length else value

/-- `strings.TrimSuffix`. -/
def trimSuffix (value rear : Bytes) : Bytes :=
  if rear.isSuffixOf value then value.take (value.length - rear.length) else value

def slash : UInt8 := Char.toUInt8 '/'

/-- `pathSessionID`. -/
def pathSessionId (path front : Bytes) : Option Bytes :=
  if !front.isPrefixOf path then none
  else
    let id := trimPrefix path front
    if id.contains slash || !validLowerHex id publicSessionHexChars then none else some id

def bearer : Bytes := ascii ['B', 'e', 'a', 'r', 'e', 'r', ' ']

def bearerSecret (value : Bytes) : Option Bytes :=
  if !bearer.isPrefixOf value then none
  else
    let secret := trimPrefix value bearer
    if !validLowerHex secret receiverSecretHexChars then none else some secret

theorem isLowerHexRune_toNat (value : UInt8) :
    isLowerHexRune value.toNat = isLowerHexDigit value := by
  rw [Bool.eq_iff_iff]
  simp only [isLowerHexRune, isLowerHexDigit, Bool.not_eq_true', Bool.and_eq_false_iff,
    Bool.or_eq_false_iff, decide_eq_false_iff_not, Bool.or_eq_true, Bool.and_eq_true,
    decide_eq_true_eq, UInt8.le_iff_toNat_le, Nat.not_lt]
  exact Iff.rfl

theorem isLowerHexRune_of_not_ascii {rune : ℕ} (hrune : 0x80 ≤ rune) :
    isLowerHexRune rune = false := by
  have hnine : '9'.toNat = 0x39 := rfl
  have hf : 'f'.toNat = 0x66 := rfl
  simp only [isLowerHexRune, hnine, hf, Bool.not_eq_false', Bool.and_eq_true, Bool.or_eq_true,
    decide_eq_true_eq]
  omega

/-- The runes are lower-case hexadecimal digits exactly when the bytes are. -/
theorem all_runes (value : Bytes) :
    (runes value).all isLowerHexRune = value.all isLowerHexDigit := by
  unfold runes
  induction value with
  | nil => rfl
  | cons first rest ih =>
      rw [runesAfter, List.all_cons, List.all_cons]
      by_cases hascii : first < 0x80
      · rw [decodeRune_ascii hascii, isLowerHexRune_toNat, Nat.sub_self, ih]
      · have hdigit : isLowerHexDigit first = false :=
          Bool.eq_false_iff.mpr fun hdigit => hascii (ascii_of_isLowerHexDigit hdigit)
        rw [isLowerHexRune_of_not_ascii (decodeRune_of_not_ascii hascii rest), hdigit,
          Bool.false_and, Bool.false_and]

theorem validLowerHex_eq (value : Bytes) (length : ℕ) :
    validLowerHex value length = (value.length == length && value.all isLowerHexDigit) := by
  unfold validLowerHex
  rw [all_runes]
  split
  · rename_i hlength
    rw [beq_eq_false_iff_ne.mpr hlength, Bool.false_and]
  · rename_i hlength
    rw [beq_iff_eq.mpr (not_not.mp hlength), Bool.true_and]

theorem trimPrefix_append (front rest : Bytes) : trimPrefix (front ++ rest) front = rest := by
  have hfront : front.isPrefixOf (front ++ rest) = true :=
    List.isPrefixOf_iff_prefix.mpr (List.prefix_append _ _)
  rw [trimPrefix, if_pos hfront, List.drop_left]

theorem trimSuffix_append (front rear : Bytes) : trimSuffix (front ++ rear) rear = front := by
  have hrear : rear.isSuffixOf (front ++ rear) = true :=
    List.isSuffixOf_iff_suffix.mpr (List.suffix_append _ _)
  rw [trimSuffix, if_pos hrear, List.length_append, Nat.add_sub_cancel_right, List.take_left]

theorem trimSuffix_of_not_suffix {value rear : Bytes} (hrear : ¬rear <:+ value) :
    trimSuffix value rear = value :=
  if_neg fun hsuffix => hrear (List.isSuffixOf_iff_suffix.mp hsuffix)

/-- There is no slash in an identifier. -/
theorem slash_not_mem_of_validLowerHex {id : Bytes} {length : ℕ}
    (hvalid : validLowerHex id length = true) : slash ∉ id := by
  intro hslash
  rw [validLowerHex_eq, Bool.and_eq_true, List.all_eq_true] at hvalid
  exact absurd (hvalid.2 slash hslash) (by decide)

theorem pathSessionId_eq_some_iff {path front id : Bytes} :
    pathSessionId path front = some id ↔
      path = front ++ id ∧ validLowerHex id publicSessionHexChars = true := by
  unfold pathSessionId
  constructor
  · intro hread
    split at hread
    · cases hread
    rename_i hfront
    obtain ⟨rest, rfl⟩ : front <+: path := by simpa using hfront
    simp only [trimPrefix_append] at hread
    split at hread
    · cases hread
    rename_i hvalid
    obtain rfl := Option.some.inj hread
    have hvalid : slash ∉ rest ∧ validLowerHex rest publicSessionHexChars = true := by
      simpa using hvalid
    exact ⟨rfl, hvalid.2⟩
  · rintro ⟨rfl, hvalid⟩
    have hfront : front.isPrefixOf (front ++ id) = true :=
      List.isPrefixOf_iff_prefix.mpr (List.prefix_append _ _)
    have hslash : id.contains slash = false := by
      simpa using slash_not_mem_of_validLowerHex hvalid
    simp only [hfront, trimPrefix_append, hslash, hvalid, Bool.not_true, Bool.or_self,
      Bool.false_eq_true, if_false]

theorem bearerSecret_append (secret : Bytes) :
    bearerSecret (bearer ++ secret) =
      if validLowerHex secret receiverSecretHexChars then some secret else none := by
  have hfront : bearer.isPrefixOf (bearer ++ secret) = true :=
    List.isPrefixOf_iff_prefix.mpr (List.prefix_append _ _)
  simp only [bearerSecret, hfront, trimPrefix_append, Bool.not_true, Bool.false_eq_true, if_false]
  cases validLowerHex secret receiverSecretHexChars <;> rfl

/-! ## The handler -/

structure HttpRequest where
  method : String
  path : Bytes
  deriving DecidableEq, Repr

structure HttpResponse where
  status : ℕ
  header : List (String × String)
  body : Bytes
  deriving DecidableEq, Repr

/-- `Header.Set`. -/
def setHeader (header : List (String × String)) (key value : String) : List (String × String) :=
  header.filter (fun entry => entry.1 != key) ++ [(key, value)]

/-- `http.Error`. -/
def httpError (header : List (String × String)) (text : String) (code : ℕ) : HttpResponse :=
  ⟨code, setHeader (setHeader header "Content-Type" "text/plain; charset=utf-8")
    "X-Content-Type-Options" "nosniff", (text ++ "\n").toUTF8.toList⟩

/-- `http.NotFound`. -/
def notFound : HttpResponse := httpError [] "404 page not found" 404

inductive FileEntry
  | file (data : Bytes)
  | directory
  deriving DecidableEq, Repr

/-- A `fs.FS`: an entry, or the text of an error. -/
abbrev Files := String → Except String FileEntry

structure SenderWebAsset where
  file : String
  contentType : String
  cache : String
  deriving DecidableEq, Repr

/-- An asset of the sender, whose path is its file's name. -/
def cachedAsset (file contentType : String) : String × SenderWebAsset :=
  ("/" ++ file, ⟨file, contentType, "public, max-age=300"⟩)

def senderWebAssets : List (String × SenderWebAsset) :=
  [cachedAsset "style.css" "text/css; charset=utf-8",
    cachedAsset "app.js" "text/javascript; charset=utf-8",
    cachedAsset "sender.js" "text/javascript; charset=utf-8",
    cachedAsset "protocol.js" "text/javascript; charset=utf-8",
    cachedAsset "sha256.js" "text/javascript; charset=utf-8"]

def requiredFiles : List String :=
  "index.html" :: senderWebAssets.map fun asset => asset.2.file

/-- What `newSenderWebHandler` finds wrong with a required file. -/
def assetError (files : Files) (path : String) : Option String :=
  match files path with
  | .error err => some ("sender web asset " ++ path.quote ++ ": " ++ err)
  | .ok .directory => some ("sender web asset " ++ path.quote ++ " is not a file")
  | .ok (.file _) => none

/-- A handler whose files have been checked. -/
structure SenderWebHandler where
  next : HttpRequest → HttpResponse
  files : Files
  checked : requiredFiles.findSome? (assetError files) = none

/-- `newSenderWebHandler`. It checks the assets in the order of a map, which is any. -/
def newSenderWebHandler (next : Option (HttpRequest → HttpResponse)) (files : Option Files) :
    Except String SenderWebHandler :=
  match next, files with
  | none, _ => .error "sender web handler requires a fallback handler"
  | some _, none => .error "sender web handler requires a filesystem"
  | some next, some files =>
    match hchecked : requiredFiles.findSome? (assetError files) with
    | some err => .error err
    | none => .ok ⟨next, files, hchecked⟩

example : ∃ h, newSenderWebHandler (some fun _ => notFound) (some fun _ => .ok (.file [])) =
    .ok h := ⟨_, rfl⟩

namespace SenderWebHandler

variable (h : SenderWebHandler)

/-- `senderWebMethodAllowed`: the response to a method that is not. -/
def methodRefused (r : HttpRequest) : Option HttpResponse :=
  if r.method = "GET" ∨ r.method = "HEAD" then none
  else some (httpError (setHeader [] "Allow" "GET, HEAD") "Method Not Allowed" 405)

/-- `serveFile`, with the header that has been set before. -/
def serveFile (header : List (String × String)) (r : HttpRequest) (asset : SenderWebAsset) :
    HttpResponse :=
  match h.files asset.file with
  | .ok (.file data) =>
    ⟨200, setHeader (setHeader (setHeader header "Content-Type" asset.contentType)
      "Cache-Control" asset.cache) "X-Content-Type-Options" "nosniff",
      if r.method ≠ "HEAD" then data else []⟩
  | _ => httpError header "Internal Server Error" 500

def serveAsset (r : HttpRequest) (asset : SenderWebAsset) : HttpResponse :=
  match methodRefused r with
  | some refused => refused
  | none => h.serveFile [] r asset

def sessionPath : Bytes := ascii ['/', 's', '/']

/-- The header of the session's page. -/
def sessionHeader : List (String × String) :=
  setHeader (setHeader (setHeader [] "Cache-Control" "no-store") "Content-Security-Policy"
    ("default-src 'self'; connect-src 'self' ws: wss:; img-src 'self'; script-src 'self'; " ++
      "style-src 'self'; base-uri 'none'; frame-ancestors 'none'; form-action 'none'"))
    "Referrer-Policy" "no-referrer"

def sessionAsset : SenderWebAsset := ⟨"index.html", "text/html; charset=utf-8", "no-store"⟩

def serveSessionPage (r : HttpRequest) : HttpResponse :=
  match methodRefused r with
  | some refused => refused
  | none =>
    match pathSessionId (trimSuffix r.path [slash]) sessionPath with
    | none => notFound
    | some _ => h.serveFile sessionHeader r sessionAsset

/-- `ServeHTTP`. -/
def serveHttp (r : HttpRequest) : HttpResponse :=
  if sessionPath.isPrefixOf r.path then h.serveSessionPage r
  else
    match senderWebAssets.find? fun asset => asset.1.toUTF8.toList == r.path with
    | some asset => h.serveAsset r asset.2
    | none => h.next r

/-- What is answered to a GET of a session. -/
def sessionPage : HttpResponse := h.serveFile sessionHeader ⟨"GET", []⟩ sessionAsset

/-- A GET of the path is answered by `serveSessionPage` with the page. -/
def AnswersWithPage (path : Bytes) : Prop :=
  sessionPath <+: path ∧ h.serveHttp ⟨"GET", path⟩ = h.sessionPage

/-- The page is there, and so is every other required file. -/
theorem exists_file {path : String} (hrequired : path ∈ requiredFiles) :
    ∃ data, h.files path = .ok (.file data) := by
  have herror := List.findSome?_eq_none_iff.mp h.checked path hrequired
  unfold assetError at herror
  split at herror
  · cases herror
  · cases herror
  · rename_i data hfile
    exact ⟨data, hfile⟩

theorem sessionPage_status : h.sessionPage.status = 200 := by
  have hrequired : "index.html" ∈ requiredFiles := List.mem_cons_self ..
  obtain ⟨data, hfile⟩ := h.exists_file hrequired
  simp [sessionPage, serveFile, sessionAsset, hfile]

/-- The paths of a session: its identifier, and at most one slash after it. -/
theorem isSome_pathSessionId_trimSuffix {path front : Bytes} :
    (pathSessionId (trimSuffix path [slash]) front).isSome = true ↔
      ∃ id, validLowerHex id publicSessionHexChars = true ∧
        (path = front ++ id ∨ path = front ++ id ++ [slash]) := by
  rw [Option.isSome_iff_exists]
  refine exists_congr fun id => ?_
  rw [pathSessionId_eq_some_iff, and_comm]
  refine and_congr_right fun hvalid => ?_
  have hnot : ¬[slash] <:+ front ++ id := by
    intro hsuffix
    have hlength : 0 < id.length := by
      rw [validLowerHex_eq, Bool.and_eq_true, beq_iff_eq] at hvalid
      rw [hvalid.1]
      decide
    have hslash : [slash] <:+ id := List.suffix_of_suffix_length_le hsuffix
      (List.suffix_append _ _) hlength
    exact slash_not_mem_of_validLowerHex hvalid (hslash.subset (List.mem_singleton_self _))
  by_cases hsuffix : [slash] <:+ path
  · obtain ⟨kept, rfl⟩ := hsuffix
    rw [trimSuffix_append, List.append_left_inj]
    exact ⟨.inr, fun hpath => hpath.resolve_left fun hsame => hnot ⟨kept, hsame⟩⟩
  · rw [trimSuffix_of_not_suffix hsuffix]
    exact ⟨.inl, fun hpath => hpath.resolve_right fun hsame => hsuffix ⟨_, hsame.symm⟩⟩

/-- A path without an identifier is not answered with the page. -/
theorem answersWithPage_iff_pathSessionId {path : Bytes} :
    h.AnswersWithPage path ↔ sessionPath <+: path ∧
      (pathSessionId (trimSuffix path [slash]) sessionPath).isSome = true := by
  refine and_congr_right fun hpath => ?_
  have hpath' : sessionPath.isPrefixOf path = true := List.isPrefixOf_iff_prefix.mpr hpath
  simp only [serveHttp, hpath', if_true, serveSessionPage, methodRefused, true_or]
  cases hread : pathSessionId (trimSuffix path [slash]) sessionPath with
  | some id => exact iff_of_true rfl rfl
  | none =>
      refine iff_of_false (fun hsame => ?_) Bool.false_ne_true
      have hstatus := h.sessionPage_status
      rw [← hsame] at hstatus
      cases hstatus

end SenderWebHandler

end PrintDrop.Relay
