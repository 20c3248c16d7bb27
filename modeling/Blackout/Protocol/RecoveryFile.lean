import Blackout.Protocol.Agreement

/-!
# Recovery files (`release/recoveryFile.ts`)

A device's key sets and comparisons, encrypted under a passphrase. Contents are JSON values; a file
is a text. The salt, the nonce and what the key checks draw are arguments.
-/

namespace Blackout.Protocol

open Json Utf16 List

def RECOVERY_FILE_FORMAT : String := "blackout-release-recovery"
def RECOVERY_AAD_LABEL : String := "blackout-release-recovery-v1"
def RECOVERY_AEAD_ALG : String := "AES-256-GCM"
def RECOVERY_NONCE_BYTES : Nat := 12
def RECOVERY_PASSPHRASE_MIN_LENGTH : Nat := 12
def RECOVERY_PASSPHRASE_MAX_LENGTH : Nat := 1024
def MAX_PADDED_BYTES : Nat := BUCKETS.getD 3 0
def MAX_KEY_SETS : Nat := 64
def MAX_COMPARISONS : Nat := 2000

structure RecoveryKdf where
  alg : String
  version : Nat
  memoryKiB : Nat
  iterations : Nat
  parallelism : Nat
  saltBytes : Nat
  keyBytes : Nat

def RECOVERY_KDF : RecoveryKdf where
  alg := "argon2id"
  version := 0x13
  memoryKiB := 65536
  iterations := 3
  parallelism := 4
  saltBytes := 16
  keyBytes := 32

inductive ReleaseRecoveryErrorCode
  | passphraseLength
  | malformed
  | unsupported
  | wrongPassphraseOrDamaged
  | contents
  | otherAccount
  | tooLarge
  deriving DecidableEq, Repr

/-- A `ReleaseRecoveryError`, or what another call throws. -/
inductive RecoveryFailure
  | recovery (code : ReleaseRecoveryErrorCode) (message : String)
  | other (failure : Failure)
  deriving DecidableEq, Repr

abbrev fail {α : Type} (code : ReleaseRecoveryErrorCode) (message : String) : Except RecoveryFailure α :=
  .error (.recovery code message)

def others {α : Type} : Except Failure α → Except RecoveryFailure α
  | .ok a => .ok a
  | .error failure => .error (.other failure)

structure RecoveryPlatform extends Platform where
  nfc (value : JsString) : JsString
  argon2id (password salt : Bytes) : Bytes
  length_argon2id : ∀ password salt, (argon2id password salt).length = RECOVERY_KDF.keyBytes

variable {p : RecoveryPlatform} {passphrase a b c : JsString} {bytes : Bytes}

/-! ## The passphrase -/

def encodeRecoveryPassphrase (p : RecoveryPlatform) (passphrase : JsString) (minLength : Nat) :
    Except RecoveryFailure Bytes :=
  let normalised := p.nfc passphrase
  let characters := (points normalised).length
  if characters < minLength ∨ characters > RECOVERY_PASSPHRASE_MAX_LENGTH then
    fail .passphraseLength
      s!"A recovery passphrase has {minLength} to {RECOVERY_PASSPHRASE_MAX_LENGTH} characters."
  else .ok (utf8Encode normalised)

def deriveRecoveryKey (p : RecoveryPlatform) (passphrase : JsString) (salt : Bytes) :
    Except RecoveryFailure Bytes :=
  if salt.length ≠ RECOVERY_KDF.saltBytes then
    fail .malformed "The recovery file salt has the wrong length."
  else do
    let password ← encodeRecoveryPassphrase p passphrase 1
    return p.argon2id password salt

def u32be (value : Nat) : Bytes :=
  [UInt8.ofNat (value / 16777216), UInt8.ofNat (value / 65536), UInt8.ofNat (value / 256), UInt8.ofNat value]

def recoveryAssociatedData (salt nonce : Bytes) : Bytes :=
  labelBytes RECOVERY_AAD_LABEL ++ (u32be RECOVERY_KDF.version ++ (u32be RECOVERY_KDF.memoryKiB ++
    (u32be RECOVERY_KDF.iterations ++ (u32be RECOVERY_KDF.parallelism ++ (salt ++ nonce)))))

/-! ## The shape of contents -/

def CONTENTS_FIELDS : List String := ["v", "accountId", "savedAt", "keySets", "comparisons"]

def KEY_SET_FIELDS : List String :=
  ["identity", "fingerprint", "signingPrivateJwk", "x25519PrivateJwk", "mlkem768SecretKey",
    "createdAt", "status"]

def JWK_MEMBERS : List String := ["kty", "crv", "d", "x"]

def COMPARISON_FIELDS : List String := ["accountId", "matrixId", "fingerprint", "ownFingerprint", "comparedAt"]

section
variable {ν : Type}

def isRecord : Option (Json ν) → Bool
  | some (.obj _) => true
  | _ => false

def isIsoTime (p : Platform) (value : Option JsString) : Bool :=
  value.any fun time => time.length ≤ 64 && p.dateParses time

inductive ReleaseKeySetStatus
  | current
  | superseded
  deriving DecidableEq

def keySetStatus (keySet : Json ν) : Option ReleaseKeySetStatus :=
  if keySet.strField "status" = some (jsString "current") then some .current
  else if keySet.strField "status" = some (jsString "superseded") then some .superseded
  else none

def keySetShape (keySet : Json ν) : Bool :=
  keySet.hasExactly KEY_SET_FIELDS &&
    ((keySet.field "signingPrivateJwk").any fun jwk => jwk.hasExactly JWK_MEMBERS) &&
    ((keySet.field "x25519PrivateJwk").any fun jwk => jwk.hasExactly JWK_MEMBERS)

abbrev bad {α : Type} (why : String) : Except RecoveryFailure α := fail .contents s!"The recovery file {why}."

def countCurrent : List (Json ν) → Nat → Except RecoveryFailure Nat
  | [], current => .ok current
  | keySet :: rest, current =>
    if !keySetShape keySet then bad "holds a damaged key set"
    else
      match keySetStatus keySet with
      | none => bad "holds a key set with no status"
      | some .current => countCurrent rest (current + 1)
      | some .superseded => countCurrent rest current

def matrixIdShape : Option (Json ν) → Bool
  | some .null => true
  | some (.str value) => value.length ≤ 255
  | _ => false

def comparisonShape (p : Platform) (comparison : Json ν) : Bool :=
  comparison.hasExactly COMPARISON_FIELDS &&
    (comparison.strField "accountId").any releaseAccountIdPattern &&
    matrixIdShape (comparison.field "matrixId") &&
    (comparison.strField "fingerprint").any isFingerprint &&
    (comparison.strField "ownFingerprint").any isFingerprint &&
    isIsoTime p (comparison.strField "comparedAt")

variable [DecidableEq ν] [One ν]

def assertComparisons (p : Platform) (value : Json ν) : Except RecoveryFailure (Json ν) :=
  match value.field "comparisons" with
  | some (.arr comparisons) =>
    if comparisons.length > MAX_COMPARISONS then bad "holds a damaged list of comparisons"
    else if !comparisons.all (comparisonShape p) then bad "holds a damaged comparison"
    else .ok value
  | _ => bad "holds a damaged list of comparisons"

/-- The check on writing and on reading. -/
def assertContentsShape (p : Platform) (value : Json ν) : Except RecoveryFailure (Json ν) :=
  if !isRecord (some value) then bad "holds no release keys"
  else if !value.hasExactly CONTENTS_FIELDS then bad "holds unexpected fields"
  else if !isOne (value.field "v") then bad "has an unknown contents version"
  else if !(value.strField "accountId").any releaseAccountIdPattern then bad "names no valid account"
  else if !isIsoTime p (value.strField "savedAt") then bad "has no valid save time"
  else
    match value.field "keySets" with
    | some (.arr keySets) =>
      if keySets.length = 0 ∨ keySets.length > MAX_KEY_SETS then bad "holds no usable key sets"
      else do
        let current ← countCurrent keySets 0
        if current ≠ 1 then bad "does not hold exactly one current key set"
        else assertComparisons p value
    | _ => bad "holds no usable key sets"

end

/-! ## The file -/

/-- The salt, the nonce and the ciphertext of a file. -/
structure ParsedRecoveryFile where
  salt : Bytes
  nonce : Bytes
  ciphertext : Bytes
  deriving DecidableEq

/-- `Math.ceil(((MAX_PADDED_BYTES + GCM_TAG_BYTES) * 4) / 3) + 4096` -/
def maxChars : Nat := ((MAX_PADDED_BYTES + GCM_TAG_BYTES) * 4 + 2) / 3 + 4096

def textLength (text : List Char) : Nat := (text.flatMap ofChar).length

section
variable {ν : Type} [DecidableEq ν] [One ν] [NatCast ν]

/-- `value[name] === n` -/
def isNat (value : Json ν) (name : String) (n : Nat) : Bool :=
  match value.field name with
  | some (.num m) => m = (n : ν)
  | _ => false

def isText (value : Json ν) (name text : String) : Bool := value.strField name = some (jsString text)

def kdfIsSupported (kdf : Json ν) : Bool :=
  isText kdf "alg" RECOVERY_KDF.alg && isNat kdf "version" RECOVERY_KDF.version &&
    isNat kdf "memoryKiB" RECOVERY_KDF.memoryKiB && isNat kdf "iterations" RECOVERY_KDF.iterations &&
    isNat kdf "parallelism" RECOVERY_KDF.parallelism

def readFileBytes (header kdf aead : Json ν) : Except RecoveryFailure ParsedRecoveryFile :=
  match (kdf.strField "salt").bind fun v => decodeCanonicalBase64 v (some RECOVERY_KDF.saltBytes),
    (aead.strField "nonce").bind fun v => decodeCanonicalBase64 v (some RECOVERY_NONCE_BYTES),
    (header.strField "ciphertext").bind fun v => decodeCanonicalBase64 v none with
  | some salt, some nonce, some ciphertext =>
    if ciphertext.length > MAX_PADDED_BYTES + GCM_TAG_BYTES ∨
      !isBucketSize (ciphertext.length - GCM_TAG_BYTES) then
      fail .malformed "This recovery file is damaged or incomplete."
    else .ok { salt, nonce, ciphertext }
  | _, _, _ => fail .malformed "This recovery file is damaged or incomplete."

def HEADER_FILE_FIELDS : List String := ["format", "v", "kdf", "aead", "ciphertext"]

def KDF_FIELDS : List String := ["alg", "version", "memoryKiB", "iterations", "parallelism", "salt"]

def AEAD_FIELDS : List String := ["alg", "nonce"]

def readFileHeader (header : Json ν) : Except RecoveryFailure ParsedRecoveryFile :=
  if !isText header "format" RECOVERY_FILE_FORMAT then
    fail .malformed "This is not a Blackout recovery file."
  else if !isOne (header.field "v") then
    fail .unsupported "This recovery file is from another version of Blackout."
  else
    match header.field "kdf", header.field "aead" with
    | some kdf, some aead =>
      if !header.hasExactly HEADER_FILE_FIELDS || !kdf.hasExactly KDF_FIELDS ||
          !aead.hasExactly AEAD_FIELDS then
        fail .malformed "This recovery file is damaged."
      else if !kdfIsSupported kdf || !isText aead "alg" RECOVERY_AEAD_ALG then
        fail .unsupported "This recovery file uses settings this version does not read."
      else readFileBytes header kdf aead
    | _, _ => fail .malformed "This recovery file is damaged."

variable [JsonNumber ν]

/-- The header of a file's text, within the limits. -/
def parseRecoveryFile (ν : Type) [DecidableEq ν] [One ν] [NatCast ν] [JsonNumber ν]
    (text : List Char) : Except RecoveryFailure ParsedRecoveryFile :=
  if textLength text = 0 ∨ textLength text > maxChars then
    fail .malformed "This is not a Blackout recovery file."
  else
    match (parse text : Option (Json ν)) with
    | none => fail .malformed "This is not a Blackout recovery file, or it is damaged."
    | some header => readFileHeader header

def fileKdf (salt : Bytes) : Json ν := .obj [(jsString "alg", .str (jsString RECOVERY_KDF.alg)),
    (jsString "version", .num RECOVERY_KDF.version),
    (jsString "memoryKiB", .num RECOVERY_KDF.memoryKiB),
    (jsString "iterations", .num RECOVERY_KDF.iterations),
    (jsString "parallelism", .num RECOVERY_KDF.parallelism), (jsString "salt", .str (toBase64 salt))]

def fileAead (nonce : Bytes) : Json ν :=
  .obj [(jsString "alg", .str (jsString RECOVERY_AEAD_ALG)), (jsString "nonce", .str (toBase64 nonce))]

def fileHeader (salt nonce ciphertext : Bytes) : Json ν :=
  .obj [(jsString "format", .str (jsString RECOVERY_FILE_FORMAT)), (jsString "v", .num 1),
    (jsString "kdf", fileKdf salt), (jsString "aead", fileAead nonce),
    (jsString "ciphertext", .str (toBase64 ciphertext))]

/-- `${JSON.stringify(header, null, 2)}\n` -/
def fileText (ν : Type) [One ν] [NatCast ν] [JsonNumber ν] (salt nonce ciphertext : Bytes) : List Char :=
  print .indented 0 (fileHeader salt nonce ciphertext : Json ν) ++ ['\n']

def readContents (padded : Bytes) : Option (Json ν) :=
  match unpad padded with
  | .error _ => none
  | .ok plaintext => parse (Utf8.lossy plaintext)

def openRecoveryFile (p : Platform) (parsed : ParsedRecoveryFile) (key : Bytes) :
    Except RecoveryFailure (Json ν) := do
  let aesKey ← others (importAesGcmKey key)
  match p.aes.decrypt aesKey parsed.nonce (recoveryAssociatedData parsed.salt parsed.nonce)
    parsed.ciphertext with
  | none =>
    fail .wrongPassphraseOrDamaged "The passphrase is wrong, or the file was changed or damaged."
  | some padded =>
    match (readContents padded : Option (Json ν)) with
    | none => fail .contents "The recovery file opened, but what it holds is damaged."
    | some contents => assertContentsShape p contents

def sealRecoveryFile (p : Platform) (contents : Json ν) (key salt nonce : Bytes) :
    Except RecoveryFailure (List Char) := do
  let _ ← assertContentsShape p contents
  if salt.length ≠ RECOVERY_KDF.saltBytes ∨ nonce.length ≠ RECOVERY_NONCE_BYTES then
    .error (.other (.error "recovery file: wrong salt or nonce length"))
  else
    let plaintext := Utf8.encode (print .compact 0 contents)
    if plaintext.length + GCM_TAG_BYTES > MAX_PADDED_BYTES then
      fail .tooLarge "There is too much to fit in one recovery file."
    else do
      let (padded, _) ← others (thrown (pad plaintext .bucket))
      let aesKey ← others (importAesGcmKey key)
      return fileText ν salt nonce
        (p.aes.encrypt aesKey nonce (recoveryAssociatedData salt nonce) padded)

/-- Checks the shape of contents and seals them. -/
def writeRecoveryFile (p : RecoveryPlatform) (contents : Json ν) (passphrase : JsString)
    (salt nonce : Bytes) : Except RecoveryFailure (List Char) := do
  let _ ← encodeRecoveryPassphrase p passphrase RECOVERY_PASSPHRASE_MIN_LENGTH
  let _ ← assertContentsShape p.toPlatform contents
  let key ← deriveRecoveryKey p passphrase salt
  sealRecoveryFile p.toPlatform contents key salt nonce

/-! ## Reading -/

def keySetFailure : Refusal ReleaseKeySetProblem → RecoveryFailure
  | .threw failure => .other failure
  | .returned .kemProvider => .other (.error "release keys: no ML-KEM-768 provider is configured")
  | .returned problem =>
    .recovery .contents s!"The keys in this recovery file do not fit together ({problem.name})."

def keySets (contents : Json ν) : List (Json ν) :=
  match contents.field "keySets" with
  | some (.arr keySets) => keySets
  | _ => []

def checkKeySets (p : Platform) (account : Option JsString) :
    List (Json ν) → (Nat → KeyCheckRandom) → Except RecoveryFailure Unit
  | [], _ => .ok ()
  | keySet :: rest, r =>
    match checkReleaseKeySet p keySet account (r 0) with
    | .error refusal => .error (keySetFailure refusal)
    | .ok () => checkKeySets p account rest fun i => r (i + 1)

def checkRecoveryContents (p : Platform) (contents : Json ν) (account : Option JsString)
    (r : Nat → KeyCheckRandom) : Except RecoveryFailure Unit := do
  let contents ← assertContentsShape p contents
  if account.isSome ∧ contents.strField "accountId" ≠ account then
    fail .otherAccount "This recovery file holds another account’s release keys."
  else checkKeySets p (contents.strField "accountId") (keySets contents) r

/-- Opens a file and checks its key sets. -/
def readRecoveryFile (p : RecoveryPlatform) (text : List Char) (passphrase : JsString)
    (account : Option JsString) (r : Nat → KeyCheckRandom) : Except RecoveryFailure (Json ν) := do
  let parsed ← parseRecoveryFile ν text
  let key ← deriveRecoveryKey p passphrase parsed.salt
  let contents ← openRecoveryFile p.toPlatform parsed key
  checkRecoveryContents p.toPlatform contents account r
  return contents

end

/-! ## What is accepted -/

theorem others_eq_ok {α : Type} {x : Except Failure α} {a : α} : others x = .ok a ↔ x = .ok a := by
  cases x with
  | ok b => exact ok_iff_ok
  | error e => exact ⟨nofun, nofun⟩

def LongEnough (p : RecoveryPlatform) (passphrase : JsString) (minLength : Nat) : Prop :=
  minLength ≤ (points (p.nfc passphrase)).length ∧
    (points (p.nfc passphrase)).length ≤ RECOVERY_PASSPHRASE_MAX_LENGTH

theorem encodeRecoveryPassphrase_eq_ok {minLength : Nat} :
    encodeRecoveryPassphrase p passphrase minLength = .ok bytes ↔
      LongEnough p passphrase minLength ∧ bytes = utf8Encode (p.nfc passphrase) := by
  rw [encodeRecoveryPassphrase, guard_eq_ok]
  refine and_congr ?_ ok_eq_iff
  rw [not_or, Nat.not_lt, Nat.not_lt, LongEnough]

theorem deriveRecoveryKey_eq_ok {salt key : Bytes} :
    deriveRecoveryKey p passphrase salt = .ok key ↔ salt.length = RECOVERY_KDF.saltBytes ∧
      LongEnough p passphrase 1 ∧ key = p.argon2id (utf8Encode (p.nfc passphrase)) salt := by
  rw [deriveRecoveryKey, guard_eq_ok]
  refine and_congr Decidable.not_not ?_
  simp only [bind_eq_ok, encodeRecoveryPassphrase_eq_ok]
  constructor
  · rintro ⟨_, ⟨hlength, rfl⟩, h⟩
    cases h
    exact ⟨hlength, rfl⟩
  · rintro ⟨hlength, rfl⟩
    exact ⟨_, ⟨hlength, rfl⟩, rfl⟩

section
variable {ν : Type} {v : Json ν} {p : Platform} {w : Json ν}

theorem countCurrent_eq_ok {items : List (Json ν)} {n m : Nat} : countCurrent items n = .ok m ↔
      (∀ k ∈ items, keySetShape k = true ∧ ∃ status, keySetStatus k = some status) ∧
        m = n + (items.filter fun k => keySetStatus k = some .current).length := by
  induction items generalizing n with
  | nil =>
    exact ok_eq_iff.trans (and_iff_right nofun).symm
  | cons k rest ih =>
    rw [countCurrent, guard_eq_ok, not_true_iff, forall_mem_cons, and_assoc, and_assoc]
    refine and_congr_right fun _ => ?_
    cases hstatus : keySetStatus k with
    | none => exact ⟨nofun, fun h => nomatch h.1⟩
    | some status =>
      cases status with
      | current =>
        have hone (l : Nat) : n + 1 + l = n + (l + 1) := by omega
        simp [ih, hstatus, hone]
      | superseded => simp [ih, hstatus]

theorem isRecord_of_hasExactly {names : List String} (h : v.hasExactly names = true) :
    isRecord (some v) = true := by
  cases v with
  | obj fields => rfl
  | _ => cases h

theorem assertComparisons_eq_ok : assertComparisons p v = .ok w ↔ w = v ∧
      ∃ items, v.field "comparisons" = some (.arr items) ∧ items.length ≤ MAX_COMPARISONS ∧
        ∀ c ∈ items, comparisonShape p c = true := by
  constructor
  · intro h
    unfold assertComparisons at h
    split at h
    next items hitems =>
      obtain ⟨hlength, h⟩ := guard_eq_ok.mp h
      obtain ⟨hall, h⟩ := guard_eq_ok.mp h
      cases h
      exact ⟨rfl, items, hitems, Nat.not_lt.mp hlength, all_eq_true.mp (not_true_iff.mp hall)⟩
    next => cases h
  · rintro ⟨rfl, items, hitems, hlength, hall⟩
    simp [assertComparisons, hitems, if_neg (Nat.not_lt.mpr hlength), all_eq_true.mpr hall,
      Bool.not_true, Bool.false_eq_true]

variable [DecidableEq ν] [One ν]

structure ContentsShape (p : Platform) (v : Json ν) : Prop where
  fields : v.hasExactly CONTENTS_FIELDS = true
  version : v.field "v" = some (.num 1)
  account : (v.strField "accountId").any releaseAccountIdPattern = true
  savedAt : isIsoTime p (v.strField "savedAt") = true
  keySets : ∃ items, v.field "keySets" = some (.arr items) ∧ 1 ≤ items.length ∧ items.length ≤ MAX_KEY_SETS ∧
    (∀ k ∈ items, keySetShape k = true ∧ ∃ status, keySetStatus k = some status) ∧
    (items.filter fun k => keySetStatus k = some .current).length = 1
  comparisons : ∃ items, v.field "comparisons" = some (.arr items) ∧
    items.length ≤ MAX_COMPARISONS ∧ ∀ c ∈ items, comparisonShape p c = true

/-- The shape that is checked on writing and on reading. -/
theorem assertContentsShape_eq_ok :
    assertContentsShape p v = .ok w ↔ w = v ∧ ContentsShape p v := by
  rw [assertContentsShape]
  simp only [guard_eq_ok, not_true_iff, isOne_iff]
  constructor
  · rintro ⟨-, hfields, hversion, haccount, hsaved, h⟩
    split at h
    next items hitems =>
      simp only [guard_eq_ok, bind_eq_ok, countCurrent_eq_ok, assertComparisons_eq_ok] at h
      obtain ⟨hlength, current, ⟨hall, rfl⟩, hone, rfl, hcomparisons⟩ := h
      rw [not_or, Nat.not_lt] at hlength
      exact ⟨rfl, hfields, hversion, haccount, hsaved,
        ⟨items, hitems, Nat.pos_of_ne_zero hlength.1, hlength.2, hall, by omega⟩, hcomparisons⟩
    next => cases h
  · rintro ⟨rfl, hfields, hversion, haccount, hsaved, ⟨items, hitems, hpos, hmax, hall, hone⟩, hcomparisons⟩
    refine ⟨isRecord_of_hasExactly hfields, hfields, hversion, haccount, hsaved, ?_⟩
    simp only [hitems, guard_eq_ok, bind_eq_ok, countCurrent_eq_ok, assertComparisons_eq_ok]
    exact ⟨by omega, 1, ⟨hall, by omega⟩, by omega, trivial, hcomparisons⟩

end

/-! ## The text of a file -/

theorem isPlain_toBase64 : ∀ u ∈ toBase64 bytes, isPlain u = true := by
  have std : ∀ n < 64, isPlain (stdUnit n) = true := by decide +kernel
  rw [toBase64_eq]
  refine forall_mem_append.mpr ⟨forall_mem_map.mpr fun n hn => std n (Base64.sextets_lt bytes n hn),
    fun u hu => ?_⟩
  rw [eq_of_mem_replicate hu]
  rfl

theorem isPlain_toHex : ∀ u ∈ toHex bytes, isPlain u = true := by
  intro u hu
  have hhex := all_eq_true.mp toHex_isHex u hu
  simp only [isHexUnit, Bool.or_eq_true, Bool.and_eq_true, decide_eq_true_eq] at hhex
  simp only [isPlain, Bool.and_eq_true, decide_eq_true_eq]
  omega

theorem textLength_append (a b : List Char) : textLength (a ++ b) = textLength a + textLength b := by
  rw [textLength, flatMap_append, length_append]
  rfl

theorem textLength_cons (c : Char) (rest : List Char) :
    textLength (c :: rest) = (ofChar c).length + textLength rest := by
  rw [textLength, flatMap_cons, length_append]
  rfl

theorem textLength_quote : textLength (quote (toBase64 bytes)) = base64Length bytes.length + 2 := by
  rw [textLength, (length_quote_plain isPlain_toBase64).1, length_toBase64]

section
variable {ν : Type} [One ν] [NatCast ν] [JsonNumber ν] {salt nonce ciphertext : Bytes}

theorem textLength_fileText [JsonNatural ν] (salt nonce ciphertext : Bytes) :
    textLength (fileText ν salt nonce ciphertext) = textLength (fileText Int [] [] []) +
      base64Length salt.length + base64Length nonce.length + base64Length ciphertext.length := by
  have number (μ : Type) [One μ] [NatCast μ] [JsonNumber μ] [JsonNatural μ] {n : Nat}
      h : JsonNumber.print (n : μ) = Nat.toDigits 10 n := JsonNatural.print_natCast n h
  have one (μ : Type) [One μ] [NatCast μ] [JsonNumber μ] [JsonNatural μ] :
      JsonNumber.print (1 : μ) = Nat.toDigits 10 1 := by
    rw [← JsonNatural.natCast_one]
    exact JsonNatural.print_natCast 1 (by decide)
  simp (disch := decide) only [fileText, fileHeader, fileKdf, fileAead, print, printFields,
    number, one, textLength_cons, textLength_append, textLength_quote]
  have hnil : base64Length ([] : Bytes).length = 0 := rfl
  omega

theorem textLength_empty : 0 < textLength (fileText Int [] [] []) ∧
    textLength (fileText Int [] [] []) < 1000 := by decide +kernel

omit [JsonNumber ν] in
theorem fileHeader_distinct : Distinct (fileHeader salt nonce ciphertext : Json ν) := by
  simp only [fileHeader, fileKdf, fileAead, Distinct, DistinctFields, map_cons, map_nil, and_true, true_and]
  exact ⟨by decide, by decide, by decide⟩

variable [DecidableEq ν]

omit [JsonNumber ν] in
theorem readFileHeader_fileHeader
    (hsalt : salt.length = RECOVERY_KDF.saltBytes) (hnonce : nonce.length = RECOVERY_NONCE_BYTES)
    (hmax : ciphertext.length ≤ MAX_PADDED_BYTES + GCM_TAG_BYTES)
    (hbucket : isBucketSize (ciphertext.length - GCM_TAG_BYTES) = true) :
    readFileHeader (fileHeader salt nonce ciphertext : Json ν) = .ok ⟨salt, nonce, ciphertext⟩ := by
  have hkdf : (fileHeader salt nonce ciphertext : Json ν).field "kdf" = some (fileKdf salt) := rfl
  have haead : (fileHeader salt nonce ciphertext : Json ν).field "aead" = some (fileAead nonce) := rfl
  have hv : (fileHeader salt nonce ciphertext : Json ν).field "v" = some (.num 1) := rfl
  have hsupported : kdfIsSupported (fileKdf salt : Json ν) = true := by
    have hnat (name : String) (n : Nat) (h : (fileKdf salt : Json ν).field name = some (.num n)) :
        isNat (fileKdf salt : Json ν) name n = true := by
      rw [isNat, h]
      exact decide_eq_true rfl
    have halg : isText (fileKdf salt : Json ν) "alg" RECOVERY_KDF.alg = true := decide_eq_true rfl
    rw [kdfIsSupported, halg, hnat "version" _ rfl, hnat "memoryKiB" _ rfl, hnat "iterations" _ rfl,
      hnat "parallelism" _ rfl]
    rfl
  have hformat : isText (fileHeader salt nonce ciphertext : Json ν) "format" RECOVERY_FILE_FORMAT =
    true := decide_eq_true rfl
  have hcipher : isText (fileAead nonce : Json ν) "alg" RECOVERY_AEAD_ALG = true := decide_eq_true rfl
  have hbytes : readFileBytes (fileHeader salt nonce ciphertext : Json ν) (fileKdf salt)
      (fileAead nonce) = .ok ⟨salt, nonce, ciphertext⟩ := by
    have hs : (fileKdf salt : Json ν).strField "salt" = some (toBase64 salt) := rfl
    have hn : (fileAead nonce : Json ν).strField "nonce" = some (toBase64 nonce) := rfl
    have hc : (fileHeader salt nonce ciphertext : Json ν).strField "ciphertext" =
        some (toBase64 ciphertext) := rfl
    have hdecode : decodeCanonicalBase64 (toBase64 ciphertext) none = some ciphertext := by
      refine decodeCanonicalBase64_eq_some.mpr ⟨rfl, ?_, nofun⟩
      rintro rfl
      exact absurd hbucket (by decide)
    simp only [readFileBytes, hs, hn, hc, Option.bind_some, hdecode,
      decodeCanonicalBase64_toBase64 hsalt (by decide),
      decodeCanonicalBase64_toBase64 hnonce (by decide)]
    rw [if_neg (by rw [hbucket]; simpa using hmax)]
  rw [readFileHeader, hformat, isOne_iff.mpr hv, hkdf, haead]
  simp only [hsupported, hcipher, hbytes]
  rfl

/-- A header that was written is read, within the limits. -/
theorem parseRecoveryFile_fileText [JsonNatural ν]
    (hsalt : salt.length = RECOVERY_KDF.saltBytes) (hnonce : nonce.length = RECOVERY_NONCE_BYTES)
    (hmax : ciphertext.length ≤ MAX_PADDED_BYTES + GCM_TAG_BYTES)
    (hbucket : isBucketSize (ciphertext.length - GCM_TAG_BYTES) = true) :
    parseRecoveryFile ν (fileText ν salt nonce ciphertext) = .ok ⟨salt, nonce, ciphertext⟩ := by
  have hlength := textLength_fileText (ν := ν) salt nonce ciphertext
  obtain ⟨-, hsmall⟩ := textLength_empty
  have hlimits : ¬(textLength (fileText ν salt nonce ciphertext) = 0 ∨
      textLength (fileText ν salt nonce ciphertext) > maxChars) := by
    have hbound : MAX_PADDED_BYTES = 1048576 := rfl
    have hlimit : maxChars = 1402219 := by decide
    rw [hbound, GCM_TAG_BYTES] at hmax
    rw [hsalt, hnonce] at hlength
    simp only [base64Length, RECOVERY_KDF, RECOVERY_NONCE_BYTES] at hlength
    omega
  have hend : ∀ c ∈ ['\n'], isWs c = true := fun c hc => mem_singleton.mp hc ▸ rfl
  have hparse : parse (fileText ν salt nonce ciphertext) = some (fileHeader salt nonce ciphertext) :=
    parse_print .indented _ fileHeader_distinct hend
  rw [parseRecoveryFile, if_neg hlimits, hparse]
  exact readFileHeader_fileHeader hsalt hnonce hmax hbucket

end

/-! ## The key sets -/

section
variable {ν : Type} [One ν] [DecidableEq ν]
  {p : Platform} {account : Option JsString} {items : List (Json ν)} {r : Nat → KeyCheckRandom}

theorem checkKeySets_cases : (checkKeySets p account items r = .ok () ∧
      ∀ i k, items[i]? = some k → checkReleaseKeySet p k account (r i) = .ok ()) ∨
    ∃ i k refusal, items[i]? = some k ∧ checkReleaseKeySet p k account (r i) = .error refusal ∧
      checkKeySets p account items r = .error (keySetFailure refusal) := by
  induction items generalizing r with
  | nil => exact .inl ⟨rfl, fun i k h => (nomatch h)⟩
  | cons k rest ih =>
    rw [checkKeySets]
    cases hk : checkReleaseKeySet p k account (r 0) with
    | error refusal => exact .inr ⟨0, k, refusal, rfl, hk, rfl⟩
    | ok _ =>
      refine ih.imp (fun ⟨hok, hall⟩ => ⟨hok, fun i k' hi => ?_⟩) fun ⟨i, h⟩ => ⟨i + 1, h⟩
      cases i with
      | zero =>
        obtain rfl := Option.some.inj hi
        exact hk
      | succ i => exact hall i k' hi

end

/-! ## Sealing and opening -/

section
variable {ν : Type} [One ν] [NatCast ν] [JsonNumber ν] [DecidableEq ν]
  {contents : Json ν} {salt nonce : Bytes} {text : List Char}
  {p : Platform} {key : Bytes} {passphrase : JsString}

theorem sealRecoveryFile_eq_ok (hkey : key.length = 32) :
    sealRecoveryFile p contents key salt nonce = .ok text ↔
      ContentsShape p contents ∧ salt.length = RECOVERY_KDF.saltBytes ∧ nonce.length = RECOVERY_NONCE_BYTES ∧
      (Utf8.encode (print .compact 0 contents)).length + GCM_TAG_BYTES ≤ MAX_PADDED_BYTES ∧
      ∃ bucket, selectBucket (Utf8.encode (print .compact 0 contents)).length = .ok bucket ∧
        text = fileText ν salt nonce (p.aes.encrypt key nonce (recoveryAssociatedData salt nonce)
          (padded (Utf8.encode (print .compact 0 contents)) bucket)) := by
  simp only [sealRecoveryFile, bind_eq_ok, assertContentsShape_eq_ok, guard_eq_ok, others_eq_ok,
    thrown_eq_ok, not_or, ne_eq, Decidable.not_not, Nat.not_lt, importAesGcmKey_ok hkey]
  constructor
  · rintro ⟨_, ⟨-, hshape⟩, ⟨hsalt, hnonce⟩, hsize, ⟨bytes, bucket⟩, hpad, _, hkey', h⟩
    obtain ⟨hbucket, rfl⟩ := pad_bucket_eq_ok.mp hpad
    cases hkey'
    cases h
    exact ⟨hshape, hsalt, hnonce, hsize, bucket, hbucket, rfl⟩
  · rintro ⟨hshape, hsalt, hnonce, hsize, bucket, hbucket, rfl⟩
    exact ⟨_, ⟨rfl, hshape⟩, ⟨hsalt, hnonce⟩, hsize, _, pad_bucket_eq_ok.mpr ⟨hbucket, rfl⟩, _, rfl, rfl⟩

omit [One ν] [NatCast ν] [DecidableEq ν] in
theorem readContents_padded (distinct : Distinct contents) (bucket : Nat) :
    readContents (padded (Utf8.encode (print .compact 0 contents)) bucket) = some contents := by
  have hstart : Utf8.afterBom (print .compact 0 contents) = print .compact 0 contents := by
    obtain ⟨c, cs, hprint, hc⟩ := print_starts .compact 0 contents
    rw [Utf8.afterBom_eq_iff, hprint]
    intro h
    obtain rfl : c = '\uFEFF' := Option.some.inj h
    unfold Starts at hc
    exact absurd hc (by decide)
  have hparse : parse (print .compact 0 contents ++ []) = some contents :=
    parse_print .compact contents distinct nofun
  rw [append_nil] at hparse
  rw [readContents, unpad_padded]
  simp only [Utf8.lossy_encode, hstart, hparse]

/-- What was sealed opens to the same contents. -/
theorem openRecoveryFile_seal [JsonNatural ν]
    (distinct : Distinct contents) (hkey : key.length = 32)
    (h : sealRecoveryFile p contents key salt nonce = .ok text) :
    ∃ parsed, parseRecoveryFile ν text = .ok parsed ∧ parsed.salt = salt ∧
      openRecoveryFile p parsed key = .ok contents := by
  obtain ⟨hshape, hsalt, hnonce, hsize, bucket, hbucket, rfl⟩ := (sealRecoveryFile_eq_ok hkey).mp h
  obtain ⟨hmem, hroom⟩ := selectBucket_spec hbucket
  have hle : bucket ≤ MAX_PADDED_BYTES := selectBucket_le hbucket (by decide) hsize
  have hlength : (p.aes.encrypt key nonce (recoveryAssociatedData salt nonce)
      (padded (Utf8.encode (print .compact 0 contents)) bucket)).length = bucket + GCM_TAG_BYTES := by
    rw [p.aes.length_encrypt, length_padded (by omega)]
    rfl
  refine ⟨_, parseRecoveryFile_fileText hsalt hnonce ?_ ?_, rfl, ?_⟩
  · rw [hlength]
    exact Nat.add_le_add_right hle _
  · rw [hlength, Nat.add_sub_cancel, isBucketSize, contains_iff_mem]
    exact hmem
  · simp only [openRecoveryFile, bind_eq_ok, others_eq_ok, importAesGcmKey_ok hkey]
    refine ⟨key, rfl, ?_⟩
    simp only [p.aes.decrypt_encrypt, readContents_padded distinct]
    exact assertContentsShape_eq_ok.mpr ⟨rfl, hshape⟩

theorem writeRecoveryFile_eq_ok {p : RecoveryPlatform} :
    writeRecoveryFile p contents passphrase salt nonce = .ok text ↔
      LongEnough p passphrase RECOVERY_PASSPHRASE_MIN_LENGTH ∧
      sealRecoveryFile p.toPlatform contents (p.argon2id (utf8Encode (p.nfc passphrase)) salt) salt
        nonce = .ok text := by
  simp only [writeRecoveryFile, bind_eq_ok, encodeRecoveryPassphrase_eq_ok,
    assertContentsShape_eq_ok, deriveRecoveryKey_eq_ok]
  constructor
  · rintro ⟨_, ⟨hlength, -⟩, _, -, _, ⟨-, -, rfl⟩, h⟩
    exact ⟨hlength, h⟩
  · rintro ⟨hlength, h⟩
    obtain ⟨hshape, hsalt, -⟩ := (sealRecoveryFile_eq_ok (p.length_argon2id _ _)).mp h
    exact ⟨_, ⟨hlength, rfl⟩, _, ⟨rfl, hshape⟩, _,
      ⟨hsalt, ⟨Nat.le_trans (by decide) hlength.1, hlength.2⟩, rfl⟩, h⟩

/-! ## Reading -/

theorem readRecoveryFile_write [JsonNatural ν] {p : RecoveryPlatform}
    (distinct : Distinct contents)
    (h : writeRecoveryFile p contents passphrase salt nonce = .ok text) {passphrase' : JsString}
    (hnfc : p.nfc passphrase' = p.nfc passphrase) {account : Option JsString}
    (haccount : ∀ a, account = some a → contents.strField "accountId" = some a) (r : Nat → KeyCheckRandom) :
    (∃ parsed key, parseRecoveryFile ν text = .ok parsed ∧
      deriveRecoveryKey p passphrase' parsed.salt = .ok key ∧
      openRecoveryFile p.toPlatform parsed key = .ok contents) ∧
        readRecoveryFile p text passphrase' account r = (do
      checkKeySets p.toPlatform (contents.strField "accountId") (keySets contents) r return contents) := by
  obtain ⟨hlength, hseal⟩ := writeRecoveryFile_eq_ok.mp h
  have hkey := p.length_argon2id (utf8Encode (p.nfc passphrase)) salt
  obtain ⟨parsed, hparsed, rfl, hopen⟩ := openRecoveryFile_seal distinct hkey hseal
  obtain ⟨hshape, hsalt, -⟩ := (sealRecoveryFile_eq_ok hkey).mp hseal
  have hderive : deriveRecoveryKey p passphrase' parsed.salt =
      .ok (p.argon2id (utf8Encode (p.nfc passphrase)) parsed.salt) := by
    refine deriveRecoveryKey_eq_ok.mpr ⟨hsalt, ?_, by rw [hnfc]⟩
    rw [LongEnough, hnfc]
    exact ⟨Nat.le_trans (by decide) hlength.1, hlength.2⟩
  refine ⟨⟨parsed, _, hparsed, hderive, hopen⟩, ?_⟩
  have hown : ¬(account.isSome ∧ contents.strField "accountId" ≠ account) := by
    rintro ⟨hsome, hne⟩
    obtain ⟨a, ha⟩ := Option.isSome_iff_exists.mp hsome
    exact hne ((haccount a ha).trans ha.symm)
  have hcheck : checkRecoveryContents p.toPlatform contents account r =
      checkKeySets p.toPlatform (contents.strField "accountId") (keySets contents) r := by
    have hassert := assertContentsShape_eq_ok.mpr ⟨rfl, hshape⟩
    rw [checkRecoveryContents, hassert]
    exact if_neg hown
  rw [readRecoveryFile, hparsed]
  simp only [bind, Except.bind, hderive, hopen, hcheck]

/-- A file that was written is never refused for its size or its shape: it parses, and with every
passphrase that is NFC-equal it opens to the contents. Reading it returns the contents exactly when
each of their key sets passes its check for their account; else it throws for a key set that does
not. -/
theorem recovery_file_round_trip [JsonNatural ν] (p : RecoveryPlatform) (contents : Json ν)
    (distinct : Distinct contents) (passphrase : JsString) (salt nonce : Bytes) (text : List Char)
    (h : writeRecoveryFile p contents passphrase salt nonce = .ok text) (passphrase' : JsString)
    (hnfc : p.nfc passphrase' = p.nfc passphrase) (account : Option JsString)
    (haccount : ∀ a, account = some a → contents.strField "accountId" = some a) (r : Nat → KeyCheckRandom) :
    (∃ parsed key, parseRecoveryFile ν text = .ok parsed ∧
      deriveRecoveryKey p passphrase' parsed.salt = .ok key ∧
      openRecoveryFile p.toPlatform parsed key = .ok contents) ∧
    (readRecoveryFile p text passphrase' account r = .ok contents ↔
      ∀ i k, (keySets contents)[i]? = some k → checkReleaseKeySet p.toPlatform k
        (contents.strField "accountId") (r i) = .ok ()) ∧
    (∀ e, readRecoveryFile p text passphrase' account r = (.error e : Except RecoveryFailure (Json ν)) →
      ∃ i k refusal, (keySets contents)[i]? = some k ∧ checkReleaseKeySet p.toPlatform k
        (contents.strField "accountId") (r i) = .error refusal ∧ e = keySetFailure refusal) := by
  obtain ⟨hopens, hread⟩ := readRecoveryFile_write distinct h hnfc haccount r
  rw [hread]
  obtain ⟨hloop, hall⟩ | ⟨i, k, refusal, hi, hk, hloop⟩ := @checkKeySets_cases ν _ _ p.toPlatform
    (contents.strField "accountId") (keySets contents) r
  · rw [hloop]
    exact ⟨hopens, ⟨fun _ => hall, fun _ => rfl⟩, fun e he => nomatch he⟩
  · rw [hloop]
    refine ⟨hopens, ⟨(fun h => nomatch h), fun hall => ?_⟩, fun e he => ?_⟩
    · cases hk.symm.trans (hall i k hi)
    · cases he
      exact ⟨i, k, refusal, hi, hk, rfl⟩

end

/-! ## Ana's file -/

def toyRecovery : RecoveryPlatform where
  toPlatform := toyPlatform fun _ => true
  nfc value := value
  argon2id _ _ := List.replicate 32 0
  length_argon2id _ _ := rfl

def toyContents (fingerprint mlkem768Key mlkem768SecretKey : JsString) : Json Int :=
  .obj [(jsString "v", .num 1), (jsString "accountId", .str (jsString "ana")),
    (jsString "savedAt", .str []), (jsString "keySets", .arr [.obj [
      (jsString "identity", { toyIdentity "ana" with mlkem768Key }.toJson),
      (jsString "fingerprint", .str fingerprint),
      (jsString "signingPrivateJwk", (toyKeySet "ana").signingPrivateJwk.toJson),
      (jsString "x25519PrivateJwk", (toyKeySet "ana").x25519PrivateJwk.toJson),
      (jsString "mlkem768SecretKey", .str mlkem768SecretKey), (jsString "createdAt", .str []),
      (jsString "status", .str (jsString "current"))]]),
    (jsString "comparisons", .arr [])]

theorem toyContents_distinct (a b c : JsString) : Distinct (toyContents a b c) := by
  simp only [toyContents, ReleaseIdentity.toJson, ReleaseOkpPrivateJwk.toJson, Distinct,
    DistinctFields, DistinctItems, map_cons, map_nil, and_true, true_and]
  decide

theorem toyContents_shape (a b c : JsString) : ContentsShape toyRecovery.toPlatform (toyContents a b c) where
  fields := rfl
  version := rfl
  account := (by decide : (some (jsString "ana")).any releaseAccountIdPattern = true)
  savedAt := rfl
  keySets := ⟨_, rfl, Nat.le_refl 1, (by decide : 1 ≤ MAX_KEY_SETS), by
    rw [forall_mem_singleton]
    exact ⟨rfl, .current, rfl⟩, rfl⟩
  comparisons := ⟨[], rfl, by decide, nofun⟩

theorem toyContents_size (ha : ∀ u ∈ a, isPlain u = true)
    (hb : ∀ u ∈ b, isPlain u = true) (hc : ∀ u ∈ c, isPlain u = true) :
    (Utf8.encode (print .compact 0 (toyContents a b c))).length =
      (Utf8.encode (print .compact 0 (toyContents [] [] []))).length + a.length + b.length + c.length := by
  have hq {s : JsString} h :
      ((quote s).flatMap String.utf8EncodeChar).length = s.length + 2 := (length_quote_plain h).2
  have hnil : ((quote []).flatMap String.utf8EncodeChar).length = 2 := rfl
  simp only [toyContents, ReleaseIdentity.toJson, ReleaseOkpPrivateJwk.toJson, print, printFields,
    printItems, Utf8.encode, flatMap_append, flatMap_cons, length_append, hq ha, hq hb,
    hq hc, hnil]
  omega

theorem toyContents_empty_size : (Utf8.encode (print .compact 0 (toyContents [] [] []))).length ≤ 2000 := by
  decide +kernel

theorem toy_writeRecoveryFile (ha : ∀ u ∈ a, isPlain u = true)
    (hb : ∀ u ∈ b, isPlain u = true) (hc : ∀ u ∈ c, isPlain u = true)
    (hsize : a.length + b.length + c.length ≤ 14000) :
    ∃ text, writeRecoveryFile toyRecovery (toyContents a b c) (jsString "twelve chars")
      (List.replicate 16 0) (List.replicate 12 0) = .ok text := by
  have hlength := toyContents_size ha hb hc
  have hempty := toyContents_empty_size
  have hmax : MAX_PADDED_BYTES = 1048576 := rfl
  have hlimit : (Utf8.encode (print .compact 0 (toyContents a b c))).length + 16 ≤ 16384 := by omega
  obtain ⟨bucket, hbucket⟩ := selectBucket_exists (by decide) hlimit
  refine ⟨_, writeRecoveryFile_eq_ok.mpr ⟨by unfold LongEnough; decide,
    (sealRecoveryFile_eq_ok rfl).mpr ⟨toyContents_shape a b c, rfl, rfl, ?_, bucket, hbucket, rfl⟩⟩⟩
  rw [hmax, GCM_TAG_BYTES]
  omega

theorem toyContents_agree {k : Json Int} (hk : keySets (toyContents (toyKeySet "ana").fingerprint
    (toyIdentity "ana").mlkem768Key (toyKeySet "ana").mlkem768SecretKey) = [k]) :
    Agree KEY_SET_READ k (toyKeySet "ana").toJson := by
  cases hk
  simp only [Agree, KEY_SET_READ, forall_mem_cons, not_mem_nil, false_implies, implies_true, and_true]
  exact ⟨rfl, rfl, rfl, rfl, rfl, rfl⟩

theorem recovery_file_round_trip_toy :
    ∃ text, writeRecoveryFile toyRecovery (toyContents (toyKeySet "ana").fingerprint
        (toyIdentity "ana").mlkem768Key (toyKeySet "ana").mlkem768SecretKey) (jsString "twelve chars")
        (List.replicate 16 0) (List.replicate 12 0) = .ok text ∧
      readRecoveryFile toyRecovery text (jsString "twelve chars") (some (jsString "ana"))
        (fun _ => ⟨[], [], [], []⟩) = .ok (toyContents (toyKeySet "ana").fingerprint
        (toyIdentity "ana").mlkem768Key (toyKeySet "ana").mlkem768SecretKey) := by
  obtain ⟨text, htext⟩ := toy_writeRecoveryFile (a := (toyKeySet "ana").fingerprint)
    (b := (toyIdentity "ana").mlkem768Key) (c := (toyKeySet "ana").mlkem768SecretKey)
    isPlain_toHex isPlain_toBase64 isPlain_toBase64 (by
      simp only [toyKeySet, toyIdentity, toyKeys, length_toHex, sha256_length, length_toBase64,
        length_replicate, base64Length]
      decide)
  obtain ⟨-, hread, -⟩ := recovery_file_round_trip toyRecovery _ (toyContents_distinct _ _ _) _ _ _ text
    htext (jsString "twelve chars") rfl (some (jsString "ana")) (fun a ha => ha ▸ rfl)
    fun _ => ⟨[], [], [], []⟩
  refine ⟨text, htext, hread.mpr fun i k hk => ?_⟩
  cases i with
  | zero =>
    obtain rfl := Option.some.inj hk
    rw [checkReleaseKeySet_congr (toyContents_agree rfl)]
    exact toy_checkReleaseKeySet (by decide) rfl rfl
  | succ i => cases hk

/-- The key set of the contents has lost its ML-KEM keys. -/
theorem recovery_file_unread :
    ∃ text, writeRecoveryFile toyRecovery (toyContents [] [] []) (jsString "twelve chars")
        (List.replicate 16 0) (List.replicate 12 0) = .ok text ∧
      readRecoveryFile toyRecovery text (jsString "twelve chars") none (fun _ => ⟨[], [], [], []⟩) =
        (.error (.recovery .contents "The keys in this recovery file do not fit together (identity).") :
          Except RecoveryFailure (Json Int)) := by
  obtain ⟨text, htext⟩ := toy_writeRecoveryFile (a := []) (b := []) (c := []) nofun nofun nofun
    (by decide)
  refine ⟨text, htext, ?_⟩
  have hnfc : toyRecovery.nfc (jsString "twelve chars") = toyRecovery.nfc (jsString "twelve chars") := rfl
  have haccount : ∀ a, none = some a → (toyContents [] [] []).strField "accountId" = some a := nofun
  obtain ⟨-, hread⟩ := readRecoveryFile_write (toyContents_distinct _ _ _) htext hnfc haccount
    fun _ => ⟨[], [], [], []⟩
  have hcheck : checkKeySets toyRecovery.toPlatform ((toyContents [] [] []).strField "accountId")
      (keySets (toyContents [] [] [])) (fun _ => ⟨[], [], [], []⟩) = .error (.recovery .contents
          "The keys in this recovery file do not fit together (identity).") := by decide +kernel
  rw [hread, hcheck]
  rfl

end Blackout.Protocol
