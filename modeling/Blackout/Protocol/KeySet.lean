import Blackout.Protocol.Identity

/-!
# Release key sets (`release/keySet.ts`)

`checkReleaseKeySet`: an identity that verifies, its fingerprint, and private keys that belong to
it.
-/

namespace Blackout.Protocol

open Json Option

def MLKEM768_SHARED_SECRET_BYTES : Nat := 32
def MLKEM768_SECRET_KEY_EK_OFFSET : Nat := 1152

inductive OkpCurve
  | ed25519
  | x25519
  deriving DecidableEq

def OkpCurve.name : OkpCurve → String
  | .ed25519 => "Ed25519"
  | .x25519 => "X25519"

structure ReleaseOkpPrivateJwk where
  crv : OkpCurve
  d : JsString
  x : JsString
  deriving DecidableEq

variable {jwk : ReleaseOkpPrivateJwk} {publicKey : Bytes} {e : Ed25519} {seed : Bytes}
  {account : Option JsString}

/-- An identity, its fingerprint and its private keys. -/
structure ReleaseKeySet where
  identity : ReleaseIdentity
  fingerprint : JsString
  signingPrivateJwk : ReleaseOkpPrivateJwk
  x25519PrivateJwk : ReleaseOkpPrivateJwk
  mlkem768SecretKey : JsString
  createdAt : JsString
  deriving DecidableEq

inductive ReleaseKeySetProblem
  | shape
  | identity
  | fingerprint
  | signingPrivateKey
  | x25519PrivateKey
  | mlkem768SecretKey
  | kemProvider
  deriving DecidableEq, Repr

def ReleaseKeySetProblem.name : ReleaseKeySetProblem → String
  | .shape => "shape"
  | .identity => "identity"
  | .fingerprint => "fingerprint"
  | .signingPrivateKey => "signing_private_key"
  | .x25519PrivateKey => "x25519_private_key"
  | .mlkem768SecretKey => "mlkem768_secret_key"
  | .kemProvider => "kem_provider"

section
variable {ν : Type} [One ν]

def ReleaseOkpPrivateJwk.toJson (jwk : ReleaseOkpPrivateJwk) : Json ν :=
  .obj [(jsString "kty", .str (jsString "OKP")), (jsString "crv", .str (jsString jwk.crv.name)),
    (jsString "d", .str jwk.d), (jsString "x", .str jwk.x)]

def ReleaseKeySet.toJson (k : ReleaseKeySet) : Json ν :=
  .obj [(jsString "identity", k.identity.toJson), (jsString "fingerprint", .str k.fingerprint),
    (jsString "signingPrivateJwk", k.signingPrivateJwk.toJson),
    (jsString "x25519PrivateJwk", k.x25519PrivateJwk.toJson),
    (jsString "mlkem768SecretKey", .str k.mlkem768SecretKey),
    (jsString "createdAt", .str k.createdAt)]

end

structure KeyCheckRandom where
  identity : Bytes
  challenge : Bytes
  agreement : Bytes
  encapsulation : Bytes

/-! ## The private keys -/

def importReleaseSigningKey (e : Ed25519) (jwk : ReleaseOkpPrivateJwk) : Except Failure e.SigningKey :=
  if jwk.crv ≠ .ed25519 then .error .operation else e.importSigningKey jwk.d jwk.x

def importReleaseX25519Key (x : X25519) (jwk : ReleaseOkpPrivateJwk) : Except Failure x.PrivateKey :=
  if jwk.crv ≠ .x25519 then .error .operation else x.importPrivateKey jwk.d jwk.x

def signChallenge (e : Ed25519) (jwk : ReleaseOkpPrivateJwk) (publicKey message : Bytes) :
    Except Failure (Bytes × e.VerifyKey) := do
  let privateKey ← importReleaseSigningKey e jwk
  let signature ← e.sign privateKey message
  let verifier ← e.importVerifyKey publicKey
  return (signature, verifier)

/-- A fresh message that is signed verifies. -/
def signingKeyMatches (e : Ed25519) (jwk : ReleaseOkpPrivateJwk) (publicKey random : Bytes) :
    Except Failure Bool :=
  if jwk.x ≠ toBase64Url publicKey then .ok false
  else
    match signChallenge e jwk publicKey (keyCheckMessage random) with
    | .error _ => .ok false
    | .ok (signature, verifier) => e.verify verifier signature (keyCheckMessage random)

def agreement (x : X25519) (jwk : ReleaseOkpPrivateJwk) (publicKey seed : Bytes) :
    Except Failure (Bytes × Bytes) := do
  let privateKey ← importReleaseX25519Key x jwk
  let identityKey ← importRecipientPublicKey x (toBase64 publicKey)
  let fresh ← x.generateKeyPair seed
  let freshPublic ← importRecipientPublicKey x (toBase64 fresh.2)
  let one ← x.deriveBits privateKey freshPublic
  let other ← x.deriveBits fresh.1 identityKey
  return (one, other)

/-- An agreement with a fresh key gives the same secret on both sides. -/
def x25519KeyMatches (x : X25519) (jwk : ReleaseOkpPrivateJwk) (publicKey seed : Bytes) : Bool :=
  if jwk.x ≠ toBase64Url publicKey then false
  else
    match agreement x jwk publicKey seed with
    | .ok (one, other) => one = other && !isAllZero one
    | .error _ => false

inductive KemAnswer
  | yes
  | no
  | provider
  deriving DecidableEq

/-- A fresh encapsulation opens. -/
def mlKemKeyMatches (kem : KemProvider) (secretKey publicKey seed : Bytes) : KemAnswer :=
  if (secretKey.drop MLKEM768_SECRET_KEY_EK_OFFSET).take MLKEM768_PUBLIC_KEY_BYTES ≠ publicKey then .no
  else
    match kem.encapsulate seed publicKey with
    | .error _ => .provider
    | .ok (ciphertext, sharedSecret) =>
      match kem.decapsulate ciphertext secretKey with
      | .error _ => .no
      | .ok opened => if opened = sharedSecret then .yes else .no

def isMlKem768 (kem : KemProvider) : Bool :=
  kem.publicKeyLength = MLKEM768_PUBLIC_KEY_BYTES && kem.secretKeyLength =
    MLKEM768_SECRET_KEY_BYTES && kem.ciphertextLength = MLKEM768_CIPHERTEXT_BYTES &&
    kem.sharedSecretLength = MLKEM768_SHARED_SECRET_BYTES

/-! ## The check -/

section
variable {ν : Type} {p : Platform} {v w : Json ν} {r : KeyCheckRandom} {u : Unit}

def okpJwk (jwk : Json ν) (crv : OkpCurve) : Option ReleaseOkpPrivateJwk :=
  if jwk.strField "kty" ≠ some (jsString "OKP") ∨ jwk.strField "crv" ≠ some (jsString crv.name) then
    none
  else
    match jwk.strField "d", jwk.strField "x" with
    | some d, some x =>
      if (decodeBase64Url d 32).isSome && (decodeBase64Url x 32).isSome then some ⟨crv, d, x⟩ else none
    | _, _ => none

structure KeySetFields (ν : Type) where
  identity : Json ν
  fingerprint : JsString
  signingPrivateJwk : ReleaseOkpPrivateJwk
  x25519PrivateJwk : ReleaseOkpPrivateJwk
  mlkem768SecretKey : JsString

def readKeySet (p : Platform) (keySet : Json ν) : Option (KeySetFields ν) := do
  let fingerprint ← keySet.strField "fingerprint"
  let mlkem768SecretKey ← keySet.strField "mlkem768SecretKey"
  let createdAt ← keySet.strField "createdAt"
  if !p.dateParses createdAt then none
  else do
    let signingPrivateJwk ← okpJwk (← keySet.field "signingPrivateJwk") .ed25519
    let x25519PrivateJwk ← okpJwk (← keySet.field "x25519PrivateJwk") .x25519
    return { identity := (keySet.field "identity").getD .null, fingerprint, signingPrivateJwk
             x25519PrivateJwk, mlkem768SecretKey }

def KEY_SET_READ : List String :=
  ["identity", "fingerprint", "signingPrivateJwk", "x25519PrivateJwk", "mlkem768SecretKey", "createdAt"]

def checkPrivateKeys (p : Platform) (set : KeySetFields ν) (signingKey x25519Key mlkem768Key : Bytes)
    (r : KeyCheckRandom) : Except (Refusal ReleaseKeySetProblem) Unit :=
  match decodeCanonicalBase64 set.mlkem768SecretKey (some MLKEM768_SECRET_KEY_BYTES) with
  | none => .error (.returned .mlkem768SecretKey)
  | some secretKey =>
    match signingKeyMatches p.ed25519 set.signingPrivateJwk signingKey r.challenge with
    | .error failure => .error (.threw failure)
    | .ok false => .error (.returned .signingPrivateKey)
    | .ok true =>
      if !x25519KeyMatches p.x25519 set.x25519PrivateJwk x25519Key r.agreement then
        .error (.returned .x25519PrivateKey)
      else if !isMlKem768 p.kem then .error (.returned .kemProvider)
      else
        match mlKemKeyMatches p.kem secretKey mlkem768Key r.encapsulation with
        | .provider => .error (.returned .kemProvider)
        | .no => .error (.returned .mlkem768SecretKey)
        | .yes => .ok ()

variable [DecidableEq ν] [One ν]

/-- Check a stored key set. The keys are read again from the identity, which was checked to have
exactly the values that are returned. -/
def checkReleaseKeySet (p : Platform) (keySet : Json ν) (account : Option JsString)
    (r : KeyCheckRandom) : Except (Refusal ReleaseKeySetProblem) Unit :=
  match readKeySet p keySet with
  | none => .error (.returned .shape)
  | some set =>
    match verifyReleaseIdentity p set.identity account r.identity with
    | .error (.threw failure) => .error (.threw failure)
    | .error (.returned _) => .error (.returned .identity)
    | .ok (identity, fingerprint) =>
      if fingerprint ≠ set.fingerprint then .error (.returned .fingerprint)
      else
        match decodeCanonicalBase64 identity.signingKey (some ED25519_PUBLIC_KEY_BYTES),
          decodeCanonicalBase64 identity.x25519Key (some X25519_PUBLIC_KEY_BYTES),
          decodeCanonicalBase64 identity.mlkem768Key (some MLKEM768_PUBLIC_KEY_BYTES) with
        | some signingKey, some x25519Key, some mlkem768Key =>
          checkPrivateKeys p set signingKey x25519Key mlkem768Key r
        | _, _, _ => .error (.returned .identity)

theorem checkReleaseKeySet_congr (h : Agree KEY_SET_READ v w) :
    checkReleaseKeySet p v account r = checkReleaseKeySet p w account r := by
  simp only [Agree, KEY_SET_READ, List.forall_mem_cons] at h
  obtain ⟨h1, h2, h3, h4, h5, h6, -⟩ := h
  simp only [checkReleaseKeySet, readKeySet, strField, h1, h2, h3, h4, h5, h6]

/-! ## What is accepted -/

/-- The private keys pass the three round trips with fresh randomness. -/
structure OwnsKeys (p : Platform) (set : KeySetFields ν) (keys : IdentityKeys) (secretKey : Bytes)
    (r : KeyCheckRandom) : Prop where
  signing : signingKeyMatches p.ed25519 set.signingPrivateJwk keys.signingKey r.challenge = .ok true
  x25519 : x25519KeyMatches p.x25519 set.x25519PrivateJwk keys.x25519Key r.agreement = true
  provider : isMlKem768 p.kem = true
  kem : mlKemKeyMatches p.kem secretKey keys.mlkem768Key r.encapsulation = .yes

omit [DecidableEq ν] [One ν] in
theorem checkPrivateKeys_eq_ok {set : KeySetFields ν} {keys : IdentityKeys} :
    checkPrivateKeys p set keys.signingKey keys.x25519Key keys.mlkem768Key r = .ok u ↔ ∃ secretKey,
        decodeCanonicalBase64 set.mlkem768SecretKey (some MLKEM768_SECRET_KEY_BYTES) =
          some secretKey ∧ OwnsKeys p set keys secretKey r := by
  constructor
  · intro h
    unfold checkPrivateKeys at h
    split at h
    · cases h
    next secretKey hsecret =>
    split at h
    · cases h
    · cases h
    next hsigning =>
    split at h
    · cases h
    next hx25519 =>
    split at h
    · cases h
    next hprovider =>
    split at h
    · cases h
    · cases h
    next hkem =>
    exact ⟨secretKey, hsecret, hsigning, not_true_iff.mp hx25519, not_true_iff.mp hprovider, hkem⟩
  · rintro ⟨secretKey, hsecret, hsigning, hx25519, hprovider, hkem⟩
    simp [checkPrivateKeys, hsecret, hsigning, hx25519, hprovider, hkem, Bool.not_true, Bool.false_eq_true]

/-- The fields, the identity, and the three round trips with fresh randomness (`OwnsKeys`). -/
theorem checkReleaseKeySet_eq_ok {keySet : Json ν} {account : Option JsString} :
    checkReleaseKeySet p keySet account r = .ok u ↔ ∃ set identity, readKeySet p keySet = some set ∧
        verifyReleaseIdentity p set.identity account r.identity = .ok (identity, set.fingerprint) ∧
        ∃ keys message secretKey, IdentityForm p identity keys message ∧
          decodeCanonicalBase64 set.mlkem768SecretKey (some MLKEM768_SECRET_KEY_BYTES) =
            some secretKey ∧ OwnsKeys p set keys secretKey r := by
  constructor
  · intro h
    unfold checkReleaseKeySet at h
    split at h
    · cases h
    next set hset =>
    split at h
    · cases h
    · cases h
    next identity fingerprint hidentity =>
    split at h
    · cases h
    next hfp =>
    obtain rfl := Decidable.not_not.mp hfp
    obtain ⟨-, -, -, keys, message, form, -, -⟩ := verifyReleaseIdentity_eq_ok.mp hidentity
    simp only [form.signingKey, form.x25519Key, form.mlkem768Key] at h
    obtain ⟨secretKey, hsecret, howns⟩ := checkPrivateKeys_eq_ok.mp h
    exact ⟨set, identity, hset, hidentity, keys, message, secretKey, form, hsecret, howns⟩
  · rintro ⟨set, identity, hset, hidentity, keys, message, secretKey, form, hsecret, howns⟩
    simp only [checkReleaseKeySet, hset, hidentity, ne_eq, not_true_eq_false, if_false,
      form.signingKey, form.x25519Key, form.mlkem768Key]
    exact checkPrivateKeys_eq_ok.mpr ⟨secretKey, hsecret, howns⟩

end

/-! ## Key sets of the device -/

section
variable {ν : Type} {p : Platform} {k : ReleaseKeySet}

theorem okpJwk_toJson_eq_some {found : ReleaseOkpPrivateJwk} {crv : OkpCurve} :
    okpJwk (jwk.toJson : Json ν) crv = some found ↔
      found = jwk ∧ jwk.crv = crv ∧ (decodeBase64Url jwk.d 32).isSome = true ∧
        (decodeBase64Url jwk.x 32).isSome = true := by
  have hkty : (jwk.toJson : Json ν).strField "kty" = some (jsString "OKP") := rfl
  have hcrv : (jwk.toJson : Json ν).strField "crv" = some (jsString jwk.crv.name) := rfl
  have hd : (jwk.toJson : Json ν).strField "d" = some jwk.d := rfl
  have hx : (jwk.toJson : Json ν).strField "x" = some jwk.x := rfl
  have hname : jsString jwk.crv.name = jsString crv.name ↔ jwk.crv = crv := by
    cases jwk.crv <;> cases crv <;> decide
  simp only [okpJwk, hkty, hcrv, hd, hx, ne_eq, not_true_eq_false, Option.some.injEq, false_or,
    hname, ite_none_left_eq_some, ite_none_right_eq_some, Decidable.not_not, Bool.and_eq_true]
  constructor
  · rintro ⟨rfl, hcheck, rfl⟩
    exact ⟨rfl, rfl, hcheck⟩
  · rintro ⟨rfl, rfl, hcheck⟩
    exact ⟨rfl, hcheck, rfl⟩

variable [One ν]

def ReleaseKeySet.fields (k : ReleaseKeySet) : KeySetFields ν :=
  ⟨k.identity.toJson, k.fingerprint, k.signingPrivateJwk, k.x25519PrivateJwk, k.mlkem768SecretKey⟩

theorem readKeySet_toJson_eq_some {set : KeySetFields ν} :
    readKeySet p (k.toJson : Json ν) = some set ↔ p.dateParses k.createdAt = true ∧
      okpJwk (k.signingPrivateJwk.toJson : Json ν) .ed25519 = some k.signingPrivateJwk ∧
      okpJwk (k.x25519PrivateJwk.toJson : Json ν) .x25519 = some k.x25519PrivateJwk ∧ set = k.fields := by
  have hfingerprint : (k.toJson : Json ν).strField "fingerprint" = some k.fingerprint := rfl
  have hsecret : (k.toJson : Json ν).strField "mlkem768SecretKey" = some k.mlkem768SecretKey := rfl
  have hcreated : (k.toJson : Json ν).strField "createdAt" = some k.createdAt := rfl
  have hsigning : (k.toJson : Json ν).field "signingPrivateJwk" = some k.signingPrivateJwk.toJson := rfl
  have hx25519 : (k.toJson : Json ν).field "x25519PrivateJwk" = some k.x25519PrivateJwk.toJson := rfl
  have hidentity : (k.toJson : Json ν).field "identity" = some k.identity.toJson := rfl
  simp only [readKeySet, hfingerprint, hsecret, hcreated, hsigning, hx25519, hidentity,
    bind_eq_bind, bind_some, getD_some, ite_none_left_eq_some, not_true_iff,
    bind_eq_some_iff]
  constructor
  · rintro ⟨hdate, signing, hs, x25519, hx, ⟨⟩⟩
    obtain ⟨rfl, -⟩ := okpJwk_toJson_eq_some.mp hs
    obtain ⟨rfl, -⟩ := okpJwk_toJson_eq_some.mp hx
    exact ⟨hdate, hs, hx, rfl⟩
  · rintro ⟨hdate, hs, hx, rfl⟩
    exact ⟨hdate, _, hs, _, hx, rfl⟩

theorem checkReleaseKeySet_toJson_ok [DecidableEq ν]
    {r : KeyCheckRandom} {u : Unit}
    (h : checkReleaseKeySet p (k.toJson : Json ν) account r = .ok u) :
    verifyReleaseIdentity p (k.identity.toJson : Json ν) account r.identity = .ok (k.identity, k.fingerprint) ∧
      ∃ keys message secretKey, IdentityForm p k.identity keys message ∧
        decodeCanonicalBase64 k.mlkem768SecretKey (some MLKEM768_SECRET_KEY_BYTES) =
          some secretKey ∧ OwnsKeys p (k.fields : KeySetFields ν) keys secretKey r := by
  obtain ⟨set, identity, hset, hidentity, keys, message, secretKey, form, hsecret, howns⟩ :=
    checkReleaseKeySet_eq_ok.mp h
  obtain ⟨-, -, -, rfl⟩ := readKeySet_toJson_eq_some.mp hset
  obtain ⟨rfl, -⟩ := verifyReleaseIdentity_toJson_eq_ok.mp hidentity
  exact ⟨hidentity, keys, message, secretKey, form, hsecret, howns⟩

end

/-! ## What the private keys do -/

theorem signChallenge_eq_ok {message : Bytes} {r : Bytes × e.VerifyKey} :
    signChallenge e jwk publicKey message = .ok r ↔
      ∃ privateKey, importReleaseSigningKey e jwk = .ok privateKey ∧
        e.sign privateKey message = .ok r.1 ∧ e.importVerifyKey publicKey = .ok r.2 := by
  simp only [signChallenge, bind_eq_ok]
  constructor
  · rintro ⟨privateKey, himport, signature, hsign, verifier, hverifier, ⟨⟩⟩
    exact ⟨privateKey, himport, hsign, hverifier⟩
  · rintro ⟨privateKey, himport, hsign, hverifier⟩
    exact ⟨privateKey, himport, _, hsign, _, hverifier, rfl⟩

theorem signingKeyMatches_eq_true {random : Bytes} :
    signingKeyMatches e jwk publicKey random = .ok true ↔ jwk.x = toBase64Url publicKey ∧
      ∃ privateKey verifier signature, importReleaseSigningKey e jwk = .ok privateKey ∧
        e.importVerifyKey publicKey = .ok verifier ∧ e.sign privateKey (keyCheckMessage random) = .ok signature ∧
        e.verify verifier signature (keyCheckMessage random) = .ok true := by
  constructor
  · intro h
    unfold signingKeyMatches at h
    split at h
    · cases h
    next hx =>
    split at h
    · cases h
    next signature verifier hchallenge =>
    obtain ⟨privateKey, himport, hsign, hverifier⟩ := signChallenge_eq_ok.mp hchallenge
    exact ⟨Decidable.not_not.mp hx, privateKey, verifier, signature, himport, hverifier, hsign, h⟩
  · rintro ⟨hx, privateKey, verifier, signature, himport, hverifier, hsign, h⟩
    have hchallenge : signChallenge e jwk publicKey (keyCheckMessage random) =
        .ok (signature, verifier) := signChallenge_eq_ok.mpr ⟨privateKey, himport, hsign, hverifier⟩
    simp [signingKeyMatches, hx, ne_eq, not_true_eq_false, hchallenge, h]

theorem x25519KeyMatches_eq_true {x : X25519} : x25519KeyMatches x jwk publicKey seed = true ↔
      jwk.x = toBase64Url publicKey ∧ ∃ privateKey identityKey fresh freshKey secret,
        importReleaseX25519Key x jwk = .ok privateKey ∧
        importRecipientPublicKey x (toBase64 publicKey) = .ok identityKey ∧ x.generateKeyPair seed = .ok fresh ∧
        importRecipientPublicKey x (toBase64 fresh.2) = .ok freshKey ∧
        x.deriveBits privateKey freshKey = .ok secret ∧ x.deriveBits fresh.1 identityKey = .ok secret ∧
        isAllZero secret = false := by
  constructor
  · intro h
    unfold x25519KeyMatches at h
    split at h
    · cases h
    next hx =>
    split at h
    next one other hagree =>
      rw [Bool.and_eq_true, decide_eq_true_eq, Bool.not_eq_true'] at h
      obtain ⟨rfl, hzero⟩ := h
      simp only [agreement, bind_eq_ok] at hagree
      obtain ⟨privateKey, h1, identityKey, h2, fresh, h3, freshKey, h4, _, h5, _, h6, ⟨⟩⟩ := hagree
      exact ⟨Decidable.not_not.mp hx, privateKey, identityKey, fresh, freshKey, one, h1, h2, h3, h4,
        h5, h6, hzero⟩
    next => cases h
  · rintro ⟨hx, privateKey, identityKey, fresh, freshKey, secret, h1, h2, h3, h4, h5, h6, hzero⟩
    have hagree : agreement x jwk publicKey seed = .ok (secret, secret) := by
      simp only [agreement, bind_eq_ok]
      exact ⟨privateKey, h1, identityKey, h2, fresh, h3, freshKey, h4, secret, h5, secret, h6, rfl⟩
    simp [x25519KeyMatches, hx, ne_eq, not_true_eq_false, hagree, decide_true, hzero,
      Bool.not_false, Bool.and_self]

theorem mlKemKeyMatches_eq_yes {kem : KemProvider} {secretKey : Bytes} :
    mlKemKeyMatches kem secretKey publicKey seed = .yes ↔
      (secretKey.drop MLKEM768_SECRET_KEY_EK_OFFSET).take MLKEM768_PUBLIC_KEY_BYTES = publicKey ∧
      ∃ ciphertext sharedSecret, kem.encapsulate seed publicKey = .ok (ciphertext, sharedSecret) ∧
        kem.decapsulate ciphertext secretKey = .ok sharedSecret := by
  constructor
  · intro h
    unfold mlKemKeyMatches at h
    split at h
    · cases h
    next hembedded =>
    split at h
    · cases h
    next ciphertext sharedSecret hencapsulate =>
    split at h
    · cases h
    next opened hopened =>
    split at h
    next heq =>
      subst heq
      exact ⟨Decidable.not_not.mp hembedded, ciphertext, opened, hencapsulate, hopened⟩
    next => cases h
  · rintro ⟨hembedded, ciphertext, sharedSecret, hencapsulate, hopened⟩
    simp [mlKemKeyMatches, hembedded, ne_eq, not_true_eq_false, hencapsulate, hopened]

namespace OwnsKeys
variable {ν : Type} {p : Platform} {set : KeySetFields ν} {keys : IdentityKeys} {secretKey : Bytes}
  {r : KeyCheckRandom}

theorem signs (correct : p.Correct) (h : OwnsKeys p set keys secretKey r) :
    ∃ privateKey verifier, importReleaseSigningKey p.ed25519 set.signingPrivateJwk = .ok privateKey ∧
      p.ed25519.importVerifyKey keys.signingKey = .ok verifier ∧
      ∀ message, ∃ signature, p.ed25519.sign privateKey message = .ok signature ∧
        p.ed25519.verify verifier signature message = .ok true := by
  obtain ⟨-, privateKey, verifier, signature, himport, hverifier, hsign, hverify⟩ :=
    signingKeyMatches_eq_true.mp h.signing
  exact ⟨privateKey, verifier, himport, hverifier, correct.sign_verify hsign hverify⟩

theorem agrees (correct : p.Correct) (h : OwnsKeys p set keys secretKey r) :
    ∃ privateKey identityKey, importReleaseX25519Key p.x25519 set.x25519PrivateJwk = .ok privateKey ∧
      importRecipientPublicKey p.x25519 (toBase64 keys.x25519Key) = .ok identityKey ∧
      ∀ {seed fresh}, p.x25519.generateKeyPair seed = .ok fresh → fresh.2.length = 32 ∧
        ∃ freshKey secret, p.x25519.importPublicKey fresh.2 = .ok freshKey ∧
          p.x25519.deriveBits privateKey freshKey = .ok secret ∧
          p.x25519.deriveBits fresh.1 identityKey = .ok secret := by
  obtain ⟨-, privateKey, identityKey, fresh, freshKey, secret, himport, hidentity, hfresh,
    hfreshKey, hone, hother, hzero⟩ := x25519KeyMatches_eq_true.mp h.x25519
  obtain ⟨-, hfreshKey⟩ := importRecipientPublicKey_toBase64_eq_ok.mp hfreshKey
  exact ⟨privateKey, identityKey, himport, hidentity, correct.agrees hfresh hfreshKey hone hother hzero⟩

theorem opens (correct : p.Correct) (h : OwnsKeys p set keys secretKey r) (seed : Bytes) :
    ∃ ciphertext sharedSecret,
      p.kem.encapsulate seed keys.mlkem768Key = .ok (ciphertext, sharedSecret) ∧
      p.kem.decapsulate ciphertext secretKey = .ok sharedSecret := by
  obtain ⟨-, ciphertext, sharedSecret, hencapsulate, hopened⟩ := mlKemKeyMatches_eq_yes.mp h.kem
  exact correct.opens hencapsulate hopened seed

theorem random (correct : p.Correct) (h : OwnsKeys p set keys secretKey r) {r' : KeyCheckRandom}
    (hyes : x25519KeyContributes p.x25519 keys.x25519Key r'.agreement = .yes) :
    OwnsKeys p set keys secretKey r' := by
  obtain ⟨hx, -⟩ := signingKeyMatches_eq_true.mp h.signing
  obtain ⟨hx', -⟩ := x25519KeyMatches_eq_true.mp h.x25519
  obtain ⟨hembedded, -⟩ := mlKemKeyMatches_eq_yes.mp h.kem
  obtain ⟨signingKey, verifier, hsigning, hverifier, hsigns⟩ := h.signs correct
  obtain ⟨signature, hsign, hverify⟩ := hsigns (keyCheckMessage r'.challenge)
  obtain ⟨privateKey, identityKey, himport, hidentity, hagrees⟩ := h.agrees correct
  obtain ⟨-, peer, hpeer, fresh, hfresh, shared, hshared, hzero⟩ := x25519KeyContributes_eq_yes.mp hyes
  obtain ⟨hlen, freshKey, secret, hfreshKey, hone, hother⟩ := hagrees hfresh
  obtain ⟨-, hpeer'⟩ := importRecipientPublicKey_toBase64_eq_ok.mp hidentity
  rw [hpeer] at hpeer'
  cases hpeer'
  rw [hother] at hshared
  cases hshared
  obtain ⟨ciphertext, sharedSecret, hencapsulate, hopened⟩ := h.opens correct r'.encapsulation
  exact ⟨signingKeyMatches_eq_true.mpr
      ⟨hx, signingKey, verifier, signature, hsigning, hverifier, hsign, hverify⟩,
    x25519KeyMatches_eq_true.mpr ⟨hx', privateKey, _, fresh, freshKey, _, himport, hidentity,
      hfresh, importRecipientPublicKey_toBase64_eq_ok.mpr ⟨hlen, hfreshKey⟩, hone, hother, hzero⟩,
    h.provider,
    mlKemKeyMatches_eq_yes.mpr ⟨hembedded, ciphertext, sharedSecret, hencapsulate, hopened⟩⟩

end OwnsKeys

/-- A key set that passes once passes with any randomness. -/
theorem checkReleaseKeySet_random {ν : Type} [DecidableEq ν] [One ν] {p : Platform}
    (correct : p.Correct) {keySet : Json ν} {account : Option JsString} {r : KeyCheckRandom}
    {u : Unit} (h : checkReleaseKeySet p keySet account r = .ok u) (r' : KeyCheckRandom) :
    checkReleaseKeySet p keySet account r' = .ok u := by
  obtain ⟨set, identity, hset, hidentity, keys, message, secretKey, form, hsecret, howns⟩ :=
    checkReleaseKeySet_eq_ok.mp h
  have hidentity' := verifyReleaseIdentity_seed correct hidentity r'.identity
  refine checkReleaseKeySet_eq_ok.mpr ⟨set, identity, hset, hidentity', keys, message,
    secretKey, form, hsecret, howns.random correct ?_⟩
  obtain ⟨-, -, -, keys', message', form', hyes, -⟩ := verifyReleaseIdentity_eq_ok.mp hidentity
  have hkey : keys'.x25519Key = keys.x25519Key := Option.some.inj (form'.x25519Key.symm.trans form.x25519Key)
  rw [hkey] at hyes
  exact x25519KeyContributes_seed correct hyes r'.agreement

end Blackout.Protocol
