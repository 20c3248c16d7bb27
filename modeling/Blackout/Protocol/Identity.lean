import Blackout.Protocol.Parse
import Blackout.Protocol.HybridSeal

/-!
# Release identities (`release/identity.ts`)

`x25519KeyContributes` and `verifyReleaseIdentity`.
-/

namespace Blackout.Protocol

open Json

variable {p : Platform} {seed key : Bytes} {account : Option JsString}

/-- An account's public keys, signed by its own signing key. -/
structure ReleaseIdentity where
  accountId : JsString
  signingKey : JsString
  x25519Key : JsString
  mlkem768Key : JsString
  signature : JsString
  deriving DecidableEq

inductive ReleaseIdentityProblem
  | shape
  | version
  | accountId
  | accountMismatch
  | signingKey
  | x25519Key
  | mlkem768Key
  | signature
  | unsupported
  deriving DecidableEq, Repr

def ReleaseIdentityProblem.name : ReleaseIdentityProblem → String
  | .shape => "shape"
  | .version => "version"
  | .accountId => "account_id"
  | .accountMismatch => "account_mismatch"
  | .signingKey => "signing_key"
  | .x25519Key => "x25519_key"
  | .mlkem768Key => "mlkem768_key"
  | .signature => "signature"
  | .unsupported => "unsupported"

def IDENTITY_FIELDS : List String := ["v", "accountId", "signingKey", "x25519Key", "mlkem768Key", "signature"]

inductive KeyContribution
  | yes
  | no
  | unsupported
  deriving DecidableEq

/-- An agreement with a fresh key does not give zero. -/
def x25519KeyContributes (x : X25519) (key seed : Bytes) : KeyContribution :=
  if !x25519KeyIsCanonical key then .no
  else
    match (do
      let peer ← importRecipientPublicKey x (toBase64 key)
      let ephemeral ← x.generateKeyPair seed
      x.deriveBits ephemeral.1 peer) with
    | .ok shared => if !isAllZero shared then .yes else .no
    | .error .notSupported => .unsupported
    | .error _ => .no

def requireBytes {ε : Type} (problem : ε) (value : Option JsString) (length : Nat)
    (check : Bytes → Bool) : Except ε (JsString × Bytes) :=
  match value with
  | some text =>
    match decodeCanonicalBase64 text (some length) with
    | some bytes => if check bytes then .ok (text, bytes) else .error problem
    | none => .error problem
  | none => .error problem

def signatureAnswer (e : Ed25519) (signingKey signature message : Bytes) : Except Failure Bool := do
  let publicKey ← e.importVerifyKey signingKey
  e.verify publicKey signature message

/-- The checks of an identity whose fields are of the accepted forms: a fresh key, then the
signature. The fingerprint of the bytes that were signed. -/
def checkSigned (p : Platform) (fields : ReleaseIdentityKeyBytes) (signature seed : Bytes) :
    Except (Refusal ReleaseIdentityProblem) JsString :=
  match x25519KeyContributes p.x25519 fields.x25519Key seed with
  | .unsupported => .error (.returned .unsupported)
  | .no => .error (.returned .x25519Key)
  | .yes =>
    match releaseIdentitySignedBytes fields with
    | .error message => .error (.threw (.error message))
    | .ok signedBytes =>
      match signatureAnswer p.ed25519 fields.signingKey signature signedBytes with
      | .error .notSupported => .error (.returned .unsupported)
      | .error _ => .error (.returned .signingKey)
      | .ok false => .error (.returned .signature)
      | .ok true => .ok (toHex (sha256 signedBytes))

section
variable {ν : Type} [DecidableEq ν] [One ν]

/-- The check of an identity, as it was published. -/
def verifyReleaseIdentity (p : Platform) (input : Json ν) (account : Option JsString)
    (seed : Bytes) : Except (Refusal ReleaseIdentityProblem) (ReleaseIdentity × JsString) :=
  if !input.hasExactly IDENTITY_FIELDS then .error (.returned .shape)
  else if !isOne (input.field "v") then .error (.returned .version)
  else do
    let accountId ←
      require (.returned .accountId) (input.strField "accountId") releaseAccountIdPattern
    if account.any (· ≠ accountId) then .error (.returned .accountMismatch)
    else do
      let signingKey ← requireBytes (.returned .signingKey) (input.strField "signingKey")
        ED25519_PUBLIC_KEY_BYTES ed25519PublicKeyIsAcceptable
      let x25519Key ← requireBytes (.returned .x25519Key) (input.strField "x25519Key")
        X25519_PUBLIC_KEY_BYTES x25519KeyIsCanonical
      let mlkem768Key ← requireBytes (.returned .mlkem768Key) (input.strField "mlkem768Key")
        MLKEM768_PUBLIC_KEY_BYTES mlKem768EncapsulationKeyIsWellFormed
      let signature ← requireBytes (.returned .signature) (input.strField "signature")
        ED25519_SIGNATURE_BYTES ed25519SignatureIsAcceptable
      let fingerprint ←
        checkSigned p ⟨accountId, signingKey.2, x25519Key.2, mlkem768Key.2⟩ signature.2 seed
      return (⟨accountId, signingKey.1, x25519Key.1, mlkem768Key.1, signature.1⟩, fingerprint)

def ReleaseIdentity.toJson (i : ReleaseIdentity) : Json ν :=
  .obj [(jsString "v", .num 1), (jsString "accountId", .str i.accountId),
    (jsString "signingKey", .str i.signingKey), (jsString "x25519Key", .str i.x25519Key),
    (jsString "mlkem768Key", .str i.mlkem768Key), (jsString "signature", .str i.signature)]

end

/-! ## What is accepted -/

structure IdentityKeys where
  signingKey : Bytes
  x25519Key : Bytes
  mlkem768Key : Bytes
  signature : Bytes

def IdentityKeys.fields (keys : IdentityKeys) (accountId : JsString) : ReleaseIdentityKeyBytes :=
  ⟨accountId, keys.signingKey, keys.x25519Key, keys.mlkem768Key⟩

/-- What the check accepts. -/
structure IdentityForm (p : Platform) (i : ReleaseIdentity) (keys : IdentityKeys)
    (message : Bytes) : Prop where
  accountId : releaseAccountIdPattern i.accountId = true
  signingKey : decodeCanonicalBase64 i.signingKey (some ED25519_PUBLIC_KEY_BYTES) = some keys.signingKey
  signingKeyForm : ed25519PublicKeyIsAcceptable keys.signingKey = true
  x25519Key : decodeCanonicalBase64 i.x25519Key (some X25519_PUBLIC_KEY_BYTES) = some keys.x25519Key
  x25519KeyForm : x25519KeyIsCanonical keys.x25519Key = true
  mlkem768Key : decodeCanonicalBase64 i.mlkem768Key (some MLKEM768_PUBLIC_KEY_BYTES) = some keys.mlkem768Key
  mlkem768KeyForm : mlKem768EncapsulationKeyIsWellFormed keys.mlkem768Key = true
  signature : decodeCanonicalBase64 i.signature (some ED25519_SIGNATURE_BYTES) = some keys.signature
  signatureForm : ed25519SignatureIsAcceptable keys.signature = true
  signedBytes : releaseIdentitySignedBytes (keys.fields i.accountId) = .ok message
  verified : signatureAnswer p.ed25519 keys.signingKey keys.signature message = .ok true

theorem requireBytes_eq_ok {ε : Type} {problem : ε} {value : Option JsString} {length : Nat}
    {check : Bytes → Bool} {r : JsString × Bytes} : requireBytes problem value length check = .ok r ↔
      value = some r.1 ∧ decodeCanonicalBase64 r.1 (some length) = some r.2 ∧ check r.2 = true := by
  constructor
  · intro h
    unfold requireBytes at h
    split at h
    next text =>
      split at h
      next bytes hdecode =>
        split at h
        next hcheck =>
          cases h
          exact ⟨rfl, hdecode, hcheck⟩
        next => cases h
      next => cases h
    next => cases h
  · rintro ⟨rfl, hdecode, hcheck⟩
    simp [requireBytes, hdecode, hcheck]

theorem checkSigned_eq_ok {fields : ReleaseIdentityKeyBytes} {signature : Bytes} {fingerprint : JsString} :
    checkSigned p fields signature seed = .ok fingerprint ↔
      x25519KeyContributes p.x25519 fields.x25519Key seed = .yes ∧
      ∃ message, releaseIdentitySignedBytes fields = .ok message ∧
        signatureAnswer p.ed25519 fields.signingKey signature message = .ok true ∧
        fingerprint = toHex (sha256 message) := by
  constructor
  · intro h
    unfold checkSigned at h
    split at h
    · cases h
    · cases h
    next hyes =>
    split at h
    · cases h
    next message hmessage =>
    split at h
    · cases h
    · cases h
    · cases h
    next hanswer =>
    cases h
    exact ⟨hyes, message, hmessage, hanswer, rfl⟩
  · rintro ⟨hyes, message, hmessage, hanswer, rfl⟩
    simp only [checkSigned, hyes, hmessage, hanswer]

section
variable {ν : Type} [DecidableEq ν] [One ν]
  {p : Platform} {account : Option JsString} {seed : Bytes} {i : ReleaseIdentity}
  {fingerprint : JsString}

omit [DecidableEq ν] in
theorem agree_identity_iff {input : Json ν} : Agree IDENTITY_FIELDS input i.toJson ↔
      input.field "v" = some (.num 1) ∧ input.field "accountId" = some (.str i.accountId) ∧
      input.field "signingKey" = some (.str i.signingKey) ∧ input.field "x25519Key" = some (.str i.x25519Key) ∧
      input.field "mlkem768Key" = some (.str i.mlkem768Key) ∧
        input.field "signature" = some (.str i.signature) := by
  simp only [Agree, IDENTITY_FIELDS, List.forall_mem_cons, List.not_mem_nil, false_implies,
    implies_true, and_true]
  rfl

/-- Exactly the six fields, each of its one form, a signature by the identity's own key over the
bytes that the fingerprint hashes. -/
theorem verifyReleaseIdentity_eq_ok {input : Json ν} :
    verifyReleaseIdentity p input account seed = .ok (i, fingerprint) ↔
      input.hasExactly IDENTITY_FIELDS = true ∧ Agree IDENTITY_FIELDS input i.toJson ∧
      (∀ a, account = some a → a = i.accountId) ∧ ∃ keys message, IdentityForm p i keys message ∧
        x25519KeyContributes p.x25519 keys.x25519Key seed = .yes ∧ fingerprint = toHex (sha256 message) := by
  rw [agree_identity_iff, verifyReleaseIdentity]
  simp only [guard_eq_ok, not_true_iff, isOne_iff, bind_eq_ok, require_eq_ok, requireBytes_eq_ok,
    strField_eq_some, any_not_iff, checkSigned_eq_ok]
  constructor
  · rintro ⟨hshape, h0, _, ⟨haccount, hform⟩, hmatch, k1, ⟨h1, d1, c1⟩, k2, ⟨h2, d2, c2⟩, k3,
      ⟨h3, d3, c3⟩, k4, ⟨h4, d4, c4⟩, _, ⟨hyes, message, hmessage, hanswer, rfl⟩, ⟨⟩⟩
    exact ⟨hshape, ⟨h0, haccount, h1, h2, h3, h4⟩, hmatch, ⟨k1.2, k2.2, k3.2, k4.2⟩, message,
      ⟨hform, d1, c1, d2, c2, d3, c3, d4, c4, hmessage, hanswer⟩, hyes, rfl⟩
  · rintro ⟨hshape, ⟨h0, haccount, h1, h2, h3, h4⟩, hmatch, keys, message, form, hyes, rfl⟩
    exact ⟨hshape, h0, _, ⟨haccount, form.accountId⟩, hmatch,
      (_, keys.signingKey), ⟨h1, form.signingKey, form.signingKeyForm⟩,
      (_, keys.x25519Key), ⟨h2, form.x25519Key, form.x25519KeyForm⟩,
      (_, keys.mlkem768Key), ⟨h3, form.mlkem768Key, form.mlkem768KeyForm⟩,
      (_, keys.signature), ⟨h4, form.signature, form.signatureForm⟩, _,
      ⟨hyes, message, form.signedBytes, form.verified, rfl⟩, rfl⟩

theorem verifyReleaseIdentity_toJson_eq_ok {i' : ReleaseIdentity} :
    verifyReleaseIdentity p (i.toJson : Json ν) account seed = .ok (i', fingerprint) ↔
      i' = i ∧ (∀ a, account = some a → a = i.accountId) ∧ ∃ keys message, IdentityForm p i keys message ∧
        x25519KeyContributes p.x25519 keys.x25519Key seed = .yes ∧ fingerprint = toHex (sha256 message) := by
  rw [verifyReleaseIdentity_eq_ok]
  constructor
  · rintro ⟨-, hagree, hrest⟩
    obtain ⟨_, _, _, _, _⟩ := i
    obtain ⟨-, ⟨⟩, ⟨⟩, ⟨⟩, ⟨⟩, ⟨⟩⟩ := agree_identity_iff.mp hagree
    exact ⟨rfl, hrest⟩
  · rintro ⟨rfl, hrest⟩
    exact ⟨rfl, fun _ _ => rfl, hrest⟩

end

/-! ## Every time -/

theorem length_of_canonical (h : x25519KeyIsCanonical key = true) : key.length = 32 := by
  simp only [x25519KeyIsCanonical, Bool.and_eq_true, decide_eq_true_eq] at h
  exact h.1.1

theorem x25519KeyContributes_eq_yes {x : X25519} : x25519KeyContributes x key seed = .yes ↔
      x25519KeyIsCanonical key = true ∧ ∃ peer, x.importPublicKey key = .ok peer ∧
        ∃ fresh, x.generateKeyPair seed = .ok fresh ∧
          ∃ shared, x.deriveBits fresh.1 peer = .ok shared ∧ isAllZero shared = false := by
  constructor
  · intro h
    unfold x25519KeyContributes at h
    split at h
    · cases h
    next hcanonical =>
    have hcanonical := not_true_iff.mp hcanonical
    split at h
    next shared hshared =>
      split at h
      next hzero =>
        simp only [bind_eq_ok, importRecipientPublicKey_toBase64 (length_of_canonical hcanonical)]
          at hshared
        obtain ⟨peer, hpeer, fresh, hfresh, hshared⟩ := hshared
        exact ⟨hcanonical, peer, hpeer, fresh, hfresh, shared, hshared, by simpa using hzero⟩
      next => cases h
    next => cases h
    next => cases h
  · rintro ⟨hcanonical, peer, hpeer, fresh, hfresh, shared, hshared, hzero⟩
    have hrun : (do
        let peer ← importRecipientPublicKey x (toBase64 key)
        let ephemeral ← x.generateKeyPair seed
        x.deriveBits ephemeral.1 peer) = .ok shared := by
      simp only [bind_eq_ok, importRecipientPublicKey_toBase64 (length_of_canonical hcanonical)]
      exact ⟨peer, hpeer, fresh, hfresh, hshared⟩
    simp [x25519KeyContributes, hcanonical, hrun, hzero, Bool.not_true, Bool.not_false, Bool.false_eq_true]

theorem x25519KeyContributes_seed (correct : p.Correct)
    (h : x25519KeyContributes p.x25519 key seed = .yes) (seed' : Bytes) :
    x25519KeyContributes p.x25519 key seed' = .yes := by
  obtain ⟨hcanonical, peer, hpeer, fresh, hfresh, shared, hshared, hzero⟩ := x25519KeyContributes_eq_yes.mp h
  obtain ⟨fresh', public', shared', hfresh', hshared', hzero'⟩ := correct.contributes hfresh hshared hzero seed'
  exact x25519KeyContributes_eq_yes.mpr
    ⟨hcanonical, peer, hpeer, (fresh', public'), hfresh', shared', hshared', hzero'⟩

/-- The check draws a fresh key; if it passes with one it passes with any. -/
theorem verifyReleaseIdentity_seed {ν : Type} [DecidableEq ν] [One ν]
    (correct : p.Correct) {input : Json ν}
    {r : ReleaseIdentity × JsString} (h : verifyReleaseIdentity p input account seed = .ok r)
    (seed' : Bytes) : verifyReleaseIdentity p input account seed' = .ok r := by
  obtain ⟨hshape, hagree, hmatch, keys, message, form, hyes, hfp⟩ := verifyReleaseIdentity_eq_ok.mp h
  exact verifyReleaseIdentity_eq_ok.mpr ⟨hshape, hagree, hmatch, keys, message, form,
    x25519KeyContributes_seed correct hyes seed', hfp⟩

end Blackout.Protocol
