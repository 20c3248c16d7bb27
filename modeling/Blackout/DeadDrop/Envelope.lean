import Blackout.Lib.Json

/-!
# Opaque envelopes (`deaddrop-appservice/src/envelope.mjs`, `deaddrop/crypto/envelope.ts`)

What the appservice accepts as a drop: the published fields of one of two versions and no others.
-/

namespace Blackout.DeadDrop

def V1_ALLOWED_KEYS : List String := ["v", "suite", "pad", "dropId", "clue", "ek", "nonce", "ct", "expiresAt"]

def V2_ALLOWED_KEYS : List String :=
  ["v", "suite", "pad", "dropId", "clue", "ek", "pqCt", "nonce", "ct", "expiresAt"]

def V1_SUITE : String := "sealedbox-x25519-aes256gcm-v1"
def V2_SUITE : String := "sealedbox-x25519-mlkem768-aes256gcm-v2"

def padIsValid (pad : Option JsString) : Bool :=
  pad = some (jsString "minimal") || pad = some (jsString "bucket")

variable (input : Json Rat)

def nonEmptyStrings (keys : List String) : Bool :=
  keys.all fun k => (input.strField k).any (·.length ≠ 0)

def ownKeys : Json Rat → Option (List JsString)
  | .obj fields => some (fields.map Prod.fst)
  | .arr items => some ((List.range items.length).map fun i => jsString (toString i))
  | _ => none

def isNumber (n : Rat) : Option (Json Rat) → Bool
  | some (.num m) => m = n
  | _ => false

/-- The check of one version, on a parsed JSON value: the published fields and no others. -/
def isOpaqueEnvelopeOf (allowed : List String) (v : Rat) (suite : String) (strings : List String)
    (input : Json Rat) : Bool :=
  (ownKeys input).any (fun keys => keys.all (· ∈ allowed.map jsString)) && isNumber v (input.field "v") &&
    (input.strField "suite" = some (jsString suite)) && padIsValid (input.strField "pad") &&
    nonEmptyStrings input strings

def isOpaqueEnvelopeV1 : Bool :=
  isOpaqueEnvelopeOf V1_ALLOWED_KEYS 1 V1_SUITE ["dropId", "clue", "ek", "nonce", "ct", "expiresAt"] input

def isOpaqueEnvelopeV2 : Bool :=
  isOpaqueEnvelopeOf V2_ALLOWED_KEYS 2 V2_SUITE
    ["dropId", "clue", "ek", "pqCt", "nonce", "ct", "expiresAt"] input

/-- The check of the appservice. -/
def isOpaqueEnvelope : Bool := isOpaqueEnvelopeV1 input || isOpaqueEnvelopeV2 input

/-- A value with the proof that it passed the check. -/
structure OpaqueEnvelope where
  input : Json Rat
  accepted : isOpaqueEnvelope input = true

namespace OpaqueEnvelope

variable (e : OpaqueEnvelope)

def text (name : String) : JsString := (e.input.strField name).getD []

def pad : JsString := e.text "pad"
def dropId : JsString := e.text "dropId"
def clue : JsString := e.text "clue"
def ct : JsString := e.text "ct"
def expiresAt : JsString := e.text "expiresAt"

def ofJson? (input : Option (Json Rat)) : Option OpaqueEnvelope :=
  input.bind fun v => if h : isOpaqueEnvelope v = true then some ⟨v, h⟩ else none

theorem padIsValid_pad : padIsValid (some e.pad) = true := by
  have hpad : padIsValid (e.input.strField "pad") = true := by
    have h := e.accepted
    simp only [isOpaqueEnvelope, isOpaqueEnvelopeV1, isOpaqueEnvelopeV2, isOpaqueEnvelopeOf,
      Bool.or_eq_true, Bool.and_eq_true] at h
    rcases h with ⟨⟨-, h⟩, -⟩ | ⟨⟨-, h⟩, -⟩
    · exact h
    · exact h
  rw [pad, text]
  cases hp : e.input.strField "pad" with
  | none => simp [hp, padIsValid] at hpad
  | some p => rwa [hp] at hpad

end OpaqueEnvelope

/-! ## The check of the protocol package -/

namespace Client

def V1_ALLOWED_KEYS : List String := ["v", "suite", "pad", "dropId", "clue", "ek", "nonce", "ct", "expiresAt"]

def V2_ALLOWED_KEYS : List String :=
  ["v", "suite", "pad", "dropId", "clue", "ek", "pqCt", "nonce", "ct", "expiresAt"]

def isString (text : String) : Option (Json Rat) → Bool
  | some (.str s) => s = jsString text
  | _ => false

def padIsValid (pad : Option (Json Rat)) : Bool := isString "minimal" pad || isString "bucket" pad

/-- The loop over the keys of the object. -/
def onlyKeys (allowed : List String) : List JsString → Bool
  | [] => true
  | key :: keys => if key ∉ allowed.map jsString then false else onlyKeys allowed keys

/-- The loop over the fields that are non-empty strings. -/
def stringsPresent (obj : Json Rat) : List String → Bool
  | [] => true
  | k :: ks =>
    match obj.field k with
    | some (.str s) => if s.length = 0 then false else stringsPresent obj ks
    | _ => false

def isOpaqueEnvelopeOf (allowed : List String) (v : Rat) (suite : String) (strings : List String)
    (obj : Json Rat) : Bool :=
  match ownKeys obj with
  | none => false
  | some keys =>
    if !onlyKeys allowed keys then false
    else if !isNumber v (obj.field "v") then false
    else if !isString suite (obj.field "suite") then false
    else if !padIsValid (obj.field "pad") then false
    else stringsPresent obj strings

def isOpaqueEnvelopeV1 (input : Json Rat) : Bool :=
  isOpaqueEnvelopeOf V1_ALLOWED_KEYS 1 "sealedbox-x25519-aes256gcm-v1"
    ["dropId", "clue", "ek", "nonce", "ct", "expiresAt"] input

def isOpaqueEnvelopeV2 (input : Json Rat) : Bool :=
  isOpaqueEnvelopeOf V2_ALLOWED_KEYS 2 "sealedbox-x25519-mlkem768-aes256gcm-v2"
    ["dropId", "clue", "ek", "pqCt", "nonce", "ct", "expiresAt"] input

def isOpaqueEnvelope (input : Json Rat) : Bool := isOpaqueEnvelopeV1 input || isOpaqueEnvelopeV2 input

theorem onlyKeys_eq (allowed : List String) (keys : List JsString) :
    onlyKeys allowed keys = keys.all (· ∈ allowed.map jsString) := by
  induction keys with
  | nil => rfl
  | cons key keys ih =>
    rw [onlyKeys, ih, List.all_cons]
    by_cases h : key ∈ allowed.map jsString
    · simp [h, not_true_eq_false, decide_true, Bool.true_and]
    · simp only [h, not_false_eq_true, if_true, decide_false, Bool.false_and]

theorem stringsPresent_eq (obj : Json Rat) (keys : List String) :
    stringsPresent obj keys = nonEmptyStrings obj keys := by
  induction keys with
  | nil => rfl
  | cons k ks ih =>
    rw [stringsPresent, ih, nonEmptyStrings, nonEmptyStrings, List.all_cons, Json.strField]
    rcases obj.field k with _ | (_ | _ | _ | s | _ | _)
    case some.str => cases s <;> rfl
    all_goals rfl

theorem isString_eq (obj : Json Rat) (name text : String) :
    isString text (obj.field name) = decide (obj.strField name = some (jsString text)) := by
  rw [Json.strField]
  rcases obj.field name with _ | (_ | _ | _ | _ | _ | _)
  all_goals simp [isString, Json.str?]

theorem isOpaqueEnvelopeOf_eq (allowed : List String) (v : Rat) (suite : String)
    (strings : List String) (input : Json Rat) : isOpaqueEnvelopeOf allowed v suite strings input =
      DeadDrop.isOpaqueEnvelopeOf allowed v suite strings input := by
  rw [isOpaqueEnvelopeOf, DeadDrop.isOpaqueEnvelopeOf]
  cases ownKeys input with
  | none => rfl
  | some keys =>
    simp only [onlyKeys_eq, stringsPresent_eq, padIsValid, isString_eq, Option.any_some, DeadDrop.padIsValid]
    grind

end Client

/-- The appservice and the protocol package accept the same values, as either version. -/
theorem checks_agree : isOpaqueEnvelopeV1 input = Client.isOpaqueEnvelopeV1 input ∧
    isOpaqueEnvelopeV2 input = Client.isOpaqueEnvelopeV2 input ∧
    isOpaqueEnvelope input = Client.isOpaqueEnvelope input := by
  have h1 : isOpaqueEnvelopeV1 input = Client.isOpaqueEnvelopeV1 input :=
    (Client.isOpaqueEnvelopeOf_eq _ _ _ _ input).symm
  have h2 : isOpaqueEnvelopeV2 input = Client.isOpaqueEnvelopeV2 input :=
    (Client.isOpaqueEnvelopeOf_eq _ _ _ _ input).symm
  refine ⟨h1, h2, ?_⟩
  rw [isOpaqueEnvelope, h1, h2, Client.isOpaqueEnvelope]

end Blackout.DeadDrop
