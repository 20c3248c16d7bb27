import Blackout.Lib.PyString
import Blackout.Lib.Sha256
import Blackout.Lib.HashChain

/-!
# Event envelopes

`blackout_runtime/envelope.py`: signed events that name the digest of the event before them.
-/

namespace Blackout.Runtime

structure EventEnvelope where
  eventId : PyString
  eventType : PyString
  timestamp : Int
  actorPublicKey : PyString
  encryptedPayload : PyString
  previousHash : PyString
  roomId : PyString
  crdtSite : PyString
  crdtCounter : Int
  signature : PyString
  deriving DecidableEq, Repr

/-! ## Canonical JSON -/

def hexDigit (n : Nat) : Char := Char.ofNat (if n < 10 then 48 + n else 87 + n)

/-- `\uXXXX`, a UTF-16 unit. -/
def unicodeEscape (u : Nat) : List Char :=
  ['\\', 'u', hexDigit (u / 4096 % 16), hexDigit (u / 256 % 16), hexDigit (u / 16 % 16), hexDigit (u % 16)]

def escape (c : CodePoint) : List Char :=
  if c.val = 34 then ['\\', '"']
  else if c.val = 92 then ['\\', '\\']
  else if c.val = 10 then ['\\', 'n']
  else if c.val = 13 then ['\\', 'r']
  else if c.val = 9 then ['\\', 't']
  else if c.val = 12 then ['\\', 'f']
  else if c.val = 8 then ['\\', 'b']
  else if 32 ≤ c.val ∧ c.val ≤ 126 then [Char.ofNat c.val]
  else if c.val < 65536 then unicodeEscape c.val
  else
    unicodeEscape (55296 + (c.val - 65536) / 1024) ++ unicodeEscape (56320 + (c.val - 65536) % 1024)

def jsonString (s : PyString) : List Char := '"' :: s.flatMap escape ++ ['"']

def jsonInt (n : Int) : List Char := (toString n).toList

/-- The fields without the signature, sorted by name, no spaces, everything outside printable ASCII
escaped. -/
def canonicalJson (event : EventEnvelope) : Bytes :=
  let fields := [("actor_public_key", jsonString event.actorPublicKey),
      ("crdt_counter", jsonInt event.crdtCounter), ("crdt_site", jsonString event.crdtSite),
      ("encrypted_payload", jsonString event.encryptedPayload),
      ("event_id", jsonString event.eventId),
      ("event_type", jsonString event.eventType),
      ("previous_hash", jsonString event.previousHash),
      ("room_id", jsonString event.roomId),
      ("timestamp", jsonInt event.timestamp)]
  let items := fields.map fun (name, value) => '"' :: name.toList ++ ['"', ':'] ++ value
  ('\x7b' :: ([','].intercalate items) ++ ['\x7d']).map fun c => UInt8.ofNat c.toNat

/-! ## Digests -/

def hexdigest (bytes : Bytes) : PyString :=
  py (String.ofList (bytes.flatMap fun byte =>
    [hexDigit (byte.toNat / 16), hexDigit (byte.toNat % 16)]))

/-- `sha256:` and the SHA-256 of the canonical JSON in hexadecimal. -/
def EventEnvelope.digest (event : EventEnvelope) : PyString :=
  py "sha256:" ++ hexdigest (sha256 (canonicalJson event))

/-- The hash that the first event of a log names. It is no digest. -/
def genesis : PyString := py "genesis"

theorem digest_ne_genesis (event : EventEnvelope) : event.digest ≠ genesis := by
  intro h
  have hhead := congrArg List.head? h
  exact absurd (congrArg Fin.val (Option.some.inj hhead)) (by decide)

def EventEnvelope.verifyPreviousHash (event : EventEnvelope) (expected : PyString) : Bool :=
  event.previousHash = expected

/-! ## Chains of events -/

/-- Each event names the digest of the one before it. -/
abbrev Chain (log : List EventEnvelope) : Prop :=
  HashChain.Chained EventEnvelope.previousHash EventEnvelope.digest log

abbrev ChainFrom (hash : PyString) (log : List EventEnvelope) : Prop :=
  HashChain.ChainedFrom EventEnvelope.previousHash EventEnvelope.digest hash log

/-- The assumption about SHA-256. -/
abbrev NoCycle (events : EventEnvelope → Prop) : Prop :=
  HashChain.Acyclic EventEnvelope.previousHash EventEnvelope.digest events

theorem lastHash_ne_genesis (event : EventEnvelope) (log : List EventEnvelope) :
    HashChain.lastHash EventEnvelope.digest event.digest log ≠ genesis := by
  induction log generalizing event with
  | nil =>
    exact digest_ne_genesis event
  | cons next log ih =>
    rw [HashChain.lastHash]
    exact ih next

end Blackout.Runtime
