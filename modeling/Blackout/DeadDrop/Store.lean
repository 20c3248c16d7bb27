import Blackout.DeadDrop.Envelope
import Blackout.Lib.IsoDate
import Blackout.Lib.PlainObject
import Blackout.Lib.Run

/-!
# The store of dead drops (`deaddrop-appservice/src/storage.mjs`, `handleSend` of `index.mjs`)

Drops are the rows of a plain object under their clues. A drop goes when a fetch or a sweep finds
that `Date.parse` of its `expiresAt` has passed.

`Date.parse` is a parameter; `none` is its NaN.

A clue that every plain object inherits is never stored, and fetching it throws. An envelope whose
`expiresAt` is no date is kept for ever.
-/

namespace Blackout.DeadDrop

open Run List

/-! ## The code -/

inductive Thrown
  | error (message : JsString)
  | typeError
  | rangeError
  deriving DecidableEq

structure Drop where
  envelope : OpaqueEnvelope
  storedAt : JsString

abbrev Drop.clue (row : Drop) : JsString := row.envelope.clue

structure DecoySeed where
  roomId : JsString
  seedHex : JsString
  length_seedHex : seedHex.length = 64

/-- The state of the appservice: the drops and the seeds of the decoys. -/
structure Store where
  drops : Dictionary Drop.clue
  decoySeeds : Dictionary DecoySeed.roomId

def emptyState : Store := ⟨.empty, .empty⟩

structure Reply where
  code : Nat
  body : Json Rat

def errorReply (code : Nat) (error : JsString) : Reply := ⟨code, .obj [(jsString "error", .str error)]⟩

section Code
variable (parse : JsString → Option Int) (now : Int)

/-- `Date.parse(envelope.expiresAt) <= now`, which is false for NaN. -/
def expired (e : OpaqueEnvelope) : Bool := (parse e.expiresAt).any (· ≤ now)

/-- A drop under a clue that is taken throws. -/
def insertDrop (s : Store) (envelope : OpaqueEnvelope) : Except Thrown Store :=
  match h : s.drops.read envelope.clue with
  | .undefined => .ok { s with drops := s.drops.add ⟨envelope, jsString (toISOString now)⟩ h }
  | _ => .error (.error (jsString "drop with clue " ++ envelope.clue ++ jsString " already exists"))

/-- The drop under a clue; one that has expired goes. -/
def fetchByClue (s : Store) (clueBase64 : JsString) : Except Thrown (List OpaqueEnvelope) × Store :=
  match s.drops.read clueBase64 with
  | .undefined => (.ok [], s)
  | .inherited => (.error .typeError, s)
  | .own row =>
    if expired parse now row.envelope then (.ok [], { s with drops := s.drops.delete clueBase64 })
    else (.ok [row.envelope], s)

def sweepRow (p : Nat × Dictionary Drop.clue) (row : Drop) : Nat × Dictionary Drop.clue :=
  if expired parse now row.envelope then (p.1 + 1, p.2.delete row.clue) else p

def sweepExpired (s : Store) : Nat × Store :=
  let p := s.drops.rows.values.foldl (sweepRow parse now) (0, s.drops)
  (p.1, { s with drops := p.2 })

def invalidEnvelope : Reply := ⟨400, .obj [(jsString "error", .str (jsString "invalid envelope")),
    (jsString "detail", .str (jsString "envelope must contain exactly the published opaque-ciphertext fields"))]⟩

def sent (envelope : OpaqueEnvelope) : Reply :=
  ⟨200, .obj [(jsString "ok", .bool true), (jsString "dropId", .str envelope.dropId),
    (jsString "clue", .str envelope.clue)]⟩

def Thrown.message : Thrown → JsString
  | .error message => message
  | .typeError | .rangeError => []

def isNull : Json Rat → Bool
  | .null => true
  | _ => false

/-- Taking the fields out of a body that is `null` throws. -/
def handleSend (s : Store) (body : Json Rat) : Except Thrown Reply × Store :=
  if isNull body then (.error .typeError, s)
  else if (body.strField "roomId").all (·.length = 0) then
    (.ok (errorReply 400 (jsString "roomId is required")), s)
  else
    match OpaqueEnvelope.ofJson? (body.field "envelope") with
    | none => (.ok invalidEnvelope, s)
    | some envelope =>
      if expired parse now envelope then
        (.ok (errorReply 400 (jsString "envelope already expired")), s)
      else
        match insertDrop now s envelope with
        | .error e => (.ok (errorReply 409 e.message), s)
        | .ok s' => (.ok (sent envelope), s')

end Code

/-! ## What each call does to the rows -/

section Calls
variable {parse : JsString → Option Int} {now now' : Int} {s s' : Store} {c c' : JsString}
  {e : OpaqueEnvelope}

theorem expired_mono (h : now ≤ now') (he : expired parse now e = true) : expired parse now' e = true := by
  rw [expired, Option.any_eq_true] at he ⊢
  obtain ⟨t, ht, hle⟩ := he
  exact ⟨t, ht, by simp only [decide_eq_true_eq] at hle ⊢; omega⟩

def Store.envelope? (s : Store) (c : JsString) : Option OpaqueEnvelope := (s.drops.get? c).map Drop.envelope

theorem insertDrop_ok (h : insertDrop now s e = .ok s') :
    s.envelope? e.clue = none ∧ e.clue ∉ inheritedNames ∧
      ∀ c, s'.envelope? c = if c = e.clue then some e else s.envelope? c := by
  rw [insertDrop] at h
  split at h
  · rename_i hread
    cases h
    obtain ⟨hnone, hname⟩ := Dictionary.read_eq_undefined.mp hread
    refine ⟨by simp [Store.envelope?, hnone], hname, fun c => ?_⟩
    rw [Store.envelope?, Dictionary.get?_add]
    by_cases hc : c = e.clue
    · simp [hc, Drop.clue]
    · simp [hc, Drop.clue, Store.envelope?]
  · cases h

theorem insertDrop_isOk :
    (insertDrop now s e).isOk = true ↔ s.envelope? e.clue = none ∧ e.clue ∉ inheritedNames := by
  constructor
  · intro h
    cases hi : insertDrop now s e with
    | error _ => simp [hi, Except.isOk, Except.toBool] at h
    | ok s' =>
      obtain ⟨hnone, hname, -⟩ := insertDrop_ok hi
      exact ⟨hnone, hname⟩
  · rintro ⟨hnone, hname⟩
    have hread := Dictionary.read_eq_undefined.mpr ⟨Option.map_eq_none_iff.mp hnone, hname⟩
    rw [insertDrop]
    split
    · rfl
    · exact absurd hread ‹_›

theorem fetchByClue_inherited (h : c ∈ inheritedNames) :
    fetchByClue parse now s c = (.error .typeError, s) := by
  rw [fetchByClue, Dictionary.read_eq_inherited.mpr h]

theorem fetchByClue_fst (h : c ∉ inheritedNames) :
    (fetchByClue parse now s c).1 = .ok ((s.envelope? c).toList.filter fun e => !expired parse now e) := by
  rw [fetchByClue, Store.envelope?]
  cases hrow : s.drops.get? c with
  | none => rw [Dictionary.read_eq_undefined.mpr ⟨hrow, h⟩]; rfl
  | some row =>
    rw [Dictionary.read_own hrow]
    by_cases he : expired parse now row.envelope = true
    · simp [he]
    · simp [he]

theorem fetchByClue_snd :
    (fetchByClue parse now s c).2.envelope? c' =
      if c' = c then (s.envelope? c).filter (fun e => !expired parse now e) else s.envelope? c' := by
  simp only [fetchByClue, Store.envelope?]
  by_cases hc : c' = c
  · subst hc
    cases hrow : s.drops.get? c' with
    | none =>
      by_cases hname : c' ∈ inheritedNames
      · simp [Dictionary.read_eq_inherited.mpr hname, hrow]
      · simp [Dictionary.read_eq_undefined.mpr ⟨hrow, hname⟩, hrow]
    | some row =>
      rw [Dictionary.read_own hrow]
      by_cases he : expired parse now row.envelope = true
      · simp [he, Option.filter]
      · simp [he, hrow, Option.filter]
  · rw [if_neg hc]
    cases s.drops.read c with
    | undefined => rfl
    | inherited => rfl
    | own row =>
      by_cases he : expired parse now row.envelope = true
      · simp [he, hc]
      · simp [he]

theorem foldl_sweepRow (rows : List Drop) (p : Nat × Dictionary Drop.clue) :
    (rows.foldl (sweepRow parse now) p).2.get? c =
      if ∃ row ∈ rows, row.clue = c ∧ expired parse now row.envelope = true then none else p.2.get? c := by
  induction rows generalizing p with
  | nil => simp
  | cons row rows ih =>
    rw [foldl_cons, ih, sweepRow]
    by_cases he : expired parse now row.envelope = true
    · by_cases hc : row.clue = c
      · simp [he, hc]
      · simp [he, hc, Ne.symm hc]
    · simp [he]

theorem sweepExpired_snd :
    (sweepExpired parse now s).2.envelope? c = (s.envelope? c).filter fun e => !expired parse now e := by
  simp only [sweepExpired, Store.envelope?, foldl_sweepRow]
  cases hrow : s.drops.get? c with
  | none => simp
  | some row =>
    have hex : (∃ r ∈ s.drops.rows.values, r.clue = c ∧ expired parse now r.envelope = true) ↔
        expired parse now row.envelope = true := by
      constructor
      · rintro ⟨r, hr, hc, he⟩
        have hget : s.drops.get? c = some r := KeyedMap.get?_eq_some.mpr ⟨hr, hc⟩
        rw [hrow] at hget
        cases hget
        exact he
      · intro he
        obtain ⟨hmem, hc⟩ := KeyedMap.get?_eq_some.mp hrow
        exact ⟨row, hmem, hc, he⟩
    rw [if_congr hex rfl rfl]
    by_cases he : expired parse now row.envelope = true
    · simp [he, Option.filter]
    · simp [he, Option.filter]

def Refused (r : Except Thrown Reply) : Prop := ∀ reply, r = .ok reply → reply.code ≠ 200

variable (parse now s) in
theorem handleSend_cases (body : Json Rat) :
    (∃ e s', OpaqueEnvelope.ofJson? (body.field "envelope") = some e ∧ expired parse now e = false ∧
        insertDrop now s e = .ok s' ∧ handleSend parse now s body = (.ok (sent e), s')) ∨
      (∃ r, handleSend parse now s body = (r, s) ∧ Refused r) := by
  have refused : ∀ code error, code ≠ 200 → Refused (.ok (errorReply code error)) := by
    rintro code error hcode reply ⟨⟩
    exact hcode
  rw [handleSend]
  split
  · exact .inr ⟨_, rfl, fun reply h => by cases h⟩
  split
  · exact .inr ⟨_, rfl, refused 400 _ (by decide)⟩
  cases hin : OpaqueEnvelope.ofJson? (body.field "envelope") with
  | none => exact .inr ⟨_, rfl, by rintro reply ⟨⟩; decide⟩
  | some e =>
    by_cases he : expired parse now e = true
    · exact .inr ⟨_, if_pos he, refused 400 _ (by decide)⟩
    simp only [he]
    cases hi : insertDrop now s e with
    | error thrown => exact .inr ⟨_, rfl, refused 409 _ (by decide)⟩
    | ok s' => exact .inl ⟨e, s', rfl, by simpa using he, hi, rfl⟩

end Calls

/-! ## Runs -/

/-- The time, the store, and the envelopes inserted so far. -/
structure State where
  now : Int
  store : Store
  inserted : List OpaqueEnvelope

inductive Action
  | wait (ms : Nat)
  | send (body : Json Rat)
  | fetch (clue : JsString)
  | sweep

section Runs
variable (parse : JsString → Option Int) {e : OpaqueEnvelope}

def insertedBy (body : Json Rat) : Except Thrown Reply → List OpaqueEnvelope
  | .ok reply =>
    if reply.code = 200 then (OpaqueEnvelope.ofJson? (body.field "envelope")).toList else []
  | .error _ => []

/-- Sends, fetches and sweeps under a clock that does not go back. -/
def step (σ : State) : Action → Option State
  | .wait ms => some { σ with now := σ.now + ms }
  | .send body =>
    let r := handleSend parse σ.now σ.store body
    some { σ with store := r.2, inserted := σ.inserted ++ insertedBy body r.1 }
  | .fetch clue => some { σ with store := (fetchByClue parse σ.now σ.store clue).2 }
  | .sweep => some { σ with store := (sweepExpired parse σ.now σ.store).2 }

def start (now : Int) : State := ⟨now, emptyState, []⟩

def Reached (σ σ' : State) : Prop := Reachable (step parse) (fun _ _ => True) σ σ'

/-- What a map of clues to unexpired envelopes holds. -/
def live (σ : State) (c : JsString) : List OpaqueEnvelope :=
  σ.inserted.filter fun e => decide (e.clue = c) && !expired parse σ.now e

/-- The rows that have not expired are the live envelopes. -/
def Refines (σ : State) : Prop :=
  ∀ c, live parse σ c = (σ.store.envelope? c).toList.filter fun e => !expired parse σ.now e

variable {parse} {σ σ' : State}

theorem filter_later (es : List OpaqueEnvelope) (now : Int) (ms : Nat) :
    (es.filter fun e => !expired parse now e).filter (fun e => !expired parse (now + ms) e) =
      es.filter fun e => !expired parse (now + ms) e := by
  rw [filter_filter]
  refine filter_congr fun e _ => ?_
  by_cases he : expired parse now e = true
  · simp [he, expired_mono (Int.le_add_of_nonneg_right (Int.natCast_nonneg ms)) he]
  · simp [he]

theorem live_eq_filter (σ : State) (c : JsString) :
    live parse σ c = (σ.inserted.filter fun e => e.clue = c).filter fun e => !expired parse σ.now e := by
  rw [live, filter_filter]
  exact filter_congr fun e _ => Bool.and_comm _ _

section
variable (h : Refines parse σ)
include h

theorem Refines.wait (ms : Nat) : Refines parse { σ with now := σ.now + ms } := by
  intro c
  have hc := h c
  rw [live_eq_filter] at hc ⊢
  rw [← filter_later _ σ.now, hc, filter_later]

theorem Refines.insert {s' : Store}
    (he : expired parse σ.now e = false) (hi : insertDrop σ.now σ.store e = .ok s') :
    Refines parse { σ with store := s', inserted := σ.inserted ++ [e] } := by
  obtain ⟨hnone, -, hs'⟩ := insertDrop_ok hi
  intro c
  have hc := h c
  rw [live] at hc ⊢
  rw [filter_append, hc, hs']
  by_cases hk : e.clue = c
  · subst hk
    simp [hnone, he]
  · simp [hk, Ne.symm hk]

theorem Refines.send (body : Json Rat) : Refines parse { σ with
      store := (handleSend parse σ.now σ.store body).2
      inserted := σ.inserted ++ insertedBy body (handleSend parse σ.now σ.store body).1 } := by
  obtain ⟨e, s', hin, he, hi, hsend⟩ | ⟨r, hsend, hr⟩ := handleSend_cases parse σ.now σ.store body
  · have hby : insertedBy body (.ok (sent e)) = [e] := by simp [insertedBy, sent, hin]
    rw [hsend, hby]
    exact h.insert he hi
  · have hby : insertedBy body r = [] := by
      cases r with
      | error _ => rfl
      | ok reply => exact if_neg (hr reply rfl)
    rw [hsend, hby, append_nil]
    exact h

theorem Refines.remove {s' : Store} (hs' : ∀ c, s'.envelope? c = σ.store.envelope? c ∨
      s'.envelope? c = (σ.store.envelope? c).filter fun e => !expired parse σ.now e) :
    Refines parse { σ with store := s' } := by
  intro c
  have hc := h c
  rw [live] at hc ⊢
  obtain hsame | hgone := hs' c
  · rw [hc, hsame]
  · rw [hc, hgone, Option.toList_filter, filter_filter]
    simp

theorem refines_step {a : Action} (hst : step parse σ a = some σ') : Refines parse σ' := by
  cases a with
  | wait ms =>
    cases hst
    exact h.wait ms
  | send body =>
    cases hst
    exact h.send body
  | fetch clue =>
    cases hst
    refine h.remove fun c => ?_
    rw [fetchByClue_snd]
    by_cases hc : c = clue
    · subst hc
      exact .inr (if_pos rfl)
    · exact .inl (if_neg hc)
  | sweep =>
    cases hst
    exact h.remove fun c => .inr sweepExpired_snd

end

theorem refines_of_reachable {now : Int} (h : Reached parse (start now) σ) : Refines parse σ :=
  h.invariant (fun _ => rfl) fun _ _ _ hσ _ hst => refines_step hσ hst

/-! ## Clues and expiry -/

variable (parse) in
/-- The store does what a map does under one clue: a fetch returns the live envelopes, an envelope
is taken when the clue is free, and neither changes what is under another clue. -/
structure MapAt (σ : State) (c : JsString) : Prop where
  fetch : (fetchByClue parse σ.now σ.store c).1 = .ok (live parse σ c)
  insert : ∀ e : OpaqueEnvelope, e.clue = c →
    ((insertDrop σ.now σ.store e).isOk = true ↔ σ.store.envelope? c = none)
  fetch_other : ∀ c' ≠ c, (fetchByClue parse σ.now σ.store c).2.envelope? c' = σ.store.envelope? c'
  send_other : ∀ body e, OpaqueEnvelope.ofJson? (body.field "envelope") = some e → e.clue = c →
    ∀ c' ≠ c, (handleSend parse σ.now σ.store body).2.envelope? c' = σ.store.envelope? c'

variable (parse) in
/-- From some time on a fetch or a sweep removes the envelope. -/
def Ends (σ : State) (e : OpaqueEnvelope) : Prop := ∃ t, ∀ σ', Reached parse σ σ' → t ≤ σ'.now →
    (fetchByClue parse σ'.now σ'.store e.clue).2.envelope? e.clue ≠ some e ∧
      (sweepExpired parse σ'.now σ'.store).2.envelope? e.clue ≠ some e

theorem mapAt_iff (h : Refines parse σ) (c : JsString) : MapAt parse σ c ↔ c ∉ inheritedNames := by
  constructor
  · intro hmap hc
    have hfetch := hmap.fetch
    rw [fetchByClue_inherited hc] at hfetch
    cases hfetch
  · intro hc
    refine ⟨by rw [fetchByClue_fst hc, h c], ?_, ?_, ?_⟩
    · rintro e rfl
      rw [insertDrop_isOk]
      exact and_iff_left hc
    · intro c' hne
      rw [fetchByClue_snd, if_neg hne]
    · rintro body e hin rfl c' hne
      obtain ⟨e', s', hin', -, hi, hsend⟩ | ⟨r, hsend, -⟩ := handleSend_cases parse σ.now σ.store body
      · obtain rfl : e = e' := Option.some.inj (hin.symm.trans hin')
        rw [hsend, (insertDrop_ok hi).2.2, if_neg hne]
      · rw [hsend]

theorem ends_of_parse {t : Int} (ht : parse e.expiresAt = some t) (σ : State) : Ends parse σ e := by
  refine ⟨t, fun σ' _ hle => ?_⟩
  have he : expired parse σ'.now e = true := by simp [expired, ht, hle]
  have gone : ∀ o : Option OpaqueEnvelope, o.filter (fun e => !expired parse σ'.now e) ≠ some e := by
    intro o ho
    have hp := (Option.filter_eq_some_iff.mp ho).2
    simp [he] at hp
  rw [fetchByClue_snd, if_pos rfl, sweepExpired_snd]
  exact ⟨gone _, gone _⟩

theorem expired_eq_false (h : parse e.expiresAt = none) (now : Int) : expired parse now e = false := by
  simp [expired, h]

theorem Refines.stored (h : Refines parse σ) (hmem : e ∈ σ.inserted)
    (he : expired parse σ.now e = false) : σ.store.envelope? e.clue = some e := by
  have hlive : e ∈ live parse σ e.clue := by simp [live, hmem, he]
  rw [h e.clue, mem_filter, Option.mem_toList] at hlive
  exact hlive.1

theorem not_ends (h : Refines parse σ) (hmem : e ∈ σ.inserted)
    (hparse : parse e.expiresAt = none) : ¬ Ends parse σ e := by
  rintro ⟨t, ht⟩
  have hwait : Reached parse σ { σ with now := σ.now + (t - σ.now).toNat } :=
    Reachable.step (a := .wait (t - σ.now).toNat) .init trivial rfl
  have hkept := (h.wait (t - σ.now).toNat).stored hmem (expired_eq_false hparse _)
  refine (ht _ hwait (by dsimp only; omega)).2 ?_
  rw [sweepExpired_snd, hkept]
  simp [Option.filter, expired_eq_false hparse]

/-- In every state of every run: the store does what a map does under exactly the clues that no
plain object inherits, and an envelope that was inserted ends exactly when its `expiresAt` is a
date. -/
theorem drops_refine_map_iff {now : Int} (h : Reached parse (start now) σ) :
    (∀ c, MapAt parse σ c ↔ c ∉ inheritedNames) ∧
      ∀ e ∈ σ.inserted, Ends parse σ e ↔ (parse e.expiresAt).isSome = true := by
  have hσ := refines_of_reachable h
  refine ⟨mapAt_iff hσ, fun e hmem => ?_⟩
  cases hparse : parse e.expiresAt with
  | none => simpa using not_ends hσ hmem hparse
  | some t => simpa using ends_of_parse hparse σ

end Runs

def sampleParse (text : JsString) : Option Int :=
  if text = jsString "2030-01-01T00:00:00.000Z" then some 1893456000000 else none

def sampleInput (ct : JsString) (expiresAt : String) : Json Rat :=
  .obj [(jsString "v", .num 1), (jsString "suite", .str (jsString V1_SUITE)),
    (jsString "pad", .str (jsString "minimal")), (jsString "dropId", .str (jsString "d1")),
    (jsString "clue", .str (jsString "AAAA")), (jsString "ek", .str (jsString "AAAA")),
    (jsString "nonce", .str (jsString "AAAA")), (jsString "ct", .str ct),
    (jsString "expiresAt", .str (jsString expiresAt))]

def sampleBody (ct : JsString) (expiresAt : String) : Json Rat :=
  .obj [(jsString "roomId", .str (jsString "room")), (jsString "envelope", sampleInput ct expiresAt)]

def sampleSent (expiresAt : String) : State :=
  (step sampleParse (start 0) (.send (sampleBody (jsString "AAAA") expiresAt))).getD (start 0)

theorem sampleSent_reached (expiresAt : String) : Reached sampleParse (start 0) (sampleSent expiresAt) :=
  Reachable.step (a := .send (sampleBody (jsString "AAAA") expiresAt)) .init trivial rfl

theorem drops_refine_map_dated :
    MapAt sampleParse (sampleSent "2030-01-01T00:00:00.000Z") (jsString "AAAA") ∧
      ∃ e ∈ (sampleSent "2030-01-01T00:00:00.000Z").inserted,
        Ends sampleParse (sampleSent "2030-01-01T00:00:00.000Z") e := by
  have h := drops_refine_map_iff (sampleSent_reached "2030-01-01T00:00:00.000Z")
  refine ⟨(h.1 _).mpr (by decide), ?_⟩
  have hmem : ∃ e ∈ (sampleSent "2030-01-01T00:00:00.000Z").inserted,
      (sampleParse e.expiresAt).isSome = true := by decide
  obtain ⟨e, hmem, hparse⟩ := hmem
  exact ⟨e, hmem, (h.2 e hmem).mpr hparse⟩

/-- Fetching a clue that nobody used throws, and a drop that expires `never` is accepted and kept
for ever. -/
theorem drop_kept_for_ever :
    ∃ σ, Reached sampleParse (start 0) σ ∧
      (fetchByClue sampleParse σ.now σ.store (jsString "constructor")).1 = .error .typeError ∧
      ∃ e ∈ σ.inserted, ¬ Ends sampleParse σ e := by
  have hσ := refines_of_reachable (sampleSent_reached "never")
  refine ⟨_, sampleSent_reached "never", ?_, ?_⟩
  · rw [fetchByClue_inherited (by decide)]
  · have hmem : ∃ e ∈ (sampleSent "never").inserted, sampleParse e.expiresAt = none := by decide
    obtain ⟨e, hmem, hparse⟩ := hmem
    exact ⟨e, hmem, not_ends hσ hmem hparse⟩

end Blackout.DeadDrop
