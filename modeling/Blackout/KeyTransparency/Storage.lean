import Blackout.Lib.Json
import Blackout.KeyTransparency.Consistency

/-!
# The log over a JSON file (`services/keyTransparencyStorage.ts`)

An append pushes to the log's two arrays, then to the array of the storage, and only then writes the
file, so a write that throws leaves the entry in all three.

Files are texts: their bytes are the UTF-8 of the text.
-/

namespace Blackout.KeyTransparency

open Json List

variable {log : KeyTransparencyLog} {entry : KeyEntry} {entries : List KeyEntry}

abbrev Text := List Char

/-! ## The file -/

def entryJson (entry : KeyEntry) : Json Int := .obj [(jsString "userId", .str (jsString entry.userId)),
    (jsString "masterKey", .str (jsString entry.masterKey)),
    (jsString "publishedAt", .num entry.publishedAt)]

def stateJson (entries : List KeyEntry) : Json Int :=
  .obj [(jsString "version", .num 1), (jsString "entries", .arr (entries.map entryJson))]

/-- What a write puts into the file. -/
def persistText (entries : List KeyEntry) : Text := print .indented 0 (stateJson entries) ++ ['\n']

def readText : Json Int → Option String
  | .str s => textOf s
  | _ => none

def readEntry (v : Json Int) : Option KeyEntry := do
  let userId ← (v.field "userId").bind readText
  let masterKey ← (v.field "masterKey").bind readText
  match v.field "publishedAt" with
  | some (.num publishedAt) => return { userId, masterKey, publishedAt }
  | _ => none

def isTrimmed (c : Char) : Bool :=
  (9 ≤ c.toNat && c.toNat ≤ 13) || c.toNat = 32 || c.toNat = 0xA0 || c.toNat = 0x1680 ||
    (0x2000 ≤ c.toNat && c.toNat ≤ 0x200A) || c.toNat = 0x2028 || c.toNat = 0x2029 ||
    c.toNat = 0x202F || c.toNat = 0x205F || c.toNat = 0x3000 || c.toNat = 0xFEFF

inductive HydrateError
  | notJson
  | noObject
  | message (text : String)
  | untyped
  deriving DecidableEq, Repr

/-- What a new storage reads. -/
def hydrate (path : String) (raw : Text) : Except HydrateError (List KeyEntry) :=
  if raw.all isTrimmed then .ok []
  else
    match Json.parse (ν := Int) raw with
    | none => .error .notJson
    | some .null => .error .noObject
    | some parsed =>
      match parsed.field "version", parsed.field "entries" with
      | some (.num 1), some (.arr items) =>
        match items.mapM readEntry with
        | some entries => .ok entries
        | none => .error .untyped
      | _, _ => .error (.message s!"unrecognised KT log file at {path}")

/-! ## Entries read back -/

theorem readEntry_entryJson : readEntry (entryJson entry) = some entry := by
  have user : (entryJson entry).field "userId" = some (.str (jsString entry.userId)) := rfl
  have key : (entryJson entry).field "masterKey" = some (.str (jsString entry.masterKey)) := rfl
  have at_ : (entryJson entry).field "publishedAt" = some (.num entry.publishedAt) := rfl
  simp only [readEntry, user, key, at_, Option.bind_some, readText, textOf_jsString,
    Option.bind_eq_bind, Option.pure_def]

theorem mapM_readEntry : (entries.map entryJson).mapM readEntry = some entries := by
  induction entries with
  | nil => rfl
  | cons e es ih =>
    rw [map_cons, mapM_cons, readEntry_entryJson, ih]
    rfl

theorem distinctItems_entryJson : DistinctItems (entries.map entryJson) := by
  induction entries with
  | nil => simp [DistinctItems]
  | cons e es ih =>
    have names : ((["userId", "masterKey", "publishedAt"].map jsString)).Nodup := by decide
    simp only [map_cons, DistinctItems, entryJson, Distinct, DistinctFields, and_true]
    exact ⟨names, ih⟩

theorem distinct_stateJson : Distinct (stateJson entries) := by
  have names : (["version", "entries"].map jsString).Nodup := by decide
  simp only [stateJson, Distinct, DistinctFields, and_true, true_and]
  exact ⟨names, distinctItems_entryJson⟩

theorem hydrate_persistText (path : String) : hydrate path (persistText entries) = .ok entries := by
  have full : (persistText entries).all isTrimmed = false := rfl
  have parsed : Json.parse (persistText entries) = some (stateJson entries) := by
    refine parse_print .indented _ distinct_stateJson fun c hc => ?_
    rw [mem_singleton.mp hc]
    rfl
  have version : (stateJson entries).field "version" = some (.num 1) := rfl
  have items : (stateJson entries).field "entries" = some (.arr (entries.map entryJson)) := rfl
  rw [hydrate, full, if_neg Bool.false_ne_true, parsed]
  simp only [stateJson] at version items ⊢
  simp only [version, items, mapM_readEntry]

/-! ## Appends -/

inductive Write
  | done
  | throws (left : Option Text)
  deriving DecidableEq, Repr

/-- A running log: the log, the array of its storage, the file, and the text that the last
successful write put there. -/
structure Running where
  log : KeyTransparencyLog
  /-- `entries` of the storage. -/
  stored : List KeyEntry
  file : Option Text
  /-- What the last successful write put into the file, or what the storage was opened on. -/
  saved : Text
  stored_eq : stored = log.entries

inductive AppendError
  | push (message : String)
  | persist
  deriving DecidableEq, Repr

def KeyTransparencyLog.findEntriesByUser (log : KeyTransparencyLog) (userId : String) : List (Nat × KeyEntry) :=
  (log.entries.zipIdx.filter fun p => p.1.userId = userId).map Prod.swap

def KeyTransparencyLog.load (entries : List KeyEntry) : Except String KeyTransparencyLog :=
  KeyTransparencyLog.empty.appendAll entries

theorem load_entries (h : KeyTransparencyLog.load entries = .ok log) : log.entries = entries :=
  appendAll_eq_ok.mp h

namespace Running

/-- `new KeyTransparencyLog({ storage: new JsonFileKtStorage(path) })`. Without a file, the storage
writes one. -/
def start (path : String) (file : Option Text) (write : Write) : Option Running :=
  match file, write with
  | none, .throws _ => none
  | none, .done => some ⟨.empty, [], some (persistText []), persistText [], rfl⟩
  | some raw, _ =>
    match hydrate path raw with
    | .error _ => none
    | .ok entries =>
      match h : KeyTransparencyLog.load entries with
      | .error _ => none
      | .ok log => some ⟨log, entries, some raw, raw, (load_entries h).symm⟩

def append (H : Bytes → Bytes) (s : Running) (entry : KeyEntry) (write : Write) :
    Running × Except AppendError (Nat × TreeRoot) :=
  match h : s.log.push entry with
  | .error message => (s, .error (.push message))
  | .ok log =>
    have stored_eq : s.stored ++ [entry] = log.entries := by rw [s.stored_eq, push_eq_ok.mp h]
    let stored := s.stored ++ [entry]
    match write with
    | .done =>
      (⟨log, stored, some (persistText stored), persistText stored, stored_eq⟩,
        .ok (s.log.leaves.length, log.root H))
    | .throws left => (⟨log, stored, left, s.saved, stored_eq⟩, .error .persist)

end Running

/-! ## All or nothing -/

section Atomic
variable (H : Bytes → Bytes) {s : Running} {path : String} {write : Write}

/-- The logs answer alike. -/
def SameView (a b : KeyTransparencyLog) : Prop := a.size = b.size ∧ a.root H = b.root H ∧
    ∀ userId, a.findEntriesByUser userId = b.findEntriesByUser userId

/-- An append that fails leaves the log as it was. -/
def AppendAtomic (s : Running) (entry : KeyEntry) (write : Write) : Prop :=
  (∃ e, (s.append H entry write).2 = .error e) → SameView H (s.append H entry write).1.log s.log

/-- A new storage would read the log as it is. -/
def SavedCurrent (path : String) (s : Running) : Prop :=
  ∃ entries log, hydrate path s.saved = .ok entries ∧ KeyTransparencyLog.load entries = .ok log ∧
    log.size = s.log.size ∧ log.root H = s.log.root H

def AllOrNothing (path : String) : Running → List (KeyEntry × Write) → Prop
  | s, [] => SavedCurrent H path s
  | s, (entry, write) :: rest =>
    SavedCurrent H path s ∧ AppendAtomic H s entry write ∧ AllOrNothing path (s.append H entry write).1 rest

/-- No write of an append that finds room throws. -/
def WritesDone : Nat → List (KeyEntry × Write) → Prop
  | _, [] => True
  | size, (_, write) :: rest =>
    if size + 1 < 2 ^ 32 then write = .done ∧ WritesDone (size + 1) rest
    else WritesDone size rest

instance decidableWritesDone : (size : Nat) → (steps : List (KeyEntry × Write)) →
    Decidable (WritesDone size steps)
  | _, [] => .isTrue trivial
  | size, (_, write) :: rest =>
    have : ∀ n, Decidable (WritesDone n rest) := fun n => decidableWritesDone n rest
    inferInstanceAs (Decidable (if size + 1 < 2 ^ 32 then write = .done ∧ WritesDone (size + 1) rest
      else WritesDone size rest))

theorem append_room (entry : KeyEntry) (write : Write) (room : s.log.size + 1 < 2 ^ 32) :
    (s.append H entry write).1.log.entries = s.log.entries ++ [entry] ∧
      ((write = .done ∧ (s.append H entry write).1.saved = persistText (s.log.entries ++ [entry]) ∧
          ∃ r, (s.append H entry write).2 = .ok r) ∨
        (write ≠ .done ∧ (s.append H entry write).2 = .error .persist)) := by
  unfold Running.append
  split
  next hp =>
    cases hp.symm.trans (dif_pos room)
  next log hp =>
    have he := push_eq_ok.mp hp
    cases write with
    | done =>
      exact ⟨he, .inl ⟨rfl, congrArg (fun es => persistText (es ++ [entry])) s.stored_eq, _, rfl⟩⟩
    | throws left => exact ⟨he, .inr ⟨nofun, rfl⟩⟩

theorem append_full (entry : KeyEntry) (write : Write)
    (full : ¬ s.log.size + 1 < 2 ^ 32) : (s.append H entry write).1 = s := by
  unfold Running.append
  split
  next => rfl
  next hp =>
    cases hp.symm.trans (dif_neg full)

def SavedEntries (path : String) (s : Running) : Prop := hydrate path s.saved = .ok s.log.entries

theorem SavedEntries.current (h : SavedEntries path s) :
    SavedCurrent H path s := ⟨_, _, h, appendAll_eq_ok.mpr rfl, rfl, rfl⟩

theorem start_saved {file : Option Text}
    (h : Running.start path file write = some s) : SavedEntries path s := by
  unfold Running.start at h
  split at h
  · cases h
  · cases h
    exact hydrate_persistText path
  · split at h
    · cases h
    next entries hread =>
    split at h
    · cases h
    next log hload =>
    cases h
    rw [SavedEntries, hread, load_entries hload]

theorem not_appendAtomic {entry : KeyEntry}
    (room : s.log.size + 1 < 2 ^ 32) (h : write ≠ .done) : ¬ AppendAtomic H s entry write := by
  intro atomic
  obtain ⟨he, ⟨hw, -⟩ | ⟨-, herr⟩⟩ := append_room H entry write room
  · exact h hw
  · have hsize := (atomic ⟨_, herr⟩).1
    rw [size_eq, size_eq, he, length_append, length_singleton] at hsize
    omega

theorem allOrNothing_iff (path : String) (steps : List (KeyEntry × Write))
    (h : SavedEntries path s) : AllOrNothing H path s steps ↔ WritesDone s.log.size steps := by
  induction steps generalizing s with
  | nil => exact ⟨fun _ => trivial, fun _ => h.current H⟩
  | cons step rest ih =>
    obtain ⟨entry, write⟩ := step
    rw [AllOrNothing, WritesDone]
    by_cases room : s.log.size + 1 < 2 ^ 32
    · rw [if_pos room]
      obtain ⟨he, ⟨rfl, hsaved, r, hr⟩ | ⟨hw, -⟩⟩ := append_room H entry write room
      · have next : SavedEntries path (s.append H entry .done).1 := by
          rw [SavedEntries, hsaved, hydrate_persistText, he]
        have hsize : (s.append H entry .done).1.log.size = s.log.size + 1 := by
          rw [size_eq, size_eq, he, length_append, length_singleton]
        have atomic : AppendAtomic H s entry .done := by
          rintro ⟨e, herr⟩
          rw [hr] at herr
          cases herr
        rw [ih next, hsize]
        exact ⟨fun run => ⟨rfl, run.2.2⟩, fun run => ⟨h.current H, atomic, run.2⟩⟩
      · exact ⟨fun run => absurd run.2.1 (not_appendAtomic H room hw), fun run => absurd run.1 hw⟩
    · have same := append_full H entry write room
      have atomic : AppendAtomic H s entry write := by
        rw [AppendAtomic, same]
        exact fun _ => ⟨rfl, rfl, fun _ => rfl⟩
      rw [if_neg room, same, ih h]
      exact ⟨fun run => run.2.2, fun run => ⟨h.current H, atomic, run⟩⟩

/-- Along every list of appends to every log over the file storage: appends that throw leave what
readers see, and what was written last has the size and the root of the log at every point, exactly
when no append that finds room has a write that throws. -/
theorem append_atomic_iff (path : String) (file : Option Text) (write : Write) (s : Running)
    (h : Running.start path file write = some s) (steps : List (KeyEntry × Write)) :
    AllOrNothing H path s steps ↔ WritesDone s.log.size steps :=
  allOrNothing_iff H path steps (start_saved h)

end Atomic

def newRunning : Running := ⟨.empty, [], some (persistText []), persistText [], rfl⟩

/-- Three appends whose writes all succeed. -/
theorem append_atomic_sample : Running.start "kt.json" none .done = some newRunning ∧
      AllOrNothing sha256 "kt.json" newRunning (sampleEntries.map (·, .done)) :=
  ⟨rfl, (append_atomic_iff sha256 "kt.json" none .done newRunning rfl _).mpr (by decide)⟩

/-- The append throws, and the log has one entry more: its root is not the root of the file. -/
theorem append_throws_and_stays :
    let after := newRunning.append sha256 ⟨"@ana", "k0", 0⟩ (.throws (some (persistText [])))
    Running.start "kt.json" none .done = some newRunning ∧ after.2 = .error .persist ∧
      newRunning.log.size = 0 ∧ after.1.log.size = 1 ∧ hydrate "kt.json" after.1.saved = .ok [] ∧
      ¬ AllOrNothing sha256 "kt.json" newRunning
        [(⟨"@ana", "k0", 0⟩, .throws (some (persistText [])))] := by
  refine ⟨rfl, rfl, rfl, rfl, hydrate_persistText _, fun run => ?_⟩
  have room : newRunning.log.size + 1 < 2 ^ 32 := by decide
  have thrown : Write.throws (some (persistText [])) ≠ .done := nofun
  exact not_appendAtomic sha256 room thrown run.2.1

end Blackout.KeyTransparency
