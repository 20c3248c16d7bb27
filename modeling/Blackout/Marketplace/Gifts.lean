import Blackout.Lib.IsoDate
import Blackout.Lib.Rows
import Blackout.Lib.Run
import Blackout.Marketplace.Canopy

/-!
# One seat for each original gift

A gift is donated once and then passed on any number of times. The links `forwardedToGiftId` lead
from the original to its descendants (`Descends`).
-/

namespace Blackout.Marketplace

open KeyedMap
open Relation (ReflTransGen)

/-- Pending or claimed. -/
def SubscriptionGiftRecord.IsOpen (g : SubscriptionGiftRecord) : Prop :=
  g.status = .pending ∨ g.status = .claimed

/-- A gift of the store that no gift was forwarded to. -/
def Original (gifts : Gifts) (g : SubscriptionGiftRecord) : Prop :=
  g ∈ gifts.values ∧ ∀ p ∈ gifts.values, p.forwardedToGiftId ≠ some g.id

/-- `g` is reached from the original with the id `root` by `n` forwards. -/
inductive Descends (gifts : Gifts) (root : JsString) : ℕ → SubscriptionGiftRecord → Prop
  | original {g} (h : Original gifts g) (hid : g.id = root) : Descends gifts root 0 g
  | forward {n p g} (h : Descends gifts root n p) (hg : g ∈ gifts.values)
      (hlink : p.forwardedToGiftId = some g.id) : Descends gifts root (n + 1) g

/-- What one write, or the two of a forward, make of the gifts. -/
inductive Move (m : Gifts) : Gifts → Prop
  | settle {g g'} (hg : m.get? g.id = some g) (hp : g.status = .pending)
      (hs : g'.status = .claimed ∨ g'.status = .expired) (hid : g'.id = g.id)
      (hroot : g'.rootGiftId = g.rootGiftId) (hdepth : g'.chainDepth = g.chainDepth)
      (hlink : g'.forwardedToGiftId = g.forwardedToGiftId) : Move m (m.set g')
  | donate {g} (hfresh : m.get? g.id = none) (hp : g.status = .pending) (hroot : g.rootGiftId = g.id)
      (hdepth : g.chainDepth = 0) (hlink : g.forwardedToGiftId = none) : Move m (m.set g)
  | forward {g g' next} (hg : m.get? g.id = some g) (hp : g.status = .pending)
      (hfresh : m.get? next.id = none) (hnp : next.status = .pending) (hnroot : next.rootGiftId = g.rootGiftId)
      (hndepth : next.chainDepth = g.chainDepth + 1) (hnlink : next.forwardedToGiftId = none)
      (hs : g'.status = .forwarded) (hid : g'.id = g.id) (hroot : g'.rootGiftId = g.rootGiftId)
      (hdepth : g'.chainDepth = g.chainDepth) (hlink : g'.forwardedToGiftId = some next.id) :
      Move m ((m.set next).set g')

section Moves
variable {parse : JsString → Option ℤ} {periodEnd : PeriodEnd} {t : Moment parse} {db db' : Canopy}
  {m m' : Gifts} {a : Moment parse × Request} {userId giftId id : JsString}
  {opts : DonateForwardOptions}

theorem get?_self {g : SubscriptionGiftRecord} (h : m.get? id = some g) : m.get? g.id = some g := by
  rwa [keyOf_of_get? h]

theorem sweep_moves (xs : List SubscriptionGiftRecord) (hnd : (xs.map (·.id)).Nodup)
    (hmem : ∀ g ∈ xs, m.get? g.id = some g) : ReflTransGen Move m (xs.foldl (expireGift t) m) := by
  induction xs generalizing m with
  | nil => exact .refl
  | cons g xs ih =>
    rw [List.map_cons, List.nodup_cons] at hnd
    rw [List.foldl_cons, expireGift]
    split
    · rename_i h
      -- The gifts that are still to come have other ids, so they are as the sweep has read them.
      have hrest : ∀ b ∈ xs, (m.set (expiredGift t g)).get? b.id = some b := by
        intro b hb
        have hne : b.id ≠ (expiredGift t g).id := fun hk => hnd.1 (hk ▸ List.mem_map_of_mem hb)
        rw [get?_set, if_neg hne]
        exact hmem b (List.mem_cons_of_mem g hb)
      have hmove : Move m (m.set (expiredGift t g)) :=
        .settle (hmem g List.mem_cons_self) h.1 (.inr rfl) rfl rfl rfl rfl
      exact .head hmove (ih hnd.2 hrest)
    · exact ih hnd.2 (List.forall_mem_cons.mp hmem).2

theorem takeGift_moves (t : Moment parse) (db : Canopy) (giftId userId : JsString) (own : String) :
    ((takeGift t db giftId userId own).2.toOption = none ∧
      ReflTransGen Move db.gifts (takeGift t db giftId userId own).1.gifts) ∨
    ∃ g, takeGift t db giftId userId own = (db, .ok g) ∧ db.gifts.get? g.id = some g ∧ g.status = .pending := by
  rw [takeGift]
  cases hg : db.gifts.get? giftId with
  | none => exact .inl ⟨rfl, .refl⟩
  | some g =>
    have hg := get?_self hg
    dsimp only
    split
    · exact .inl ⟨rfl, .refl⟩
    rename_i hp
    have hp : g.status = .pending := by simpa using hp
    split
    · exact .inl ⟨rfl, .single (.settle hg hp (.inr rfl) rfl rfl rfl rfl)⟩
    split
    · exact .inl ⟨rfl, .refl⟩
    · exact .inr ⟨g, rfl, hg, hp⟩

theorem donateForward_moves (hfresh : db.gifts.get? id = none) :
    ReflTransGen Move db.gifts (donateForward periodEnd t db userId id opts).1.gifts := by
  rw [donateForward]
  repeat' split
  · exact .refl
  · exact .refl
  · exact .refl
  · exact .single (.donate hfresh rfl rfl rfl rfl)

theorem claimGift_moves : ReflTransGen Move db.gifts (claimGift t db giftId userId).1.gifts := by
  rw [claimGift]
  obtain ⟨herr, hmoves⟩ | ⟨g, hok, hg, hp⟩ := takeGift_moves t db giftId userId "cannot_claim_own_gift"
  · split <;> simp_all [Except.toOption]
  · rw [hok]
    exact .single (.settle hg hp (.inl rfl) rfl rfl rfl rfl)

theorem forwardGift_moves (hfresh : db.gifts.get? id = none) :
    ReflTransGen Move db.gifts (forwardGift periodEnd t db giftId userId id opts).1.gifts := by
  rw [forwardGift]
  obtain ⟨herr, hmoves⟩ | ⟨g, hok, hg, hp⟩ := takeGift_moves t db giftId userId "cannot_forward_own_gift"
  · split <;> simp_all [Except.toOption]
  rw [hok]
  dsimp only
  split
  · exact .refl
  · exact .single (.forward hg hp hfresh rfl rfl rfl rfl rfl rfl rfl rfl rfl)

theorem step_moves (h : db.step periodEnd a = some db') : ReflTransGen Move db.gifts db'.gifts := by
  obtain ⟨t, r⟩ := a
  cases r <;> simp only [Canopy.step, Option.ite_none_right_eq_some, Option.some.injEq] at h
  case donate => exact h.2 ▸ donateForward_moves h.1
  case claim => exact h ▸ claimGift_moves
  case forward => exact h.2 ▸ forwardGift_moves h.1
  case sweep =>
    subst h
    exact sweep_moves _ db.gifts.nodup fun g hg => mem_iff_get?.mp hg
  all_goals exact h ▸ .refl

end Moves

/-! ## Chains -/

/-- What holds of the gifts of a run (module doc). -/
structure Chained (m : Gifts) : Prop where
  link : ∀ p ∈ m.values, ∀ i, p.forwardedToGiftId = some i →
    ∃ g ∈ m.values, g.id = i ∧ g.rootGiftId = p.rootGiftId ∧ g.chainDepth = p.chainDepth + 1
  back : ∀ g ∈ m.values, (g.chainDepth = 0 ∧ g.rootGiftId = g.id) ∨
    ∃ p ∈ m.values, p.forwardedToGiftId = some g.id
  root : ∀ g ∈ m.values, ∃ r ∈ m.values, r.id = g.rootGiftId
  unlinked : ∀ g ∈ m.values, g.status = .pending → g.forwardedToGiftId = none
  sole : ∀ g ∈ m.values, ∀ g' ∈ m.values, g.rootGiftId = g'.rootGiftId → g.IsOpen → g'.IsOpen → g = g'

/-- What becomes of a gift: only a pending one changes its status. -/
def Later (g g' : SubscriptionGiftRecord) : Prop :=
  g'.rootGiftId = g.rootGiftId ∧ (g.status ≠ .pending → g'.status = g.status)

section Chains
variable {m m' : Gifts} {g g' : SubscriptionGiftRecord} {root : JsString} {n : ℕ}

theorem Later.trans {a b c : SubscriptionGiftRecord} (hab : Later a b) (hbc : Later b c) : Later a c :=
  ⟨hbc.1.trans hab.1, fun hn => by rw [hbc.2 (by rwa [hab.2 hn]), hab.2 hn]⟩

theorem Move.later (h : Move m m') : m.Follows Later m' := by
  have hrefl : ∀ g, Later g g := fun g => ⟨rfl, fun _ => rfl⟩
  have hold : ∀ {g g' : SubscriptionGiftRecord} {k : Gifts}, k.get? g.id = some g → g.status = .pending →
      g'.id = g.id → g'.rootGiftId = g.rootGiftId → k.Follows Later (k.set g') := by
    intro g g' k hg hp hid hroot
    refine .set hrefl fun b hb => ?_
    rw [hid, hg] at hb
    cases hb
    exact ⟨hroot, absurd hp⟩
  have hnew : ∀ {g : SubscriptionGiftRecord}, m.get? g.id = none → m.Follows Later (m.set g) := by
    intro g hfresh
    exact .set hrefl fun b hb => by simp [hfresh] at hb
  cases h with
  | settle hg hp _ hid hroot => exact hold hg hp hid hroot
  | donate hfresh => exact hnew hfresh
  | @forward g _ next hg hp hfresh _ _ _ _ _ hid hroot =>
    have hne : g.id ≠ next.id := fun hk => by simp [← hk, hg] at hfresh
    have hg' : (m.set next).get? g.id = some g := by rw [get?_set, if_neg hne, hg]
    exact (hnew hfresh).trans Later.trans (hold hg' hp hid hroot)

theorem Chained.empty : Chained .empty := by
  constructor <;> exact List.forall_mem_nil _

theorem Chained.move (h : Chained m) (hm : Move m m') : Chained m' := by
  cases hm with
  | @settle g g' hg hp hs hid hroot hdepth hlink =>
    obtain ⟨hgm, -⟩ := get?_eq_some.mp hg
    have hmem : ∀ b, b ∈ (m.set g').values ↔ b = g' ∨ b ∈ m.values ∧ b.id ≠ g.id := fun b => by
      rw [mem_set, hid]
    have heq : ∀ b ∈ m.values, b.id = g.id → b = g := fun b hb => eq_of_keyOf hb hgm
    obtain ⟨h1, h2, h3, h4, h5⟩ := h
    constructor <;> grind [SubscriptionGiftRecord.IsOpen]
  | @donate g hfresh hp hroot hdepth hlink =>
    have hnew := get?_eq_none.mp hfresh
    have hmem : ∀ b, b ∈ (m.set g).values ↔ b = g ∨ b ∈ m.values ∧ b.id ≠ g.id := fun b => mem_set
    obtain ⟨h1, h2, h3, h4, h5⟩ := h
    constructor <;> grind
  | @forward g g' next hg hp hfresh hnp hnroot hndepth hnlink hs hid hroot hdepth hlink =>
    obtain ⟨hgm, -⟩ := get?_eq_some.mp hg
    have hnew := get?_eq_none.mp hfresh
    have hmem : ∀ b, b ∈ ((m.set next).set g').values ↔
        b = g' ∨ (b = next ∨ b ∈ m.values ∧ b.id ≠ next.id) ∧ b.id ≠ g.id := fun b => by
      rw [mem_set, mem_set, hid]
    have heq : ∀ b ∈ m.values, b.id = g.id → b = g := fun b hb => eq_of_keyOf hb hgm
    obtain ⟨h1, h2, h3, h4, h5⟩ := h
    constructor <;> grind [SubscriptionGiftRecord.IsOpen]

theorem Chained.target (h : Chained m) {p : SubscriptionGiftRecord} (hp : p ∈ m.values) (hg : g ∈ m.values)
    (hlink : p.forwardedToGiftId = some g.id) : g.rootGiftId = p.rootGiftId ∧
      g.chainDepth = p.chainDepth + 1 := by
  obtain ⟨b, hb, hid, hroot, hdepth⟩ := h.link p hp _ hlink
  cases eq_of_keyOf hb hg hid
  exact ⟨hroot, hdepth⟩

theorem Descends.mem (h : Descends m root n g) : g ∈ m.values := by
  cases h with
  | original h => exact h.1
  | forward _ hg => exact hg

theorem Chained.of_descends (h : Chained m) (hd : Descends m root n g) : g.rootGiftId = root ∧
    g.chainDepth = n := by
  induction hd with
  | original ho hid =>
    obtain ⟨hdepth, hroot⟩ | ⟨p, hp, hlink⟩ := h.back _ ho.1
    · exact ⟨hroot.trans hid, hdepth⟩
    · exact absurd hlink (ho.2 p hp)
  | forward hp hg hlink ih =>
    obtain ⟨hroot, hdepth⟩ := h.target hp.mem hg hlink
    exact ⟨hroot.trans ih.1, by rw [hdepth, ih.2]⟩

theorem Chained.descends (h : Chained m) (hg : g ∈ m.values) : Descends m g.rootGiftId g.chainDepth g := by
  induction hn : g.chainDepth generalizing g with
  | zero =>
    -- A link to the gift would make it at least one deep.
    have ho : Original m g := ⟨hg, fun p hp hlink => by have := (h.target hp hg hlink).2; omega⟩
    obtain ⟨-, hroot⟩ | ⟨p, hp, hlink⟩ := h.back g hg
    · exact .original ho hroot.symm
    · exact absurd hlink (ho.2 p hp)
  | succ n ih =>
    obtain ⟨hdepth, -⟩ | ⟨p, hp, hlink⟩ := h.back g hg
    · omega
    · obtain ⟨hroot, hdepth⟩ := h.target hp hg hlink
      rw [hroot]
      exact .forward (ih hp (by omega)) hg hlink

end Chains

/-! ## Runs -/

section Runs
variable {parse : JsString → Option ℤ} {periodEnd : PeriodEnd} {db db' db₀ : Canopy} {m m' : Gifts}

abbrev Canopy.Run (parse : JsString → Option ℤ) (periodEnd : PeriodEnd) : Canopy → Canopy → Prop :=
  Run.Reachable (@Canopy.step parse periodEnd) fun _ _ => True

theorem run_moves (h : Canopy.Run parse periodEnd db db') : ReflTransGen Move db.gifts db'.gifts :=
  h.invariant (I := fun d => ReflTransGen Move db.gifts d.gifts) .refl fun _ _ _ hmoves _ hst =>
    hmoves.trans (step_moves hst)

theorem chained_moves (h : Chained m) (hm : ReflTransGen Move m m') : Chained m' := by
  induction hm with
  | refl => exact h
  | tail _ hmove ih => exact ih.move hmove

theorem later_moves (hm : ReflTransGen Move m m') : m.Follows Later m' := by
  induction hm with
  | refl => exact .refl (fun g => ⟨rfl, fun _ => rfl⟩) m
  | tail _ hmove ih => exact ih.trans Later.trans hmove.later

/-- From a store without gifts on: of the descendants of one original at most one is pending or
claimed, and one at most is ever claimed; the depth of a gift is the number of forwards from the
original; a gift that is not pending keeps its status. -/
theorem gift_chains (hnone : db₀.gifts = .empty) (h : Canopy.Run parse periodEnd db₀ db)
    (h' : Canopy.Run parse periodEnd db db') :
    (∀ root n n' g g', Descends db.gifts root n g → Descends db.gifts root n' g' → g.IsOpen →
      g'.IsOpen → g = g') ∧
    (∀ root n n' g g', Descends db.gifts root n g → Descends db'.gifts root n' g' →
      g.status = .claimed → g'.status = .claimed → g.id = g'.id) ∧
    (∀ g ∈ db.gifts.values, ∀ root n, Descends db.gifts root n g ↔ root = g.rootGiftId ∧ n = g.chainDepth) ∧
    ∀ id g, db.gifts.get? id = some g → g.status ≠ .pending →
      ∃ g', db'.gifts.get? id = some g' ∧ g'.status = g.status := by
  have hc : Chained db.gifts := chained_moves (hnone ▸ .empty) (run_moves h)
  have hc' : Chained db'.gifts := chained_moves hc (run_moves h')
  have hlater := later_moves (run_moves h')
  refine ⟨?_, ?_, ?_, ?_⟩
  · intro root n n' g g' hd hd' ho ho'
    exact hc.sole g hd.mem g' hd'.mem ((hc.of_descends hd).1.trans (hc.of_descends hd').1.symm) ho ho'
  · intro root n n' g g' hd hd' hs hs'
    -- The claimed gift of the first store is claimed in the second, where one gift at most is.
    obtain ⟨b, hb, hroot, hstatus⟩ := hlater g.id g (mem_iff_get?.mp hd.mem)
    obtain ⟨hbm, hid⟩ := get?_eq_some.mp hb
    have hsame : b.rootGiftId = g'.rootGiftId := by
      rw [hroot, (hc.of_descends hd).1, (hc'.of_descends hd').1]
    rw [← hid, hc'.sole b hbm g' hd'.mem hsame (.inr (by simp [hstatus, hs])) (.inr hs')]
  · intro g hg root n
    constructor
    · intro hd
      exact ⟨(hc.of_descends hd).1.symm, (hc.of_descends hd).2.symm⟩
    · rintro ⟨rfl, rfl⟩
      exact hc.descends hg
  · intro id g hg hs
    obtain ⟨g', hg', -, hstatus⟩ := hlater id g hg
    exact ⟨g', hg', hstatus hs⟩

/-! A comped member's gift is passed on and claimed; a second claim is refused. -/

def dateText (ms : ℤ) : JsString := jsString (toISOString ms)

def dateParse (text : JsString) : Option ℤ := readISOString (text.map UInt16.toNat)

/-- Midnight of the `d`th day of 1970. -/
def startOfDay (d : ℕ) : Moment dateParse where
  now := dateText (d * MS_PER_DAY)
  daysFromNow days := dateText ((d + days : ℕ) * MS_PER_DAY)
  ms := d * MS_PER_DAY

def addWeek : PeriodEnd := fun now _ => (dateParse now).map fun ms => dateText (ms + 7 * MS_PER_DAY)

def giftRequests : List (Moment dateParse × Request) :=
  let opts : DonateForwardOptions := ⟨none, none⟩
  [(startOfDay 0, .comp [1]), (startOfDay 1, .donate [1] [7] opts),
    (startOfDay 2, .forward [7] [2] [8] opts), (startOfDay 3, .claim [8] [3])]

def giftRows (db : Canopy) : List (JsString × GiftStatus × ℕ) :=
  db.gifts.values.map fun g => (g.id, g.status, g.chainDepth)

theorem gift_chains_sample : ∃ db db' : Canopy,
    giftRows db = [([7], .forwarded, 0), ([8], .claimed, 1)] ∧ giftRows db' = giftRows db ∧
    ∀ root n n' g g', Descends db.gifts root n g → Descends db'.gifts root n' g' →
      g.status = .claimed → g'.status = .claimed → g.id = g'.id := by
  obtain ⟨db, db', h, h', hrows, hrows'⟩ : ∃ db db',
      Canopy.Run dateParse addWeek ⟨.empty, .empty⟩ db ∧ Canopy.Run dateParse addWeek db db' ∧
      giftRows db = [([7], .forwarded, 0), ([8], .claimed, 1)] ∧
      giftRows db' = [([7], .forwarded, 0), ([8], .claimed, 1)] :=
    Run.exists_follow_follow giftRequests [(startOfDay 3, .claim [8] [4])] giftRows giftRows (by decide +kernel)
  exact ⟨db, db', hrows, hrows'.trans hrows.symm, (gift_chains rfl h h').2.1⟩

end Runs

end Blackout.Marketplace
