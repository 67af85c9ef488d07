import Mathlib.Data.List.Basic
import Reckoner.Proofs.Session.Replay

/-!
# Interleaved sessions

Two sessions are interleavings of each other if they have the same requests, each id has its own
in the same order, and every calculator is added before it is used. As every calculator is the
replay of its own instructions, such sessions cannot differ in anything that is addressed to an
id.

* `SamePast.after_eq`, `SamePast.exchangesOf_eq`: they end with the same bank and reply the same
  to the requests of each id.
* `session_isolation`: ids are given out in order, every reply is that of the calculator alone,
  ids that are not in use have no effect, and interleavings agree on all of it.
* `interleaving_moves_count`: they need not agree on how many calculators there are at the time
  of a request that asks for their number.
-/

namespace Reckoner.Session

/-! ## Interleavings -/

/-- Every calculator that a session adds is added before the requests to its id. -/
def CreatesFirst (requests : List Request) : Prop :=
  ∀ n < requests.length, ∀ k ∈ requests[n]?.bind Request.place?,
    k < creations requests → k < creations (requests.take n)

instance (requests : List Request) : Decidable (CreatesFirst requests) :=
  inferInstanceAs (Decidable (∀ n < requests.length, ∀ k ∈ requests[n]?.bind Request.place?,
    k < creations requests → k < creations (requests.take n)))

/-- Two points at which the same calculators were added and each id had the same requests. -/
structure SamePast (requests other : List Request) : Prop where
  creations_eq : creations other = creations requests
  inOrder : ∀ id, addressedTo id other = addressedTo id requests

/-- Two sessions with the same requests, in which each id has its requests in the same order and
after the calculator was added. -/
structure Interleaving (requests other : List Request) : Prop where
  perm : other.Perm requests
  inOrder : ∀ id, addressedTo id other = addressedTo id requests
  first : CreatesFirst requests
  firstOther : CreatesFirst other

theorem Interleaving.samePast {requests other : List Request} (h : Interleaving requests other) :
    SamePast requests other :=
  ⟨h.perm.countP_eq Request.isCreate, h.inOrder⟩

theorem CreatesFirst.of_prefix {before requests : List Request} (h : CreatesFirst requests)
    (hbefore : before <+: requests) : CreatesFirst before := by
  obtain ⟨rest, rfl⟩ := hbefore
  intro n hn k hplace hk
  have hlength : n < (before ++ rest).length := by
    rw [List.length_append]
    omega
  have hearlier := h n hlength k (by rwa [List.getElem?_append_left hn])
    (by rw [creations_append]; omega)
  rwa [List.take_append_of_le_length (by omega)] at hearlier

theorem CreatesFirst.split {requests : List Request} (h : CreatesFirst requests) {id : Int64}
    {k : Nat} (hid : Bank.place? id = some k) (hk : k < creations requests) :
    ∃ before rest, requests = before ++ .create :: rest ∧ creations before = k ∧
      addressedTo id before = [] := by
  obtain ⟨before, rest, rfl, rfl⟩ := exists_append_create hk
  refine ⟨before, rest, rfl, rfl, ?_⟩
  rw [addressedTo, List.filter_eq_nil_iff]
  intro request hrequest haddressed
  obtain ⟨n, hn, rfl⟩ := List.mem_iff_getElem.mp hrequest
  have hlength : n < (before ++ .create :: rest).length := by
    rw [List.length_append]
    omega
  have hplace : (before ++ .create :: rest)[n]?.bind Request.place? =
      some (creations before) := by
    have haddressed' : before[n].id? = some id := by simpa using haddressed
    rw [List.getElem?_append_left hn, List.getElem?_eq_getElem hn, Option.bind_some,
      Request.place?, haddressed', Option.bind_some, hid]
  have hearlier := h n hlength _ hplace hk
  have hle : creations (before.take n) ≤ creations before :=
    (List.take_sublist n before).countP_le
  rw [List.take_append_of_le_length (by omega)] at hearlier
  omega

theorem addressedTo_append_create (id : Int64) (before rest : List Request) :
    addressedTo id (before ++ .create :: rest) = addressedTo id before ++ addressedTo id rest := by
  rw [addressedTo, List.filter_append, List.filter_cons_of_neg (by simp [Request.id?])]
  rfl

/-- What is found under an id once a session has reached it. -/
def start (id : Int64) (requests : List Request) : Option Calculator :=
  if 0 ≤ id.toInt ∧ id.toInt < creations requests then some .fresh else none

/-- If calculators are added first, all requests to an id are made on a fresh calculator, or all
in vain. -/
theorem exchangesOf_of_createsFirst {requests : List Request} (h : CreatesFirst requests)
    (hfew : creations requests < 2 ^ 63) (id : Int64) :
    exchangesOf id (exchanges .empty requests) =
      Machine.exchanges soloStep (start id requests) (addressedTo id requests) := by
  have hempty : Bank.empty.get? id = none := by
    rw [Bank.get?_eq_none_iff]
    have hcount : Bank.empty.count = 0 := rfl
    omega
  by_cases huse : 0 ≤ id.toInt ∧ id.toInt < creations requests
  · -- Nothing is addressed to the id before its calculator is added, and all the rest is.
    have hplace : Bank.place? id = some id.toInt.toNat :=
      Bank.place?_eq_some_iff.mpr (by omega)
    obtain ⟨before, rest, hrequests, hbefore, hunused⟩ := h.split hplace (by omega)
    have hcount : (after .empty before).count = id.toInt.toNat := by
      rw [count_after_empty, hbefore]
    have hfresh : (step (after .empty before) .create).2.get? id = some .fresh := by
      have hidOf := Bank.eq_of_place?_eq hplace (Bank.place?_idOf (by omega))
      rw [hidOf, ← hcount]
      exact get?_step_create (by omega)
    have hsettled : Settled .empty id before := by
      apply settled_empty
      intro place hat
      rw [hplace, Option.some.injEq] at hat
      omega
    have hearly := (exchanges_filter hsettled).1
    have hlate := (exchanges_filter (settled_of_get? hfresh rest)).1
    rw [hunused] at hearly
    rw [hfresh] at hlate
    rw [start, if_pos huse, hrequests, addressedTo_append_create, hunused, List.nil_append,
      exchanges_append, exchanges_cons, ← hlate, exchangesOf, List.filter_append,
      List.filter_cons_of_neg (by simp [Request.id?])]
    exact congrArg (· ++ _) hearly
  · have hsettled : Settled .empty id requests := by
      apply settled_empty
      intro place hplace
      have hid := Bank.place?_eq_some_iff.mp hplace
      omega
    rw [start, if_neg huse, (exchanges_filter hsettled).1, hempty]

theorem history_of_createsFirst {requests : List Request} (h : CreatesFirst requests) {k : Nat}
    (hk : k < creations requests) (hlt : k < 2 ^ 63) :
    history k requests = instructions (addressedTo (Bank.idOf k) requests) := by
  obtain ⟨before, rest, rfl, rfl, hunused⟩ := h.split (Bank.place?_idOf hlt) hk
  rw [history, addressedTo_append_create, hunused, List.nil_append]
  exact congrArg (fun since => instructions (addressedTo _ since)) (afterNth_append_cons rfl)

/-- Sessions that add calculators first end with the same bank if they have the same past. -/
theorem SamePast.after_eq {requests other : List Request} (h : SamePast requests other)
    (hfirst : CreatesFirst requests) (hfirstOther : CreatesFirst other)
    (hfew : creations requests < 2 ^ 63) : after .empty other = after .empty requests := by
  have hcreations := h.creations_eq
  have hreplay : ∀ k ∈ List.range (creations requests), replay k other = replay k requests := by
    intro k hk
    rw [List.mem_range] at hk
    rw [replay, replay, history_of_createsFirst hfirst hk (by omega),
      history_of_createsFirst hfirstOther (by omega) (by omega), h.inOrder]
  have hlists : (after .empty other).calculators.toList =
      (after .empty requests).calculators.toList := by
    rw [calculators_after hfew, calculators_after (by omega), hcreations,
      List.map_congr_left hreplay]
  exact congrArg Bank.mk (Array.toList_inj.mp hlists)

theorem SamePast.exchangesOf_eq {requests other : List Request} (h : SamePast requests other)
    (hfirst : CreatesFirst requests) (hfirstOther : CreatesFirst other)
    (hfew : creations requests < 2 ^ 63) (id : Int64) :
    exchangesOf id (exchanges .empty other) = exchangesOf id (exchanges .empty requests) := by
  have hcreations := h.creations_eq
  rw [exchangesOf_of_createsFirst hfirst hfew, exchangesOf_of_createsFirst hfirstOther (by omega),
    start, start, hcreations, h.inOrder]

/-! ## Sessions -/

/-- **Isolation.** With fewer than `2 ^ 63` calculators, the ids given out are `0`, `1`, `2` and so
on, and at every point of the session each calculator is its own replay (`Isolated`). Every
interleaving of the session ends with the same bank, gives out the same ids, and replies the same
to every request that is addressed to an id; what is counted or listed depends on the bank at
that point, which is the same wherever the past of each id is. -/
theorem session_isolation {requests : List Request} (hfew : creations requests < 2 ^ 63) :
    (createdIds .empty requests).map Int64.toInt =
        (List.range (creations requests)).map Int.ofNat ∧
      (∀ before, before <+: requests → Isolated before) ∧
      ∀ other, Interleaving requests other →
        after .empty other = after .empty requests ∧
        createdIds .empty other = createdIds .empty requests ∧
        (∀ id, exchangesOf id (exchanges .empty other) =
          exchangesOf id (exchanges .empty requests)) ∧
        ∀ before before', before <+: requests → before' <+: other → SamePast before before' →
          after .empty before' = after .empty before := by
  refine ⟨?_, ?_, ?_⟩
  · have hids := createdIds_eq .empty requests
    have hcount : Bank.empty.count = 0 := rfl
    rw [hcount, ← List.range_eq_range'] at hids
    rw [hids, List.map_map]
    apply List.map_congr_left
    intro k hk
    rw [List.mem_range] at hk
    exact Bank.toInt_idOf (by omega)
  · rintro before ⟨rest, rfl⟩
    rw [creations_append] at hfew
    exact isolated_of_few (by omega)
  · intro other h
    have hpast := h.samePast
    refine ⟨hpast.after_eq h.first h.firstOther hfew, ?_,
      hpast.exchangesOf_eq h.first h.firstOther hfew, ?_⟩
    · rw [createdIds_eq, createdIds_eq, hpast.creations_eq]
    · intro before before' hbefore hbefore' hsame
      have hle : creations before ≤ creations requests := hbefore.sublist.countP_le
      exact hsame.after_eq (h.first.of_prefix hbefore) (h.firstOther.of_prefix hbefore')
        (by omega)

/-- Two calculators that are added before either is used. -/
def addedTogether : List Request :=
  [.create, .create, .instruct 0 (.compute .add (.number 1) (.number 2)),
    .instruct 1 (.compute .multiply (.number 4) (.number 5)),
    .instruct 0 (.compute .divide .lastResult (.number 0))]

/-- The same requests, with the second calculator added while the first is in use. -/
def addedApart : List Request :=
  [.create, .instruct 0 (.compute .add (.number 1) (.number 2)), .create,
    .instruct 0 (.compute .divide .lastResult (.number 0)),
    .instruct 1 (.compute .multiply (.number 4) (.number 5))]

theorem interleaving_addedApart : Interleaving addedTogether addedApart where
  perm := .cons _ ((List.Perm.swap _ _ _).trans (.cons _ (.cons _ (.swap _ _ _))))
  inOrder id := by
    by_cases h0 : id = 0
    · subst h0
      rfl
    · by_cases h1 : id = 1
      · subst h1
        rfl
      · simp [addressedTo, addedTogether, addedApart, Request.id?, Ne.symm h0, Ne.symm h1]
  first := by decide +kernel
  firstOther := by decide +kernel

/-- Both sessions end with the same calculators, each with the result of its own instructions. -/
theorem addedApart_isolated :
    creations addedTogether < 2 ^ 63 ∧
      after .empty addedApart = after .empty addedTogether ∧
      (after .empty addedTogether).get? 0 = some ⟨3⟩ ∧
      (after .empty addedTogether).get? 1 = some ⟨20⟩ ∧
      step (after .empty addedTogether) (.find (-1)) =
        (.found none, after .empty addedTogether) := by
  obtain ⟨_, hisolated, hinterleaved⟩ := @session_isolation addedTogether (by decide)
  have hall := hisolated addedTogether (List.prefix_refl _)
  refine ⟨by decide, (hinterleaved addedApart interleaving_addedApart).1, ?_, ?_, ?_⟩
  · exact (hall.replayed 0 (by decide)).trans (by decide +kernel)
  · exact (hall.replayed 1 (by decide)).trans (by decide +kernel)
  · exact (hall.missing (-1) (by decide)).1

/-- A request for the number of calculators that moves before the addition of one is no longer
replied to in the same way, although the sessions are interleavings of each other. -/
theorem interleaving_moves_count :
    Interleaving [.create, .count] [.count, .create] ∧
      creations [.create, .count] < 2 ^ 63 ∧
      exchanges .empty [.create, .count] = [(.create, .created 0), (.count, .counted 1)] ∧
      exchanges .empty [.count, .create] = [(.count, .counted 0), (.create, .created 0)] :=
  ⟨⟨.swap _ _ _, fun _ => rfl, by decide +kernel, by decide +kernel⟩, by decide, rfl, rfl⟩

end Reckoner.Session
