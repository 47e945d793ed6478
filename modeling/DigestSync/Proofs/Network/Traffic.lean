import DigestSync.Network.Traffic
import DigestSync.Proofs.Network.Broadcast
import Mathlib.Data.List.Induction

set_option autoImplicit false

/-! # What calls on a network are given

A call is given data by a put that it waited for, or by the cache as it expresses its interest.
In both cases the data was put by another face that was online, under a name that begins with
the one asked for.  No call is given data twice, and none waits any more once it was given data
or has returned.
-/

namespace DigestSync

namespace Traffic

variable {τ : Type} {events : List (Instant × NetworkEvent τ)} {traffic after : Traffic τ}
  {now : Instant} {event : NetworkEvent τ} {call index : Nat} {time : Instant} {face : Face}
  {name : Name} {data : Data}

/-! ## Runs -/

/-- Later events do not change what an event meets. -/
theorem before_append (inside : index ≤ events.length) (rest : List (Instant × NetworkEvent τ)) :
    before (events ++ rest) index = before events index := by
  rw [before, before, List.take_append_of_le_length inside]

theorem Asked.lt (asked : Asked events call time face name) : call < events.length :=
  (List.getElem?_eq_some_iff.mp asked.event).1

theorem Put.lt (put : Put events index time face data) : index < events.length :=
  (List.getElem?_eq_some_iff.mp put.event).1

theorem Asked.append (asked : Asked events call time face name)
    (rest : List (Instant × NetworkEvent τ)) : Asked (events ++ rest) call time face name where
  event := by rw [List.getElem?_append_left asked.lt, asked.event]
  online := by rw [before_append (Nat.le_of_lt asked.lt), asked.online]

theorem Put.append (put : Put events index time face data)
    (rest : List (Instant × NetworkEvent τ)) : Put (events ++ rest) index time face data where
  event := by rw [List.getElem?_append_left put.lt, put.event]
  online := by rw [before_append (Nat.le_of_lt put.lt), put.online]

/-- A call may be given data: it was put by another face, under a name that begins with the one
asked for, while the call waited and its face was online, or before, and was still fresh. -/
def Justified (events : List (Instant × NetworkEvent τ)) (call : Nat) (data : Data) : Prop :=
  ∃ asked face name index time producer, Asked events call asked face name ∧
    Put events index time producer data ∧ producer ≠ face ∧ name.isPrefixOf data.name = true ∧
    (call < index ∧ (before events index).IsPending call ∧
        (before events index).network.isOnline face = true ∨
      index < call ∧ 0 < data.freshness ∧ asked < time + data.freshness)

theorem Justified.append (justified : Justified events call data)
    (rest : List (Instant × NetworkEvent τ)) : Justified (events ++ rest) call data := by
  obtain ⟨asked, face, name, index, time, producer, asks, puts, foreign, named, way⟩ := justified
  refine ⟨asked, face, name, index, time, producer, asks.append rest, puts.append rest, foreign,
    named, ?_⟩
  rwa [before_append (Nat.le_of_lt puts.lt)]

/-! ## What a run keeps -/

/-- Every interest that waits is a call's that has not returned and was given nothing, and what
is in the cache was put there. -/
structure Tabled (events : List (Instant × NetworkEvent τ)) (traffic : Traffic τ) : Prop where
  numbered : (traffic.network.waiting.map (·.id)).Nodup
  counted : ∀ one ∈ traffic.network.waiting, one.id < traffic.network.nextWaiting
  owned : ∀ one ∈ traffic.network.waiting, (one.asker, some one.id) ∈ traffic.calls
  unanswered : ∀ one ∈ traffic.network.waiting, one.asker ∉ traffic.given.map (·.1)
  asked : ∀ one ∈ traffic.network.waiting,
    ∃ time, Asked events one.asker time one.face one.name
  cached : ∀ entry ∈ traffic.network.cache, ∃ index time,
    Put events index time entry.producer entry.data ∧ 0 < entry.data.freshness ∧
      entry.expiry = time + entry.data.freshness

/-- Every call is given data once at most, and returns once at most, with the data that it was
given if with any. -/
structure Accounted (events : List (Instant × NetworkEvent τ)) (traffic : Traffic τ) : Prop where
  count : traffic.count = events.length
  justified : ∀ call data, (call, data) ∈ traffic.given → Justified events call data
  once : (traffic.given.map (·.1)).Nodup
  distinct : (traffic.calls.map (·.1)).Nodup
  early : ∀ call, traffic.IsOpen call → call < events.length
  single : (traffic.returned.map (·.1)).Nodup
  closed : ∀ call ∈ traffic.returned.map (·.1), ¬ traffic.IsOpen call ∧ call < events.length
  delivered : ∀ call data, (call, some data) ∈ traffic.returned → (call, data) ∈ traffic.given

theorem Accounted.given_lt (accounted : Accounted events traffic)
    (given : call ∈ traffic.given.map (·.1)) : call < events.length := by
  obtain ⟨⟨call, data⟩, member, rfl⟩ := List.mem_map.mp given
  obtain ⟨_, _, _, _, _, _, asks, _⟩ := accounted.justified call data member
  exact asks.lt

/-- No two interests that wait belong to one call. -/
theorem Tabled.asker_nodup (tabled : Tabled events traffic)
    (accounted : Accounted events traffic) : (traffic.network.waiting.map (·.asker)).Nodup := by
  have apart : traffic.network.waiting.Nodup := tabled.numbered.of_map _
  refine apart.map_on ?_
  intro one here other there same
  have one_call := tabled.owned one here
  have other_call := tabled.owned other there
  rw [← same] at other_call
  have pair := List.inj_on_of_nodup_map accounted.distinct one_call other_call rfl
  simp only [Prod.mk.injEq, Option.some.injEq, true_and] at pair
  exact List.inj_on_of_nodup_map tabled.numbered here there pair

/-- What no event in the table concerns stays as it is. -/
theorem Tabled.append (tabled : Tabled events traffic) (rest : List (Instant × NetworkEvent τ)) :
    Tabled (events ++ rest) traffic where
  numbered := tabled.numbered
  counted := tabled.counted
  owned := tabled.owned
  unanswered := tabled.unanswered
  asked := by
    intro one waits
    obtain ⟨time, asks⟩ := tabled.asked one waits
    exact ⟨time, asks.append rest⟩
  cached := by
    intro entry member
    obtain ⟨index, time, puts, facts⟩ := tabled.cached entry member
    exact ⟨index, time, puts.append rest, facts⟩

theorem Tabled.congr (tabled : Tabled events traffic)
    (waiting : after.network.waiting = traffic.network.waiting)
    (next : after.network.nextWaiting = traffic.network.nextWaiting)
    (cache : ∀ entry ∈ after.network.cache, entry ∈ traffic.network.cache)
    (calls : ∀ one ∈ traffic.calls, one ∈ after.calls)
    (given : ∀ one ∈ traffic.network.waiting, one.asker ∉ after.given.map (·.1)) :
    Tabled events after where
  numbered := by rw [waiting]; exact tabled.numbered
  counted := by rw [waiting, next]; exact tabled.counted
  owned := by rw [waiting]; exact fun one waits => calls _ (tabled.owned one waits)
  unanswered := by rw [waiting]; exact given
  asked := by rw [waiting]; exact tabled.asked
  cached := fun entry member => tabled.cached entry (cache entry member)

/-! ## Expressing an interest -/

/-- An event that gives nothing to a new call counts. -/
theorem Accounted.counted (accounted : Accounted events traffic)
    (event : Instant × NetworkEvent τ) :
    Accounted (events ++ [event]) { traffic with count := traffic.count + 1 } where
  count := by simp [accounted.count]
  justified := fun call data member => (accounted.justified call data member).append _
  once := accounted.once
  distinct := accounted.distinct
  early := by
    intro call here
    simpa using Nat.lt_succ_of_lt (accounted.early call here)
  single := accounted.single
  closed := by
    intro call member
    obtain ⟨closed, early⟩ := accounted.closed call member
    exact ⟨closed, by simpa using Nat.lt_succ_of_lt early⟩
  delivered := accounted.delivered

/-- The number of the event is that of its call, which is new. -/
theorem Accounted.opened (accounted : Accounted events traffic) (event : Instant × NetworkEvent τ)
    (calls : ∃ id, after.calls = traffic.calls ++ [(traffic.count, id)])
    (given : after.given = traffic.given) (returned : after.returned = traffic.returned)
    (count : after.count = traffic.count + 1) : Accounted (events ++ [event]) after := by
  have opens : after.calls.map (·.1) = traffic.calls.map (·.1) ++ [events.length] := by
    obtain ⟨id, calls⟩ := calls
    simp [calls, accounted.count]
  have isOpen : ∀ call, after.IsOpen call → traffic.IsOpen call ∨ call = events.length := by
    intro call here
    rw [IsOpen, opens] at here
    simpa [IsOpen] using here
  refine ⟨by simp [count, accounted.count], ?_, by rw [given]; exact accounted.once, ?_, ?_,
    by rw [returned]; exact accounted.single, ?_, by
      rw [given, returned]; exact accounted.delivered⟩
  · rw [given]
    exact fun call data member => (accounted.justified call data member).append _
  · rw [opens]
    refine accounted.distinct.append (List.nodup_singleton _) ?_
    rw [List.disjoint_singleton]
    exact fun open_ => Nat.lt_irrefl _ (accounted.early _ open_)
  · intro call here
    rw [List.length_append, List.length_singleton]
    rcases isOpen call here with old | rfl
    · exact Nat.lt_succ_of_lt (accounted.early call old)
    · exact Nat.lt_succ_self _
  · rw [returned]
    intro call member
    obtain ⟨closed, early⟩ := accounted.closed call member
    refine ⟨fun here => ?_, by simpa using Nat.lt_succ_of_lt early⟩
    rcases isOpen call here with old | rfl
    · exact closed old
    · exact Nat.lt_irrefl _ early

/-- A call that is answered as it expresses its interest has returned by then. -/
theorem Accounted.answered (accounted : Accounted events traffic)
    (event : Instant × NetworkEvent τ) {data : Data}
    (justified : Justified (events ++ [event]) traffic.count data)
    (calls : after.calls = traffic.calls)
    (given : after.given = traffic.given ++ [(traffic.count, data)])
    (returned : after.returned = traffic.returned ++ [(traffic.count, some data)])
    (count : after.count = traffic.count + 1) : Accounted (events ++ [event]) after := by
  have number := accounted.count
  have isOpen : ∀ call, after.IsOpen call ↔ traffic.IsOpen call := by simp [IsOpen, calls]
  refine ⟨by simp [count, number], ?_, ?_, by rw [calls]; exact accounted.distinct, ?_, ?_, ?_, ?_⟩
  · rw [given]
    intro call other member
    rcases List.mem_append.mp member with old | new
    · exact (accounted.justified call other old).append _
    · obtain ⟨rfl, rfl⟩ := Prod.mk.inj (List.mem_singleton.mp new)
      exact justified
  · rw [given, List.map_append]
    refine accounted.once.append (List.nodup_singleton _) (List.disjoint_singleton.mpr ?_)
    exact fun old => Nat.lt_irrefl _ (number ▸ accounted.given_lt old)
  · intro call here
    have early := accounted.early call ((isOpen call).mp here)
    simpa using Nat.lt_succ_of_lt early
  · rw [returned, List.map_append]
    refine accounted.single.append (List.nodup_singleton _) (List.disjoint_singleton.mpr ?_)
    exact fun old => Nat.lt_irrefl _ (number ▸ (accounted.closed _ old).2)
  · rw [returned, List.map_append]
    intro call member
    rw [isOpen, List.length_append, List.length_singleton]
    rcases List.mem_append.mp member with old | new
    · obtain ⟨closed, early⟩ := accounted.closed call old
      exact ⟨closed, Nat.lt_succ_of_lt early⟩
    · rw [List.mem_singleton.mp new, number]
      exact ⟨fun here => Nat.lt_irrefl _ (accounted.early _ here), Nat.lt_succ_self _⟩
  · rw [given, returned]
    intro call other member
    rcases List.mem_append.mp member with old | new
    · exact List.mem_append_left _ (accounted.delivered call other old)
    · obtain ⟨rfl, same⟩ := Prod.mk.inj (List.mem_singleton.mp new)
      rw [Option.some.inj same]
      exact List.mem_append_right _ (List.mem_singleton_self _)

/-- An interest that begins to wait is a new call's. -/
theorem Tabled.forwarded (tabled : Tabled events traffic)
    (waiting : after.network.waiting =
      traffic.network.waiting ++ [⟨traffic.network.nextWaiting, face, name, call⟩])
    (next : after.network.nextWaiting = traffic.network.nextWaiting + 1)
    (cache : ∀ entry ∈ after.network.cache, entry ∈ traffic.network.cache)
    (calls : after.calls = traffic.calls ++ [(call, some traffic.network.nextWaiting)])
    (given : after.given = traffic.given) (new : call ∉ traffic.given.map (·.1))
    (asks : Asked events call time face name) : Tabled events after where
  numbered := by
    rw [waiting, List.map_append]
    refine tabled.numbered.append (List.nodup_singleton _) (List.disjoint_singleton.mpr ?_)
    intro used
    obtain ⟨one, waits, same⟩ := List.mem_map.mp used
    exact Nat.ne_of_lt (tabled.counted one waits) same
  counted := by
    rw [waiting, next]
    intro one waits
    rcases List.mem_append.mp waits with old | last
    · exact Nat.lt_succ_of_lt (tabled.counted one old)
    · rw [List.mem_singleton.mp last]
      exact Nat.lt_succ_self _
  owned := by
    rw [waiting, calls]
    intro one waits
    rcases List.mem_append.mp waits with old | last
    · exact List.mem_append_left _ (tabled.owned one old)
    · rw [List.mem_singleton.mp last]
      exact List.mem_append_right _ (List.mem_singleton_self _)
  unanswered := by
    rw [waiting, given]
    intro one waits
    rcases List.mem_append.mp waits with old | last
    · exact tabled.unanswered one old
    · rwa [List.mem_singleton.mp last]
  asked := by
    rw [waiting]
    intro one waits
    rcases List.mem_append.mp waits with old | last
    · exact tabled.asked one old
    · rw [List.mem_singleton.mp last]
      exact ⟨time, asks⟩
  cached := fun entry member => tabled.cached entry (cache entry member)

/-- The calls that a put answers are not those that go on waiting. -/
theorem Tabled.apart (tabled : Tabled events traffic) (accounted : Accounted events traffic)
    (now : Instant) (face : Face) (data : Data) :
    (((traffic.network.put face data now).1 ++
      (traffic.network.put face data now).2.waiting).map (·.asker)).Nodup :=
  ((traffic.network.perm_put face data now).map _).nodup_iff.mpr (tabled.asker_nodup accounted)

/-- What calls are given and return does not depend on the network. -/
theorem Accounted.network (accounted : Accounted events traffic) (network : Network τ Nat) :
    Accounted events { traffic with network } :=
  ⟨accounted.count, accounted.justified, accounted.once, accounted.distinct, accounted.early,
    accounted.single, accounted.closed, accounted.delivered⟩

/-- A call that no longer waits may return. -/
theorem Tabled.finish (tabled : Tabled events traffic) (gone : ¬ traffic.IsPending call)
    (answer : Option Data) : Tabled events (traffic.finish call answer) where
  numbered := tabled.numbered
  counted := tabled.counted
  owned := by
    intro one waits
    refine List.mem_filter.mpr ⟨tabled.owned one waits, ?_⟩
    simpa using fun same => gone ⟨one, waits, same⟩
  unanswered := tabled.unanswered
  asked := tabled.asked
  cached := tabled.cached

theorem Accounted.finish (accounted : Accounted events traffic) (isOpen : traffic.IsOpen call)
    {answer : Option Data} (given : ∀ data, answer = some data → (call, data) ∈ traffic.given) :
    Accounted events (traffic.finish call answer) where
  count := accounted.count
  justified := accounted.justified
  once := accounted.once
  distinct := accounted.distinct.sublist (List.filter_sublist.map _)
  early := fun other here => accounted.early other ((List.filter_sublist.map _).subset here)
  single := by
    rw [Traffic.finish, List.map_append]
    refine accounted.single.append (List.nodup_singleton _) (List.disjoint_singleton.mpr ?_)
    exact fun returned => (accounted.closed call returned).1 isOpen
  closed := by
    intro other member
    simp only [Traffic.finish, List.map_append, List.mem_append, List.map_cons, List.map_nil,
      List.mem_singleton] at member
    rcases member with old | rfl
    · obtain ⟨closed, early⟩ := accounted.closed other old
      exact ⟨fun here => closed ((List.filter_sublist.map _).subset here), early⟩
    · refine ⟨fun here => ?_, accounted.early other isOpen⟩
      obtain ⟨one, kept, same⟩ := List.mem_map.mp here
      simpa [same] using (List.mem_filter.mp kept).2
  delivered := by
    intro other data member
    rcases List.mem_append.mp member with old | new
    · exact accounted.delivered other data old
    · obtain ⟨rfl, same⟩ := Prod.mk.inj (List.mem_singleton.mp new)
      exact given data same.symm

theorem mem_fst_of_find? {β : Type} {pairs : List (Nat × β)} {pair : Nat × β}
    (found : pairs.find? (fun one => one.1 = call) = some pair) :
    (call, pair.2) ∈ pairs ∧ pair.1 = call := by
  have same : pair.1 = call := by simpa using List.find?_some found
  exact ⟨same ▸ List.mem_of_find?_eq_some found, same⟩

/-- A call gives up what is waiting for it, and nothing else. -/
theorem Tabled.expire (tabled : Tabled events traffic) (id : Nat) :
    Tabled events { traffic with network := (traffic.network.expire id).2 } where
  numbered := tabled.numbered.sublist (List.eraseP_sublist.map _)
  counted := fun one waits => tabled.counted one (List.mem_of_mem_eraseP waits)
  owned := fun one waits => tabled.owned one (List.mem_of_mem_eraseP waits)
  unanswered := fun one waits => tabled.unanswered one (List.mem_of_mem_eraseP waits)
  asked := fun one waits => tabled.asked one (List.mem_of_mem_eraseP waits)
  cached := tabled.cached

/-- A call that has not returned returns what it was given. -/
theorem Accounted.collect (accounted : Accounted events traffic)
    (given : (call, data) ∈ traffic.given) (isOpen : traffic.IsOpen call) :
    traffic.collect call = traffic.finish call (some data) := by
  cases found : traffic.given.find? fun one => one.1 = call with
  | none => simpa using List.find?_eq_none.mp found _ given
  | some pair =>
    obtain ⟨member, same⟩ := mem_fst_of_find? found
    have one := List.inj_on_of_nodup_map accounted.once member given rfl
    simp only [Traffic.collect, found, if_pos isOpen, (Prod.mk.inj one).2]

end Traffic

end DigestSync
