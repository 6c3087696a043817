import TableWrite.Proofs.CacheIdentity

set_option autoImplicit false

namespace TableWrite

/-- One call on a cache, by a builder of some dialect. -/
inductive CacheCall where
  | ask (d : Dialect) (r : Request)
  /-- Puts in a set that was built elsewhere. -/
  | seed (key : PrototypeKey) (set : Prototypes)
  | look (key : PrototypeKey)
  | count

inductive CacheAnswer where
  | found (set : Option Prototypes)
  | number (sets : Nat)
deriving DecidableEq

namespace CacheCall

def answer (cache : PrototypeCache) : CacheCall → CacheAnswer
  | ask d r => .found (some (cache.answer r d))
  | seed _ set => .found (some set)
  | look key => .found (cache.get? key)
  | count => .number cache.size

def next (cache : PrototypeCache) : CacheCall → PrototypeCache
  | ask d r => cache.asked r d
  | seed key set => cache.insert key set
  | look _ | count => cache

/-- The key under which a call reads a set. -/
def readKey? : CacheCall → Option PrototypeKey
  | ask d r => some (.ofRequest r d)
  | look key => some key
  | seed _ _ | count => none

/-- The set that a call seeds under a key. -/
def seeded? (key : PrototypeKey) : CacheCall → Option Prototypes
  | seed other set => if other = key then some set else none
  | ask _ _ | look _ | count => none

theorem seeded?_eq_some_iff {key : PrototypeKey} {call : CacheCall} {set : Prototypes} :
    call.seeded? key = some set ↔ call = .seed key set := by
  cases call with
  | seed other fresh =>
      by_cases same : other = key
      · simp [seeded?, same]
      · simp [seeded?, same]
  | _ => simp [seeded?]

end CacheCall

namespace PrototypeCache

def run (cache : PrototypeCache) (calls : List CacheCall) : PrototypeCache :=
  calls.foldl CacheCall.next cache

variable {cache : PrototypeCache} {key : PrototypeKey} {set : Prototypes}

theorem answer_of_present {r : Request} {d : Dialect}
    (present : Keyed.get? cache (.ofRequest r d) = some set) : cache.answer r d = set := by
  simp only [answer, present, Option.getD_some]

/-- Of all calls only seeding under its key replaces a set. -/
theorem get?_next (call : CacheCall) (present : Keyed.get? cache key = some set) :
    Keyed.get? (call.next cache) key = some ((call.seeded? key).getD set) := by
  cases call with
  | ask d r =>
      change Keyed.get? (cache.asked r d) key = some set
      by_cases same : key = .ofRequest r d
      · subst same
        rw [get?_asked, answer_of_present present]
      · rw [get?_asked_of_ne _ _ _ _ same, present]
  | seed other fresh =>
      by_cases same : other = key
      · have seeded : (CacheCall.seed other fresh).seeded? key = some fresh := by
          simp [CacheCall.seeded?, same]
        rw [seeded, ← same]
        exact Keyed.lookup_put_self other fresh cache
      · have foreign : (CacheCall.seed other fresh).seeded? key = none := by
          simp [CacheCall.seeded?, same]
        rw [foreign, Option.getD_none, ← present]
        exact Keyed.lookup_put_of_ne fresh cache (Ne.symm same)
  | look _ => exact present
  | count => exact present

theorem get?_run (calls : List CacheCall) (present : Keyed.get? cache key = some set) :
    Keyed.get? (cache.run calls) key =
      some ((calls.filterMap (CacheCall.seeded? key)).getLastD set) := by
  induction calls generalizing cache set with
  | nil => exact present
  | cons call rest ih =>
      have later := ih (get?_next call present)
      change Keyed.get? ((call.next cache).run rest) key = _
      rw [later, List.filterMap_cons]
      cases call.seeded? key with
      | none => rfl
      | some fresh => rw [List.getLastD_cons, Option.getD_some]

/-- Every read of a set that is present gives that set. -/
theorem answer_of_readKey? {read : CacheCall} (reads : read.readKey? = some key)
    (present : Keyed.get? cache key = some set) : read.answer cache = .found (some set) := by
  cases read with
  | ask d r =>
      have same : PrototypeKey.ofRequest r d = key := Option.some.inj reads
      subst same
      rw [CacheCall.answer, answer_of_present present]
  | look other =>
      have same : other = key := Option.some.inj reads
      rw [CacheCall.answer, get?, same, present]
  | seed _ _ => cases reads
  | count => cases reads

/-- Does every read under a key give one set, at any point of a run? -/
def Keeps (cache : PrototypeCache) (calls : List CacheCall) (key : PrototypeKey)
    (set : Prototypes) : Prop :=
  ∀ before, before <+: calls → ∀ read : CacheCall, read.readKey? = some key →
    read.answer (cache.run before) = .found (some set)

theorem keeps_of_seeded_eq {calls : List CacheCall} (present : Keyed.get? cache key = some set)
    (same : ∀ other, CacheCall.seed key other ∈ calls → other = set) :
    cache.Keeps calls key set := by
  intro before first read reads
  have place : (before.filterMap (CacheCall.seeded? key)).getLastD set ∈
      set :: before.filterMap (CacheCall.seeded? key) := List.getLastD_mem_cons
  have last : (before.filterMap (CacheCall.seeded? key)).getLastD set = set := by
    rcases List.mem_cons.mp place with unseeded | seeded
    · exact unseeded
    · obtain ⟨call, mem, gives⟩ := List.mem_filterMap.mp seeded
      rw [CacheCall.seeded?_eq_some_iff] at gives
      apply same
      rw [← gives]
      exact first.subset mem
  apply answer_of_readKey? reads
  rw [get?_run before present, last]

theorem eq_of_keeps {calls : List CacheCall} {other : Prototypes}
    (present : Keyed.get? cache key = some set) (keeps : cache.Keeps calls key set)
    (mem : CacheCall.seed key other ∈ calls) : other = set := by
  obtain ⟨front, back, rfl⟩ := List.append_of_mem mem
  have first : front ++ [CacheCall.seed key other] <+: front ++ .seed key other :: back := by
    refine ⟨back, ?_⟩
    simp
  -- Looking right after the seeding shows the seeded set.
  have seeded : CacheCall.seeded? key (.seed key other) = some other := by
    rw [CacheCall.seeded?_eq_some_iff]
  have looked := keeps _ first (.look key) rfl
  rw [CacheCall.answer, get?, get?_run _ present, List.filterMap_append,
    List.filterMap_cons_some seeded, List.filterMap_nil, List.getLastD_concat] at looked
  cases looked
  rfl

end PrototypeCache

/-- What is read under a key that has a set is the set that was seeded there last. It is the first
one throughout a run exactly if no call of the run seeds another under the key. -/
theorem cached_set_kept_iff (cache : PrototypeCache) (calls : List CacheCall) (key : PrototypeKey)
    (set : Prototypes) (present : Keyed.get? cache key = some set) :
    (∀ read : CacheCall, read.readKey? = some key → read.answer (cache.run calls) =
        .found (some ((calls.filterMap (CacheCall.seeded? key)).getLastD set))) ∧
      (cache.Keeps calls key set ↔ ∀ other, CacheCall.seed key other ∈ calls → other = set) := by
  constructor
  · intro read reads
    exact PrototypeCache.answer_of_readKey? reads (PrototypeCache.get?_run calls present)
  · constructor
    · intro keeps other mem
      exact PrototypeCache.eq_of_keeps present keeps mem
    · exact PrototypeCache.keeps_of_seeded_eq present

def Prototypes.labels : Prototypes :=
  ⟨"Items", [("Label", .ofType ":label" .varChar)]⟩

def CacheCall.itemCalls : List CacheCall :=
  [.ask .colons .items, .look (.ofRequest .items .standard),
    .seed (.ofRequest .archivedItems .colons) .labels, .count, .ask .angles .stagedItems]

theorem items_set_kept :
    Keyed.get? (PrototypeCache.empty.run [.ask .standard .items])
        (.ofRequest .items .standard) =
      some (.ofColumns "Items" Request.items.table.columns .standard) ∧
    (PrototypeCache.empty.run [.ask .standard .items]).Keeps CacheCall.itemCalls
      (.ofRequest .items .standard)
      (.ofColumns "Items" Request.items.table.columns .standard) := by
  have present : Keyed.get? (PrototypeCache.empty.run [.ask .standard .items])
      (.ofRequest .items .standard) =
        some (.ofColumns "Items" Request.items.table.columns .standard) := by decide +kernel
  refine ⟨present, (cached_set_kept_iff _ _ _ _ present).2.mpr ?_⟩
  intro other mem
  have foreign : PrototypeKey.ofRequest .items .standard ≠ .ofRequest .archivedItems .colons := by
    decide +kernel
  simp [CacheCall.itemCalls, foreign] at mem

/-- Seeding replaces the set that a builder has asked for, and the one that was seeded before. -/
theorem seeding_replaces_set :
    (Keyed.get? (PrototypeCache.empty.run [.ask .standard .items])
        (.ofRequest .items .standard) =
      some (.ofColumns "Items" Request.items.table.columns .standard) ∧
    ¬ (PrototypeCache.empty.run [.ask .standard .items]).Keeps
      [.seed (.ofRequest .items .standard) .labels] (.ofRequest .items .standard)
      (.ofColumns "Items" Request.items.table.columns .standard)) ∧
    Keyed.get? (PrototypeCache.empty.run [.seed (.ofRequest .items .standard) .labels])
        (.ofRequest .items .standard) = some .labels ∧
    ¬ (PrototypeCache.empty.run [.seed (.ofRequest .items .standard) .labels]).Keeps
      [.seed (.ofRequest .items .standard) ⟨"Items", []⟩] (.ofRequest .items .standard)
      .labels := by
  refine ⟨⟨by decide +kernel, ?_⟩, by decide +kernel, ?_⟩
  · intro keeps
    have looked := keeps _ (List.prefix_refl _) (.look (.ofRequest .items .standard)) rfl
    exact absurd looked (by decide +kernel)
  · intro keeps
    have looked := keeps _ (List.prefix_refl _) (.look (.ofRequest .items .standard)) rfl
    exact absurd looked (by decide +kernel)

end TableWrite
