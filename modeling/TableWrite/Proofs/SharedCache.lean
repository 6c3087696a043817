import TableWrite.Proofs.BuiltStatements
import TableWrite.Proofs.FreshPrototypes
import TableWrite.Proofs.UpdateAlignment

set_option autoImplicit false

namespace TableWrite

section Marks

variable {d e : Dialect} (same : d.parameterMark = e.parameterMark)

include same

/-- Of a dialect, only its mark shows in a prototype. -/
theorem Parameter.ofColumn_eq_of_mark : ofColumn d = ofColumn e := by
  funext c
  unfold ofColumn nameOf Dialect.parameterName
  rw [same]

theorem Prototypes.ofColumns_eq_of_mark (table : String) (columns : List Column) :
    ofColumns table columns d = ofColumns table columns e := by
  unfold ofColumns
  rw [Parameter.ofColumn_eq_of_mark same]

end Marks

namespace PrototypeCache

variable (cache : PrototypeCache) {r q : Request} {d e : Dialect}

theorem answer_empty_eq_of_key (same : PrototypeKey.ofRequest r d = .ofRequest q e)
    (columns : r.table.columns = q.table.columns) : empty.answer r d = empty.answer q e := by
  have destination := congrArg PrototypeKey.destination same
  have mark := congrArg PrototypeKey.parameterMark same
  rw [answer_empty, answer_empty, columns]
  change r.provider.destination = q.provider.destination at destination
  rw [destination]
  exact Prototypes.ofColumns_eq_of_mark mark _ _

/-- Under the key that was asked for, the cache goes on answering as it did. -/
theorem answer_asked_of_key_eq (same : PrototypeKey.ofRequest r d = .ofRequest q e) :
    (cache.asked q e).answer r d = cache.answer q e := by
  unfold answer
  dsimp only
  rw [same, get?_asked]
  rfl

/-- Under every other key, asking changes no answer. -/
theorem answer_asked_of_key_ne (differ : PrototypeKey.ofRequest r d ≠ .ofRequest q e) :
    (cache.asked q e).answer r d = cache.answer r d := by
  unfold answer
  dsimp only
  rw [get?_asked_of_ne _ _ _ _ differ]

end PrototypeCache

/-- One use of a cache, by a builder of some dialect. -/
inductive CacheUse where
  | build (d : Dialect) (r : Request) (changed : List String) (b : Build)
  | ask (d : Dialect) (r : Request)
  | clear

/-- What a use gives back: of a build its command or error, and the request as it is left with
what is to be read again. -/
inductive CacheReply where
  | built (answer : Except Error Command) (request : Request)
  | prototypes (s : Prototypes)
  | cleared

def Built.reply (b : Built) : CacheReply := .built b.answer b.request

/-- What is built does not show which cache is left. -/
theorem Build.reply_settle (r : Request) (cache other : PrototypeCache)
    (outcome : Except Error (Command × Refresh)) :
    (settle r cache outcome).reply = (settle r other outcome).reply := by
  cases outcome <;> rfl

namespace CacheUse

/-- The request whose prototypes a use may ask for, with its dialect. -/
def asks? : CacheUse → Option (Dialect × Request)
  | build d r _ (.statement _) | build d r _ (.procedure _) | ask d r => some (d, r)
  | build _ _ _ .query | clear => none

def reply (cache : PrototypeCache) : CacheUse → CacheReply
  | build d r changed b => (b.run d cache r changed).reply
  | ask d r => .prototypes (cache.answer r d)
  | clear => .cleared

def next (cache : PrototypeCache) : CacheUse → PrototypeCache
  | build d r changed b => (b.run d cache r changed).cache
  | ask d r => cache.asked r d
  | clear => cache.clear

/-- All that a use can do to a cache. A procedure without a name leaves it as it is. -/
theorem next_cases (cache : PrototypeCache) (use : CacheUse) :
    use.next cache = cache ∨ use.next cache = .empty ∨
      ∃ d r, use.asks? = some (d, r) ∧ use.next cache = cache.asked r d := by
  cases use with
  | build d r changed b =>
      cases b with
      | statement a => exact .inr (.inr ⟨d, r, rfl, Build.cache_statement d cache r changed a⟩)
      | procedure a =>
          unfold next Build.run
          dsimp only
          cases r.provider.procedure? a with
          | none => exact .inl (Build.cache_settle cache r _)
          | some name => exact .inr (.inr ⟨d, r, rfl, Build.cache_settle _ r _⟩)
      | query => exact .inl rfl
  | ask d r => exact .inr (.inr ⟨d, r, rfl, rfl⟩)
  | clear => exact .inr (.inl rfl)

/-- A reply depends on the cache only through the prototypes that it answers with. -/
theorem reply_eq_of_answer {cache other : PrototypeCache} (use : CacheUse)
    (same : ∀ d r, use.asks? = some (d, r) → cache.answer r d = other.answer r d) :
    use.reply cache = use.reply other := by
  cases use with
  | build d r changed b =>
      cases b with
      | statement a =>
          have prototypes := same d r rfl
          unfold reply Build.run
          dsimp only
          rw [prototypes]
          exact Build.reply_settle r _ _ _
      | procedure a =>
          have prototypes := same d r rfl
          unfold reply Build.run
          dsimp only
          rw [prototypes]
          cases r.provider.procedure? a with
          | none => rfl
          | some name => exact Build.reply_settle r _ _ _
      | query => rfl
  | ask d r => exact congrArg CacheReply.prototypes (same d r rfl)
  | clear => rfl

end CacheUse

/-- The replies to a run of uses, each with the cache that the uses before it left. -/
def PrototypeCache.replies : PrototypeCache → List CacheUse → List CacheReply
  | _, [] => []
  | cache, use :: rest => use.reply cache :: replies (use.next cache) rest

/-- Do requests under one key have the same columns? -/
def PrototypeKey.Consistent (asked : List (Dialect × Request)) : Prop :=
  ∀ a ∈ asked, ∀ b ∈ asked,
    ofRequest a.2 a.1 = ofRequest b.2 b.1 → a.2.table.columns = b.2.table.columns

instance (asked : List (Dialect × Request)) : Decidable (PrototypeKey.Consistent asked) :=
  inferInstanceAs (Decidable (∀ a ∈ asked, ∀ b ∈ asked, _ → _))

def PrototypeCache.Unnoticed (asked : List (Dialect × Request)) (cache : PrototypeCache) : Prop :=
  ∀ a ∈ asked, cache.answer a.2 a.1 = empty.answer a.2 a.1

namespace CacheUse

variable {asked : List (Dialect × Request)} {cache : PrototypeCache} {use : CacheUse}

theorem unnoticed_next (consistent : PrototypeKey.Consistent asked)
    (listed : ∀ a, use.asks? = some a → a ∈ asked) (unnoticed : cache.Unnoticed asked) :
    (use.next cache).Unnoticed asked := by
  rcases use.next_cases cache with kept | emptied | ⟨d, r, asks, became⟩
  · rw [kept]
    exact unnoticed
  · rw [emptied]
    exact fun _ _ => rfl
  · have mem := listed (d, r) asks
    rw [became]
    intro a there
    -- What is kept for one request serves every other under its key, whose columns are the same.
    by_cases same : PrototypeKey.ofRequest a.2 a.1 = .ofRequest r d
    · rw [cache.answer_asked_of_key_eq same, unnoticed (d, r) mem]
      exact (PrototypeCache.answer_empty_eq_of_key same (consistent a there (d, r) mem same)).symm
    · rw [cache.answer_asked_of_key_ne same]
      exact unnoticed a there

theorem reply_of_unnoticed (listed : ∀ a, use.asks? = some a → a ∈ asked)
    (unnoticed : cache.Unnoticed asked) : use.reply cache = use.reply .empty :=
  use.reply_eq_of_answer fun d r asks => unnoticed (d, r) (listed (d, r) asks)

end CacheUse

theorem PrototypeCache.replies_of_unnoticed {asked : List (Dialect × Request)}
    {cache : PrototypeCache} (uses : List CacheUse) (consistent : PrototypeKey.Consistent asked)
    (listed : ∀ use ∈ uses, ∀ a, use.asks? = some a → a ∈ asked)
    (unnoticed : cache.Unnoticed asked) :
    cache.replies uses = uses.map (CacheUse.reply .empty) := by
  induction uses generalizing cache with
  | nil => rfl
  | cons use rest ih =>
      have first := listed use List.mem_cons_self
      have others : ∀ use ∈ rest, ∀ a, use.asks? = some a → a ∈ asked := by
        intro use mem
        exact listed use (List.mem_cons_of_mem _ mem)
      -- The invariant carries the rest of the run, whatever cache the first use leaves.
      unfold replies
      rw [List.map_cons, CacheUse.reply_of_unnoticed first unnoticed,
        ih others (CacheUse.unnoticed_next consistent first unnoticed)]

/-- Builders that share a cache reply as they would each with a new cache of its own. -/
theorem replies_of_shared_cache (uses : List CacheUse)
    (consistent : PrototypeKey.Consistent (uses.filterMap CacheUse.asks?)) :
    PrototypeCache.empty.replies uses = uses.map (CacheUse.reply .empty) := by
  apply PrototypeCache.replies_of_unnoticed uses consistent
  · intro use mem a asks
    exact List.mem_filterMap.mpr ⟨use, mem, asks⟩
  · exact fun _ _ => rfl

/-- A dialect that marks parameters with a colon. -/
def Dialect.colons : Dialect := { standard with parameterMark := ":" }

def Dialect.angles : Dialect := { standard with table := ⟨"<", ">"⟩, column := ⟨"<", ">"⟩ }

/-- Builds of orders in three dialects, two of which fail, before and after the cache is
cleared. -/
def CacheUse.mixedOrders : List CacheUse :=
  let unexpressed := { Request.orders with
    provider := { Request.orders.provider with properties := [] } }
  [.ask .colons .orders, .build .colons .orders ["Unit Price"] (.statement .insert),
    .build .standard unexpressed ["Unit Price"] (.statement .update),
    .build .angles .orders ["Unit Price"] (.statement .update),
    .build .standard .orders [] (.procedure .delete), .clear,
    .build .angles .orders [] (.statement .delete),
    .build .standard .orders ["Changed", "Unit Price"] (.statement .update)]

theorem mixed_orders_share_cache :
    PrototypeKey.Consistent (CacheUse.mixedOrders.filterMap CacheUse.asks?) ∧
      PrototypeCache.empty.replies CacheUse.mixedOrders =
        CacheUse.mixedOrders.map (CacheUse.reply .empty) := by
  have consistent : PrototypeKey.Consistent
      (CacheUse.mixedOrders.filterMap CacheUse.asks?) := by decide +kernel
  exact ⟨consistent, replies_of_shared_cache _ consistent⟩

end TableWrite
