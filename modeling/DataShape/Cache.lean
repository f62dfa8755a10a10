-- SUMMARY: The cache of loaded definitions: a bounded queue by text and depth limit.
import DataShape.Shape.Basic

/-!
# Definition cache

The oldest entry stands first. A look-up changes nothing. A new entry goes to
the end, and the oldest ones go until it fits.
-/

namespace DataShape

/-- A shape that was loaded, with the number of the load that made it. -/
structure Loaded where
  serial : Nat
  shape : Shape

/-- What a loaded definition depends on. -/
structure CacheKey where
  text : Text
  limit : Int
  deriving DecidableEq

structure Cache where
  entries : List (CacheKey × Loaded)

namespace Cache

def empty : Cache := ⟨[]⟩

def keys (c : Cache) : List CacheKey := c.entries.map (·.1)

def size (c : Cache) : Nat := c.entries.length

def find? (c : Cache) (key : CacheKey) : Option Loaded :=
  (c.entries.find? fun e => e.1 = key).map (·.2)

/-- The loop that makes room: as long as the bound is reached, the oldest entry goes. None when an
entry has to go and there is none. -/
def evict (bound : Int) : List (CacheKey × Loaded) → Option (List (CacheKey × Loaded))
  | [] => if bound ≤ 0 then none else some []
  | e :: rest => if bound ≤ (e :: rest).length then evict bound rest else some (e :: rest)

/-- A positive bound leaves the newest entries, so many that one more fits. -/
theorem evict_eq_drop {bound : Int} (h : 0 < bound) (entries : List (CacheKey × Loaded)) :
    evict bound entries = some (entries.drop (entries.length + 1 - bound.toNat)) := by
  induction entries with
  | nil => simp only [evict, List.drop_nil]; rw [if_neg (by omega)]
  | cons e rest ih =>
    simp only [evict, List.length_cons]
    by_cases hfull : bound ≤ (rest.length + 1 : Nat)
    · rw [if_pos hfull, ih,
        show rest.length + 1 + 1 - bound.toNat = rest.length + 1 - bound.toNat + 1 by omega,
        List.drop_succ_cons]
    · rw [if_neg hfull, show rest.length + 1 + 1 - bound.toNat = 0 by omega, List.drop_zero]

/-- Puts something under a key. A key that is there already keeps its place. -/
def assign (key : CacheKey) (loaded : Loaded) :
    List (CacheKey × Loaded) → List (CacheKey × Loaded)
  | [] => [(key, loaded)]
  | e :: rest => if e.1 = key then (key, loaded) :: rest else e :: assign key loaded rest

/-- A new key goes to the end. -/
theorem assign_of_not_mem {key : CacheKey} {loaded : Loaded}
    {entries : List (CacheKey × Loaded)} (h : key ∉ entries.map (·.1)) :
    assign key loaded entries = entries ++ [(key, loaded)] := by
  induction entries with
  | nil => rfl
  | cons e rest ih =>
    simp only [List.map_cons, List.mem_cons, not_or] at h
    rw [assign, if_neg (Ne.symm h.1), ih h.2, List.cons_append]

def makeRoom (c : Cache) (bound : Int) (h : 0 < bound) : Cache :=
  ⟨(evict bound c.entries).get (by rw [evict_eq_drop h]; rfl)⟩

@[simp] theorem makeRoom_entries (c : Cache) {bound : Int} (h : 0 < bound) :
    (c.makeRoom bound h).entries = c.entries.drop (c.entries.length + 1 - bound.toNat) := by
  simp only [makeRoom, evict_eq_drop h, Option.get_some]

/-- Adds an entry within a positive bound. -/
def store (c : Cache) (bound : Int) (h : 0 < bound) (key : CacheKey) (loaded : Loaded) : Cache :=
  ⟨assign key loaded (c.makeRoom bound h).entries⟩

end Cache

end DataShape
