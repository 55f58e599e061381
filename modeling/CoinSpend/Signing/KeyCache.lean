import CoinSpend.Account.Path
import CoinSpend.Bytes

/-! The public keys fetched from an oracle so far, by path. -/
namespace CoinSpend

structure KeyCache where
  entries : List (KeyPath × Octets 33)
  /-- How many look-ups found a key. -/
  hits : Nat
  distinct : (entries.map Prod.fst).Nodup

namespace KeyCache

def empty : KeyCache := ⟨[], 0, List.nodup_nil⟩

def find? (cache : KeyCache) (path : KeyPath) : Option (Octets 33) := cache.entries.lookup path

/-- A look-up that is counted if it finds a key. -/
def get (cache : KeyCache) (path : KeyPath) : Option (Octets 33) × KeyCache :=
  match cache.find? path with
  | some key => (some key, { cache with hits := cache.hits + 1 })
  | none => (none, cache)

def without (path : KeyPath) (entries : List (KeyPath × Octets 33)) : List (KeyPath × Octets 33) :=
  entries.filter (·.1 != path)

theorem distinct_without {entries : List (KeyPath × Octets 33)}
    (distinct : (entries.map Prod.fst).Nodup) (path : KeyPath) :
    ((without path entries).map Prod.fst).Nodup :=
  distinct.sublist (List.filter_sublist.map _)

def set (cache : KeyCache) (path : KeyPath) (key : Octets 33) : KeyCache where
  entries := (path, key) :: without path cache.entries
  hits := cache.hits
  distinct := by
    rw [List.map_cons, List.nodup_cons]
    refine ⟨?_, distinct_without cache.distinct path⟩
    simp [without]

def erase (cache : KeyCache) (path : KeyPath) : KeyCache :=
  ⟨without path cache.entries, cache.hits, distinct_without cache.distinct path⟩

/-- Forgets the keys and the count. -/
def clear (_ : KeyCache) : KeyCache := empty

def size (cache : KeyCache) : Nat := cache.entries.length

def isEmpty (cache : KeyCache) : Bool := cache.entries.isEmpty

end KeyCache

end CoinSpend
