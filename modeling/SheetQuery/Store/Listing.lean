import SheetQuery.Store.Basic

/-!
# The listing of collections

What the collections are and how many documents they have is asked often and changes seldom, so the listing is kept for a
while. An entry older than the window is not used, and a failed refresh leaves it as it was.
-/

namespace SheetQuery

open Query

/-- A store as those who ask it see it. -/
structure Backend where
  run : Plan → Except StoreError (List Json)
  listing : Except StoreError (List Datatype)

namespace Backend

/-- A store in memory, which always has a listing. -/
def ofStore [PatternEngine] (store : Store) : Backend :=
  ⟨store.run, .ok store.listing⟩

/-- A store that fails whenever it is asked. -/
def failing (error : StoreError) : Backend :=
  ⟨fun _ => .error error, .error error⟩

end Backend

/-- The listing as it was last seen. Times are in milliseconds. -/
structure ListingCache where
  /-- How long a listing is used. -/
  window : Nat
  /-- When the listing was seen, and what it was. -/
  entry : Option (Nat × List Datatype)

namespace ListingCache

/-- How long a listing is used if nothing else is said: an hour. -/
def defaultWindow : Nat := 60 * 60 * 1000

/-- A cache that has seen nothing. -/
def empty (window : Nat) : ListingCache :=
  ⟨window, none⟩

/-- The entry, if it is younger than the window. -/
def fresh? (cache : ListingCache) (now : Nat) : Option (List Datatype) :=
  cache.entry.bind fun (seen, listing) => if now - seen < cache.window then some listing else none

/-- The listing: the entry if it is fresh, else what the store says, which becomes the entry. -/
def get (cache : ListingCache) (now : Nat) (backend : Backend) :
    Except StoreError (List Datatype) × ListingCache :=
  match cache.fresh? now with
  | some listing => (.ok listing, cache)
  | none =>
    match backend.listing with
    | .ok listing => (.ok listing, { cache with entry := some (now, listing) })
    | .error error => (.error error, cache)

/-- The number of collections. -/
def count (cache : ListingCache) (now : Nat) (backend : Backend) : Except StoreError Nat × ListingCache :=
  match cache.get now backend with
  | (.ok listing, cache) => (.ok listing.length, cache)
  | (.error error, cache) => (.error error, cache)

/-- The cache without its entry. -/
def invalidate (cache : ListingCache) : ListingCache :=
  { cache with entry := none }

end ListingCache

end SheetQuery
