import SheetQuery.Query.Response
import SheetQuery.Store.Condition
import SheetQuery.Store.Page

/-!
# The document store

Collections of documents in memory, by name. A collection is replaced as a whole. A plan is run on it in the order in
which its pipeline is written: conditions, projection, sorting, paging, enrichment.
-/

namespace SheetQuery

open Query

/-- Collections by name. The names are in order, and each is there once. -/
structure Store where
  collections : List (String × List Json)
  sorted : collections.Pairwise fun a b => compareText a.1 b.1 = .lt

namespace Store

/-- The store that has no collections. -/
def empty : Store :=
  ⟨[], .nil⟩

/-- The collections with one of them put in its place, or replaced. -/
def insertSorted (name : String) (documents : List Json) : List (String × List Json) → List (String × List Json)
  | [] => [(name, documents)]
  | (other, kept) :: rest =>
    match compareText name other with
    | .lt => (name, documents) :: (other, kept) :: rest
    | .eq => (name, documents) :: rest
    | .gt => (other, kept) :: insertSorted name documents rest

theorem mem_insertSorted {name : String} {documents : List Json} {entry : String × List Json}
    {collections : List (String × List Json)} (h : entry ∈ insertSorted name documents collections) :
    entry = (name, documents) ∨ entry ∈ collections := by
  induction collections with
  | nil => exact .inl (List.mem_singleton.1 h)
  | cons first rest ih =>
    obtain ⟨other, kept⟩ := first
    unfold insertSorted at h
    split at h
    · exact (List.mem_cons.1 h)
    · exact (List.mem_cons.1 h).imp id (List.mem_cons_of_mem _)
    · rcases List.mem_cons.1 h with rfl | h
      · exact .inr List.mem_cons_self
      · exact (ih h).imp id (List.mem_cons_of_mem _)

theorem sorted_insertSorted (name : String) (documents : List Json) {collections : List (String × List Json)}
    (h : collections.Pairwise fun a b => compareText a.1 b.1 = .lt) :
    (insertSorted name documents collections).Pairwise fun a b => compareText a.1 b.1 = .lt := by
  induction collections with
  | nil => exact List.pairwise_singleton _ _
  | cons first rest ih =>
    obtain ⟨other, kept⟩ := first
    obtain ⟨first_lt, rest_sorted⟩ := List.pairwise_cons.1 h
    unfold insertSorted
    split
    · rename_i lt
      exact List.pairwise_cons.2 ⟨fun entry mem => by
        rcases List.mem_cons.1 mem with rfl | mem
        · exact lt
        · exact Std.TransCmp.lt_trans lt (first_lt entry mem), h⟩
    · rename_i eq
      rw [Std.LawfulEqCmp.eq_of_compare eq]
      exact List.pairwise_cons.2 ⟨first_lt, rest_sorted⟩
    · rename_i gt
      exact List.pairwise_cons.2 ⟨fun entry mem => by
        rcases mem_insertSorted mem with rfl | mem
        · exact Std.OrientedCmp.gt_iff_lt.1 gt
        · exact first_lt entry mem, ih rest_sorted⟩

/-- The store with a collection put in, replacing any of that name. -/
def insert (store : Store) (name : String) (documents : List Json) : Store :=
  ⟨insertSorted name documents store.collections, sorted_insertSorted name documents store.sorted⟩

/-- The documents of a collection. -/
def find? (store : Store) (name : String) : Option (List Json) :=
  Members.get? name store.collections

/-- The documents of a collection, none if there is no such collection. -/
def documents (store : Store) (name : String) : List Json :=
  (store.find? name).getD []

/-- The collections and the numbers of their documents, in the order of the names. -/
def listing (store : Store) : List Datatype :=
  store.collections.map fun (name, documents) => ⟨name, documents.length⟩

/-- The documents that a plan accepts, as it shows them and in its order. -/
def select (plan : Plan) (conditions : List Condition) (documents : List Json) : List Json :=
  SortKey.sort plan.sort ((documents.filter (accepts plan.existence conditions)).map plan.projection.apply)

/-- The page of a plan. -/
def page (plan : Plan) (documents : List Json) : List Json :=
  (documents.drop plan.skip.toNat).take plan.limit.toNat

/-- Documents with what the store has attached to them. -/
def attach (store : Store) (plan : Plan) (documents : List Json) : List Json :=
  match plan.enrichment with
  | none => documents
  | some enrichment =>
    documents.map (enrichment.apply (store.documents enrichment.source) (store.documents enrichment.nestedSource))

/-- Runs a plan. That the collection is missing is found before a pattern that is refused. -/
def run [PatternEngine] (store : Store) (plan : Plan) : Except StoreError (List Json) :=
  match store.find? plan.collection with
  | none => .error (.collectionUnavailable plan.collection)
  | some documents =>
    match Condition.ofClauses plan.filters with
    | .error error => .error error
    | .ok conditions => .ok (store.attach plan (page plan (select plan conditions documents)))

end Store

end SheetQuery
