import SheetQuery.Json.Order
import SheetQuery.Json.Path
import SheetQuery.Query.Plan
import SheetQuery.Sorting

/-!
# Pages

What is done to the documents that a plan accepts: they are cut down to the members asked for, sorted, paged, and given
the documents that link to them. Sorting and linking see the documents as they have been cut down.
-/

namespace SheetQuery.Query

/-! ## Projection -/

namespace Projection

/-- The document that has what is at some paths of another, and nothing else. -/
def keepPaths (paths : List String) (document : Json) : Json :=
  paths.foldl (fun kept path =>
    match document.lookup path with
    | some value => kept.insertAt path value
    | none => kept) (.obj [])

/-- The document without what is at some paths. -/
def dropPaths (paths : List String) (document : Json) : Json :=
  paths.foldl (fun kept path => kept.removeAt path) document

/-- The document with the members to keep, if any are named, then without those to leave out, and never with the store's
own. -/
def apply (projection : Projection) (document : Json) : Json :=
  let kept := if projection.included.isEmpty then document else keepPaths projection.included document
  dropPaths projection.excluded (kept.removeAt storeIdField)

end Projection

/-! ## Sorting -/

namespace SortKey

/-- Compares two documents by one key. -/
def compare (key : SortKey) (a b : Json) : Ordering :=
  let order := Json.compareForSort (a.lookup key.field) (b.lookup key.field)
  if key.descending then order.swap else order

/-- Compares two documents by keys, the first being the most significant. -/
def compareAll : List SortKey → Json → Json → Ordering
  | [], _, _ => .eq
  | key :: keys, a, b => (key.compare a b).then (compareAll keys a b)

/-- Sorts documents by keys. Documents that are equal in all of them keep their order. -/
def sort (keys : List SortKey) (documents : List Json) : List Json :=
  stableSort (fun a b => (compareAll keys a b).isLT) documents

end SortKey

/-! ## Enrichment -/

namespace Enrichment

/-- The member of a link that says which of the links of a document it is. -/
def linkIndexField : String := "fire_mode_index"

/-- Whether a key is the expected one; a missing key counts as null. -/
def sameKey (actual : Option Json) (expected : Json) : Bool :=
  Json.compareScalars (actual.getD .null) expected == some .eq

/-- The key by which a document is linked, null if it has none. -/
def keyOf (enrichment : Enrichment) (document : Json) : Json :=
  (document.get? enrichment.localField).getD .null

/-- Whether a link belongs to a key and has the index asked for. -/
def isLink (enrichment : Enrichment) (key link : Json) : Bool :=
  sameKey (link.get? enrichment.foreignField) key && sameKey (link.get? linkIndexField) enrichment.indexJson

/-- A link as it is attached: without the store's member, and with the documents that it leads to. -/
def attachedLink (enrichment : Enrichment) (nested : List Json) (link : Json) : Json :=
  let shown := link.dropMember storeIdField
  let groups := nested.filter fun group => sameKey (group.get? enrichment.foreignField) (enrichment.keyOf shown)
  shown.setMember enrichment.nestedOutput (.arr groups)

/-- What is attached to a document. -/
def attachments (enrichment : Enrichment) (links nested : List Json) (document : Json) : List Json :=
  (links.filter (enrichment.isLink (enrichment.keyOf document))).map (enrichment.attachedLink nested)

/-- The document with what is attached to it. -/
def apply (enrichment : Enrichment) (links nested : List Json) (document : Json) : Json :=
  document.setMember enrichment.output (.arr (enrichment.attachments links nested document))

end Enrichment

end SheetQuery.Query
