import SheetQuery.Query.Catalog
import SheetQuery.Query.Control

/-!
# Plans

A plan is a compiled request: which documents to keep, which of their members, in which order, and which page of them. It
can be rendered as the stages of an aggregation pipeline, always in the same order.
-/

namespace SheetQuery.Query

/-- The member that a store adds to every document, and that no answer has. -/
def storeIdField : String := "_id"

/-- Which members to keep and which of those to leave out. -/
structure Projection where
  included : List String
  excluded : List String
  deriving Repr, DecidableEq

/-- Attaches documents of another collection to every document of a page: those that link to it and have an index, each
with the documents of a third collection that it leads to. -/
structure Enrichment where
  source : String
  localField : String
  foreignField : String
  output : String
  /-- Only links with this index are attached. -/
  fireModeIndex : Int64
  nestedSource : String
  nestedOutput : String
  deriving Repr, DecidableEq

/-- A compiled request. -/
structure Plan where
  collection : String
  /-- Comparisons that must all hold, in the order of the request. -/
  filters : List Clause
  /-- Fields that must be there and not null. -/
  existence : List String
  projection : Projection
  /-- The keys to sort by, the most significant first. -/
  sort : List SortKey
  skip : UInt64
  limit : UInt64
  enrichment : Option Enrichment
  /-- Whether the answer tells how long it took. -/
  timing : Bool

namespace Enrichment

/-- Fire groups are given their primary fire mode. -/
def fireGroup : Enrichment where
  source := "fire_group_to_fire_mode"
  localField := "fire_group_id"
  foreignField := "fire_group_id"
  output := "fire_group_to_fire_mode"
  fireModeIndex := 0
  nestedSource := "fire_group"
  nestedOutput := "fire_mode_to_fire_group"

/-- The enrichment of a collection. -/
def ofCollection? (name : String) : Option Enrichment :=
  if name = "fire_group" then some fireGroup else none

/-- The index as a value. -/
def indexJson (enrichment : Enrichment) : Json :=
  (Json.ofInt? enrichment.fireModeIndex.toInt).getD .null

/-- The stage of a pipeline that enriches. -/
def stage (e : Enrichment) : Json :=
  .obj [("$lookup", .obj [
    ("from", .str e.source),
    ("localField", .str e.localField),
    ("foreignField", .str e.foreignField),
    ("pipeline", .arr [
      .obj [("$match", .obj [("$expr", .obj [("$eq", .arr [e.indexJson, .str "$fire_mode_index"])])])],
      .obj [("$project", .obj [(storeIdField, .ofNat 0)])],
      .obj [("$lookup", .obj [
        ("from", .str e.nestedSource),
        ("localField", .str e.localField),
        ("foreignField", .str e.foreignField),
        ("as", .str e.nestedOutput)])]]),
    ("as", .str e.output)])]

end Enrichment

/-- The document of a projection: what is left out counts 0 and what is kept counts 1. -/
def Projection.document (projection : Projection) : Json :=
  .obj (Members.ofList ((storeIdField, .ofNat 0)
    :: projection.included.map (fun path => (path, .ofNat 1))
    ++ projection.excluded.map (fun path => (path, .ofNat 0))))

namespace Plan

/-- The document of the conditions: existence first, then comparisons. -/
def matchDocument (plan : Plan) : Json :=
  let conditions :=
    plan.existence.map (fun field => Json.obj [(field, .obj [("$ne", .null)])])
      ++ plan.filters.map fun clause => Json.obj [(clause.field, .obj [(clause.operator.storeName, clause.operand)])]
  if conditions.isEmpty then .obj [] else .obj [("$and", .arr conditions)]

/-- The document of the keys to sort by. -/
def sortDocument (plan : Plan) : Json :=
  .obj (Members.ofList (plan.sort.map fun key => (key.field, (Json.ofInt? key.direction).getD .null)))

/-- The stages of the pipeline. -/
def pipeline (plan : Plan) : List Json :=
  [.obj [("$match", plan.matchDocument)], .obj [("$project", plan.projection.document)]]
    ++ (if plan.sort.isEmpty then [] else [.obj [("$sort", plan.sortDocument)]])
    ++ [.obj [("$skip", .ofUInt64 plan.skip)], .obj [("$limit", .ofUInt64 plan.limit)]]
    ++ plan.enrichment.toList.map Enrichment.stage

end Plan

end SheetQuery.Query
