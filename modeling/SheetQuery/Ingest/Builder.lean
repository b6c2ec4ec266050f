import SheetQuery.Ingest.ClientData
import SheetQuery.Sorting

/-!
# Builders

A builder makes the documents of one collection from the data of the client: one document of each record, in the order of
the keys, records of one key in the order of the sheet.
-/

namespace SheetQuery.Ingest

open Sheet

/-- How a collection is made. -/
structure Builder where
  collection : String
  build : ClientData → Except IngestError (List Json)

namespace Builder

/-- The document of a currency. -/
def currencyDocument (c : Currency) : Json :=
  .obj [
    ("currency_id", .ofUInt32 c.id),
    ("name_id", .ofInt32 c.nameId),
    ("description_id", .ofOption .ofInt32 c.descriptionId),
    ("icon_image_set_id", .ofUInt32 c.iconId),
    ("map_icon_image_set_id", .ofUInt32 c.mapIconId),
    ("inventory_cap", .ofOption .ofUInt32 c.valueMax)]

/-- The document of an award of experience. -/
def experienceDocument (e : Experience) : Json :=
  .obj [
    ("experience_id", .ofUInt32 e.id),
    ("award_type_id", .ofUInt32 e.awardTypeId),
    ("name_id", .ofInt32 e.stringId),
    ("xp", .ofDouble e.xp),
    ("notify_radius", .ofOption (fun x : Decimal.Single => .ofDouble (x.convert .double)) e.notifyRadius)]

/-- The document of a faction. -/
def factionDocument (f : Faction) : Json :=
  .obj [
    ("faction_id", .ofUInt32 f.id),
    ("name_id", .ofInt32 f.nameId),
    ("short_name_id", .ofOption .ofInt32 f.shortNameId),
    ("image_set_id", .ofOption .ofUInt32 f.iconId),
    ("hud_tint_rgb", .ofUInt32 f.hudTintRgb),
    ("code_tag", .str f.codeTag),
    ("user_selectable", .bool f.userSelectable)]

/-- The document of an image of a set. -/
def imageSetDocument (m : ImageSetMapping) : Json :=
  .obj [
    ("image_set_id", .ofUInt32 m.imageSetId),
    ("image_id", .ofUInt32 m.imageId),
    ("image_type", .str m.imageType.name)]

/-- Whether an image comes before another: by its set, then by itself. -/
def imageSetBefore (a b : ImageSetMapping) : Bool :=
  a.imageSetId < b.imageSetId || (a.imageSetId == b.imageSetId && a.imageId < b.imageId)

/-- The currencies. -/
def currency : Builder where
  collection := "currency"
  build data := data.requireCurrency.map fun records =>
    (stableSort (fun a b => a.id < b.id) records).map currencyDocument

/-- The awards of experience. -/
def experience : Builder where
  collection := "experience"
  build data := data.requireExperience.map fun records =>
    (stableSort (fun a b => a.id < b.id) records).map experienceDocument

/-- The factions. -/
def faction : Builder where
  collection := "faction"
  build data := data.requireFactions.map fun records =>
    (stableSort (fun a b => a.id < b.id) records).map factionDocument

/-- The images of sets of images. -/
def imageSet : Builder where
  collection := "image_set"
  build data := data.requireImageSetMappings.map fun records =>
    (stableSort imageSetBefore records).map imageSetDocument

/-- A builder that fails. -/
def failing (collection reason : String) : Builder :=
  ⟨collection, fun _ => .error (.build collection reason)⟩

/-- The builders of all collections that come from the client. -/
def all : List Builder :=
  [currency, experience, faction, imageSet]

end Builder

/-- Which collections were built, and which could not be. -/
structure BuildReport where
  built : List String
  failed : List String
  deriving Repr, DecidableEq

/-- Whether all collections were built. -/
def BuildReport.isClean (report : BuildReport) : Bool :=
  report.failed.isEmpty

end SheetQuery.Ingest
