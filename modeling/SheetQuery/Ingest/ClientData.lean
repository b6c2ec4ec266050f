import SheetQuery.Ingest.Error
import SheetQuery.Sheet.Client

/-!
# Client data

What has been decoded of the sheets of the client in one cycle. A snapshot is replaced as a whole, so it has all sheets or
none.
-/

namespace SheetQuery.Ingest

open Sheet

/-- A snapshot of the sheets of the client. -/
structure ClientData where
  currency : Option (List Currency)
  experience : Option (List Experience)
  factions : Option (List Faction)
  imageSetMappings : Option (List ImageSetMapping)
  /-- The time at which reading began, if anything has been read. -/
  populatedAt : Option String
  deriving DecidableEq

namespace ClientData

/-- The snapshot before anything has been read. -/
def empty : ClientData :=
  ⟨none, none, none, none, none⟩

/-- The records of a sheet that must be there. -/
def require {α : Type} (file : String) : Option (List α) → Except IngestError (List α)
  | some records => .ok records
  | none => .error (.missingSection file)

/-- The currencies. -/
def requireCurrency (data : ClientData) : Except IngestError (List Currency) :=
  require Currency.fileName data.currency

/-- The awards of experience. -/
def requireExperience (data : ClientData) : Except IngestError (List Experience) :=
  require Experience.fileName data.experience

/-- The factions. -/
def requireFactions (data : ClientData) : Except IngestError (List Faction) :=
  require Faction.fileName data.factions

/-- The images of sets of images. -/
def requireImageSetMappings (data : ClientData) : Except IngestError (List ImageSetMapping) :=
  require ImageSetMapping.fileName data.imageSetMappings

end ClientData

end SheetQuery.Ingest
