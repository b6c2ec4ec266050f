import SheetQuery.Json.Basic
import SheetQuery.Sheet.Record

/-!
# The sheets of the client

Four sheets come with the client. Each has a file, a shape of records, and a JSON form of the records.
-/

namespace SheetQuery.Sheet

open Decimal

/-- A field that must have a value on every line. -/
def required (name : String) (type : FieldType) : Field :=
  ⟨name, type, false⟩

/-- A field whose empty cell stands for null. -/
def optional (name : String) (type : FieldType) : Field :=
  ⟨name, type, true⟩

/-- A word without a sign in its slot. -/
def slotOfUInt32 (n : UInt32) : SlotValue :=
  .unsigned n.toUInt64

/-- A word with a sign in its slot. -/
def slotOfInt32 (n : Int32) : SlotValue :=
  .signed n.toInt64

/-- A value that may be absent in its slot. -/
def slotOfOption {α : Type} (slot : α → SlotValue) : Option α → SlotValue
  | none => .null
  | some x => slot x

/-- A currency a character can hold. -/
structure Currency where
  id : UInt32
  nameId : Int32
  descriptionId : Option Int32
  iconId : UInt32
  mapIconId : UInt32
  /-- The most a character can hold. -/
  valueMax : Option UInt32
  deriving DecidableEq

/-- An award of experience. -/
structure Experience where
  id : UInt32
  awardTypeId : UInt32
  stringId : Int32
  xp : Double
  notifyRadius : Option Single
  deriving DecidableEq

/-- A faction. -/
structure Faction where
  id : UInt32
  nameId : Int32
  shortNameId : Option Int32
  iconId : Option UInt32
  hudTintRgb : UInt32
  codeTag : String
  userSelectable : Bool
  deriving DecidableEq

/-- The sizes of the images of a set. -/
inductive ImageType where
  | small
  | large
  | massive
  deriving Repr, DecidableEq

/-- An image of a set of images. -/
structure ImageSetMapping where
  imageSetId : UInt32
  imageId : UInt32
  imageType : ImageType
  deriving DecidableEq

namespace ImageType

/-- The names of the sizes, in the order of their places. -/
def members : List String :=
  ["Small", "Large", "Massive"]

/-- The size at a place. -/
def ofIndex : Nat → ImageType
  | 0 => .small
  | 1 => .large
  | _ => .massive

/-- The place of a size. -/
def index : ImageType → Nat
  | .small => 0
  | .large => 1
  | .massive => 2

/-- The name of a size. -/
def name : ImageType → String
  | .small => "Small"
  | .large => "Large"
  | .massive => "Massive"

end ImageType

namespace Currency

/-- The file of the sheet. -/
def fileName : String := "Currency.txt"

/-- The shape of the records. -/
def shape : Shape Currency where
  declaration :=
    ⟨"Currency", [required "id" (.int .u32), required "name_id" (.int .i32), optional "description_id" (.int .i32),
      required "icon_id" (.int .u32), required "map_icon_id" (.int .u32), optional "value_max" (.int .u32)]⟩
  ofSlots := do
    return {
      id := ← Slots.uint32
      nameId := ← Slots.int32
      descriptionId := ← Slots.int32?
      iconId := ← Slots.uint32
      mapIconId := ← Slots.uint32
      valueMax := ← Slots.uint32? }
  toSlots c := [slotOfUInt32 c.id, slotOfInt32 c.nameId, slotOfOption slotOfInt32 c.descriptionId,
    slotOfUInt32 c.iconId, slotOfUInt32 c.mapIconId, slotOfOption slotOfUInt32 c.valueMax]

/-- The JSON form of a record. -/
def toJson (c : Currency) : Json :=
  .obj [("id", .ofUInt32 c.id), ("name_id", .ofInt32 c.nameId), ("description_id", .ofOption .ofInt32 c.descriptionId),
    ("icon_id", .ofUInt32 c.iconId), ("map_icon_id", .ofUInt32 c.mapIconId),
    ("value_max", .ofOption .ofUInt32 c.valueMax)]

end Currency

namespace Experience

/-- The file of the sheet. -/
def fileName : String := "Experience.txt"

/-- The shape of the records. -/
def shape : Shape Experience where
  declaration :=
    ⟨"Experience", [required "id" (.int .u32), required "award_type_id" (.int .u32), required "string_id" (.int .i32),
      required "xp" .decimal, optional "notify_radius" .single]⟩
  ofSlots := do
    return {
      id := ← Slots.uint32
      awardTypeId := ← Slots.uint32
      stringId := ← Slots.int32
      xp := ← Slots.double
      notifyRadius := ← Slots.single? }
  toSlots e := [slotOfUInt32 e.id, slotOfUInt32 e.awardTypeId, slotOfInt32 e.stringId, .float e.xp,
    slotOfOption (fun x : Single => .float (x.convert .double)) e.notifyRadius]

/-- The JSON form of a record. -/
def toJson (e : Experience) : Json :=
  .obj [("id", .ofUInt32 e.id), ("award_type_id", .ofUInt32 e.awardTypeId), ("string_id", .ofInt32 e.stringId),
    ("xp", .ofDouble e.xp),
    ("notify_radius", .ofOption (fun x : Single => .ofDouble (x.convert .double)) e.notifyRadius)]

end Experience

namespace Faction

/-- The file of the sheet. -/
def fileName : String := "Factions.txt"

/-- The shape of the records. -/
def shape : Shape Faction where
  declaration :=
    ⟨"Faction", [required "id" (.int .u32), required "name_id" (.int .i32), optional "short_name_id" (.int .i32),
      optional "icon_id" (.int .u32), required "hud_tint_rgb" (.int .u32), required "code_tag" .text,
      required "user_selectable" .bool]⟩
  ofSlots := do
    return {
      id := ← Slots.uint32
      nameId := ← Slots.int32
      shortNameId := ← Slots.int32?
      iconId := ← Slots.uint32?
      hudTintRgb := ← Slots.uint32
      codeTag := ← Slots.text
      userSelectable := ← Slots.bool }
  toSlots f := [slotOfUInt32 f.id, slotOfInt32 f.nameId, slotOfOption slotOfInt32 f.shortNameId,
    slotOfOption slotOfUInt32 f.iconId, slotOfUInt32 f.hudTintRgb, .text f.codeTag, .bool f.userSelectable]

/-- The JSON form of a record. -/
def toJson (f : Faction) : Json :=
  .obj [("id", .ofUInt32 f.id), ("name_id", .ofInt32 f.nameId), ("short_name_id", .ofOption .ofInt32 f.shortNameId),
    ("icon_id", .ofOption .ofUInt32 f.iconId), ("hud_tint_rgb", .ofUInt32 f.hudTintRgb), ("code_tag", .str f.codeTag),
    ("user_selectable", .bool f.userSelectable)]

end Faction

namespace ImageSetMapping

/-- The file of the sheet. -/
def fileName : String := "ImageSetMappings.txt"

/-- The shape of the records. -/
def shape : Shape ImageSetMapping where
  declaration :=
    ⟨"ImageSetMapping", [required "image_set_id" (.int .u32), required "image_id" (.int .u32),
      required "image_type" (.enum ImageType.members)]⟩
  ofSlots := do
    return {
      imageSetId := ← Slots.uint32
      imageId := ← Slots.uint32
      imageType := ImageType.ofIndex (← Slots.member ImageType.members.length) }
  toSlots m := [slotOfUInt32 m.imageSetId, slotOfUInt32 m.imageId, .enum m.imageType.index]

/-- The JSON form of a record. -/
def toJson (m : ImageSetMapping) : Json :=
  .obj [("image_set_id", .ofUInt32 m.imageSetId), ("image_id", .ofUInt32 m.imageId),
    ("image_type", .str m.imageType.name)]

end ImageSetMapping

end SheetQuery.Sheet
