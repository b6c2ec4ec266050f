import SheetQuery.Json.Basic
import SheetQuery.Query.Error
import SheetQuery.Query.Filter
import SheetQuery.Text.Split

/-!
# The catalog

The collections that can be queried, the fields that a request may name in each, and the kind of value in each field. An
operand is read as a value of the kind of its field.
-/

namespace SheetQuery.Query

open Decimal

/-- What kind of value a field has. -/
inductive FieldKind where
  | integer
  | float
  | truth
  | string
  /-- A document within the document: values inside it are compared as texts. -/
  | object
  /-- A list of scalars: one of them must satisfy a comparison. -/
  | array (element : FieldKind)
  deriving Repr, DecidableEq

namespace FieldKind

/-- The name of a kind. -/
def name : FieldKind → String
  | .integer => "integer"
  | .float => "number"
  | .truth => "boolean"
  | .string => "string"
  | .object => "object"
  | .array _ => "array"

/-- The kind of the operands: lists are compared item by item. -/
def operandKind : FieldKind → FieldKind
  | .array element => element
  | kind => kind

/-- Reads a finite number. -/
def readFinite? (raw : String) : Option Json :=
  match readBinary .double raw.toList with
  | .ok (.finite x) => some (.num (.float x))
  | _ => none

/-- Reads an integer of 64 bits, with a sign or without one. -/
def readWord? (raw : String) : Option Json :=
  match readInteger .i64 raw.toList with
  | .ok i => Json.ofInt? i
  | .error _ =>
    match readInteger .u64 raw.toList with
    | .ok i => Json.ofInt? i
    | .error _ => none

/-- Reads an operand as a value of a kind. -/
def readOperand? (raw : String) : FieldKind → Option Json
  | .integer => readWord? raw
  | .float => readFinite? raw
  | .truth =>
    if raw = "1" || raw = "true" then some (.bool true)
    else if raw = "0" || raw = "false" then some (.bool false)
    else none
  | .array element => readOperand? raw element
  | .string | .object => some (.str raw)

end FieldKind

/-- A declared field. -/
structure FieldInfo where
  name : String
  kind : FieldKind
  deriving Repr, DecidableEq

/-- A collection that can be queried. -/
structure Collection where
  name : String
  fields : List FieldInfo
  deriving Repr, DecidableEq

namespace Collection

/-- The declared field that a path begins with. -/
def field? (collection : Collection) (path : String) : Option FieldInfo :=
  let head := (Text.pieces '.' path).headD path
  collection.fields.find? (·.name == head)

/-- The declared field that a path begins with; there must be one. -/
def require (collection : Collection) (path : String) : Except QueryError FieldInfo :=
  match collection.field? path with
  | some field => .ok field
  | none => .error (.unknownField collection.name path)

/-- Reads the operand of a comparison with a field of a kind. The bound of a range on integers may be a fraction. -/
def boundOf? (kind : FieldKind) (operator : Operator) (raw : String) : Option Json :=
  match kind.readOperand? raw with
  | some operand => some operand
  | none =>
    match kind with
    | .integer => if operator.isRange then FieldKind.readFinite? raw else none
    | _ => none

/-- Reads the operand of a comparison. Patterns, and operands for values inside a field, stay texts. -/
def readOperand (collection : Collection) (path : String) (operator : Operator) (raw : String) :
    Except QueryError Json :=
  match collection.require path with
  | .error error => .error error
  | .ok field =>
    if operator.isRegex || path != field.name then .ok (.str raw)
    else
      match boundOf? field.kind.operandKind operator raw with
      | some operand => .ok operand
      | none => .error (.invalidOperand path raw field.kind.operandKind.name)

end Collection

/-- The collections that can be queried, by their names in ascending order. -/
abbrev Catalog := List Collection

namespace Catalog

/-- A collection by its name. -/
def find? (catalog : Catalog) (name : String) : Option Collection :=
  List.find? (·.name == name) catalog

/-- A collection by its name; there must be one. -/
def require (catalog : Catalog) (name : String) : Except QueryError Collection :=
  match catalog.find? name with
  | some collection => .ok collection
  | none => .error (.unknownCollection name)

/-- The names of the collections. -/
def names (catalog : Catalog) : List String :=
  List.map Collection.name catalog

/-- Fields of one kind. -/
def fieldsOf (kind : FieldKind) (names : List String) : List FieldInfo :=
  names.map fun name => ⟨name, kind⟩

/-- The currencies. -/
def currency : Collection :=
  ⟨"currency", fieldsOf .integer
    ["currency_id", "name_id", "description_id", "icon_image_set_id", "map_icon_image_set_id", "inventory_cap"]⟩

/-- The awards of experience. -/
def experience : Collection :=
  ⟨"experience", fieldsOf .integer ["experience_id", "award_type_id", "name_id"]
    ++ fieldsOf .float ["xp", "notify_radius"]⟩

/-- The factions. -/
def faction : Collection :=
  ⟨"faction", fieldsOf .integer ["faction_id", "name_id", "short_name_id", "image_set_id", "hud_tint_rgb"]
    ++ [⟨"code_tag", .string⟩, ⟨"user_selectable", .truth⟩]⟩

/-- The groups of fire modes. -/
def fireGroup : Collection :=
  ⟨"fire_group", [⟨"fire_group_id", .integer⟩, ⟨"fire_mode_ids", .array .integer⟩]
    ++ fieldsOf .integer
      ["chamber_duration_ms", "transition_duration_ms", "spool_up_time_ms", "spool_up_initial_refire_ms"]
    ++ [⟨"can_chamber_ironsights", .truth⟩]⟩

/-- The links from groups to fire modes. -/
def fireGroupToFireMode : Collection :=
  ⟨"fire_group_to_fire_mode", fieldsOf .integer ["fire_group_id", "fire_mode_id", "fire_mode_index"]⟩

/-- The fire modes. -/
def fireMode : Collection :=
  ⟨"fire_mode", fieldsOf .integer ["fire_mode_id", "fire_mode_type_id"] ++ [⟨"description", .object⟩]
    ++ fieldsOf .integer ["ability_id", "ammo_item_id", "ammo_slot"] ++ fieldsOf .truth ["automatic", "iron_sights"]
    ++ [⟨"cof_recoil", .float⟩]
    ++ fieldsOf .integer ["fire_refire_ms", "max_damage", "max_damage_range", "min_damage", "min_damage_range"]
    ++ [⟨"move_modifier", .float⟩, ⟨"reload_time_ms", .integer⟩]⟩

/-- The sets of images. -/
def imageSet : Collection :=
  ⟨"image_set", fieldsOf .integer ["image_set_id", "image_id"] ++ [⟨"image_type", .string⟩]⟩

/-- The worlds. -/
def world : Collection :=
  ⟨"world", [⟨"world_id", .integer⟩, ⟨"name", .object⟩]
    ++ fieldsOf .truth ["is_locked", "is_unprivileged_access_allowed"]⟩

/-- Every collection that is built from sheets or served from a store. -/
def builtin : Catalog :=
  [currency, experience, faction, fireGroup, fireGroupToFireMode, fireMode, imageSet, world]

end Catalog

end SheetQuery.Query
