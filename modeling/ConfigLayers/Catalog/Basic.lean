import ConfigLayers.Notice
import ConfigLayers.Table
import ConfigLayers.Value

/-! Catalogs of what a node can hand out: items with units and bounds, the mandatory ones first. -/
namespace ConfigLayers

/-- How amounts of an item are measured. -/
inductive ItemKind where
  | countable
  deriving DecidableEq, Repr

namespace ItemKind

def text : ItemKind → String
  | countable => "COUNTABLE"

def ofText? (s : String) : Option ItemKind :=
  if s == countable.text then some countable else none

end ItemKind

structure Item where
  name : String
  units : String
  kind : ItemKind
  minimum : Int
  maximum : Int
  value : Int
  deriving DecidableEq, Repr

namespace Item

/-- An item of which any amount may be had. -/
def unbounded (name units : String) : Item :=
  ⟨name, units, .countable, 0, Integer.maxLong, 0⟩

/-- The items that every node has. -/
def standard : Table Item :=
  Table.ofList [("memory-mb", unbounded "memory-mb" "Mi"), ("vcores", unbounded "vcores" "")]

def reserved : String := "memory"

/-- An amount, and its units after at most one space. -/
def amount (s : String) (key : Option String) : Except Error (Int × String) :=
  let cs := Text.trimChars s.toList
  let digits := cs.takeWhile Text.isAsciiDigit
  let units := match cs.dropWhile Text.isAsciiDigit with
    | ' ' :: rest => rest
    | rest => rest
  if digits.isEmpty || !units.all Char.isAlpha then .error (.invalidValue key s "resource value")
  else do return (← Value.long (String.ofList digits) key, String.ofList units)

end Item

structure Catalog where
  items : Table Item
  deriving DecidableEq

namespace Catalog

def ofItems (items mandatory : Table Item) : Catalog :=
  let first := mandatory.keys.filterMap fun name => (items.get? name).map fun item => (name, item)
  ⟨items.entries.foldl (fun t (name, item) => t.insertIfNew name item) (Table.ofList first)⟩

def names (c : Catalog) : List String :=
  c.items.keys

def get? (c : Catalog) (name : String) : Option Item :=
  c.items.get? name

def get (c : Catalog) (name : String) : Except Error Item :=
  match c.get? name with
  | some item => .ok item
  | none => .error .unknownName

def index (c : Catalog) (name : String) : Except Error Nat :=
  match c.names.findIdx? (· == name) with
  | some i => .ok i
  | none => .error .unknownName

def unitsOf (c : Catalog) (name : String) : String :=
  ((c.get? name).map Item.units).getD ""

def contains (c : Catalog) (name : String) : Bool :=
  c.items.contains name

def shown (c : Catalog) : String :=
  "ResourceTypeCatalog(" ++ Text.quotedList c.names ++ ")"

/-- The first mandatory item that is there with other units or of another kind. -/
def conflict? (items : Table Item) (name : String) (expected : Item) : Option Error :=
  match items.get? name with
  | none => none
  | some actual =>
    if actual.units != expected.units || actual.kind != expected.kind then
      some (.mandatoryConflict name expected.kind.text expected.units actual.kind.text actual.units)
    else none

/-- Refuses the reserved name, and mandatory items that are not as expected. -/
def check (items mandatory : Table Item) : Outcome Unit := do
  if items.contains Item.reserved then
    Outcome.notify .warning .resourceTypes
      ("Attempt to define resource '" ++ Item.reserved ++ "', but it is not allowed.")
    throw (.reservedResourceType Item.reserved)
  match mandatory.entries.findSome? fun (name, expected) => conflict? items name expected with
  | some e => throw e
  | none => return ()

def notifyAdded (name : String) (item : Item) : Outcome Unit :=
  Outcome.notify .info .resourceTypes
    ("Adding resource type - name = " ++ name ++ ", units = " ++ item.units ++ ", type = " ++ item.kind.text)

/-- Adds the mandatory items that are not there. -/
def addMandatory (items mandatory : Table Item) : Outcome (Table Item) :=
  mandatory.entries.foldlM (fun items (name, item) =>
    if items.contains name then return items
    else do
      notifyAdded name item
      return items.insert name item) items

end Catalog
end ConfigLayers
