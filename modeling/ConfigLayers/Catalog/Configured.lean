import ConfigLayers.Catalog.Basic
import ConfigLayers.Store.Typed

/-! Catalogs that a store describes: item by item, or by the amounts that a node has. -/
namespace ConfigLayers
namespace Catalog

def itemsName : String := "resource-types"

/-- The item of a name as a store describes it. -/
def describedItem (s : Store) (c : Context) (name : String) : Outcome Item := do
  let start := itemsName ++ "." ++ name
  let units ← s.getTrimmed c (start ++ ".units") (some "")
  let kindText ← s.getTrimmed c (start ++ ".type") (some ItemKind.countable.text)
  match ItemKind.ofText? (kindText.getD "") with
  | none => throw (.invalidValue (some (start ++ ".type")) (kindText.getD "") "resource type")
  | some kind =>
    let minimum ← s.getLong c (start ++ ".minimum-allocation") (some 0)
    let maximum ← s.getLong c (start ++ ".maximum-allocation") (some Integer.maxLong)
    return ⟨name, units.getD "", kind, minimum.getD 0, maximum.getD Integer.maxLong, 0⟩

/-- Adds the items of some names; none may come twice. -/
def describedItems (s : Store) (c : Context) : Table Item → List String → Outcome (Table Item)
  | items, [] => return items
  | items, name :: names => do
    let item ← describedItem s c name
    if items.contains name then throw (.duplicateResourceType name)
    notifyAdded name item
    describedItems s c (items.insert name item) names

def ofStore (s : Store) (c : Context) (mandatory : Table Item) : Outcome Catalog := do
  let items ← describedItems s c ∅ (← s.getTrimmedItems c itemsName [])
  check items mandatory
  let items ← addMandatory items mandatory
  return ofItems items mandatory

def amountItem (mandatory : Table Item) (start name value : String) : Except Error Item := do
  let (amount, units) ← Item.amount value (some (start ++ name))
  let units := if units == "" then ((mandatory.get? name).map Item.units).getD "" else units
  return { Item.unbounded name units with value := amount }

def amountItems (mandatory : Table Item) (start : String) :
    Table Item → List (String × String) → Except Error (Table Item)
  | items, [] => return items
  | items, (name, value) :: rest => do
    amountItems mandatory start (items.insert name (← amountItem mandatory start name value)) rest

def byName (a b : String × String) : Bool :=
  a.1 < b.1 || a.1 == b.1

/-- The catalog of the amounts under names that start alike, in the order of the names. -/
def ofAmounts (s : Store) (c : Context) (start : String) (mandatory : Table Item) : Outcome Catalog := do
  let amounts ← s.withStart c start
  let items ← Traced.ofExcept (amountItems mandatory start ∅ (amounts.mergeSort byName))
  let items ← addMandatory items mandatory
  check items mandatory
  return ofItems items mandatory

end Catalog
end ConfigLayers
