import Encounter.Schema

namespace Encounter

structure Item where
  name : String
  itemType : String := "equipment"
  equipped : Bool := true
  properties : List (String × Value) := []

namespace Item

def read : Reader Item := Schema.record fun fs =>
  Item.mk
    <$> Schema.required fs "name" Schema.filledText
    <*> Schema.optional fs "item_type" "equipment" Schema.text
    <*> Schema.optional fs "equipped" true Schema.flag
    <*> Schema.optional fs "properties" [] (Schema.dictionary Schema.anything)

def toValue (i : Item) : Value :=
  .object [("name", .text i.name), ("item_type", .text i.itemType),
    ("equipped", .bool i.equipped), ("properties", .object i.properties)]

def readField (i : Item) (v : Value) : String → Verdict Item
  | "name" => (Schema.filledText v).map fun x => { i with name := x }
  | "item_type" => (Schema.text v).map fun x => { i with itemType := x }
  | "equipped" => (Schema.flag v).map fun x => { i with equipped := x }
  | "properties" =>
    (Schema.dictionary Schema.anything v).map fun x => { i with properties := x }
  | _ => .problem .noSuchAttribute

def assign (i : Item) (field : String) (v : Value) : Result Item :=
  Schema.assign i [] field (i.readField v field)

/-- An equipped item grants the features that its properties name with a value that counts. -/
def grants (i : Item) (feature : String) : Bool :=
  i.equipped && ((Entries.get? i.properties feature).map Value.isTruthy).getD false

end Item
end Encounter
