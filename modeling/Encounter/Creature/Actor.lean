import Encounter.Arithmetic
import Encounter.Creature.Item
import Encounter.Text.Case

namespace Encounter

structure Actor where
  id : String
  name : String := "Unknown Actor"
  feats : List String := []
  items : List Item := []
  resources : List (String × Int) := []
  classLevels : List (String × Int) := []
  armorClass : Int := 10
  hitPoints : Option Int := none
  saves : List (String × Int) := []
  resistances : List String := []
  immunities : List String := []
  vulnerabilities : List String := []
  featureData : List (String × Schema.Fields) := []

/-- Names are compared without blanks around them and in lower case. -/
def normalName (s : String) : String := Text.lower (Text.trim s)

def normalNames (xs : List String) : List String :=
  (xs.filter fun s => !(Text.trim s).isEmpty).map normalName

/-- Of two keys with the same normal name the later one counts. -/
def normalKeys (xs : List (String × Int)) : List (String × Int) :=
  Entries.ofList (xs.map fun e => (normalName e.1, e.2))

def saveBonus (saves : List (String × Int)) (ability : String) : Int :=
  (Entries.get? saves (normalName ability)).getD 0

namespace Actor

def readNames : Reader (List String) := fun v => (Schema.list Schema.text v).map normalNames

def readSaves : Reader (List (String × Int)) := fun v =>
  (Schema.dictionary Schema.integer v).map normalKeys

def readFeatureData : Reader (List (String × Schema.Fields)) :=
  Schema.dictionary (Schema.dictionary Schema.anything)

def read : Reader Actor := Schema.record fun fs =>
  Actor.mk
    <$> Schema.required fs "id" Schema.filledText
    <*> Schema.optional fs "name" "Unknown Actor" Schema.text
    <*> Schema.optional fs "feats" [] (Schema.list Schema.text)
    <*> Schema.optional fs "items" [] (Schema.list Item.read)
    <*> Schema.optional fs "resources" [] (Schema.dictionary Schema.integer)
    <*> Schema.optional fs "class_levels" [] (Schema.dictionary Schema.integer)
    <*> Schema.optional fs "armor_class" 10 (Schema.integerFrom 0)
    <*> Schema.optional fs "hit_points" none (Schema.nullable Schema.integer)
    <*> Schema.optional fs "saves" [] readSaves
    <*> Schema.optional fs "resistances" [] readNames
    <*> Schema.optional fs "immunities" [] readNames
    <*> Schema.optional fs "vulnerabilities" [] readNames
    <*> Schema.optional fs "feature_data" [] readFeatureData

def level (a : Actor) : Int := Entries.total a.classLevels

def fields (a : Actor) : Schema.Fields :=
  [("id", .text a.id), ("name", .text a.name), ("feats", .texts a.feats),
    ("items", .list (a.items.map Item.toValue)), ("resources", .ints a.resources),
    ("class_levels", .ints a.classLevels), ("armor_class", .int a.armorClass),
    ("hit_points", .ofOption .int a.hitPoints), ("saves", .ints a.saves),
    ("resistances", .texts a.resistances), ("immunities", .texts a.immunities),
    ("vulnerabilities", .texts a.vulnerabilities),
    ("feature_data", .object (Entries.mapValues .object a.featureData)),
    ("total_level", .int a.level)]

def toValue (a : Actor) : Value := .object a.fields

def readField (a : Actor) (v : Value) : String → Verdict Actor
  | "id" => (Schema.filledText v).map fun x => { a with id := x }
  | "name" => (Schema.text v).map fun x => { a with name := x }
  | "feats" => (Schema.list Schema.text v).map fun x => { a with feats := x }
  | "items" => (Schema.list Item.read v).map fun x => { a with items := x }
  | "resources" => (Schema.dictionary Schema.integer v).map fun x => { a with resources := x }
  | "class_levels" => (Schema.dictionary Schema.integer v).map fun x => { a with classLevels := x }
  | "armor_class" => (Schema.integerFrom 0 v).map fun x => { a with armorClass := x }
  | "hit_points" => (Schema.nullable Schema.integer v).map fun x => { a with hitPoints := x }
  | "saves" => (readSaves v).map fun x => { a with saves := x }
  | "resistances" => (readNames v).map fun x => { a with resistances := x }
  | "immunities" => (readNames v).map fun x => { a with immunities := x }
  | "vulnerabilities" => (readNames v).map fun x => { a with vulnerabilities := x }
  | "feature_data" => (readFeatureData v).map fun x => { a with featureData := x }
  | _ => .problem .noSuchAttribute

def computed : List String := ["total_level", "equipped_items"]

def assign (a : Actor) (field : String) (v : Value) : Result Actor :=
  Schema.assign a computed field (a.readField v field)

def hasFeat (a : Actor) (name : String) : Bool := a.feats.contains name

def resource (a : Actor) (name : String) : Int := (Entries.get? a.resources name).getD 0

def equippedItems (a : Actor) : List Item := a.items.filter (·.equipped)

def itemPlace? (a : Actor) (i : Int) : Option Nat :=
  let place := if i < 0 then i + a.items.length else i
  if 0 ≤ place && place < a.items.length then some place.toNat else none

def assignItem (a : Actor) (i : Int) (field : String) (v : Value) : Result (Item × Actor) :=
  match a.itemPlace? i with
  | none => .error .pastEnd
  | some place =>
    match a.items[place]? with
    | none => .error .pastEnd
    | some item =>
      (item.assign field v).map fun item =>
        (item, { a with items := a.items.set place item })

/-- Damage takes hit points away, down to zero at most. Untracked hit points stay so. -/
def takeDamage (a : Actor) (amount : Int) : Actor :=
  { a with hitPoints := a.hitPoints.map fun hp => max 0 (hp - amount) }

def hitPointsAfter (hp : Int) (amount : Value) : Result Int := do
  let left ← (Value.int hp).minus amount
  if (Value.int 0).less? left == some true then
    ((Schema.integer left).under "hit_points").result
  else return 0

def takeGiven (a : Actor) (amount : Value) : Result Actor :=
  match a.hitPoints with
  | none => .ok a
  | some hp => (hitPointsAfter hp amount).map fun left => { a with hitPoints := some left }

end Actor
end Encounter
