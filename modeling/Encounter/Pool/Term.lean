import Encounter.Pool.Element
import Encounter.Schema

namespace Encounter.Pool

structure Term where
  element : String
  kind : ElementKind
  damageType : String := ""
  name : String := "Unknown"
  feature : Option String := none
  deriving DecidableEq, Repr

namespace Term

def diceForm? (t : Term) : Option DiceForm :=
  match t.kind with
  | .dice => Pool.diceForm? t.element.toList
  | .number => none

def isSimpleDice (t : Term) : Bool := t.diceForm?.isSome

def quantity (t : Term) : Result Int := t.diceForm?.elim (.ok 0) DiceForm.quantity

def faces (t : Term) : Result Nat := t.diceForm?.elim (.ok 0) DiceForm.faces

def value (t : Term) : Result Int :=
  match t.kind with
  | .dice => .ok 0
  | .number => Result.ofNumeral (Numeral.read t.element)

def read : Reader Term := Schema.record fun fs =>
  (fun element kind damageType name feature _ => ⟨element, kind, damageType, name, feature⟩)
    <$> Schema.required fs "element" Schema.filledText
    <*> Schema.required fs "element_type" (Schema.choice .enum ElementKind.ofName?)
    <*> Schema.optional fs "modifier_type" "" Schema.text
    <*> Schema.optional fs "modifier_name" "Unknown" Schema.text
    <*> Schema.optional fs "feature_name" none (Schema.nullable Schema.text)
    <*> Schema.closed fs
      ["element", "element_type", "modifier_type", "modifier_name", "feature_name"]

def toValue (t : Term) : Value :=
  .object [("element", .text t.element), ("element_type", .text t.kind.name),
    ("modifier_type", .text t.damageType), ("modifier_name", .text t.name),
    ("feature_name", .ofOption .text t.feature)]

end Term
end Encounter.Pool
