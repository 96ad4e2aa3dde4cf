import Encounter.Schema

namespace Encounter.Pool

structure Modifier where
  name : String := "Unknown"
  fragment : String := ""
  damageType : String := ""
  isEnabled : Bool := true
  isDice : Bool := false
  feature : Option String := none
  deriving DecidableEq, Repr

namespace Modifier

def fragmentText (v : Value) : String := if v.isNull then "" else v.shown

def read : Reader Modifier := Schema.record fun fs =>
  Modifier.mk
    <$> Schema.optional fs "modifier_name" "Unknown" Schema.text
    <*> Schema.optional fs "modifier" "" (fun v => .accepted (fragmentText v))
    <*> Schema.optional fs "modifier_type" "" Schema.text
    <*> Schema.optional fs "is_enabled" true Schema.flag
    <*> Schema.optional fs "is_dice" false Schema.flag
    <*> Schema.optional fs "feature_name" none (Schema.nullable Schema.text)

def toValue (m : Modifier) : Value :=
  .object [("modifier_name", .text m.name), ("modifier", .text m.fragment),
    ("modifier_type", .text m.damageType), ("is_enabled", .bool m.isEnabled),
    ("is_dice", .bool m.isDice), ("feature_name", .ofOption .text m.feature)]

end Modifier
end Encounter.Pool
