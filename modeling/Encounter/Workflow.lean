import Encounter.Failure

namespace Encounter

structure Workflow where
  name : String
  steps : List String
  deriving DecidableEq, Repr

namespace Workflow

def shipped : List Workflow := [
  ⟨"attack", ["start", "attack", "complete"]⟩,
  ⟨"damage", ["start", "damage", "complete"]⟩,
  ⟨"save", ["start", "save", "complete"]⟩,
  ⟨"check", ["start", "check", "complete"]⟩,
  ⟨"attack-damage", ["start", "attack", "damage", "complete"]⟩,
  ⟨"attack-save", ["start", "attack", "save", "complete"]⟩,
  ⟨"damage-save-applyDamage", ["start", "damage", "save", "applyDamage", "complete"]⟩,
  ⟨"attack-damage-save-applyDamage",
    ["start", "attack", "damage", "save", "applyDamage", "complete"]⟩]

def names (table : List Workflow) : List String := table.map (·.name)

def unknown (table : List Workflow) (name : Value) : Failure :=
  .fault (.make .workflowConfiguration ("Invalid workflow: " ++ name.shown) [("workflow", name)]
    [("available", .texts (names table))])

/-- The first workflow of a name. -/
def find (table : List Workflow) (name : String) : Result Workflow :=
  match table.find? fun w => w.name == name with
  | some w => .ok w
  | none => .error (unknown table (.text name))

/-- Only a text is the name of a workflow. -/
def named (table : List Workflow) : Value → Result Workflow
  | .text name => find table name
  | other => .error (unknown table other)

end Workflow
end Encounter
