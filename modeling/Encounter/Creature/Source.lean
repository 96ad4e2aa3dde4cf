import Encounter.Creature.Target
import Encounter.Log.Event

namespace Encounter

/-- What dealing damage gave: hit points left if they are tracked, the source after it, and what
was reported. -/
structure Dealt (σ : Type) where
  result : Result (Option Int)
  source : σ
  events : List Log.Event := []

structure ActorSource (σ : Type) where
  actor : String → σ → Result (Option Actor)
  target : String → σ → Result (Option Target)
  damage : String → Int → σ → Dealt σ

abbrev Roster := List (String × Actor)

namespace Roster

def add (r : Roster) (a : Actor) : Roster := Entries.put r a.id a

def ofActors (actors : List Actor) : Roster := actors.foldl add []

def find? (r : Roster) (id : String) : Option Actor := Entries.get? r id

def target? (r : Roster) (id : String) : Option Target := (r.find? id).map Target.ofActor

def unknownActor (id : Value) : Failure :=
  .fault (.make .actorNotFound ("Cannot damage unknown actor " ++ id.shown) [("actor_id", id)])

def damageEvent (a : Actor) (amount hitPoints : Int) : Log.Event :=
  ⟨.info, "Damage applied",
    [("actor", .text a.name), ("amount", .int amount), ("hit_points", .int hitPoints)]⟩

/-- Take hit points from an actor. Nothing happens to one whose hit points are not tracked. -/
def damage (id : String) (amount : Int) (r : Roster) : Dealt Roster :=
  match r.find? id with
  | none => ⟨.error (unknownActor (.text id)), r, []⟩
  | some a =>
    let hurt := a.takeDamage amount
    match hurt.hitPoints with
    | none => ⟨.ok none, r, []⟩
    | some hp => ⟨.ok (some hp), Entries.put r id hurt, [damageEvent a amount hp]⟩

def damageGiven (id : String) (amount : Value) (r : Roster) : Result (Option Int) × Roster :=
  match r.find? id with
  | none => (.error (unknownActor (.text id)), r)
  | some a =>
    match a.takeGiven amount with
    | .ok hurt => (.ok hurt.hitPoints, Entries.put r id hurt)
    | .error e => (.error e, r)

def source : ActorSource Roster where
  actor id r := .ok (r.find? id)
  target id r := .ok (r.target? id)
  damage := damage

end Roster

def flaggedTarget (id : String) (error : Value) : Result Target :=
  (((Schema.nullable Schema.text error).under "error").map fun e =>
    ({ id, name := "Flagged", error := e } : Target)).result

def ActorSource.disturbed {σ : Type} (s : ActorSource σ) (failing : List (String × String))
    (flagged : Schema.Fields) : ActorSource σ :=
  { s with
    target := fun id r =>
      match Entries.get? failing id, Entries.get? flagged id with
      | some text, _ => .error (.host text)
      | none, some error => (flaggedTarget id error).map some
      | none, none => s.target id r }

end Encounter
