import Encounter.Run.World

namespace Encounter.Run.ApplyDamage

variable {δ σ : Type}

def stepId : String := "applyDamage"

def afterDefences (target : Target) (damage : List (String × Int)) : Int :=
  damage.foldr (fun e acc => target.modifyDamage e.2 e.1 + acc) 0

def afterSave (effect : SaveEffect) (saved : Bool) (amount : Int) : Int :=
  if saved then
    match effect with
    | .half => amount / 2
    | .none => 0
  else amount

def amount (effect : SaveEffect) (target : Target) (o : TargetOutcome) : Int :=
  afterSave effect (o.saved.getD false) (afterDefences target o.damageByType)

def hurt (t : Table δ σ) (id : String) (amount : Int) : RunM δ σ Unit := do
  let w ← get
  let dealt := t.source.damage id amount w.source
  set { w with source := dealt.source, events := w.events ++ dealt.events }
  let _ ← dealt.result
  return ()

def apply (t : Table δ σ) (d : Dialog) (target : Target) : RunM δ σ Unit := do
  match (← readState).outcome? target.id with
  | none => return ()
  | some o =>
    if o.damageByType.isEmpty then return ()
    let n := amount d.saveEffect target o
    record target fun o => { o with damageApplied := some n }
    if 0 < n then hurt t target.id n
    info "Damage applied to target" [("target", .text target.name), ("amount", .int n),
      ("saved", .ofOption .bool o.saved)]

def run (t : Table δ σ) : RunM δ σ Unit := do
  let s ← readState
  s.liveTargets.forM (apply t s.dialog)

end Encounter.Run.ApplyDamage
