import Encounter.Feature.Pack
import Encounter.Log.Journal
import Encounter.Proofs.Check.EffectiveRange
import Encounter.Proofs.Dice.Choice
import Encounter.Proofs.Dice.Selectors
import Encounter.Proofs.Pool.Combined
import Encounter.Proofs.Pool.DamageTypes
import Encounter.Proofs.Pool.Doubled
import Encounter.Proofs.Pool.Fragments
import Encounter.Proofs.Pool.Idle
import Encounter.Proofs.Pool.NaturalDie
import Encounter.Proofs.Pool.SumModifiers
import Encounter.Proofs.Run.Contract
import Encounter.Proofs.Run.Ledger
import Encounter.Proofs.Run.Operations
import Encounter.Proofs.Run.Refusals
import Encounter.Proofs.Run.Resume
import Encounter.Proofs.Run.Rolls
import Encounter.Proofs.Run.SharedRoll
import Encounter.Proofs.Run.Unharmed
import Encounter.Run.Execute
import Encounter.Proofs.Check.Classification
import Encounter.Proofs.Check.Ranking
import Encounter.Proofs.Creature.Placeholders
import Encounter.Proofs.Pool.Range
import Encounter.Proofs.Run.Defences
import Encounter.Proofs.Creature.Wounds
import Encounter.Proofs.Dice.Walk
import Encounter.Proofs.Run.Asked
