import Encounter.Dice.Expr
import Encounter.Text.Word

namespace Encounter.Dice.Selector

/-- Turn the selectors of a text into groups. Given are whether the character before it is part of
a word, and the open parentheses, innermost first, each with the keep of its selector if it is
one. -/
def regroup : Bool → List (Option Keep) → List Char → Option (List Char)
  | _, stack, [] => if stack.any Option.isSome then none else some []
  | false, stack, 'm' :: 'a' :: 'x' :: '(' :: rest =>
    (regroup false (some .highest :: stack) rest).map ('(' :: ·)
  | false, stack, 'm' :: 'i' :: 'n' :: '(' :: rest =>
    (regroup false (some .lowest :: stack) rest).map ('(' :: ·)
  | _, stack, '(' :: rest => (regroup false (none :: stack) rest).map ('(' :: ·)
  | _, some k :: stack, ')' :: rest => (regroup false stack rest).map ((')' :: k.text) ++ ·)
  | _, stack, c :: rest =>
    let stack := if c == ')' then stack.tail else stack
    (regroup (Text.isWordChar c) stack rest).map (c :: ·)

end Encounter.Dice.Selector
