import Encounter.Pool.Combined
import Encounter.Proofs.Dice.Lot
import Encounter.Proofs.Dice.Read

namespace Encounter.Pool

open Dice (Sign Expr Lot IsItem IsSum Rolls Bare)

/-- A number, or a count of dice of some size. -/
structure Part where
  net : Int
  size : Option Nat := none
  deriving DecidableEq, Repr

namespace Part

def element (p : Part) : Element :=
  match p.size with
  | none => .constant p.net
  | some size => .dice p.net size

def sizeChars (p : Part) : List Char :=
  match p.size with
  | none => []
  | some size => 'd' :: Numeral.natChars size

def chars (p : Part) : List Char := Numeral.intChars p.net ++ p.sizeChars

def text (p : Part) : String := String.ofList p.chars

/-- A part that says something, with numerals within the limit. -/
structure Canonical (p : Part) : Prop where
  ne_zero : p.net ≠ 0
  fits : Numeral.Fits p.net.natAbs
  size_pos : ∀ size ∈ p.size, 0 < size
  size_fits : ∀ size ∈ p.size, Numeral.Fits size

variable {p : Part}

theorem text_number (n : Int) : text ⟨n, none⟩ = Numeral.text n := by
  rw [text, chars, sizeChars, List.append_nil]
  rfl

theorem isDigit_of_mem_natChars {n : Nat} {c : Char} (h : c ∈ Numeral.natChars n) :
    Text.isDigit c = true := Text.isDigit_of_ascii (Numeral.isDigit_of_mem_natChars h)

theorem isRun_natChars (n : Nat) : isRun (Numeral.natChars n) = true := by
  rw [isRun, Bool.and_eq_true]
  refine ⟨by simpa using Numeral.natChars_ne_nil n, ?_⟩
  exact List.all_eq_true.mpr fun c hc => isDigit_of_mem_natChars hc

theorem mem_chars {c : Char} (h : c ∈ p.chars) : c.isDigit = true ∨ c = '-' ∨ c = 'd' := by
  obtain h | h := List.mem_append.mp h
  · obtain h | h := Numeral.mem_intChars h
    · exact .inl h
    · exact .inr (.inl h)
  · unfold sizeChars at h
    split at h
    · cases h
    · obtain rfl | h := List.mem_cons.mp h
      · exact .inr (.inr rfl)
      · exact .inl (Numeral.isDigit_of_mem_natChars h)

theorem withoutBreak_chars (p : Part) : withoutBreak p.chars = p.chars := by
  refine if_neg fun hlast => ?_
  have hbreak : '\n' ∈ p.chars := List.mem_of_getLast? (by simpa using hlast)
  obtain h | h | h := mem_chars hbreak
  · exact absurd h (by decide)
  · exact absurd h (by decide)
  · exact absurd h (by decide)

theorem readInteger_natChars {n : Int} (h : Numeral.Fits n.natAbs) :
    readInteger (decide (n < 0)) (Numeral.natChars n.natAbs) = .ok n := by
  rw [readInteger, Numeral.readDigits_natChars h]
  exact congrArg Except.ok (Numeral.signed_natAbs n)

theorem numberForm?_chars {n : Int} :
    numberForm? (chars ⟨n, none⟩) = some (decide (n < 0), Numeral.natChars n.natAbs) := by
  have hsplit := Numeral.splitSign_intChars n []
  rw [List.append_nil, List.append_nil] at hsplit
  rw [numberForm?, withoutBreak_chars]
  simp only [chars, sizeChars, List.append_nil, hsplit, isRun_natChars, if_true]

theorem numberForm?_dice (q : Int) (size : Nat) : numberForm? (chars ⟨q, some size⟩) = none := by
  have hrun : isRun (Numeral.natChars q.natAbs ++ 'd' :: Numeral.natChars size) = false := by
    rw [isRun, Bool.and_eq_false_iff]
    exact .inr (List.all_eq_false.mpr ⟨'d', by simp, by decide⟩)
  rw [numberForm?, withoutBreak_chars]
  simp only [chars, sizeChars, Numeral.splitSign_intChars, hrun]
  rfl

theorem diceForm?_chars (q : Int) (size : Nat) : diceForm? (chars ⟨q, some size⟩) =
    some ⟨decide (q < 0), Numeral.natChars q.natAbs, Numeral.natChars size⟩ := by
  have hcount : ∀ c ∈ Numeral.natChars q.natAbs, Text.isDigit c = true :=
    fun c hc => isDigit_of_mem_natChars hc
  have hd : Text.isDigit 'd' = false := by decide
  rw [diceForm?, withoutBreak_chars]
  simp only [chars, sizeChars, Numeral.splitSign_intChars, List.dropWhile_append_of_pos hcount,
    List.takeWhile_append_of_pos hcount, List.dropWhile_cons_of_neg (Bool.not_eq_true _ ▸ hd),
    List.takeWhile_cons_of_neg (Bool.not_eq_true _ ▸ hd), List.append_nil, isRun_natChars]
  rfl

theorem quantity_diceForm {q : Int} (hq : Numeral.Fits q.natAbs) (size : List Char) :
    DiceForm.quantity ⟨decide (q < 0), Numeral.natChars q.natAbs, size⟩ = .ok q := by
  have hne : (Numeral.natChars q.natAbs).isEmpty = false := by
    simpa using Numeral.natChars_ne_nil q.natAbs
  rw [DiceForm.quantity, hne, if_neg Bool.false_ne_true, readInteger_natChars hq]

theorem faces_diceForm {size : Nat} (hsize : Numeral.Fits size) (negative : Bool)
    (count : List Char) : DiceForm.faces ⟨negative, count, Numeral.natChars size⟩ = .ok size := by
  rw [DiceForm.faces, Numeral.readDigits_natChars hsize]
  rfl

theorem read_text (hp : p.Canonical) : Element.read p.text = .ok p.element := by
  obtain ⟨n, _ | size⟩ := p
  · rw [Element.read, text, String.toList_ofList, numberForm?_chars]
    simp only [readInteger_natChars hp.fits]
    rfl
  · rw [Element.read, text, String.toList_ofList, numberForm?_dice, diceForm?_chars]
    simp only [quantity_diceForm hp.fits, faces_diceForm (hp.size_fits size rfl)]
    rfl

def sign (p : Part) : Sign := if p.net < 0 then .minus else .plus

def item (p : Part) : Expr :=
  match p.size with
  | none => .number p.net.natAbs
  | some size => .dice p.net.natAbs size

def itemChars (p : Part) : List Char := Numeral.natChars p.net.natAbs ++ p.sizeChars

def first (p : Part) : Expr := if p.net < 0 then .unary .minus p.item else p.item

/-- The dice of a part, as dice of a damage type. -/
def lots (damageType : String) (p : Part) : List Lot :=
  match p.size with
  | none => []
  | some size => [⟨damageType, size, p.net⟩]

def constant (p : Part) : Int :=
  match p.size with
  | none => p.net
  | some _ => 0

theorem chars_of_neg (h : p.net < 0) : p.chars = '-' :: p.itemChars := by
  rw [chars, Numeral.intChars_of_neg h]
  rfl

theorem chars_of_nonneg (h : ¬ p.net < 0) : p.chars = p.itemChars := by
  rw [chars, Numeral.intChars_of_nonneg (by omega)]
  rfl

theorem isItem (hp : p.Canonical) : IsItem p.itemChars p.item := by
  obtain ⟨n, _ | size⟩ := p
  · rw [itemChars, sizeChars, List.append_nil]
    exact Dice.isItem_number hp.fits
  · exact Dice.isItem_dice hp.fits (hp.size_fits size rfl)

theorem isSum_first (hp : p.Canonical) : IsSum p.chars p.first := by
  unfold first
  split
  · rename_i h
    rw [chars_of_neg h]
    exact (isItem hp).signed .minus
  · rename_i h
    rw [chars_of_nonneg h]
    exact (isItem hp).isSum

theorem rolls_item (hp : p.Canonical) (damageType : String) :
    Rolls p.sign p.item (p.lots damageType) p.constant := by
  obtain ⟨n, _ | size⟩ := p
  · have hn : (sign ⟨n, none⟩).apply n.natAbs = n := by
      by_cases hneg : n < 0
      · rw [sign, if_pos hneg]
        change -(n.natAbs : Int) = n
        omega
      · rw [sign, if_neg hneg]
        change (n.natAbs : Int) = n
        omega
    have h := Rolls.number (sign ⟨n, none⟩) n.natAbs
    rwa [hn] at h
  · exact Rolls.dice ⟨damageType, size, n⟩ (hp.size_pos size rfl)

theorem rolls_first (hp : p.Canonical) (damageType : String) :
    Rolls .plus p.first (p.lots damageType) p.constant := by
  have h := rolls_item hp damageType
  unfold first
  split
  · rename_i hneg
    rw [sign, if_pos hneg] at h
    exact h.unary
  · rename_i hneg
    rwa [sign, if_neg hneg] at h

theorem bare_item (p : Part) : Bare p.item := by
  obtain ⟨n, _ | size⟩ := p
  · exact Bare.number _
  · exact Bare.dice _ _

theorem bare_first (p : Part) : Bare p.first := by
  unfold first
  split
  · exact (bare_item p).unary .minus
  · exact bare_item p

end Part
end Encounter.Pool
