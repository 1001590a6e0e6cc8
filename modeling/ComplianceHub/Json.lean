import ComplianceHub.Common
import Mathlib.Algebra.Order.Field.Rat

/-!
# JSON values

The values of a request body that no class validates.

* `Json.truthy` : the coercion to a boolean; `Json.same` : equality, decided;
* `toNumber` : the function `Number`, where its value is finite;
* `integers` : `values.map(Number).filter(Number.isInteger)`, each once;
* `numberText` : the digits of a number.
-/

namespace ComplianceHub

inductive Json where
  | null
  | bool (value : Bool)
  | number (value : Rat)
  | string (text : String)
  | array (items : List Json)
  | object (fields : List (String × Json))

namespace Json

def truthy : Json → Bool
  | null => false
  | bool value => value
  | number value => value ≠ 0
  | string text => text ≠ ""
  | array _ | object _ => true

/-- `value === text` -/
def isText (text : String) : Json → Bool
  | string value => value = text
  | _ => false

theorem eq_of_isText {text : String} {value : Json} (h : value.isText text = true) : value = string text := by
  cases value with
  | string value =>
    rw [isText, decide_eq_true_eq] at h
    rw [h]
  | _ => cases h

end Json

/-! ## Equality -/

mutual

def Json.same : Json → Json → Bool
  | .null, .null => true
  | .bool a, .bool b => a == b
  | .number a, .number b => a == b
  | .string a, .string b => a == b
  | .array as, .array bs => sameItems as bs
  | .object as, .object bs => sameFields as bs
  | _, _ => false

def sameItems : List Json → List Json → Bool
  | [], [] => true
  | a :: as, b :: bs => a.same b && sameItems as bs
  | _, _ => false

def sameFields : List (String × Json) → List (String × Json) → Bool
  | [], [] => true
  | (key, a) :: as, (key', b) :: bs => key == key' && a.same b && sameFields as bs
  | _, _ => false

end

mutual

theorem Json.same_iff : ∀ a b : Json, a.same b = true ↔ a = b
  | .null, b => by cases b <;> simp [Json.same]
  | .bool _, b => by cases b <;> simp [Json.same]
  | .number _, b => by cases b <;> simp [Json.same]
  | .string _, b => by cases b <;> simp [Json.same]
  | .array as, b => by cases b <;> simp [Json.same, sameItems_iff as]
  | .object as, b => by cases b <;> simp [Json.same, sameFields_iff as]

theorem sameItems_iff : ∀ as bs : List Json, sameItems as bs = true ↔ as = bs
  | [], bs => by cases bs <;> simp [sameItems]
  | a :: as, bs => by cases bs <;> simp [sameItems, Json.same_iff a, sameItems_iff as]

theorem sameFields_iff : ∀ as bs : List (String × Json), sameFields as bs = true ↔ as = bs
  | [], bs => by cases bs <;> simp [sameFields]
  | (key, a) :: as, bs => by
    cases bs with
    | nil => simp [sameFields]
    | cons b bs => simp [sameFields, Json.same_iff a, sameFields_iff as, Prod.ext_iff, and_assoc]

end

instance : DecidableEq Json := fun a b => decidable_of_iff _ (Json.same_iff a b)

/-! ## Numbers -/

/-- The value of a letter or figure. -/
def digitValue (c : Char) : Nat :=
  let n := c.toNat
  if '0'.toNat ≤ n ∧ n ≤ '9'.toNat then n - '0'.toNat
  else if 'a'.toNat ≤ n ∧ n ≤ 'z'.toNat then n - 'a'.toNat + 10
  else if 'A'.toNat ≤ n ∧ n ≤ 'Z'.toNat then n - 'A'.toNat + 10
  else 36

/-- One digit or more. -/
def numeral (base : Nat) (digits : List Char) : Option Nat :=
  if digits ≠ [] ∧ digits.all (fun c => decide (digitValue c < base)) = true then
    some (digits.foldl (fun n c => n * base + digitValue c) 0)
  else none

def exponent : List Char → Option Int
  | [] => some 0
  | _ :: '+' :: digits => (numeral 10 digits).map Int.ofNat
  | _ :: '-' :: digits => (numeral 10 digits).map fun n => -Int.ofNat n
  | _ :: digits => (numeral 10 digits).map Int.ofNat

def decimal (text : List Char) : Option Rat := do
  let (mantissa, rest) := text.span fun c => c ≠ 'e' && c ≠ 'E'
  let (whole, fraction) := mantissa.span fun c => c ≠ '.'
  let digits ← numeral 10 (whole ++ fraction.drop 1)
  let e ← exponent rest
  pure (digits * (10 : Rat) ^ (e - (fraction.drop 1).length))

/-- `Number` of a text, if it is finite. -/
def textNumber (text : String) : Option Rat :=
  match (trim text).toList with
  | [] => some 0
  | '0' :: 'x' :: digits | '0' :: 'X' :: digits => (numeral 16 digits).map Nat.cast
  | '0' :: 'o' :: digits | '0' :: 'O' :: digits => (numeral 8 digits).map Nat.cast
  | '0' :: 'b' :: digits | '0' :: 'B' :: digits => (numeral 2 digits).map Nat.cast
  | '+' :: digits => decimal digits
  | '-' :: digits => (decimal digits).map Neg.neg
  | digits => decimal digits

/-- `Number` of the text of an array with one item. -/
def itemNumber : Json → Option Rat
  | .null | .array [] => some 0
  | .number value => some value
  | .string text => textNumber text
  | .array [item] => itemNumber item
  | .bool _ | .array (_ :: _ :: _) | .object _ => none

/-- `Number` of a value, if it is finite. -/
def toNumber : Json → Option Rat
  | .null => some 0
  | .bool value => some (if value then 1 else 0)
  | .number value => some value
  | .string text => textNumber text
  | items@(.array _) => itemNumber items
  | .object _ => none

/-- `[...new Set(items.map(Number).filter(Number.isInteger))]` -/
def integers (items : List Json) : List Int :=
  ((items.filterMap toNumber).filter fun value => value.den = 1).map Rat.num |>.dedup

def fractionDigits : Nat → Rat → List Char
  | 0, _ => []
  | fuel + 1, r =>
    if r = 0 then [] else Nat.digitChar (r * 10).floor.toNat :: fractionDigits fuel (r * 10 - (r * 10).floor)

/-- The digits of a number. -/
def numberText (value : Rat) : String :=
  let size := |value|
  let fraction := fractionDigits 20 (size - size.floor)
  (if value < 0 then "-" else "") ++ toString size.floor ++
    (if fraction = [] then "" else "." ++ String.ofList fraction)

example : integers [.string " 0x10 ", .number 2, .string "2e0", .array [.string "7"], .bool true, .object []] =
    [16, 2, 7, 1] := by
  decide +kernel

end ComplianceHub
