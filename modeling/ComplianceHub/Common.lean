import ComplianceHub.Lib.IntOrder
import Mathlib.Data.Rat.Floor

/-!
# Values shared by every module

* instants are `Int`: a JavaScript time value, whole milliseconds since the epoch;
* calendar days in Asia/Manila (fixed UTC+8) are `Int`, counted from 1970-01-01. A number stands for the
  `YYYY-MM-DD` text the source formats, which names the same day;
* `HttpException` : the exceptions the services raise, with their texts;
* `jsRound`, `trim` : `Math.round` and `String.prototype.trim`;
* `check` : a guard of a computation;
* `map_eq_ok`, `bind_eq_ok`, `orElse_eq_some` : computations that raised nothing, and a first choice with a second.
-/

namespace ComplianceHub

inductive HttpException where
  | badRequest (message : String)
  | unauthorized (message : String)
  | forbidden (message : String)
  | notFound (message : String)
  | conflict (message : String)
  | serviceUnavailable (message : String)
  | internalServerError (message : String)
deriving DecidableEq, Repr

/-- `Math.round`: the nearest integer, halves upwards. -/
def jsRound (x : Rat) : Int := ⌊x + 1 / 2⌋

@[simp] theorem jsRound_intCast (n : Int) : jsRound n = n := by
  rw [jsRound, Int.floor_eq_iff]
  constructor <;> norm_num

@[simp] theorem jsRound_natCast (n : Nat) : jsRound n = n := jsRound_intCast n

/-- White space and line terminators of the language. -/
def isSpace (c : Char) : Bool :=
  let n := c.toNat
  n = 0x20 || (0x9 ≤ n && n ≤ 0xd) || n = 0xa0 || n = 0x1680 || (0x2000 ≤ n && n ≤ 0x200a) || n = 0x2028 || n = 0x2029 ||
    n = 0x202f || n = 0x205f || n = 0x3000 || n = 0xfeff

def trim (text : String) : String :=
  String.ofList ((text.toList.dropWhile isSpace).reverse.dropWhile isSpace).reverse

/-- A check that raises the exception unless the condition holds. -/
def check {ε : Type} (c : Prop) [Decidable c] (e : ε) : Except ε Unit := if c then .ok () else .error e

theorem check_eq_ok {ε : Type} {c : Prop} [Decidable c] {e : ε} {u : Unit} : check c e = .ok u ↔ c := by
  unfold check
  split_ifs with h <;> simp [h]

theorem map_eq_ok {ε α β : Type} {f : α → β} {x : Except ε α} {b : β} :
    x.map f = .ok b ↔ ∃ a, x = .ok a ∧ f a = b := by
  cases x <;> simp [Except.map]

theorem bind_eq_ok {ε α β : Type} {f : α → Except ε β} {x : Except ε α} {b : β} :
    (x >>= f) = .ok b ↔ ∃ a, x = .ok a ∧ f a = .ok b := by
  cases x <;> simp [bind, Except.bind]

theorem orElse_eq_some {α : Type} {x y : Option α} {a : α} :
    (x <|> y) = some a ↔ x = some a ∨ x = none ∧ y = some a := by
  cases x <;> simp

end ComplianceHub
