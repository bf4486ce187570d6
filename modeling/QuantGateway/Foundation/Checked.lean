import QuantGateway.Foundation.CharConv

/-!
Owns the operations of C++ that a caller has to keep within their domain, each
computing its value there and naming the fault otherwise: positions of a
`std::string_view`, indices of a `std::vector`, differences of sizes, the ranges of
`int`, of the date types of `std::chrono` and of 64-bit durations.
-/

namespace QuantGateway.Foundation

/-- What goes wrong outside the domain of an operation. -/
inductive Fault where
  | position (place size : Nat)
  | index (place size : Nat)
  | belowZero (more less : Nat)
  | int (value : Nat)
  | year (value : Int)
  | month (value : Nat)
  | day (value : Nat)
  | duration (value : Int)
  | unfinished
deriving DecidableEq, Repr

/-- A computation that may leave the domain of one of its operations. -/
abbrev Checked := Except Fault

theorem checked_ok_bind {A B : Type} (value : A) (next : A → Checked B) :
    ((Except.ok value : Checked A) >>= next) = next value := rfl

/-! ## Positions and indices -/

/-- `text.substr(place)`, which throws `std::out_of_range` past the end. -/
def substrFrom (text : Text) (place : Nat) : Checked Text :=
  if text.length < place then .error (.position place text.length)
  else .ok (text.drop place)

/-- `text.substr(place, count)`. -/
def substr (text : Text) (place count : Nat) : Checked Text :=
  (substrFrom text place).map (List.take count)

/-- `items[place]`, undefined past the end. -/
def element {A : Type} (items : List A) (place : Nat) : Checked A :=
  match items[place]? with
  | some item => .ok item
  | none => .error (.index place items.length)

/-- A difference of two `std::size_t`, which wraps below zero. -/
def sizeDifference (more less : Nat) : Checked Nat :=
  if more < less then .error (.belowZero more less) else .ok (more - less)

theorem substrFrom_of_le {text : Text} {place : Nat} (inside : place ≤ text.length) :
    substrFrom text place = .ok (text.drop place) := by
  unfold substrFrom
  rw [if_neg (by omega)]

theorem substr_of_le {text : Text} {place : Nat} (inside : place ≤ text.length) (count : Nat) :
    substr text place count = .ok ((text.drop place).take count) := by
  unfold substr
  rw [substrFrom_of_le inside]
  rfl

theorem sizeDifference_of_le {more less : Nat} (ordered : less ≤ more) :
    sizeDifference more less = .ok (more - less) := by
  unfold sizeDifference
  rw [if_neg (by omega)]

example : substr "ab".toList 3 1 = .error (.position 3 2) := by decide

/-! ## Integers, dates and durations -/

/-- A value the operation is defined for. -/
def within {A : Type} (Inside : A → Prop) [DecidablePred Inside] (fault : A → Fault) (value : A) :
    Checked A :=
  if Inside value then .ok value else .error (fault value)

/-- `static_cast<int>` of an `unsigned` value, for the values `int` has. -/
def toInt (value : Nat) : Checked Nat :=
  within (· < 2 ^ 31) .int value

/-- `std::chrono::year`, which is unspecified outside its range. -/
def chronoYear (value : Int) : Checked Int :=
  within (fun year => -32767 ≤ year ∧ year ≤ 32767) .year value

/-- `std::chrono::month`, which is unspecified above 255. -/
def chronoMonth (value : Nat) : Checked Nat :=
  within (· ≤ 255) .month value

/-- `std::chrono::day`, which is unspecified above 255. -/
def chronoDay (value : Nat) : Checked Nat :=
  within (· ≤ 255) .day value

/-- A count of a duration, which overflows outside `int64`. -/
def durationCount (value : Int) : Checked Int :=
  within (fun count => -2 ^ 63 ≤ count ∧ count < 2 ^ 63) .duration value

section Within

variable {A : Type} {Inside : A → Prop} [DecidablePred Inside] {fault : A → Fault} {value : A}

theorem within_of (inside : Inside value) : within Inside fault value = .ok value :=
  if_pos inside

end Within

theorem toInt_of_lt {value : Nat} (small : value < 2 ^ 31) : toInt value = .ok value :=
  within_of small

theorem chronoYear_of_le {value : Int} (low : -32767 ≤ value) (high : value ≤ 32767) :
    chronoYear value = .ok value :=
  within_of ⟨low, high⟩

theorem chronoMonth_of_le {value : Nat} (small : value ≤ 255) : chronoMonth value = .ok value :=
  within_of small

theorem chronoDay_of_le {value : Nat} (small : value ≤ 255) : chronoDay value = .ok value :=
  within_of small

theorem durationCount_of_fits {value : Int} (low : -2 ^ 63 ≤ value) (high : value < 2 ^ 63) :
    durationCount value = .ok value :=
  within_of ⟨low, high⟩

end QuantGateway.Foundation
