import QuantGateway.Foundation.CharConv
import Mathlib.Data.List.DropRight

/-!
Owns Python's `str.partition` for a separator of one character and `int` of a
`str` in base ten: blanks around an optional sign and groups of digits joined by
single underscores, and that `int` reads nothing else.

What Unicode says of the characters beyond ASCII, and the limit on the number of
digits, belong to the interpreter and are parameters.
-/

namespace QuantGateway.Foundation

open CharConv

/-- What of a Python interpreter `int` depends on. A limit of zero is none. -/
structure Interpreter where
  isSpace : Char → Bool
  decimal : Char → Option (Fin 10)
  maxStrDigits : Nat

namespace Python

/-- `str.partition` for one character. -/
def partition (text : Text) (sep : Char) : Text × Text × Text :=
  match text.idxOf? sep with
  | some place => (text.take place, [sep], text.drop (place + 1))
  | none => (text, [], [])

/-- `_PyUnicode_TransformDecimalAndSpaceToASCII` for one character. -/
def toAscii (python : Interpreter) (letter : Char) : Char :=
  if letter.toNat < 128 then letter
  else if python.isSpace letter then ' '
  else
    match python.decimal letter with
    | some digit => Nat.digitChar digit
    | none => '?'

def trim (text : Text) : Text :=
  (text.dropWhile isBlank).rdropWhile isBlank

/-- The sign in front of a number, and what follows it. -/
def takeSign (text : Text) : Bool × Text :=
  match text with
  | '-' :: rest => (true, rest)
  | '+' :: rest => (false, rest)
  | _ => (false, text)

/-- A group of digits between underscores. -/
def isGroup (group : Text) : Bool :=
  !group.isEmpty && group.all Char.isDigit

/-- The interpreter takes numbers of so many digits. -/
def withinLimit (python : Interpreter) (count : Nat) : Bool :=
  python.maxStrDigits = 0 || count ≤ python.maxStrDigits

/-- The groups of digits of a number, read in one piece. -/
def readGroups (python : Interpreter) (literal : Text) : Option Nat :=
  let groups := literal.splitOn '_'
  if groups.all isGroup && withinLimit python groups.flatten.length then
    some (digitsValue groups.flatten)
  else none

/-- `int(text)`; `none` is `ValueError`. -/
def int (python : Interpreter) (text : Text) : Option Int :=
  let (negative, literal) := takeSign (trim (text.map (toAscii python)))
  (readGroups python literal).map fun size => if negative then -(size : Int) else size

/-! ## The texts `int` reads -/

/-- A text that denotes an integer for `int`. -/
def IntLiteral (python : Interpreter) (text : Text) : Prop :=
  ∃ before sign groups after,
    text.map (toAscii python) = before ++ (sign ++ ['_'].intercalate groups) ++ after ∧
    (∀ letter ∈ before, isBlank letter = true) ∧ (∀ letter ∈ after, isBlank letter = true) ∧
    (sign = [] ∨ sign = ['+'] ∨ sign = ['-']) ∧ groups ≠ [] ∧
    (∀ group ∈ groups, isGroup group = true) ∧
    withinLimit python groups.flatten.length = true

theorem exists_trim (text : Text) :
    ∃ before after, text = before ++ trim text ++ after ∧
      (∀ letter ∈ before, isBlank letter = true) ∧
      (∀ letter ∈ after, isBlank letter = true) := by
  refine ⟨text.takeWhile isBlank, (text.dropWhile isBlank).rtakeWhile isBlank, ?_, ?_, ?_⟩
  · rw [trim, List.append_assoc, List.rdropWhile_append_rtakeWhile,
      List.takeWhile_append_dropWhile]
  · exact fun letter member => List.mem_takeWhile_imp member
  · exact fun letter member => List.mem_rtakeWhile_imp member

/-- The blanks around a text without blanks are trimmed away. -/
theorem trim_append {before core after : Text} (nonempty : core ≠ [])
    (noBlank : ∀ letter ∈ core, isBlank letter = false)
    (beforeBlank : ∀ letter ∈ before, isBlank letter = true)
    (afterBlank : ∀ letter ∈ after, isBlank letter = true) :
    trim (before ++ core ++ after) = core := by
  have front : (core ++ after).dropWhile isBlank = core ++ after := by
    cases core with
    | nil => exact absurd rfl nonempty
    | cons letter rest =>
        rw [List.cons_append, List.dropWhile_cons_of_neg]
        simp [noBlank letter List.mem_cons_self]
  have back : core.reverse.dropWhile isBlank = core.reverse := by
    rw [List.dropWhile_eq_self_iff]
    intro positive
    rw [noBlank _ (List.mem_reverse.mp (List.getElem_mem positive))]
    decide
  unfold trim
  rw [List.append_assoc, List.dropWhile_append_of_pos beforeBlank, front, List.rdropWhile,
    List.reverse_append, List.dropWhile_append_of_pos (by simpa using afterBlank), back,
    List.reverse_reverse]

theorem exists_takeSign (text : Text) :
    ∃ sign, text = sign ++ (takeSign text).2 ∧ (sign = [] ∨ sign = ['+'] ∨ sign = ['-']) := by
  unfold takeSign
  split
  next rest => exact ⟨['-'], rfl, .inr (.inr rfl)⟩
  next rest => exact ⟨['+'], rfl, .inr (.inl rfl)⟩
  next => exact ⟨[], rfl, .inl rfl⟩

theorem isDigit_of_isGroup {group : Text} (isGroup : isGroup group = true) :
    group ≠ [] ∧ ∀ letter ∈ group, letter.isDigit = true := by
  unfold Python.isGroup at isGroup
  simpa using isGroup

section Groups

variable {groups : List Text} (someGroup : groups ≠ [])
  (allGroups : ∀ group ∈ groups, isGroup group = true)

include allGroups

theorem mem_intercalate_groups {letter : Char} (member : letter ∈ ['_'].intercalate groups) :
    letter = '_' ∨ letter.isDigit = true := by
  rcases mem_of_mem_intercalate member with isSep | ⟨group, inGroups, inGroup⟩
  · exact .inl isSep
  · exact .inr ((isDigit_of_isGroup (allGroups group inGroups)).2 letter inGroup)

include someGroup

theorem splitOn_intercalate_groups : (['_'].intercalate groups).splitOn '_' = groups := by
  apply List.splitOn_intercalate
  · intro group inGroups underscore
    have digit := (isDigit_of_isGroup (allGroups group inGroups)).2 '_' underscore
    exact absurd digit (by decide)
  · exact someGroup

theorem intercalate_groups_ne_nil : ['_'].intercalate groups ≠ [] := by
  intro empty
  have pieces := splitOn_intercalate_groups someGroup allGroups
  rw [empty, List.splitOn_nil] at pieces
  have noDigits := (isDigit_of_isGroup (allGroups [] (by simp [← pieces]))).1
  exact noDigits rfl

/-- No digit is taken for a sign. -/
theorem takeSign_intercalate_groups {sign : Text}
    (signed : sign = [] ∨ sign = ['+'] ∨ sign = ['-']) :
    takeSign (sign ++ ['_'].intercalate groups) =
      (decide (sign = ['-']), ['_'].intercalate groups) := by
  rcases signed with rfl | rfl | rfl
  · cases literal : ['_'].intercalate groups with
    | nil => exact absurd literal (intercalate_groups_ne_nil someGroup allGroups)
    | cons letter rest =>
        have clean := mem_intercalate_groups allGroups (literal ▸ List.mem_cons_self)
        unfold takeSign
        split
        next isMinus =>
          cases isMinus
          exact absurd clean (by decide)
        next isPlus =>
          cases isPlus
          exact absurd clean (by decide)
        next => rfl
  · rfl
  · rfl

end Groups

/-- `int` reads exactly the integer literals. -/
theorem int_isSome_iff (python : Interpreter) (text : Text) :
    (int python text).isSome ↔ IntLiteral python text := by
  unfold int readGroups
  simp only [Option.isSome_map]
  constructor
  · intro read
    obtain ⟨before, after, around, beforeBlank, afterBlank⟩ :=
      exists_trim (text.map (toAscii python))
    obtain ⟨sign, signed, isSign⟩ := exists_takeSign (trim (text.map (toAscii python)))
    generalize (takeSign (trim (text.map (toAscii python)))).2 = literal at signed read
    by_cases groups : (literal.splitOn '_').all isGroup &&
        withinLimit python (literal.splitOn '_').flatten.length
    · rw [Bool.and_eq_true, List.all_eq_true] at groups
      refine ⟨before, sign, literal.splitOn '_', after, ?_, beforeBlank, afterBlank, isSign,
        List.splitOn_ne_nil _ _, groups⟩
      rw [List.intercalate_splitOn, ← signed]
      exact around
    · rw [if_neg groups] at read
      cases read
  · rintro ⟨before, sign, groups, after, around, beforeBlank, afterBlank, isSign, someGroup,
      allGroups, limit⟩
    have noBlank : ∀ letter ∈ sign ++ ['_'].intercalate groups, isBlank letter = false := by
      intro letter member
      rcases List.mem_append.mp member with inSign | inLiteral
      · rcases isSign with rfl | rfl | rfl
        · cases inSign
        · obtain rfl := List.mem_singleton.mp inSign
          decide
        · obtain rfl := List.mem_singleton.mp inSign
          decide
      · rcases mem_intercalate_groups allGroups inLiteral with rfl | digit
        · decide
        · exact isBlank_of_isDigit digit
    have nonempty : sign ++ ['_'].intercalate groups ≠ [] := by
      simp [intercalate_groups_ne_nil someGroup allGroups]
    rw [around, trim_append nonempty noBlank beforeBlank afterBlank,
      takeSign_intercalate_groups someGroup allGroups isSign]
    simp only [splitOn_intercalate_groups someGroup allGroups]
    rw [if_pos]
    · rfl
    · rw [Bool.and_eq_true, List.all_eq_true]
      exact ⟨allGroups, limit⟩

/-- A text of ASCII digits is read as the number they denote, within the limit. -/
theorem int_digits (python : Interpreter) {text : Text} (nonempty : text ≠ [])
    (allDigits : ∀ letter ∈ text, letter.isDigit = true) :
    int python text =
      if withinLimit python text.length then some (digitsValue text : Int) else none := by
  have ascii : text.map (toAscii python) = text := by
    have same : ∀ letter ∈ text, toAscii python letter = id letter := by
      intro letter member
      have high := (Char.isDigit_iff_toNat.mp (allDigits letter member)).2
      exact if_pos (Nat.lt_of_le_of_lt high (by decide))
    rw [List.map_congr_left same, List.map_id]
  have group : isGroup text = true := by
    unfold isGroup
    simpa using ⟨nonempty, allDigits⟩
  have oneGroup : ∀ part ∈ [text], isGroup part = true := by simpa using group
  have trimmed : trim text = text := by
    have noBlank := fun letter member => isBlank_of_isDigit (allDigits letter member)
    simpa using @trim_append [] text [] nonempty noBlank (by simp) (by simp)
  have unsigned := takeSign_intercalate_groups (List.cons_ne_nil text []) oneGroup (.inl rfl)
  have pieces := splitOn_intercalate_groups (List.cons_ne_nil text []) oneGroup
  rw [List.nil_append, List.intercalate_singleton] at unsigned
  rw [List.intercalate_singleton] at pieces
  unfold int readGroups
  rw [ascii, trimmed, unsigned]
  simp only [pieces, List.all_cons, List.all_nil, group, List.flatten_cons, List.flatten_nil,
    List.append_nil, Bool.and_true, Bool.true_and]
  by_cases within : withinLimit python text.length = true
  · rw [if_pos within, if_pos within]
    rfl
  · rw [if_neg within, if_neg within]
    rfl

example :
    int ⟨fun _ => false, fun _ => none, 4300⟩ " +5_432 ".toList = some 5432 := by
  decide

end Python

end QuantGateway.Foundation
