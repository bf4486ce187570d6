import QuantGateway.Foundation.Checked
import QuantGateway.Foundation.Loop
import QuantGateway.MarketData.Split

/-!
Owns `split` as the `while (true)` loop it is written as, with the positions its
`substr` calls check: the loop returns for every text, what it returns is `split`,
and `split` and joining undo each other.
-/

namespace QuantGateway.MarketData

open QuantGateway.Foundation

/-- One pass, over `start` and `parts`. -/
def splitBody (text : Text) (sep : Char) :
    Nat × List Text → Checked (Pass (Nat × List Text) (List Text))
  | (start, parts) =>
    match find text sep start with
    | none => do
        let piece ← substrFrom text start
        .ok (.returned (parts ++ [piece]))
    | some place => do
        let count ← sizeDifference place start
        let piece ← substr text start count
        .ok (.again (place + 1, parts ++ [piece]))

/-- `split`, given up after so many passes through its loop. -/
def splitLoop (passes : Nat) (text : Text) (sep : Char) : Checked (List Text) :=
  loop .unfinished (splitBody text sep) passes (0, [])

/-! ## The loop returns -/

/-- The separators from a start position on. -/
def separatorsFrom (text : Text) (sep : Char) (start : Nat) : Nat :=
  (text.drop start).count sep

/-- Past a found separator there are fewer left. -/
theorem separatorsFrom_lt {text : Text} {sep : Char} {start place : Nat}
    (found : find text sep start = some place) :
    separatorsFrom text sep (place + 1) < separatorsFrom text sep start := by
  have cut := congrArg (List.count sep) (find_eq_some found).2.1
  rw [List.count_append, List.count_cons_self] at cut
  unfold separatorsFrom
  omega

/-- One pass keeps the start within the text, and what the loop will return. -/
theorem splitBody_advances (text : Text) (sep : Char) (state : Nat × List Text)
    (inText : state.1 ≤ text.length) :
    Advances (fun state => state.1 ≤ text.length) (fun state => separatorsFrom text sep state.1)
      (fun state => splitFrom text sep state.1 state.2) (splitBody text sep) state := by
  obtain ⟨start, parts⟩ := state
  cases found : find text sep start with
  | none =>
      left
      simp only [splitBody, found]
      rw [substrFrom_of_le inText, checked_ok_bind, splitFrom_of_none found]
  | some place =>
      obtain ⟨ordered, below⟩ := find_lt found
      refine .inr ⟨(place + 1, parts ++ [(text.drop start).take (place - start)]), ?_, below,
        separatorsFrom_lt found, (splitFrom_of_some found parts).symm⟩
      simp only [splitBody, found]
      rw [sizeDifference_of_le ordered, checked_ok_bind, substr_of_le inText, checked_ok_bind]

/-- One pass for each separator and one for the end are enough. -/
theorem splitLoop_eq_ok {passes : Nat} {text : Text} {sep : Char}
    (enough : text.count sep < passes) : splitLoop passes text sep = .ok (split text sep) :=
  loop_eq_ok (splitBody_advances text sep) (Nat.zero_le _) enough

/-! ## Splitting and joining -/

/-- The loop of `split` returns on every text, with pieces that hold no separator,
that are one more than the separators and that join to the text; and pieces that
hold no separator are what the split of their join returns. -/
theorem split_inverts_join (sep : Char) :
    (∀ text : Text, ∃ pieces : List Text,
      (∀ passes, text.count sep < passes → splitLoop passes text sep = .ok pieces) ∧
      (∀ piece ∈ pieces, sep ∉ piece) ∧ pieces.length = text.count sep + 1 ∧
      [sep].intercalate pieces = text) ∧
    ∀ pieces : List Text, pieces ≠ [] → (∀ piece ∈ pieces, sep ∉ piece) →
      ∀ passes, ([sep].intercalate pieces).count sep < passes →
        splitLoop passes ([sep].intercalate pieces) sep = .ok pieces := by
  constructor
  · intro text
    refine ⟨split text sep, fun passes enough => splitLoop_eq_ok enough, ?_⟩
    rw [split_eq_splitOn]
    refine ⟨fun piece member inPiece => ?_, length_splitOn text sep, List.intercalate_splitOn sep⟩
    exact (mem_splitOn member sep inPiece).2 rfl
  · intro pieces nonempty clean passes enough
    rw [splitLoop_eq_ok enough, split_eq_splitOn, List.splitOn_intercalate sep clean nonempty]

end QuantGateway.MarketData
