import QuantGateway.Foundation.CharConv

/-!
Owns `split`, the find-and-substr loop that cuts a symbol at its separators, and
that the loop computes `List.splitOn`.
-/

namespace QuantGateway.MarketData

open QuantGateway.Foundation

/-- `text.find(sep, start)`; `none` is `npos`. -/
def find (text : Text) (sep : Char) (start : Nat) : Option Nat :=
  ((text.drop start).idxOf? sep).map (start + ·)

/-- A found separator cuts the text in two. -/
theorem idxOf?_eq_some {text : Text} {sep : Char} {place : Nat}
    (found : text.idxOf? sep = some place) :
    text = text.take place ++ sep :: text.drop (place + 1) ∧ sep ∉ text.take place := by
  induction text generalizing place with
  | nil => simp at found
  | cons letter rest inductionHypothesis =>
      rw [List.idxOf?_cons] at found
      split at found
      next isSep =>
        obtain rfl : letter = sep := by simpa using isSep
        obtain rfl : 0 = place := by simpa using found
        simp
      next other =>
        obtain ⟨position, inRest, rfl⟩ := Option.map_eq_some_iff.mp found
        obtain ⟨cut, absent⟩ := inductionHypothesis inRest
        refine ⟨by simpa using cut, ?_⟩
        simp only [List.take_succ_cons, List.mem_cons, not_or]
        exact ⟨fun same => other (by simp [same]), absent⟩

/-- A separator found from a start position on cuts the rest of the text there. -/
theorem find_eq_some {text : Text} {sep : Char} {start place : Nat}
    (found : find text sep start = some place) :
    start ≤ place ∧
      text.drop start = (text.drop start).take (place - start) ++ sep :: text.drop (place + 1) ∧
      sep ∉ (text.drop start).take (place - start) := by
  unfold find at found
  obtain ⟨position, inRest, rfl⟩ := Option.map_eq_some_iff.mp found
  obtain ⟨cut, absent⟩ := idxOf?_eq_some inRest
  rw [List.drop_drop] at cut
  rw [Nat.add_sub_cancel_left, Nat.add_assoc]
  exact ⟨Nat.le_add_right _ _, cut, absent⟩

theorem find_lt {text : Text} {sep : Char} {start place : Nat}
    (found : find text sep start = some place) : start ≤ place ∧ place < text.length := by
  obtain ⟨ordered, cut, -⟩ := find_eq_some found
  have lengths := congrArg List.length cut
  simp only [List.length_append, List.length_take, List.length_cons, List.length_drop] at lengths
  omega

/-- The loop of `split` from a start position on, `parts` being the pieces it
has pushed. -/
def splitFrom (text : Text) (sep : Char) (start : Nat) (parts : List Text) : List Text :=
  match _found : find text sep start with
  | none => parts ++ [text.drop start]
  | some place => splitFrom text sep (place + 1) (parts ++ [(text.drop start).take (place - start)])
termination_by text.length - start
decreasing_by
  have inText := find_lt ‹find text sep start = some place›
  omega

def split (text : Text) (sep : Char) : List Text :=
  splitFrom text sep 0 []

theorem splitFrom_of_none {text : Text} {sep : Char} {start : Nat}
    (found : find text sep start = none) (parts : List Text) :
    splitFrom text sep start parts = parts ++ [text.drop start] := by
  unfold splitFrom
  split
  next => rfl
  next place foundPlace =>
    rw [found] at foundPlace
    cases foundPlace

theorem splitFrom_of_some {text : Text} {sep : Char} {start place : Nat}
    (found : find text sep start = some place) (parts : List Text) :
    splitFrom text sep start parts =
      splitFrom text sep (place + 1) (parts ++ [(text.drop start).take (place - start)]) := by
  conv => lhs; unfold splitFrom
  split
  next missing =>
    rw [found] at missing
    cases missing
  next other foundOther =>
    rw [found] at foundOther
    obtain rfl := Option.some.inj foundOther
    rfl

theorem splitFrom_eq (text : Text) (sep : Char) (start : Nat) (parts : List Text) :
    splitFrom text sep start parts = parts ++ (text.drop start).splitOn sep := by
  fun_induction splitFrom text sep start parts with
  | case1 start parts found =>
      have absent : sep ∉ text.drop start := by
        simpa [find, List.idxOf?_eq_none_iff] using found
      rw [List.splitOn_eq_singleton absent]
  | case2 start parts place found inductionHypothesis =>
      obtain ⟨-, cut, absent⟩ := find_eq_some found
      have pieces : (text.drop start).splitOn sep =
          (text.drop start).take (place - start) :: (text.drop (place + 1)).splitOn sep := by
        conv => lhs; rw [cut, List.splitOn_append_cons_self_of_not_mem absent]
      rw [inductionHypothesis, pieces, List.append_assoc, List.singleton_append]

/-- The loop computes the pieces between the separators. -/
theorem split_eq_splitOn (text : Text) (sep : Char) : split text sep = text.splitOn sep := by
  rw [split, splitFrom_eq, List.drop_zero, List.nil_append]

/-- Which pieces of a text are empty: the first where a separator leads, a later
one where two separators meet or one ends the text. -/
theorem splitOn_pieces_nonempty {text head : Text} {sep : Char} {tail : List Text}
    (pieces : text.splitOn sep = head :: tail) :
    (head ≠ [] ↔ text ≠ [] ∧ text.head? ≠ some sep) ∧
    ((∀ piece ∈ tail, piece ≠ []) ↔
      ¬ [sep, sep] <:+: text ∧ text.getLast? ≠ some sep) := by
  induction text generalizing head tail with
  | nil =>
      rw [List.splitOn_nil] at pieces
      cases pieces
      simp
  | cons letter rest inductionHypothesis =>
      obtain ⟨first, others, restPieces⟩ := List.exists_cons_of_ne_nil (rest.splitOn_ne_nil sep)
      obtain ⟨firstNonempty, othersNonempty⟩ := inductionHypothesis restPieces
      rw [List.splitOn_cons_eq_if_modifyHead, restPieces] at pieces
      by_cases isSep : letter = sep
      · subst isSep
        simp only [BEq.rfl, if_true, List.cons.injEq] at pieces
        obtain ⟨rfl, rfl⟩ := pieces
        simp only [List.forall_mem_cons, firstNonempty, othersNonempty]
        cases rest with
        | nil => simp
        | cons next more =>
            have doubled : [letter, letter] <:+: letter :: next :: more ↔
                next = letter ∨ [letter, letter] <:+: next :: more := by
              rw [List.infix_cons_iff]
              simp [List.cons_prefix_cons, eq_comm]
            rw [doubled, List.getLast?_cons_cons]
            simp [not_or, and_assoc]
      · rw [if_neg (by simpa using isSep)] at pieces
        simp only [List.modifyHead_cons, List.cons.injEq] at pieces
        obtain ⟨rfl, rfl⟩ := pieces
        rw [othersNonempty, List.infix_cons_iff, List.cons_prefix_cons]
        cases rest with
        | nil => simp [isSep, Ne.symm isSep]
        | cons next more => simp [isSep, Ne.symm isSep]

/-- A piece of a text consists of letters of the text other than the separator. -/
theorem mem_splitOn {text piece : Text} {sep : Char} (member : piece ∈ text.splitOn sep) :
    ∀ letter ∈ piece, letter ∈ text ∧ letter ≠ sep := by
  induction text generalizing piece with
  | nil =>
      rw [List.splitOn_nil, List.mem_singleton] at member
      simp [member]
  | cons head rest inductionHypothesis =>
      rw [List.splitOn_cons_eq_if_modifyHead] at member
      by_cases isSep : head = sep
      · rw [if_pos (by simpa using isSep)] at member
        rcases List.mem_cons.mp member with rfl | inRest
        · simp
        · intro letter inPiece
          obtain ⟨inText, other⟩ := inductionHypothesis inRest letter inPiece
          exact ⟨.tail _ inText, other⟩
      · rw [if_neg (by simpa using isSep)] at member
        obtain ⟨first, others, pieces⟩ := List.exists_cons_of_ne_nil (rest.splitOn_ne_nil sep)
        rw [pieces] at member inductionHypothesis
        intro letter inPiece
        rcases List.mem_cons.mp member with rfl | inOthers
        · rcases List.mem_cons.mp inPiece with rfl | inFirst
          · exact ⟨List.mem_cons_self, isSep⟩
          · obtain ⟨inText, other⟩ := inductionHypothesis List.mem_cons_self letter inFirst
            exact ⟨.tail _ inText, other⟩
        · obtain ⟨inText, other⟩ := inductionHypothesis (.tail _ inOthers) letter inPiece
          exact ⟨.tail _ inText, other⟩

/-- The pieces are one more than the separators. -/
theorem length_splitOn (text : Text) (sep : Char) :
    (text.splitOn sep).length = text.count sep + 1 := by
  induction text with
  | nil => simp
  | cons letter rest inductionHypothesis =>
      rw [List.splitOn_cons_eq_if_modifyHead, List.count_cons]
      by_cases isSep : letter = sep
      · simp [isSep, inductionHypothesis]
      · simp [isSep, inductionHypothesis]

theorem not_mem_intercalate {pieces : List Text} {sep letter : Char}
    (clean : ∀ piece ∈ pieces, letter ∉ piece) (other : letter ≠ sep) :
    letter ∉ [sep].intercalate pieces := by
  intro member
  rcases mem_of_mem_intercalate member with isSep | ⟨piece, inPieces, inPiece⟩
  · exact other isSep
  · exact clean piece inPieces inPiece

end QuantGateway.MarketData
