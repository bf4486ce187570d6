import QuantGateway.MarketData.Symbol

/-!
Owns the documented shape of an index name and which symbols `parse_symbol` calls
an index although they lack it.
-/

namespace QuantGateway.MarketData

open QuantGateway.Foundation

/-- Lowercase and underscore-separated, as in `btc_usd`. -/
structure IndexName (symbol : Text) : Prop where
  lowercase : ∀ letter ∈ symbol, letter.isUpper = false
  noDash : '-' ∉ symbol
  parts : 2 ≤ (symbol.splitOn '_').length
  nonempty : ∀ part ∈ symbol.splitOn '_', part ≠ []

/-- An underscore stands inside the symbol and none leads it. -/
def InnerUnderscore (symbol : Text) : Prop :=
  symbol.head? ≠ some '_' ∧ '_' ∈ symbol.dropLast

/-- No letter, and no place of an underscore, keeps the symbol from being an index
name. -/
def IndexLettered (symbol : Text) : Prop :=
  (∀ letter ∈ symbol, letter.isUpper = false ∧ letter ≠ '-') ∧
    ¬ ['_', '_'] <:+: symbol ∧ symbol.getLast? ≠ some '_'

theorem indexShaped_iff (symbol : Text) : IndexShaped symbol ↔ InnerUnderscore symbol := by
  unfold IndexShaped InnerUnderscore
  simp only [find_zero]
  constructor
  · rintro ⟨underscore, found, notFirst, notLast⟩
    obtain ⟨cut, absent⟩ := idxOf?_eq_some found
    constructor
    · cases symbol with
      | nil => simp
      | cons letter rest =>
          rintro leads
          obtain rfl : letter = '_' := Option.some.inj leads
          simp [List.idxOf?_cons, Ne.symm notFirst] at found
    · have longer : symbol.drop (underscore + 1) ≠ [] := by
        rw [Ne, List.drop_eq_nil_iff]
        have inText := (@find_lt _ _ 0 _ (by rw [find_zero]; exact found)).2
        omega
      rw [cut, List.dropLast_append_of_ne_nil (List.cons_ne_nil _ _),
        List.dropLast_cons_of_ne_nil longer]
      simp
  · rintro ⟨notLeading, inside⟩
    cases found : symbol.idxOf? '_' with
    | none => exact absurd (List.dropLast_subset _ inside) (List.idxOf?_eq_none_iff.mp found)
    | some underscore =>
        obtain ⟨cut, absent⟩ := idxOf?_eq_some found
        refine ⟨underscore, rfl, ?_, ?_⟩
        · rintro rfl
          rw [cut] at notLeading
          exact notLeading rfl
        · intro atEnd
          rw [cut, atEnd, List.drop_length, List.dropLast_concat] at inside
          exact absent inside

/-- The symbol is called an index just when its first underscore is an inner one. -/
theorem parsedKind_index_iff (symbol : Text) :
    parsedKind symbol = some .index ↔ InnerUnderscore symbol := by
  rw [← indexShaped_iff]
  constructor
  · intro classified
    obtain ⟨key, parsed, kind⟩ := Option.map_eq_some_iff.mp classified
    rcases parseSymbol_cases parsed with
      ⟨underscore, found, made⟩ | ⟨-, base, last, -, -, made⟩ |
      ⟨-, base, expiry, strike, right, -, -, made⟩
    · obtain ⟨notFirst, notLast, -⟩ := parseIndex_some made
      exact ⟨underscore, found, notFirst, notLast⟩
    · rcases parsePair_some made with ⟨-, rfl⟩ | ⟨nanos, -, rfl⟩
      · cases kind
      · cases kind
    · obtain ⟨nanos, number, side, -, -, -, -, rfl⟩ := parseOption_some made
      cases kind
  · intro shaped
    obtain ⟨key, parsed, kind⟩ := parseSymbol_of_indexShaped shaped
    exact Option.map_eq_some_iff.mpr ⟨key, parsed, kind⟩

/-- Among the symbols with an inner underscore the letters decide. -/
theorem indexName_iff {symbol : Text} (inner : InnerUnderscore symbol) :
    IndexName symbol ↔ IndexLettered symbol := by
  obtain ⟨notLeading, inside⟩ := inner
  have present : '_' ∈ symbol := List.dropLast_subset _ inside
  have nonempty : symbol ≠ [] := List.ne_nil_of_mem present
  obtain ⟨head, tail, pieces⟩ := List.exists_cons_of_ne_nil (symbol.splitOn_ne_nil '_')
  obtain ⟨headNonempty, tailNonempty⟩ := splitOn_pieces_nonempty pieces
  have parts : 2 ≤ (symbol.splitOn '_').length := by
    obtain ⟨before, after, cut⟩ := List.append_of_mem present
    have first := List.length_pos_of_ne_nil (before.splitOn_ne_nil '_')
    have second := List.length_pos_of_ne_nil (after.splitOn_ne_nil '_')
    rw [cut, List.splitOn_append_cons_self, List.length_append]
    omega
  constructor
  · intro name
    have partsNonempty := name.nonempty
    rw [pieces, List.forall_mem_cons] at partsNonempty
    refine ⟨fun letter member => ⟨name.lowercase letter member, ?_⟩,
      tailNonempty.mp partsNonempty.2⟩
    rintro rfl
    exact name.noDash member
  · rintro ⟨letters, places⟩
    refine ⟨fun letter member => (letters letter member).1, ?_, parts, ?_⟩
    · intro dash
      exact (letters '-' dash).2 rfl
    · rw [pieces, List.forall_mem_cons]
      exact ⟨headNonempty.mpr ⟨nonempty, notLeading⟩, tailNonempty.mpr places⟩

/-- `parse_symbol` keeps an index apart from every other shape just when the symbol
has no underscore inside it, or one leads it, or it has neither a dash, nor an
upper-case letter, nor a doubled or trailing underscore. -/
theorem classified_as_index_iff (symbol : Text) :
    (parsedKind symbol = some .index → IndexName symbol) ↔
      ¬ InnerUnderscore symbol ∨ IndexLettered symbol := by
  rw [parsedKind_index_iff]
  by_cases inner : InnerUnderscore symbol
  · simp [inner, indexName_iff inner]
  · simp [inner]

/-- The name of an option on a base currency with an underscore is called an
index. -/
theorem option_classified_as_index :
    parsedKind "BTC_USDC-27JUN25-100000-C".toList = some .index ∧
      ¬ IndexName "BTC_USDC-27JUN25-100000-C".toList := by
  constructor
  · decide +kernel
  · intro name
    exact name.noDash (by decide)

end QuantGateway.MarketData
