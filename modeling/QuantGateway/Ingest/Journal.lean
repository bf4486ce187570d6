import QuantGateway.Foundation.LastWrite
import QuantGateway.Foundation.Replay
import QuantGateway.Ingest.Statements

/-!
Owns the journal of an ingest: a statement reads the id of a venue, sets a tick
size, or writes a row of a subtype table. The type of an instrument is not an
entry, since no statement sets it on a row that is there.

Does not own the statements that write these entries.
-/

namespace QuantGateway.SecurityMaster

open QuantGateway.Foundation

namespace SubtypeTable

def Row : SubtypeTable → Type
  | .option => OptionRow
  | .future => FutureRow
  | .currencies => CurrencyRow

/-- The primary key of a row. -/
def key : (table : SubtypeTable) → table.Row → Int
  | .option => OptionRow.instrumentId
  | .future => FutureRow.instrumentId
  | .currencies => CurrencyRow.instrumentId

def rows : (table : SubtypeTable) → Tables → List table.Row
  | .option => Tables.option
  | .future => Tables.future
  | .currencies => Tables.currencies

/-- The upsert of a row. -/
def write : (table : SubtypeTable) → table.Row → Tables → Tables
  | .option, row, tables =>
      { tables with option := upsert OptionRow.instrumentId row tables.option }
  | .future, row, tables =>
      { tables with future := upsert FutureRow.instrumentId row tables.future }
  | .currencies, row, tables =>
      { tables with currencies := upsert CurrencyRow.instrumentId row tables.currencies }

variable (table other : SubtypeTable) (row : table.Row) (tables : Tables)

theorem keys_eq : table.keys tables = (table.rows tables).map table.key := by
  cases table <;> rfl

@[simp] theorem write_venue : (table.write row tables).venue = tables.venue := by
  cases table <;> rfl

@[simp] theorem write_instrument : (table.write row tables).instrument = tables.instrument := by
  cases table <;> rfl

theorem rows_write_self :
    table.rows (table.write row tables) = upsert table.key row (table.rows tables) := by
  cases table <;> rfl

variable {table other}

theorem rows_write_of_ne (apart : table ≠ other) :
    other.rows (table.write row tables) = other.rows tables := by
  cases table <;> cases other <;> first | rfl | exact absurd rfl apart

end SubtypeTable

end QuantGateway.SecurityMaster

namespace QuantGateway.Ingest

open QuantGateway.Foundation
open QuantGateway.SecurityMaster

/-! ## Entries -/

/-- The tick size an instrument statement sets. -/
structure TickSize where
  venueId : Int
  symbol : Text
  value : Numeric

/-- Tick sizes as writes to the instruments with a venue and a symbol. -/
def tickSizes : Writes Instrument TickSize (Int × Text) where
  key row := (row.venueId, row.symbol)
  target write := (write.venueId, write.symbol)
  apply write row := { row with tickSize := write.value }
  key_apply same := same
  apply_apply _ _ := rfl

theorem setTickSize_eq_overwrite (write : TickSize) (rows : List Instrument) :
    setTickSize write.venueId write.symbol write.value rows = tickSizes.overwrite rows write := by
  simp [setTickSize, Writes.overwrite, tickSizes, Prod.ext_iff]

inductive Entry where
  | venue (code : Text) (id : Int)
  | instrument (write : TickSize) (id : Int)
  | subtype (table : SubtypeTable) (row : table.Row)

namespace Entry

def tickSize : Entry → Option TickSize
  | .instrument write _ => some write
  | _ => none

/-- The row written to one table. -/
def row (table : SubtypeTable) : Entry → Option table.Row
  | .subtype other row => if same : other = table then some (same ▸ row) else none
  | _ => none

@[simp] theorem tickSize_instrument (write : TickSize) (id : Int) :
    (Entry.instrument write id).tickSize = some write := rfl

def rewrite (tables : Tables) : Entry → Tables
  | .venue _ _ => tables
  | .instrument write _ =>
      { tables with
        instrument := setTickSize write.venueId write.symbol write.value tables.instrument }
  | .subtype table row => table.write row tables

end Entry

/-! ## What is known -/

/-- The id of the venue with a code. -/
def venueIdOf (tables : Tables) (code : Text) : Option Int :=
  (tables.venue.find? fun venue => venue.code = code).map Venue.venueId

/-- The id of the instrument of a venue with a symbol. -/
def instrumentIdOf (tables : Tables) (venueId : Int) (symbol : Text) : Option Int :=
  (tables.instrument.find? fun row => row.venueId = venueId ∧ row.symbol = symbol).map
    Instrument.instrumentId

def Entry.Known (tables : Tables) : Entry → Prop
  | .venue code id => venueIdOf tables code = some id
  | .instrument write id => instrumentIdOf tables write.venueId write.symbol = some id
  | .subtype table row => table.key row ∈ table.keys tables

/-- The tables show the last write of every column in a log. -/
structure Reflects (log : List Entry) (tables : Tables) : Prop where
  known : ∀ entry ∈ log, entry.Known tables
  instrument : tickSizes.Settled (log.filterMap Entry.tickSize) tables.instrument
  rows : ∀ table : SubtypeTable,
    (rowWrites table.key).Settled (log.filterMap (Entry.row table)) (table.rows tables)

/-! ## Rewriting a log -/

namespace Entry

variable {tables : Tables} {table : SubtypeTable}

@[simp] theorem row_subtype_self (row : table.Row) :
    (Entry.subtype table row).row table = some row :=
  dif_pos rfl

theorem row_subtype_of_ne {other : SubtypeTable} (row : other.Row) (apart : other ≠ table) :
    (Entry.subtype other row).row table = none :=
  dif_neg apart

theorem row_eq_some {entry : Entry} {row : table.Row} (isRow : entry.row table = some row) :
    entry = .subtype table row := by
  cases entry with
  | venue => cases isRow
  | instrument => cases isRow
  | subtype other written =>
      by_cases same : other = table
      · subst same
        rw [row_subtype_self] at isRow
        cases isRow
        rfl
      · rw [row_subtype_of_ne written same] at isRow
        cases isRow

theorem rows_rewrite (entry : Entry) :
    table.rows (entry.rewrite tables) =
      match entry.row table with
      | none => table.rows tables
      | some row => upsert table.key row (table.rows tables) := by
  cases entry with
  | venue => rfl
  | instrument => cases table <;> rfl
  | subtype other row =>
      by_cases same : other = table
      · subst same
        rw [row_subtype_self]
        exact other.rows_write_self row tables
      · rw [row_subtype_of_ne row same]
        exact SubtypeTable.rows_write_of_ne row tables same

theorem rewrite_venue (entry : Entry) : (entry.rewrite tables).venue = tables.venue := by
  cases entry with
  | venue => rfl
  | instrument => rfl
  | subtype table row => exact table.write_venue row tables

theorem rewrite_instrument (entry : Entry) :
    (entry.rewrite tables).instrument =
      match entry.tickSize with
      | none => tables.instrument
      | some write => tickSizes.overwrite tables.instrument write := by
  cases entry with
  | venue => rfl
  | instrument write id => exact setTickSize_eq_overwrite write tables.instrument
  | subtype table row => exact table.write_instrument row tables

end Entry

theorem foldl_rewrite_venue (log : List Entry) (tables : Tables) :
    (log.foldl Entry.rewrite tables).venue = tables.venue := by
  induction log generalizing tables with
  | nil => rfl
  | cons entry rest inductionHypothesis =>
      rw [List.foldl_cons, inductionHypothesis, Entry.rewrite_venue]

theorem foldl_rewrite_instrument (log : List Entry) (tables : Tables) :
    (log.foldl Entry.rewrite tables).instrument =
      (log.filterMap Entry.tickSize).foldl tickSizes.overwrite tables.instrument := by
  induction log generalizing tables with
  | nil => rfl
  | cons entry rest inductionHypothesis =>
      rw [List.foldl_cons, inductionHypothesis, Entry.rewrite_instrument, List.filterMap_cons]
      cases entry.tickSize <;> rfl

theorem foldl_rewrite_rows (table : SubtypeTable) (log : List Entry) (tables : Tables) :
    table.rows (log.foldl Entry.rewrite tables) =
      (log.filterMap (Entry.row table)).foldl (fun rows row => upsert table.key row rows)
        (table.rows tables) := by
  induction log generalizing tables with
  | nil => rfl
  | cons entry rest inductionHypothesis =>
      rw [List.foldl_cons, inductionHypothesis, Entry.rows_rewrite, List.filterMap_cons]
      cases entry.row table <;> rfl

theorem tables_ext {first second : Tables} (venue : first.venue = second.venue)
    (instrument : first.instrument = second.instrument)
    (rows : ∀ table : SubtypeTable, table.rows first = table.rows second) : first = second := by
  cases first
  cases second
  cases venue
  cases instrument
  cases rows .option
  cases rows .future
  cases rows .currencies
  rfl

/-- Writing once more what the tables show changes nothing. -/
theorem Reflects.foldl_rewrite {log : List Entry} {tables : Tables}
    (reflects : Reflects log tables) : log.foldl Entry.rewrite tables = tables := by
  apply tables_ext
  · exact foldl_rewrite_venue log tables
  · rw [foldl_rewrite_instrument]
    exact reflects.instrument.foldl_overwrite
  · intro table
    rw [foldl_rewrite_rows]
    refine (reflects.rows table).foldl_upsert fun row member => ?_
    obtain ⟨entry, inLog, isRow⟩ := List.mem_filterMap.mp member
    have known := reflects.known entry inLog
    rw [Entry.row_eq_some isRow] at known
    rw [← table.keys_eq]
    exact known

/-! ## What stays known -/

/-- Nothing known is forgotten. -/
def Retains (before after : Tables) : Prop :=
  ∀ entry : Entry, entry.Known before → entry.Known after

variable {before after tables : Tables}

theorem retains_setTickSize (venueId : Int) (symbol : Text) (size : Numeric) :
    Retains tables
      { tables with instrument := setTickSize venueId symbol size tables.instrument } := by
  intro entry known
  cases entry with
  | venue => exact known
  | instrument write id =>
      have sameId : instrumentIdOf
          { tables with instrument := setTickSize venueId symbol size tables.instrument }
          write.venueId write.symbol = instrumentIdOf tables write.venueId write.symbol := by
        unfold instrumentIdOf setTickSize
        rw [List.find?_map, Option.map_map]
        congr 1
        · funext row
          simp only [Function.comp_apply]
          split <;> rfl
        · congr 1
          funext row
          simp only [Function.comp_apply]
          split <;> rfl
      exact sameId.trans known
  | subtype table row => cases table <;> exact known

theorem retains_write (table : SubtypeTable) (row : table.Row) :
    Retains tables (table.write row tables) := by
  intro entry known
  cases entry with
  | venue code id =>
      unfold Entry.Known venueIdOf
      rw [table.write_venue]
      exact known
  | instrument write id =>
      unfold Entry.Known instrumentIdOf
      rw [table.write_instrument]
      exact known
  | subtype other written =>
      simp only [Entry.Known, SubtypeTable.keys_eq] at known ⊢
      by_cases same : table = other
      · subst same
        rw [SubtypeTable.rows_write_self]
        exact mem_upsert_keys.mpr (.inl known)
      · rw [SubtypeTable.rows_write_of_ne row tables same]
        exact known

/-! ## An entry more -/

variable {log : List Entry}

theorem Reflects.snoc (reflects : Reflects log before) {entry : Entry}
    (retains : Retains before after) (known : entry.Known after)
    (instrument : tickSizes.Settled ((log ++ [entry]).filterMap Entry.tickSize) after.instrument)
    (rows : ∀ table : SubtypeTable,
      (rowWrites table.key).Settled ((log ++ [entry]).filterMap (Entry.row table))
        (table.rows after)) :
    Reflects (log ++ [entry]) after where
  known other member := by
    rcases List.mem_append.mp member with old | new
    · exact retains other (reflects.known other old)
    · rw [List.mem_singleton.mp new]
      exact known
  instrument := instrument
  rows := rows

/-- The id of a venue is read. -/
theorem Reflects.venue (reflects : Reflects log before) {code : Text} {id : Int}
    (known : venueIdOf before code = some id) :
    Reflects (log ++ [.venue code id]) before := by
  refine reflects.snoc (fun _ stays => stays) known ?_ ?_
  · rw [filterMap_snoc_none rfl]
    exact reflects.instrument
  · intro table
    rw [filterMap_snoc_none rfl]
    exact reflects.rows table

/-- A row is upserted. -/
theorem Reflects.write (reflects : Reflects log before) (table : SubtypeTable) (row : table.Row) :
    Reflects (log ++ [.subtype table row]) (table.write row before) := by
  have known : table.key row ∈ table.keys (table.write row before) := by
    rw [table.keys_eq, table.rows_write_self]
    exact mem_upsert_keys.mpr (.inr rfl)
  refine reflects.snoc (retains_write table row) known ?_ ?_
  · rw [filterMap_snoc_none rfl, table.write_instrument]
    exact reflects.instrument
  · intro other
    by_cases same : table = other
    · subst same
      rw [filterMap_snoc_some (Entry.row_subtype_self row), table.rows_write_self]
      exact (reflects.rows table).upsert row
    · rw [filterMap_snoc_none (Entry.row_subtype_of_ne row same),
        SubtypeTable.rows_write_of_ne row before same]
      exact reflects.rows other

theorem find?_append_of_some {A : Type} {search : A → Bool} {rows : List A} {found : A}
    (isFound : rows.find? search = some found) (more : List A) :
    (rows ++ more).find? search = some found := by
  rw [List.find?_append, isFound, Option.some_or]

/-- A new instrument leaves what is known. -/
theorem retains_instrument (row : Instrument) :
    Retains before { before with instrument := before.instrument ++ [row] } := by
  intro entry known
  cases entry with
  | venue => exact known
  | instrument write id =>
      obtain ⟨found, isFound, isId⟩ := Option.map_eq_some_iff.mp known
      exact Option.map_eq_some_iff.mpr ⟨found, find?_append_of_some isFound _, isId⟩
  | subtype table row => cases table <;> exact known

/-- An instrument is placed. -/
theorem Reflects.placed (reflects : Reflects log before) {newId venueId id : Int} {name type : Text}
    {size : Numeric} (placed : Placed newId venueId name size type before id after) :
    Reflects (log ++ [.instrument ⟨venueId, name, size⟩ id]) after := by
  have sameRows : ∀ table : SubtypeTable, table.rows after = table.rows before := by
    intro table
    cases placed <;> cases table <;> rfl
  have rows (table : SubtypeTable) : (rowWrites table.key).Settled
      ((log ++ [Entry.instrument ⟨venueId, name, size⟩ id]).filterMap (Entry.row table))
      (table.rows after) := by
    rw [filterMap_snoc_none rfl, sameRows]
    exact reflects.rows table
  cases placed with
  | known found =>
      have retains : Retains before _ := retains_setTickSize venueId name size
      have known : instrumentIdOf before venueId name = some _ :=
        Option.map_eq_some_iff.mpr ⟨_, found, rfl⟩
      refine reflects.snoc retains (retains (.instrument ⟨venueId, name, size⟩ _) known) ?_ rows
      rw [filterMap_snoc_some (Entry.tickSize_instrument _ _)]
      have settled := reflects.instrument.overwrite ⟨venueId, name, size⟩
      rw [← setTickSize_eq_overwrite] at settled
      exact settled
  | appended missing =>
      have known : instrumentIdOf { before with instrument := before.instrument ++
          [⟨newId, venueId, size, type, name⟩] } venueId name = some newId := by
        unfold instrumentIdOf
        rw [List.find?_append, missing]
        simp
      refine reflects.snoc (retains_instrument _) known ?_ rows
      rw [filterMap_snoc_some (Entry.tickSize_instrument _ _)]
      refine reflects.instrument.append ?_ rfl rfl
      intro taken
      obtain ⟨row, member, same⟩ := List.mem_map.mp taken
      have absent := List.find?_eq_none.mp missing row member
      rw [decide_eq_true_eq] at absent
      exact absent (Prod.mk.inj same)

/-- The journal of the statements of one connection. -/
def journal : Journal Session Tables Entry where
  view := Session.working
  rewrite := Entry.rewrite
  Known := fun entry tables => entry.Known tables
  Holds := Reflects
  known_rewrite := by
    intro entry other tables known
    cases other with
    | venue => exact known
    | instrument write id => exact retains_setTickSize _ _ _ entry known
    | subtype table row => exact retains_write table row entry known
  holds_nil := fun tables =>
    ⟨fun _ member => (List.not_mem_nil member).elim, .nil _, fun _ => .nil _⟩
  known_of_holds := fun reflects member => reflects.known _ member
  rewrite_of_holds := Reflects.foldl_rewrite

end QuantGateway.Ingest
