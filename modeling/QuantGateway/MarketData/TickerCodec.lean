import QuantGateway.Foundation.Json
import QuantGateway.MarketData.Model

/-!
Owns `TickerCodec`: how a `params.data` payload becomes a `Tick`, which payloads
become one, and when its venue timestamp is exact.

Does not own the text of a frame. Where C++ leaves a value undefined the compiled
code is a parameter.
-/

namespace QuantGateway.MarketData

open QuantGateway.Foundation

/-- The values C++ leaves undefined: a count of milliseconds whose nanoseconds
overflow, and the cast of a `double` no `int64` can hold. -/
structure Undefined where
  overflow : Int64 → Nanos
  cast : Double → Int64

/-- The integer fits into an `int64`. -/
abbrev FitsInt64 (value : Int) : Prop :=
  -2 ^ 63 ≤ value ∧ value < 2 ^ 63

/-- `static_cast<std::int64_t>` of a `double`. -/
def castDouble (undefined : Undefined) (value : Double) : Int64 :=
  match value with
  | .finite number =>
      if FitsInt64 (ExtendedRational.truncate number) then
        Int64.ofInt (ExtendedRational.truncate number)
      else undefined.cast value
  | .infinite _ => undefined.cast value
  | .nan => undefined.cast value

/-- `Nanos{std::chrono::milliseconds{millis}}`. -/
def nanosOfMillis (undefined : Undefined) (millis : Int64) : Nanos :=
  if FitsInt64 (millis.toInt * 1000000) then Int64.ofInt (millis.toInt * 1000000)
  else undefined.overflow millis

def numberOrNan (data : JsonObject) (key : Text) : Double :=
  match Json.ifContains data key with
  | some (.double value) => value
  | some (.int64 value) => ExtendedRational.ofRat value.toInt
  | some (.uint64 value) => ExtendedRational.ofRat value.toNat
  | _ => noValue

def stringOrEmpty (data : JsonObject) (key : Text) : Text :=
  match Json.ifContains data key with
  | some (.string text) => text
  | _ => []

/-- The cast of a `uint64` keeps its bits. -/
def timestampMs (undefined : Undefined) (data : JsonObject) : Option Nanos :=
  match Json.ifContains data "timestamp".toList with
  | some (.int64 millis) => some (nanosOfMillis undefined millis)
  | some (.uint64 millis) => some (nanosOfMillis undefined millis.toInt64)
  | some (.double millis) => some (nanosOfMillis undefined (castDouble undefined millis))
  | _ => none

def decodePriced (undefined : Undefined) (data : JsonObject) (priceKey : Text)
    (id : InstrumentId) (recvTs : Nanos) : Option Tick :=
  match timestampMs undefined data with
  | none => none
  | some exchangeTs =>
      let price := numberOrNan data priceKey
      if price = .nan then none
      else some { id := id, exchangeTs := exchangeTs, recvTs := recvTs, price := price }

def decodeTicker (undefined : Undefined) (data : JsonObject) (id : InstrumentId)
    (recvTs : Nanos) : Option Tick :=
  decodePriced undefined data "last_price".toList id recvTs

def decodeIndex (undefined : Undefined) (data : JsonObject) (id : InstrumentId)
    (recvTs : Nanos) : Option Tick :=
  decodePriced undefined data "price".toList id recvTs

def instrumentName (data : JsonObject) : Option Text :=
  let name := stringOrEmpty data "instrument_name".toList
  if name = [] then none else some name

/-- The two ways into the codec. -/
inductive EntryPoint where
  | ticker
  | index
deriving DecidableEq, Repr

namespace EntryPoint

def decode (undefined : Undefined) :
    EntryPoint → JsonObject → InstrumentId → Nanos → Option Tick
  | .ticker => decodeTicker undefined
  | .index => decodeIndex undefined

def priceKey : EntryPoint → Text
  | .ticker => "last_price".toList
  | .index => "price".toList

theorem decode_eq (entry : EntryPoint) (undefined : Undefined) (data : JsonObject)
    (id : InstrumentId) (recvTs : Nanos) :
    entry.decode undefined data id recvTs =
      decodePriced undefined data entry.priceKey id recvTs := by
  cases entry <;> rfl

end EntryPoint

/-! ## What a payload says -/

/-- The member is present and a number. -/
def Numeric (data : JsonObject) (key : Text) : Prop :=
  ((Json.ifContains data key).bind Json.number?).isSome

/-- The member is present and a number that is not NaN. -/
def Priced (data : JsonObject) (key : Text) : Prop :=
  ∃ value, (Json.ifContains data key).bind Json.number? = some value ∧ value ≠ .nan

/-- The member is present and a finite number. -/
def FinitelyPriced (data : JsonObject) (key : Text) : Prop :=
  ∃ value, (Json.ifContains data key).bind Json.number? = some (.finite value)

/-- The member is an infinite `double`. -/
def InfinitelyPriced (data : JsonObject) (key : Text) : Prop :=
  ∃ negative, Json.ifContains data key = some (.double (.infinite negative))

theorem timestampMs_isSome (undefined : Undefined) (data : JsonObject) :
    (timestampMs undefined data).isSome ↔ Numeric data "timestamp".toList := by
  unfold timestampMs Numeric
  cases found : Json.ifContains data "timestamp".toList with
  | none => simp
  | some value => cases value <;> simp [Json.number?]

/-- An integer of at most 64 bits is rounded to a finite `double`. -/
theorem ofRat_integer (value : Int) (fits : -2 ^ 64 ≤ value ∧ value ≤ 2 ^ 64) :
    ∃ rounded, ExtendedRational.ofRat value = .finite rounded := by
  apply ExtendedRational.ofRat_finite
  have bound : |(value : ℚ)| ≤ 2 ^ 64 := by
    rw [abs_le]
    constructor
    · exact_mod_cast fits.1
    · exact_mod_cast fits.2
  exact bound.trans_lt (pow_lt_pow_right₀ one_lt_two (by decide))

/-- What `number_or_nan` reads: nothing but an infinite `double` is infinite. -/
theorem numberOrNan_cases (data : JsonObject) (key : Text) :
    (∃ rounded, numberOrNan data key = .finite rounded ∧ FinitelyPriced data key) ∨
    (∃ negative, numberOrNan data key = .infinite negative ∧ InfinitelyPriced data key) ∨
    (numberOrNan data key = .nan ∧ ¬ Priced data key) := by
  unfold numberOrNan FinitelyPriced InfinitelyPriced Priced
  cases found : Json.ifContains data key with
  | none => simp
  | some member =>
      cases member with
      | int64 value =>
          have low := value.le_toInt
          have high := value.toInt_lt
          obtain ⟨rounded, read⟩ := ofRat_integer value.toInt (by omega)
          exact .inl ⟨rounded, read, value.toInt, rfl⟩
      | uint64 value =>
          have high := value.toNat_lt
          obtain ⟨rounded, read⟩ := ofRat_integer value.toNat (by omega)
          exact .inl ⟨rounded, by simpa using read, value.toNat, rfl⟩
      | double value =>
          cases value with
          | finite value => exact .inl ⟨value, rfl, value, rfl⟩
          | infinite negative => exact .inr (.inl ⟨negative, rfl, negative, rfl⟩)
          | nan => simp [Json.number?]
      | null => simp [Json.number?]
      | bool value => simp [Json.number?]
      | string value => simp [Json.number?]
      | array elements => simp [Json.number?]
      | object members => simp [Json.number?]

/-! ## Timestamps -/

/-- The integer the `timestamp` member holds. -/
def venueMillis (data : JsonObject) : Option Int :=
  (Json.ifContains data "timestamp".toList).bind Json.integer?

/-- The milliseconds whose nanoseconds an `int64` can hold. -/
abbrev Widenable (millis : Int) : Prop :=
  |millis| ≤ 9223372036854

theorem fitsInt64_of_widenable {millis : Int} (small : Widenable millis) :
    FitsInt64 (millis * 1000000) := by
  obtain ⟨low, high⟩ := abs_le.mp small
  constructor <;> omega

theorem nanosOfMillis_toInt (undefined : Undefined) {millis : Int64}
    (small : Widenable millis.toInt) :
    (nanosOfMillis undefined millis).toInt = millis.toInt * 1000000 := by
  have fits := fitsInt64_of_widenable small
  unfold nanosOfMillis
  rw [if_pos fits]
  exact Int64.toInt_ofInt_of_le fits.1 fits.2

theorem toInt64_toInt {millis : UInt64} (small : millis.toNat < 2 ^ 63) :
    millis.toInt64.toInt = millis.toNat := by
  change millis.toBitVec.toInt = millis.toNat
  rw [BitVec.toInt_eq_toNat_cond, if_pos]
  · rfl
  · change 2 * millis.toNat < 2 ^ 64
    omega

/-- An integer timestamp is always read, and within the limits it is read exactly. -/
theorem timestampMs_of_integer (undefined : Undefined) {data : JsonObject} {millis : Int}
    (stamped : venueMillis data = some millis) :
    ∃ nanos, timestampMs undefined data = some nanos ∧
      (Widenable millis → nanos.toInt = millis * 1000000) := by
  obtain ⟨member, found, integer⟩ := Option.bind_eq_some_iff.mp stamped
  unfold timestampMs
  rw [found]
  cases member with
  | int64 value =>
      obtain rfl : value.toInt = millis := Option.some.inj integer
      exact ⟨_, rfl, nanosOfMillis_toInt undefined⟩
  | uint64 value =>
      obtain rfl : (value.toNat : Int) = millis := Option.some.inj integer
      refine ⟨_, rfl, fun small => ?_⟩
      have below : value.toNat < 2 ^ 63 := by
        have high := (abs_le.mp small).2
        omega
      rw [← toInt64_toInt below] at small ⊢
      exact nanosOfMillis_toInt undefined small
  | null => cases integer
  | bool value => cases integer
  | double value => cases integer
  | string value => cases integer
  | array elements => cases integer
  | object members => cases integer

/-- The tick, if there is one, is stamped with the venue's milliseconds. -/
def ExactlyStamped (millis : Int) (decoded : Option Tick) : Prop :=
  ∀ tick, decoded = some tick → tick.exchangeTs.toInt = millis * 1000000

theorem decodePriced_of_timestamp {undefined : Undefined} {data : JsonObject} {nanos : Nanos}
    (read : timestampMs undefined data = some nanos) (priceKey : Text) (id : InstrumentId)
    (recvTs : Nanos) :
    decodePriced undefined data priceKey id recvTs =
      if numberOrNan data priceKey = .nan then none
      else
        some
          { id := id
            exchangeTs := nanos
            recvTs := recvTs
            price := numberOrNan data priceKey } := by
  unfold decodePriced
  rw [read]

theorem numberOrNan_eq_nan (data : JsonObject) (key : Text) :
    numberOrNan data key = .nan ↔ ¬ Priced data key := by
  rcases numberOrNan_cases data key with
    ⟨rounded, read, value, priced⟩ | ⟨negative, read, sign, found⟩ | ⟨read, unpriced⟩
  · have usable : Priced data key := ⟨_, priced, by simp⟩
    simp [read, usable]
  · have usable : Priced data key := ⟨.infinite sign, by rw [found]; rfl, by simp⟩
    simp [read, usable]
  · simp [read, unpriced]

/-- An integer timestamp is widened exactly just when the frame is refused for its
price or the nanoseconds fit into an `int64`. -/
theorem exactlyStamped_iff (undefined : Undefined) {data : JsonObject} {millis : Int}
    (stamped : venueMillis data = some millis) (entry : EntryPoint) (id : InstrumentId)
    (recvTs : Nanos) :
    ExactlyStamped millis (entry.decode undefined data id recvTs) ↔
      ¬ Priced data entry.priceKey ∨ Widenable millis := by
  obtain ⟨nanos, read, exact⟩ := timestampMs_of_integer undefined stamped
  rw [entry.decode_eq, decodePriced_of_timestamp read, ← numberOrNan_eq_nan]
  by_cases unpriced : numberOrNan data entry.priceKey = .nan
  · rw [if_pos unpriced]
    exact iff_of_true (by simp [ExactlyStamped]) (.inl unpriced)
  · rw [if_neg unpriced]
    constructor
    · intro stampedExactly
      right
      have value := stampedExactly _ rfl
      have low := nanos.le_toInt
      have high := nanos.toInt_lt
      simp only at value
      rw [Widenable, abs_le]
      constructor <;> omega
    · rintro (refused | small) tick decoded
      · exact absurd refused unpriced
      · cases decoded
        exact exact small

/-- The venue's timestamp reaches the tick without loss just when the frame
carries no price to publish or the nanoseconds fit into an `int64`; among such
frames a later timestamp never gives an earlier tick. -/
theorem timestamp_widened_exactly_iff (undefined : Undefined) :
    (∀ (entry : EntryPoint) (data : JsonObject) (id : InstrumentId) (recvTs : Nanos)
        (millis : Int),
      venueMillis data = some millis →
        (ExactlyStamped millis (entry.decode undefined data id recvTs) ↔
          ¬ Priced data entry.priceKey ∨ Widenable millis)) ∧
    (∀ (first second : EntryPoint) (data data' : JsonObject) (id id' : InstrumentId)
        (recvTs recvTs' : Nanos) (millis millis' : Int) (tick tick' : Tick),
      venueMillis data = some millis → venueMillis data' = some millis' →
      Widenable millis → Widenable millis' → millis ≤ millis' →
      first.decode undefined data id recvTs = some tick →
      second.decode undefined data' id' recvTs' = some tick' →
        tick.exchangeTs ≤ tick'.exchangeTs) := by
  refine ⟨fun entry data id recvTs millis stamped =>
    exactlyStamped_iff undefined stamped entry id recvTs, ?_⟩
  intro first second data data' id id' recvTs recvTs' millis millis' tick tick' stamped stamped'
    small small' later decoded decoded'
  have exact := (exactlyStamped_iff undefined stamped first id recvTs).mpr (.inr small) _ decoded
  have exact' :=
    (exactlyStamped_iff undefined stamped' second id' recvTs').mpr (.inr small') _ decoded'
  rw [Int64.le_iff_toInt_le, exact, exact']
  omega

/-- A compiler that wraps overflowing products, on a processor that answers a bad
cast with the least `int64`. -/
def wrapping : Undefined where
  overflow millis := millis * 1000000
  cast _ := Int64.minValue

/-- A frame with the given members of the ticker channel. -/
def tickerFrame (timestamp lastPrice : Json) : JsonObject :=
  [("timestamp".toList, timestamp), ("last_price".toList, lastPrice)]

/-- The largest `uint64` is cast to minus one millisecond. -/
theorem timestamp_not_widened_exactly :
    venueMillis (tickerFrame (.uint64 18446744073709551615) (.double (.finite 1))) =
        some 18446744073709551615 ∧
      ¬ ExactlyStamped 18446744073709551615
        (decodeTicker wrapping
          (tickerFrame (.uint64 18446744073709551615) (.double (.finite 1))) 7 0) := by
  refine ⟨rfl, fun exact => ?_⟩
  have value := exact ⟨7, -1000000, 0, .finite 1⟩ rfl
  exact absurd value (by decide)

theorem timestamp_widened_exactly_sample :
    ExactlyStamped 1700000000000
        (EntryPoint.decode wrapping .ticker
          (tickerFrame (.int64 1700000000000) (.double (.finite 1))) 7 0) ∧
      (1700000000000000000 : Nanos) ≤ 1700000000001000000 := by
  obtain ⟨exact, ordered⟩ := timestamp_widened_exactly_iff wrapping
  constructor
  · exact (exact .ticker _ 7 0 1700000000000 rfl).mpr (.inr (by decide))
  · exact ordered .ticker .ticker (tickerFrame (.int64 1700000000000) (.double (.finite 1)))
      (tickerFrame (.int64 1700000000001) (.double (.finite 1))) 7 7 0 0 1700000000000
      1700000000001 ⟨7, 1700000000000000000, 0, .finite 1⟩
      ⟨7, 1700000000001000000, 0, .finite 1⟩ rfl rfl (by decide) (by decide) (by decide) rfl rfl

/-! ## Accepted frames -/

/-- The codec accepts exactly the frames with a timestamp and a finite price, and
hands id and receive stamp through. -/
structure AcceptsUsable (data : JsonObject) (priceKey : Text) (id : InstrumentId)
    (recvTs : Nanos) (decoded : Option Tick) : Prop where
  accepted : decoded.isSome ↔ Numeric data "timestamp".toList ∧ FinitelyPriced data priceKey
  finite : ∀ tick, decoded = some tick → ∃ price, tick.price = .finite price
  unchanged : ∀ tick, decoded = some tick → tick.id = id ∧ tick.recvTs = recvTs

/-- Everything `decode_priced` can answer. -/
theorem decodePriced_cases (undefined : Undefined) (data : JsonObject) (priceKey : Text)
    (id : InstrumentId) (recvTs : Nanos) :
    (decodePriced undefined data priceKey id recvTs = none ∧
      ¬ (Numeric data "timestamp".toList ∧ Priced data priceKey)) ∨
    (Numeric data "timestamp".toList ∧ Priced data priceKey ∧
      ∃ exchangeTs, decodePriced undefined data priceKey id recvTs =
        some
          { id := id
            exchangeTs := exchangeTs
            recvTs := recvTs
            price := numberOrNan data priceKey }) := by
  cases read : timestampMs undefined data with
  | none =>
      have unstamped : ¬ Numeric data "timestamp".toList := by
        rw [← timestampMs_isSome undefined, read]
        simp
      exact .inl ⟨by unfold decodePriced; rw [read], fun both => unstamped both.1⟩
  | some nanos =>
      have stamped : Numeric data "timestamp".toList := by
        rw [← timestampMs_isSome undefined, read]
        rfl
      rw [decodePriced_of_timestamp read]
      by_cases unpriced : numberOrNan data priceKey = .nan
      · rw [if_pos unpriced]
        rw [numberOrNan_eq_nan] at unpriced
        exact .inl ⟨rfl, fun both => unpriced both.2⟩
      · rw [if_neg unpriced]
        rw [numberOrNan_eq_nan, not_not] at unpriced
        exact .inr ⟨stamped, unpriced, nanos, rfl⟩

/-- The codec keeps its contract just when the frame is not a timestamped one
whose price is an infinite `double`. -/
theorem accepts_usable_iff (undefined : Undefined) (entry : EntryPoint) (data : JsonObject)
    (id : InstrumentId) (recvTs : Nanos) :
    AcceptsUsable data entry.priceKey id recvTs (entry.decode undefined data id recvTs) ↔
      ¬ (Numeric data "timestamp".toList ∧ InfinitelyPriced data entry.priceKey) := by
  rw [entry.decode_eq]
  rcases decodePriced_cases undefined data entry.priceKey id recvTs with
    ⟨refused, unusable⟩ | ⟨stamped, priced, exchangeTs, decoded⟩
  · rw [refused]
    have noPrice {value} (stamped : Numeric data "timestamp".toList)
        (read : (Json.ifContains data entry.priceKey).bind Json.number? = some value)
        (usable : value ≠ .nan) : False :=
      unusable ⟨stamped, value, read, usable⟩
    refine iff_of_true ⟨?_, by simp, by simp⟩ ?_
    · refine iff_of_false (by simp) ?_
      rintro ⟨stamped, value, read⟩
      exact noPrice stamped read (by simp)
    · rintro ⟨stamped, negative, found⟩
      exact noPrice stamped (by rw [found]; rfl) (by simp)
  · rw [decoded]
    rcases numberOrNan_cases data entry.priceKey with
      ⟨rounded, read, finite⟩ | ⟨negative, read, infinite⟩ | ⟨-, unpriced⟩
    · refine iff_of_true ⟨iff_of_true rfl ⟨stamped, finite⟩, ?_, ?_⟩ ?_
      · rintro tick ⟨⟩
        exact ⟨rounded, read⟩
      · rintro tick ⟨⟩
        exact ⟨rfl, rfl⟩
      · rintro ⟨-, sign, found⟩
        obtain ⟨value, number⟩ := finite
        rw [found] at number
        cases number
    · refine iff_of_false ?_ (not_not.mpr ⟨stamped, infinite⟩)
      intro contract
      obtain ⟨price, finite⟩ := contract.finite _ rfl
      rw [read] at finite
      cases finite
    · exact absurd priced unpriced

/-- A price beyond the range of a `double` passes the NaN check. -/
theorem infinite_price_accepted :
    ¬ AcceptsUsable (tickerFrame (.int64 1) (.double (.infinite false))) "last_price".toList 7 0
        (decodeTicker wrapping (tickerFrame (.int64 1) (.double (.infinite false))) 7 0) := by
  intro contract
  obtain ⟨price, finite⟩ := contract.finite ⟨7, 1000000, 0, .infinite false⟩ rfl
  cases finite

/-! ## The two entry points -/

/-- Only the timestamp and the channel's own price member matter, and the name of
that member is all that tells the entry points apart. -/
theorem decodeTicker_eq_decodeIndex (undefined : Undefined) {ticker index : JsonObject}
    (sameTimestamp : Json.ifContains ticker "timestamp".toList =
      Json.ifContains index "timestamp".toList)
    (samePrice : Json.ifContains ticker "last_price".toList =
      Json.ifContains index "price".toList)
    (id : InstrumentId) (recvTs : Nanos) :
    decodeTicker undefined ticker id recvTs = decodeIndex undefined index id recvTs := by
  have sameStamp : timestampMs undefined ticker = timestampMs undefined index := by
    unfold timestampMs
    rw [sameTimestamp]
  have sameNumber : numberOrNan ticker "last_price".toList =
      numberOrNan index "price".toList := by
    unfold numberOrNan
    rw [samePrice]
  unfold decodeTicker decodeIndex decodePriced
  rw [sameStamp, sameNumber]

theorem decodeTicker_eq_decodeIndex_sample :
    decodeTicker wrapping
        (("price".toList, .null) :: tickerFrame (.int64 1) (.double (.finite 2))) 7 0 =
      decodeIndex wrapping
        [("price".toList, .double (.finite 2)), ("timestamp".toList, .int64 1),
          ("last_price".toList, .bool true)] 7 0 := by
  apply decodeTicker_eq_decodeIndex
  · rfl
  · rfl

end QuantGateway.MarketData
