import QuantGateway.Core.Settings
import QuantGateway.Foundation.Conninfo

/-!
Owns `postgres_conninfo` of both components and when libpq reads the configuration
back from it.
-/

namespace QuantGateway.Core

open QuantGateway.Foundation
open QuantGateway.Foundation.CharConv
open QuantGateway.Foundation.Conninfo

/-- The text both `postgres_conninfo` format. -/
def conninfoText (host port database user password : Text) : Text :=
  "host=".toList ++ host ++ " port=".toList ++ port ++ " dbname=".toList ++ database ++
    " user=".toList ++ user ++ " password=".toList ++ password

def Config.postgresConninfo (config : Config) : Text :=
  conninfoText config.pgHost (Nat.toDigits 10 config.pgPort.toNat) config.pgDatabase config.pgUser
    config.pgPassword

/-- `str` of a Python `int`. -/
def intText (value : Int) : Text :=
  if value < 0 then '-' :: Nat.toDigits 10 value.natAbs else Nat.toDigits 10 value.natAbs

def Settings.postgresConninfo (settings : Settings) : Text :=
  conninfoText settings.postgresHost (intText settings.postgresPort) settings.postgresDatabase
    settings.postgresUser settings.postgresPassword

/-- What libpq is meant to read. -/
def postgresSettings (host port database user password : Text) : List Setting :=
  [("host".toList, host), ("port".toList, port), ("dbname".toList, database),
    ("user".toList, user), ("password".toList, password)]

def Config.postgresSettings (config : Config) : List Setting :=
  Core.postgresSettings config.pgHost (Nat.toDigits 10 config.pgPort.toNat) config.pgDatabase
    config.pgUser config.pgPassword

def Settings.postgresSettings (settings : Settings) : List Setting :=
  Core.postgresSettings settings.postgresHost (intText settings.postgresPort)
    settings.postgresDatabase settings.postgresUser settings.postgresPassword

/-- The value stands for itself in a connection string without quotes. -/
def NeedsNoQuotes (value : Text) : Prop :=
  value ≠ [] ∧ Bare value

section Text

variable (host port database user password : Text)

theorem conninfoText_eq :
    conninfoText host port database user password =
      renderAll (postgresSettings host port database user password) := by
  unfold conninfoText postgresSettings
  rw [renderAll_cons_cons, renderAll_cons_cons, renderAll_cons_cons, renderAll_cons_cons,
    renderAll, List.map_singleton, List.intercalate_singleton]
  simp only [render, List.append_assoc, List.cons_append]
  rfl

theorem postgresSettings_wellNamed :
    WellNamed (postgresSettings host port database user password) := by
  have keywords : ∀ setting ∈ postgresSettings host port database user password,
      setting.1 = "host".toList ∨ setting.1 = "port".toList ∨ setting.1 = "dbname".toList ∨
        setting.1 = "user".toList ∨ setting.1 = "password".toList := by
    simp [postgresSettings]
  constructor
  · simp [postgresSettings]
  · intro setting member
    rcases keywords setting member with same | same | same | same | same <;> rw [same] <;> decide
  · intro setting member
    rcases keywords setting member with same | same | same | same | same <;> rw [same] <;> decide
  · intro setting member
    apply noBlank_of_all
    rcases keywords setting member with same | same | same | same | same <;> rw [same] <;> decide

/-- The settings are read back just when no value needs quotes; an empty password
ends the text and needs none. -/
theorem conninfoText_decodes_iff :
    Decodes (conninfoText host port database user password)
        (postgresSettings host port database user password) ↔
      NeedsNoQuotes host ∧ NeedsNoQuotes port ∧ NeedsNoQuotes database ∧ NeedsNoQuotes user ∧
        Bare password := by
  have someSetting : postgresSettings host port database user password ≠ [] :=
    List.cons_ne_nil _ _
  rw [conninfoText_eq, decodes_renderAll_iff someSetting (postgresSettings_wellNamed ..)]
  unfold NeedsNoQuotes
  constructor
  · rintro ⟨bare, nonempty⟩
    simp only [postgresSettings, List.forall_mem_cons, List.dropLast] at bare nonempty
    obtain ⟨hostBare, portBare, databaseBare, userBare, passwordBare, -⟩ := bare
    obtain ⟨someHost, somePort, someDatabase, someUser, -⟩ := nonempty
    exact ⟨⟨someHost, hostBare⟩, ⟨somePort, portBare⟩, ⟨someDatabase, databaseBare⟩,
      ⟨someUser, userBare⟩, passwordBare⟩
  · rintro ⟨⟨someHost, hostBare⟩, ⟨somePort, portBare⟩, ⟨someDatabase, databaseBare⟩,
      ⟨someUser, userBare⟩, passwordBare⟩
    constructor
    · simpa [postgresSettings] using ⟨hostBare, portBare, databaseBare, userBare, passwordBare⟩
    · simpa [postgresSettings] using ⟨someHost, somePort, someDatabase, someUser⟩

end Text

/-! ## Port numbers -/

/-- A number never needs quotes. -/
theorem needsNoQuotes_of_digits {text : Text} (nonempty : text ≠ [])
    (numeral : ∀ letter ∈ text, letter = '-' ∨ letter.isDigit = true) : NeedsNoQuotes text := by
  refine ⟨nonempty, ?_, ?_, ?_⟩
  · intro letter member
    rcases numeral letter member with rfl | digit
    · rfl
    · exact isBlank_of_isDigit digit
  · intro escape
    exact absurd (numeral '\\' escape) (by decide)
  · intro quote
    exact absurd (numeral '\'' (List.mem_of_mem_head? quote)) (by decide)

theorem toDigits_needsNoQuotes (value : Nat) : NeedsNoQuotes (Nat.toDigits 10 value) :=
  needsNoQuotes_of_digits Nat.toDigits_ne_nil
    fun letter member => .inr (toDigits_isDigit value letter member)

theorem intText_needsNoQuotes (value : Int) : NeedsNoQuotes (intText value) := by
  unfold intText
  by_cases negative : value < 0
  · rw [if_pos negative]
    refine needsNoQuotes_of_digits (List.cons_ne_nil _ _) ?_
    intro letter member
    rcases List.mem_cons.mp member with rfl | inDigits
    · exact .inl rfl
    · exact .inr (toDigits_isDigit _ letter inDigits)
  · rw [if_neg negative]
    exact toDigits_needsNoQuotes _

/-! ## Configurations -/

/-- The gateway starts with a database, a user and a password. -/
theorem fromEnv_nonempty {env : Environment} {config : Config}
    (ran : Config.fromEnv env = .ok config) :
    config.pgDatabase ≠ [] ∧ config.pgUser ≠ [] ∧ config.pgPassword ≠ [] := by
  unfold Config.fromEnv at ran
  dsimp only at ran
  split at ran
  next => cases ran
  next =>
    split at ran
    next => cases ran
    next complete =>
      rw [ne_eq, not_not] at complete
      obtain ⟨complete, password⟩ := require_missing complete
      obtain ⟨complete, user⟩ := require_missing complete
      obtain ⟨complete, database⟩ := require_missing complete
      cases ran
      exact ⟨database, user, password⟩

/-- libpq reads back the configuration of the gateway, and that of the ingest, just
when host, database, user and password need no quotes; the ingest may have an empty
password. -/
theorem postgresConninfo_decodes_iff {env : Environment} {config : Config}
    (ran : Config.fromEnv env = .ok config) (settings : Settings) :
    (Decodes config.postgresConninfo config.postgresSettings ↔
      NeedsNoQuotes config.pgHost ∧ NeedsNoQuotes config.pgDatabase ∧
        NeedsNoQuotes config.pgUser ∧ NeedsNoQuotes config.pgPassword) ∧
    (Decodes settings.postgresConninfo settings.postgresSettings ↔
      NeedsNoQuotes settings.postgresHost ∧ NeedsNoQuotes settings.postgresDatabase ∧
        NeedsNoQuotes settings.postgresUser ∧ Bare settings.postgresPassword) := by
  constructor
  · obtain ⟨-, -, password⟩ := fromEnv_nonempty ran
    have port := toDigits_needsNoQuotes config.pgPort.toNat
    unfold Config.postgresConninfo Config.postgresSettings
    rw [conninfoText_decodes_iff]
    constructor
    · rintro ⟨host, -, database, user, passwordBare⟩
      exact ⟨host, database, user, password, passwordBare⟩
    · rintro ⟨host, database, user, -, passwordBare⟩
      exact ⟨host, port, database, user, passwordBare⟩
  · have port := intText_needsNoQuotes settings.postgresPort
    unfold Settings.postgresConninfo Settings.postgresSettings
    rw [conninfoText_decodes_iff]
    constructor
    · rintro ⟨host, -, database, user, password⟩
      exact ⟨host, database, user, password⟩
    · rintro ⟨host, database, user, password⟩
      exact ⟨host, port, database, user, password⟩

/-- An environment with the given password. -/
def passwordEnvironment (password : Text) : Environment := fun name =>
  if name = "POSTGRES_PASSWORD".toList then some password else some "deribit".toList

/-- What the gateway reads in that environment. -/
def passwordConfig (password : Text) : Config where
  wsHost := "deribit".toList
  wsPort := "deribit".toList
  clientId := "deribit".toList
  clientSecret := "deribit".toList
  tickerInterval := "deribit".toList
  pgHost := "deribit".toList
  pgDatabase := "deribit".toList
  pgUser := "deribit".toList
  pgPassword := password
  logLevel := "deribit".toList

/-- A password of two words makes a connection string that libpq rejects. -/
theorem two_word_password_not_decoded :
    Config.fromEnv (passwordEnvironment "two words".toList) =
        .ok (passwordConfig "two words".toList) ∧
      ¬ Decodes (passwordConfig "two words".toList).postgresConninfo
        (passwordConfig "two words".toList).postgresSettings := by
  refine ⟨by decide +kernel, ?_⟩
  rintro ⟨settings, ran, -⟩
  have rejected : read (passwordConfig "two words".toList).postgresConninfo = none := by
    decide +kernel
  rw [rejected] at ran
  cases ran

theorem one_word_password_decoded :
    Decodes (passwordConfig "secret".toList).postgresConninfo
      (passwordConfig "secret".toList).postgresSettings := by
  have started : Config.fromEnv (passwordEnvironment "secret".toList) =
      .ok (passwordConfig "secret".toList) := by
    decide +kernel
  have word : NeedsNoQuotes "deribit".toList :=
    ⟨by decide, noBlank_of_all (by decide), by decide, by decide⟩
  have password : NeedsNoQuotes "secret".toList :=
    ⟨by decide, noBlank_of_all (by decide), by decide, by decide⟩
  have settings : Settings :=
    ⟨"deribit".toList, 5432, "deribit".toList, "deribit".toList, "secret".toList, []⟩
  exact (postgresConninfo_decodes_iff started settings).1.mpr ⟨word, word, word, password⟩

end QuantGateway.Core
