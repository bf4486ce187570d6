import QuantGateway.Core.MissingVariables
import QuantGateway.Foundation.Redaction

/-!
Owns the list of secret variables and what `Config::from_env` lets them decide: two
members of the configuration, and nothing of an error.

Does not own what is logged of a configuration.
-/

namespace QuantGateway.Core

open QuantGateway.Foundation

/-- `kSecretVariables`. -/
def secretVariables : List Text :=
  ["CLIENT_SECRET".toList, "POSTGRES_PASSWORD".toList]

def isSecretVariable (name : Text) : Bool :=
  secretVariables.any fun secret => name == secret

/-- Every secret variable is present and not empty. -/
def SecretsSet (env : Environment) : Prop :=
  ∀ name ∈ secretVariables, ¬ Missing env name

instance (env : Environment) : Decidable (SecretsSet env) :=
  inferInstanceAs (Decidable (∀ name ∈ secretVariables, ¬ Missing env name))

/-- The configuration with the secrets of an environment. -/
def fillSecrets (env : Environment) (config : Config) : Config :=
  { config with
    clientSecret := (readEnv env "CLIENT_SECRET".toList).getD []
    pgPassword := (readEnv env "POSTGRES_PASSWORD".toList).getD [] }

/-- The environment with every secret replaced by the same text. -/
def withoutSecrets (env : Environment) : Environment :=
  redact isSecretVariable (some "***".toList) env

/-! ## What a read sees of the secrets -/

theorem readEnv_withoutSecrets (env : Environment) {name : Text}
    (isPublic : isSecretVariable name = false) :
    readEnv (withoutSecrets env) name = readEnv env name := by
  unfold readEnv withoutSecrets
  rw [redact_of_visible isPublic]

theorem require_withoutSecrets (env : Environment) {name : Text}
    (isPublic : isSecretVariable name = false) (missing : List Text) :
    require (withoutSecrets env) name missing = require env name missing := by
  unfold require
  rw [readEnv_withoutSecrets env isPublic]

theorem readEnvOr_withoutSecrets (env : Environment) {name : Text}
    (isPublic : isSecretVariable name = false) (fallback : Text) :
    readEnvOr (withoutSecrets env) name fallback = readEnvOr env name fallback := by
  unfold readEnvOr
  rw [readEnv_withoutSecrets env isPublic]

/-! ## The outcome without the secrets -/

/-- With the secrets set, `from_env` decides everything without them and puts
them into the configuration afterwards. -/
theorem fromEnv_withoutSecrets {env : Environment} (set : SecretsSet env) :
    Config.fromEnv env = (Config.fromEnv (withoutSecrets env)).map (fillSecrets env) := by
  obtain ⟨secret, hasSecret, secretNonempty⟩ :=
    exists_of_not_missing (set "CLIENT_SECRET".toList (by simp [secretVariables]))
  obtain ⟨password, hasPassword, passwordNonempty⟩ :=
    exists_of_not_missing (set "POSTGRES_PASSWORD".toList (by simp [secretVariables]))
  have blanked (name : Text) (isSecret : isSecretVariable name = true) (missing : List Text) :
      require (withoutSecrets env) name missing = ("***".toList, missing) :=
    require_of_some (redact_of_hidden isSecret) (by decide) missing
  unfold Config.fromEnv
  simp only [require_of_some hasSecret secretNonempty, require_of_some hasPassword passwordNonempty,
    blanked "CLIENT_SECRET".toList (by decide), blanked "POSTGRES_PASSWORD".toList (by decide)]
  simp (disch := decide) only [require_withoutSecrets, readEnvOr_withoutSecrets]
  -- both runs now read the same names, so they branch alike
  cases parseHostSpec (require env "POSTGRES_HOST".toList
      (require env "CLIENT_ID".toList []).2).1 with
  | error what => rfl
  | ok host =>
      simp only
      split
      next => rfl
      next =>
        simp only [Except.map, fillSecrets, readEnv_of_some hasSecret secretNonempty,
          readEnv_of_some hasPassword passwordNonempty, Option.getD_some]

/-! ## Two environments with different secrets -/

/-- Environments that differ only in set secrets are told apart by no error and by
no member of the configuration but the two secrets themselves. -/
theorem fromEnv_hides_secrets {first second : Environment}
    (agree : AgreeOutside isSecretVariable first second) (firstSet : SecretsSet first)
    (secondSet : SecretsSet second) :
    (∀ what, Config.fromEnv first = .error what ↔ Config.fromEnv second = .error what) ∧
    ((∃ config, Config.fromEnv first = .ok config) ↔
      ∃ config, Config.fromEnv second = .ok config) ∧
    ∀ config other, Config.fromEnv first = .ok config → Config.fromEnv second = .ok other →
      other =
        { config with
          clientSecret := other.clientSecret
          pgPassword := other.pgPassword } := by
  obtain ⟨common, firstRun, secondRun⟩ :=
    exists_common_outcome Config.fromEnv fillSecrets (fun _ => fromEnv_withoutSecrets) agree
      firstSet secondSet
  rw [firstRun, secondRun]
  cases common with
  | error what => simp [Except.map]
  | ok config =>
      refine ⟨by simp [Except.map], by simp [Except.map], ?_⟩
      rintro _ _ ⟨rfl⟩ ⟨rfl⟩
      rfl

/-- An environment without a port suffix and with the given secrets. -/
def sampleEnvironment (secret password : Text) : Environment := fun name =>
  if name = "CLIENT_SECRET".toList then some secret
  else if name = "POSTGRES_PASSWORD".toList then some password
  else if requiredVariables.contains name then some "local".toList
  else none

/-- Two pairs of secrets give one configuration but for these. -/
theorem fromEnv_hides_sample_secrets :
    Config.fromEnv (sampleEnvironment "a".toList "b".toList) ≠
      Config.fromEnv (sampleEnvironment "c".toList "d".toList) ∧
    ∀ config other,
      Config.fromEnv (sampleEnvironment "a".toList "b".toList) = .ok config →
      Config.fromEnv (sampleEnvironment "c".toList "d".toList) = .ok other →
      other =
        { config with
          clientSecret := other.clientSecret
          pgPassword := other.pgPassword } := by
  refine ⟨by decide +kernel, (fromEnv_hides_secrets ?_ (by decide) (by decide)).2.2⟩
  intro name isPublic
  have other : name ≠ "CLIENT_SECRET".toList ∧ name ≠ "POSTGRES_PASSWORD".toList := by
    simpa [isSecretVariable, secretVariables] using isPublic
  unfold sampleEnvironment
  rw [if_neg other.1, if_neg other.2, if_neg other.1, if_neg other.2]

end QuantGateway.Core
