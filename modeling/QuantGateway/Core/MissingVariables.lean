import QuantGateway.Core.PostgresHost

/-!
Owns the account `Config::from_env` gives of missing variables: the names it
collects, in which environments it reports them, and when the port suffix of
`POSTGRES_HOST` throws first.
-/

namespace QuantGateway.Core

open QuantGateway.Foundation

/-- The variables `from_env` requires, in the order it asks for them. -/
def requiredVariables : List Text :=
  ["CLIENT_ID".toList, "CLIENT_SECRET".toList, "POSTGRES_HOST".toList,
    "POSTGRES_DATABASE".toList, "POSTGRES_USER".toList, "POSTGRES_PASSWORD".toList]

/-- The variable is absent or empty. -/
def Missing (env : Environment) (name : Text) : Prop :=
  env name = none ∨ env name = some []

instance (env : Environment) (name : Text) : Decidable (Missing env name) :=
  inferInstanceAs (Decidable (_ ∨ _))

def missingNames (env : Environment) : List Text :=
  requiredVariables.filter fun name => Missing env name

/-- Every missing variable is named in one error, and none is called missing
that is not. -/
structure ReportsMissing (env : Environment) : Prop where
  named : missingNames env ≠ [] →
    Config.fromEnv env = .error (missingVariables (missingNames env))
  present : missingNames env = [] → ∀ names, Config.fromEnv env ≠ .error (missingVariables names)

/-! ## Collecting the names -/

theorem readEnv_eq_none_iff {env : Environment} {name : Text} :
    readEnv env name = none ↔ Missing env name := by
  unfold readEnv Missing
  cases env name with
  | none => simp
  | some value => cases value <;> simp

theorem exists_of_not_missing {env : Environment} {name : Text} (set : ¬ Missing env name) :
    ∃ value, env name = some value ∧ value ≠ [] := by
  unfold Missing at set
  cases held : env name with
  | none => exact absurd (.inl held) set
  | some value =>
      refine ⟨value, rfl, ?_⟩
      rintro rfl
      exact set (.inr held)

theorem require_eq (env : Environment) (name : Text) (missing : List Text) :
    require env name missing =
      ((readEnv env name).getD [], missing ++ [name].filter fun name => Missing env name) := by
  have absent : readEnv env name = none ↔ Missing env name := readEnv_eq_none_iff
  unfold require
  cases read : readEnv env name with
  | none => simp [absent.mp read]
  | some value =>
      have set : ¬ Missing env name := by
        intro missing
        rw [absent.mpr missing] at read
        cases read
      simp [set]

theorem missingNames_eq (env : Environment) :
    missingNames env =
      ((((([] ++ ["CLIENT_ID".toList].filter fun name => Missing env name) ++
        ["CLIENT_SECRET".toList].filter fun name => Missing env name) ++
        ["POSTGRES_HOST".toList].filter fun name => Missing env name) ++
        ["POSTGRES_DATABASE".toList].filter fun name => Missing env name) ++
        ["POSTGRES_USER".toList].filter fun name => Missing env name) ++
        ["POSTGRES_PASSWORD".toList].filter fun name => Missing env name := by
  simp only [List.nil_append, ← List.filter_append]
  rfl

/-! ## The throw in between -/

/-- A value of `POSTGRES_HOST` without a malformed port suffix. -/
def ReadableHost (hostSpec : Text) : Prop :=
  ∀ host port, hostSpec = host ++ ':' :: port → ':' ∉ host → PlainPort port

theorem parseHostSpec_cases (hostSpec : Text) :
    (ReadableHost hostSpec ∧ ∃ reading, parseHostSpec hostSpec = .ok reading) ∨
    (¬ ReadableHost hostSpec ∧ ∃ port, parseHostSpec hostSpec = .error (malformedPort port)) := by
  by_cases colon : ':' ∈ hostSpec
  · obtain ⟨host, port, rfl, absent⟩ := List.eq_append_cons_of_mem colon
    rcases @parseHostSpec_of_colon host port absent with
      ⟨plain, parsed, -, read⟩ | ⟨notPlain, read⟩
    · refine .inl ⟨fun other otherPort same otherAbsent => ?_, _, read⟩
      obtain ⟨-, rfl⟩ := append_cons_inj absent otherAbsent same
      exact plain
    · exact .inr ⟨fun readable => notPlain (readable host port rfl absent), port, read⟩
  · refine .inl ⟨fun host port same _ => ?_, _, parseHostSpec_of_no_colon colon⟩
    exact absurd (by simp [same]) colon

/-- The port suffix is looked at before the collected names are. -/
theorem fromEnv_cases (env : Environment) :
    (¬ ReadableHost ((readEnv env "POSTGRES_HOST".toList).getD []) ∧
      ∃ port, Config.fromEnv env = .error (malformedPort port)) ∨
    (ReadableHost ((readEnv env "POSTGRES_HOST".toList).getD []) ∧ missingNames env ≠ [] ∧
      Config.fromEnv env = .error (missingVariables (missingNames env))) ∨
    (ReadableHost ((readEnv env "POSTGRES_HOST".toList).getD []) ∧ missingNames env = [] ∧
      ∃ config, Config.fromEnv env = .ok config) := by
  unfold Config.fromEnv
  simp only [require_eq, ← missingNames_eq]
  rcases parseHostSpec_cases ((readEnv env "POSTGRES_HOST".toList).getD []) with
    ⟨readable, reading, read⟩ | ⟨malformed, port, read⟩
  · right
    simp only [read]
    by_cases present : missingNames env = []
    · rw [if_neg (not_not.mpr present)]
      exact .inr ⟨readable, present, _, rfl⟩
    · rw [if_pos present]
      exact .inl ⟨readable, present, rfl⟩
  · left
    simp only [read]
    exact ⟨malformed, port, rfl⟩

/-- The two errors begin with different letters. -/
theorem malformedPort_ne_missingVariables (port : Text) (names : List Text) :
    malformedPort port ≠ missingVariables names := by
  intro same
  have heads := congrArg List.head? same
  unfold malformedPort missingVariables at heads
  rw [List.head?_append, List.head?_append] at heads
  have letters : some 'P' = some 'm' := heads
  exact absurd letters (by decide)

/-- The missing variables are reported exactly when there are none, or
`POSTGRES_HOST` has no malformed port suffix. -/
theorem reportsMissing_iff (env : Environment) :
    ReportsMissing env ↔
      missingNames env = [] ∨
        ∀ host port, env "POSTGRES_HOST".toList = some (host ++ ':' :: port) → ':' ∉ host →
          PlainPort port := by
  have readable : ReadableHost ((readEnv env "POSTGRES_HOST".toList).getD []) ↔
      ∀ host port, env "POSTGRES_HOST".toList = some (host ++ ':' :: port) → ':' ∉ host →
        PlainPort port := by
    unfold ReadableHost readEnv
    cases env "POSTGRES_HOST".toList with
    | none => simp
    | some value => cases value <;> simp
  rw [← readable]
  rcases fromEnv_cases env with
    ⟨malformed, port, thrown⟩ | ⟨readable, missing, thrown⟩ | ⟨readable, present, config, made⟩
  · have neverMissing (names : List Text) :
        Config.fromEnv env ≠ .error (missingVariables names) := by
      rw [thrown]
      intro same
      exact malformedPort_ne_missingVariables port names (Except.error.inj same)
    constructor
    · intro reports
      left
      by_contra missing
      exact neverMissing _ (reports.named missing)
    · rintro (present | readable)
      · exact ⟨fun missing => absurd present missing, fun _ => neverMissing⟩
      · exact absurd readable malformed
  · exact iff_of_true ⟨fun _ => thrown, fun present => absurd present missing⟩ (.inr readable)
  · refine iff_of_true ⟨fun missing => absurd present missing, fun _ names => ?_⟩ (.inl present)
    rw [made]
    exact fun same => by cases same

/-- Only `POSTGRES_HOST` is set, with a port that is no number. -/
theorem malformed_port_hides_missing :
    ¬ ReportsMissing fun name =>
      if name = "POSTGRES_HOST".toList then some "localhost:x".toList else none := by
  intro reports
  exact absurd (reports.named (by decide)) (by decide)

end QuantGateway.Core
