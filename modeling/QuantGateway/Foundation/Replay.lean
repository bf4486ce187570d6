import QuantGateway.Foundation.Program

/-!
Owns programs that can be replayed: a run writes down what it did to a view of the
state, and wherever its log is known the program runs again, returns the same and
does what the log says. A journal whose logs change nothing where they hold makes
such a program idempotent.

Does not own what the entries of a log are, nor the state beside the view.
-/

namespace QuantGateway.Foundation

/-- What the entries of a log do to a view of the state. `Known` says that an entry
can be written again, `Holds` that the view shows all a log has written. -/
structure Journal (State View Entry : Type) where
  view : State → View
  rewrite : View → Entry → View
  Known : Entry → View → Prop
  Holds : List Entry → View → Prop
  known_rewrite : ∀ {entry other shown}, Known entry shown → Known entry (rewrite shown other)
  holds_nil : ∀ shown, Holds [] shown
  known_of_holds : ∀ {log shown entry}, Holds log shown → entry ∈ log → Known entry shown
  rewrite_of_holds : ∀ {log shown}, Holds log shown → log.foldl rewrite shown = shown

namespace Journal

variable {Failure State View Entry A B : Type} (journal : Journal State View Entry)

/-- Writing a log again keeps what is known. -/
theorem known_foldl {entry : Entry} (log : List Entry) {shown : View}
    (known : journal.Known entry shown) :
    journal.Known entry (log.foldl journal.rewrite shown) := by
  induction log generalizing shown with
  | nil => exact known
  | cons other rest inductionHypothesis =>
      exact inductionHypothesis (journal.known_rewrite known)

/-- A log of one run: it holds after the run, and replays the program. -/
structure Records (program : Program Failure State A) (value : A) (start last : State)
    (log : List Entry) : Prop where
  holds : ∀ past, journal.Holds past (journal.view start) →
    journal.Holds (past ++ log) (journal.view last)
  replays : ∀ state, (∀ entry ∈ log, journal.Known entry (journal.view state)) →
    ∃ after, program state = .ok value after ∧
      journal.view after = log.foldl journal.rewrite (journal.view state)

/-- Every successful run of the program has a log. -/
def Logged (program : Program Failure State A) : Prop :=
  ∀ start value last, program start = .ok value last →
    ∃ log, journal.Records program value start last log

variable {journal}

/-- A program that returns the same everywhere and leaves the view alone. -/
theorem Logged.of_view {program : Program Failure State A} {value : A}
    (runs : ∀ state, ∃ after, program state = .ok value after ∧
      journal.view after = journal.view state) : journal.Logged program := by
  intro start result last ran
  obtain ⟨after, succeeds, same⟩ := runs start
  rw [succeeds] at ran
  cases ran
  refine ⟨[], ?_, fun state _ => runs state⟩
  intro past holds
  rw [List.append_nil, same]
  exact holds

/-- The logs of the parts of a sequence follow each other. -/
theorem Logged.bind {first : Program Failure State A} {next : A → Program Failure State B}
    (loggedFirst : journal.Logged first) (loggedNext : ∀ value, journal.Logged (next value)) :
    journal.Logged (first >>= next) := by
  intro start result last ran
  obtain ⟨value, middle, firstRan, nextRan⟩ := Program.bind_ok ran
  obtain ⟨log, firstRecords⟩ := loggedFirst start value middle firstRan
  obtain ⟨rest, nextRecords⟩ := loggedNext value middle result last nextRan
  refine ⟨log ++ rest, ?_, ?_⟩
  · intro past holds
    rw [← List.append_assoc]
    exact nextRecords.holds _ (firstRecords.holds past holds)
  · intro state known
    obtain ⟨between, replayed, shown⟩ := firstRecords.replays state fun entry member =>
      known entry (List.mem_append_left _ member)
    have stillKnown : ∀ entry ∈ rest, journal.Known entry (journal.view between) := by
      intro entry member
      rw [shown]
      exact journal.known_foldl log (known entry (List.mem_append_right _ member))
    obtain ⟨after, finished, shownLast⟩ := nextRecords.replays between stillKnown
    refine ⟨after, ?_, ?_⟩
    · rw [Program.bind_of_ok replayed]
      exact finished
    · rw [shownLast, shown, List.foldl_append]

theorem logged_closed :
    Program.Closed fun _ (program : Program Failure State _) => journal.Logged program where
  pure value := .of_view fun state => ⟨state, rfl, rfl⟩
  throw failure start value last ran := by cases ran
  bind := Logged.bind

end Journal

end QuantGateway.Foundation
