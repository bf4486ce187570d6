import QuantGateway.Foundation.Program

/-!
Owns the refinement of a program over a state by a list of updates of an abstract
view of it: whether the program fails, how, and which updates it makes are chosen
without looking at the state.

Does not own what a state shows after a failure; the caller rolls it back.
-/

namespace QuantGateway.Foundation

namespace Program

variable {Failure State View Update A B : Type} {shows : State → View → Prop}
  {apply : View → Update → View}

/-- From every state that shows a view the program fails as the choice of updates
does, or succeeds and shows the updated view. -/
def Performs (shows : State → View → Prop) (apply : View → Update → View)
    (program : Program Failure State A) (updates : Except Failure (List Update)) : Prop :=
  ∀ state view, shows state view →
    match updates with
    | .error failure => ∃ last, program state = .error failure last
    | .ok log => ∃ value last, program state = .ok value last ∧ shows last (log.foldl apply view)

theorem Performs.pure (value : A) :
    Performs shows apply (Pure.pure value : Program Failure State A) (.ok []) :=
  fun state _ shown => ⟨value, state, rfl, shown⟩

theorem Performs.throw (failure : Failure) :
    Performs shows apply (MonadExcept.throw failure : Program Failure State A)
      (.error failure) :=
  fun state _ _ => ⟨state, rfl⟩

/-- What a pure computation finds may choose the updates. -/
theorem Performs.ofExcept_bind {outcome : Except Failure A} {next : A → Program Failure State B}
    {updates : A → Except Failure (List Update)}
    (performs : ∀ value, Performs shows apply (next value) (updates value)) :
    Performs shows apply (ofExcept outcome >>= next) (outcome >>= updates) := by
  cases outcome with
  | ok value => exact performs value
  | error failure => exact .throw failure

/-- The updates of a sequence follow each other. -/
theorem Performs.bind {first : Program Failure State A} {next : A → Program Failure State B}
    {updates more : Except Failure (List Update)}
    (performsFirst : Performs shows apply first updates)
    (performsNext : ∀ value, Performs shows apply (next value) more) :
    Performs shows apply (first >>= next)
      (updates >>= fun done => more >>= fun rest => .ok (done ++ rest)) := by
  intro state view shown
  have here := performsFirst state view shown
  cases updates with
  | error failure =>
      obtain ⟨last, failed⟩ := here
      exact ⟨last, bind_of_error failed⟩
  | ok done =>
      obtain ⟨value, middle, ran, shownMiddle⟩ := here
      have there := performsNext value middle _ shownMiddle
      rw [bind_of_ok ran]
      cases more with
      | error failure => exact there
      | ok rest =>
          obtain ⟨result, last, finished, shownLast⟩ := there
          refine ⟨result, last, finished, ?_⟩
          rw [List.foldl_append]
          exact shownLast

/-- A loop with one update for each item. -/
theorem Performs.each {body : A → Program Failure State B} {update : A → Except Failure Update}
    (performs : ∀ item,
      Performs shows apply (body item) (update item >>= fun chosen => .ok [chosen]))
    (items : List A) : Performs shows apply (each body items) (items.mapM update) := by
  induction items with
  | nil => exact .pure []
  | cons item rest inductionHypothesis =>
      have sequence := (performs item).bind fun value =>
        inductionHypothesis.bind fun values => Performs.pure (value :: values)
      have same : (update item >>= fun chosen => .ok [chosen]) >>= (fun done =>
            (rest.mapM update >>= fun more => Except.ok [] >>= fun none => .ok (more ++ none)) >>=
              fun more => .ok (done ++ more)) =
          (item :: rest).mapM update := by
        rw [List.mapM_cons]
        cases update item with
        | error failure => rfl
        | ok chosen =>
            cases rest.mapM update with
            | error failure => rfl
            | ok more => simp [Bind.bind, Except.bind, Pure.pure, Except.pure]
      rw [← same]
      exact sequence

end Program

end QuantGateway.Foundation
