import Closeness.Proofs.Validity

/-!
# What a session remembers

One command changes at most one slot: the slot that it builds a policy for.
Questions change none, whether they are answered or refused, and that includes
attempts to assign or delete a field.  By induction on the commands, a slot
holds a policy exactly if the last recipe for the slot built it, and then it
is that policy still.  As recipes build policies in range only, every policy
of a session is in range at all times.
-/

namespace Closeness

namespace Logged

variable {α β : Type}

@[simp]
theorem outcome_map
    (f : α → β)
    (logged : Logged α) :
    (f <$> logged).outcome = logged.outcome.map f := by
  show (logged >>= fun value => pure (f value)).outcome = _
  cases outcome : logged.outcome with
  | error fault => rw [bind_of_error outcome]; rfl
  | ok value => rw [bind_of_ok outcome]; rfl

end Logged

namespace Session

variable (session : Session)

/-- A question does not change a session. -/
@[simp]
theorem step_ask
    (slot : String)
    (question : Question) :
    (session.step (.ask slot question)).1 = session := by
  rw [step]
  split <;> rfl

/-- After its command for a recipe, a slot holds what the recipe built, if anything. -/
theorem get?_step_build
    (slot : String)
    (recipe : Recipe) :
    (session.step (.build slot recipe)).1.get? slot = recipe.build.outcome.toOption := by
  rw [step]
  cases built : recipe.build.outcome with
  | ok policy => simp [Except.toOption]
  | error fault => simp [Except.toOption]

/-- A command leaves alone the slots that it does not build for. -/
theorem get?_step_of_ne
    {slot : String}
    {command : Command}
    (elsewhere : ∀ recipe, command ≠ .build slot recipe) :
    (session.step command).1.get? slot = session.get? slot := by
  cases command with
  | ask other question => rw [step_ask]
  | build other recipe =>
    have different : slot ≠ other := by
      rintro rfl
      exact elsewhere recipe rfl
    rw [step]
    cases recipe.build.outcome with
    | ok policy => exact session.get?_insert_of_ne policy different
    | error fault => exact session.get?_erase_of_ne different

/-- The answer to a command for a recipe is a fault exactly if the recipe built nothing. -/
theorem outcome_step_build
    (slot : String)
    (recipe : Recipe) :
    (session.step (.build slot recipe)).2.outcome = recipe.build.outcome.map .policy := by
  rw [step]
  split <;> rw [Logged.outcome_map]

/-- A slot is left alone by commands none of which builds for it. -/
theorem get?_run_of_forall_ne
    {slot : String}
    {commands : List Command}
    (elsewhere : ∀ recipe, .build slot recipe ∉ commands) :
    (session.run commands).1.get? slot = session.get? slot := by
  induction commands generalizing session with
  | nil => rfl
  | cons command rest ih =>
    have first : ∀ recipe, command ≠ .build slot recipe := by
      rintro recipe rfl
      exact elsewhere recipe List.mem_cons_self
    have others : ∀ recipe, .build slot recipe ∉ rest := by
      intro recipe member
      exact elsewhere recipe (List.mem_cons_of_mem command member)
    rw [← session.get?_step_of_ne first]
    exact ih (session.step command).1 others

theorem run_cons
    (command : Command)
    (rest : List Command) :
    (session.run (command :: rest)).1 = ((session.step command).1.run rest).1 :=
  rfl

theorem run_append
    (earlier later : List Command) :
    (session.run (earlier ++ later)).1 = ((session.run earlier).1.run later).1 := by
  induction earlier generalizing session with
  | nil => rfl
  | cons command rest ih => exact ih (session.step command).1

/--
Where the policy of a slot comes from: it was there before the commands, and
none of them builds for the slot, or the last one that does has built it.
-/
theorem get?_run_cases
    {slot : String}
    {policy : Policy}
    {commands : List Command}
    (held : (session.run commands).1.get? slot = some policy) :
    (session.get? slot = some policy ∧ ∀ recipe, .build slot recipe ∉ commands) ∨
      ∃ earlier recipe later,
        commands = earlier ++ .build slot recipe :: later ∧
          recipe.build.outcome = .ok policy ∧
          ∀ other, .build slot other ∉ later := by
  induction commands generalizing session with
  | nil => exact Or.inl ⟨held, fun recipe => List.not_mem_nil⟩
  | cons command rest ih =>
    rcases ih (session.step command).1 held with
      ⟨kept, untouched⟩ | ⟨earlier, recipe, later, rfl, built, untouched⟩
    · by_cases forSlot : ∃ recipe, command = .build slot recipe
      · obtain ⟨recipe, rfl⟩ := forSlot
        rw [get?_step_build] at kept
        have built : recipe.build.outcome = .ok policy := by
          cases outcome : recipe.build.outcome with
          | error fault => simp [outcome, Except.toOption] at kept
          | ok other => simpa [outcome, Except.toOption] using kept
        exact Or.inr ⟨[], recipe, rest, rfl, built, untouched⟩
      · have elsewhere : ∀ recipe, command ≠ .build slot recipe := by
          simpa using forSlot
        rw [session.get?_step_of_ne elsewhere] at kept
        refine Or.inl ⟨kept, ?_⟩
        intro recipe member
        rcases List.mem_cons.mp member with same | member
        · exact elsewhere recipe same.symm
        · exact untouched recipe member
    · exact Or.inr ⟨command :: earlier, recipe, later, rfl, built, untouched⟩

/-- After any commands a slot holds exactly the policy that its last recipe built. -/
theorem get?_run_empty_iff
    {slot : String}
    {policy : Policy}
    {commands : List Command} :
    (empty.run commands).1.get? slot = some policy ↔
      ∃ earlier recipe later,
        commands = earlier ++ .build slot recipe :: later ∧
          recipe.build.outcome = .ok policy ∧
          ∀ other, .build slot other ∉ later := by
  constructor
  · intro held
    rcases empty.get?_run_cases held with ⟨held, -⟩ | built
    · rw [get?_empty] at held
      cases held
    · exact built
  · rintro ⟨earlier, recipe, later, rfl, built, untouched⟩
    rw [run_append, run_cons, get?_run_of_forall_ne _ untouched, get?_step_build, built]
    rfl

/--
After any commands, the policy of a slot is in range, and it is bit for bit
the one that the last recipe for the slot built.  A further command that is
refused empties the slot it was to build for and leaves all other slots as
they are, and a question leaves the whole session as it is.
-/
theorem policies_kept_by_run
    (commands : List Command) :
    (∀ slot policy,
      (empty.run commands).1.get? slot = some policy →
        policy.tolerance.InRange) ∧
      (∀ slot policy,
        (empty.run commands).1.get? slot = some policy ↔
          ∃ earlier recipe later,
            commands = earlier ++ .build slot recipe :: later ∧
              recipe.build.outcome = .ok policy ∧
              ∀ other, .build slot other ∉ later) ∧
      (∀ command fault,
        ((empty.run commands).1.step command).2.outcome = .error fault →
          ∀ slot,
            (∀ recipe, command = .build slot recipe →
              ((empty.run commands).1.step command).1.get? slot = none) ∧
            ((∀ recipe, command ≠ .build slot recipe) →
              ((empty.run commands).1.step command).1.get? slot =
                (empty.run commands).1.get? slot)) ∧
      ∀ slot question,
        ((empty.run commands).1.step (.ask slot question)).1 = (empty.run commands).1 := by
  refine ⟨?_, fun _ _ => get?_run_empty_iff, ?_, fun _ _ => step_ask _ _ _⟩
  · intro slot policy held
    obtain ⟨_, recipe, _, -, built, -⟩ := get?_run_empty_iff.mp held
    exact Tolerance.valid_iff_inRange.mp (Recipe.valid_of_build built)
  · intro command fault refused slot
    refine ⟨?_, get?_step_of_ne _⟩
    rintro recipe rfl
    rw [outcome_step_build] at refused
    rw [get?_step_build]
    cases outcome : recipe.build.outcome with
    | error fault => rfl
    | ok policy =>
      rw [outcome] at refused
      cases refused

/-- A policy stays as it is while a field is assigned and another policy is refused. -/
theorem policies_kept_by_run_of_refusal :
    ∃ session,
      session =
          (empty.run
            [.build "p" (.ulps (.leaf (.double (.zero true))) (.leaf (.integer 3)) (.given .single)),
              .ask "p" (.assign "ulps")]).1 ∧
        session.get? "p" = some ⟨.zero true, .ulps 3 .single⟩ ∧
        (session.step
            (.build "q" (.absolute (.leaf (.double (.zero true)))
              (.leaf (.double (.least true)))))).2.outcome =
          .error (.rejected (.negativeMargin (.least true))) ∧
        (session.step
            (.build "q" (.absolute (.leaf (.double (.zero true)))
              (.leaf (.double (.least true)))))).1.get? "p" =
          session.get? "p" := by
  refine ⟨_, rfl, ?_⟩
  obtain ⟨-, kept, refusal, -⟩ :=
    policies_kept_by_run
      [.build "p" (.ulps (.leaf (.double (.zero true))) (.leaf (.integer 3)) (.given .single)),
        .ask "p" (.assign "ulps")]
  refine ⟨(kept _ _).mpr ⟨[], _, _, rfl, rfl, by simp⟩, rfl, ?_⟩
  exact (refusal _ _ rfl "p").2 (by simp)

end Session

end Closeness
