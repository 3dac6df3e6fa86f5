import VersionGate.Session
import VersionGate.Proofs.Checking

/-! Sessions in which checkers are used. A use leaves nothing behind but what it puts into the
variable, so among other uses its reply is the one that it gets alone: a bound checker does not see
the variable, and an unbound one sees what the variable holds at that moment. -/
namespace VersionGate

namespace Run
variable {α β : Type}

/-- What the run gives has the property, if it gives anything. -/
def Gives (p : α → Prop) (run : Run α) : Prop := ∀ a, run.outcome = .ok a → p a

namespace Gives
variable {p : α → Prop}

theorem pure {a : α} (holds : p a) : Gives p (Pure.pure a : Run α) := by
  intro b same
  exact Except.ok.inj same ▸ holds

theorem bind {run : Run β} {next : β → Run α} (rest : ∀ b, (next b).Gives p) :
    (run >>= next).Gives p := by
  intro a ended
  cases first : run.outcome with
  | ok b =>
    rw [bind_of_ok first] at ended
    exact rest b a ended
  | error failure =>
    rw [bind_of_error first] at ended
    contradiction

end Gives

end Run

namespace Session

/-- Steps that give no name to a configuration or a checker. A field with two underscores in front
is none of a configuration but where the object itself is kept. -/
def Step.isUse : Step → Bool
  | .makeConfig _ _ | .readConfig _ _ | .makeChecker _ _ | .rebind _ _ => false
  | .assignField _ field _ => !"__".toList.isPrefixOf field.toList
  | _ => true

/-- What the variable holds after a step. -/
def Step.variableAfter (value : Option String) : Step → Option String
  | .setVariable newValue => newValue
  | _ => value

/-- What the variable holds after some steps. -/
def variableThen (session : Session) (steps : List Step) : Option String :=
  steps.foldl Step.variableAfter session.variableValue

def withVariable (session : Session) (value : Option String) : Session :=
  { session with variableValue := value }

/-- The session that goes on after some steps. -/
def after (session : Session) (steps : List Step) : Session :=
  steps.foldl (fun session s => (session.step s).2) session

/-- The reply to a step among others. -/
def replyTo (session : Session) (before : List Step) (s : Step) (rest : List Step) :
    Option (Run Reply) :=
  (session.run (before ++ s :: rest))[before.length]?

theorem step_fst (session : Session) (s : Step) :
    (session.step s).1 = Prod.fst <$> session.perform s := by
  rw [map_eq_pure_bind, step]
  cases ended : (session.perform s).outcome with
  | ok answer =>
    rw [Run.bind_of_ok ended]
    exact Run.ext rfl (List.append_nil _).symm
  | error failure => rw [Run.bind_of_error ended]

theorem step_snd_of_gives {session : Session} {s : Step}
    (gives : (session.perform s).Gives fun answer => answer.2 = session) :
    (session.step s).2 = session := by
  rw [step]
  cases ended : (session.perform s).outcome with
  | ok answer => exact gives answer ended
  | error failure => rfl

theorem step_snd_of_use (session : Session) (use : s.isUse = true) :
    (session.step s).2 = session.withVariable (s.variableAfter session.variableValue) := by
  cases s with
  | setVariable value => rfl
  | makeConfig | readConfig | makeChecker | rebind => contradiction
  -- every other use is a look-up, a run and a reply
  | _ =>
    apply step_snd_of_gives
    exact .bind fun _ => .bind fun _ => .pure rfl

theorem step_snd_of_keeps (session : Session) (use : s.isUse = true)
    (keeps : ∀ value, s ≠ .setVariable value) : (session.step s).2 = session := by
  rw [step_snd_of_use session use]
  cases s with
  | setVariable value => exact absurd rfl (keeps value)
  | _ => rfl

/-- Of a run of uses only the last value of the variable is left. -/
theorem after_of_uses (session : Session) (uses : ∀ s ∈ steps, Step.isUse s = true) :
    session.after steps = session.withVariable (session.variableThen steps) := by
  induction steps generalizing session with
  | nil => rfl
  | cons s rest ih =>
    obtain ⟨use, restUses⟩ := List.forall_mem_cons.mp uses
    have next := step_snd_of_use session use
    calc session.after (s :: rest)
      _ = (session.step s).2.after rest := rfl
      _ = session.withVariable (session.variableThen (s :: rest)) := by
        rw [ih _ restUses, next]
        rfl

theorem run_append (session : Session) (first second : List Step) :
    session.run (first ++ second) = session.run first ++ (session.after first).run second := by
  induction first generalizing session with
  | nil => rfl
  | cons s rest ih => exact congrArg ((session.step s).1 :: ·) (ih _)

theorem length_run (session : Session) (steps : List Step) :
    (session.run steps).length = steps.length := by
  induction steps generalizing session with
  | nil => rfl
  | cons s rest ih => exact congrArg Nat.succ (ih _)

theorem run_split (session : Session) (before : List Step) (s : Step) (rest : List Step) :
    session.run (before ++ s :: rest) = session.run before ++
      (Prod.fst <$> (session.after before).perform s) ::
        ((session.after before).step s).2.run rest := by
  rw [run_append, ← step_fst]
  rfl

theorem replyTo_eq (session : Session) (before : List Step) (s : Step) (rest : List Step) :
    session.replyTo before s rest = some (Prod.fst <$> (session.after before).perform s) := by
  rw [replyTo, run_split, ← length_run session before,
    List.getElem?_append_right (Nat.le_refl _), Nat.sub_self, List.getElem?_cons_zero]

section Replies
variable {session : Session} {name : String}

/-- The shape of the uses: something is looked up, put to use, and its result is the reply. -/
theorem fst_of_found {α β : Type} {find : Run α} {a : α} (found : find = pure a)
    (use : α → Run β) (answer : β → Reply) (next : Session) :
    Prod.fst <$> (do let a ← find; let b ← use a; return (answer b, next)) = answer <$> use a := by
  simp only [found, pure_bind, bind_pure_comp, Functor.map_map]

theorem reply_check {bound : Checker} (found : session.checkers.lookup name = some bound)
    (versioner : Versioner) (value : Option String) :
    Prod.fst <$> (session.withVariable value).perform (.check name versioner) =
      (fun _ => Reply.done) <$> bound.check versioner value := by
  have known : (session.withVariable value).checker name = pure bound := by
    simp only [checker, withVariable, found]
  exact fst_of_found known _ _ _

theorem reply_checkerMinimum {bound : Checker} (found : session.checkers.lookup name = some bound)
    (value : Option String) :
    Prod.fst <$> (session.withVariable value).perform (.checkerMinimum name) =
      Reply.text <$> bound.minimumVersion value := by
  have known : (session.withVariable value).checker name = pure bound := by
    simp only [checker, withVariable, found]
  exact fst_of_found known _ _ _

theorem reply_checkDirectly {configName : ConfigName} {given : Option Config}
    (known : session.config configName = pure given) (versioner : Versioner)
    (value : Option String) :
    Prod.fst <$> (session.withVariable value).perform (.checkDirectly configName versioner) =
      (fun _ => Reply.done) <$> checkMinimumVersion versioner given value := by
  have still : (session.withVariable value).config configName = pure given := known
  exact fst_of_found still _ _ _

theorem reply_assignField {given : Config} (found : session.configs.lookup name = some given)
    (field : String) (newValue : Value) (value : Option String) :
    Prod.fst <$> (session.withVariable value).perform (.assignField (some name) field newValue) =
      (fun _ => Reply.done) <$> Run.ofExcept ((given.assign field newValue).mapError .invalid) := by
  have known : (session.withVariable value).configWith field (some name) = pure given := by
    simp only [configWith, config, withVariable, found, pure_bind]
  exact fst_of_found known _ _ _

end Replies

/-- How uses are answered between the steps `before` and `rest`, and what they change. -/
structure Unaffected (session : Session) (before rest : List Step) : Prop where
  bound_check : ∀ name given versioner anyValue,
    session.checkers.lookup name = some { config := some given } →
    session.replyTo before (.check name versioner) rest =
      some ((fun _ => .done) <$> Checker.check { config := some given } versioner anyValue)
  bound_minimum : ∀ name given anyValue,
    session.checkers.lookup name = some { config := some given } →
    session.replyTo before (.checkerMinimum name) rest =
      some (.text <$> Checker.minimumVersion { config := some given } anyValue)
  unbound_check : ∀ name versioner, session.checkers.lookup name = some { config := none } →
    session.replyTo before (.check name versioner) rest =
      some ((fun _ => .done) <$>
        checkMinimumVersion versioner none (session.variableThen before))
  unbound_minimum : ∀ name, session.checkers.lookup name = some { config := none } →
    session.replyTo before (.checkerMinimum name) rest =
      some (.text <$> getMinimumVersion none (session.variableThen before))
  direct_check : ∀ configName given versioner, session.config configName = pure given →
    session.replyTo before (.checkDirectly configName versioner) rest =
      some ((fun _ => .done) <$>
        checkMinimumVersion versioner given (session.variableThen before))
  interchangeable : ∀ name configName given versioner,
    session.checkers.lookup name = some { config := given } →
    session.config configName = pure given →
    session.run (before ++ .check name versioner :: rest) =
      session.run (before ++ .checkDirectly configName versioner :: rest)
  refused_assignment : ∀ name given field newValue, session.configs.lookup name = some given →
    field.toList.head? ≠ some '_' →
    session.replyTo before (.assignField (some name) field newValue) rest = some
      ⟨.error (.invalid
        { record := "VersionCheckConfig", issues := [⟨field, .frozen, newValue⟩] }), []⟩
  private_assignment : ∀ name given field newValue, session.configs.lookup name = some given →
    field.toList.head? = some '_' → ¬ "__".toList <+: field.toList →
    session.replyTo before (.assignField (some name) field newValue) rest = some ⟨.ok .done, []⟩
  leaves_nothing : ∀ s, s.isUse = true → (∀ value, s ≠ .setVariable value) →
    (session.run (before ++ s :: rest)).eraseIdx before.length = session.run (before ++ rest)

/-- Checks, reads and assignments do not see each other, in whatever order they come. -/
theorem unaffected_by_uses (session : Session) (uses : ∀ s ∈ before, Step.isUse s = true)
    (rest : List Step) : session.Unaffected before rest := by
  have left := after_of_uses session uses
  have reply (s : Step) : session.replyTo before s rest =
      some (Prod.fst <$> (session.withVariable (session.variableThen before)).perform s) := by
    rw [replyTo_eq, left]
  exact {
    -- a bound checker does not look at the value, so any other will do
    bound_check := fun name given versioner anyValue found =>
      (reply _).trans (congrArg some (reply_check found versioner _))
    bound_minimum := fun name given anyValue found =>
      (reply _).trans (congrArg some (reply_checkerMinimum found _))
    unbound_check := fun name versioner found =>
      (reply _).trans (congrArg some (reply_check found versioner _))
    unbound_minimum := fun name found =>
      (reply _).trans (congrArg some (reply_checkerMinimum found _))
    direct_check := fun configName given versioner known =>
      (reply _).trans (congrArg some (reply_checkDirectly known versioner _))
    interchangeable := by
      intro name configName given versioner found known
      have checkKeeps : ((session.after before).step (.check name versioner)).2 =
          session.after before := step_snd_of_keeps _ rfl nofun
      have directKeeps : ((session.after before).step (.checkDirectly configName versioner)).2 =
          session.after before := step_snd_of_keeps _ rfl nofun
      rw [run_split, run_split, checkKeeps, directKeeps, left, reply_check found,
        reply_checkDirectly known, Checker.check_eq]
    refused_assignment := by
      intro name given field newValue found noNote
      have refused : given.assign field newValue = .error
          { record := Config.kindName, issues := [⟨field, .frozen, newValue⟩] } := by
        rw [Config.assign, Config.isNote, if_neg (by simpa using noNote)]
      rw [reply, reply_assignField found, refused]
      rfl
    private_assignment := by
      intro name given field newValue found note _
      have accepted : given.assign field newValue = .ok given := by
        rw [Config.assign, Config.isNote, if_pos (by simpa using note)]
      rw [reply, reply_assignField found, accepted]
      rfl
    leaves_nothing := by
      intro s use keeps
      rw [run_split, step_snd_of_keeps _ use keeps, run_append, ← length_run session before,
        List.eraseIdx_append_of_length_le (Nat.le_refl _), Nat.sub_self, List.eraseIdx_cons_zero] }

/-- A pinned and a free checker after a new value, a check that fails, two assignments and a check
that passes. -/
theorem unaffected_by_uses_pinned :
    let old : Versioner := .resolved { gitVersion := "v1.19.0" }
    let pinned : Config := { minVersion := some "v1.20.0" }
    let session : Session :=
      { configs := [("pinned", pinned)]
        checkers := [("pinned", { config := some pinned }), ("free", { config := none })] }
    let before : List Step :=
      [.setVariable (some "v1.18.0"), .check "pinned" old,
        .assignField (some "pinned") "min_version" (.text "v1.19.0"),
        .assignField (some "pinned") "_note" .null, .check "free" old]
    (∀ s ∈ before, s.isUse = true) ∧
    (∀ anyValue, session.replyTo before (.check "pinned" old) [] =
      some ((fun _ => .done) <$> Checker.check { config := some pinned } old anyValue)) ∧
    session.replyTo before (.check "free" old) [] =
      some ((fun _ => .done) <$> checkMinimumVersion old none (some "v1.18.0")) := by
  intro old pinned session before
  have uses : ∀ s ∈ before, s.isUse = true := by decide
  have unaffected := unaffected_by_uses session uses []
  exact ⟨uses, fun anyValue => unaffected.bound_check "pinned" pinned old anyValue rfl,
    unaffected.unbound_check "free" old rfl⟩

/-- It is not so that every assignment to a known configuration fails. -/
theorem private_assignment_succeeds :
    ¬ ∀ (session : Session) (before rest : List Step) (name field : String) (newValue : Value)
        (given : Config), session.configs.lookup name = some given →
      ∃ failure effects, session.replyTo before (.assignField (some name) field newValue) rest =
        some ⟨.error failure, effects⟩ := by
  intro alwaysFails
  obtain ⟨failure, effects, reply⟩ :=
    alwaysFails { configs := [("pinned", {})] } [] [] "pinned" "_cache" (.int 1) {} rfl
  have outcome : some (Except.ok Reply.done) = some (Except.error failure) :=
    congrArg (Option.map Run.outcome) reply
  cases outcome

end Session

end VersionGate
