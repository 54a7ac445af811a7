import FluxPurr.Runs.Reaches

/-!
# Programs that act on shared state

A `Program` is what one party of a concurrent system still has to do: nothing more, or an
atomic action on the shared state (an `Effect`) and then, for each answer it may get, the
rest.  Between two actions the other parties take theirs.

A `Discipline` is a protocol for such a party.  It keeps a ghost value of its own, says
which effects are allowed next and which answers may come back, and moves the ghost along.
A program that `Follows` a discipline does so whatever the answers are; `follows_bind` and
`Follows.mono` compose programs, and `Follows.of_performs` is what it means for an
execution.  A program that passes a state of its own along is an action in `StateT`;
`Meets` is `Follows` for such an action, with its starting state.  `Keeps` is `Follows` for
an action in `ExceptT`, which succeeds or fails.
-/

namespace FluxPurr.Runs

inductive Program (Effect : Type) (Answer : Effect → Type) (Result : Type) where
  | done (result : Result)
  | step (effect : Effect) (next : Answer effect → Program Effect Answer Result)

namespace Program

variable {Effect : Type} {Answer : Effect → Type} {Result Result' Ghost : Type}

def bind (program : Program Effect Answer Result)
    (next : Result → Program Effect Answer Result') : Program Effect Answer Result' :=
  match program with
  | done result => next result
  | step effect rest => step effect fun answer => (rest answer).bind next

instance : Monad (Program Effect Answer) where
  pure := done
  bind := bind

instance : LawfulMonad (Program Effect Answer) :=
  LawfulMonad.mk' (Program Effect Answer)
    (fun program => by
      show program.bind done = program
      induction program with
      | done result => rfl
      | step effect next ih => exact congrArg (step effect) (funext ih))
    (fun _ _ => rfl)
    (fun program f g => by
      show (program.bind f).bind g = program.bind fun result => (f result).bind g
      induction program with
      | done result => rfl
      | step effect next ih => exact congrArg (step effect) (funext ih))

/-- A single effect. -/
def perform (effect : Effect) : Program Effect Answer (Answer effect) := step effect done

/-- The program is executed with these effects and answers. -/
inductive Performs : Program Effect Answer Result → List (Σ effect, Answer effect) →
    Result → Prop
  | done {result : Result} : Performs (done result) [] result
  | step {effect : Effect} {next : Answer effect → Program Effect Answer Result}
      {answer : Answer effect} {effects : List (Σ effect, Answer effect)} {result : Result} :
      Performs (next answer) effects result →
        Performs (step effect next) (⟨effect, answer⟩ :: effects) result

/-- The execution in which an oracle gives the answers. -/
def execute (oracle : ℕ → (effect : Effect) → Answer effect) :
    ℕ → Program Effect Answer Result → List (Σ effect, Answer effect) × Result
  | _, done result => ([], result)
  | index, step effect next =>
      let answer := oracle index effect
      let rest := execute oracle (index + 1) (next answer)
      (⟨effect, answer⟩ :: rest.1, rest.2)

theorem performs_execute (oracle : ℕ → (effect : Effect) → Answer effect) (index : ℕ)
    (program : Program Effect Answer Result) :
    program.Performs (program.execute oracle index).1 (program.execute oracle index).2 := by
  induction program generalizing index with
  | done result => exact .done
  | step effect next ih => exact .step (ih _ (index + 1))

end Program

/-- A protocol with a ghost value that only the proofs see. -/
structure Discipline (Effect : Type) (Answer : Effect → Type) (Ghost : Type) where
  Allows : Ghost → Effect → Prop
  Answers : Ghost → (effect : Effect) → Answer effect → Prop
  after : Ghost → (effect : Effect) → Answer effect → Ghost

namespace Program

variable {Effect : Type} {Answer : Effect → Type} {Result Result' Ghost : Type}
  {discipline : Discipline Effect Answer Ghost} {ghost : Ghost}
  {post post' : Result → Ghost → Prop}

/-- Whatever the answers are, every effect is allowed, and the result and the last ghost
value satisfy `post`. -/
def Follows (discipline : Discipline Effect Answer Ghost) (post : Result → Ghost → Prop) :
    Program Effect Answer Result → Ghost → Prop
  | done result, ghost => post result ghost
  | step effect next, ghost =>
      discipline.Allows ghost effect ∧
        ∀ answer, discipline.Answers ghost effect answer →
          (next answer).Follows discipline post (discipline.after ghost effect answer)

@[simp] theorem follows_done (result : Result) :
    (done result : Program Effect Answer Result).Follows discipline post ghost ↔
      post result ghost := Iff.rfl

@[simp] theorem follows_pure (result : Result) :
    (pure result : Program Effect Answer Result).Follows discipline post ghost ↔
      post result ghost := Iff.rfl

theorem follows_perform (effect : Effect) {post : Answer effect → Ghost → Prop} :
    (perform effect : Program Effect Answer (Answer effect)).Follows discipline post ghost ↔
      discipline.Allows ghost effect ∧
        ∀ answer, discipline.Answers ghost effect answer →
          post answer (discipline.after ghost effect answer) := Iff.rfl

theorem Follows.mono {program : Program Effect Answer Result}
    (h : program.Follows discipline post ghost)
    (hpost : ∀ result ghost, post result ghost → post' result ghost) :
    program.Follows discipline post' ghost := by
  induction program generalizing ghost with
  | done result => exact hpost _ _ h
  | step effect next ih => exact ⟨h.1, fun answer hanswer => ih answer (h.2 answer hanswer)⟩

theorem follows_bind {program : Program Effect Answer Result}
    {next : Result → Program Effect Answer Result'} {post : Result' → Ghost → Prop} :
    (program >>= next).Follows discipline post ghost ↔
      program.Follows discipline (fun result => (next result).Follows discipline post) ghost := by
  change (program.bind next).Follows discipline post ghost ↔ _
  induction program generalizing ghost with
  | done result => exact Iff.rfl
  | step effect rest ih =>
    exact and_congr Iff.rfl (forall_congr' fun answer =>
      imp_congr Iff.rfl (ih answer))

end Program

namespace Discipline

variable {Effect : Type} {Answer : Effect → Type} {Result Ghost : Type}
  {discipline : Discipline Effect Answer Ghost} {ghost : Ghost}
  {effects : List (Σ effect, Answer effect)}

/-- The answers of the environment are permitted, each after the effects before it. -/
def Permits (discipline : Discipline Effect Answer Ghost) :
    Ghost → List (Σ effect, Answer effect) → Prop
  | _, [] => True
  | ghost, ⟨effect, answer⟩ :: effects =>
      discipline.Answers ghost effect answer ∧
        discipline.Permits (discipline.after ghost effect answer) effects

/-- The effects of the party are allowed, each after the effects before it. -/
def AllowsAll (discipline : Discipline Effect Answer Ghost) :
    Ghost → List (Σ effect, Answer effect) → Prop
  | _, [] => True
  | ghost, ⟨effect, answer⟩ :: effects =>
      discipline.Allows ghost effect ∧
        discipline.AllowsAll (discipline.after ghost effect answer) effects

def afterAll (discipline : Discipline Effect Answer Ghost) :
    Ghost → List (Σ effect, Answer effect) → Ghost
  | ghost, [] => ghost
  | ghost, ⟨effect, answer⟩ :: effects =>
      discipline.afterAll (discipline.after ghost effect answer) effects

theorem allowsAll_append {later : List (Σ effect, Answer effect)} :
    discipline.AllowsAll ghost (effects ++ later) ↔
      discipline.AllowsAll ghost effects ∧
        discipline.AllowsAll (discipline.afterAll ghost effects) later := by
  induction effects generalizing ghost with
  | nil => exact ⟨fun h => ⟨trivial, h⟩, And.right⟩
  | cons first effects ih =>
    rw [List.cons_append]
    exact (and_congr Iff.rfl ih).trans and_assoc.symm

theorem afterAll_append {later : List (Σ effect, Answer effect)} :
    discipline.afterAll ghost (effects ++ later) =
      discipline.afterAll (discipline.afterAll ghost effects) later := by
  induction effects generalizing ghost with
  | nil => rfl
  | cons first effects ih => exact ih

theorem AllowsAll.allows_of_mem (h : discipline.AllowsAll ghost effects)
    {effect : Effect} {answer : Answer effect} (hmem : ⟨effect, answer⟩ ∈ effects) :
    ∃ ghost, discipline.Allows ghost effect := by
  induction effects generalizing ghost with
  | nil => cases hmem
  | cons first effects ih =>
    rcases List.mem_cons.mp hmem with rfl | hmem
    · exact ⟨ghost, h.1⟩
    · exact ih h.2 hmem

end Discipline

namespace Program

variable {Effect : Type} {Answer : Effect → Type} {Result Ghost : Type}
  {discipline : Discipline Effect Answer Ghost} {ghost : Ghost}
  {post : Result → Ghost → Prop}

/-- As long as the environment gives permitted answers, an execution of a program that
follows a discipline has only allowed effects. -/
theorem Follows.of_performs {program : Program Effect Answer Result}
    (h : program.Follows discipline post ghost) {effects : List (Σ effect, Answer effect)}
    {result : Result} (hperforms : program.Performs effects result)
    (hpermits : discipline.Permits ghost effects) :
    discipline.AllowsAll ghost effects ∧ post result (discipline.afterAll ghost effects) := by
  induction hperforms generalizing ghost with
  | done => exact ⟨trivial, h⟩
  | step _ ih =>
    obtain ⟨hallows, hrest⟩ := ih (h.2 _ hpermits.1) hpermits.2
    exact ⟨⟨h.1, hallows⟩, hrest⟩

end Program

/-! ## Actions with a state of their own -/

section Meets

variable {Effect : Type} {Answer : Effect → Type} {State Result Result' Ghost : Type}
  {discipline : Discipline Effect Answer Ghost} {state : State} {ghost : Ghost}
  {post post' : Result → State → Ghost → Prop}

/-- Started in `state`, the action follows the discipline. -/
def Meets (discipline : Discipline Effect Answer Ghost)
    (action : StateT State (Program Effect Answer) Result) (state : State) (ghost : Ghost)
    (post : Result → State → Ghost → Prop) : Prop :=
  (action.run state).Follows discipline (fun result => post result.1 result.2) ghost

@[simp] theorem meets_pure (result : Result) :
    Meets discipline (pure result) state ghost post ↔ post result state ghost := Iff.rfl

@[simp] theorem meets_get {post : State → State → Ghost → Prop} :
    Meets discipline get state ghost post ↔ post state state ghost := Iff.rfl

@[simp] theorem meets_set (state' : State) {post : PUnit → State → Ghost → Prop} :
    Meets discipline (set state') state ghost post ↔ post ⟨⟩ state' ghost := Iff.rfl

@[simp] theorem meets_modify (f : State → State) {post : PUnit → State → Ghost → Prop} :
    Meets discipline (modify f) state ghost post ↔ post ⟨⟩ (f state) ghost := Iff.rfl

variable {action : StateT State (Program Effect Answer) Result}
  {next : Result → StateT State (Program Effect Answer) Result'}

theorem meets_bind {post : Result' → State → Ghost → Prop} :
    Meets discipline (action >>= next) state ghost post ↔
      Meets discipline action state ghost fun result state ghost =>
        Meets discipline (next result) state ghost post := by
  unfold Meets
  rw [StateT.run_bind, Program.follows_bind]

theorem Meets.mono {action : StateT State (Program Effect Answer) Result}
    (h : Meets discipline action state ghost post)
    (hpost : ∀ result state ghost, post result state ghost → post' result state ghost) :
    Meets discipline action state ghost post' :=
  Program.Follows.mono h fun result => hpost result.1 result.2

theorem Meets.bind
    {post' : Result' → State → Ghost → Prop} (h : Meets discipline action state ghost post)
    (hnext : ∀ result state ghost, post result state ghost →
      Meets discipline (next result) state ghost post') :
    Meets discipline (action >>= next) state ghost post' :=
  meets_bind.mpr (h.mono hnext)

end Meets

/-! ## Actions that may fail -/

section Keeps

variable {Effect : Type} {Answer : Effect → Type} {Failure Result Result' Ghost : Type}
  {discipline : Discipline Effect Answer Ghost} {ghost : Ghost}
  {post post' : Result → Ghost → Prop} {fail fail' : Failure → Ghost → Prop}

/-- The action follows the discipline, whether it succeeds or fails. -/
def Keeps (discipline : Discipline Effect Answer Ghost)
    (action : ExceptT Failure (Program Effect Answer) Result) (ghost : Ghost)
    (post : Result → Ghost → Prop) (fail : Failure → Ghost → Prop) : Prop :=
  action.run.Follows discipline (fun outcome ghost =>
    match outcome with
    | .ok result => post result ghost
    | .error failure => fail failure ghost) ghost

@[simp] theorem keeps_pure (result : Result) :
    Keeps discipline (pure result) ghost post fail ↔ post result ghost := Iff.rfl

@[simp] theorem keeps_throw (failure : Failure) :
    Keeps discipline (throw failure) ghost post fail ↔ fail failure ghost := Iff.rfl

theorem keeps_lift {program : Program Effect Answer Result} :
    Keeps discipline (ExceptT.lift program) ghost post fail ↔
      program.Follows discipline post ghost := by
  unfold Keeps
  change (program >>= fun result =>
    (pure (Except.ok result) : Program Effect Answer (Except Failure Result))).Follows
      discipline _ ghost ↔ _
  rw [Program.follows_bind]
  rfl

variable {action : ExceptT Failure (Program Effect Answer) Result}

theorem keeps_catch {post : Except Failure Result → Ghost → Prop} :
    Keeps discipline (ExceptT.lift action.run) ghost post fail ↔
      Keeps discipline action ghost (fun result => post (.ok result))
        fun failure => post (.error failure) := by
  rw [keeps_lift]
  constructor
  all_goals
    intro h
    refine Program.Follows.mono h fun outcome ghost houtcome => ?_
    cases outcome <;> exact houtcome

theorem keeps_perform (effect : Effect) {post : Answer effect → Ghost → Prop} :
    Keeps discipline (ExceptT.lift (Program.perform effect)) ghost post fail ↔
      discipline.Allows ghost effect ∧
        ∀ answer, discipline.Answers ghost effect answer →
          post answer (discipline.after ghost effect answer) := by
  rw [keeps_lift, Program.follows_perform]

theorem Keeps.mono {action : ExceptT Failure (Program Effect Answer) Result}
    (h : Keeps discipline action ghost post fail)
    (hpost : ∀ result ghost, post result ghost → post' result ghost)
    (hfail : ∀ failure ghost, fail failure ghost → fail' failure ghost) :
    Keeps discipline action ghost post' fail' := by
  refine Program.Follows.mono h fun outcome ghost houtcome => ?_
  cases outcome with
  | ok result => exact hpost _ _ houtcome
  | error failure => exact hfail _ _ houtcome

variable {next : Result → ExceptT Failure (Program Effect Answer) Result'}

theorem keeps_bind {post : Result' → Ghost → Prop} :
    Keeps discipline (action >>= next) ghost post fail ↔
      Keeps discipline action ghost
        (fun result ghost => Keeps discipline (next result) ghost post fail) fail := by
  unfold Keeps
  rw [ExceptT.run_bind, Program.follows_bind]
  constructor
  all_goals
    intro h
    refine Program.Follows.mono h fun outcome ghost houtcome => ?_
    cases outcome <;> exact houtcome

theorem Keeps.bind {post' : Result' → Ghost → Prop} (h : Keeps discipline action ghost post fail)
    (hnext : ∀ result ghost, post result ghost → Keeps discipline (next result) ghost post' fail) :
    Keeps discipline (action >>= next) ghost post' fail :=
  keeps_bind.mpr (h.mono hnext fun _ _ hfail => hfail)

end Keeps

end FluxPurr.Runs
