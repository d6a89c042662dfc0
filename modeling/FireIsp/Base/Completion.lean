/-!
# Completions

A piece of code of the host language ends in one of three ways: it comes to its end with a value, it
returns, or it throws.  What follows runs only in the first case, a `catch` clause only in the last, and a
`finally` clause in all of them.
-/

/-- How a piece of code ends. -/
inductive Completion (E R A : Type)
  | normal (value : A)
  | returned (value : R)
  | thrown (error : E)
  deriving DecidableEq

/-- A piece of code over a state. -/
def Act (S E R A : Type) : Type := S → Completion E R A × S

namespace Act

variable {S E R A B N : Type}

/-- Code that has come to its end. -/
protected def pure (value : A) : Act S E R A := fun s => (.normal value, s)

/-- Code with what follows it. -/
protected def bind (act : Act S E R A) (next : A → Act S E R B) : Act S E R B := fun s =>
  match act s with
  | (.normal value, s) => next value s
  | (.returned value, s) => (.returned value, s)
  | (.thrown error, s) => (.thrown error, s)

instance : Monad (Act S E R) where
  pure := Act.pure
  bind := Act.bind

/-- `return` -/
def leave (value : R) : Act S E R A := fun s => (.returned value, s)

def throw (error : E) : Act S E R A := fun s => (.thrown error, s)

/-- Code that changes the state only. -/
def modify (f : S → S) : Act S E R Unit := fun s => (.normal (), f s)

/-- Code that succeeds or throws. -/
def perform (f : S → Except E A × S) : Act S E R A := fun s =>
  match f s with
  | (.ok value, s) => (.normal value, s)
  | (.error error, s) => (.thrown error, s)

/-- `try` with a `catch` clause. -/
def tryCatch (body : Act S E R A) (handler : E → Act S E R A) : Act S E R A := fun s =>
  match body s with
  | (.thrown error, s) => handler error s
  | result => result

/-- `try` with a `finally` clause: the body's end counts unless the clause ends in another way. -/
def tryFinally (body : Act S E R A) (clause : Act S E R Unit) : Act S E R A := fun s =>
  match body s with
  | (result, s) =>
    match clause s with
    | (.normal _, s) => (result, s)
    | (.returned value, s) => (.returned value, s)
    | (.thrown error, s) => (.thrown error, s)

/-- Code that leaves a part of the state as it is, however it ends. -/
def Keeps (part : S → N) (act : Act S E R A) : Prop := ∀ s, part (act s).2 = part s

variable {part : S → N}

theorem Keeps.pure (value : A) : Keeps part (pure value : Act S E R A) := fun _ => rfl

variable {act : Act S E R A} {next : A → Act S E R B}

theorem Keeps.bind (hact : act.Keeps part) (hnext : ∀ value, (next value).Keeps part) :
    Keeps part (act >>= next) := by
  intro s
  have hfirst := hact s
  change part (Act.bind act next s).2 = _
  rw [Act.bind]
  rcases hend : act s with ⟨value | value | error, s'⟩
  · rw [hend] at hfirst
    exact (hnext value s').trans hfirst
  · rw [hend] at hfirst
    exact hfirst
  · rw [hend] at hfirst
    exact hfirst

theorem Keeps.leave (value : R) : Keeps part (leave value : Act S E R A) := fun _ => rfl

theorem Keeps.throw (error : E) : Keeps part (throw error : Act S E R A) := fun _ => rfl

theorem Keeps.perform {f : S → Except E A × S} (h : ∀ s, part (f s).2 = part s) :
    Keeps part (perform f : Act S E R A) := by
  intro s
  have hf := h s
  rw [Act.perform]
  rcases hend : f s with ⟨error | value, s'⟩
  · rw [hend] at hf
    exact hf
  · rw [hend] at hf
    exact hf

variable {s : S}

theorem tryCatch_kept {body : Act S E R A} {handler : E → Act S E R A}
    (hbody : part (body s).2 = part s) (hhandler : ∀ error, (handler error).Keeps part) :
    part (body.tryCatch handler s).2 = part s := by
  rw [Act.tryCatch]
  rcases hend : body s with ⟨value | value | error, s'⟩
  · rw [hend] at hbody
    exact hbody
  · rw [hend] at hbody
    exact hbody
  · rw [hend] at hbody
    exact (hhandler error s').trans hbody

theorem tryCatch_returned {body : Act S E R A} {handler : E → Act S E R A} {s' : S} {value : R}
    (h : body s = (.returned value, s')) : body.tryCatch handler s = (.returned value, s') := by
  rw [Act.tryCatch, h]

theorem tryFinally_modify (body : Act S E R A) (f : S → S) (s : S) :
    body.tryFinally (modify f) s = ((body s).1, f (body s).2) := rfl

theorem bind_normal {s' : S} {value : A} (h : act s = (.normal value, s')) :
    (act >>= next) s = next value s' := by
  change Act.bind act next s = _
  rw [Act.bind, h]

theorem bind_thrown {s' : S} {error : E} (h : act s = (.thrown error, s')) :
    (act >>= next) s = (.thrown error, s') := by
  change Act.bind act next s = _
  rw [Act.bind, h]

end Act
