import FireIsp.Base.Discipline

/-!
# Programs that throw

A request program whose value may be an error.  A thrown error skips the rest, so a rule for a
composition speaks of the second part only where the first one returned.
-/

namespace Txn

variable {σ W K Op : Type} {Res : Op → Type} {Query : Type} {Answer : Query → Type}
  {Know ε A B : Type}

/-- A program that returns a value or throws. -/
abbrev Throwing (Op : Type) (Res : Op → Type) (Query : Type) (Answer : Query → Type)
    (ε A : Type) : Type :=
  ExceptT ε (Prog Op Res Query Answer) A

namespace Throwing

def refuseIf (condition : Prop) [Decidable condition] (error : ε) :
    Throwing Op Res Query Answer ε Unit :=
  if condition then throw error else pure ()

def checked (value : Except ε A) : Throwing Op Res Query Answer ε A :=
  ExceptT.mk (pure value)

/-- The row that was found, if there is one. -/
def orThrow (found : Option A) (error : ε) : Throwing Op Res Query Answer ε A :=
  checked (found.elim (.error error) .ok)

theorem orThrow_bind (row : A) (error : ε) (f : A → Throwing Op Res Query Answer ε B) :
    (orThrow (some row) error >>= f) = f row := rfl

def lift (p : Prog Op Res Query Answer A) : Throwing Op Res Query Answer ε A :=
  ExceptT.mk (p >>= fun value => pure (.ok value))

/-- What is thrown or returned, as a value: the `try` of a `catch`. -/
def attempted (p : Throwing Op Res Query Answer ε A) :
    Throwing Op Res Query Answer ε (Except ε A) :=
  lift p.run

/-- A condition on the value a program returns and one on what it throws. -/
def Either (post : A → Know → Prop) (failed : ε → Know → Prop) : Except ε A → Know → Prop
  | .ok value, know => post value know
  | .error error, know => failed error know

section Follows

variable {D : Discipline Know Op Res Query Answer} {know : Know} {post : A → Know → Prop}
  {post₂ : B → Know → Prop} {failed : ε → Know → Prop}

theorem follows_throw {error : ε} (h : failed error know) :
    (throw error : Throwing Op Res Query Answer ε A).run.Follows D know (Either post failed) := h

theorem follows_bind {p : Throwing Op Res Query Answer ε A}
    {f : A → Throwing Op Res Query Answer ε B} (hp : p.run.Follows D know (Either post failed))
    (hf : ∀ value know, post value know → (f value).run.Follows D know (Either post₂ failed)) :
    (p >>= f).run.Follows D know (Either post₂ failed) := by
  refine Prog.Follows.bind hp fun returned know h => ?_
  cases returned with
  | ok value => exact hf value know h
  | error error => exact h

theorem follows_refuseIf {condition : Prop} [Decidable condition] {error : ε}
    {post : Unit → Know → Prop} (hthrow : condition → failed error know)
    (hpass : ¬condition → post () know) :
    (refuseIf condition error : Throwing Op Res Query Answer ε Unit).run.Follows D know
      (Either post failed) := by
  unfold refuseIf
  split_ifs with h
  · exact hthrow h
  · exact hpass h

theorem follows_checked {value : Except ε A} (hthrow : ∀ error, failed error know)
    (hpass : ∀ returned, value = .ok returned → post returned know) :
    (checked value : Throwing Op Res Query Answer ε A).run.Follows D know
      (Either post failed) := by
  cases value with
  | ok returned => exact hpass returned rfl
  | error error => exact hthrow error

theorem follows_orThrow {found : Option A} {error : ε} (hthrow : failed error know)
    (hpass : ∀ row, found = some row → post row know) :
    (orThrow found error : Throwing Op Res Query Answer ε A).run.Follows D know
      (Either post failed) := by
  cases found with
  | none => exact hthrow
  | some row => exact hpass row rfl

theorem follows_lift {p : Prog Op Res Query Answer A} (h : p.Follows D know post) :
    (lift p : Throwing Op Res Query Answer ε A).run.Follows D know (Either post failed) :=
  h.bind fun _ _ hpost => hpost

theorem follows_attempted {p : Throwing Op Res Query Answer ε A}
    {tried : Except ε A → Know → Prop} (h : p.run.Follows D know tried) :
    (attempted p).run.Follows D know (Either tried failed) :=
  follows_lift h

end Follows

section Within

variable {allowed : Via → Op → Prop}

theorem within_bind {p : Throwing Op Res Query Answer ε A}
    {f : A → Throwing Op Res Query Answer ε B} (hp : p.run.Within allowed)
    (hf : ∀ value, (f value).run.Within allowed) : (p >>= f).run.Within allowed := by
  refine Prog.Within.bind hp fun returned => ?_
  cases returned with
  | ok value => exact hf value
  | error error => trivial

theorem within_refuseIf {condition : Prop} [Decidable condition] {error : ε} :
    (refuseIf condition error : Throwing Op Res Query Answer ε Unit).run.Within allowed := by
  unfold refuseIf
  split_ifs <;> trivial

theorem within_lift {p : Prog Op Res Query Answer A} (h : p.Within allowed) :
    (lift p : Throwing Op Res Query Answer ε A).run.Within allowed :=
  h.bind fun _ => trivial

theorem within_checked {value : Except ε A} :
    (checked value : Throwing Op Res Query Answer ε A).run.Within allowed :=
  trivial

theorem within_orThrow {found : Option A} {error : ε} :
    (orThrow found error : Throwing Op Res Query Answer ε A).run.Within allowed :=
  within_checked

theorem within_attempted {p : Throwing Op Res Query Answer ε A} (h : p.run.Within allowed) :
    (attempted p).run.Within allowed :=
  within_lift h

end Within

section Ends

variable {E : Engine σ W K Op Res} {world : Nat → (q : Query) → Answer q} {db : σ} {tick : Nat}
  {post₂ : Except ε B → Nat → σ → Prop}

theorem ends_bind {p : Throwing Op Res Query Answer ε A}
    {f : A → Throwing Op Res Query Answer ε B}
    (h : Ends E world p.run tick db fun returned tick db =>
      match returned with
      | .ok value => Ends E world (f value).run tick db post₂
      | .error error => post₂ (.error error) tick db) :
    Ends E world (p >>= f).run tick db post₂ := by
  refine Txn.ends_bind (h.mono fun returned tick db hreturned => ?_)
  cases returned with
  | ok value => exact hreturned
  | error error => exact Txn.ends_pure hreturned

end Ends

section Yields

variable {E : Engine σ W K Op Res} {world : (q : Query) → Answer q} {db : σ} {work : Option σ}
  {post : Except ε A → σ → Option σ → Prop} {post₂ : Except ε B → σ → Option σ → Prop}

end Yields

end Throwing

end Txn
