import FireIsp.Base.Client

/-!
# What a client does alone, whatever is answered

Triples for a client that no other session interrupts.  The time is arbitrary, and so are the
answers from outside, as far as an assumption about them allows.
-/

namespace Txn

variable {σ W K Op : Type} {Res : Op → Type} {Query : Type} {Answer : Query → Type} {A B : Type}

/-- Whatever the time and the assumed answers, the program ends with `post`. -/
def Always (E : Engine σ W K Op Res) (assume : (query : Query) → Answer query → Prop)
    (p : Prog Op Res Query Answer A) (db : σ) (work : Option σ)
    (post : A → σ → Option σ → Prop) : Prop :=
  ∀ world : Nat → (query : Query) → Answer query, (∀ tick query, assume query (world tick query)) →
    ∀ tick, post (alone E world p tick db work).value (alone E world p tick db work).db
      (alone E world p tick db work).work

variable {E : Engine σ W K Op Res} {assume : (query : Query) → Answer query → Prop} {db copy : σ}
  {work : Option σ} {post post' : A → σ → Option σ → Prop}

theorem always_pure {value : A} (h : post value db work) :
    Always E assume (pure value) db work post := fun _ _ _ => h

theorem always_bind {p : Prog Op Res Query Answer A} {f : A → Prog Op Res Query Answer B}
    {post : B → σ → Option σ → Prop}
    (h : Always E assume p db work fun value db work => Always E assume (f value) db work post) :
    Always E assume (p >>= f) db work post := by
  intro world hworld tick
  rw [alone_bind]
  exact h world hworld tick world hworld _

theorem Always.mono {p : Prog Op Res Query Answer A} (hp : Always E assume p db work post)
    (h : ∀ value db work, post value db work → post' value db work) :
    Always E assume p db work post' :=
  fun world hworld tick => h _ _ _ (hp world hworld tick)

theorem always_ask {query : Query} {post : Answer query → σ → Option σ → Prop}
    (h : ∀ answer, assume query answer → post answer db work) :
    Always E assume (Prog.ask query) db work post :=
  fun _ hworld tick => h _ (hworld tick query)

theorem always_pool {op : Op} {post : Res op → σ → Option σ → Prop}
    (h : ∀ tick, post (E.exec op tick db db).1 (E.visible db (E.exec op tick db db).2) work) :
    Always E assume (Prog.send .pool op) db work post := by
  intro world _ tick
  change post (alone E world (.stmt .pool op .done) tick db work).value
    (alone E world (.stmt .pool op .done) tick db work).db
    (alone E world (.stmt .pool op .done) tick db work).work
  rw [alone_pool]
  exact h tick

theorem always_conn {op : Op} {post : Res op → σ → Option σ → Prop}
    (h : ∀ tick, post (E.exec op tick copy copy).1 db
      (some (E.visible copy (E.exec op tick copy copy).2))) :
    Always E assume (Prog.send .conn op) db (some copy) post := fun _ _ tick => h tick

namespace Client

variable {ε : Type} [Raises ε]
  {assume : (query : Outside Op Query) → Outside.Answer Answer query → Prop}
  {p : Client Op Res Query Answer ε A} {f : A → Client Op Res Query Answer ε B}
  {post post' : Except ε A → σ → Prop} {post₂ : Except ε B → σ → Prop}

/-- What a part does to the state it works on: the committed one, or its transaction's copy. -/
def Meets (E : Engine σ W K Op Res)
    (assume : (query : Outside Op Query) → Outside.Answer Answer query → Prop) :
    Via → Client Op Res Query Answer ε A → σ → (Except ε A → σ → Prop) → Prop
  | .pool, p, db, post => Always E assume p.run db none fun returned db work =>
    work = none ∧ post returned db
  | .conn, p, copy, post => ∀ db, Always E assume p.run db (some copy) fun returned db' work =>
    db' = db ∧ ∃ copy', work = some copy' ∧ post returned copy'

variable {via : Via}

omit [Raises ε] in
theorem meets_pool : Meets E assume .pool p db post ↔
    Always E assume p.run db none fun returned db work => work = none ∧ post returned db := Iff.rfl

omit [Raises ε] in
theorem meets_conn : Meets E assume .conn p copy post ↔
    ∀ db, Always E assume p.run db (some copy) fun returned db' work =>
      db' = db ∧ ∃ copy', work = some copy' ∧ post returned copy' := Iff.rfl

omit [Raises ε] in
theorem always_bind {post : Except ε B → σ → Option σ → Prop}
    (h : Always E assume p.run db work fun returned db work => match returned with
      | .ok value => Always E assume (f value).run db work post
      | .error error => post (.error error) db work) :
    Always E assume (p >>= f).run db work post := by
  refine Txn.always_bind (h.mono fun returned db work hreturned => ?_)
  cases returned with
  | ok value => exact hreturned
  | error error => exact always_pure hreturned

omit [Raises ε] in
theorem meets_of_always
    (h : ∀ db' work, (via = .pool → db' = db ∧ work = none) → (via = .conn → work = some db) →
      Always E assume p.run db' work fun returned db'' work' =>
        db'' = db' ∧ work' = work ∧ post returned db) :
    Meets E assume via p db post := by
  cases via with
  | pool =>
    refine meets_pool.mpr ((h db none (fun _ => ⟨rfl, rfl⟩) fun h => nomatch h).mono ?_)
    rintro returned _ _ ⟨rfl, rfl, hpost⟩
    exact ⟨rfl, hpost⟩
  | conn =>
    refine meets_conn.mpr fun db' => (h db' (some db) (fun h => nomatch h) fun _ => rfl).mono ?_
    rintro returned _ _ ⟨rfl, rfl, hpost⟩
    exact ⟨rfl, db, rfl, hpost⟩

omit [Raises ε] in
theorem meets_pure {value : A} (h : post (.ok value) db) :
    Meets E assume via (pure value : Client Op Res Query Answer ε A) db post :=
  meets_of_always fun _ _ _ _ => always_pure ⟨rfl, rfl, h⟩

omit [Raises ε] in
theorem meets_throw {error : ε} (h : post (.error error) db) :
    Meets E assume via (throw error : Client Op Res Query Answer ε A) db post :=
  meets_of_always fun _ _ _ _ => always_pure ⟨rfl, rfl, h⟩

omit [Raises ε] in
theorem Meets.mono (hp : Meets E assume via p db post)
    (h : ∀ returned db, post returned db → post' returned db) : Meets E assume via p db post' := by
  cases via with
  | pool =>
    exact meets_pool.mpr ((meets_pool.mp hp).mono fun _ _ _ ⟨hwork, hpost⟩ =>
      ⟨hwork, h _ _ hpost⟩)
  | conn =>
    exact meets_conn.mpr fun db => (meets_conn.mp hp db).mono fun _ _ _ ⟨hdb, copy, hwork, hpost⟩ =>
      ⟨hdb, copy, hwork, h _ _ hpost⟩

omit [Raises ε] in
theorem meets_bind
    (h : Meets E assume via p db fun returned db => match returned with
      | .ok value => Meets E assume via (f value) db post₂
      | .error error => post₂ (.error error) db) :
    Meets E assume via (p >>= f) db post₂ := by
  cases via with
  | pool =>
    refine meets_pool.mpr (always_bind ((meets_pool.mp h).mono
      fun returned db work hreturned => ?_))
    obtain ⟨rfl, hreturned⟩ := hreturned
    cases returned with
    | ok value => exact hreturned
    | error error => exact ⟨rfl, hreturned⟩
  | conn =>
    refine meets_conn.mpr fun db => always_bind ((meets_conn.mp h db).mono
      fun returned db' work hreturned => ?_)
    obtain ⟨rfl, copy, rfl, hreturned⟩ := hreturned
    cases returned with
    | ok value => exact hreturned db'
    | error error => exact ⟨rfl, copy, rfl, hreturned⟩

omit [Raises ε] in
theorem meets_asked {query : Query} {post : Except ε (Answer query) → σ → Prop}
    (h : ∀ answer, assume (.about query) answer → post (.ok answer) db) :
    Meets E assume via (asked query : Client Op Res Query Answer ε (Answer query)) db post :=
  meets_of_always fun _ _ _ _ => Txn.always_bind (always_ask fun answer hanswer =>
    always_pure ⟨rfl, rfl, h answer hanswer⟩)

omit [Raises ε] in
theorem meets_refuseIf {condition : Prop} [Decidable condition] {error : ε}
    {post : Except ε Unit → σ → Prop} (hrefused : condition → post (.error error) db)
    (hpassed : ¬condition → post (.ok ()) db) :
    Meets E assume via (Throwing.refuseIf condition error : Client Op Res Query Answer ε Unit) db
      post := by
  unfold Throwing.refuseIf
  split_ifs with hcondition
  · exact meets_throw (hrefused hcondition)
  · exact meets_pure (hpassed hcondition)

omit [Raises ε] in
theorem meets_orThrow {found : Option A} {error : ε}
    (hmissing : found = none → post (.error error) db)
    (hthere : ∀ value, found = some value → post (.ok value) db) :
    Meets E assume via (Throwing.orThrow found error : Client Op Res Query Answer ε A) db post := by
  cases found with
  | none => exact meets_throw (hmissing rfl)
  | some value => exact meets_pure (hthere value rfl)

theorem meets_statement_of {op : Op} {post : Except ε (Res op) → σ → Prop}
    (hraised : assume (.raises op) true → post (.error Raises.raised) db)
    (hsent : ∀ tick, post (.ok (E.exec op tick db db).1)
      (E.visible db (E.exec op tick db db).2)) :
    Meets E assume via (statement via op : Client Op Res Query Answer ε (Res op)) db post := by
  refine meets_bind (meets_of_always fun _ _ _ _ => Txn.always_bind (always_ask
    fun raised hassumed => always_pure ⟨rfl, rfl, ?_⟩))
  refine meets_bind (meets_refuseIf (fun htrue => hraised (htrue ▸ hassumed)) fun _ => ?_)
  cases via with
  | pool =>
    exact meets_pool.mpr (Txn.always_bind (always_pool fun tick =>
      always_pure ⟨rfl, hsent tick⟩))
  | conn =>
    exact meets_conn.mpr fun db => Txn.always_bind (always_conn fun tick =>
      always_pure ⟨rfl, _, rfl, hsent tick⟩)

theorem meets_statement {op : Op} {post : Except ε (Res op) → σ → Prop}
    (hraised : post (.error Raises.raised) db)
    (hsent : ∀ tick, post (.ok (E.exec op tick db db).1)
      (E.visible db (E.exec op tick db db).2)) :
    Meets E assume via (statement via op : Client Op Res Query Answer ε (Res op)) db post :=
  meets_statement_of (fun _ => hraised) hsent

omit [Raises ε] in
theorem meets_attempted {post : Except ε (Except ε A) → σ → Prop}
    (h : Meets E assume via p db fun returned db => post (.ok returned) db) :
    Meets E assume via (Throwing.attempted p) db post := by
  cases via with
  | pool =>
    exact meets_pool.mpr (Txn.always_bind ((meets_pool.mp h).mono
      fun _ _ _ hreturned => always_pure hreturned))
  | conn =>
    exact meets_conn.mpr fun db => Txn.always_bind ((meets_conn.mp h db).mono
      fun _ _ _ hreturned => always_pure hreturned)

omit [Raises ε] in
theorem meets_swallowed {body : Client Op Res Query Answer ε Unit} {post : Except ε Unit → σ → Prop}
    (h : Meets E assume via body db fun _ db => post (.ok ()) db) :
    Meets E assume via (swallowed body) db post :=
  meets_bind (meets_attempted (h.mono fun _ _ hpost => meets_pure hpost))

theorem always_bracket {call : Bracket} {post : Except ε Unit → σ → Option σ → Prop}
    (h : ∀ returned, post returned db work) :
    Always E assume (bracket call : Client Op Res Query Answer ε Unit).run db work post := by
  refine Txn.always_bind (Txn.always_bind (always_ask fun failed _ => always_pure ?_))
  change Always E assume (Throwing.refuseIf _ _ : Client Op Res Query Answer ε Unit).run _ _ _
  unfold Throwing.refuseIf
  split_ifs
  · exact always_pure (h _)
  · exact always_pure (h _)

theorem always_committing
    (hbody : Meets E assume .conn p db fun returned copy => ∀ value, returned = .ok value →
      post (.ok value) copy) :
    Always E assume (committing p).run db none fun returned db' work => match returned with
      | .ok value => work = none ∧ post (.ok value) db'
      | .error _ => db' = db := by
  refine always_bind (always_bracket fun returned => ?_)
  cases returned with
  | error error => rfl
  | ok _ =>
    refine always_bind fun _ _ _ => ?_
    refine always_bind ((meets_conn.mp hbody db).mono fun returned db' work hreturned => ?_)
    obtain ⟨rfl, copy, rfl, hpost⟩ := hreturned
    cases returned with
    | error error => rfl
    | ok value =>
      refine always_bind (always_bracket fun returned => ?_)
      cases returned with
      | error error => rfl
      | ok _ =>
        refine always_bind fun _ _ _ => ?_
        exact always_pure ⟨rfl, hpost value rfl⟩

theorem meets_inTransaction (herror : ∀ error, post (.error error) db)
    (hbody : Meets E assume .conn p db fun returned copy => ∀ value, returned = .ok value →
      post (.ok value) copy) :
    Meets E assume .pool (inTransaction p) db post := by
  refine meets_pool.mpr (always_bind (always_bracket fun returned => ?_))
  cases returned with
  | error error => exact ⟨rfl, herror error⟩
  | ok _ =>
    refine always_bind (Txn.always_bind ((always_committing hbody).mono
      fun returned db' work hreturned => always_pure ?_))
    cases returned with
    | ok value => exact always_pure hreturned
    | error error =>
      obtain rfl := hreturned
      refine always_bind (Txn.always_bind (always_ask fun failed _ => always_pure ?_))
      refine always_bind fun _ _ _ => ?_
      exact always_pure ⟨rfl, herror _⟩

section Uses

variable {allowed : Op → Prop}

omit [Raises ε] in
theorem uses_bind (hp : p.run.Uses allowed) (hf : ∀ value, (f value).run.Uses allowed) :
    (p >>= f).run.Uses allowed :=
  Prog.Uses.bind hp fun returned => match returned with
    | .ok value => hf value
    | .error _ => trivial

omit [Raises ε] in
theorem uses_lift {q : Prog Op Res (Outside Op Query) (Outside.Answer Answer) A}
    (hq : q.Uses allowed) :
    (Throwing.lift q : Client Op Res Query Answer ε A).run.Uses allowed :=
  Prog.Uses.bind hq fun _ => trivial

omit [Raises ε] in
theorem uses_asked (query : Query) :
    (asked query : Client Op Res Query Answer ε (Answer query)).run.Uses allowed :=
  uses_lift fun _ => trivial

omit [Raises ε] in
theorem uses_refuseIf {condition : Prop} [Decidable condition] {error : ε} :
    (Throwing.refuseIf condition error : Client Op Res Query Answer ε Unit).run.Uses allowed := by
  unfold Throwing.refuseIf
  split_ifs <;> trivial

omit [Raises ε] in
theorem uses_orThrow {found : Option A} {error : ε} :
    (Throwing.orThrow found error : Client Op Res Query Answer ε A).run.Uses allowed := by
  cases found <;> trivial

omit [Raises ε] in
theorem uses_attempted (hp : p.run.Uses allowed) :
    (Throwing.attempted p).run.Uses allowed := uses_lift hp

omit [Raises ε] in
theorem uses_swallowed {body : Client Op Res Query Answer ε Unit}
    (hbody : body.run.Uses allowed) : (swallowed body).run.Uses allowed :=
  uses_bind (uses_attempted hbody) fun _ => trivial

theorem uses_statement {via : Via} {op : Op} (h : allowed op) :
    (statement via op : Client Op Res Query Answer ε (Res op)).run.Uses allowed :=
  uses_bind (uses_lift fun _ => trivial) fun _ => uses_bind uses_refuseIf fun _ =>
    uses_lift ⟨h, fun _ => trivial⟩

theorem uses_bracket {call : Bracket} :
    (bracket call : Client Op Res Query Answer ε Unit).run.Uses allowed :=
  uses_bind (uses_lift fun _ => trivial) fun _ => uses_refuseIf

theorem uses_inTransaction (hp : p.run.Uses allowed) :
    (inTransaction p).run.Uses allowed := by
  refine uses_bind uses_bracket fun _ => uses_bind (uses_attempted ?_) fun tried => ?_
  · exact uses_bind uses_bracket fun _ => uses_bind (uses_lift trivial) fun _ =>
      uses_bind hp fun _ => uses_bind uses_bracket fun _ => uses_bind (uses_lift trivial)
        fun _ => trivial
  · cases tried with
    | ok value => trivial
    | error error =>
      exact uses_bind (uses_lift fun _ => trivial) fun _ => uses_bind (uses_lift trivial)
        fun _ => trivial

omit [Raises ε] in
theorem kept_of_uses {I : σ → Prop} (hp : p.run.Uses allowed)
    (hstmt : ∀ op, allowed op → ∀ tick db, I db → I (E.visible db (E.exec op tick db db).2))
    (h : I db) (world : Nat → (query : Outside Op Query) → Outside.Answer Answer query)
    (tick : Nat) : I (alone E world p.run tick db none).db := by
  have hopen : ∀ copy, (none : Option σ) = some copy → I copy := by
    intro copy hcopy
    cases hcopy
  refine (alone_preserves (I := fun _ db => I db) (fun _ _ h => h)
    (fun op hop tick db => hstmt op hop tick db) hp ?_ hopen).1
  exact h

end Uses

end Client

end Txn
