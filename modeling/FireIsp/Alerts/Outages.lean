import FireIsp.Base.Guard
import FireIsp.Alerts.Service

/-!
# When a rule has one outage

`autoCreateOutage` asks whether the outage is there and inserts it in a later statement.  In every
interleaving in which it is still not there when it is inserted, a rule has at most one outage that
goes on for each device.
-/

namespace FireIsp.Alerts

open Txn Client Throwing

variable {arrange : List (Option Nat) → List (Option Nat)} {same : String → String → Bool}
  {tick : Nat} {db db' : Db}

/-- The rules a call has read. -/
abbrev Know : Type := List Rule

/-- What a call may send: outages of rules it has read. -/
def sent (know : Know) : (op : Stmt) → Option (op.Res → Know)
  | .enabledRules _ => some fun rules => rules
  | .insertOutage _ rule _ => if rule ∈ know then some fun _ => know else none
  | _ => some fun _ => know

/-- Answers teach nothing. -/
def asked (know : Know) :
    (q : Outside Stmt Query) → Option ((Outside.Answer Answer : Outside Stmt Query → Type) q → Know) :=
  fun _ => some fun _ => know

/-- What calls keep to. -/
abbrev tracking : Discipline Know Stmt Stmt.Res (Outside Stmt Query) (Outside.Answer Answer) :=
  Discipline.pooled sent asked

theorem silent : Silent tracking := ⟨fun _ _ => rfl, fun _ _ => rfl⟩

/-- A statement on the pool that reads no rules, and raises outages of rules that were read. -/
def Permitted (know : Know) (via : Via) : Stmt → Prop
  | .insertOutage _ rule _ => via = .pool ∧ rule ∈ know
  | .enabledRules _ => False
  | _ => via = .pool

variable {know : Know}

theorem keeps_permitted {A : Type} {p : Body A} (h : p.run.Within (Permitted know)) :
    Keeps tracking know p (fun _ known => known = know) fun _ => True := by
  refine keeps_within h (fun via op hop => ?_) (fun _ => rfl) trivial
  cases op with
  | insertOutage organizationId rule deviceId =>
    obtain ⟨rfl, hrule⟩ := hop
    exact if_pos hrule
  | enabledRules => exact hop.elim
  | _ =>
    obtain rfl : via = .pool := hop
    rfl

theorem within_swallowed {p : Body Unit} (h : p.run.Within (Permitted know)) :
    (Client.swallowed p).run.Within (Permitted know) :=
  within_bind (within_attempted h) fun _ => trivial

theorem within_onlyIf {condition : Bool} {p : Body Unit} (h : p.run.Within (Permitted know)) :
    (onlyIf condition p).run.Within (Permitted know) := by
  unfold onlyIf
  split_ifs
  · exact h
  · trivial

variable {rule : Rule}

theorem within_autoCreateOutage (h : rule ∈ know) (organizationId deviceId : Nat) :
    (autoCreateOutage organizationId rule deviceId).run.Within (Permitted know) := by
  refine within_swallowed (within_bind (within_statement rfl) fun existing => ?_)
  split_ifs
  · trivial
  · exact within_bind (within_statement ⟨rfl, h⟩) fun _ =>
      within_bind within_orThrow fun _ => within_asked _

theorem within_followUp (h : rule ∈ know) (organizationId : Nat) (breach : Breach) (eventId : Nat) :
    (followUp organizationId rule breach eventId).run.Within (Permitted know) := by
  refine within_bind (within_statement rfl) fun _ => within_bind
    (within_onlyIf (within_asked _)) fun _ => ?_
  cases breach.deviceId with
  | none => trivial
  | some deviceId =>
    exact within_bind (within_onlyIf (within_autoCreateOutage h organizationId deviceId))
      fun _ => within_onlyIf (within_asked _)

theorem within_checkAndRecord (know : Know) (organizationId : Nat) (rule : Rule) :
    (checkAndRecord organizationId rule).run.Within (Permitted know) := by
  have hcheck : (checkRule rule).run.Within (Permitted know) := by
    unfold checkRule
    split_ifs
    · exact within_bind (within_statement rfl) fun _ => trivial
    · trivial
  refine within_bind hcheck fun breached => ?_
  cases breached with
  | none => trivial
  | some breach =>
    have hwindow : (activeWindow organizationId breach.deviceId).run.Within
        (Permitted know) := by
      cases breach.deviceId with
      | none => trivial
      | some deviceId => exact within_statement rfl
    refine within_bind hwindow fun window => ?_
    cases window with
    | some windowId =>
      exact within_bind (within_swallowed (within_bind (within_statement rfl) fun _ =>
        within_bind within_orThrow fun _ => trivial)) fun _ => trivial
    | none =>
      exact within_bind (within_bind (within_statement rfl) fun _ => within_orThrow)
        fun _ => trivial

theorem within_evaluateRules (organizationId : Nat) (rules : List Rule)
    (h : ∀ rule ∈ rules, rule ∈ know) :
    (evaluateRules organizationId rules).run.Within (Permitted know) := by
  induction rules with
  | nil => trivial
  | cons rule rules ih =>
    have hrule : (evaluateRule organizationId rule).run.Within (Permitted know) := by
      refine within_bind (within_attempted (within_checkAndRecord know organizationId rule))
        fun checked => ?_
      match checked with
      | .error _ => trivial
      | .ok .quiet => trivial
      | .ok .suppressed => trivial
      | .ok (.triggered breach eventId) =>
        exact within_bind (within_swallowed (within_followUp (h rule List.mem_cons_self)
          organizationId breach eventId)) fun _ => trivial
    exact within_bind hrule fun _ =>
      within_bind (ih fun rule hmem => h rule (List.mem_cons_of_mem _ hmem)) fun _ => trivial

theorem follows_run (call : Call) : call.run.Follows tracking [] fun _ _ => True := by
  have hends : ∀ {p : Body (Option Evaluation)}, p.run.Within (Permitted []) →
      p.run.Follows tracking [] fun _ _ => True :=
    fun h => Prog.Follows.mono (keeps_permitted h) fun _ _ _ => trivial
  cases call with
  | evaluate organizationId =>
    have hevaluate : Keeps tracking [] (evaluateAlerts organizationId) (fun _ _ => True)
        fun _ => True := by
      have hread : Keeps tracking [] (statement (.enabledRules organizationId))
          (fun rules know => know = rules) fun _ => True :=
        keeps_statement silent rfl trivial
      refine hread.bind fun rules know hknow => ?_
      rw [hknow]
      have hrules : Keeps tracking rules (evaluateRules organizationId rules)
          (fun _ _ => True) fun _ => True :=
        (keeps_permitted (within_evaluateRules organizationId rules fun _ h => h)).mono
          (fun _ _ _ => trivial) fun _ _ => trivial
      exact hrules.bind fun _ _ _ => keeps_pure trivial
    have hall : Keeps tracking [] (Call.evaluate organizationId).body (fun _ _ => True)
        fun _ => True := hevaluate.bind fun _ _ _ => keeps_pure trivial
    exact Prog.Follows.mono hall fun _ _ _ => trivial
  | resolve outageId => exact hends (within_bind (within_statement rfl) fun _ => trivial)
  | delete outageId => exact hends (within_bind (within_statement rfl) fun _ => trivial)
  | observe readings => exact hends (within_bind (within_statement rfl) fun _ => trivial)

/-- An outage is inserted only where the one that was asked for is still not there. -/
def InsertsNew (same : String → String → Bool) (db : Db) :
    Act Stmt (Outside Stmt Query) (Outside.Answer Answer) → Prop
  | .sends (.insertOutage organizationId rule deviceId) =>
    ∀ outage ∈ db.outages, ¬outage.Matches same organizationId deviceId rule.title
  | _ => True

instance (same : String → String → Bool) (db : Db) : DecidablePred (InsertsNew same db) := by
  intro act
  unfold InsertsNew
  split <;> infer_instance

def Outage.Twin (a b : Outage) : Prop :=
  a.Live ∧ b.Live ∧ a.alertRuleId ≠ none ∧ a.alertRuleId = b.alertRuleId ∧
    a.organizationId = b.organizationId ∧ a.deviceId = b.deviceId

/-- A rule has at most one outage that goes on for each organization and device, under its title. -/
structure Orderly (tick : Nat) (db : Db) : Prop where
  rulesKeyed : Table.Keyed Rule.id db.rules
  keyed : Table.Keyed Outage.id db.outages
  below : ∀ outage ∈ db.outages, outage.id < tick
  titled : ∀ outage ∈ db.outages, outage.Live → ∀ ruleId, outage.alertRuleId = some ruleId →
    ∃ rule ∈ db.rules, rule.id = ruleId ∧ outage.title = rule.title
  single : ∀ a ∈ db.outages, ∀ b ∈ db.outages, a.Twin b → a.id = b.id

theorem Orderly.later (h : Orderly tick db) : Orderly (tick + 1) db :=
  { h with below := fun outage houtage => Nat.lt_succ_of_lt (h.below outage houtage) }

theorem Orderly.congr (h : Orderly tick db) (hrules : db'.rules = db.rules)
    (houtages : db'.outages = db.outages) : Orderly (tick + 1) db' := by
  obtain ⟨hkeyed, hids, hbelow, htitled, hsingle⟩ := h.later
  refine ⟨hrules ▸ hkeyed, houtages ▸ hids, houtages ▸ hbelow, ?_, houtages ▸ hsingle⟩
  rw [hrules, houtages]
  exact htitled

theorem Orderly.ended (h : Orderly tick db) (id : Nat) {change : Outage → Outage}
    (hid : ∀ outage, (change outage).id = outage.id) (hended : ∀ outage, ¬(change outage).Live) :
    Orderly (tick + 1) (db.changeOutage id change) := by
  have hlive : ∀ outage ∈ (db.changeOutage id change).outages, outage.Live →
      outage ∈ db.outages := by
    intro outage hmem hlive
    obtain ⟨old, hold, rfl⟩ := List.mem_map.mp hmem
    by_cases hsame : old.id = id
    · rw [if_pos hsame] at hlive
      exact absurd hlive (hended old)
    · rwa [if_neg hsame]
  refine ⟨h.rulesKeyed, Table.keyed_modify h.keyed hid, fun outage hmem => ?_,
    fun outage hmem hon ruleId hrule => ?_, fun a ha b hb htwin => ?_⟩
  · obtain ⟨old, hold, rfl⟩ := List.mem_map.mp hmem
    have hlt := h.below old hold
    split_ifs
    · rw [hid]
      omega
    · omega
  · exact h.titled outage (hlive outage hmem hon) hon ruleId hrule
  · exact h.single a (hlive a ha htwin.1) b (hlive b hb htwin.2.1) htwin

theorem Orderly.inserted (hsame : ∀ title, same title title = true) (h : Orderly tick db)
    {organizationId deviceId : Nat} (hrule : rule ∈ db.rules)
    (hnew : ∀ outage ∈ db.outages, ¬outage.Matches same organizationId deviceId rule.title)
    (severity : OutageSeverity) :
    Orderly (tick + 1) { db with
      outages := db.outages ++ [⟨tick, some organizationId, some deviceId, rule.title, severity,
        .ongoing, false, some rule.id⟩] } := by
  have hcases : ∀ {outage added : Outage}, outage ∈ db.outages ++ [added] →
      outage ∈ db.outages ∨ outage = added :=
    fun hmem => (List.mem_append.mp hmem).imp_right List.mem_singleton.mp
  -- An older one of the rule would have been found under its title.
  have hother : ∀ old ∈ db.outages, old.Live → old.alertRuleId = some rule.id →
      old.organizationId = some organizationId → old.deviceId = some deviceId → False := by
    intro old hold hlive hof horganization hdevice
    obtain ⟨rule', hrule', hid, htitle⟩ := h.titled old hold hlive rule.id hof
    obtain rfl : rule' = rule := List.inj_on_of_nodup_map h.rulesKeyed hrule' hrule hid
    exact hnew old hold ⟨hlive, horganization, hdevice, htitle ▸ hsame _⟩
  refine ⟨h.rulesKeyed, ?_, fun outage hmem => ?_, fun outage hmem hlive ruleId hof => ?_,
    fun a ha b hb htwin => ?_⟩
  · unfold Table.Keyed
    rw [List.map_append]
    refine List.nodup_append.mpr ⟨h.keyed, List.nodup_singleton _, ?_⟩
    rintro id hid _ hadded rfl
    obtain ⟨old, hold, hsameId⟩ := List.mem_map.mp hid
    have hlt := h.below old hold
    have htick : id = tick := List.mem_singleton.mp hadded
    omega
  · rcases hcases hmem with hold | rfl
    · exact Nat.lt_succ_of_lt (h.below outage hold)
    · exact Nat.lt_succ_self tick
  · rcases hcases hmem with hold | rfl
    · exact h.titled outage hold hlive ruleId hof
    · exact ⟨rule, hrule, Option.some.inj hof, rfl⟩
  · have htwins := htwin
    obtain ⟨halive, hblive, -, hof, horganization, hdevice⟩ := htwins
    rcases hcases ha with hold | rfl <;> rcases hcases hb with hold' | rfl
    · exact h.single a hold b hold' htwin
    · exact (hother a hold halive hof horganization hdevice).elim
    · exact (hother b hold' hblive hof.symm horganization.symm hdevice.symm).elim
    · rfl

/-- What holds of calls on the database. -/
structure OutageInv (tick : Nat) (db : Db) (knows : Nat → Option Know) : Prop where
  orderly : Orderly tick db
  known : ∀ i know, knows i = some know → ∀ rule ∈ know, rule ∈ db.rules

theorem rules_exec (op : Stmt) :
    ((engine arrange same).visible db (exec arrange same op tick db db).2).rules = db.rules := by
  have hrecorded : ∀ organizationId rule breach windowId,
      ((engine arrange same).visible db
        (recorded tick organizationId rule breach windowId db).2).rules = db.rules := by
    intro organizationId rule breach windowId
    unfold recorded
    split_ifs <;> rfl
  cases op with
  | recordSuppressed organizationId rule breach windowId => exact hrecorded _ _ _ _
  | record rule breach => exact hrecorded _ _ _ _
  | insertOutage organizationId rule deviceId =>
    change ((engine arrange same).visible db
      (outageInserted tick organizationId rule deviceId).2).rules = db.rules
    unfold outageInserted
    cases rule.severity.ofOutage <;> rfl
  | _ => rfl

theorem Orderly.exec (hsame : ∀ title, same title title = true) (h : Orderly tick db) (op : Stmt)
    (hmay : InsertsNew same db (.sends op))
    (hrule : ∀ organizationId rule deviceId, op = .insertOutage organizationId rule deviceId →
      rule ∈ db.rules) :
    Orderly (tick + 1)
      ((engine arrange same).visible db (exec arrange same op tick db db).2) := by
  have hrecorded : ∀ organizationId rule breach windowId,
      Orderly (tick + 1) ((engine arrange same).visible db
        (recorded tick organizationId rule breach windowId db).2) := by
    intro organizationId rule breach windowId
    unfold recorded
    split_ifs
    · exact h.congr rfl rfl
    · exact h.later
  cases op with
  | recordSuppressed organizationId rule breach windowId => exact hrecorded _ _ _ _
  | record rule breach => exact hrecorded _ _ _ _
  | insertOutage organizationId rule deviceId =>
    change Orderly (tick + 1) ((engine arrange same).visible db
      (outageInserted tick organizationId rule deviceId).2)
    unfold outageInserted
    cases rule.severity.ofOutage with
    | none => exact h.later
    | some severity => exact h.inserted hsame (hrule _ _ _ rfl) hmay severity
  | resolveOutage id => exact h.ended id (fun _ => rfl) fun _ hlive => nomatch hlive.1
  | deleteOutage id => exact h.ended id (fun _ => rfl) fun _ hlive => nomatch hlive.2
  | observe readings => exact h.congr rfl rfl
  | _ => exact h.later

theorem known_sent {op : Stmt} {learn : op.Res → Know} (hknow : ∀ rule ∈ know, rule ∈ db.rules)
    (hk : sent know op = some learn) :
    ∀ rule ∈ learn (exec arrange same op tick db db).1, rule ∈ db.rules := by
  cases op with
  | enabledRules organizationId =>
    obtain rfl := Option.some.inj hk
    exact fun rule hrule => List.mem_of_mem_filter hrule
  | insertOutage organizationId rule deviceId =>
    simp only [sent] at hk
    split_ifs at hk
    obtain rfl := Option.some.inj hk
    exact hknow
  | _ =>
    obtain rfl := Option.some.inj hk
    exact hknow

theorem OutageInv.step (hsame : ∀ title, same title title = true) {i : Nat}
    {knows : Nat → Option Know} {know' : Option Know} (h : OutageInv tick db knows)
    (hd : Pooled (engine arrange same) sent asked (InsertsNew same db) tick db (knows i) db'
      know') :
    OutageInv (tick + 1) db' (Function.update knows i know') := by
  have hupdate : ∀ {rules : List Rule}, rules = db.rules →
      (∀ know, know' = some know → ∀ rule ∈ know, rule ∈ db.rules) →
      ∀ j know, Function.update knows i know' j = some know → ∀ rule ∈ know, rule ∈ rules := by
    rintro _ rfl hself j know hj
    by_cases hji : j = i
    · subst hji
      rw [Function.update_self] at hj
      exact hself know hj
    · rw [Function.update_of_ne hji] at hj
      exact h.known j know hj
  generalize hknow : knows i = known at hd
  cases hd with
  | idle => exact ⟨h.orderly.later, hupdate rfl fun know hk => h.known i know (hknow.trans hk)⟩
  | cut => exact ⟨h.orderly.later, hupdate rfl nofun⟩
  | call know q learn hk answer hmay =>
    obtain rfl := Option.some.inj hk
    refine ⟨h.orderly.later, hupdate rfl fun known hknown => ?_⟩
    obtain rfl := Option.some.inj hknown
    exact h.known i know hknow
  | send know op learn hk hmay =>
    refine ⟨h.orderly.exec hsame op hmay ?_, hupdate (rules_exec op) fun known hknown => ?_⟩
    · rintro organizationId rule deviceId rfl
      refine h.known i know hknow rule ?_
      simp only [sent] at hk
      split_ifs at hk with hrule
      exact hrule
    · obtain rfl := Option.some.inj hknown
      exact known_sent (h.known i know hknow) hk

theorem outages_single (hsame : ∀ title, same title title = true) (h : Orderly tick db)
    (calls : Nat → Call) {labels : List Choice}
    (hrun : (opening tick db calls).Keeping (engine arrange same)
      (fun s => InsertsNew same s.db) labels) :
    let s' := Transition.run (Sys.step (engine arrange same)) (opening tick db calls) labels
    ∀ a ∈ s'.db.outages, ∀ b ∈ s'.db.outages, a.Twin b → a = b := by
  intro s'
  have hinv : OutageInv tick db fun _ => some [] := by
    refine ⟨h, fun i know hknow rule hrule => ?_⟩
    obtain rfl := Option.some.inj hknow
    exact absurd hrule List.not_mem_nil
  have htracks : ∀ i, TracksTo _ (fun _ _ => True) ((opening tick db calls).sessions i)
      ⟨some [], none⟩ := fun i =>
    ⟨rfl, fun p hp => ⟨[], rfl, Option.some.inj hp ▸ follows_run (calls i)⟩⟩
  obtain ⟨knows, hend, -⟩ := Sys.run_pooled (fun _ _ _ _ _ _ hinv hd => hinv.step hsame hd)
    hinv htracks hrun
  intro a ha b hb htwin
  exact List.inj_on_of_nodup_map hend.orderly.keyed ha hb
    (hend.orderly.single a ha b hb htwin)

end FireIsp.Alerts
