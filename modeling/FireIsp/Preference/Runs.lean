import FireIsp.Base.Fallible
import FireIsp.Preference.Meaning

/-!
# Sequences of calls

Writes, grants and contact changes over any set of clients; a call that throws is rolled back.
-/

namespace FireIsp.Preference

open Fallible

inductive Call
  | write (organizationId : Option Nat) (clientId : Nat) (write : PreferenceWrite)
  | setPreferences (organizationId : Option Nat) (clientId : Nat) (writes : List PreferenceWrite)
  | consent (organizationId : Option Nat) (clientId : Nat) (purpose : Purpose)
      (channel : Option Channel)
  | signed (organizationId : Option Nat) (clientId : Nat) (choices : Channel → Bool)
  | update (clientId : Nat) (update : ClientUpdate)

def Call.clientId : Call → Nat
  | .write _ clientId _ => clientId
  | .setPreferences _ clientId _ => clientId
  | .consent _ clientId _ _ => clientId
  | .signed _ clientId _ => clientId
  | .update clientId _ => clientId

/-- What a call does. -/
def Call.perform (now : Nat) : Call → Db → Except Failure Db
  | .write organizationId clientId preference, db => do
      let (_, db) ← writePreferenceWithRun now organizationId clientId preference db
      return db
  | .setPreferences organizationId clientId writes, db => do
      let (_, db) ← setClientPreferences now organizationId clientId writes db
      return db
  | .consent organizationId clientId purpose channel, db =>
    postConsent now organizationId clientId purpose channel db
  | .signed organizationId clientId choices, db =>
    recordSignedChoices now organizationId clientId choices db
  | .update clientId change, db => .ok (updateClient clientId change db)

def choiceEvents (clientId : Nat) (choices : Channel → Bool) (channel : Channel) : List Event :=
  if choices channel then [.wrote clientId (.one channel) false, .granted clientId channel]
  else [.wrote clientId (.one channel) true]

/-- The events of a call that does not throw. -/
def Call.events : Call → Db → List Event
  | .write _ clientId preference, _ => [.wrote clientId preference.channel preference.optOut]
  | .setPreferences _ clientId writes, _ =>
    writes.map fun write => .wrote clientId write.channel write.optOut
  | .consent _ clientId .marketing (some channel), _ =>
    [.granted clientId channel, .wrote clientId (.one channel) false]
  | .consent _ _ _ _, _ => []
  | .signed _ clientId choices, _ =>
    .wrote clientId .all false :: channels.flatMap (choiceEvents clientId choices)
  | .update clientId change, db => (change.moved clientId db).map (Event.moved clientId)

/-- The tables after a sequence of calls, and its history. -/
def run : List (Nat × Call) → Db → Db × List Event
  | [], db => (db, [])
  | (now, call) :: calls, db =>
    match call.perform now db with
    | .error _ => run calls db
    | .ok db' => ((run calls db').1, call.events db ++ (run calls db').2)

theorem run_cons (now : Nat) (call : Call) (calls : List (Nat × Call)) (db : Db) :
    run ((now, call) :: calls) db =
      match call.perform now db with
      | .error _ => run calls db
      | .ok db' => ((run calls db').1, call.events db ++ (run calls db').2) := rfl

variable {db db' : Db} {history : List Event} {organizationId o : Option Nat}
  {clientId k now : Nat} {client : Client}

theorem writePreferenceWithRun_ok {write : PreferenceWrite} {row : Option Preference}
    (h : writePreferenceWithRun now organizationId clientId write db = .ok (row, db')) :
    (∃ client, db.client organizationId clientId = some client) ∧
      db' = applyPreference now organizationId clientId write db := by
  unfold writePreferenceWithRun at h
  split at h
  · exact nomatch h
  · rename_i client hclient
    exact ⟨⟨client, hclient⟩, ((Prod.mk.inj (Except.ok.inj h)).2).symm⟩

theorem client_applyPreference (write : PreferenceWrite) (db : Db) :
    (applyPreference now organizationId clientId write db).client o k = db.client o k := by
  unfold Db.client
  rw [clients_applyPreference]

theorem Means.write (h : Means db history) {write : PreferenceWrite} {row : Option Preference}
    (hwrite : writePreferenceWithRun now organizationId clientId write db = .ok (row, db')) :
    Means db' (history ++ [.wrote clientId write.channel write.optOut]) := by
  obtain ⟨⟨client, hclient⟩, rfl⟩ := writePreferenceWithRun_ok hwrite
  exact h.wrote hclient write

theorem Means.writes {writes : List PreferenceWrite} {rows : List (Option Preference)}
    (h : Means db history)
    (hwrites : writePreferences now organizationId clientId writes db = .ok (rows, db')) :
    Means db' (history ++
      writes.map fun write => .wrote clientId write.channel write.optOut) := by
  induction writes generalizing db history rows with
  | nil =>
    obtain ⟨-, rfl⟩ := Prod.mk.inj (Except.ok.inj hwrites)
    rwa [List.map_nil, List.append_nil]
  | cons write writes ih =>
    obtain ⟨⟨row, db₁⟩, hwrite, hrest⟩ := ok_of_bind hwrites
    have hthen : (writePreferences now organizationId clientId writes db₁ >>= fun rest =>
        Except.ok (row :: rest.1, rest.2)) = .ok (rows, db') := hrest
    obtain ⟨⟨rest, db₂⟩, hrest', hend⟩ := ok_of_bind hthen
    obtain ⟨-, rfl⟩ := Prod.mk.inj (Except.ok.inj hend)
    rw [List.map_cons, List.append_cons]
    exact ih (h.write hwrite) hrest'

theorem preserveVeto_withdrawConsents (covered : Channel → Bool) (db : Db) (c : Channel) :
    preserveVeto organizationId clientId
        (withdrawConsents now organizationId clientId covered db) c =
      withdrawConsents now organizationId clientId covered
        (preserveVeto organizationId clientId db c) := by
  have hveto : (withdrawConsents now organizationId clientId covered db).vetoed organizationId
      clientId .all = db.vetoed organizationId clientId .all := rfl
  unfold preserveVeto
  rw [hveto]
  split_ifs <;> rfl

theorem applyPreference_withdrawConsents (covered : Channel → Bool) {write : PreferenceWrite}
    (h : write.optOut = false) (db : Db) :
    applyPreference now organizationId clientId write
        (withdrawConsents now organizationId clientId covered db) =
      withdrawConsents now organizationId clientId covered
        (applyPreference now organizationId clientId write db) := by
  obtain ⟨channel, optOut, start, stop, reason⟩ := write
  obtain rfl : optOut = false := h
  cases channel with
  | all => rfl
  | one channel =>
    have hpreserved : ∀ others : List Channel, others.foldl (preserveVeto organizationId clientId)
        (withdrawConsents now organizationId clientId covered db) =
        withdrawConsents now organizationId clientId covered
          (others.foldl (preserveVeto organizationId clientId) db) := by
      intro others
      induction others generalizing db with
      | nil => rfl
      | cons other others ih =>
        rw [List.foldl_cons, List.foldl_cons, preserveVeto_withdrawConsents, ih]
    simp only [applyPreference, supersedeBlanket, Bool.false_eq_true, if_false, hpreserved]
    rfl

theorem withdrawConsents_idem (covered : Channel → Bool) (db : Db) :
    withdrawConsents now organizationId clientId covered
        (withdrawConsents now organizationId clientId covered db) =
      withdrawConsents now organizationId clientId covered db := by
  unfold withdrawConsents
  simp only [List.map_map]
  congr 1
  refine List.map_congr_left fun consent _ => ?_
  rw [Function.comp_apply]
  by_cases h : consent.grants organizationId clientId covered = true
  · rw [if_pos h, if_neg]
    simp [Consent.grants]
  · rw [if_neg h, if_neg h]

theorem applyPreference_optOut (channel : Channel) (reason : Option String) (db : Db) :
    applyPreference now organizationId clientId
        { channel := .one channel, optOut := true, reason := reason }
        (withdrawConsents now organizationId clientId (fun c => c = channel) db) =
      applyPreference now organizationId clientId
        { channel := .one channel, optOut := true, reason := reason } db := by
  have hcovers : (fun c => decide (c = channel)) = (PreferenceChannel.one channel).covers := by
    funext c
    exact decide_eq_decide.mpr eq_comm
  rw [hcovers]
  exact congrArg (upsertPreference _) (withdrawConsents_idem _ db)

theorem Means.choice (h : Means db history)
    (hclient : db.client organizationId clientId = some client) {choices : Channel → Bool}
    {channel : Channel} (hchoice : recordChoice now organizationId client choices db channel = .ok db') :
    Means db' (history ++ choiceEvents clientId choices channel) ∧
      db'.client organizationId clientId = some client := by
  obtain ⟨-, hid, -⟩ := db.client_eq_some hclient
  obtain rfl := hid
  unfold recordChoice at hchoice
  obtain ⟨⟨row, db₁⟩, hwrite, hrest⟩ := ok_of_bind hchoice
  obtain ⟨-, rfl⟩ := writePreferenceWithRun_ok hwrite
  unfold choiceEvents
  cases hgranted : choices channel with
  | true =>
    simp only [hgranted, if_true] at hrest ⊢
    obtain rfl := Except.ok.inj hrest
    have hgrant : ∀ db : Db, (grantConsent now organizationId client.id channel
        (client.epoch channel.contact) db).client organizationId client.id =
        db.client organizationId client.id := fun _ => rfl
    rw [applyPreference_withdrawConsents _ rfl, List.append_cons]
    refine ⟨(h.wrote hclient _).granted ?_ channel, (hgrant _).trans ?_⟩
    · rw [client_applyPreference, hclient]
    · rw [client_applyPreference, hclient]
  | false =>
    simp only [hgranted, Bool.false_eq_true, if_false] at hrest ⊢
    obtain rfl := Except.ok.inj hrest
    rw [Bool.not_false, applyPreference_optOut]
    refine ⟨h.wrote hclient _, ?_⟩
    rw [client_applyPreference, hclient]

theorem Means.choices (h : Means db history)
    (hclient : db.client organizationId clientId = some client) {choices : Channel → Bool}
    {asked : List Channel}
    (hchoices : asked.foldlM (recordChoice now organizationId client choices) db = .ok db') :
    Means db' (history ++ asked.flatMap (choiceEvents clientId choices)) := by
  induction asked generalizing db history with
  | nil =>
    obtain rfl := Except.ok.inj hchoices
    rwa [List.flatMap_nil, List.append_nil]
  | cons channel asked ih =>
    rw [List.foldlM_cons] at hchoices
    obtain ⟨db₁, hchoice, hrest⟩ := ok_of_bind hchoices
    obtain ⟨hmeans, hclient'⟩ := h.choice hclient hchoice
    rw [List.flatMap_cons, ← List.append_assoc]
    exact ih hmeans hclient' hrest

theorem Means.signed (h : Means db history) {choices : Channel → Bool}
    (hsigned : recordSignedChoices now organizationId clientId choices db = .ok db') :
    Means db' (history ++ .wrote clientId .all false ::
      channels.flatMap (choiceEvents clientId choices)) := by
  unfold recordSignedChoices at hsigned
  split at hsigned
  · exact nomatch hsigned
  rename_i client hclient
  split_ifs at hsigned
  obtain ⟨⟨row, db₁⟩, hwrite, hrest⟩ := ok_of_bind hsigned
  obtain ⟨-, rfl⟩ := writePreferenceWithRun_ok hwrite
  rw [List.append_cons]
  refine (h.wrote hclient _).choices ?_ hrest
  rw [client_applyPreference, hclient]

variable {purpose : Purpose}

theorem Means.otherConsent (h : Means db history)
    (hclient : db.client organizationId clientId = some client) (hpurpose : purpose ≠ .marketing) :
    Means (insertConsent organizationId clientId purpose none 0 db) history := by
  obtain ⟨hmem, hid, -⟩ := db.client_eq_some hclient
  refine ⟨h.optedOut, fun other hother c => ?_,
    epochs_insertConsent h.epochs hmem hid _ _ fun _ hnone => nomatch hnone⟩
  rw [hasMarketingConsent_insertConsent, ← h.consented other hother c]
  simp [hpurpose]

theorem Means.marketingConsent (h : Means db history) {channel : Channel}
    (hconsent : postConsent now organizationId clientId .marketing (some channel) db = .ok db') :
    Means db' (history ++ [.granted clientId channel, .wrote clientId (.one channel) false]) := by
  unfold postConsent at hconsent
  dsimp only at hconsent
  split at hconsent
  · exact nomatch hconsent
  rename_i client hclient
  split_ifs at hconsent
  obtain ⟨⟨row, db₁⟩, hwrite, hrest⟩ := ok_of_bind hconsent
  obtain rfl := Except.ok.inj hrest
  rw [List.append_cons]
  exact (h.granted hclient _).write hwrite

theorem postConsent_other (h : purpose ≠ .marketing) :
    postConsent now organizationId clientId purpose none db =
      match db.client organizationId clientId with
      | none => .error (.notFound "Client")
      | some client =>
        if client.status = .inactive then
          .error (.validation "Marketing consent cannot be granted for an inactive client")
        else .ok (insertConsent organizationId clientId purpose none 0 db) := by
  cases purpose with
  | marketing => exact absurd rfl h
  | serviceDelivery => rfl
  | analytics => rfl
  | thirdPartySharing => rfl
  | lawfulRetention => rfl

theorem Means.consent (h : Means db history) {channel : Option Channel}
    (hconsent : postConsent now organizationId clientId purpose channel db = .ok db') :
    Means db' (history ++ (Call.consent organizationId clientId purpose channel).events db) := by
  cases channel with
  | none =>
    have hevents : (Call.consent organizationId clientId purpose none).events db = [] := by
      cases purpose <;> rfl
    have hother : purpose ≠ .marketing := by
      rintro rfl
      exact nomatch hconsent
    rw [hevents, List.append_nil]
    rw [postConsent_other hother] at hconsent
    split at hconsent
    · exact nomatch hconsent
    rename_i client hclient
    split_ifs at hconsent
    obtain rfl := Except.ok.inj hconsent
    exact h.otherConsent hclient hother
  | some channel =>
    cases purpose with
    | marketing => exact h.marketingConsent hconsent
    | serviceDelivery => exact nomatch hconsent
    | analytics => exact nomatch hconsent
    | thirdPartySharing => exact nomatch hconsent
    | lawfulRetention => exact nomatch hconsent

theorem Means.perform (h : Means db history) {call : Call} (hcall : call.perform now db = .ok db') :
    Means db' (history ++ call.events db) := by
  cases call with
  | write organizationId clientId preference =>
    obtain ⟨⟨row, db₁⟩, hwrite, hend⟩ := ok_of_bind hcall
    obtain rfl := Except.ok.inj hend
    exact h.write hwrite
  | setPreferences organizationId clientId writes =>
    obtain ⟨⟨rows, db₁⟩, hwrites, hend⟩ := ok_of_bind hcall
    obtain rfl := Except.ok.inj hend
    unfold setClientPreferences at hwrites
    split_ifs at hwrites
    exact h.writes hwrites
  | consent organizationId clientId purpose channel => exact h.consent hcall
  | signed organizationId clientId choices => exact h.signed hcall
  | update clientId change =>
    obtain rfl := Except.ok.inj hcall
    exact h.moved clientId change

theorem Means.run (h : Means db history) (calls : List (Nat × Call)) :
    Means (run calls db).1 (history ++ (run calls db).2) := by
  induction calls generalizing db history with
  | nil =>
    change Means db (history ++ [])
    rwa [List.append_nil]
  | cons timed calls ih =>
    obtain ⟨now, call⟩ := timed
    rw [run_cons]
    cases hcall : call.perform now db with
    | error failure => exact ih h
    | ok db' =>
      dsimp only
      rw [← List.append_assoc]
      exact ih (h.perform hcall)

theorem means_nil (hpreferences : db.preferences = []) (hconsents : db.consents = []) :
    Means db [] := by
  refine ⟨fun client _ c => ?_, fun client _ c => ?_, fun _ _ consent hconsent => ?_⟩
  · simp [Db.optedOut, Db.vetoed, hpreferences, not_optedOut_nil]
  · simp [Db.hasMarketingConsent, hconsents, Consented, History.not_since_nil]
  · rw [hconsents] at hconsent
    exact absurd hconsent List.not_mem_nil

end FireIsp.Preference
