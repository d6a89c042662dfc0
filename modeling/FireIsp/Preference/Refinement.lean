import FireIsp.Preference.Runs

/-!
# Evaluation refines the meaning of the calls

After every sequence of calls `evaluateWithRun` answers what the history means, and a call about one
client never changes the answer for another.
-/

namespace FireIsp.Preference

open Fallible

variable {db db' db'' : Db} {organizationId : Option Nat} {clientId k now : Nat} {client : Client}

/-- Nothing that is asked about a client differs. -/
structure SameFor (k : Nat) (db db' : Db) : Prop where
  organizations : db'.organizations = db.organizations
  client : ∀ o, db'.client o k = db.client o k
  vetoed : ∀ o channel, db'.vetoed o k channel = db.vetoed o k channel
  consented : ∀ client : Client, client.id = k → ∀ channel,
    db'.hasMarketingConsent client channel = db.hasMarketingConsent client channel

theorem SameFor.refl (k : Nat) (db : Db) : SameFor k db db :=
  ⟨rfl, fun _ => rfl, fun _ _ => rfl, fun _ _ _ => rfl⟩

theorem SameFor.trans (h : SameFor k db db') (h' : SameFor k db' db'') : SameFor k db db'' where
  organizations := h'.organizations.trans h.organizations
  client o := (h'.client o).trans (h.client o)
  vetoed o channel := (h'.vetoed o channel).trans (h.vetoed o channel)
  consented client hid channel := (h'.consented client hid channel).trans (h.consented client hid channel)

theorem sameFor_applyPreference (h : clientId ≠ k) (write : PreferenceWrite) (db : Db) :
    SameFor k db (applyPreference now organizationId clientId write db) where
  organizations := by
    have hrest : (applyPreference now organizationId clientId write db).rest = _ :=
      rest_applyPreference write db
    have horganizations := congrArg Prod.fst hrest
    split_ifs at horganizations
    · exact horganizations
    · exact horganizations
  client _ := client_applyPreference write db
  vetoed _ _ := vetoed_applyPreference_other (Ne.symm h) write db _
  consented client hid channel := by
    rw [hasMarketingConsent_applyPreference, hid, decide_eq_false (Ne.symm h)]
    simp

theorem sameFor_withdrawConsents (h : clientId ≠ k) (covered : Channel → Bool) (db : Db) :
    SameFor k db (withdrawConsents now organizationId clientId covered db) where
  organizations := rfl
  client _ := rfl
  vetoed _ _ := rfl
  consented client hid channel := by
    rw [hasMarketingConsent_withdrawConsents, hid, decide_eq_false (Ne.symm h)]
    simp

theorem sameFor_insertConsent (h : clientId ≠ k) (purpose : Purpose) (channel : Option Channel)
    (epoch : Nat) (db : Db) :
    SameFor k db (insertConsent organizationId clientId purpose channel epoch db) where
  organizations := rfl
  client _ := rfl
  vetoed _ _ := rfl
  consented client hid c := by
    rw [hasMarketingConsent_insertConsent, hid, decide_eq_false h]
    simp

theorem sameFor_updateClient (h : clientId ≠ k) (update : ClientUpdate) (db : Db) :
    SameFor k db (updateClient clientId update db) where
  organizations := rfl
  client o := by
    change List.find? _ (Table.modify Client.id clientId update.applied db.clients) =
      List.find? _ db.clients
    unfold Table.modify
    induction db.clients with
    | nil => rfl
    | cons row rows ih =>
      rw [List.map_cons, List.find?_cons, List.find?_cons, ih]
      split_ifs with hid
      · have hne : (update.applied row).id ≠ k := fun heq => h (hid.symm.trans heq)
        have hne' : row.id ≠ k := hne
        simp [hne, hne']
      · rfl
  vetoed _ _ := rfl
  consented _ _ _ := rfl

theorem sameFor_write (h : clientId ≠ k) {write : PreferenceWrite} {row : Option Preference}
    (hwrite : writePreferenceWithRun now organizationId clientId write db = .ok (row, db')) :
    SameFor k db db' := by
  obtain ⟨-, rfl⟩ := writePreferenceWithRun_ok hwrite
  exact sameFor_applyPreference h write db

theorem sameFor_writes (h : clientId ≠ k) {writes : List PreferenceWrite}
    {rows : List (Option Preference)}
    (hwrites : writePreferences now organizationId clientId writes db = .ok (rows, db')) :
    SameFor k db db' := by
  induction writes generalizing db rows with
  | nil =>
    obtain ⟨-, rfl⟩ := Prod.mk.inj (Except.ok.inj hwrites)
    exact SameFor.refl k _
  | cons write writes ih =>
    obtain ⟨⟨row, db₁⟩, hwrite, hrest⟩ := ok_of_bind hwrites
    have hthen : (writePreferences now organizationId clientId writes db₁ >>= fun rest =>
        Except.ok (row :: rest.1, rest.2)) = .ok (rows, db') := hrest
    obtain ⟨⟨rest, db₂⟩, hrest', hend⟩ := ok_of_bind hthen
    obtain ⟨-, rfl⟩ := Prod.mk.inj (Except.ok.inj hend)
    exact (sameFor_write h hwrite).trans (ih hrest')

theorem sameFor_choices (h : client.id ≠ k) {choices : Channel → Bool} {asked : List Channel}
    (hchoices : asked.foldlM (recordChoice now organizationId client choices) db = .ok db') :
    SameFor k db db' := by
  induction asked generalizing db with
  | nil =>
    obtain rfl := Except.ok.inj hchoices
    exact SameFor.refl k _
  | cons channel asked ih =>
    rw [List.foldlM_cons] at hchoices
    obtain ⟨db₁, hchoice, hrest⟩ := ok_of_bind hchoices
    refine SameFor.trans ?_ (ih hrest)
    unfold recordChoice at hchoice
    obtain ⟨⟨row, db₂⟩, hwrite, hend⟩ := ok_of_bind hchoice
    refine (sameFor_withdrawConsents h _ db).trans ((sameFor_write h hwrite).trans ?_)
    dsimp only at hend
    split_ifs at hend
    · obtain rfl := Except.ok.inj hend
      exact sameFor_insertConsent h _ _ _ _
    · obtain rfl := Except.ok.inj hend
      exact SameFor.refl k _

theorem sameFor_consent (h : clientId ≠ k) {purpose : Purpose} {channel : Option Channel}
    (hconsent : postConsent now organizationId clientId purpose channel db = .ok db') :
    SameFor k db db' := by
  unfold postConsent at hconsent
  split at hconsent
  · exact nomatch hconsent
  · split at hconsent
    · exact nomatch hconsent
    split_ifs at hconsent
    obtain ⟨⟨row, db₁⟩, hwrite, hend⟩ := ok_of_bind hconsent
    obtain rfl := Except.ok.inj hend
    exact ((sameFor_withdrawConsents h _ db).trans (sameFor_insertConsent h _ _ _ _)).trans
      (sameFor_write h hwrite)
  · exact nomatch hconsent
  · split at hconsent
    · exact nomatch hconsent
    split_ifs at hconsent
    obtain rfl := Except.ok.inj hconsent
    exact sameFor_insertConsent h _ _ _ _

theorem sameFor_perform {call : Call} (h : call.clientId ≠ k)
    (hcall : call.perform now db = .ok db') : SameFor k db db' := by
  cases call with
  | write organizationId clientId preference =>
    obtain ⟨⟨row, db₁⟩, hwrite, hend⟩ := ok_of_bind hcall
    obtain rfl := Except.ok.inj hend
    exact sameFor_write h hwrite
  | setPreferences organizationId clientId writes =>
    obtain ⟨⟨rows, db₁⟩, hwrites, hend⟩ := ok_of_bind hcall
    obtain rfl := Except.ok.inj hend
    unfold setClientPreferences at hwrites
    split_ifs at hwrites
    exact sameFor_writes h hwrites
  | consent organizationId clientId purpose channel => exact sameFor_consent h hcall
  | signed organizationId clientId choices =>
    change recordSignedChoices _ _ _ _ _ = _ at hcall
    unfold recordSignedChoices at hcall
    split at hcall
    · exact nomatch hcall
    rename_i client hclient
    obtain ⟨-, hid, -⟩ := db.client_eq_some hclient
    split_ifs at hcall
    obtain ⟨⟨row, db₁⟩, hwrite, hrest⟩ := ok_of_bind hcall
    exact (sameFor_write h hwrite).trans (sameFor_choices (hid.trans_ne h) hrest)
  | update clientId change =>
    obtain rfl := Except.ok.inj hcall
    exact sameFor_updateClient h change db

variable {lower : String → String} {request : Request}

theorem evaluateWithRun_congr (h : SameFor request.clientId db db') :
    evaluateWithRun lower request db' = evaluateWithRun lower request db := by
  unfold evaluateWithRun isOrganizationActive
  rw [h.organizations]
  simp only [h.client]
  cases hclient : db.client request.organizationId request.clientId with
  | none => rfl
  | some client =>
    obtain ⟨-, hid, -⟩ := db.client_eq_some hclient
    simp only [Db.optedOut, hid, h.vetoed, h.consented client hid]

theorem evaluateWithRun_perform {call : Call} (h : call.clientId ≠ request.clientId)
    (hcall : call.perform now db = .ok db') :
    evaluateWithRun lower request db' = evaluateWithRun lower request db :=
  evaluateWithRun_congr (sameFor_perform h hcall)

/-- A message can be delivered as far as its organization, its client and its address go. -/
structure Deliverable (lower : String → String) (request : Request) (client : Client) (db : Db) :
    Prop where
  organization : ∃ organizationId, request.organizationId = some organizationId ∧
    isOrganizationActive db organizationId = true
  positive : request.clientId ≠ 0
  found : db.client request.organizationId request.clientId = some client
  status : client.status ≠ .inactive
  destination : destinationMatches lower client request.channel request.destination = true

theorem evaluateWithRun_of_deliverable (h : Deliverable lower request client db) :
    evaluateWithRun lower request db =
      if db.optedOut client.organizationId client.id request.channel then .refused .optedOut
      else if request.messageClass = .marketing ∧
          db.hasMarketingConsent client request.channel = false then .refused .consentRequired
      else .allowed (client.epoch request.channel.contact) := by
  obtain ⟨organizationId, horganization, hactive⟩ := h.organization
  unfold evaluateWithRun
  rw [h.found]
  simp only [horganization, hactive, h.positive, h.status, h.destination, Bool.true_eq_false,
    if_false]

theorem run_concat (calls : List (Nat × Call)) (now : Nat) (call : Call) (db : Db) :
    (run (calls ++ [(now, call)]) db).1 =
      ((call.perform now (run calls db).1).toOption).getD (run calls db).1 := by
  induction calls generalizing db with
  | nil =>
    have hnil : (run [] db).1 = db := rfl
    rw [List.nil_append, run_cons, hnil]
    cases call.perform now db with
    | error failure => rfl
    | ok db' => rfl
  | cons timed calls ih =>
    obtain ⟨time, first⟩ := timed
    rw [List.cons_append, run_cons, run_cons]
    cases first.perform time db with
    | error failure => exact ih db
    | ok db' => exact ih db'

/-- A message is refused, and marketing allowed, exactly as the history of the calls says. -/
theorem evaluateWithRun_refines (lower : String → String) (db : Db)
    (hpreferences : db.preferences = []) (hconsents : db.consents = [])
    (calls : List (Nat × Call)) (request : Request) :
    (∀ client, Deliverable lower request client (run calls db).1 →
      (evaluateWithRun lower request (run calls db).1 = .refused .optedOut ↔
        OptedOut request.clientId request.channel (run calls db).2) ∧
      (request.messageClass = .marketing →
        ((∃ epoch, evaluateWithRun lower request (run calls db).1 = .allowed epoch) ↔
          ¬OptedOut request.clientId request.channel (run calls db).2 ∧
          Consented request.clientId request.channel (run calls db).2))) ∧
    ∀ now call, call.clientId ≠ request.clientId →
      evaluateWithRun lower request (run (calls ++ [(now, call)]) db).1 =
        evaluateWithRun lower request (run calls db).1 := by
  have hmeans : Means (run calls db).1 (run calls db).2 :=
    (means_nil hpreferences hconsents).run calls
  refine ⟨fun client hdeliverable => ?_, fun now call hother => ?_⟩
  · obtain ⟨hmem, hid, -⟩ := Db.client_eq_some hdeliverable.found
    have hout := hmeans.optedOut client hmem request.channel
    have hconsent := hmeans.consented client hmem request.channel
    rw [hid] at hout hconsent
    rw [evaluateWithRun_of_deliverable hdeliverable, ← hout, ← hconsent, hid]
    cases (run calls db).1.optedOut client.organizationId request.clientId request.channel with
    | true => simp
    | false =>
      simp only [Bool.false_eq_true, if_false, not_false_eq_true, true_and]
      refine ⟨by split_ifs <;> simp, fun hmarketing => ?_⟩
      cases (run calls db).1.hasMarketingConsent client request.channel <;> simp [hmarketing]
  · rw [run_concat]
    cases hcall : call.perform now (run calls db).1 with
    | error failure => rfl
    | ok db' => exact evaluateWithRun_perform hother hcall

def sample : Db where
  organizations := [⟨1, true, none⟩]
  clients := [⟨1, some 1, .active, none, some "5512345678", 1, 1, none⟩]
  preferences := []
  consents := []
  clientsKeyed := by decide
  preferencesKeyed := by decide

def sampleCalls : List (Nat × Call) :=
  [(1, .write (some 1) 1 { channel := .all, optOut := true }),
    (2, .consent (some 1) 1 .marketing (some .sms))]

/-- A promotion for the client. -/
def sampleRequest : Request := ⟨some 1, 1, .sms, some "55 1234 5678", .marketing⟩

/-- The consent counts for its channel. -/
theorem evaluateWithRun_sample :
    evaluateWithRun id sampleRequest (run sampleCalls sample).1 = .allowed 1 ∧
      ((∃ epoch, evaluateWithRun id sampleRequest (run sampleCalls sample).1 = .allowed epoch) ↔
        ¬OptedOut 1 .sms (run sampleCalls sample).2 ∧
          Consented 1 .sms (run sampleCalls sample).2) :=
  ⟨rfl, ((evaluateWithRun_refines id sample rfl rfl sampleCalls sampleRequest).1 _
    ⟨⟨1, rfl, rfl⟩, by decide, rfl, by decide, rfl⟩).2 rfl⟩

end FireIsp.Preference
