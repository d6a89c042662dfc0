import FireIsp.Base.History
import FireIsp.Preference.Writes

/-!
# Consents, contact changes and evaluation

`POST /consent`, `recordSignedChoices`, the trigger on `clients`, and `evaluateWithRun`.
-/

namespace FireIsp.Preference

/-- `INSERT INTO subscriber_consents` -/
def insertConsent (organizationId : Option Nat) (clientId : Nat) (purpose : Purpose)
    (channel : Option Channel) (epoch : Nat) (db : Db) : Db :=
  { db with
    consents := db.consents ++
      [{ organizationId := organizationId
         clientId := clientId
         purpose := purpose
         communicationChannel := channel
         withdrawnAt := none
         communicationContactEpoch := epoch }] }

/-- A marketing consent for a channel replaces the earlier ones. -/
def grantConsent (now : Nat) (organizationId : Option Nat) (clientId : Nat) (channel : Channel)
    (epoch : Nat) (db : Db) : Db :=
  insertConsent organizationId clientId .marketing (some channel) epoch
    (withdrawConsents now organizationId clientId (fun c => c = channel) db)

/-- `POST /consent` -/
def postConsent (now : Nat) (organizationId : Option Nat) (clientId : Nat) (purpose : Purpose)
    (channel : Option Channel) (db : Db) : Except Failure Db :=
  match purpose, channel with
  | .marketing, none =>
    .error (.validation "communication_channel is required for marketing consent")
  | .marketing, some channel =>
    match db.client organizationId clientId with
    | none => .error (.notFound "Client")
    | some client =>
      if client.status = .inactive then
        .error (.validation "Marketing consent cannot be granted for an inactive client")
      else do
        let db := grantConsent now organizationId clientId channel
          (client.epoch channel.contact) db
        let (_, db) ← writePreferenceWithRun now organizationId clientId
          { channel := .one channel, optOut := false,
            reason := some "Marketing consent granted by client" } db
        return db
  | _, some _ =>
    .error (.validation "communication_channel is only valid for marketing consent")
  | purpose, none =>
    match db.client organizationId clientId with
    | none => .error (.notFound "Client")
    | some client =>
      if client.status = .inactive then
        .error (.validation "Marketing consent cannot be granted for an inactive client")
      else .ok (insertConsent organizationId clientId purpose none 0 db)

/-- The decision of a signed choice about one channel. -/
def recordChoice (now : Nat) (organizationId : Option Nat) (client : Client)
    (choices : Channel → Bool) (db : Db) (channel : Channel) : Except Failure Db := do
  let granted := choices channel
  let db := withdrawConsents now organizationId client.id (fun c => c = channel) db
  let (_, db) ← writePreferenceWithRun now organizationId client.id
    { channel := .one channel, optOut := !granted,
      reason := some (if granted then "Granted during signed installation handoff"
        else "Declined during signed installation handoff") } db
  if granted then
    return insertConsent organizationId client.id .marketing (some channel)
      (client.epoch channel.contact) db
  else return db

def isGiven (text : Option String) : Bool := (orNull text).isSome

def recordSignedChoices (now : Nat) (organizationId : Option Nat) (clientId : Nat)
    (choices : Channel → Bool) (db : Db) : Except Failure Db :=
  match db.client organizationId clientId with
  | none => .error (.validation "The document client no longer exists")
  | some client =>
    if client.status = .inactive then
      .error (.validation "Communication choices cannot be granted for an inactive client")
    else if choices .email ∧ isGiven client.email = false then
      .error (.validation
        "Email marketing cannot be enabled because the client has no email address")
    else if (choices .sms ∨ choices .whatsapp) ∧ isGiven client.phone = false then
      .error (.validation
        "SMS or WhatsApp marketing cannot be enabled because the client has no phone number")
    else do
      let (_, db) ← writePreferenceWithRun now organizationId clientId
        { channel := .all, optOut := false,
          reason := some "Replaced by signed installation communication choices" } db
      channels.foldlM (recordChoice now organizationId client choices) db

structure ClientUpdate where
  email : Option String
  phone : Option String
  status : ClientStatus
  deletedAt : Option Nat

/-- The contact is another one, or whether the client is active or there at all has changed. -/
def ClientUpdate.moves (update : ClientUpdate) (client : Client) (contact : Contact) : Bool :=
  (match contact with
    | .email => update.email ≠ client.email
    | .phone => update.phone ≠ client.phone) ||
  decide (update.deletedAt ≠ client.deletedAt) ||
  decide ((update.status = .inactive) ≠ (client.status = .inactive))

/-- The row after an update and `trg_clients_communication_contact_epoch_bu`. -/
def ClientUpdate.applied (update : ClientUpdate) (client : Client) : Client :=
  { client with
    email := update.email
    phone := update.phone
    status := update.status
    deletedAt := update.deletedAt
    emailContactEpoch := client.emailContactEpoch + if update.moves client .email then 1 else 0
    phoneContactEpoch := client.phoneContactEpoch + if update.moves client .phone then 1 else 0 }

/-- `UPDATE clients SET … WHERE id = ?` -/
def updateClient (clientId : Nat) (update : ClientUpdate) (db : Db) : Db :=
  { db with
    clients := Table.modify Client.id clientId update.applied db.clients
    clientsKeyed := Table.keyed_modify db.clientsKeyed fun _ => rfl }

/-- `normalizeEmail`, for a `toLowerCase` -/
def normalizeEmail (lower : String → String) (value : Option String) : String :=
  lower (Text.trim (value.getD ""))

/-- `.replace(/^whatsapp:/i, '')` -/
def withoutScheme (text : List Char) : List Char :=
  if (text.take 9).map Char.toLower = "whatsapp:".toList then text.drop 9 else text

def normalizePhone (value : Option String) : List Char :=
  match value with
  | none => []
  | some value =>
    let digits := (withoutScheme (Text.trimmed value)).filter Char.isDigit
    let digits := if digits.take 2 = ['0', '0'] then digits.drop 2 else digits
    if digits.take 3 = ['5', '2', '1'] ∧ digits.length = 13 then '5' :: '2' :: digits.drop 3
    else digits

def destinationMatches (lower : String → String) (client : Client) (channel : Channel)
    (destination : Option String) : Bool :=
  match channel with
  | .email => normalizeEmail lower client.email ≠ "" &&
      normalizeEmail lower client.email = normalizeEmail lower destination
  | _ => normalizePhone client.phone ≠ [] &&
      normalizePhone client.phone = normalizePhone destination

def isOrganizationActive (db : Db) (organizationId : Nat) : Bool :=
  decide (0 < organizationId) && (db.organizations.find? fun o => o.id = organizationId).any fun o =>
    o.active && o.deletedAt.isNone

def Db.hasMarketingConsent (db : Db) (client : Client) (channel : Channel) : Bool :=
  db.consents.any fun consent =>
    consent.grants client.organizationId client.id (fun c => c = channel) &&
      decide (consent.communicationContactEpoch = client.epoch channel.contact)

/-- What `evaluateWithRun` is asked. -/
structure Request where
  organizationId : Option Nat
  clientId : Nat
  channel : Channel
  destination : Option String
  messageClass : MessageClass

/-- What `evaluateWithRun` answers. -/
inductive Verdict
  | refused (code : BlockCode)
  | allowed (contactEpoch : Nat)

def evaluateWithRun (lower : String → String) (request : Request) (db : Db) : Verdict :=
  match request.organizationId with
  | none => .refused .organizationRequired
  | some organizationId =>
    if isOrganizationActive db organizationId = false then .refused .organizationInactive
    else if request.clientId = 0 then .refused .clientNotFound
    else
      match db.client request.organizationId request.clientId with
      | none => .refused .clientNotFound
      | some client =>
        if client.status = .inactive then .refused .clientInactive
        else if destinationMatches lower client request.channel request.destination = false then
          .refused .contactMismatch
        else if db.optedOut client.organizationId client.id request.channel then
          .refused .optedOut
        else if request.messageClass = .marketing ∧
            db.hasMarketingConsent client request.channel = false then
          .refused .consentRequired
        else .allowed (client.epoch request.channel.contact)

end FireIsp.Preference

/-!
## What preferences and consents mean

A history of writes, grants and contact changes says which channels a client is opted out of and for
which of them there is a consent.  The tables say the same after every sequence of calls.
-/

namespace FireIsp.Preference

/-- What a call has done to a client. -/
inductive Event
  | wrote (clientId : Nat) (channel : PreferenceChannel) (optOut : Bool)
  | granted (clientId : Nat) (channel : Channel)
  | moved (clientId : Nat) (contact : Contact)

/-- A write of the channel, or of all channels, decides about vetoes. -/
def Event.decides (clientId : Nat) (channel : Channel) : Event → Option Bool
  | .wrote id preference optOut =>
    if id = clientId ∧ preference.covers channel then some optOut else none
  | _ => none

def OptedOut (clientId : Nat) (channel : Channel) (history : List Event) : Prop :=
  History.last (Event.decides clientId channel) history = some true

instance (clientId : Nat) (channel : Channel) (history : List Event) :
    Decidable (OptedOut clientId channel history) :=
  inferInstanceAs (Decidable (_ = _))

/-- A consent granted for the channel, with neither an opt-out nor another contact since. -/
def Consented (clientId : Nat) (channel : Channel) (history : List Event) : Prop :=
  History.Since (fun event => event = .granted clientId channel)
    (fun event => event.decides clientId channel ≠ some true ∧
      event ≠ .moved clientId channel.contact) history

/-- No consent is ahead of the contact of its client. -/
def Db.EpochsBounded (db : Db) : Prop :=
  ∀ client ∈ db.clients, ∀ consent ∈ db.consents, ∀ channel,
    consent.clientId = client.id → consent.communicationChannel = some channel →
    consent.communicationContactEpoch ≤ client.epoch channel.contact

/-- The tables say what a history means. -/
structure Means (db : Db) (history : List Event) : Prop where
  optedOut : ∀ client ∈ db.clients, ∀ channel,
    db.optedOut client.organizationId client.id channel = true ↔
      OptedOut client.id channel history
  consented : ∀ client ∈ db.clients, ∀ channel,
    db.hasMarketingConsent client channel = true ↔ Consented client.id channel history
  epochs : db.EpochsBounded

variable {db : Db} {history : List Event} {event : Event} {organizationId : Option Nat}
  {clientId k now : Nat} {channel c : Channel} {client : Client}

theorem optedOut_wrote {preference : PreferenceChannel} {optOut : Bool} :
    OptedOut k c (history ++ [.wrote clientId preference optOut]) ↔
      if clientId = k ∧ preference.covers c then optOut = true else OptedOut k c history := by
  unfold OptedOut
  split_ifs with h
  · have hdecides : (Event.wrote clientId preference optOut).decides k c = some optOut := if_pos h
    rw [History.last_append_of_some hdecides, Option.some.injEq]
  · have hdecides : (Event.wrote clientId preference optOut).decides k c = none := if_neg h
    rw [History.last_append_of_none hdecides]

theorem optedOut_granted :
    OptedOut k c (history ++ [.granted clientId channel]) ↔ OptedOut k c history := by
  have hdecides : (Event.granted clientId channel).decides k c = none := rfl
  unfold OptedOut
  rw [History.last_append_of_none hdecides]

theorem optedOut_moved {contact : Contact} :
    OptedOut k c (history ++ [.moved clientId contact]) ↔ OptedOut k c history := by
  have hdecides : (Event.moved clientId contact).decides k c = none := rfl
  unfold OptedOut
  rw [History.last_append_of_none hdecides]

theorem consented_wrote {preference : PreferenceChannel} {optOut : Bool} :
    Consented k c (history ++ [.wrote clientId preference optOut]) ↔
      Consented k c history ∧ ¬(clientId = k ∧ preference.covers c ∧ optOut = true) := by
  unfold Consented
  rw [History.since_append, or_iff_right nofun]
  refine and_congr_right fun _ => ?_
  by_cases h : clientId = k ∧ preference.covers c = true
  · simp [Event.decides, h]
  · simp only [Event.decides, if_neg h]
    simp only [not_and] at h
    simp only [ne_eq, reduceCtorEq, not_false_eq_true, and_self, not_and, true_iff]
    exact fun hid hcovers => absurd hcovers (h hid)

theorem consented_granted :
    Consented k c (history ++ [.granted clientId channel]) ↔
      (clientId = k ∧ channel = c) ∨ Consented k c history := by
  unfold Consented
  rw [History.since_append]
  simp [Event.decides]

theorem consented_moved {contact : Contact} :
    Consented k c (history ++ [.moved clientId contact]) ↔
      Consented k c history ∧ ¬(clientId = k ∧ contact = c.contact) := by
  unfold Consented
  rw [History.since_append]
  simp [Event.decides]

theorem not_optedOut_nil : ¬OptedOut k c [] := nofun

theorem hasMarketingConsent_withdrawConsents (covered : Channel → Bool) (db : Db) (client : Client)
    (c : Channel) :
    (withdrawConsents now organizationId clientId covered db).hasMarketingConsent client c =
      (db.hasMarketingConsent client c && !(decide (client.id = clientId) &&
        decide (client.organizationId = organizationId) && covered c)) := by
  unfold Db.hasMarketingConsent withdrawConsents
  rw [List.any_map, Bool.eq_iff_iff]
  simp only [List.any_eq_true, Function.comp_apply, Bool.and_eq_true, Bool.not_eq_true',
    decide_eq_true_eq]
  have hgrants : ∀ consent : Consent,
      consent.grants client.organizationId client.id (fun other => other = c) = true →
      (consent.grants organizationId clientId covered =
        (decide (client.id = clientId) && decide (client.organizationId = organizationId) &&
          covered c)) := by
    intro consent h
    simp only [Consent.grants, Bool.and_eq_true, decide_eq_true_eq] at h
    obtain ⟨⟨⟨⟨hid, horg⟩, hpurpose⟩, hopen⟩, hchannel⟩ := h
    obtain ⟨other, hother, rfl⟩ : ∃ other, consent.communicationChannel = some other ∧ other = c := by
      simpa [Option.any_eq_true] using hchannel
    simp [Consent.grants, hid, horg, hpurpose, hopen, hother]
  constructor
  · rintro ⟨consent, hmem, h, hepoch⟩
    split_ifs at h hepoch with hwithdrawn
    · simp [Consent.grants] at h
    · exact ⟨⟨consent, hmem, h, hepoch⟩, by rw [← hgrants consent h]; simpa using hwithdrawn⟩
  · rintro ⟨⟨consent, hmem, h, hepoch⟩, hkept⟩
    refine ⟨consent, hmem, ?_⟩
    have hwithdrawn : ¬consent.grants organizationId clientId covered = true := by
      rw [hgrants consent h, hkept]
      exact nofun
    rw [if_neg hwithdrawn]
    exact ⟨h, hepoch⟩

theorem epochs_withdrawConsents (covered : Channel → Bool) (h : db.EpochsBounded) :
    (withdrawConsents now organizationId clientId covered db).EpochsBounded := by
  intro client hclient consent hconsent channel hid hchannel
  obtain ⟨old, hold, rfl⟩ := List.mem_map.mp hconsent
  split_ifs at hid hchannel ⊢ with hwithdrawn
  · exact h client hclient old hold channel hid hchannel
  · exact h client hclient old hold channel hid hchannel

theorem hasMarketingConsent_applyPreference (write : PreferenceWrite) (db : Db) (client : Client)
    (c : Channel) :
    (applyPreference now organizationId clientId write db).hasMarketingConsent client c =
      (db.hasMarketingConsent client c && !(decide (client.id = clientId) &&
        decide (client.organizationId = organizationId) && write.channel.covers c &&
          write.optOut)) := by
  have hconsents : (applyPreference now organizationId clientId write db).consents = _ :=
    consents_applyPreference write db
  cases hout : write.optOut with
  | true =>
    have hwithdrawn : (withdrawConsents now organizationId clientId write.channel.covers
        db).hasMarketingConsent client c = _ :=
      hasMarketingConsent_withdrawConsents write.channel.covers db client c
    rw [Bool.and_true, ← hwithdrawn]
    unfold Db.hasMarketingConsent
    rw [hconsents, if_pos hout]
  | false =>
    unfold Db.hasMarketingConsent
    rw [hconsents, if_neg (Bool.eq_false_iff.mp hout), Bool.and_false, Bool.not_false,
      Bool.and_true]

theorem epochs_applyPreference (h : db.EpochsBounded) (write : PreferenceWrite) :
    (applyPreference now organizationId clientId write db).EpochsBounded := by
  have hwithdrawn : (withdrawConsents now organizationId clientId write.channel.covers
    db).EpochsBounded := epochs_withdrawConsents _ h
  intro client hclient consent hconsent
  rw [clients_applyPreference] at hclient
  rw [consents_applyPreference] at hconsent
  split_ifs at hconsent
  · exact hwithdrawn client hclient consent hconsent
  · exact h client hclient consent hconsent

theorem Means.wrote (h : Means db history) (hclient : db.client organizationId clientId = some client)
    (write : PreferenceWrite) :
    Means (applyPreference now organizationId clientId write db)
      (history ++ [.wrote clientId write.channel write.optOut]) := by
  obtain ⟨hmem, hid, horg⟩ := db.client_eq_some hclient
  refine ⟨fun other hother c => ?_, fun other hother c => ?_, epochs_applyPreference h.epochs write⟩
  · rw [clients_applyPreference] at hother
    rw [optedOut_wrote]
    by_cases hsame : other.id = clientId
    · obtain rfl : other = client := db.client_ext hother hmem (hsame.trans hid.symm)
      rw [horg, hsame, optedOut_applyPreference]
      by_cases hcovers : write.channel.covers c = true
      · rw [if_pos hcovers, if_pos ⟨rfl, hcovers⟩]
      · rw [if_neg hcovers, if_neg fun heq => hcovers heq.2, ← horg, ← hsame]
        exact h.optedOut other hother c
    · rw [if_neg fun heq => hsame heq.1.symm, ← h.optedOut other hother c, Db.optedOut, Db.optedOut,
        vetoed_applyPreference_other hsame, vetoed_applyPreference_other hsame]
  · rw [clients_applyPreference] at hother
    rw [hasMarketingConsent_applyPreference, consented_wrote, Bool.and_eq_true,
      h.consented other hother c]
    refine and_congr Iff.rfl ?_
    by_cases hsame : other.id = clientId
    · obtain rfl : other = client := db.client_ext hother hmem (hsame.trans hid.symm)
      cases hcovers : write.channel.covers c <;> simp [horg, hsame]
    · simp [hsame, Ne.symm hsame]

theorem hasMarketingConsent_insertConsent (purpose : Purpose) (granted : Option Channel)
    (epoch : Nat) (db : Db) (client : Client) (c : Channel) :
    (insertConsent organizationId clientId purpose granted epoch db).hasMarketingConsent client c =
      (db.hasMarketingConsent client c || (decide (clientId = client.id) &&
        decide (organizationId = client.organizationId) && decide (purpose = .marketing) &&
        granted.any (fun other => other = c) && decide (epoch = client.epoch c.contact))) := by
  unfold Db.hasMarketingConsent insertConsent
  rw [List.any_append, List.any_cons, List.any_nil, Bool.or_false]
  simp [Consent.grants]

theorem epochs_insertConsent (h : db.EpochsBounded) (hmem : client ∈ db.clients)
    (hid : client.id = clientId) (purpose : Purpose) (granted : Option Channel) {epoch : Nat}
    (hepoch : ∀ channel, granted = some channel → epoch ≤ client.epoch channel.contact) :
    (insertConsent organizationId clientId purpose granted epoch db).EpochsBounded := by
  intro other hother consent hconsent channel howner hchannel
  rcases List.mem_append.mp hconsent with hconsent | hconsent
  · exact h other hother consent hconsent channel howner hchannel
  · obtain rfl := List.mem_singleton.mp hconsent
    obtain rfl : other = client := db.client_ext hother hmem (howner.symm.trans hid.symm)
    exact hepoch channel hchannel

theorem Means.granted (h : Means db history)
    (hclient : db.client organizationId clientId = some client) (channel : Channel) :
    Means (grantConsent now organizationId clientId channel (client.epoch channel.contact) db)
      (history ++ [.granted clientId channel]) := by
  obtain ⟨hmem, hid, horg⟩ := db.client_eq_some hclient
  refine ⟨fun other hother c => ?_, fun other hother c => ?_, ?_⟩
  · rw [optedOut_granted]
    exact h.optedOut other hother c
  · have hold := h.consented other hother c
    unfold grantConsent
    rw [hasMarketingConsent_insertConsent, hasMarketingConsent_withdrawConsents, consented_granted,
      ← hold]
    by_cases hsame : other.id = clientId
    · obtain rfl : other = client := db.client_ext hother hmem (hsame.trans hid.symm)
      by_cases hc : channel = c
      · simp [hsame, horg, hc]
      · simp [hsame, horg, hc, Ne.symm hc]
    · simp [hsame, Ne.symm hsame]
  · exact epochs_insertConsent (epochs_withdrawConsents _ h.epochs) hmem hid _ _
      fun other hother => by rw [Option.some.inj hother]

theorem consented_movedAll (moved : List Contact) :
    Consented k c (history ++ moved.map (Event.moved clientId)) ↔
      Consented k c history ∧ ¬(clientId = k ∧ c.contact ∈ moved) := by
  induction moved generalizing history with
  | nil => simp
  | cons contact rest ih =>
    rw [List.map_cons, List.append_cons, ih, consented_moved, List.mem_cons, and_assoc]
    refine and_congr_right fun _ => ?_
    rw [← not_or, ← and_or_left, eq_comm (a := contact)]

theorem optedOut_movedAll (moved : List Contact) :
    OptedOut k c (history ++ moved.map (Event.moved clientId)) ↔ OptedOut k c history := by
  induction moved generalizing history with
  | nil => simp
  | cons contact rest ih => rw [List.map_cons, List.append_cons, ih, optedOut_moved]

def ClientUpdate.moved (update : ClientUpdate) (clientId : Nat) (db : Db) : List Contact :=
  match Table.find Client.id clientId db.clients with
  | none => []
  | some client => [Contact.email, .phone].filter (update.moves client)

theorem ClientUpdate.epoch_applied (update : ClientUpdate) (client : Client) (contact : Contact) :
    (update.applied client).epoch contact =
      client.epoch contact + if update.moves client contact then 1 else 0 := by
  cases contact <;> rfl

theorem hasMarketingConsent_updateClient (h : db.EpochsBounded) (hmem : client ∈ db.clients)
    (update : ClientUpdate) (c : Channel) :
    (updateClient clientId update db).hasMarketingConsent (update.applied client) c =
      (db.hasMarketingConsent client c && !update.moves client c.contact) := by
  unfold Db.hasMarketingConsent
  change db.consents.any _ = _
  cases hmoves : update.moves client c.contact with
  | true =>
    rw [Bool.not_true, Bool.and_false]
    refine List.any_eq_false.mpr fun consent hconsent hgrants => ?_
    simp only [Bool.and_eq_true, decide_eq_true_eq, Consent.grants, update.epoch_applied,
      hmoves, if_true] at hgrants
    obtain ⟨⟨⟨⟨⟨howner, -⟩, -⟩, -⟩, hchannel⟩, hepoch⟩ := hgrants
    obtain ⟨other, hother, rfl⟩ : ∃ other, consent.communicationChannel = some other ∧
        other = c := by
      simpa [Option.any_eq_true] using hchannel
    have hle := h client hmem consent hconsent other howner hother
    omega
  | false =>
    rw [Bool.not_false, Bool.and_true]
    simp only [update.epoch_applied, hmoves]
    rfl

theorem Means.moved (h : Means db history) (clientId : Nat) (update : ClientUpdate) :
    Means (updateClient clientId update db)
      (history ++ (update.moved clientId db).map (Event.moved clientId)) := by
  have hmoved : ∀ client ∈ db.clients, client.id = clientId → ∀ contact,
      contact ∈ update.moved clientId db ↔ update.moves client contact = true := by
    intro client hmem hid contact
    unfold ClientUpdate.moved
    rw [(Table.find_eq_some db.clientsKeyed).mpr ⟨hmem, hid⟩]
    cases contact <;> simp
  have hepochs : (updateClient clientId update db).EpochsBounded := by
    intro client hclient consent hconsent channel howner hchannel
    obtain ⟨old, hold, rfl⟩ := List.mem_map.mp hclient
    split_ifs at howner ⊢
    · rw [update.epoch_applied]
      exact (h.epochs old hold consent hconsent channel howner hchannel).trans (Nat.le_add_right _ _)
    · exact h.epochs old hold consent hconsent channel howner hchannel
  refine ⟨fun client hclient c => ?_, fun client hclient c => ?_, hepochs⟩
  · obtain ⟨old, hold, rfl⟩ := List.mem_map.mp hclient
    rw [optedOut_movedAll]
    split_ifs
    · exact h.optedOut old hold c
    · exact h.optedOut old hold c
  · obtain ⟨old, hold, rfl⟩ := List.mem_map.mp hclient
    rw [consented_movedAll]
    split_ifs with hid
    · rw [hasMarketingConsent_updateClient h.epochs hold, Bool.and_eq_true, h.consented old hold c,
        Bool.not_eq_true', ← Bool.not_eq_true, ← hmoved old hold hid]
      exact and_congr Iff.rfl (not_congr (and_iff_right hid.symm).symm)
    · rw [and_iff_left fun heq => hid heq.1.symm]
      exact h.consented old hold c

end FireIsp.Preference
