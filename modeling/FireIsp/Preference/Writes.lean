import FireIsp.Base.Table
import FireIsp.Base.Text

/-!
# Clients, delivery vetoes and consents

The tables behind `clientCommunicationPreferenceService`.
-/

namespace FireIsp.Preference

/-- `CHANNELS` -/
inductive Channel
  | email
  | sms
  | whatsapp
  deriving DecidableEq

/-- All of `CHANNELS`. -/
def channels : List Channel := [.email, .sms, .whatsapp]

/-- `PREFERENCE_CHANNELS` -/
inductive PreferenceChannel
  | all
  | one (channel : Channel)
  deriving DecidableEq

def PreferenceChannel.covers : PreferenceChannel → Channel → Bool
  | .all, _ => true
  | .one channel, other => channel = other

/-- `MESSAGE_CLASSES` -/
inductive MessageClass
  | marketing
  | transactional
  | security
  | supportReply
  deriving DecidableEq

/-- `BLOCK_CODES` -/
inductive BlockCode
  | organizationInactive
  | organizationRequired
  | clientInactive
  | clientNotFound
  | contactMismatch
  | optedOut
  | consentRequired

/-- The errors of a call. -/
inductive Failure
  | notFound (entity : String)
  | validation (message : String)

/-- `clients.status`. -/
inductive ClientStatus
  | active
  | inactive
  | suspended
  deriving DecidableEq

/-- What a channel is addressed to. -/
inductive Contact
  | email
  | phone

def Channel.contact : Channel → Contact
  | .email => .email
  | .sms => .phone
  | .whatsapp => .phone

/-- Row of `organizations`. -/
structure Organization where
  id : Nat
  active : Bool
  deletedAt : Option Nat

/-- Row of `clients`. -/
structure Client where
  id : Nat
  organizationId : Option Nat
  status : ClientStatus
  email : Option String
  phone : Option String
  emailContactEpoch : Nat
  phoneContactEpoch : Nat
  deletedAt : Option Nat

/-- The counter of a contact. -/
def Client.epoch (client : Client) : Contact → Nat
  | .email => client.emailContactEpoch
  | .phone => client.phoneContactEpoch

/-- Row of `client_dnd_preferences`. -/
structure Preference where
  organizationId : Option Nat
  clientId : Nat
  channel : PreferenceChannel
  optOut : Bool
  quietHoursStart : Option String
  quietHoursEnd : Option String
  reason : Option String

/-- `uq_client_channel` -/
def Preference.key (p : Preference) : Nat × PreferenceChannel := (p.clientId, p.channel)

inductive Purpose
  | serviceDelivery
  | marketing
  | analytics
  | thirdPartySharing
  | lawfulRetention
  deriving DecidableEq

/-- Row of `subscriber_consents`. -/
structure Consent where
  organizationId : Option Nat
  clientId : Nat
  purpose : Purpose
  communicationChannel : Option Channel
  withdrawnAt : Option Nat
  /-- The client's contact counter when it was granted. -/
  communicationContactEpoch : Nat

/-- The tables, with their unique keys. -/
structure Db where
  organizations : List Organization
  clients : List Client
  preferences : List Preference
  consents : List Consent
  clientsKeyed : Table.Keyed Client.id clients
  /-- The unique key of `client_dnd_preferences`. -/
  preferencesKeyed : Table.Keyed Preference.key preferences

/-- `SELECT … FROM clients WHERE id = ? AND organization_id <=> ? AND deleted_at IS NULL LIMIT 1` -/
def Db.client (db : Db) (organizationId : Option Nat) (clientId : Nat) : Option Client :=
  db.clients.find? fun c =>
    decide (c.id = clientId) && decide (c.organizationId = organizationId) && c.deletedAt.isNone

theorem Db.client_eq_some {db : Db} {organizationId : Option Nat} {clientId : Nat} {client : Client}
    (h : db.client organizationId clientId = some client) :
    client ∈ db.clients ∧ client.id = clientId ∧ client.organizationId = organizationId := by
  have hfound := List.find?_some h
  simp only [Bool.and_eq_true, decide_eq_true_eq] at hfound
  exact ⟨List.mem_of_find?_eq_some h, hfound.1.1, hfound.1.2⟩

theorem Db.client_ext {db : Db} {client other : Client} (h : client ∈ db.clients)
    (hother : other ∈ db.clients) (hid : client.id = other.id) : client = other :=
  List.inj_on_of_nodup_map db.clientsKeyed h hother hid

end FireIsp.Preference

/-!
## Writing preferences

`writePreferenceWithRun` and `setClientPreferences`.
-/

namespace FireIsp.Preference

/-- The arguments of a write. -/
structure PreferenceWrite where
  channel : PreferenceChannel
  optOut : Bool
  quietHoursStart : Option String := none
  quietHoursEnd : Option String := none
  reason : Option String := none

/-- `value || null` -/
def orNull (value : Option String) : Option String := value.filter fun text => text ≠ ""

/-- A marketing consent of a client that is not withdrawn, for one of some channels. -/
def Consent.grants (organizationId : Option Nat) (clientId : Nat) (covered : Channel → Bool)
    (consent : Consent) : Bool :=
  decide (consent.clientId = clientId) && decide (consent.organizationId = organizationId) &&
    decide (consent.purpose = .marketing) && consent.withdrawnAt.isNone &&
    consent.communicationChannel.any covered

/-- `UPDATE subscriber_consents SET withdrawn_at = COALESCE(withdrawn_at, NOW())` -/
def withdrawConsents (now : Nat) (organizationId : Option Nat) (clientId : Nat)
    (covered : Channel → Bool) (db : Db) : Db :=
  { db with
    consents := db.consents.map fun consent =>
      if consent.grants organizationId clientId covered then
        { consent with withdrawnAt := some now }
      else consent }

/-- `INSERT INTO client_dnd_preferences … ON DUPLICATE KEY UPDATE`, of all columns. -/
def upsertPreference (row : Preference) (db : Db) : Db :=
  { db with
    preferences := Table.put Preference.key row db.preferences
    preferencesKeyed := Table.keyed_put db.preferencesKeyed }

/-- The row of a channel blocks delivery for a client of the tenant. -/
def Db.vetoed (db : Db) (organizationId : Option Nat) (clientId : Nat)
    (channel : PreferenceChannel) : Bool :=
  db.preferences.any fun p =>
    decide (p.clientId = clientId) && decide (p.organizationId = organizationId) &&
      decide (p.channel = channel) && p.optOut

/-- `INSERT INTO client_dnd_preferences … SELECT … WHERE EXISTS` the blanket row. -/
def preserveVeto (organizationId : Option Nat) (clientId : Nat) (db : Db) (other : Channel) : Db :=
  if db.vetoed organizationId clientId .all then
    let old := Table.find Preference.key (clientId, .one other) db.preferences
    upsertPreference
      { organizationId := organizationId
        clientId := clientId
        channel := .one other
        optOut := true
        quietHoursStart := old.bind Preference.quietHoursStart
        quietHoursEnd := old.bind Preference.quietHoursEnd
        reason := some "Preserved from blanket opt-out" } db
  else db

/-- `UPDATE client_dnd_preferences SET opt_out = 0, reason = ?`, for some channels. -/
def clearVetoes (organizationId : Option Nat) (clientId : Nat) (cleared : PreferenceChannel → Bool)
    (reason : String) (db : Db) : Db :=
  { db with
    preferences := db.preferences.map fun p =>
      if decide (p.clientId = clientId) && decide (p.organizationId = organizationId) &&
          cleared p.channel && p.optOut then
        { p with optOut := false, reason := some reason }
      else p
    preferencesKeyed := by
      have hkeyed := db.preferencesKeyed
      unfold Table.Keyed at hkeyed ⊢
      rw [List.map_map]
      convert hkeyed using 1
      refine List.map_congr_left fun p _ => ?_
      rw [Function.comp_apply]
      split_ifs <;> rfl }

def supersedeBlanket (organizationId : Option Nat) (clientId : Nat) (channel : Channel) (db : Db) :
    Db :=
  clearVetoes organizationId clientId (fun cleared => cleared = .all)
    "Superseded by a channel-specific opt-in"
    ((channels.filter fun candidate => candidate ≠ channel).foldl
      (preserveVeto organizationId clientId) db)

/-- The statements of `writePreferenceWithRun` after the client is locked. -/
def applyPreference (now : Nat) (organizationId : Option Nat) (clientId : Nat)
    (write : PreferenceWrite) (db : Db) : Db :=
  let db := if write.optOut then
      withdrawConsents now organizationId clientId write.channel.covers db
    else db
  let db := match write.optOut, write.channel with
    | true, _ => db
    | false, .one channel => supersedeBlanket organizationId clientId channel db
    | false, .all => clearVetoes organizationId clientId (fun cleared => cleared ≠ .all)
        "Client opted back in to communications" db
  upsertPreference
    { organizationId := organizationId
      clientId := clientId
      channel := write.channel
      optOut := write.optOut
      quietHoursStart := orNull write.quietHoursStart
      quietHoursEnd := orNull write.quietHoursEnd
      reason := orNull write.reason } db

def writePreferenceWithRun (now : Nat) (organizationId : Option Nat) (clientId : Nat)
    (write : PreferenceWrite) (db : Db) : Except Failure (Option Preference × Db) :=
  match db.client organizationId clientId with
  | none => .error (.notFound "Client")
  | some _ =>
    let db := applyPreference now organizationId clientId write db
    .ok (db.preferences.find? fun p => decide (p.clientId = clientId) &&
      decide (p.channel = write.channel) && decide (p.organizationId = organizationId), db)

/-- The writes of `setClientPreferences`, in one transaction. -/
def writePreferences (now : Nat) (organizationId : Option Nat) (clientId : Nat) :
    List PreferenceWrite → Db → Except Failure (List (Option Preference) × Db)
  | [], db => .ok ([], db)
  | write :: writes, db => do
      let (row, db) ← writePreferenceWithRun now organizationId clientId write db
      let (rows, db) ← writePreferences now organizationId clientId writes db
      return (row :: rows, db)

def setClientPreferences (now : Nat) (organizationId : Option Nat) (clientId : Nat)
    (preferences : List PreferenceWrite) (db : Db) :
    Except Failure (List (Option Preference) × Db) :=
  if preferences.length = 0 then
    .error (.validation "At least one communication preference is required")
  else writePreferences now organizationId clientId preferences db

section

variable {db : Db} {organizationId o : Option Nat} {clientId k now : Nat}

theorem Db.vetoed_eq (db : Db) (o : Option Nat) (k : Nat) (channel : PreferenceChannel) :
    db.vetoed o k channel = (Table.find Preference.key (k, channel) db.preferences).any
      fun p => decide (p.organizationId = o) && p.optOut := by
  rw [Bool.eq_iff_iff, Db.vetoed, List.any_eq_true, Option.any_eq_true]
  constructor
  · rintro ⟨p, hp, hveto⟩
    simp only [Bool.and_eq_true, decide_eq_true_eq] at hveto
    obtain ⟨⟨⟨rfl, rfl⟩, rfl⟩, hout⟩ := hveto
    exact ⟨p, (Table.find_eq_some db.preferencesKeyed).mpr ⟨hp, rfl⟩, by simp [hout]⟩
  · rintro ⟨p, hp, hveto⟩
    obtain ⟨hmem, hkey⟩ := (Table.find_eq_some db.preferencesKeyed).mp hp
    obtain ⟨rfl, rfl⟩ := Prod.mk.inj hkey
    simp only [Bool.and_eq_true, decide_eq_true_eq] at hveto
    exact ⟨p, hmem, by simp [hveto]⟩

theorem vetoed_upsertPreference (row : Preference) (db : Db) (o : Option Nat) (k : Nat)
    (channel : PreferenceChannel) :
    (upsertPreference row db).vetoed o k channel =
      if row.clientId = k ∧ row.channel = channel then
        decide (row.organizationId = o) && row.optOut
      else db.vetoed o k channel := by
  rw [Db.vetoed_eq, Db.vetoed_eq]
  change (Table.find Preference.key (k, channel)
    (Table.put Preference.key row db.preferences)).any _ = _
  rw [Table.find_put]
  by_cases h : row.clientId = k ∧ row.channel = channel
  · have hkey : row.key = (k, channel) := Prod.ext h.1 h.2
    rw [if_pos hkey, if_pos h]
    rfl
  · have hkey : row.key ≠ (k, channel) := fun heq => h (Prod.mk.inj heq)
    rw [if_neg hkey, if_neg h]

theorem vetoed_clearVetoes (cleared : PreferenceChannel → Bool) (reason : String) (db : Db)
    (o : Option Nat) (k : Nat) (channel : PreferenceChannel) :
    (clearVetoes organizationId clientId cleared reason db).vetoed o k channel =
      (db.vetoed o k channel &&
        !(decide (k = clientId) && decide (o = organizationId) && cleared channel)) := by
  unfold Db.vetoed clearVetoes
  rw [List.any_map, Bool.eq_iff_iff]
  simp only [List.any_eq_true, Function.comp_apply, Bool.and_eq_true, Bool.not_eq_true']
  constructor
  · rintro ⟨p, hp, hveto⟩
    split_ifs at hveto with hclear
    · simp at hveto
    · refine ⟨⟨p, hp, hveto⟩, ?_⟩
      simp only [decide_eq_true_eq] at hveto
      obtain ⟨⟨⟨rfl, rfl⟩, rfl⟩, hout⟩ := hveto
      simpa [hout] using hclear
  · rintro ⟨⟨p, hp, hveto⟩, hkept⟩
    refine ⟨p, hp, ?_⟩
    simp only [decide_eq_true_eq] at hveto
    obtain ⟨⟨⟨rfl, rfl⟩, rfl⟩, hout⟩ := hveto
    rw [if_neg]
    · simp [hout]
    · simpa [hout] using hkept

theorem vetoed_preserveVeto (db : Db) (other : Channel) (channel : PreferenceChannel) :
    (preserveVeto organizationId clientId db other).vetoed organizationId clientId channel =
      (db.vetoed organizationId clientId channel ||
        (db.vetoed organizationId clientId .all && decide (channel = .one other))) := by
  unfold preserveVeto
  split_ifs with hall
  · rw [vetoed_upsertPreference]
    by_cases h : channel = .one other
    · simp [h, hall]
    · rw [if_neg fun heq => h heq.2.symm]
      simp [h]
  · simp [hall]

theorem vetoed_preserveVeto_other (h : k ≠ clientId) (db : Db) (other : Channel)
    (channel : PreferenceChannel) :
    (preserveVeto organizationId clientId db other).vetoed o k channel =
      db.vetoed o k channel := by
  unfold preserveVeto
  split_ifs
  · rw [vetoed_upsertPreference, if_neg fun heq => h heq.1.symm]
  · rfl

def Db.optedOut (db : Db) (o : Option Nat) (k : Nat) (channel : Channel) : Bool :=
  db.vetoed o k .all || db.vetoed o k (.one channel)

theorem vetoed_supersedeBlanket_all (channel : Channel) (db : Db) :
    (supersedeBlanket organizationId clientId channel db).vetoed organizationId clientId .all =
      false := by
  simp [supersedeBlanket, vetoed_clearVetoes]

theorem vetoed_supersedeBlanket_one {channel c : Channel} (h : c ≠ channel) (db : Db) :
    (supersedeBlanket organizationId clientId channel db).vetoed organizationId clientId (.one c) =
      db.optedOut organizationId clientId c := by
  unfold supersedeBlanket Db.optedOut
  cases channel <;> cases c <;>
    simp_all [channels, vetoed_clearVetoes, vetoed_preserveVeto, Bool.or_comm]

theorem vetoed_supersedeBlanket_other (h : k ≠ clientId) (channel : Channel) (db : Db)
    (c : PreferenceChannel) :
    (supersedeBlanket organizationId clientId channel db).vetoed o k c = db.vetoed o k c := by
  unfold supersedeBlanket
  cases channel <;>
    simp [channels, vetoed_clearVetoes, vetoed_preserveVeto_other h, h]

theorem optedOut_applyPreference (write : PreferenceWrite) (db : Db) (c : Channel) :
    (applyPreference now organizationId clientId write db).optedOut organizationId clientId c =
      if write.channel.covers c then write.optOut
      else db.optedOut organizationId clientId c := by
  obtain ⟨channel, optOut, start, stop, reason⟩ := write
  cases optOut with
  | true =>
    have hsame : ∀ c, (withdrawConsents now organizationId clientId channel.covers db).vetoed
        organizationId clientId c = db.vetoed organizationId clientId c := fun _ => rfl
    cases channel with
    | all => simp [applyPreference, Db.optedOut, vetoed_upsertPreference, PreferenceChannel.covers]
    | one channel =>
      by_cases h : channel = c <;>
        simp [applyPreference, Db.optedOut, vetoed_upsertPreference, hsame, h,
          PreferenceChannel.covers]
  | false =>
    cases channel with
    | all =>
      simp [applyPreference, Db.optedOut, vetoed_upsertPreference, vetoed_clearVetoes,
        PreferenceChannel.covers]
    | one channel =>
      have hall : (supersedeBlanket organizationId clientId channel db).vetoed organizationId
          clientId .all = false := vetoed_supersedeBlanket_all channel db
      by_cases h : channel = c
      · subst h
        simp [applyPreference, Db.optedOut, vetoed_upsertPreference, hall,
          PreferenceChannel.covers]
      · have hone : (supersedeBlanket organizationId clientId channel db).vetoed organizationId
            clientId (.one c) = db.optedOut organizationId clientId c :=
          vetoed_supersedeBlanket_one (Ne.symm h) db
        simp [applyPreference, Db.optedOut, vetoed_upsertPreference, hall, hone, h,
          PreferenceChannel.covers]

theorem vetoed_applyPreference_other (h : k ≠ clientId) (write : PreferenceWrite) (db : Db)
    (c : PreferenceChannel) :
    (applyPreference now organizationId clientId write db).vetoed o k c = db.vetoed o k c := by
  obtain ⟨channel, optOut, start, stop, reason⟩ := write
  have hsame : (withdrawConsents now organizationId clientId channel.covers db).vetoed o k c =
      db.vetoed o k c := rfl
  cases optOut <;> cases channel <;>
    simp [applyPreference, vetoed_upsertPreference, vetoed_clearVetoes,
      vetoed_supersedeBlanket_other h, h, Ne.symm h, hsame]

/-- The tables besides `client_dnd_preferences`. -/
def Db.rest (db : Db) : List Organization × List Client × List Consent :=
  (db.organizations, db.clients, db.consents)

theorem rest_preserveVeto (db : Db) (c : Channel) :
    (preserveVeto organizationId clientId db c).rest = db.rest := by
  unfold preserveVeto
  split_ifs <;> rfl

theorem rest_applyPreference (write : PreferenceWrite) (db : Db) :
    (applyPreference now organizationId clientId write db).rest =
      if write.optOut then
        (withdrawConsents now organizationId clientId write.channel.covers db).rest
      else db.rest := by
  obtain ⟨channel, optOut, start, stop, reason⟩ := write
  cases optOut with
  | true => rfl
  | false =>
    cases channel with
    | all => rfl
    | one channel => cases channel <;> exact (rest_preserveVeto _ _).trans (rest_preserveVeto _ _)

theorem clients_applyPreference (write : PreferenceWrite) (db : Db) :
    (applyPreference now organizationId clientId write db).clients = db.clients := by
  have hrest : (applyPreference now organizationId clientId write db).rest = _ :=
    rest_applyPreference write db
  have hclients := congrArg (fun rest => rest.2.1) hrest
  split_ifs at hclients
  · exact hclients
  · exact hclients

theorem consents_applyPreference (write : PreferenceWrite) (db : Db) :
    (applyPreference now organizationId clientId write db).consents =
      if write.optOut then
        (withdrawConsents now organizationId clientId write.channel.covers db).consents
      else db.consents := by
  have hrest : (applyPreference now organizationId clientId write db).rest = _ :=
    rest_applyPreference write db
  have hconsents := congrArg (fun rest => rest.2.2) hrest
  split_ifs at hconsents ⊢
  · exact hconsents
  · exact hconsents

end

end FireIsp.Preference
