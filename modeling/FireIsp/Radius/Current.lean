import FireIsp.Radius.Sessions

/-!
# Current rows

In tables the ingest writes every row carries an Acct-Session-Id, and an open row is the current
row of its session: the latest by event time, then by id. Rewriting it with a later time keeps it
current, and a new row becomes current when no row of the session is later.
-/

namespace FireIsp.Radius

variable {env : Env} {state : State} {logs : List Log} {o : Observation}

def Top (env : Env) (logs : List Log) (row : Log) : Prop :=
  row ∈ logs ∧ ∀ other ∈ logs, other ≠ row → other.sessionKey env = row.sessionKey env →
    Table.Before Log.lastAt Log.id row other

/-- Tables as the ingest leaves them. -/
structure Tidy (env : Env) (state : State) : Prop extends Sound state where
  named : ∀ row ∈ state.logs, row.acctSessionId.isSome
  openFirst : ∀ row ∈ state.logs, row.isOpen → Top env state.logs row

variable {row other : Log}

theorem top_unique (h : Top env logs row) (h' : Top env logs other)
    (hkey : other.sessionKey env = row.sessionKey env) : other = row := by
  by_contra hne
  have hbefore := h.2 other h'.1 hne hkey
  have hbefore' := h'.2 row h.1 (fun e => hne e.symm) hkey.symm
  unfold Table.Before at hbefore hbefore'
  omega

theorem Top.last_le (h : Top env logs row) (hmem : other ∈ logs)
    (hkey : other.sessionKey env = row.sessionKey env) : other.lastAt ≤ row.lastAt := by
  by_cases heq : other = row
  · rw [heq]
  · have hbefore := h.2 other hmem heq hkey
    unfold Table.Before at hbefore
    omega

theorem currentRow_of_top (h : Top env logs row) (hkey : row.sessionKey env = o.sessionKey env) :
    currentRow env logs o = some row := by
  have hmem : row ∈ logs.filter fun row => row.sessionKey env = o.sessionKey env :=
    List.mem_filter.mpr ⟨h.1, by simpa using hkey⟩
  have hfirst : Table.newest Log.lastAt Log.id
      (logs.filter fun row => row.sessionKey env = o.sessionKey env) = some row := by
    refine Table.newest_eq_some hmem fun other hother hne => ?_
    obtain ⟨hotherMem, hotherKey⟩ := List.mem_filter.mp hother
    exact h.2 other hotherMem hne ((of_decide_eq_true hotherKey).trans hkey.symm)
  simp only [currentRow, hfirst]

theorem Tidy.top_of_currentRow (h : Tidy env state)
    (hcurrent : currentRow env state.logs o = some row) :
    Top env state.logs row ∧ row.sessionKey env = o.sessionKey env := by
  unfold currentRow at hcurrent
  split at hcurrent
  · rename_i found hfound
    obtain rfl := Option.some.inj hcurrent
    have hids : ((state.logs.filter fun row =>
        row.sessionKey env = o.sessionKey env).map Log.id).Nodup :=
      h.ids.sublist (List.filter_sublist.map Log.id)
    obtain ⟨hmem, hkey⟩ := List.mem_filter.mp (Table.newest_spec hfound).1
    have hkey' := of_decide_eq_true hkey
    refine ⟨⟨hmem, fun other hother hne hsame => ?_⟩, hkey'⟩
    have hotherMem : other ∈ state.logs.filter fun row =>
        row.sessionKey env = o.sessionKey env :=
      List.mem_filter.mpr ⟨hother, decide_eq_true (hsame.trans hkey')⟩
    exact Table.newest_before hids hfound other hotherMem hne
  · obtain ⟨hmem, hlegacy⟩ := List.mem_filter.mp (Table.newest_spec hcurrent).1
    have hnamed := h.named row hmem
    simp only [Log.ofLegacySession, Bool.and_eq_true, Option.isNone_iff_eq_none] at hlegacy
    rw [hlegacy.1] at hnamed
    cases hnamed

theorem no_row_of_currentRow (h : currentRow env logs o = none) :
    ∀ row ∈ logs, row.sessionKey env ≠ o.sessionKey env := by
  intro row hmem hkey
  unfold currentRow at h
  split at h
  · cases h
  · rename_i hnone
    have hrow : row ∈ logs.filter fun row => row.sessionKey env = o.sessionKey env :=
      List.mem_filter.mpr ⟨hmem, decide_eq_true hkey⟩
    rw [Table.newest_eq_none.mp hnone] at hrow
    cases hrow

/-- The row a current row becomes when it is rewritten later than it was. -/
structure Later (env : Env) (old row : Log) : Prop where
  id : row.id = old.id
  instanceId : row.instanceId = old.instanceId
  acctSessionId : row.acctSessionId = old.acctSessionId
  key : row.sessionKey env = old.sessionKey env
  last : old.lastAt ≤ row.lastAt

variable {old : Log}

theorem top_put_self (hids : Table.Keyed Log.id logs) (h : Top env logs old)
    (hlater : Later env old row) : Top env (Table.put Log.id row logs) row := by
  refine ⟨Table.mem_put_self row logs, fun other hother hne hkey => ?_⟩
  rcases (Table.mem_put hids).mp hother with heq | ⟨hmem, hid⟩
  · exact absurd heq hne
  · have hother' : other ≠ old := fun e => hid (by rw [e, hlater.id])
    have hbefore := h.2 other hmem hother' (hkey.trans hlater.key)
    have hlast := hlater.last
    have hsame := hlater.id
    unfold Table.Before at hbefore ⊢
    omega

theorem top_put_other (hids : Table.Keyed Log.id logs) (hold : old ∈ logs)
    (hlater : Later env old row) (h : Top env logs other)
    (hkey : other.sessionKey env ≠ row.sessionKey env) :
    Top env (Table.put Log.id row logs) other := by
  have hne : other ≠ old := fun e => hkey (by rw [e, hlater.key])
  have hid : other.id ≠ row.id := fun e =>
    hne (List.inj_on_of_nodup_map hids h.1 hold (e.trans hlater.id))
  refine ⟨(Table.mem_put hids).mpr (Or.inr ⟨h.1, hid⟩), fun third hthird hne' hsame => ?_⟩
  rcases (Table.mem_put hids).mp hthird with heq | ⟨hmem, -⟩
  · exact absurd (heq ▸ hsame).symm hkey
  · exact h.2 third hmem hne' hsame

theorem top_append_self (hid : ∀ other ∈ logs, other.id < row.id)
    (hlast : ∀ other ∈ logs, other.sessionKey env = row.sessionKey env → other.lastAt ≤ row.lastAt) :
    Top env (logs ++ [row]) row := by
  refine ⟨List.mem_append_right _ List.mem_cons_self, fun other hother hne hkey => ?_⟩
  rcases List.mem_append.mp hother with hmem | hmem
  · have hlt := hid other hmem
    have hle := hlast other hmem hkey
    unfold Table.Before
    omega
  · exact absurd (List.mem_singleton.mp hmem) hne

theorem top_append_other (h : Top env logs other)
    (hkey : other.sessionKey env ≠ row.sessionKey env) : Top env (logs ++ [row]) other := by
  refine ⟨List.mem_append_left _ h.1, fun third hthird hne hsame => ?_⟩
  rcases List.mem_append.mp hthird with hmem | hmem
  · exact h.2 third hmem hne hsame
  · rw [List.mem_singleton.mp hmem] at hsame
    exact absurd hsame.symm hkey

theorem Tidy.putLog (h : Tidy env state) (hold : Top env state.logs old)
    (hlater : Later env old row) : Tidy env (state.putLog row) where
  toSound := h.toSound.putLog hold.1 hlater.id.symm hlater.instanceId.symm
  named := by
    intro other hother
    rcases Table.mem_of_mem_put hother with rfl | hother
    · rw [hlater.acctSessionId]
      exact h.named old hold.1
    · exact h.named other hother
  openFirst := by
    intro other hother hopen
    rcases (Table.mem_put h.ids).mp hother with rfl | ⟨hmem, hid⟩
    · exact top_put_self h.ids hold hlater
    · have htop := h.openFirst other hmem hopen
      have hne : other ≠ old := fun e => hid (by rw [e, hlater.id])
      have hkey : other.sessionKey env ≠ row.sessionKey env := fun e =>
        hne (top_unique hold htop (e.trans hlater.key))
      exact top_put_other h.ids hold.1 hlater htop hkey

theorem Tidy.insertLog (h : Tidy env state) (hid : row.id = state.nextId)
    (hinstance : row.instanceId = state.nextId) (hnamed : row.acctSessionId.isSome)
    (hclosed : ∀ other ∈ state.logs, other.sessionKey env = row.sessionKey env →
      other.isOpen = false ∧ other.lastAt ≤ row.lastAt) (usage : Usage) :
    Tidy env (state.insertLog row o usage) where
  toSound := h.toSound.insertLog hid hinstance usage
  named := by
    intro other hother
    rcases List.mem_append.mp hother with hother | hother
    · exact h.named other hother
    · rw [List.mem_singleton.mp hother]
      exact hnamed
  openFirst := by
    intro other hother hopen
    rcases List.mem_append.mp hother with hother | hother
    · refine top_append_other (h.openFirst other hother hopen) fun hkey => ?_
      rw [(hclosed other hother hkey).1] at hopen
      cases hopen
    · rw [List.mem_singleton.mp hother]
      refine top_append_self (fun third hthird => ?_) fun third hthird hkey =>
        (hclosed third hthird hkey).2
      rw [hid]
      exact (h.fresh third hthird).1

theorem Tidy.record (h : Tidy env state) (hrow : row.instanceId < state.nextId) (usage : Usage) :
    Tidy env (state.record row o usage) where
  toSound := h.toSound.record hrow usage
  named := h.named
  openFirst := h.openFirst

end FireIsp.Radius
