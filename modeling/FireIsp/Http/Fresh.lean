import FireIsp.Http.ResponseCache

/-!
# Responses from the cache are fresh

A response is found under the version at which it was looked for, so it was made after every mutation
whose call of `bustCache` had counted up to that version.  This needs versions that never go back, and
queries of one key that are the same.
-/

namespace FireIsp.Http

open Transition Cache

/-- A request is between reading the version and its answer. -/
def Stage.inFlight {B : Type} : Stage B → Bool
  | .arrived | .served _ _ => false
  | _ => true

namespace State

variable {M B : Type} {server : Server M B} {s : State M B} {orgId : OrgId} {resource : String}

/-- Another cache. -/
def withCache (s : State M B) (cache : Memory Key (Value B)) : State M B := { s with cache := cache }

def version (s : State M B) (orgId : OrgId) (resource : String) : Nat :=
  match (s.cache.lookup (.ver orgId resource)).map Entry.value with
  | some (.version version) => version
  | _ => 0

/-- An entry of the cache is no response of a resource, or has ended. -/
def Gone (s : State M B) (orgId : OrgId) (resource : String) (entry : Entry (Value B)) :
    Key → Prop
  | .get otherOrg other _ _ => otherOrg = orgId → other = resource → entry.ended s.clock = true
  | .ver _ _ => True

/-- No response of a resource is in the cache, or on its way into it. -/
def Idle (s : State M B) (orgId : OrgId) (resource : String) : Prop :=
  (∀ pair ∈ s.cache.store, s.Gone orgId resource pair.2 pair.1) ∧
    ∀ get ∈ s.gets, get.orgId = orgId → get.resource = resource → get.stage.inFlight = false

/-- Where the version has ended when it is read, nothing is kept under an older one. -/
def Lasts (s : State M B) (orgId : OrgId) (resource : String) : Prop :=
  (∀ entry ∈ s.cache.lookup (.ver orgId resource), entry.ended s.clock = false) ∨
    s.Idle orgId resource

/-- The version lasts when a call of `bustCache` reads it, and is not turned back when it writes. -/
def Counts (s : State M B) (bust : Bust) : BustStage → Prop
  | .begun => s.Lasts bust.orgId bust.resource
  | .read current => s.version bust.orgId bust.resource ≤ current + 1
  | .completed => True

/-- Equal texts are equal queries, mutations name a resource, and versions are not turned back. -/
def Met (s : State M B) : Event M → Prop
  | .get resource orgId query =>
    ∀ get ∈ s.gets, get.resource = resource → get.orgId = orgId →
      (asTexts get.query).Perm (asTexts query) → get.query.Perm query
  | .advance i => ∀ get ∈ s.gets[i]?, get.stage = .arrived → s.Lasts get.orgId get.resource
  | .mutate resource orgId _ => orgId ≠ none ∧ resource ≠ ""
  | .bust j => ∀ bust ∈ s.busts[j]?, s.Counts bust bust.stage
  | .elapse _ => True

/-- There is room for the response of a request. -/
def Held (s : State M B) (get : Get B) : Stage B → Prop
  | .handled version _ => s.cache.Fits (keyOf get version)
  | _ => True

/-- No key is driven out of the cache. -/
def Roomy (s : State M B) : Event M → Prop
  | .advance i => ∀ get ∈ s.gets[i]?, s.Held get get.stage
  | .bust j => ∀ bust ∈ s.busts[j]?, s.cache.Fits (.ver bust.orgId bust.resource)
  | _ => True

section Decidable

variable (s)

instance (entry : Entry (Value B)) : DecidablePred (s.Gone orgId resource entry)
  | .get _ _ _ _ => inferInstanceAs (Decidable (_ = _ → _ = _ → _ = true))
  | .ver _ _ => isTrue trivial

instance : Decidable (s.Idle orgId resource) := inferInstanceAs (Decidable (_ ∧ _))

instance : Decidable (s.Lasts orgId resource) := inferInstanceAs (Decidable (_ ∨ _))

instance (bust : Bust) : DecidablePred (s.Counts bust)
  | .begun => inferInstanceAs (Decidable (s.Lasts _ _))
  | .read _ => inferInstanceAs (Decidable (_ ≤ _))
  | .completed => isTrue trivial

instance [DecidableEq B] (i : Nat) : Decidable (s.Met (.advance i)) :=
  inferInstanceAs (Decidable (∀ get ∈ s.gets[i]?, _ → s.Lasts _ _))

instance (j : Nat) : Decidable (s.Met (.bust j)) :=
  inferInstanceAs (Decidable (∀ bust ∈ s.busts[j]?, _))

instance [DecidableEq B] (get : Get B) : DecidablePred (s.Held get)
  | .handled _ _ => inferInstanceAs (Decidable (Memory.Fits _ _))
  | .arrived => isTrue trivial
  | .keyed _ => isTrue trivial
  | .missed _ => isTrue trivial
  | .served _ _ => isTrue trivial

instance [DecidableEq B] : DecidablePred s.Roomy
  | .get _ _ _ => isTrue trivial
  | .advance i => inferInstanceAs (Decidable (∀ get ∈ s.gets[i]?, _))
  | .mutate _ _ _ => isTrue trivial
  | .bust j => inferInstanceAs (Decidable (∀ bust ∈ s.busts[j]?, _))
  | .elapse _ => isTrue trivial

end Decidable

/-- A response was made for the same request, after all mutations it must include. -/
def Fresh (server : Server M B) (s : State M B) (get : Get B) (body : B) : Prop :=
  ∃ query : Query, ∃ seen ≤ s.log.length, query.Perm get.query ∧
    body = (server.respond get.resource get.orgId query (s.log.take seen)).2 ∧
    ∀ mutation ∈ get.required, mutation < seen

/-- A response that was made after some mutations is in the cache, or on its way into it. -/
def Source (s : State M B) (orgId : OrgId) (resource : String) (version seen : Nat) : Prop :=
  (∃ qs entry body, s.cache.lookup (.get orgId resource version qs) = some entry ∧
    entry.ended s.clock = false ∧ entry.value = .body body seen) ∨
  ∃ get ∈ s.gets, get.orgId = orgId ∧ get.resource = resource ∧ get.stage = .handled version seen

/-- What holds of requests, of calls of `bustCache`, and of the cache. -/
structure Sound (server : Server M B) (s : State M B) : Prop where
  bounded : ∀ orgId resource version seen, s.Source orgId resource version seen →
    version ≤ s.version orgId resource ∧ seen ≤ s.log.length
  keyed : ∀ get ∈ s.gets, ∀ version, get.stage = .keyed version ∨ get.stage = .missed version →
    version ≤ s.version get.orgId get.resource
  /-- Calls of `bustCache` are for mutations that happened. -/
  past : ∀ bust ∈ s.busts, bust.mutation < s.log.length
  /-- Once one has returned, what was made before its mutation is of an older version. -/
  busted : ∀ bust ∈ s.busts, bust.stage = .completed → ∀ version seen,
    s.Source bust.orgId bust.resource version seen →
      bust.mutation < seen ∨ version < s.version bust.orgId bust.resource
  /-- Once one has read the version, what was made before its mutation is of that version at most. -/
  reading : ∀ bust ∈ s.busts, ∀ current, bust.stage = .read current → ∀ version seen,
    s.Source bust.orgId bust.resource version seen → bust.mutation < seen ∨ version ≤ current
  /-- What was made before a mutation that a request must include is older than what it looks for. -/
  required : ∀ get ∈ s.gets, ∀ version, get.stage = .keyed version → ∀ mutation ∈ get.required,
    ∀ other seen, s.Source get.orgId get.resource other seen → mutation < seen ∨ other < version
  /-- For what a request must include `bustCache` has returned. -/
  returned : ∀ get ∈ s.gets, ∀ mutation ∈ get.required, ∃ bust ∈ s.busts,
    bust.stage = .completed ∧ bust.orgId = get.orgId ∧ bust.resource = get.resource ∧
      bust.mutation = mutation
  produced : ∀ orgId resource version qs entry body seen,
    s.cache.lookup (.get orgId resource version qs) = some entry → entry.value = .body body seen →
      ∃ get ∈ s.gets, get.orgId = orgId ∧ get.resource = resource ∧ queryString get.query = qs ∧
        seen ≤ s.log.length ∧
        body = (server.respond resource orgId get.query (s.log.take seen)).2
  agree : ∀ get ∈ s.gets, ∀ other ∈ s.gets, get.resource = other.resource →
    get.orgId = other.orgId → (asTexts get.query).Perm (asTexts other.query) →
      get.query.Perm other.query
  fresh : ∀ get ∈ s.gets, ∀ body, get.stage = .served body true → s.Fresh server get body

theorem sound_new (maxSize : Nat) : (new maxSize : State M B).Sound server where
  bounded := by
    rintro orgId resource version seen (⟨_, _, _, hlookup, -⟩ | ⟨_, hget, -⟩)
    · exact nomatch hlookup
    · exact nomatch hget
  keyed _ hget := nomatch hget
  past _ hbust := nomatch hbust
  busted _ hbust := nomatch hbust
  reading _ hbust := nomatch hbust
  required _ hget := nomatch hget
  returned _ hget := nomatch hget
  produced _ _ _ _ _ _ _ hlookup := nomatch hlookup
  agree _ hget := nomatch hget
  fresh _ hget := nomatch hget

theorem Idle.no_source (h : s.Idle orgId resource) {version seen : Nat} :
    ¬s.Source orgId resource version seen := by
  rintro (⟨qs, entry, body, hlookup, hended, -⟩ | ⟨get, hget, horg, hresource, hstage⟩)
  · have hend := h.1 _ (Memory.mem_of_lookup hlookup) rfl rfl
    exact nomatch hend.symm.trans hended
  · have hnot := h.2 get hget horg hresource
    rw [hstage] at hnot
    exact nomatch hnot

theorem Sound.recached (h : s.Sound server) {cache : Memory Key (Value B)} {clock : Nat}
    (hlookup : ∀ orgId resource version qs entry,
      cache.lookup (.get orgId resource version qs) = some entry →
        s.cache.lookup (.get orgId resource version qs) = some entry ∧
          (entry.ended clock = false → entry.ended s.clock = false))
    (hversion : ∀ orgId resource, ({ s with cache := cache, clock := clock } : State M B).version
      orgId resource = s.version orgId resource ∨ s.Idle orgId resource) :
    ({ s with cache := cache, clock := clock } : State M B).Sound server := by
  have hsource : ∀ {orgId resource version seen},
      ({ s with cache := cache, clock := clock } : State M B).Source orgId resource version seen →
        s.Source orgId resource version seen := by
    rintro orgId resource version seen (⟨qs, entry, body, hfound, hended, hvalue⟩ | hflight)
    · obtain ⟨hold, hlive⟩ := hlookup _ _ _ _ _ hfound
      exact .inl ⟨qs, entry, body, hold, hlive hended, hvalue⟩
    · exact .inr hflight
  have hsame : ∀ {orgId resource version seen}, s.Source orgId resource version seen →
      ({ s with cache := cache, clock := clock } : State M B).version orgId resource =
        s.version orgId resource :=
    fun hthere => (hversion _ _).resolve_right fun hidle => hidle.no_source hthere
  refine { h with
    bounded := fun orgId resource version seen hthere => ?_
    keyed := fun get hget version hstage => ?_
    busted := fun bust hbust hdone version seen hthere => ?_
    reading := fun bust hbust current hread version seen hthere => ?_
    required := fun get hget version hstage mutation hmem other seen hthere => ?_
    produced := fun orgId resource version qs entry body seen hfound hvalue => ?_ }
  · rw [hsame (hsource hthere)]
    exact h.bounded _ _ _ _ (hsource hthere)
  · rcases hversion get.orgId get.resource with heq | hidle
    · rw [heq]
      exact h.keyed get hget version hstage
    · have hnot := hidle.2 get hget rfl rfl
      rcases hstage with hstage | hstage <;> rw [hstage] at hnot <;> exact nomatch hnot
  · rw [hsame (hsource hthere)]
    exact h.busted bust hbust hdone version seen (hsource hthere)
  · exact h.reading bust hbust current hread version seen (hsource hthere)
  · exact h.required get hget version hstage mutation hmem other seen (hsource hthere)
  · exact h.produced _ _ _ _ _ _ _ (hlookup _ _ _ _ _ hfound).1 hvalue

variable {i : Nat}

theorem mem_set_or_eq {A : Type} {l : List A} {a b c : A} (hi : l[i]? = some a) (hc : c ∈ l) :
    c ∈ l.set i b ∨ c = a := by
  obtain ⟨k, hk, rfl⟩ := List.mem_iff_getElem.mp hc
  by_cases heq : i = k
  · subst heq
    rw [List.getElem?_eq_getElem hk] at hi
    exact .inr (Option.some.inj hi)
  · refine .inl (List.mem_iff_getElem.mpr ⟨k, by simpa using hk, ?_⟩)
    rw [List.getElem_set_ne heq]

theorem mem_set_self {A : Type} {l : List A} {a b : A} (hi : l[i]? = some a) :
    b ∈ l.set i b := by
  obtain ⟨hlt, -⟩ := List.getElem?_eq_some_iff.mp hi
  exact List.mem_set hlt b

variable {get : Get B}

theorem Sound.restage (h : s.Sound server) (hi : s.gets[i]? = some get) (stage : Stage B)
    (hkeyed : ∀ version, stage = .keyed version ∨ stage = .missed version →
      version ≤ s.version get.orgId get.resource)
    (hhandled : ∀ version seen, stage = .handled version seen →
      version ≤ s.version get.orgId get.resource ∧ seen = s.log.length)
    (hrequired : ∀ version, stage = .keyed version → ∀ mutation ∈ get.required,
      ∀ other seen, s.Source get.orgId get.resource other seen → mutation < seen ∨ other < version)
    (hfresh : ∀ body, stage = .served body true → s.Fresh server get body) :
    (s.restage i get stage).Sound server := by
  have hget : get ∈ s.gets := List.mem_of_getElem? hi
  have hnew : ∀ other ∈ (s.restage i get stage).gets,
      other ∈ s.gets ∨ other = { get with stage := stage } :=
    fun other hother => List.mem_or_eq_of_mem_set hother
  have hold : ∀ other ∈ s.gets, ∃ same ∈ (s.restage i get stage).gets,
      same.orgId = other.orgId ∧ same.resource = other.resource ∧ same.query = other.query := by
    intro other hother
    rcases mem_set_or_eq hi hother with hmem | rfl
    · exact ⟨other, hmem, rfl, rfl, rfl⟩
    · exact ⟨{ other with stage := stage }, mem_set_self hi, rfl, rfl, rfl⟩
  have hlike : ∀ other ∈ (s.restage i get stage).gets, ∃ same ∈ s.gets,
      same.orgId = other.orgId ∧ same.resource = other.resource ∧ same.query = other.query ∧
        same.required = other.required := by
    intro other hother
    rcases hnew other hother with hmem | rfl
    · exact ⟨other, hmem, rfl, rfl, rfl, rfl⟩
    · exact ⟨get, hget, rfl, rfl, rfl, rfl⟩
  have hsource : ∀ {orgId resource version seen},
      (s.restage i get stage).Source orgId resource version seen →
        s.Source orgId resource version seen ∨
          (version ≤ s.version orgId resource ∧ seen = s.log.length) := by
    rintro orgId resource version seen (hcached | ⟨other, hother, rfl, rfl, hstage⟩)
    · exact .inl (.inl hcached)
    · rcases hnew other hother with hmem | rfl
      · exact .inl (.inr ⟨other, hmem, rfl, rfl, hstage⟩)
      · exact .inr (hhandled version seen hstage)
  refine
    { past := h.past
      bounded := fun orgId resource version seen hthere => ?_
      keyed := fun other hother version hstage => ?_
      busted := fun bust hbust hdone version seen hthere => ?_
      reading := fun bust hbust current hread version seen hthere => ?_
      required := fun other hother version hstage mutation hmem older seen hthere => ?_
      returned := fun other hother mutation hmem => ?_
      produced := fun orgId resource version qs entry body seen hfound hvalue => ?_
      agree := fun a ha b hb hresource horg hperm => ?_
      fresh := fun other hother body hstage => ?_ }
  · rcases hsource hthere with hthere | ⟨hle, rfl⟩
    · exact h.bounded _ _ _ _ hthere
    · exact ⟨hle, Nat.le_refl _⟩
  · rcases hnew other hother with hmem | rfl
    · exact h.keyed other hmem version hstage
    · exact hkeyed version hstage
  · rcases hsource hthere with hthere | ⟨-, rfl⟩
    · exact h.busted bust hbust hdone version seen hthere
    · exact .inl (h.past bust hbust)
  · rcases hsource hthere with hthere | ⟨-, rfl⟩
    · exact h.reading bust hbust current hread version seen hthere
    · exact .inl (h.past bust hbust)
  · rcases hsource hthere with hthere | ⟨-, rfl⟩
    · rcases hnew other hother with hin | rfl
      · exact h.required other hin version hstage mutation hmem older seen hthere
      · exact hrequired version hstage mutation hmem older seen hthere
    · obtain ⟨same, hsame, -, -, -, hreq⟩ := hlike other hother
      obtain ⟨bust, hbust, -, -, -, rfl⟩ := h.returned same hsame mutation (hreq ▸ hmem)
      exact .inl (h.past bust hbust)
  · obtain ⟨same, hsame, horg, hresource, -, hreq⟩ := hlike other hother
    rw [← horg, ← hresource]
    exact h.returned same hsame mutation (hreq ▸ hmem)
  · obtain ⟨filler, hfiller, rfl, rfl, rfl, hseen, hbody⟩ :=
      h.produced orgId resource version qs entry body seen hfound hvalue
    obtain ⟨same, hsame, horg, hresource, hquery⟩ := hold filler hfiller
    exact ⟨same, hsame, horg, hresource, by rw [hquery], hseen, by rw [hquery]; exact hbody⟩
  · obtain ⟨a', ha', horgA, hresourceA, hqueryA, -⟩ := hlike a ha
    obtain ⟨b', hb', horgB, hresourceB, hqueryB, -⟩ := hlike b hb
    have hagree := h.agree a' ha' b' hb'
    rw [horgA, hresourceA, hqueryA, horgB, hresourceB, hqueryB] at hagree
    exact hagree hresource horg hperm
  · rcases hnew other hother with hmem | rfl
    · exact h.fresh other hmem body hstage
    · exact hfresh body hstage

theorem Sound.rebust (h : s.Sound server) {j : Nat} {bust : Bust} (hj : s.busts[j]? = some bust)
    (hbegun : bust.stage ≠ .completed) (stage : BustStage)
    (hdone : stage = .completed → ∀ version seen,
      s.Source bust.orgId bust.resource version seen →
        bust.mutation < seen ∨ version < s.version bust.orgId bust.resource)
    (hread : ∀ current, stage = .read current → ∀ version seen,
      s.Source bust.orgId bust.resource version seen → bust.mutation < seen ∨ version ≤ current) :
    (s.rebust j bust stage).Sound server := by
  have hbust : bust ∈ s.busts := List.mem_of_getElem? hj
  have hnew : ∀ other ∈ (s.rebust j bust stage).busts,
      other ∈ s.busts ∨ other = { bust with stage := stage } :=
    fun other hother => List.mem_or_eq_of_mem_set hother
  refine { h with
    past := fun other hother => ?_
    busted := fun other hother hcompleted version seen hthere => ?_
    reading := fun other hother current hcurrent version seen hthere => ?_
    returned := fun get hget mutation hmem => ?_ }
  · rcases hnew other hother with hmem | rfl
    · exact h.past other hmem
    · exact h.past bust hbust
  · rcases hnew other hother with hmem | rfl
    · exact h.busted other hmem hcompleted version seen hthere
    · exact hdone hcompleted version seen hthere
  · rcases hnew other hother with hmem | rfl
    · exact h.reading other hmem current hcurrent version seen hthere
    · exact hread current hcurrent version seen hthere
  · obtain ⟨other, hother, hcompleted, hsame⟩ := h.returned get hget mutation hmem
    rcases mem_set_or_eq hj hother with hin | rfl
    · exact ⟨other, hin, hcompleted, hsame⟩
    · exact absurd hcompleted hbegun

theorem Sound.stored (h : s.Sound server) (hget : get ∈ s.gets) {version seen : Nat}
    (hstage : get.stage = .handled version seen) (hfits : s.cache.Fits (keyOf get version))
    {ttlSeconds : Nat} {body : B}
    (hbody : body = (server.respond get.resource get.orgId get.query (s.log.take seen)).2) :
    (s.withCache (s.cache.set s.clock (keyOf get version) (.body body seen) ttlSeconds)).Sound
      server := by
  have hway : s.Source get.orgId get.resource version seen := .inr ⟨get, hget, rfl, rfl, hstage⟩
  have hversion : ∀ orgId resource,
      (s.withCache (s.cache.set s.clock (keyOf get version) (.body body seen) ttlSeconds)).version
        orgId resource = s.version orgId resource := by
    intro orgId resource
    unfold State.version withCache
    rw [Memory.lookup_set_of_fits hfits (by unfold keyOf; exact nofun)]
  have hlookup : ∀ orgId resource other qs entry,
      (s.cache.set s.clock (keyOf get version) (.body body seen) ttlSeconds).lookup
        (.get orgId resource other qs) = some entry →
      s.cache.lookup (.get orgId resource other qs) = some entry ∨
        (get.orgId = orgId ∧ get.resource = resource ∧ version = other ∧
          queryString get.query = qs ∧ entry.value = .body body seen) := by
    intro orgId resource other qs entry hfound
    by_cases hkey : Key.get orgId resource other qs = keyOf get version
    · rw [hkey, Memory.lookup_set_self] at hfound
      obtain ⟨rfl, rfl, rfl, rfl⟩ := Key.get.inj hkey
      rw [← Option.some.inj hfound]
      exact .inr ⟨rfl, rfl, rfl, rfl, rfl⟩
    · exact .inl (Memory.lookup_set_other hkey hfound)
  have hsource : ∀ {orgId resource other seen'},
      (s.withCache (s.cache.set s.clock (keyOf get version) (.body body seen) ttlSeconds)).Source
        orgId resource other seen' → s.Source orgId resource other seen' := by
    rintro orgId resource other seen' (⟨qs, entry, body', hfound, hended, hvalue⟩ | hflight)
    · rcases hlookup _ _ _ _ _ hfound with hold | ⟨rfl, rfl, rfl, -, hstored⟩
      · exact .inl ⟨qs, entry, body', hold, hended, hvalue⟩
      · rw [hstored] at hvalue
        obtain ⟨-, rfl⟩ := Value.body.inj hvalue
        exact hway
    · exact .inr hflight
  refine { h with
    bounded := fun orgId resource other seen' hthere => ?_
    keyed := fun other hother version' hstage' => ?_
    busted := fun bust hbust hdone version' seen' hthere => ?_
    reading := fun bust hbust current hread version' seen' hthere => ?_
    required := fun other hother version' hstage' mutation hmem older seen' hthere => ?_
    produced := fun orgId resource other qs entry body' seen' hfound hvalue => ?_ }
  · rw [hversion]
    exact h.bounded _ _ _ _ (hsource hthere)
  · rw [hversion]
    exact h.keyed other hother version' hstage'
  · rw [hversion]
    exact h.busted bust hbust hdone version' seen' (hsource hthere)
  · exact h.reading bust hbust current hread version' seen' (hsource hthere)
  · exact h.required other hother version' hstage' mutation hmem older seen' (hsource hthere)
  · rcases hlookup _ _ _ _ _ hfound with hold | ⟨rfl, rfl, rfl, rfl, hstored⟩
    · exact h.produced _ _ _ _ _ _ _ hold hvalue
    · rw [hstored] at hvalue
      obtain ⟨rfl, rfl⟩ := Value.body.inj hvalue
      exact ⟨get, hget, rfl, rfl, rfl, (h.bounded _ _ _ _ hway).2, hbody⟩

theorem Sound.counted (h : s.Sound server) {next ttlSeconds : Nat}
    (hle : s.version orgId resource ≤ next)
    {cache : Memory Key (Value B)}
    (hcache : cache = s.cache.set s.clock (.ver orgId resource) (.version next) ttlSeconds)
    (hfits : s.cache.Fits (.ver orgId resource)) :
    (s.withCache cache).Sound server ∧ (s.withCache cache).version orgId resource = next ∧
      ∀ {other name version seen}, (s.withCache cache).Source other name version seen →
        s.Source other name version seen := by
  have hself : (s.withCache cache).version orgId resource = next := by
    unfold State.version withCache
    rw [hcache, Memory.lookup_set_self]
    rfl
  have hversion : ∀ other name, s.version other name ≤ (s.withCache cache).version other name := by
    intro other name
    by_cases hkey : Key.ver other name = .ver orgId resource
    · obtain ⟨rfl, rfl⟩ := Key.ver.inj hkey
      rw [hself]
      exact hle
    · unfold State.version withCache
      rw [hcache, Memory.lookup_set_of_fits hfits hkey]
  have hlookup : ∀ {other name version qs entry},
      cache.lookup (.get other name version qs) = some entry →
        s.cache.lookup (.get other name version qs) = some entry := by
    intro other name version qs entry hfound
    rw [hcache] at hfound
    exact Memory.lookup_set_other Key.noConfusion hfound
  have hsource : ∀ {other name version seen}, (s.withCache cache).Source other name version seen →
      s.Source other name version seen := by
    rintro other name version seen (⟨qs, entry, body, hfound, hended, hvalue⟩ | hflight)
    · exact .inl ⟨qs, entry, body, hlookup hfound, hended, hvalue⟩
    · exact .inr hflight
  refine ⟨{ h with
    bounded := fun other name version seen hthere => ?_
    keyed := fun get hget version hstage => ?_
    busted := fun bust hbust hdone version seen hthere => ?_
    reading := fun bust hbust current hread version seen hthere => ?_
    required := fun get hget version hstage mutation hmem older seen hthere => ?_
    produced := fun other name version qs entry body seen hfound hvalue => ?_ }, hself, hsource⟩
  · obtain ⟨hbound, hseen⟩ := h.bounded _ _ _ _ (hsource hthere)
    exact ⟨Nat.le_trans hbound (hversion _ _), hseen⟩
  · exact Nat.le_trans (h.keyed get hget version hstage) (hversion _ _)
  · exact (h.busted bust hbust hdone version seen (hsource hthere)).imp_right
      fun hlt => Nat.lt_of_lt_of_le hlt (hversion _ _)
  · exact h.reading bust hbust current hread version seen (hsource hthere)
  · exact h.required get hget version hstage mutation hmem older seen (hsource hthere)
  · exact h.produced _ _ _ _ _ _ _ (hlookup hfound) hvalue

theorem getVersion_spec (h : s.Lasts orgId resource) :
    (s.getVersion orgId resource).1 =
        (s.withCache (s.getVersion orgId resource).2).version orgId resource ∧
      (∀ other name, (s.withCache (s.getVersion orgId resource).2).version other name =
        s.version other name ∨ s.Idle other name) ∧
      ∀ other name version qs, (s.getVersion orgId resource).2.lookup (.get other name version qs) =
        s.cache.lookup (.get other name version qs) := by
  have hother : ∀ key, key ≠ Key.ver orgId resource →
      (s.getVersion orgId resource).2.lookup key = s.cache.lookup key :=
    fun key hkey => Memory.lookup_get_other fun heq => absurd heq hkey
  have hread : (s.getVersion orgId resource).1 =
      match (s.cache.get s.clock (.ver orgId resource)).1 with
      | some (.version version) => version
      | _ => 0 := rfl
  have hversion : ∀ {other name}, Key.ver other name ≠ .ver orgId resource →
      (s.withCache (s.getVersion orgId resource).2).version other name = s.version other name := by
    intro other name hkey
    unfold State.version withCache
    rw [hother _ hkey]
  by_cases hlive : ∀ entry ∈ s.cache.lookup (.ver orgId resource), entry.ended s.clock = false
  · have hsame : (s.getVersion orgId resource).2.lookup (.ver orgId resource) =
        s.cache.lookup (.ver orgId resource) := Memory.lookup_get_other fun _ => hlive
    have hfound : (s.cache.get s.clock (.ver orgId resource)).1 =
        (s.cache.lookup (.ver orgId resource)).map Entry.value := by
      rw [Memory.get_fst]
      cases hlookup : s.cache.lookup (.ver orgId resource) with
      | none => rfl
      | some entry =>
        rw [Option.bind_some, hlive entry hlookup]
        rfl
    refine ⟨?_, fun other name => .inl ?_, fun other name version qs => hother _ nofun⟩
    · unfold State.version withCache
      rw [hread, hfound, hsame]
    · by_cases hkey : Key.ver other name = .ver orgId resource
      · unfold State.version withCache
        rw [hkey, hsame]
      · exact hversion hkey
  · have hidle := h.resolve_left hlive
    obtain ⟨entry, hlookup, hended⟩ : ∃ entry, s.cache.lookup (.ver orgId resource) = some entry ∧
        entry.ended s.clock = true := by
      simpa using hlive
    have hnone : (s.getVersion orgId resource).2.lookup (.ver orgId resource) = none :=
      Memory.lookup_get_ended hlookup hended
    refine ⟨?_, fun other name => ?_, fun other name version qs => hother _ nofun⟩
    · unfold State.version withCache
      rw [hread, Memory.get_fst, hlookup, hnone, Option.bind_some, hended]
      rfl
    · by_cases hkey : Key.ver other name = .ver orgId resource
      · obtain ⟨rfl, rfl⟩ := Key.ver.inj hkey
        exact .inr hidle
      · exact .inl (hversion hkey)

theorem Sound.versioned (h : s.Sound server) (hlasts : s.Lasts orgId resource) :
    (s.withCache (s.getVersion orgId resource).2).Sound server := by
  obtain ⟨-, hversion, hlookup⟩ := getVersion_spec hlasts
  refine h.recached (fun other name version qs entry hfound => ⟨?_, id⟩) hversion
  rwa [hlookup] at hfound

theorem Sound.arrive (h : s.Sound server) {query : Query}
    (hmet : s.Met (.get resource orgId query)) : (s.arrive resource orgId query).Sound server := by
  have hnew : ∀ get ∈ (s.arrive resource orgId query).gets, get ∈ s.gets ∨
      (get.stage = .arrived ∧ get.resource = resource ∧ get.orgId = orgId ∧ get.query = query ∧
        ∀ mutation ∈ get.required, ∃ bust ∈ s.busts, bust.stage = .completed ∧
          bust.orgId = orgId ∧ bust.resource = resource ∧ bust.mutation = mutation) := by
    intro get hget
    rcases List.mem_append.mp hget with hold | hnew
    · exact .inl hold
    · rw [List.mem_singleton.mp hnew]
      refine .inr ⟨rfl, rfl, rfl, rfl, fun mutation hmem => ?_⟩
      obtain ⟨bust, hbust, rfl⟩ := List.mem_map.mp hmem
      obtain ⟨hin, hsame⟩ := List.mem_filter.mp hbust
      simp only [Bool.and_eq_true, decide_eq_true_eq] at hsame
      exact ⟨bust, hin, hsame.1.1, hsame.2, hsame.1.2, rfl⟩
  have hstaged : ∀ {get}, get ∈ (s.arrive resource orgId query).gets → get.stage ≠ .arrived →
      get ∈ s.gets :=
    fun hget hstage => (hnew _ hget).resolve_right fun hnot => hstage hnot.1
  have hsource : ∀ {other name version seen},
      (s.arrive resource orgId query).Source other name version seen →
        s.Source other name version seen := by
    rintro other name version seen (hcached | ⟨get, hget, horg, hresource, hstage⟩)
    · exact .inl hcached
    · exact .inr ⟨get, hstaged hget (by rw [hstage]; nofun), horg, hresource, hstage⟩
  refine
    { past := h.past
      bounded := fun other name version seen hthere => h.bounded _ _ _ _ (hsource hthere)
      keyed := fun get hget version hstage => ?_
      busted := fun bust hbust hdone version seen hthere =>
        h.busted bust hbust hdone version seen (hsource hthere)
      reading := fun bust hbust current hread version seen hthere =>
        h.reading bust hbust current hread version seen (hsource hthere)
      required := fun get hget version hstage mutation hmem older seen hthere => ?_
      returned := fun get hget mutation hmem => ?_
      produced := fun other name version qs entry body seen hfound hvalue => ?_
      agree := fun a ha b hb hresource horg hperm => ?_
      fresh := fun get hget body hstage => ?_ }
  · have hold := hstaged hget (by rcases hstage with hstage | hstage <;> rw [hstage] <;> nofun)
    exact h.keyed get hold version hstage
  · have hold := hstaged hget (by rw [hstage]; nofun)
    exact h.required get hold version hstage mutation hmem older seen (hsource hthere)
  · rcases hnew get hget with hold | ⟨-, hresource, horg, -, hrequired⟩
    · exact h.returned get hold mutation hmem
    · rw [hresource, horg]
      exact hrequired mutation hmem
  · obtain ⟨filler, hfiller, hmade⟩ := h.produced other name version qs entry body seen hfound hvalue
    exact ⟨filler, List.mem_append_left _ hfiller, hmade⟩
  · rcases hnew a ha with hin | ⟨-, hres, hor, hq, -⟩
    · rcases hnew b hb with hin' | ⟨-, hres', hor', hq', -⟩
      · exact h.agree a hin b hin' hresource horg hperm
      · rw [hq'] at hperm ⊢
        exact hmet a hin (hresource.trans hres') (horg.trans hor') hperm
    · rcases hnew b hb with hin' | ⟨-, hres', hor', hq', -⟩
      · rw [hq] at hperm ⊢
        exact (hmet b hin' (hresource.symm.trans hres) (horg.symm.trans hor) hperm.symm).symm
      · rw [hq, hq']
  · exact h.fresh get (hstaged hget (by rw [hstage]; nofun)) body hstage

theorem Fresh.mono {body : B} (h : s.Fresh server get body) {t : State M B}
    (hlog : s.log <+: t.log) : t.Fresh server get body := by
  obtain ⟨query, seen, hseen, hperm, hbody, hrequired⟩ := h
  obtain ⟨more, hmore⟩ := hlog
  refine ⟨query, seen, ?_, hperm, ?_, hrequired⟩
  · rw [← hmore, List.length_append]
    omega
  · rw [← hmore, List.take_append_of_le_length hseen]
    exact hbody

theorem Sound.mutate (h : s.Sound server) {mutation : M}
    (hmet : s.Met (.mutate resource orgId mutation)) :
    (s.mutate resource orgId mutation).Sound server := by
  have hlog : (s.mutate resource orgId mutation).log.length = s.log.length + 1 :=
    List.length_append
  have hnew : ∀ bust ∈ (s.mutate resource orgId mutation).busts,
      bust ∈ s.busts ∨ (bust.stage = .begun ∧ bust.mutation = s.log.length) := by
    intro bust hbust
    rcases List.mem_append.mp hbust with hold | hnew
    · exact .inl hold
    · rw [List.mem_singleton.mp hnew]
      exact .inr ⟨if_neg fun hnone => hnone.elim hmet.1 hmet.2, rfl⟩
  refine { h with
    bounded := fun other name version seen hthere => ?_
    past := fun bust hbust => ?_
    busted := fun bust hbust hdone version seen hthere => ?_
    reading := fun bust hbust current hread version seen hthere => ?_
    returned := fun get hget mutation hmem => ?_
    produced := fun other name version qs entry body seen hfound hvalue => ?_
    fresh := fun get hget body hstage => (h.fresh get hget body hstage).mono (List.prefix_append _ _) }
  · obtain ⟨hbound, hseen⟩ := h.bounded _ _ _ _ hthere
    exact ⟨hbound, by omega⟩
  · rcases hnew bust hbust with hold | ⟨-, heq⟩
    · exact Nat.lt_of_lt_of_le (h.past bust hold) (by omega)
    · omega
  · rcases hnew bust hbust with hold | ⟨hbegun, -⟩
    · exact h.busted bust hold hdone version seen hthere
    · exact nomatch hbegun.symm.trans hdone
  · rcases hnew bust hbust with hold | ⟨hbegun, -⟩
    · exact h.reading bust hold current hread version seen hthere
    · exact nomatch hbegun.symm.trans hread
  · obtain ⟨bust, hbust, hdone⟩ := h.returned get hget mutation hmem
    exact ⟨bust, List.mem_append_left _ hbust, hdone⟩
  · obtain ⟨filler, hfiller, horg, hresource, hqs, hseen, hbody⟩ :=
      h.produced other name version qs entry body seen hfound hvalue
    refine ⟨filler, hfiller, horg, hresource, hqs, by omega, ?_⟩
    unfold State.mutate
    dsimp only
    rw [List.take_append_of_le_length hseen]
    exact hbody

theorem Sound.advance (h : s.Sound server) (hi : s.gets[i]? = some get)
    (hlasts : get.stage = .arrived → s.Lasts get.orgId get.resource)
    (hroom : ∀ version seen, get.stage = .handled version seen → s.cache.Fits (keyOf get version)) :
    (s.advance server i get).Sound server := by
  have hget : get ∈ s.gets := List.mem_of_getElem? hi
  unfold State.advance
  cases hstage : get.stage with
  | arrived =>
    obtain ⟨hread, -, -⟩ := getVersion_spec (hlasts hstage)
    change (State.restage (s.withCache (s.getVersion get.orgId get.resource).2) i get
      (.keyed (s.getVersion get.orgId get.resource).1)).Sound server
    rw [hread]
    refine (h.versioned (hlasts hstage)).restage hi _ ?_ nofun ?_ nofun
    · rintro version (heq | heq)
      · rw [← Stage.keyed.inj heq]
      · exact nomatch heq
    · -- The version that was read is the present one, so `bustCache` has counted up to it.
      intro version heq mutation hmem older seen hthere
      obtain ⟨bust, hbust, hdone, horg, hresource, rfl⟩ := h.returned get hget mutation hmem
      have hbusted := (h.versioned (hlasts hstage)).busted bust hbust hdone older seen
      rw [horg, hresource] at hbusted
      rw [← Stage.keyed.inj heq]
      exact hbusted hthere
  | keyed version =>
    have hcached : (s.withCache (s.cache.get s.clock (keyOf get version)).2).Sound server := by
      refine h.recached (fun _ _ _ _ _ hfound => ⟨Memory.lookup_get hfound, id⟩) fun _ _ => .inl ?_
      unfold State.version
      rw [Memory.lookup_get_other (by unfold keyOf; exact nofun)]
    refine hcached.restage hi _ ?_ ?_ ?_ ?_
    · intro other heq
      have hle := hcached.keyed get hget version (.inl hstage)
      split at heq
      · rcases heq with heq | heq <;> exact nomatch heq
      · rcases heq with heq | heq
        · exact nomatch heq
        · rwa [← Stage.missed.inj heq]
    · intro other seen heq
      split at heq <;> exact nomatch heq
    · intro other heq
      split at heq <;> exact nomatch heq
    · intro body heq
      split at heq
      · rename_i found seen hfound
        have hhit : (s.cache.get s.clock (keyOf get version)).1 = some (.body found seen) := hfound
        rw [Memory.get_fst] at hhit
        obtain ⟨entry, hlookup, hvalue⟩ := Option.bind_eq_some_iff.mp hhit
        split_ifs at hvalue with hended
        obtain ⟨filler, hfiller, horg, hresource, hqs, hseen, hbody⟩ :=
          h.produced _ _ _ _ _ _ _ hlookup (Option.some.inj hvalue)
        have hagree := h.agree filler hfiller get hget hresource horg (asTexts_perm hqs)
        refine ⟨filler.query, seen, hseen, hagree, ?_, fun mutation hmem => ?_⟩
        · rw [← (Stage.served.inj heq).1]
          exact hbody
        · have hsource : s.Source get.orgId get.resource version seen :=
            .inl ⟨_, entry, _, hlookup, Bool.eq_false_iff.mpr hended, Option.some.inj hvalue⟩
          exact (h.required get hget version hstage mutation hmem version seen hsource).resolve_right
            (Nat.lt_irrefl version)
      · exact nomatch heq
  | missed version =>
    refine h.restage hi _ (by rintro _ (heq | heq) <;> exact nomatch heq) ?_ nofun nofun
    intro other seen heq
    obtain ⟨rfl, rfl⟩ := Stage.handled.inj heq
    exact ⟨h.keyed get hget version (.inr hstage), rfl⟩
  | handled version seen =>
    dsimp only
    split_ifs
    · exact (h.stored hget hstage (hroom version seen hstage) rfl).restage hi _
        (by rintro _ (heq | heq) <;> exact nomatch heq) nofun nofun nofun
    · exact h.restage hi _ (by rintro _ (heq | heq) <;> exact nomatch heq) nofun nofun nofun
  | served body cached => exact h

theorem Sound.bust (h : s.Sound server) {j : Nat} {bust : Bust} (hj : s.busts[j]? = some bust)
    (hmet : s.Met (.bust j)) (hroom : s.Roomy (.bust j)) : (s.bust j bust).Sound server := by
  have hmet := hmet bust hj
  unfold State.bust
  cases hstage : bust.stage with
  | begun =>
    rw [hstage] at hmet
    obtain ⟨hread, -, -⟩ := getVersion_spec hmet
    change (State.rebust (s.withCache (s.getVersion bust.orgId bust.resource).2) j bust
      (.read (s.getVersion bust.orgId bust.resource).1)).Sound server
    rw [hread]
    refine (h.versioned hmet).rebust hj (by rw [hstage]; nofun) _ nofun ?_
    intro current heq version seen hthere
    rw [← BustStage.read.inj heq]
    exact .inr ((h.versioned hmet).bounded _ _ _ _ hthere).1
  | read current =>
    rw [hstage] at hmet
    obtain ⟨hsound, hnext, hsource⟩ := h.counted hmet rfl (hroom bust hj)
    refine hsound.rebust hj (by rw [hstage]; nofun) _ (fun _ version seen hthere => ?_) nofun
    have hbust : bust ∈ s.busts := List.mem_of_getElem? hj
    rw [hnext]
    exact (h.reading bust hbust current hstage version seen (hsource hthere)).imp_right
      Nat.lt_succ_of_le
  | completed => exact h

theorem Sound.step (h : s.Sound server) {event : Event M} (hmet : s.Met event)
    (hroom : s.Roomy event) : (s.step server event).Sound server := by
  cases event with
  | get resource orgId query => exact h.arrive hmet
  | advance i =>
    change (s.gets[i]?.elim s fun get => s.advance server i get).Sound server
    cases hi : s.gets[i]? with
    | none => exact h
    | some get =>
      refine h.advance hi (hmet get hi) fun version seen hstage => ?_
      have hfits := hroom get hi
      rwa [hstage] at hfits
  | mutate resource orgId mutation => exact h.mutate hmet
  | bust j =>
    change (s.busts[j]?.elim s fun bust => s.bust j bust).Sound server
    cases hj : s.busts[j]? with
    | none => exact h
    | some bust => exact h.bust hj hmet hroom
  | elapse milliseconds =>
    refine h.recached (fun _ _ _ _ entry hfound => ⟨hfound, fun hended => ?_⟩) fun _ _ => .inl rfl
    exact Entry.ended_mono (Nat.le_add_right _ _) hended

/-- Every response served from the cache is fresh. -/
theorem served_fresh (server : Server M B) (maxSize : Nat) (events : List (Event M))
    (hmet : Along (step server) Met (new maxSize) events)
    (hroom : Along (step server) Roomy (new maxSize) events) :
    ∀ get ∈ (run (step server) (new maxSize) events).gets, ∀ body,
      get.stage = .served body true →
        (run (step server) (new maxSize) events).Fresh server get body := by
  have hstep : ∀ (s : State M B) event, s.Sound server → s.Met event ∧ s.Roomy event →
      (s.step server event).Sound server := fun _ _ hsound hboth => hsound.step hboth.1 hboth.2
  exact (run_invariant hstep (sound_new maxSize) (hmet.and hroom)).fresh

/-- A server that answers with the number of mutations. -/
def serverSample : Server Nat Nat := ⟨fun _ _ _ log => (200, log.length), fun _ => 60⟩

/-- A mutation, and two requests after it. -/
def eventsSample : List (Event Nat) :=
  [.mutate "plans" (some 1) 0, .bust 0, .bust 0, .get "plans" (some 1) [], .advance 0, .advance 0,
    .advance 0, .advance 0, .get "plans" (some 1) [], .advance 1, .advance 1]

theorem served_fresh_sample :
    (run (step serverSample) (new 100) eventsSample).gets.length = 2 ∧
      ∀ get ∈ (run (step serverSample) (new 100) eventsSample).gets, ∀ body,
        get.stage = .served body true →
          (run (step serverSample) (new 100) eventsSample).Fresh serverSample get body := by
  refine ⟨by decide, served_fresh serverSample 100 eventsSample ⟨⟨nofun, by decide⟩, by decide,
    by decide, nofun, by decide, by decide, by decide, by decide, ?_, by decide, by decide,
    trivial⟩ (by decide)⟩
  intro get hget _ _ _
  rw [List.mem_singleton.mp hget]

/-- Three mutations; the call of `bustCache` for the first one is slow. -/
def slowSample : List (Event Nat) :=
  [.mutate "plans" (some 1) 0, .bust 0, .mutate "plans" (some 1) 1, .bust 1, .bust 1,
    .get "plans" (some 1) [], .advance 0, .advance 0, .advance 0, .advance 0,
    .mutate "plans" (some 1) 2, .bust 2, .bust 2, .bust 0,
    .get "plans" (some 1) [], .advance 1, .advance 1]

/-- A slow `bustCache` turns the version back, and a stale response is found. -/
theorem served_fresh_fails :
    Along (step serverSample) Roomy (new 100) slowSample ∧
      ∃ get ∈ (run (step serverSample) (new 100) slowSample).gets, get.stage = .served 2 true ∧
        ¬(run (step serverSample) (new 100) slowSample).Fresh serverSample get 2 := by
  refine ⟨by decide, ⟨"plans", some 1, [], [0, 1, 2], .served 2 true⟩, ?_, rfl, ?_⟩
  · exact List.mem_cons_of_mem _ List.mem_cons_self
  · rintro ⟨query, seen, hseen, -, hbody, hrequired⟩
    have hlast : 2 < seen := hrequired 2 (by decide)
    have htake : 2 = ([0, 1, 2].take seen).length := hbody
    rw [List.length_take] at htake
    simp only [List.length_cons, List.length_nil] at htake
    omega

end State

end FireIsp.Http
