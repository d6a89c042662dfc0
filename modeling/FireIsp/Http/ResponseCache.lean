import FireIsp.Base.Encoding
import FireIsp.Base.Run
import FireIsp.Cache.Memory
import Mathlib.Data.List.Lex
import Mathlib.Data.List.Sort
import Mathlib.Data.PNat.Basic

/-!
# Queries and their keys

The key of a response holds the query as one text, sorted by names.  Queries of one text have the
same names and texts of values, but not always the same values.
-/

namespace FireIsp.Http

abbrev Text := List Char

/-- What a name stands for in a query. -/
inductive QueryValue
  | text (value : Text)
  | list (values : List QueryValue)
  | object (fields : List (Text × QueryValue))

/-- The query of a request, each name once. -/
abbrev Query := List (Text × QueryValue)

def objectText : Text := "[object Object]".toList

mutual

/-- `String(value)` -/
def QueryValue.toText : QueryValue → Text
  | .text value => value
  | .list values => [','].intercalate (toTexts values)
  | .object _ => objectText

/-- `String` of the values of an array. -/
def toTexts : List QueryValue → List Text
  | [] => []
  | value :: values => value.toText :: toTexts values

end

/-- The units of a character in UTF-16. -/
def units (c : Char) : List Nat :=
  if c.toNat < 0x10000 then [c.toNat]
  else [0xD800 + (c.toNat - 0x10000) / 0x400, 0xDC00 + (c.toNat - 0x10000) % 0x400]

/-- The order of `sort`. -/
def sortsBefore (a b : Text) : Bool := decide (a.flatMap units ≤ b.flatMap units)

def sorted (query : Query) : Query := query.insertionSort fun a b => sortsBefore a.1 b.1 = true

/-- One name and its value. -/
def queryItem (item : Text × QueryValue) : Text :=
  Uri.encodeURIComponent item.1 ++ '=' :: Uri.encodeURIComponent item.2.toText

/-- The query as it stands in the key. -/
def queryString (query : Query) : Text := ['&'].intercalate ((sorted query).map queryItem)

/-- The names of a query and the texts of their values. -/
def asTexts (query : Query) : List (Text × Text) := query.map fun item => (item.1, item.2.toText)

theorem queryItem_spec (item : Text × QueryValue) : queryItem item ≠ [] ∧ '&' ∉ queryItem item := by
  unfold queryItem
  refine ⟨List.append_ne_nil_of_right_ne_nil _ (List.cons_ne_nil _ _), fun hmem => ?_⟩
  rcases List.mem_append.mp hmem with hmem | hmem
  · exact Uri.free_encodeURIComponent (by decide) (by decide) _ hmem
  · rcases List.mem_cons.mp hmem with heq | hmem
    · exact absurd heq (by decide)
    · exact Uri.free_encodeURIComponent (by decide) (by decide) _ hmem

theorem queryItem_injective {a b : Text × QueryValue} (h : queryItem a = queryItem b) :
    (a.1, a.2.toText) = (b.1, b.2.toText) := by
  have hsplit : ∀ item, (queryItem item).splitOn '=' =
      [Uri.encodeURIComponent item.1, Uri.encodeURIComponent item.2.toText] := by
    intro item
    have hfree : ∀ part ∈ [Uri.encodeURIComponent item.1, Uri.encodeURIComponent item.2.toText],
        '=' ∉ part := by
      intro part hpart
      simp only [List.mem_cons, List.not_mem_nil, or_false] at hpart
      rcases hpart with rfl | rfl
      · exact Uri.free_encodeURIComponent (by decide) (by decide) _
      · exact Uri.free_encodeURIComponent (by decide) (by decide) _
    have hjoined := List.splitOn_intercalate '=' hfree (List.cons_ne_nil _ _)
    rw [List.intercalate_cons_cons, List.intercalate_singleton] at hjoined
    rw [← hjoined]
    simp [queryItem]
  have hparts := (hsplit a).symm.trans ((congrArg _ h).trans (hsplit b))
  simp only [List.cons.injEq, and_true] at hparts
  rw [Uri.encodeURIComponent_injective hparts.1, Uri.encodeURIComponent_injective hparts.2]

theorem intercalate_injective {items items' : List Text} {separator : Char}
    (h : ∀ item ∈ items, item ≠ [] ∧ separator ∉ item)
    (h' : ∀ item ∈ items', item ≠ [] ∧ separator ∉ item)
    (heq : [separator].intercalate items = [separator].intercalate items') : items = items' := by
  have hempty : ∀ {items : List Text}, (∀ item ∈ items, item ≠ [] ∧ separator ∉ item) →
      [separator].intercalate items = [] → items = [] := by
    intro items hitems hnil
    cases items with
    | nil => rfl
    | cons item items =>
      refine absurd ?_ (hitems item List.mem_cons_self).1
      cases items with
      | nil => rwa [List.intercalate_singleton] at hnil
      | cons other items =>
        rw [List.intercalate_cons_cons, List.append_assoc] at hnil
        exact (List.append_eq_nil_iff.mp hnil).1
  by_cases hnil : items = []
  · subst hnil
    exact (hempty h' heq.symm).symm
  · have hnil' : items' ≠ [] := by
      rintro rfl
      exact hnil (hempty h heq)
    rw [← List.splitOn_intercalate separator (fun item hitem => (h item hitem).2) hnil, heq,
      List.splitOn_intercalate separator (fun item hitem => (h' item hitem).2) hnil']

theorem map_eq_of_map_eq {A B C : Type} {f : A → B} {g : A → C} (h : ∀ a b, f a = f b → g a = g b)
    {l l' : List A} (heq : l.map f = l'.map f) : l.map g = l'.map g := by
  induction l generalizing l' with
  | nil => rw [List.map_eq_nil_iff.mp heq.symm]
  | cons a l ih =>
    cases l' with
    | nil => exact nomatch heq
    | cons b l' =>
      obtain ⟨hhead, htail⟩ := List.cons.inj heq
      rw [List.map_cons, List.map_cons, h a b hhead, ih htail]

theorem asTexts_perm {query query' : Query} (h : queryString query = queryString query') :
    (asTexts query).Perm (asTexts query') := by
  have hitems : ∀ query : Query, ∀ item ∈ (sorted query).map queryItem, item ≠ [] ∧ '&' ∉ item := by
    intro query item hitem
    obtain ⟨pair, -, rfl⟩ := List.mem_map.mp hitem
    exact queryItem_spec pair
  have hsame := intercalate_injective (hitems query) (hitems query') h
  have htexts : asTexts (sorted query) = asTexts (sorted query') :=
    map_eq_of_map_eq (fun _ _ => queryItem_injective) hsame
  have hperm : ∀ query : Query, (asTexts (sorted query)).Perm (asTexts query) :=
    fun query => (List.perm_insertionSort _ _).map _
  exact (hperm query).symm.trans (htexts ▸ hperm query')

end FireIsp.Http

/-!
## Responses in the cache

`httpCache` keeps the responses to GET requests under a version of their resource; `bustCache` counts
the version up after a mutation, so that older responses are not found any more.  Between any two
uses of the cache other requests go on.
-/

namespace FireIsp.Http

open Cache

/-- An organization, if the request has one; its id is not 0. -/
abbrev OrgId := Option ℕ+

/-- The keys of the cache. -/
inductive Key
  | ver (orgId : OrgId) (resource : String)
  | get (orgId : OrgId) (resource : String) (version : Nat) (qs : Text)
  deriving DecidableEq

/-- What is kept there. -/
inductive Value (B : Type)
  | version (version : Nat)
  /-- A response, and the number of mutations it was made after. -/
  | body (body : B) (seen : Nat)
  deriving DecidableEq

/-- How far a request has come. -/
inductive Stage (B : Type)
  | arrived
  | keyed (version : Nat)
  | missed (version : Nat)
  /-- The handler has read the database, after so many mutations. -/
  | handled (version seen : Nat)
  | served (body : B) (cached : Bool)
  deriving DecidableEq

/-- A GET request. -/
structure Get (B : Type) where
  resource : String
  orgId : OrgId
  query : Query
  /-- The mutations that had been followed by all of `bustCache` when it arrived. -/
  required : List Nat
  stage : Stage B

/-- How far a call of `bustCache` has come. -/
inductive BustStage
  | begun
  | read (current : Nat)
  | completed
  deriving DecidableEq

/-- A call of `bustCache` after a mutation. -/
structure Bust where
  resource : String
  orgId : OrgId
  mutation : Nat
  stage : BustStage

/-- The server: what it answers, with a status, after the mutations of a list. -/
structure Server (M B : Type) where
  respond : String → OrgId → Query → List M → Nat × B
  ttl : String → Nat

/-- The cache, the mutations so far, the requests and the calls of `bustCache`. -/
structure State (M B : Type) where
  clock : Nat
  cache : Memory Key (Value B)
  log : List M
  gets : List (Get B)
  busts : List Bust

/-- What happens. -/
inductive Event (M : Type)
  | get (resource : String) (orgId : OrgId) (query : Query)
  /-- A request goes on: it reads the version, looks its response up, calls the handler, stores. -/
  | advance (i : Nat)
  /-- The database is changed, and `bustCache` called. -/
  | mutate (resource : String) (orgId : OrgId) (mutation : M)
  /-- A call of `bustCache` goes on: it reads the version, writes the next one. -/
  | bust (j : Nat)
  | elapse (milliseconds : Nat)

def versionTtl : Nat := 604800

namespace State

variable {M B : Type}

/-- A server that has started. -/
def new (maxSize : Nat) : State M B := ⟨0, ⟨maxSize, []⟩, [], [], []⟩

def getVersion (s : State M B) (orgId : OrgId) (resource : String) :
    Nat × Memory Key (Value B) :=
  let (found, cache) := s.cache.get s.clock (.ver orgId resource)
  (match found with
    | some (.version version) => version
    | _ => 0, cache)

/-- A GET request arrives. -/
def arrive (s : State M B) (resource : String) (orgId : OrgId) (query : Query) : State M B :=
  let busted := s.busts.filter fun bust =>
    bust.stage = .completed && bust.resource = resource && bust.orgId = orgId
  { s with gets := s.gets ++ [⟨resource, orgId, query, busted.map Bust.mutation, .arrived⟩] }

/-- A request comes to its next stage. -/
def restage (s : State M B) (i : Nat) (get : Get B) (stage : Stage B) : State M B :=
  { s with gets := s.gets.set i { get with stage := stage } }

/-- A call of `bustCache` comes to its next stage. -/
def rebust (s : State M B) (j : Nat) (bust : Bust) (stage : BustStage) : State M B :=
  { s with busts := s.busts.set j { bust with stage := stage } }

/-- The key of a response. -/
def keyOf (get : Get B) (version : Nat) : Key :=
  .get get.orgId get.resource version (queryString get.query)

/-- A request goes on: `httpCache` -/
def advance (server : Server M B) (s : State M B) (i : Nat) (get : Get B) : State M B :=
  match get.stage with
  | .arrived =>
    let (version, cache) := s.getVersion get.orgId get.resource
    { s with cache := cache }.restage i get (.keyed version)
  | .keyed version =>
    let (found, cache) := s.cache.get s.clock (keyOf get version)
    { s with cache := cache }.restage i get
      (match found with
        | some (.body body _) => .served body true
        | _ => .missed version)
  | .missed version => s.restage i get (.handled version s.log.length)
  | .handled version seen =>
    let (status, body) := server.respond get.resource get.orgId get.query (s.log.take seen)
    let cache := if 200 ≤ status ∧ status < 300 then
        s.cache.set s.clock (keyOf get version) (.body body seen) (server.ttl get.resource)
      else s.cache
    { s with cache := cache }.restage i get (.served body false)
  | .served _ _ => s

/-- `bustCache` is called; without an organization or a resource it returns at once. -/
def mutate (s : State M B) (resource : String) (orgId : OrgId) (mutation : M) : State M B :=
  { s with
    log := s.log ++ [mutation]
    busts := s.busts ++ [⟨resource, orgId, s.log.length,
      if orgId = none ∨ resource = "" then .completed else .begun⟩] }

/-- A call of `bustCache` goes on. -/
def bust (s : State M B) (j : Nat) (bust : Bust) : State M B :=
  match bust.stage with
  | .begun =>
    let (current, cache) := s.getVersion bust.orgId bust.resource
    { s with cache := cache }.rebust j bust (.read current)
  | .read current =>
    let cache := s.cache.set s.clock (.ver bust.orgId bust.resource) (.version (current + 1))
      versionTtl
    { s with cache := cache }.rebust j bust .completed
  | .completed => s

def step (server : Server M B) (s : State M B) : Event M → State M B
  | .get resource orgId query => s.arrive resource orgId query
  | .advance i => s.gets[i]?.elim s fun get => s.advance server i get
  | .mutate resource orgId mutation => s.mutate resource orgId mutation
  | .bust j => s.busts[j]?.elim s fun bust => s.bust j bust
  | .elapse milliseconds => { s with clock := s.clock + milliseconds }

end State

end FireIsp.Http
