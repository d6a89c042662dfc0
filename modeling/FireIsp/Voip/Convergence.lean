import FireIsp.Voip.Sync

/-!
# Reconciling the address list

What one run leaves behind a second run leaves as it is, exactly if every range that is wanted is written
in the canonical text of the router.  A range that is not is looked for under its own text, found missing
in every run and refused in the second one.
-/

namespace FireIsp.Voip

open Routeros (Word Sentence)

variable {canon : Text → Option Text} {listName : Text} {router : Router}

section Printed

variable {key : Text}

theorem attrOf_attrWord (val : Text) (h : '=' ∉ key) :
    attrOf (attrWord key val) = some (key, val) := by
  have htake : (key ++ '=' :: val).takeWhile (fun c => c ≠ '=') = key := by
    rw [List.takeWhile_append_of_pos fun c hc => decide_eq_true (ne_of_mem_of_not_mem hc h)]
    simp
  have hdrop : (key ++ '=' :: val).dropWhile (fun c => c ≠ '=') = '=' :: val := by
    rw [List.dropWhile_append_of_pos fun c hc => decide_eq_true (ne_of_mem_of_not_mem hc h)]
    simp
  rw [attrWord, List.cons_append, attrOf, if_pos (by simp), htake, hdrop, List.tail_cons]

theorem idText_ne_nil (id : Nat) : idText id ≠ [] := List.cons_ne_nil _ _

theorem idText_injective {i j : Nat} (h : idText i = idText j) : i = j := by
  have hdigits : Nat.toDigits 16 i = Nat.toDigits 16 j := List.tail_eq_of_cons_eq h
  have hvalue := congrArg (Numeral.digitsValue 16) hdigits
  rwa [Numeral.digitsValue_toDigits (by decide) (by decide),
    Numeral.digitsValue_toDigits (by decide) (by decide)] at hvalue

theorem parseAttrs_concat (words : Sentence) (val : Text) (h : '=' ∉ key) :
    parseAttrs (words ++ [attrWord key val]) = Table.put Prod.fst (key, val) (parseAttrs words) := by
  rw [parseAttrs, List.foldl_append, List.foldl_cons, List.foldl_nil, attrOf_attrWord val h,
    Option.elim_some]
  rfl

theorem valueOf_concat (other : Text) (words : Sentence) (val : Text) (h : '=' ∉ key) :
    valueOf other (parseAttrs (words ++ [attrWord key val])) =
      if key = other then (if val = [] then none else some val)
      else valueOf other (parseAttrs words) := by
  rw [parseAttrs_concat words val h, valueOf, Table.find_put]
  split_ifs with hkey hval
  · simp [hval]
  · simp [hval]
  · rfl

theorem valueOf_sentence {e : Entry} (h : e.address ≠ []) :
    valueOf ".id".toList (parseAttrs e.sentence.tail) = some (idText e.id) ∧
      valueOf "address".toList (parseAttrs e.sentence.tail) = some e.address ∧
      (valueOf "comment".toList (parseAttrs e.sentence.tail) = some autoComment ↔
        e.comment = autoComment) := by
  let words := (([] ++ [attrWord ".id".toList (idText e.id)]) ++
    [attrWord "list".toList e.list]) ++ [attrWord "address".toList e.address]
  have hwords : e.sentence.tail = words ++
      if e.comment = [] then [] else [attrWord "comment".toList e.comment] := by
    rw [Entry.sentence]
    rfl
  have hid : valueOf ".id".toList (parseAttrs words) = some (idText e.id) := by
    rw [valueOf_concat _ _ _ (by decide), if_neg (by decide), valueOf_concat _ _ _ (by decide),
      if_neg (by decide), valueOf_concat _ _ _ (by decide), if_pos rfl, if_neg (idText_ne_nil _)]
  have haddress : valueOf "address".toList (parseAttrs words) = some e.address := by
    rw [valueOf_concat _ _ _ (by decide), if_pos rfl, if_neg h]
  have hcomment : valueOf "comment".toList (parseAttrs words) = none := by
    rw [valueOf_concat _ _ _ (by decide), if_neg (by decide), valueOf_concat _ _ _ (by decide),
      if_neg (by decide), valueOf_concat _ _ _ (by decide), if_neg (by decide)]
    rfl
  rw [hwords]
  split_ifs with hempty
  · rw [List.append_nil, hcomment, hempty]
    exact ⟨hid, haddress, by decide⟩
  · have hother : ∀ key, "comment".toList ≠ key →
        valueOf key (parseAttrs (words ++ [attrWord "comment".toList e.comment])) =
          valueOf key (parseAttrs words) := fun key hkey => by
      rw [valueOf_concat _ _ _ (by decide), if_neg hkey]
    have hown : valueOf "comment".toList
        (parseAttrs (words ++ [attrWord "comment".toList e.comment])) = some e.comment := by
      rw [valueOf_concat _ _ _ (by decide), if_pos rfl, if_neg hempty]
    rw [hother _ (by decide), hother _ (by decide), hown, Option.some_inj]
    exact ⟨hid, haddress, Iff.rfl⟩

theorem read_sentence {e : Entry} (h : e.address ≠ []) (listing : Listing) :
    listing.read e.sentence =
      { allAddresses := addTo listing.allAddresses e.address
        autoEntries := if e.comment = autoComment then
          Table.put Prod.fst (e.address, idText e.id) listing.autoEntries else listing.autoEntries } := by
  obtain ⟨hid, haddress, hcomment⟩ := valueOf_sentence h
  have hmark : ¬e.sentence.head? ≠ some "!re".toList := not_not.mpr rfl
  simp only [Listing.read, if_neg hmark, haddress, hid, hcomment]

theorem listing_eq {es : List Entry} (hnodup : (es.map Entry.address).Nodup)
    (hne : ∀ e ∈ es, e.address ≠ []) :
    ((es.map Entry.sentence) ++ [["!done".toList]]).foldl Listing.read ⟨[], []⟩ =
      ⟨es.map Entry.address, (es.filter fun e => e.comment = autoComment).map
        fun e => (e.address, idText e.id)⟩ := by
  rw [List.foldl_append]
  have hentries : (es.map Entry.sentence).foldl Listing.read ⟨[], []⟩ =
      ⟨es.map Entry.address, (es.filter fun e => e.comment = autoComment).map
        fun e => (e.address, idText e.id)⟩ := by
    induction es using List.reverseRecOn with
    | nil => rfl
    | append_singleton es e ih =>
      rw [List.map_append, List.nodup_append] at hnodup
      have hfresh : e.address ∉ es.map Entry.address := fun hmem =>
        hnodup.2.2 _ hmem _ (List.mem_singleton_self _) rfl
      have hauto : e.address ∉ (((es.filter fun e => e.comment = autoComment).map
          fun e => (e.address, idText e.id)).map Prod.fst) := by
        intro hmem
        rw [List.map_map] at hmem
        obtain ⟨x, hx, heq⟩ := List.mem_map.mp hmem
        exact hfresh (List.mem_map.mpr ⟨x, List.mem_of_mem_filter hx, heq⟩)
      rw [List.map_append, List.foldl_append,
        ih hnodup.1 fun x hx => hne x (List.mem_append_left _ hx), List.map_singleton,
        List.foldl_cons, List.foldl_nil, read_sentence (hne e (by simp)), addTo, if_neg hfresh]
      by_cases hcomment : e.comment = autoComment
      · rw [if_pos hcomment, Table.put_fresh hauto]
        simp [hcomment]
      · simp [hcomment]
  rw [hentries]
  rfl

end Printed

section Runs

/-- What the model relies on of canonical texts: they are kept as they are, and not empty. -/
structure Canonical (canon : Text → Option Text) : Prop where
  idem : ∀ text address, canon text = some address → canon address = some address
  nonempty : ∀ text address, canon text = some address → address ≠ []

def Router.addresses (router : Router) (listName : Text) : List Text :=
  (router.entries.filter fun e => e.list = listName).map Entry.address

/-- Entries are told apart by their ids, in a list also by their addresses, and these are canonical. -/
structure Router.Sound (canon : Text → Option Text) (listName : Text) (router : Router) : Prop where
  ids : (router.entries.map Entry.id).Nodup
  fresh : ∀ e ∈ router.entries, e.id < router.nextId
  addresses : (router.addresses listName).Nodup
  canonical : ∀ e ∈ router.entries, canon e.address = some e.address
  nonempty : ∀ e ∈ router.entries, e.address ≠ []

def Router.inserted (router : Router) (listName address : Text) : Router :=
  { router with
    entries := router.entries ++ [⟨router.nextId, listName, address, autoComment⟩]
    nextId := router.nextId + 1 }

theorem addresses_inserted (router : Router) (listName address : Text) :
    (router.inserted listName address).addresses listName =
      router.addresses listName ++ [address] := by
  simp [Router.addresses, Router.inserted]

theorem any_address : (router.entries.any fun e => e.list = listName ∧ e.address = address) = true ↔
    address ∈ router.addresses listName := by
  simp [Router.addresses, and_assoc]

theorem add_cases (canon : Text → Option Text) (listName : Text) (router : Router) (cidr : Text) :
    (∃ trap, router.exec canon (.add listName cidr autoComment) = (.error trap, router) ∧
      ∀ address, canon cidr = some address → address ∈ router.addresses listName) ∨
    ∃ reply address, canon cidr = some address ∧ address ∉ router.addresses listName ∧
      router.exec canon (.add listName cidr autoComment) =
        (.ok reply, router.inserted listName address) := by
  simp only [Router.exec]
  cases hcanon : canon cidr with
  | none => exact Or.inl ⟨.invalid, rfl, fun _ h => by cases h⟩
  | some address =>
    dsimp only
    by_cases hthere : address ∈ router.addresses listName
    · refine Or.inl ⟨.alreadyHave, if_pos (any_address.mpr hthere), fun other h => ?_⟩
      rwa [← Option.some.inj h]
    · exact Or.inr ⟨_, address, rfl, hthere, if_neg (mt any_address.mp hthere)⟩

variable {address : Text}

theorem Router.Sound.inserted (hcanon : Canonical canon) (h : router.Sound canon listName)
    {cidr : Text} (haddress : canon cidr = some address)
    (hnew : address ∉ router.addresses listName) :
    (router.inserted listName address).Sound canon listName := by
  have hmem : ∀ e ∈ (router.inserted listName address).entries, e ∈ router.entries ∨
      e = ⟨router.nextId, listName, address, autoComment⟩ := fun e he => by
    simpa [Router.inserted] using he
  refine ⟨?_, fun e he => ?_, ?_, fun e he => ?_, fun e he => ?_⟩
  · rw [Router.inserted, List.map_append, List.nodup_append]
    refine ⟨h.ids, List.nodup_singleton _, fun i hi j hj => ?_⟩
    obtain ⟨e, he, rfl⟩ := List.mem_map.mp hi
    rw [List.mem_singleton.mp hj]
    exact (h.fresh e he).ne
  · rcases hmem e he with he | rfl
    · exact (h.fresh e he).trans (Nat.lt_succ_self _)
    · exact Nat.lt_succ_self _
  · rw [addresses_inserted, List.nodup_append]
    exact ⟨h.addresses, List.nodup_singleton _, fun x hx y hy heq =>
      hnew (List.mem_singleton.mp hy ▸ heq ▸ hx)⟩
  · rcases hmem e he with he | rfl
    · exact h.canonical e he
    · exact hcanon.idem _ _ haddress
  · rcases hmem e he with he | rfl
    · exact h.nonempty e he
    · exact hcanon.nonempty _ _ haddress

/-- A router with more own entries, of ranges that are wanted. -/
structure Grown (canon : Text → Option Text) (listName : Text) (wanted : List Text)
    (before after : Router) : Prop where
  entries : ∃ new, after.entries = before.entries ++ new ∧
    ∀ e ∈ new, e.list = listName ∧ e.comment = autoComment ∧
      ∃ cidr ∈ wanted, canon cidr = some e.address
  queues : after.queues = before.queues
  mangles : after.mangles = before.mangles

theorem Grown.refl (wanted : List Text) (router : Router) :
    Grown canon listName wanted router router :=
  ⟨⟨[], (List.append_nil _).symm, fun _ h => by cases h⟩, rfl, rfl⟩

variable {wanted : List Text} {after : Router}

theorem Grown.inserted {cidr : Text}
    (h : Grown canon listName wanted (router.inserted listName address) after)
    (hcidr : cidr ∈ wanted) (haddress : canon cidr = some address) :
    Grown canon listName wanted router after := by
  obtain ⟨⟨new, hnew, hown⟩, hqueues, hmangles⟩ := h
  refine ⟨⟨⟨router.nextId, listName, address, autoComment⟩ :: new, ?_, fun e he => ?_⟩,
    hqueues, hmangles⟩
  · rw [hnew, Router.inserted, List.append_assoc, List.singleton_append]
  · rcases List.mem_cons.mp he with rfl | he
    · exact ⟨rfl, rfl, cidr, hcidr, haddress⟩
    · exact hown e he

theorem Grown.mem_addresses {before : Router} (h : Grown canon listName wanted before after)
    (hmem : address ∈ before.addresses listName) : address ∈ after.addresses listName := by
  obtain ⟨new, hnew, -⟩ := h.entries
  rw [Router.addresses, hnew, List.filter_append, List.map_append]
  exact List.mem_append_left _ hmem

variable {allAddresses todo : List Text}

/-- The loop that adds leaves a sound router; at its end no range is missing. -/
theorem addMissing_spec (hcanon : Canonical canon) {added : Nat} (h : router.Sound canon listName)
    (hwanted : ∀ cidr ∈ todo, cidr ∈ wanted) {result : Except Trap Nat}
    (hrun : addMissing canon listName allAddresses todo added router = (result, after)) :
    after.Sound canon listName ∧ Grown canon listName wanted router after ∧
      ∀ total, result = .ok total →
        total = added + (todo.filter fun cidr => cidr ∉ allAddresses).length ∧
        ∀ cidr ∈ todo, cidr ∉ allAddresses → ∃ address, canon cidr = some address ∧
          address ∈ after.addresses listName := by
  induction todo generalizing added router with
  | nil =>
    obtain ⟨rfl, rfl⟩ := Prod.mk.inj hrun
    refine ⟨h, .refl wanted router, fun total htotal => ⟨?_, fun _ hc => by cases hc⟩⟩
    exact (Except.ok.inj htotal).symm
  | cons cidr todo ih =>
    have hwanted' : ∀ c ∈ todo, c ∈ wanted := fun c hc => hwanted c (List.mem_cons_of_mem _ hc)
    rw [addMissing] at hrun
    split_ifs at hrun with hthere
    · obtain ⟨hsound, hgrown, hall⟩ := ih h hwanted' hrun
      refine ⟨hsound, hgrown, fun total htotal => ?_⟩
      obtain ⟨hcount, hall⟩ := hall total htotal
      refine ⟨by rw [hcount, List.filter_cons_of_neg (by simp [hthere])], fun c hc hmissing => ?_⟩
      rcases List.mem_cons.mp hc with rfl | hc
      · exact absurd hthere hmissing
      · exact hall c hc hmissing
    · rcases add_cases canon listName router cidr with
        ⟨trap, hexec, -⟩ | ⟨reply, address, haddress, hnew, hexec⟩
      · rw [hexec] at hrun
        obtain ⟨rfl, rfl⟩ := Prod.mk.inj hrun
        exact ⟨h, .refl wanted router, fun _ htotal => by cases htotal⟩
      · rw [hexec] at hrun
        obtain ⟨hsound, hgrown, hall⟩ := ih (h.inserted hcanon haddress hnew) hwanted' hrun
        have hmem : address ∈ (router.inserted listName address).addresses listName := by
          rw [addresses_inserted]
          simp
        refine ⟨hsound, hgrown.inserted (hwanted cidr List.mem_cons_self) haddress,
          fun total htotal => ?_⟩
        obtain ⟨hcount, hall⟩ := hall total htotal
        refine ⟨?_, fun c hc hmissing => ?_⟩
        · rw [hcount, List.filter_cons_of_pos (by simp [hthere]), List.length_cons]
          omega
        · rcases List.mem_cons.mp hc with rfl | hc
          · exact ⟨address, haddress, hgrown.mem_addresses hmem⟩
          · exact hall c hc hmissing

theorem addMissing_ok {added : Nat} (hnodup : todo.Nodup)
    (hcanonical : ∀ cidr ∈ todo, canon cidr = some cidr)
    (hmissing : ∀ cidr ∈ todo, cidr ∉ allAddresses → cidr ∉ router.addresses listName) :
    ∃ total after, addMissing canon listName allAddresses todo added router = (.ok total, after) := by
  induction todo generalizing added router with
  | nil => exact ⟨added, router, rfl⟩
  | cons cidr todo ih =>
    obtain ⟨hfirst, hrest⟩ := List.nodup_cons.mp hnodup
    have hcanonical' := fun c hc => hcanonical c (List.mem_cons_of_mem _ hc)
    rw [addMissing]
    split_ifs with hthere
    · exact ih hrest hcanonical' fun c hc => hmissing c (List.mem_cons_of_mem _ hc)
    · have hown := hcanonical cidr List.mem_cons_self
      rcases add_cases canon listName router cidr with
        ⟨trap, -, hrefused⟩ | ⟨reply, address, haddress, -, hexec⟩
      · exact absurd (hrefused cidr hown) (hmissing cidr List.mem_cons_self hthere)
      · obtain rfl := Option.some.inj (hown.symm.trans haddress)
        rw [hexec]
        refine ih hrest hcanonical' fun c hc hc' => ?_
        rw [addresses_inserted, List.mem_append, List.mem_singleton, not_or]
        exact ⟨hmissing c (List.mem_cons_of_mem _ hc) hc', fun heq => hfirst (heq ▸ hc)⟩

theorem addMissing_none (canon : Text → Option Text) (listName : Text) (router : Router)
    (added : Nat) (h : ∀ cidr ∈ todo, cidr ∈ allAddresses) :
    addMissing canon listName allAddresses todo added router = (.ok added, router) := by
  induction todo with
  | nil => rfl
  | cons cidr todo ih =>
    rw [addMissing, if_pos (h cidr List.mem_cons_self)]
    exact ih fun c hc => h c (List.mem_cons_of_mem _ hc)

/-- Ranges are equal where they look equal. -/
local instance lawfulRange : LawfulBEq (List Char) := inferInstance

/-- The ids that are removed. -/
def staleIds (desired : List Text) (entries : List (Text × Text)) : List Text :=
  (entries.filter fun entry => entry.1 ∉ desired).map Prod.snd

variable {desired : List Text}

theorem staleIds_wanted {addr : Text} (id : Text) (todo : List (Text × Text)) (h : addr ∈ desired) :
    staleIds desired ((addr, id) :: todo) = staleIds desired todo := by
  simp [staleIds, h]

theorem staleIds_unwanted {addr : Text} (id : Text) (todo : List (Text × Text))
    (h : addr ∉ desired) :
    staleIds desired ((addr, id) :: todo) = id :: staleIds desired todo := by
  simp [staleIds, h]

variable {removed : Nat}

theorem removeStale_spec {todo : List (Text × Text)} {total : Nat}
    (hrun : removeStale canon desired todo removed router = (.ok total, after)) :
    after = { router with
      entries := router.entries.filter fun e => idText e.id ∉ staleIds desired todo } := by
  induction todo generalizing removed router with
  | nil =>
    obtain ⟨-, rfl⟩ := Prod.mk.inj hrun
    simp [staleIds]
  | cons entry todo ih =>
    obtain ⟨addr, id⟩ := entry
    rw [removeStale] at hrun
    split_ifs at hrun with hwanted
    · rw [ih hrun, staleIds_wanted id todo hwanted]
    · simp only [Router.exec] at hrun
      split_ifs at hrun with hthere
      · rw [ih hrun, staleIds_unwanted id todo hwanted]
        simp only [List.filter_filter, List.mem_cons, not_or, ne_eq, Bool.decide_and, Bool.and_comm]
      · cases (Prod.mk.inj hrun).1

theorem removeStale_ok {todo : List (Text × Text)} (hnodup : (staleIds desired todo).Nodup)
    (hthere : ∀ id ∈ staleIds desired todo, ∃ e ∈ router.entries, idText e.id = id) :
    ∃ total after, removeStale canon desired todo removed router = (.ok total, after) := by
  induction todo generalizing removed router with
  | nil => exact ⟨removed, router, rfl⟩
  | cons entry todo ih =>
    obtain ⟨addr, id⟩ := entry
    rw [removeStale]
    by_cases hwanted : addr ∈ desired
    · rw [if_pos hwanted]
      rw [staleIds_wanted id todo hwanted] at hnodup hthere
      exact ih hnodup hthere
    · rw [staleIds_unwanted id todo hwanted] at hnodup hthere
      obtain ⟨hfirst, hrest⟩ := List.nodup_cons.mp hnodup
      obtain ⟨e, he, hid⟩ := hthere id List.mem_cons_self
      have hany : (router.entries.any fun e => idText e.id = id) = true :=
        List.any_eq_true.mpr ⟨e, he, decide_eq_true hid⟩
      rw [if_neg hwanted]
      simp only [Router.exec, hany, if_true]
      refine ih hrest fun other hother => ?_
      obtain ⟨e', he', hid'⟩ := hthere other (List.mem_cons_of_mem _ hother)
      refine ⟨e', List.mem_filter.mpr ⟨he', decide_eq_true fun heq => ?_⟩, hid'⟩
      exact hfirst (heq ▸ hid' ▸ hother)

theorem removeStale_none {todo : List (Text × Text)} (removed : Nat)
    (h : ∀ entry ∈ todo, entry.1 ∈ desired) :
    removeStale canon desired todo removed router = (.ok removed, router) := by
  induction todo with
  | nil => rfl
  | cons entry todo ih =>
    obtain ⟨addr, id⟩ := entry
    rw [removeStale, if_pos (h _ List.mem_cons_self)]
    exact ih fun x hx => h x (List.mem_cons_of_mem _ hx)

/-- The loops see the list by the addresses of the own entries with their ids. -/
def Router.autoEntries (router : Router) (listName : Text) : List (Text × Text) :=
  ((router.entries.filter fun e => e.list = listName).filter fun e => e.comment = autoComment).map
    fun e => (e.address, idText e.id)

theorem print_listing (h : router.Sound canon listName) :
    (router.print canon (.printEntries listName)).foldl Listing.read ⟨[], []⟩ =
      ⟨router.addresses listName, router.autoEntries listName⟩ :=
  listing_eq h.addresses fun e he => h.nonempty e (List.mem_of_mem_filter he)

/-- An entry with the own comment that is not wanted. -/
def Entry.Stale (listName : Text) (desired : List Text) (e : Entry) : Prop :=
  e.list = listName ∧ e.comment = autoComment ∧ e.address ∉ desired

instance (desired : List Text) (e : Entry) : Decidable (e.Stale listName desired) :=
  inferInstanceAs (Decidable (_ ∧ _ ∧ _))

theorem mem_staleIds {id : Text} :
    id ∈ staleIds desired (router.autoEntries listName) ↔
      ∃ e ∈ router.entries, e.Stale listName desired ∧ idText e.id = id := by
  simp only [staleIds, Router.autoEntries, List.filter_map, List.map_map, List.mem_map,
    List.mem_filter, Entry.Stale, decide_eq_true_eq, Function.comp_apply]
  constructor
  · rintro ⟨e, ⟨⟨⟨he, hlist⟩, hcomment⟩, hstale⟩, hid⟩
    exact ⟨e, he, ⟨hlist, hcomment, hstale⟩, hid⟩
  · rintro ⟨e, he, ⟨hlist, hcomment, hstale⟩, hid⟩
    exact ⟨e, ⟨⟨⟨he, hlist⟩, hcomment⟩, hstale⟩, hid⟩

theorem staleIds_nodup (h : router.Sound canon listName) (desired : List Text) :
    (staleIds desired (router.autoEntries listName)).Nodup := by
  have hids : (router.entries.map fun e => idText e.id).Nodup := by
    have hmap := h.ids.map fun i j hij => idText_injective hij
    rwa [List.map_map] at hmap
  refine hids.sublist ?_
  rw [staleIds, Router.autoEntries, List.filter_map, List.map_map]
  exact ((List.filter_sublist.trans List.filter_sublist).trans List.filter_sublist).map _

theorem Router.Sound.filter (h : router.Sound canon listName) (keep : Entry → Bool) :
    Router.Sound canon listName { router with entries := router.entries.filter keep } where
  ids := h.ids.sublist (List.filter_sublist.map _)
  fresh := fun e he => h.fresh e (List.mem_of_mem_filter he)
  addresses := h.addresses.sublist ((List.filter_sublist.filter _).map _)
  canonical := fun e he => h.canonical e (List.mem_of_mem_filter he)
  nonempty := fun e he => h.nonempty e (List.mem_of_mem_filter he)

theorem removeStale_grown {grown : Router} {total : Nat} (hsound : grown.Sound canon listName)
    (hgrown : Grown canon listName desired router grown)
    (hcanonical : ∀ cidr ∈ desired, canon cidr = some cidr)
    (hrun : removeStale canon desired (router.autoEntries listName) removed grown =
      (.ok total, after)) :
    after = { grown with
      entries := grown.entries.filter fun e => ¬e.Stale listName desired } := by
  rw [removeStale_spec hrun]
  congr 1
  refine List.filter_congr fun e he => decide_eq_decide.mpr (not_congr ?_)
  obtain ⟨new, hnew, hown⟩ := hgrown.entries
  rw [mem_staleIds]
  constructor
  · -- ids tell the entries apart, so the stale entry of the id is this one
    rintro ⟨other, hother, hstale, hid⟩
    have hmem : other ∈ grown.entries := hnew ▸ List.mem_append_left _ hother
    rwa [← List.inj_on_of_nodup_map hsound.ids hmem he (idText_injective hid)]
  · intro hstale
    rw [hnew] at he
    rcases List.mem_append.mp he with he | he
    · exact ⟨e, he, hstale, rfl⟩
    · obtain ⟨-, -, cidr, hcidr, haddress⟩ := hown e he
      obtain rfl := Option.some.inj ((hcanonical cidr hcidr).symm.trans haddress)
      exact absurd hcidr hstale.2.2

end Runs

section Convergence

variable {ranges : List Text}

theorem mem_addTo_foldl {x : Text} {set : List Text} :
    x ∈ ranges.foldl addTo set ↔ x ∈ set ∨ x ∈ ranges := by
  induction ranges generalizing set with
  | nil => simp
  | cons y ranges ih =>
    rw [List.foldl_cons, ih, addTo, List.mem_cons]
    split_ifs with hy
    · refine ⟨Or.imp_right Or.inr, fun h => ?_⟩
      rcases h with h | rfl | h
      · exact Or.inl h
      · exact Or.inl hy
      · exact Or.inr h
    · rw [List.mem_append, List.mem_singleton, or_assoc]

theorem nodup_addTo_foldl {set : List Text} (h : set.Nodup) : (ranges.foldl addTo set).Nodup := by
  induction ranges generalizing set with
  | nil => exact h
  | cons y ranges ih =>
    rw [List.foldl_cons]
    refine ih ?_
    rw [addTo]
    split_ifs with hy
    · exact h
    · exact List.nodup_append.mpr ⟨h, List.nodup_singleton _, fun a ha b hb hab =>
        hy (List.mem_singleton.mp hb ▸ hab ▸ ha)⟩

def Router.operatorAddresses (router : Router) (listName : Text) : List Text :=
  (router.entries.filter fun e => e.list = listName ∧ e.comment ≠ autoComment).map Entry.address

def Router.foreign (router : Router) (listName : Text) : List Entry :=
  router.entries.filter fun e => ¬(e.list = listName ∧ e.comment = autoComment)

/-- The list has the wanted ranges and the addresses of operators, and no others. -/
def Covers (canon : Text → Option Text) (listName : Text) (ranges : List Text)
    (router : Router) : Prop :=
  ∀ address, address ∈ router.addresses listName ↔
    (∃ cidr ∈ ranges, canon cidr = some address) ∨ address ∈ router.operatorAddresses listName

def Report.Idle : Report → Prop
  | .skipped => True
  | .reconciled added removed _ _ => added = 0 ∧ removed = 0

/-- One run covers the ranges and keeps foreign entries; the next one changes nothing. -/
structure Converges (canon : Text → Option Text) (listName : Text) (ranges : List Text)
    (router : Router) : Prop where
  foreign : (syncVoipAddressList canon listName ranges router).2.foreign listName =
    router.foreign listName
  covers : Covers canon listName ranges (syncVoipAddressList canon listName ranges router).2
  again : ∃ report, report.Idle ∧
    syncVoipAddressList canon listName ranges (syncVoipAddressList canon listName ranges router).2 =
      (.ok report, (syncVoipAddressList canon listName ranges router).2)

variable {after : Router}

theorem seeded_congr {before : Router} (hqueues : after.queues = before.queues)
    (hmangles : after.mangles = before.mangles) : after.seeded canon = before.seeded canon := by
  simp only [Router.seeded, Router.print, Router.exec, hqueues, hmangles]

theorem removeStale_keeps {desired : List Text} {todo : List (Text × Text)} {removed : Nat}
    {result : Except Trap Nat}
    (hrun : removeStale canon desired todo removed router = (result, after)) :
    ∃ keep : Entry → Bool, after = { router with entries := router.entries.filter keep } := by
  have hsame : router = { router with entries := router.entries.filter fun _ => true } := by
    rw [List.filter_true]
  induction todo generalizing removed router with
  | nil =>
    obtain ⟨-, rfl⟩ := Prod.mk.inj hrun
    exact ⟨_, hsame⟩
  | cons entry todo ih =>
    obtain ⟨addr, id⟩ := entry
    rw [removeStale] at hrun
    split_ifs at hrun with hwanted
    · exact ih hrun hsame
    · simp only [Router.exec] at hrun
      split_ifs at hrun with hthere
      · obtain ⟨keep, hkeep⟩ := ih hrun (by rw [List.filter_true])
        exact ⟨_, by rw [hkeep, List.filter_filter]⟩
      · obtain ⟨-, rfl⟩ := Prod.mk.inj hrun
        exact ⟨_, hsame⟩

theorem sync_skipped (hseeded : router.seeded canon = false) :
    syncVoipAddressList canon listName ranges router = (.ok .skipped, router) := by
  rw [syncVoipAddressList, if_neg (by simp [hseeded])]

theorem sync_keeps (ranges : List Text) (hcanon : Canonical canon)
    (hsound : router.Sound canon listName) (hseeded : router.seeded canon = true) :
    (syncVoipAddressList canon listName ranges router).2.Sound canon listName ∧
      (syncVoipAddressList canon listName ranges router).2.seeded canon = true := by
  rw [syncVoipAddressList, if_pos hseeded]
  simp only [print_listing hsound]
  rcases hadd : addMissing canon listName (router.addresses listName) (ranges.foldl addTo []) 0
    router with ⟨result, grown⟩
  obtain ⟨hsound', hgrown, -⟩ := addMissing_spec hcanon hsound (fun _ hc => hc) hadd
  have hseeded' : grown.seeded canon = true :=
    (seeded_congr hgrown.queues hgrown.mangles).trans hseeded
  cases result with
  | error trap => exact ⟨hsound', hseeded'⟩
  | ok added =>
    dsimp only
    rcases hremove : removeStale canon (ranges.foldl addTo []) (router.autoEntries listName) 0
      grown with ⟨result, after⟩
    obtain ⟨keep, rfl⟩ := removeStale_keeps hremove
    cases result <;> exact ⟨hsound'.filter keep, (seeded_congr rfl rfl).trans hseeded'⟩

theorem canonical_of_idle (hcanon : Canonical canon) (hsound : router.Sound canon listName)
    (hseeded : router.seeded canon = true) {report : Report} (hidle : report.Idle)
    (hrun : syncVoipAddressList canon listName ranges router = (.ok report, after)) :
    ∀ cidr ∈ ranges, canon cidr = some cidr := by
  rw [syncVoipAddressList, if_pos hseeded] at hrun
  simp only [print_listing hsound] at hrun
  rcases hadd : addMissing canon listName (router.addresses listName) (ranges.foldl addTo []) 0
    router with ⟨result, grown⟩
  obtain ⟨-, -, hall⟩ := addMissing_spec hcanon hsound (fun _ hc => hc) hadd
  rw [hadd] at hrun
  cases result with
  | error trap => cases (Prod.mk.inj hrun).1
  | ok added =>
    dsimp only at hrun
    rcases hremove : removeStale canon (ranges.foldl addTo []) (router.autoEntries listName) 0
      grown with ⟨result, last⟩
    rw [hremove] at hrun
    cases result with
    | error trap => cases (Prod.mk.inj hrun).1
    | ok removed =>
      obtain rfl := Except.ok.inj (Prod.mk.inj hrun).1
      have hnone : ((ranges.foldl addTo []).filter
          fun cidr => cidr ∉ router.addresses listName).length = 0 := by
        have hcount := (hall added rfl).1
        have hadded : added = 0 := hidle.1
        omega
      intro cidr hcidr
      have hmem : cidr ∈ router.addresses listName := by
        by_contra hmissing
        have hfilter : cidr ∈ (ranges.foldl addTo []).filter
            fun cidr => cidr ∉ router.addresses listName :=
          List.mem_filter.mpr ⟨mem_addTo_foldl.mpr (Or.inr hcidr), decide_eq_true hmissing⟩
        rw [List.length_eq_zero_iff.mp hnone] at hfilter
        cases hfilter
      obtain ⟨e, he, rfl⟩ := List.mem_map.mp hmem
      exact hsound.canonical e (List.mem_of_mem_filter he)

theorem sync_canonical (hcanon : Canonical canon) (hsound : router.Sound canon listName)
    (hseeded : router.seeded canon = true) (hcanonical : ∀ cidr ∈ ranges, canon cidr = some cidr) :
    ∃ grown : Router, Grown canon listName (ranges.foldl addTo []) router grown ∧
      (∀ cidr ∈ ranges, cidr ∈ grown.addresses listName) ∧
      (syncVoipAddressList canon listName ranges router).2 = { grown with
        entries := grown.entries.filter fun e => ¬e.Stale listName (ranges.foldl addTo []) } := by
  have hdesired : ∀ cidr ∈ ranges.foldl addTo [], canon cidr = some cidr := fun cidr hcidr =>
    hcanonical cidr ((mem_addTo_foldl.mp hcidr).resolve_left fun h => by cases h)
  obtain ⟨added, grown, hadd⟩ : ∃ added grown, addMissing canon listName
      (router.addresses listName) (ranges.foldl addTo []) 0 router = (.ok added, grown) :=
    addMissing_ok (nodup_addTo_foldl List.nodup_nil) hdesired fun cidr _ hmissing => hmissing
  obtain ⟨hsound', hgrown, hall⟩ := addMissing_spec hcanon hsound (fun _ hc => hc) hadd
  obtain ⟨removed, after, hremove⟩ : ∃ removed after, removeStale canon (ranges.foldl addTo [])
      (router.autoEntries listName) 0 grown = (.ok removed, after) := by
    refine removeStale_ok (staleIds_nodup hsound _) fun id hid => ?_
    obtain ⟨e, he, -, hid⟩ := mem_staleIds.mp hid
    obtain ⟨new, hnew, -⟩ := hgrown.entries
    exact ⟨e, hnew ▸ List.mem_append_left _ he, hid⟩
  refine ⟨grown, hgrown, fun cidr hcidr => ?_, ?_⟩
  · by_cases hthere : cidr ∈ router.addresses listName
    · exact hgrown.mem_addresses hthere
    · obtain ⟨address, haddress, hmem⟩ := (hall added rfl).2 cidr
        (mem_addTo_foldl.mpr (Or.inr hcidr)) hthere
      rwa [Option.some.inj ((hcanonical cidr hcidr).symm.trans haddress)]
  · rw [syncVoipAddressList, if_pos hseeded]
    simp only [print_listing hsound, hadd, hremove]
    exact removeStale_grown hsound' hgrown hdesired hremove

theorem sync_idle (hsound : router.Sound canon listName) (hseeded : router.seeded canon = true)
    (hall : ∀ cidr ∈ ranges, cidr ∈ router.addresses listName)
    (hfresh : ∀ e ∈ router.entries, ¬e.Stale listName (ranges.foldl addTo [])) :
    ∃ report : Report, report.Idle ∧
      syncVoipAddressList canon listName ranges router = (.ok report, router) := by
  have hnone := addMissing_none canon listName router 0
    fun cidr (hcidr : cidr ∈ ranges.foldl addTo []) =>
      hall cidr ((mem_addTo_foldl.mp hcidr).resolve_left fun h => by cases h)
  have hkept : ∀ entry ∈ router.autoEntries listName, entry.1 ∈ ranges.foldl addTo [] := by
    intro entry hentry
    obtain ⟨e, he, rfl⟩ := List.mem_map.mp hentry
    obtain ⟨he, hcomment⟩ := List.mem_filter.mp he
    obtain ⟨he, hlist⟩ := List.mem_filter.mp he
    by_contra hunwanted
    exact hfresh e he ⟨of_decide_eq_true hlist, of_decide_eq_true hcomment, hunwanted⟩
  refine ⟨.reconciled 0 0 ((ranges.foldl addTo []).length - 0) (ranges.foldl addTo []).length,
    ⟨rfl, rfl⟩, ?_⟩
  rw [syncVoipAddressList, if_pos hseeded]
  simp only [print_listing hsound, hnone, removeStale_none 0 hkept]

theorem foreign_kept {desired : List Text} {grown : Router}
    (hgrown : Grown canon listName desired router grown) :
    Router.foreign { grown with
      entries := grown.entries.filter fun e => ¬e.Stale listName desired } listName =
        router.foreign listName := by
  obtain ⟨new, hnew, hown⟩ := hgrown.entries
  have hnone : new.filter (fun e => ¬(e.list = listName ∧ e.comment = autoComment)) = [] :=
    List.filter_eq_nil_iff.mpr fun e he hforeign =>
      of_decide_eq_true hforeign ⟨(hown e he).1, (hown e he).2.1⟩
  have hkeep : ∀ e ∈ grown.entries,
      ((decide ¬(e.list = listName ∧ e.comment = autoComment)) &&
        decide ¬e.Stale listName desired) =
        decide ¬(e.list = listName ∧ e.comment = autoComment) := fun e _ => by
    rw [Bool.and_eq_left_iff_imp]
    exact fun hforeign => decide_eq_true fun hstale =>
      of_decide_eq_true hforeign ⟨hstale.1, hstale.2.1⟩
  rw [Router.foreign, List.filter_filter, List.filter_congr hkeep, hnew, List.filter_append, hnone,
    List.append_nil, Router.foreign]

theorem covers_of_fresh (hcanonical : ∀ cidr ∈ ranges, canon cidr = some cidr)
    (hall : ∀ cidr ∈ ranges, cidr ∈ router.addresses listName)
    (hfresh : ∀ e ∈ router.entries, ¬e.Stale listName (ranges.foldl addTo [])) :
    Covers canon listName ranges router := by
  intro address
  refine ⟨fun hmem => ?_, fun hmem => ?_⟩
  · obtain ⟨e, he, rfl⟩ := List.mem_map.mp hmem
    obtain ⟨he, hlist⟩ := List.mem_filter.mp he
    have hlist : e.list = listName := of_decide_eq_true hlist
    by_cases hcomment : e.comment = autoComment
    · have hdesired : e.address ∈ ranges.foldl addTo [] := by
        by_contra hunwanted
        exact hfresh e he ⟨hlist, hcomment, hunwanted⟩
      have hrange := (mem_addTo_foldl.mp hdesired).resolve_left fun h => by cases h
      exact Or.inl ⟨e.address, hrange, hcanonical _ hrange⟩
    · exact Or.inr (List.mem_map.mpr ⟨e, List.mem_filter.mpr ⟨he, by simp [hlist, hcomment]⟩, rfl⟩)
  · rcases hmem with ⟨cidr, hcidr, haddress⟩ | hmem
    · obtain rfl := Option.some.inj ((hcanonical cidr hcidr).symm.trans haddress)
      exact hall cidr hcidr
    · obtain ⟨e, he, rfl⟩ := List.mem_map.mp hmem
      obtain ⟨he, hoperator⟩ := List.mem_filter.mp he
      refine List.mem_map.mpr ⟨e, List.mem_filter.mpr ⟨he, ?_⟩, rfl⟩
      exact decide_eq_true (of_decide_eq_true hoperator).1

theorem converges_of_canonical (hcanon : Canonical canon) (hsound : router.Sound canon listName)
    (hseeded : router.seeded canon = true) (hcanonical : ∀ cidr ∈ ranges, canon cidr = some cidr) :
    Converges canon listName ranges router := by
  obtain ⟨grown, hgrown, hall, hafter⟩ := sync_canonical hcanon hsound hseeded hcanonical
  obtain ⟨hsound', hseeded'⟩ := sync_keeps ranges hcanon hsound hseeded
  have hkept : ∀ cidr ∈ ranges,
      cidr ∈ (syncVoipAddressList canon listName ranges router).2.addresses listName := by
    intro cidr hcidr
    obtain ⟨e, he, rfl⟩ := List.mem_map.mp (hall cidr hcidr)
    obtain ⟨he, hlist⟩ := List.mem_filter.mp he
    rw [hafter]
    refine List.mem_map.mpr ⟨e, List.mem_filter.mpr ⟨List.mem_filter.mpr ⟨he, ?_⟩, hlist⟩, rfl⟩
    exact decide_eq_true fun hstale => hstale.2.2 (mem_addTo_foldl.mpr (Or.inr hcidr))
  have hfresh : ∀ e ∈ (syncVoipAddressList canon listName ranges router).2.entries,
      ¬e.Stale listName (ranges.foldl addTo []) := by
    intro e he
    rw [hafter] at he
    exact of_decide_eq_true (List.mem_filter.mp he).2
  refine ⟨?_, covers_of_fresh hcanonical hkept hfresh, sync_idle hsound' hseeded' hkept hfresh⟩
  rw [hafter]
  exact foreign_kept hgrown

/-- Runs converge exactly if every range is written in the router's canonical text. -/
theorem converges_iff (hcanon : Canonical canon) (hsound : router.Sound canon listName) :
    Converges canon listName ranges router ↔
      (router.seeded canon = true → ∀ cidr ∈ ranges, canon cidr = some cidr) ∧
      (router.seeded canon = false → Covers canon listName ranges router) := by
  cases hseeded : router.seeded canon with
  | true =>
    refine ⟨fun h => ⟨fun _ => ?_, fun hfalse => by cases hfalse⟩,
      fun h => converges_of_canonical hcanon hsound hseeded (h.1 rfl)⟩
    obtain ⟨hsound', hseeded'⟩ := sync_keeps ranges hcanon hsound hseeded
    obtain ⟨report, hidle, hrun⟩ := h.again
    exact canonical_of_idle hcanon hsound' hseeded' hidle hrun
  | false =>
    have hskip : syncVoipAddressList canon listName ranges router = (.ok .skipped, router) :=
      sync_skipped hseeded
    refine ⟨fun h => ⟨fun htrue => (by cases htrue), fun _ => ?_⟩, fun h => ⟨?_, ?_, ?_⟩⟩
    · have hcovers := h.covers
      rwa [hskip] at hcovers
    · rw [hskip]
    · rw [hskip]
      exact h.2 rfl
    · rw [hskip]
      exact ⟨.skipped, trivial, hskip⟩

/-- A host keeps its address without the length of its mask. -/
def bareHost (text : Text) : Option Text :=
  let address := text.takeWhile fun c => c ≠ '/'
  if address = [] then none
  else if text = address ++ "/32".toList then some address else some text

theorem bareHost_canonical : Canonical bareHost := by
  have hcases : ∀ text address, bareHost text = some address →
      address ≠ [] ∧ bareHost address = some address := by
    intro text address h
    have hown := h
    simp only [bareHost] at h
    split_ifs at h with hempty hhost
    · obtain rfl := Option.some.inj h
      have htake : (text.takeWhile fun c => decide (c ≠ '/')).takeWhile (fun c => decide (c ≠ '/')) =
          text.takeWhile fun c => decide (c ≠ '/') := by
        rw [List.takeWhile_takeWhile]
        simp only [and_self, Bool.decide_eq_true]
      refine ⟨hempty, ?_⟩
      simp only [bareHost]
      rw [htake, if_neg hempty, if_neg fun hsame => ?_]
      have hlength := congrArg List.length hsame
      rw [List.length_append] at hlength
      simp at hlength
    · obtain rfl := Option.some.inj h
      refine ⟨fun hnil => hempty ?_, hown⟩
      rw [hnil, List.takeWhile_nil]
  exact ⟨fun text address h => (hcases text address h).2, fun text address h => (hcases text address h).1⟩

/-- A router with an entry of a host and one that is not wanted any more. -/
def hostRouter : Router where
  queues := [⟨1, tagged "-realtime"⟩]
  mangles := []
  entries := [⟨2, tagged "-voip", "1.2.3.4".toList, autoComment⟩,
    ⟨3, tagged "-voip", "198.51.100.0/24".toList, autoComment⟩]
  nextId := 4

theorem hostRouter_sound : hostRouter.Sound bareHost (tagged "-voip") :=
  ⟨by decide, by decide, by decide, by decide, by decide⟩

/-- A network that is canonical converges. -/
theorem converges_iff_network : Converges bareHost (tagged "-voip") ["203.0.113.0/24".toList]
    hostRouter :=
  (converges_iff bareHost_canonical hostRouter_sound).mpr ⟨by decide, fun h => absurd h (by decide)⟩

/-- A host given with the length of its mask is refused, and what is not wanted stays. -/
theorem converges_fails_host :
    resolveRanges (fun _ => none) 4000 [some "1.2.3.4/32".toList] = ["1.2.3.4/32".toList] ∧
      Canonical bareHost ∧ hostRouter.Sound bareHost (tagged "-voip") ∧
      syncVoipAddressList bareHost (tagged "-voip") ["1.2.3.4/32".toList] hostRouter =
        (.error .alreadyHave, hostRouter) ∧
      ¬Converges bareHost (tagged "-voip") ["1.2.3.4/32".toList] hostRouter := by
  have hrun : syncVoipAddressList bareHost (tagged "-voip") ["1.2.3.4/32".toList] hostRouter =
      (.error .alreadyHave, hostRouter) := by decide
  refine ⟨by decide, bareHost_canonical, hostRouter_sound, hrun, fun h => ?_⟩
  have hcovers := h.covers "198.51.100.0/24".toList
  rw [hrun] at hcovers
  exact absurd (hcovers.mp (by decide)) (by decide)

end Convergence

end FireIsp.Voip
