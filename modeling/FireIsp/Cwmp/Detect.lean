import FireIsp.Cwmp.Document

/-!
# The type of a message

What is looked for in the text of an envelope is found in its parts.  The type that is detected is
that of the element in the body unless some part, wherever it stands, holds what is looked for
before it.
-/

namespace FireIsp.Cwmp

open Regex Occurs

/-- Some text looks like the end of a diagnosis. -/
def marked (text : Text) : Bool :=
  includes text "8 DIAGNOSTICS COMPLETE" || includes text "DiagnosticsComplete"

/-- Some markup looks like a type. -/
def names (markup : Text) (type : String) : Bool :=
  mentions markup type || includes markup ("<" ++ type)

/-- The types that are looked for before one. -/
def earlier (type : MessageType) : List (String × MessageType) :=
  types.takeWhile fun other => other.2 ≠ type

/-- Some part of a document looks like the end of a diagnosis. -/
def Document.Marked (doc : Document) : Prop :=
  (∃ part ∈ doc.parts, marked part.1 = true ∨ marked part.2 = true) ∨
    marked doc.content.last = true

/-- What a type is detected from: the end of a diagnosis, or else the first type in some markup. -/
structure Document.Recognized (doc : Document) (message : Node) (name : String)
    (type : MessageType) : Prop where
  marked : doc.Marked ↔ message.carries = true
  named : message.carries = false → message.inner.isSome ∨ ∃ part ∈ doc.parts, names part.2 name
  unnamed : message.carries = false →
    ∀ other ∈ earlier type, ∀ part ∈ doc.parts, names part.2 other.1 = false

theorem includes_iff {xml : Text} {text : String} :
    includes xml text = true ↔ text.toList <:+: xml := by
  unfold includes
  rw [List.any_eq_true, List.infix_iff_prefix_suffix]
  constructor
  · rintro ⟨tail, htail, hprefix⟩
    exact ⟨tail, List.isPrefixOf_iff_prefix.mp hprefix, (List.mem_tails _ _).mp htail⟩
  · rintro ⟨tail, hprefix, hsuffix⟩
    exact ⟨tail, (List.mem_tails _ _).mpr hsuffix, List.isPrefixOf_iff_prefix.mpr hprefix⟩

/-- A character is a letter of a type, in either case. -/
def sameLetter (a b : Char) : Bool := decide (b.toLower = a.toLower)

/-- A word that looks like a type. -/
def Mention (type : String) (found : Text) : Prop :=
  ∃ before taken c, found = '<' :: (before ++ taken) ++ [c] ∧ '>' ∉ before ∧
    List.Forall₂ (fun a b => sameLetter a b = true) type.toList taken ∧
    (Text.isSpace c || decide (c = '>')) = true

variable {type : String}

theorem matches_mention {text rest : Text} :
    Matches (exactly '<' :: within :: .optional (fun c => decide (c = ':')) ::
      word type ++ [.one fun c => Text.isSpace c || decide (c = '>')]) text rest ↔
        ∃ found, Mention type found ∧ text = found ++ rest := by
  have hword : ∀ {text : Text}, Matches (word type ++
      [.one fun c => Text.isSpace c || decide (c = '>')]) text rest ↔
        ∃ taken c, List.Forall₂ (fun a b => sameLetter a b = true) type.toList taken ∧
          (Text.isSpace c || decide (c = '>')) = true ∧ text = taken ++ c :: rest := by
    intro text
    refine Iff.trans (matches_word sameLetter) ?_
    constructor
    · rintro ⟨taken, _, rfl, htaken, c, _, rfl, hc, rfl⟩
      exact ⟨taken, c, htaken, hc, rfl⟩
    · rintro ⟨taken, c, htaken, hc, rfl⟩
      exact ⟨taken, _, rfl, htaken, c, _, rfl, hc, rfl⟩
  constructor
  · rintro ⟨_, _, rfl, hlt, before, _, rfl, hbefore, hrest⟩
    obtain rfl := of_decide_eq_true hlt
    have hfree : '>' ∉ before := fun hmem => absurd rfl (of_decide_eq_true (hbefore _ hmem))
    rcases hrest with ⟨colon, _, rfl, hcolon, hrest⟩ | hrest
    · obtain ⟨taken, c, htaken, hc, rfl⟩ := hword.mp hrest
      obtain rfl := of_decide_eq_true hcolon
      refine ⟨_, ⟨before ++ [':'], taken, c, rfl, ?_, htaken, hc⟩, by simp⟩
      simpa using hfree
    · obtain ⟨taken, c, htaken, hc, rfl⟩ := hword.mp hrest
      exact ⟨_, ⟨before, taken, c, rfl, hfree, htaken, hc⟩, by simp⟩
  · rintro ⟨_, ⟨before, taken, c, rfl, hfree, htaken, hc⟩, rfl⟩
    refine ⟨'<', before ++ (taken ++ c :: rest), by simp, decide_eq_true rfl, before,
      taken ++ c :: rest, rfl, fun d hd => decide_eq_true ?_, .inr (hword.mpr ?_)⟩
    · rintro rfl
      exact hfree hd
    · exact ⟨taken, c, htaken, hc, rfl⟩

theorem mentions_iff {xml : Text} :
    mentions xml type = true ↔ ∃ found, Mention type found ∧ found <:+: xml := by
  unfold mentions
  dsimp only
  rw [leftmost_isSome_iff]
  simp only [run_isSome_iff, Option.isSome_some, and_true, matches_mention]
  constructor
  · rintro ⟨_, ⟨ahead, rfl⟩, rest, found, hfound, rfl⟩
    exact ⟨found, hfound, ahead, rest, by rw [List.append_assoc]⟩
  · rintro ⟨found, hfound, ahead, rest, rfl⟩
    exact ⟨found ++ rest, ⟨ahead, by rw [List.append_assoc]⟩, rest, found, hfound, rfl⟩

def Plain (type : String) : Prop := ∀ c ∈ type.toList, sameLetter c '>' = false ∧ c ≠ '>'

instance (type : String) : Decidable (Plain type) :=
  List.decidableBAll (fun c => sameLetter c '>' = false ∧ c ≠ '>') type.toList

theorem plain_of_mem {type : String × MessageType} (h : type ∈ types) : Plain type.1 := by
  revert type
  decide

theorem Mention.free (h : Plain type) {found : Text} (hfound : Mention type found) :
    '>' ∉ found.dropLast ∧ found.head? = some '<' := by
  obtain ⟨before, taken, c, rfl, hbefore, htaken, -⟩ := hfound
  refine ⟨?_, rfl⟩
  rw [List.dropLast_concat]
  have hfree : '>' ∉ taken := by
    intro hmem
    obtain ⟨i, hi, hget⟩ := List.mem_iff_getElem.mp hmem
    have hlength := htaken.length_eq
    have hletter := htaken.get (by omega) hi
    rw [List.get_eq_getElem, List.get_eq_getElem, hget] at hletter
    rw [(h _ (List.getElem_mem _)).1] at hletter
    exact nomatch hletter
  simp [hbefore, hfree]

variable {parts : List (Text × Text)} {last : Text}

theorem names_flat (h : Plain type) (htidy : Tidy '<' '>' parts last) :
    names (flat parts last) type = true ↔ ∃ part ∈ parts, names part.2 type = true := by
  have hlt : ('<' :: type.toList).head? = some '<' := rfl
  have hfree : '>' ∉ ('<' :: type.toList).dropLast := by
    intro hmem
    rcases List.mem_cons.mp (List.dropLast_subset _ hmem) with heq | hmem
    · exact absurd heq (by decide)
    · exact absurd rfl (h _ hmem).2
  unfold names
  simp only [Bool.or_eq_true, mentions_iff, includes_iff, String.toList_append]
  change _ ∨ ('<' :: type.toList) <:+: _ ↔ ∃ part ∈ parts, _ ∨ ('<' :: type.toList) <:+: _
  rw [htidy.infix_of_first hfree hlt]
  constructor
  · rintro (⟨found, hfound, hin⟩ | ⟨part, hpart, hin⟩)
    · obtain ⟨part, hpart, hin⟩ :=
        (htidy.infix_of_first (hfound.free h).1 (hfound.free h).2).mp hin
      exact ⟨part, hpart, .inl ⟨found, hfound, hin⟩⟩
    · exact ⟨part, hpart, .inr hin⟩
  · rintro ⟨part, hpart, ⟨found, hfound, hin⟩ | hin⟩
    · exact .inl ⟨found, hfound,
        (htidy.infix_of_first (hfound.free h).1 (hfound.free h).2).mpr ⟨part, hpart, hin⟩⟩
    · exact .inr ⟨part, hpart, hin⟩

theorem marked_flat (htidy : Tidy '<' '>' parts last) :
    marked (flat parts last) = true ↔
      (∃ part ∈ parts, marked part.1 = true ∨ marked part.2 = true) ∨ marked last = true := by
  unfold marked
  simp only [Bool.or_eq_true, includes_iff]
  rw [htidy.infix_of_free (by decide) (by decide), htidy.infix_of_free (by decide) (by decide)]
  constructor
  · rintro ((⟨part, hpart, h⟩ | h) | (⟨part, hpart, h⟩ | h))
    · exact .inl ⟨part, hpart, h.imp .inl .inl⟩
    · exact .inr (.inl h)
    · exact .inl ⟨part, hpart, h.imp .inr .inr⟩
    · exact .inr (.inr h)
  · rintro (⟨part, hpart, (h | h) | (h | h)⟩ | (h | h))
    · exact .inl (.inl ⟨part, hpart, .inl h⟩)
    · exact .inr (.inl ⟨part, hpart, .inl h⟩)
    · exact .inl (.inl ⟨part, hpart, .inr h⟩)
    · exact .inr (.inl ⟨part, hpart, .inr h⟩)
    · exact .inl (.inr h)
    · exact .inr (.inr h)

theorem Content.render_eq (content : Content) :
    content.render = flat content.parts content.last := by
  induction content with
  | text raw => rfl
  | element before tag inner space after hinner hafter =>
    rw [Content.render, hinner, hafter]
    simp [flat, Content.parts, Content.last]
  | empty before tag after hafter =>
    rw [Content.render, hafter]
    simp [flat, Content.parts, Content.last]
  | cdata before content after hafter =>
    rw [Content.render, hafter]
    simp [flat, Content.parts, Content.last]
  | comment before content after hafter =>
    rw [Content.render, hafter]
    simp [flat, Content.parts, Content.last]

theorem Document.render_eq (doc : Document) : doc.render = flat doc.parts doc.content.last := by
  rw [Document.render, Content.render_eq]
  simp [flat, Document.parts]

theorem free_of_isFree {raw : Text} (h : isFree raw = true) : '<' ∉ raw := by
  intro hmem
  have hall := List.all_eq_true.mp (Bool.and_eq_true_iff.mp h).1 '<' hmem
  exact absurd rfl (of_decide_eq_true hall)

theorem tidy_cons {part : Text × Text} (h : Tidy '<' '>' parts last) (hfree : '<' ∉ part.1)
    (hbegins : part.2.head? = some '<') (hends : part.2.getLast? = some '>') :
    Tidy '<' '>' (part :: parts) last where
  free := List.forall_mem_cons.mpr ⟨hfree, h.free⟩
  begins := List.forall_mem_cons.mpr ⟨hbegins, h.begins⟩
  ends := List.forall_mem_cons.mpr ⟨hends, h.ends⟩
  last := h.last

theorem tidy_append {more : List (Text × Text)} {part : Text × Text} (h : Tidy '<' '>' parts part.1)
    (hmore : Tidy '<' '>' more last) (hbegins : part.2.head? = some '<')
    (hends : part.2.getLast? = some '>') :
    Tidy '<' '>' (parts ++ part :: more) last := by
  induction parts with
  | nil => exact tidy_cons hmore h.last hbegins hends
  | cons first parts ih =>
    exact tidy_cons (ih h.tail) (h.free first List.mem_cons_self)
      (h.begins first List.mem_cons_self) (h.ends first List.mem_cons_self)

theorem delimited (opening content closing : Text) (hopening : opening.head? = some '<')
    (hclosing : closing.getLast? = some '>') :
    (opening ++ content ++ closing).head? = some '<' ∧
      (opening ++ content ++ closing).getLast? = some '>' := by
  constructor
  · rw [List.append_assoc, List.head?_append, hopening]
    rfl
  · rw [List.getLast?_append, hclosing]
    rfl

variable {content : Content}

theorem Content.tidy (h : content.wellFormed = true) :
    Tidy '<' '>' content.parts content.last := by
  induction content with
  | text raw => exact ⟨nofun, nofun, nofun, free_of_isFree h⟩
  | element before tag inner space after hinner hafter =>
    simp only [Content.wellFormed, Bool.and_eq_true] at h
    obtain ⟨⟨⟨⟨hbefore, -⟩, hin⟩, -⟩, haft⟩ := h
    have hopens := delimited ('<' :: tag.name) tag.behind ['>'] rfl rfl
    have hcloses := delimited ('<' :: '/' :: tag.name) space ['>'] rfl rfl
    exact tidy_cons (tidy_append (hinner hin) (hafter haft) hcloses.1 hcloses.2)
      (free_of_isFree hbefore) hopens.1 hopens.2
  | empty before tag after hafter =>
    simp only [Content.wellFormed, Bool.and_eq_true] at h
    obtain ⟨⟨hbefore, -⟩, haft⟩ := h
    have halone := delimited ('<' :: tag.name) tag.behind ['/', '>'] rfl rfl
    exact tidy_cons (hafter haft) (free_of_isFree hbefore) halone.1 halone.2
  | cdata before content after hafter =>
    simp only [Content.wellFormed, Bool.and_eq_true] at h
    obtain ⟨⟨hbefore, -⟩, haft⟩ := h
    have hsection := delimited "<![CDATA[".toList content "]]>".toList (by decide) (by decide)
    exact tidy_cons (hafter haft) (free_of_isFree hbefore) hsection.1 hsection.2
  | comment before content after hafter =>
    simp only [Content.wellFormed, Bool.and_eq_true] at h
    obtain ⟨⟨hbefore, -⟩, haft⟩ := h
    have hsection := delimited "<!--".toList content "-->".toList (by decide) (by decide)
    exact tidy_cons (hafter haft) (free_of_isFree hbefore) hsection.1 hsection.2

variable {doc : Document}

theorem Document.tidy (h : doc.wellFormed = true) :
    Tidy '<' '>' doc.parts doc.content.last := by
  have hcontent := Content.tidy h
  unfold Document.parts Document.prolog
  cases doc.declaration with
  | none => exact hcontent
  | some text =>
    have hdeclaration := delimited "<?xml".toList text "?>".toList (by decide) (by decide)
    exact tidy_cons hcontent List.not_mem_nil hdeclaration.1 hdeclaration.2

theorem Document.marked_iff (h : doc.wellFormed = true) :
    marked doc.render = true ↔ doc.Marked := by
  rw [doc.render_eq]
  exact marked_flat (Document.tidy h)

/-- An element that has a closing tag is in the parts of what holds it. -/
structure Content.Holds (content : Content) (tag : Tag) (inner : Content) : Prop where
  opens : ∃ before, (before, tag.opens) ∈ content.parts
  within : inner.parts ⊆ content.parts
  tagWell : content.wellFormed = true → tag.wellFormed = true
  innerWell : content.wellFormed = true → inner.wellFormed = true

variable {tag : Tag} {inner : Content}

theorem Content.Holds.mono {more : Content} (h : content.Holds tag inner)
    (hparts : content.parts ⊆ more.parts)
    (hwell : more.wellFormed = true → content.wellFormed = true) : more.Holds tag inner where
  opens := h.opens.imp fun _ hmem => hparts hmem
  within _ hmem := hparts (h.within hmem)
  tagWell hmore := h.tagWell (hwell hmore)
  innerWell hmore := h.innerWell (hwell hmore)

theorem Content.holds (h : ⟨tag, some inner⟩ ∈ content.nodes) : content.Holds tag inner := by
  induction content with
  | text raw => exact nomatch h
  | element before other held space after hheld hafter =>
    rcases List.mem_cons.mp h with heq | h
    · obtain ⟨rfl, hsame⟩ := Node.mk.inj heq
      obtain rfl := Option.some.inj hsame
      refine ⟨⟨before, List.mem_cons_self⟩, fun part hpart => ?_, fun hwell => ?_,
        fun hwell => ?_⟩
      · exact List.mem_cons_of_mem _ (List.mem_append_left _ hpart)
      · simp only [Content.wellFormed, Bool.and_eq_true] at hwell
        exact hwell.1.1.1.2
      · simp only [Content.wellFormed, Bool.and_eq_true] at hwell
        exact hwell.1.1.2
    · refine (hafter h).mono (fun part hpart => ?_) fun hwell => (Bool.and_eq_true_iff.mp hwell).2
      exact List.mem_cons_of_mem _ (List.mem_append_right _ (List.mem_cons_of_mem _ hpart))
  | empty before other after hafter =>
    rcases List.mem_cons.mp h with heq | h
    · exact nomatch (Node.mk.inj heq).2
    · exact (hafter h).mono (List.subset_cons_self _ _) fun hwell =>
        (Bool.and_eq_true_iff.mp hwell).2
  | cdata before held after hafter =>
    exact (hafter h).mono (List.subset_cons_self _ _) fun hwell =>
      (Bool.and_eq_true_iff.mp hwell).2
  | comment before held after hafter =>
    exact (hafter h).mono (List.subset_cons_self _ _) fun hwell =>
      (Bool.and_eq_true_iff.mp hwell).2

theorem Content.Holds.trans {other : Tag} {middle : Content} (h : content.Holds tag middle)
    (h' : middle.Holds other inner) : content.Holds other inner :=
  h'.mono h.within h.innerWell

theorem inner_of_child {node child : Node} (h : child ∈ node.children) :
    ∃ inner, node.inner = some inner ∧ child ∈ inner.nodes := by
  unfold Node.children at h
  cases hinner : node.inner with
  | none =>
    rw [hinner] at h
    exact nomatch h
  | some inner =>
    rw [hinner] at h
    exact ⟨inner, rfl, h⟩

theorem only_mem {nodes : List Node} {node : Node} (h : Document.only nodes = some node) :
    node ∈ nodes := by
  match nodes, h with
  | [_], h => exact List.mem_singleton.mpr (Option.some.inj h).symm

theorem Document.holds {message : Node} (h : doc.message = some message)
    (hinner : message.inner = some inner) :
    doc.content.Holds message.tag inner := by
  unfold Document.message at h
  obtain ⟨envelope, henvelope, h⟩ := Option.bind_eq_some_iff.mp h
  obtain ⟨body, hbody, h⟩ := Option.bind_eq_some_iff.mp h
  split_ifs at h with hnames
  obtain ⟨outer, houter, hin⟩ := inner_of_child (List.mem_filter.mp (only_mem hbody)).1
  obtain ⟨middle, hmiddle, hmem⟩ := inner_of_child (only_mem h)
  have hfirst : doc.content.Holds envelope.tag outer :=
    Content.holds (houter ▸ only_mem henvelope)
  have hsecond : outer.Holds body.tag middle := Content.holds (hmiddle ▸ hin)
  have hthird : middle.Holds message.tag inner := Content.holds (hinner ▸ hmem)
  exact (hfirst.trans hsecond).trans hthird

theorem isSpace_of_isBlank {c : Char} (h : isBlank c = true) : Text.isSpace c = true := by
  simp only [isBlank, Bool.or_eq_true, decide_eq_true_eq] at h
  rcases h with ((rfl | rfl) | rfl) | rfl <;> decide

theorem Tag.behind_cases (h : tag.wellFormed = true) :
    tag.behind = [] ∨ ∃ c rest, tag.behind = c :: rest ∧ Text.isSpace c = true := by
  have hhead : ∀ {space : Text} (rest : Text), space.isEmpty = false → space.all isBlank = true →
      ∃ c more, space ++ rest = c :: more ∧ Text.isSpace c = true := by
    intro space rest hne hall
    cases space with
    | nil => exact nomatch hne
    | cons c space =>
      exact ⟨c, space ++ rest, rfl,
        isSpace_of_isBlank (List.all_eq_true.mp hall c List.mem_cons_self)⟩
  simp only [Tag.wellFormed, Bool.and_eq_true] at h
  obtain ⟨⟨-, hattributes⟩, hspace⟩ := h
  unfold Tag.behind
  cases hlist : tag.attributes with
  | nil =>
    cases hempty : tag.space with
    | nil => exact .inl rfl
    | cons c space =>
      rw [hempty] at hspace
      exact .inr ⟨c, space, rfl,
        isSpace_of_isBlank (List.all_eq_true.mp hspace c List.mem_cons_self)⟩
  | cons a attributes =>
    have ha := List.all_eq_true.mp hattributes a (hlist ▸ List.mem_cons_self)
    simp only [Attribute.wellFormed, Bool.and_eq_true, Bool.not_eq_true'] at ha
    obtain ⟨c, more, hmore, hc⟩ := hhead
      (a.name ++ a.around.1 ++ '=' :: a.around.2 ++ a.quote :: a.value ++ [a.quote])
      ha.1.1.1.1.1.1.1 ha.1.1.1.1.1.1.2
    refine .inr ⟨c, more ++ (attributes.flatMap Attribute.render ++ tag.space), ?_, hc⟩
    rw [List.flatMap_cons, List.append_assoc, ← List.cons_append, ← hmore]
    simp [Attribute.render]

theorem sameLetter_self (letters : Text) :
    List.Forall₂ (fun a b => sameLetter a b = true) letters letters :=
  List.forall₂_same.mpr fun _ _ => decide_eq_true rfl

variable {name : String}

theorem names_opens (h : tag.wellFormed = true) (hname : localName tag.name = name.toList) :
    names tag.opens name = true := by
  have hnameChars : '>' ∉ tag.name := by
    simp only [Tag.wellFormed, Bool.and_eq_true] at h
    intro hmem
    have hchar := List.all_eq_true.mp h.1.1.2 '>' hmem
    exact absurd hchar (by decide)
  obtain ⟨before, hbefore, hfree⟩ : ∃ before, tag.name = before ++ name.toList ∧ '>' ∉ before := by
    rw [← hname]
    unfold localName
    cases hdrop : tag.name.dropWhile (· ≠ ':') with
    | nil => exact ⟨[], rfl, List.not_mem_nil⟩
    | cons colon rest =>
      have hsplit := List.takeWhile_append_dropWhile (p := (· ≠ ':')) (l := tag.name)
      rw [hdrop] at hsplit
      refine ⟨tag.name.takeWhile (· ≠ ':') ++ [colon], ?_, fun hmem => hnameChars ?_⟩
      · rw [List.append_assoc]
        exact hsplit.symm
      · rw [← hsplit]
        rcases List.mem_append.mp hmem with hmem | hmem
        · exact List.mem_append_left _ hmem
        · rw [List.mem_singleton.mp hmem]
          exact List.mem_append_right _ List.mem_cons_self
  have hmention : ∀ c, (Text.isSpace c || decide (c = '>')) = true →
      Mention name ('<' :: (before ++ name.toList) ++ [c]) :=
    fun c hc => ⟨before, name.toList, c, rfl, hfree, sameLetter_self _, hc⟩
  unfold names
  rw [Bool.or_eq_true]
  refine .inl (mentions_iff.mpr ?_)
  unfold Tag.opens
  rw [hbefore]
  rcases Tag.behind_cases h with hbehind | ⟨c, rest, hbehind, hc⟩
  · refine ⟨_, hmention '>' (by decide), [], [], ?_⟩
    simp [hbehind]
  · refine ⟨_, hmention c (by rw [hc]; rfl), [], rest ++ ['>'], ?_⟩
    simp [hbehind]

theorem find_first {found : String → Bool} {type : MessageType} {l : List (String × MessageType)}
    (hl : (l.map Prod.snd).Nodup) (h : (name, type) ∈ l) :
    (l.find? fun other => found other.1).map Prod.snd = some type ↔
      found name = true ∧
        ∀ other ∈ l.takeWhile (fun other => other.2 ≠ type), found other.1 = false := by
  induction l with
  | nil => exact nomatch h
  | cons first l ih =>
    rw [List.map_cons, List.nodup_cons] at hl
    rcases List.mem_cons.mp h with rfl | hmem
    · rw [List.takeWhile_cons_of_neg (by simp)]
      constructor
      · intro hfind
        refine ⟨?_, nofun⟩
        by_contra hnot
        rw [List.find?_cons, Bool.eq_false_iff.mpr hnot] at hfind
        dsimp only at hfind
        obtain ⟨other, hother, rfl⟩ := Option.map_eq_some_iff.mp hfind
        exact hl.1 (List.mem_map.mpr ⟨other, List.mem_of_find?_eq_some hother, rfl⟩)
      · rintro ⟨hname, -⟩
        rw [List.find?_cons, hname]
        rfl
    · have hne : first.2 ≠ type := fun heq => hl.1 (heq ▸ List.mem_map_of_mem hmem)
      rw [List.takeWhile_cons_of_pos (by simpa using hne), List.forall_mem_cons]
      cases hfirst : found first.1 with
      | true =>
        rw [List.find?_cons, hfirst]
        exact iff_of_false (fun heq => hne (Option.some.inj heq)) fun hnone => nomatch hnone.2.1
      | false =>
        rw [List.find?_cons, hfirst]
        dsimp only
        rw [ih hl.2 hmem]
        exact ⟨fun hboth => ⟨hboth.1, rfl, hboth.2⟩, fun hall => ⟨hall.1, hall.2.2⟩⟩

theorem find_type {found : String → Bool} {type : MessageType} (h : (name, type) ∈ types) :
    ((types.find? fun other => found other.1).map Prod.snd).getD .unknown = type ↔
      found name = true ∧ ∀ other ∈ earlier type, found other.1 = false := by
  have hknown : type ≠ .unknown := by
    revert h
    have hall : ∀ other ∈ types, other.2 ≠ .unknown := by decide
    exact fun h => hall (name, type) h
  unfold earlier
  rw [← find_first (by decide) h]
  cases (types.find? fun other => found other.1).map Prod.snd with
  | none => exact iff_of_false hknown.symm nofun
  | some other => exact ⟨congrArg some, Option.some.inj⟩

theorem messageType_eq (now : Nat) (xml : Text) :
    (parseCwmpEnvelope now xml).messageType =
      if marked xml = true then .diagnosticsComplete
      else ((types.find? fun other => names xml other.1).map Prod.snd).getD .unknown := rfl

/-- The type of an envelope is that of its element iff it is recognized. -/
theorem parseCwmpEnvelope_messageType_iff (now : Nat) (doc : Document) (message : Node)
    (name : String) (type : MessageType) (hwell : doc.wellFormed = true)
    (hmessage : doc.message = some message) (htype : (name, type) ∈ types)
    (hname : message.isNamed name = true) :
    (parseCwmpEnvelope now doc.render).messageType = message.expected type ↔
      doc.Recognized message name type := by
  have htidy := Document.tidy hwell
  have hmarked := Document.marked_iff hwell
  have hnames : ∀ other ∈ types, names doc.render other.1 = true ↔
      ∃ part ∈ doc.parts, names part.2 other.1 = true := by
    intro other hother
    rw [doc.render_eq]
    exact names_flat (plain_of_mem hother) htidy
  have hdetect := messageType_eq now doc.render
  have hnamed : (message.inner.isSome ∨ ∃ part ∈ doc.parts, names part.2 name = true) ↔
      names doc.render name = true := by
    rw [hnames (name, type) htype]
    refine ⟨fun h => h.elim (fun hsome => ?_) id, .inr⟩
    obtain ⟨inner, hinner⟩ := Option.isSome_iff_exists.mp hsome
    have hheld := Document.holds hmessage hinner
    obtain ⟨before, hopens⟩ := hheld.opens
    exact ⟨_, List.mem_append_right _ hopens,
      names_opens (hheld.tagWell hwell) (of_decide_eq_true hname)⟩
  have hearlier : (∀ other ∈ earlier type, names doc.render other.1 = false) ↔
      ∀ other ∈ earlier type, ∀ part ∈ doc.parts, names part.2 other.1 = false := by
    refine forall₂_congr fun other hother => ?_
    rw [← Bool.not_eq_true, hnames other (List.takeWhile_subset _ hother)]
    simp only [not_exists, not_and, Bool.not_eq_true]
  have htypes : ∀ other ∈ types, other.2 ≠ .diagnosticsComplete := by decide
  rw [hdetect]
  cases hcarries : message.carries with
  | true =>
    have hexpected : message.expected type = .diagnosticsComplete := if_pos hcarries
    rw [hexpected]
    constructor
    · intro heq
      refine ⟨iff_of_true (hmarked.mp ?_) hcarries, fun hnot => ?_, fun hnot => ?_⟩
      · by_contra hnot
        rw [if_neg hnot] at heq
        cases hfind : types.find? fun other => names doc.render other.1 with
        | none =>
          rw [hfind] at heq
          exact nomatch heq
        | some other =>
          rw [hfind] at heq
          exact htypes other (List.mem_of_find?_eq_some hfind) heq
      · exact nomatch hcarries.symm.trans hnot
      · exact nomatch hcarries.symm.trans hnot
    · intro h
      rw [if_pos (hmarked.mpr (h.marked.mpr hcarries))]
  | false =>
    have hexpected : message.expected type = type := if_neg (by rw [hcarries]; nofun)
    rw [hexpected]
    constructor
    · intro heq
      have hnot : ¬marked doc.render = true := by
        intro hmark
        rw [if_pos hmark] at heq
        exact htypes (name, type) htype heq.symm
      rw [if_neg hnot, find_type htype] at heq
      refine ⟨iff_of_false (mt hmarked.mpr hnot) (by rw [hcarries]; nofun), fun _ => ?_,
        fun _ => ?_⟩
      · exact hnamed.mpr heq.1
      · exact hearlier.mp heq.2
    · intro h
      have hnot : ¬marked doc.render = true := fun hmark =>
        nomatch hcarries.symm.trans (h.marked.mp (hmarked.mp hmark))
      rw [if_neg hnot, find_type htype]
      exact ⟨hnamed.mp (h.named hcarries), hearlier.mpr (h.unnamed hcarries)⟩

def tagSample (name : String) : Tag := ⟨name.toList, [], []⟩

def textSample (name value : String) : Content :=
  .element [] (tagSample name) (.text value.toList) [] (.text [])

def documentSample (id : String) (body : Content) : Document where
  declaration := some " version=\"1.0\"".toList
  content := .element [] (tagSample "soap:Envelope")
    (.element [] (tagSample "soap:Header") (textSample "cwmp:ID" id) []
      (.element [] (tagSample "soap:Body") body [] (.text []))) [] (.text [])

/-- Values that were read, with one value. -/
def valuesSample (value : String) : Content :=
  .element [] (tagSample "cwmp:GetParameterValuesResponse")
    (.element [] (tagSample "ParameterList")
      (.element [] (tagSample "ParameterValueStruct") (textSample "Value" value) [] (.text []))
      [] (.text [])) [] (.text [])

/-- The element in the body of such an envelope. -/
def messageSample (value : String) : Node :=
  ⟨tagSample "cwmp:GetParameterValuesResponse",
    some (.element [] (tagSample "ParameterList")
      (.element [] (tagSample "ParameterValueStruct") (textSample "Value" value) [] (.text []))
      [] (.text []))⟩

theorem parseCwmpEnvelope_messageType_iff_sample :
    (parseCwmpEnvelope 0 (documentSample "1" (valuesSample "up")).render).messageType =
        (messageSample "up").expected .getParameterValuesResponse ↔
      (documentSample "1" (valuesSample "up")).Recognized (messageSample "up")
        "GetParameterValuesResponse" .getParameterValuesResponse :=
  parseCwmpEnvelope_messageType_iff 0 _ _ _ _ (by decide) rfl (by decide) (by decide)

/-- Read values are taken for a report where one looks like the end of a diagnosis. -/
theorem parseCwmpEnvelope_messageType_fails :
    (documentSample "1" (valuesSample "8 DIAGNOSTICS COMPLETE")).wellFormed = true ∧
      (documentSample "1" (valuesSample "8 DIAGNOSTICS COMPLETE")).message =
        some (messageSample "8 DIAGNOSTICS COMPLETE") ∧
      (parseCwmpEnvelope 0
          (documentSample "1" (valuesSample "8 DIAGNOSTICS COMPLETE")).render).messageType ≠
        (messageSample "8 DIAGNOSTICS COMPLETE").expected .getParameterValuesResponse := by
  have hmarked :
      marked (documentSample "1" (valuesSample "8 DIAGNOSTICS COMPLETE")).render = true :=
    (Document.marked_iff (by decide)).mpr
      (.inl ⟨("8 DIAGNOSTICS COMPLETE".toList, (tagSample "Value").closes []), by decide⟩)
  have hexpected : (messageSample "8 DIAGNOSTICS COMPLETE").expected .getParameterValuesResponse =
      .getParameterValuesResponse := if_neg (by decide)
  refine ⟨by decide, rfl, ?_⟩
  rw [messageType_eq, if_pos hmarked, hexpected]
  exact nofun

end FireIsp.Cwmp
