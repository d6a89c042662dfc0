import FireIsp.Cwmp.Roundtrip

/-!
# The round trip of parameters

The parameters and the id of a request are read back as they were written if and only if nothing in
them is escaped or trimmed, and the id is not empty.
-/

namespace FireIsp.Cwmp

open Regex Markup

theorem plain_setPieces (messageId : Text) (list : List ParameterValue) :
    ∀ piece ∈ setPieces messageId list, piece.Plain angle := by
  have hid : (Piece.text (xmlEscape messageId)).Plain angle := (xmlEscape_free messageId).1
  have hbefore : ∀ piece ∈ idBefore ++ [.tag idTag.toList], piece.Plain angle := by
    unfold idBefore idTag tag text
    repeat rw [String.toList_ofList]
    decide
  have hbetween : ∀ piece ∈ idAfter ++ [tag "cwmp:SetParameterValues", text "\n      "],
      piece.Plain angle := by decide
  have hafter : ∀ piece ∈ listAfter, piece.Plain angle := by decide
  have hitem : ∀ piece ∈ [text "\n", text "      ", tag "ParameterValueStruct", text "\n        ",
      text "\n      ", tag "/ParameterValueStruct"], piece.Plain angle := by decide
  have hlines : ∀ piece ∈ linePieces list, piece.Plain angle := by
    intro piece hmem
    obtain ⟨p, -, hp⟩ := List.mem_flatMap.mp hmem
    unfold itemPieces at hp
    simp only [List.mem_cons, List.mem_append, List.not_mem_nil, or_false] at hp
    rcases hp with rfl | ((rfl | rfl | rfl) | hp) | rfl | rfl
    · exact hitem _ (by simp only [List.mem_cons, true_or])
    · exact hitem _ (by simp only [List.mem_cons, true_or, or_true])
    · exact hitem _ (by simp only [List.mem_cons, true_or, or_true])
    · exact hitem _ (by simp only [List.mem_cons, true_or, or_true])
    · exact plain_fields p piece hp
    · exact hitem _ (by simp only [List.mem_cons, true_or, or_true])
    · exact hitem _ (by simp only [List.mem_cons, true_or, or_true])
  have hlist : ∀ piece ∈ listPieces list, piece.Plain angle := by
    cases list with
    | nil => exact fun piece hmem => hitem piece (List.mem_cons.mpr (.inl (List.mem_singleton.mp hmem)))
    | cons p list => exact hlines
  intro piece hmem
  unfold setPieces at hmem
  simp only [List.mem_append, List.mem_cons, List.not_mem_nil, or_false] at hmem hbefore hbetween
  rcases hmem with hmem | hmem | rfl | hmem | hmem | hmem | rfl | hmem | hmem
  · exact hbefore piece (Or.inl hmem)
  · exact hbefore piece (Or.inr hmem)
  · exact hid
  · exact hbetween piece (Or.inl hmem)
  · exact hbetween piece (Or.inr (Or.inl hmem))
  · exact hbetween piece (Or.inr (Or.inr hmem))
  · exact plain_listTag list.length
  · exact hlist piece hmem
  · exact hafter piece hmem

theorem extractTag_flatten {name : String} (hprefixed : (prefixed name).Inside angle)
    (hbare : (bare name).Inside angle) {pieces : List (Piece Char)}
    (hplain : ∀ piece ∈ pieces, piece.Plain angle) :
    extractTag (flatten angle pieces) name =
      ((prefixed name).find pieces <|> (bare name).find pieces).map fun found =>
        stripCdata (trim (flatten angle found.1)) := by
  unfold extractTag
  rw [search_flatten hprefixed hplain, search_flatten hbare hplain]
  cases (prefixed name).find pieces <;> cases (bare name).find pieces <;> rfl

theorem stripCdata_escaped (content : Text) :
    stripCdata (trim (flatten angle [.text (xmlEscape content)])) = trim (xmlEscape content) := by
  rw [flatten_cons, flatten_nil, List.append_nil]
  exact stripCdata_of_free fun hmem => (xmlEscape_free content).1 (mem_of_mem_trim hmem)

set_option maxRecDepth 4000 in
theorem extractMessageId_set (now : Nat) (messageId : Text) (list : List ParameterValue) :
    extractMessageId now (buildSetParameterValues messageId list) =
      orElse (some (trim (xmlEscape messageId))) ("ID-".toList ++ Nat.toDigits 10 now) := by
  have hfind : (prefixed "ID").find (setPieces messageId list) =
      some ([.text (xmlEscape messageId)], idAfter.tail ++
        tag "cwmp:SetParameterValues" :: text "\n      " :: .tag (listTag list.length) ::
          (listPieces list ++ listAfter)) := by
    have hbefore : ∀ piece ∈ idBefore, (prefixed "ID").opensAt piece = false := by
      unfold idBefore tag text
      repeat rw [String.toList_ofList]
      decide
    have hopen : accepts (prefixed "ID").opens idTag.toList = true := by decide
    have hclose : accepts (prefixed "ID").closes "/cwmp:ID".toList = true := by decide
    unfold setPieces
    rw [find_append hbefore]
    refine find_tag hopen ?_
    rw [Element.close]
    exact congrArg (Option.map _) (close_tag hclose _)
  unfold extractMessageId
  rw [← flatten_setPieces, extractTag_flatten ⟨by decide, by decide⟩
    ⟨by decide, by decide⟩ (plain_setPieces messageId list), hfind]
  exact congrArg (fun read => orElse (some read) _) (stripCdata_escaped messageId)

theorem valueTag_closes (p : ParameterValue) (items : List (Item Char)) :
    accepts (letter '/' :: items) (valueTag p) = false := rfl

theorem letter_self (c : Char) : ∃ set : Char → Bool, letter c = .one set ∧ set c = true :=
  ⟨_, rfl, decide_eq_true rfl⟩

theorem accepts_word {name : String} {rest : Text} (hrest : '>' ∉ rest) :
    accepts (word name ++ [within]) (name.toList ++ rest) = true := by
  have hany : ∀ c ∈ rest, decide (c ≠ '>') = true :=
    fun c hc => decide_eq_true fun heq => hrest (heq ▸ hc)
  unfold accepts word
  rw [run_word letter_self]
  have hmany : (takeMany (fun c => decide (c ≠ '>'))
      (fun rest => if rest.isEmpty then some () else none) (rest ++ [])).isSome :=
    takeMany_isSome hany rfl
  rwa [List.append_nil] at hmany

theorem accepts_either {name : String} {before rest : Text} (hbefore : '>' ∉ before)
    (hrest : '>' ∉ rest) :
    accepts (either name).opens (before ++ (name.toList ++ rest)) = true := by
  have hany : ∀ c ∈ before, decide (c ≠ '>') = true :=
    fun c hc => decide_eq_true fun heq => hbefore (heq ▸ hc)
  exact takeMany_isSome hany (optional_isSome (accepts_word hrest))

/-- What stands in front of the name of a parameter. -/
def Leading (before : List (Piece Char)) : Prop :=
  before = [] ∨ before = [tag "ParameterValueStruct", text "\n        "]

theorem extractTag_fields {before : List (Piece Char)} (hbefore : Leading before)
    (p : ParameterValue) :
    extractTag (flatten angle (before ++ fields p)) "Name" = some (trim (xmlEscape p.name)) ∧
    extractTag (flatten angle (before ++ fields p)) "Value" = some (trim (xmlEscape p.value)) := by
  have hleading : ∀ piece ∈ before, piece.Plain angle := by
    rcases hbefore with rfl | rfl <;> decide
  have hplain : ∀ piece ∈ before ++ fields p, piece.Plain angle := fun piece hmem =>
    (List.mem_append.mp hmem).elim (hleading piece) (plain_fields p piece)
  have hunclosed : ∀ name ∈ ["Name", "Value"], ∀ piece ∈ before ++ fields p,
      (prefixed name).closesAt piece = false := by
    have htags : ∀ name ∈ ["Name", "Value"], ∀ piece ∈ [tag "ParameterValueStruct",
        text "\n        ", tag "Name", tag "/Name", tag "/Value"],
        (prefixed name).closesAt piece = false := by decide
    have hlead : ∀ piece ∈ before, piece = tag "ParameterValueStruct" ∨ piece = text "\n        " := by
      rcases hbefore with rfl | rfl
      · exact fun _ h => absurd h (List.not_mem_nil)
      · exact fun _ h => by simpa using h
    intro name hname piece hmem
    have htag := htags name hname
    unfold fields at hmem
    simp only [List.mem_append, List.mem_cons, List.not_mem_nil, or_false] at hmem htag
    rcases hmem with hmem | rfl | rfl | rfl | rfl | rfl | rfl | rfl
    · exact htag _ ((hlead piece hmem).elim .inl fun h => .inr (.inl h))
    · exact htag _ (.inr (.inr (.inl rfl)))
    · rfl
    · exact htag _ (.inr (.inr (.inr (.inl rfl))))
    · rfl
    · exact valueTag_closes p _
    · rfl
    · exact htag _ (.inr (.inr (.inr (.inr rfl))))
  have hname : (bare "Name").find (before ++ fields p) =
      some ([.text (xmlEscape p.name)], (fields p).drop 3) := by
    have hopens : ∀ piece ∈ before, (bare "Name").opensAt piece = false := by
      rcases hbefore with rfl | rfl <;> decide
    have hopen : accepts (bare "Name").opens "Name".toList = true := by decide
    have hclose : accepts (bare "Name").closes "/Name".toList = true := by decide
    rw [find_append hopens]
    refine find_tag hopen ?_
    rw [Element.close]
    exact congrArg (Option.map _) (close_tag hclose _)
  have hvalue : (bare "Value").find (before ++ fields p) =
      some ([.text (xmlEscape p.value)], []) := by
    have hopens : ∀ piece ∈ before ++ (fields p).take 4, (bare "Value").opensAt piece = false := by
      have htags : ∀ piece ∈ before ++ [tag "Name", tag "/Name"],
          (bare "Value").opensAt piece = false := by
        rcases hbefore with rfl | rfl <;> decide
      intro piece hmem
      unfold fields at hmem
      simp only [List.take_succ_cons, List.take_zero, List.mem_append, List.mem_cons,
        List.not_mem_nil, or_false] at hmem htags
      rcases hmem with hmem | rfl | rfl | rfl | rfl
      · exact htags _ (.inl hmem)
      · exact htags _ (.inr (.inl rfl))
      · rfl
      · exact htags _ (.inr (.inr rfl))
      · rfl
    have hopen : accepts (bare "Value").opens (valueTag p) = true := by
      have hgt : '>' ∉ valueTag p := (plain_valueTag p).2
      have hsplit : valueTag p = "Value".toList ++ (valueTag p).drop 5 := rfl
      rw [hsplit]
      exact accepts_word fun hmem => hgt (List.mem_of_mem_drop hmem)
    have hclose : accepts (bare "Value").closes "/Value".toList = true := by decide
    have hsplit : before ++ fields p = (before ++ (fields p).take 4) ++
        [.tag (valueTag p), .text (xmlEscape p.value), tag "/Value"] := by
      rw [List.append_assoc]
      rfl
    rw [hsplit, find_append hopens]
    refine find_tag hopen ?_
    rw [Element.close]
    exact congrArg (Option.map _) (close_tag hclose _)
  constructor
  · rw [extractTag_flatten ⟨by decide, by decide⟩
      ⟨by decide, by decide⟩ hplain,
      find_of_unclosed (hunclosed "Name" (by decide)), hname]
    exact congrArg some (stripCdata_escaped p.name)
  · rw [extractTag_flatten ⟨by decide, by decide⟩
      ⟨by decide, by decide⟩ hplain,
      find_of_unclosed (hunclosed "Value" (by decide)), hvalue]
    exact congrArg some (stripCdata_escaped p.value)

/-- The name of the element that holds a parameter. -/
def structName : String := "ParameterValueStruct"

/-- What the element of a parameter holds. -/
def blockPieces (p : ParameterValue) : List (Piece Char) :=
  text "\n        " :: (fields p ++ [text "\n      "])

theorem close_item (p : ParameterValue) {before : List (Piece Char)}
    (hbefore : ∀ piece ∈ before, (either structName).closesAt piece = false)
    (after : List (Piece Char)) :
    (either structName).close (before ++ (blockPieces p ++ tag "/ParameterValueStruct" :: after)) =
      some (before ++ blockPieces p, after) := by
  have hclose : accepts (either structName).closes "/ParameterValueStruct".toList = true := by
    decide
  have hblock : ∀ piece ∈ blockPieces p, (either structName).closesAt piece = false := by
    have htags : ∀ piece ∈ [tag "Name", tag "/Name", tag "/Value"],
        (either structName).closesAt piece = false := by decide
    intro piece hmem
    unfold blockPieces fields at hmem
    simp only [List.mem_append, List.mem_cons, List.not_mem_nil, or_false] at hmem htags
    rcases hmem with rfl | (rfl | rfl | rfl | rfl | rfl | rfl | rfl) | rfl
    · rfl
    · exact htags _ (.inl rfl)
    · rfl
    · exact htags _ (.inr (.inl rfl))
    · rfl
    · exact valueTag_closes p _
    · rfl
    · exact htags _ (.inr (.inr rfl))
    · rfl
  rw [close_append hbefore, close_append hblock]
  refine (congrArg (Option.map _) (congrArg (Option.map _) (close_tag hclose after))).trans ?_
  change some (before ++ (blockPieces p ++ []), after) = _
  rw [List.append_nil]

theorem itemPieces_eq (p : ParameterValue) :
    itemPieces p = text "      " :: tag "ParameterValueStruct" ::
      (blockPieces p ++ [tag "/ParameterValueStruct"]) := by
  unfold itemPieces blockPieces
  simp only [List.append_assoc, List.cons_append, List.nil_append]

theorem findAll_lines (list : List ParameterValue) {fuel : Nat} (hfuel : list.length ≤ fuel) :
    (either structName).findAll fuel (linePieces list ++ listAfter) = list.map blockPieces := by
  induction list generalizing fuel with
  | nil =>
    have hnone : ∀ piece ∈ listAfter, (either structName).opensAt piece = false := by
      decide
    cases fuel with
    | zero => rfl
    | succ fuel =>
      have hfind : (either structName).find (linePieces [] ++ listAfter) = none :=
        find_eq_none hnone
      rw [Element.findAll, hfind]
      rfl
  | cons p list ih =>
    obtain ⟨fuel, rfl⟩ : ∃ n, fuel = n + 1 :=
      ⟨fuel - 1, by rw [List.length_cons] at hfuel; omega⟩
    have hspace : ∀ piece ∈ [text "\n", text "      "],
        (either structName).opensAt piece = false := by decide
    have hopen : accepts (either structName).opens structName.toList = true := by decide
    have hsplit : linePieces (p :: list) ++ listAfter = [text "\n", text "      "] ++
        .tag structName.toList :: ([] ++ (blockPieces p ++ tag "/ParameterValueStruct" ::
          (linePieces list ++ listAfter))) := by
      change (text "\n" :: itemPieces p ++ linePieces list) ++ listAfter = _
      rw [itemPieces_eq]
      simp only [List.append_assoc, List.cons_append, List.nil_append]
      rfl
    have hfind : (either structName).find (linePieces (p :: list) ++ listAfter) =
        some (blockPieces p, linePieces list ++ listAfter) := by
      rw [hsplit, find_append hspace]
      exact find_tag hopen (close_item p (List.forall_mem_nil _) _)
    rw [Element.findAll, hfind]
    change _ :: (either structName).findAll fuel _ = _ :: _
    rw [ih (Nat.le_of_succ_le_succ hfuel)]

/-- What stands in front of the first parameter in what is found for it. -/
def firstLeading : List (Piece Char) := [text "\n", text "      ", tag "ParameterValueStruct"]

set_option maxRecDepth 4000 in
theorem findAll_setPieces (messageId : Text) (list : List ParameterValue) {fuel : Nat}
    (hfuel : list.length ≤ fuel) :
    (either structName).findAll fuel (setPieces messageId list) = match list with
      | [] => []
      | p :: list => (firstLeading ++ blockPieces p) :: list.map blockPieces := by
  have hbefore : ∀ piece ∈ idBefore ++ .tag idTag.toList :: .text (xmlEscape messageId) ::
      (idAfter ++ [tag "cwmp:SetParameterValues", text "\n      "]),
      (either structName).opensAt piece = false := by
    have htags : ∀ piece ∈ (idBefore ++ [.tag idTag.toList]) ++
        (idAfter ++ [tag "cwmp:SetParameterValues", text "\n      "]),
        (either structName).opensAt piece = false := by
      unfold idBefore idAfter idTag tag text
      repeat rw [String.toList_ofList]
      decide
    intro piece hmem
    rcases List.mem_append.mp hmem with hmem | hmem
    · exact htags piece (List.mem_append_left _ (List.mem_append_left _ hmem))
    · rcases List.mem_cons.mp hmem with rfl | hmem
      · exact htags _ (List.mem_append_left _ (List.mem_append_right _ List.mem_cons_self))
      · rcases List.mem_cons.mp hmem with rfl | hmem
        · rfl
        · exact htags piece (List.mem_append_right _ hmem)
  have hsplit : setPieces messageId list = (idBefore ++ .tag idTag.toList ::
      .text (xmlEscape messageId) :: (idAfter ++ [tag "cwmp:SetParameterValues", text "\n      "])) ++
        .tag (listTag list.length) :: (listPieces list ++ listAfter) := by
    unfold setPieces
    simp only [List.append_assoc, List.cons_append, List.nil_append]
  have hopen : accepts (either structName).opens (listTag list.length) = true := by
    have hparts : listTag list.length = "ParameterList soapenv:arrayType=\"cwmp:".toList ++
        (structName.toList ++ ('[' :: (Nat.toDigits 10 list.length ++ "]\"".toList))) := by
      have hlead : "ParameterList soapenv:arrayType=\"cwmp:ParameterValueStruct[".toList =
          "ParameterList soapenv:arrayType=\"cwmp:".toList ++ (structName.toList ++ ['[']) := by
        unfold structName
        repeat rw [String.toList_ofList]
        rfl
      unfold listTag
      rw [hlead]
      simp only [List.append_assoc, List.cons_append, List.nil_append]
    have hrest : '>' ∉ '[' :: (Nat.toDigits 10 list.length ++ "]\"".toList) := by
      simp only [List.mem_cons, List.mem_append, not_or]
      exact ⟨by decide, (digits_free list.length).2, by decide⟩
    have hfront : '>' ∉ "ParameterList soapenv:arrayType=\"cwmp:".toList := by
      rw [String.toList_ofList]
      decide
    rw [hparts]
    exact accepts_either hfront hrest
  cases list with
  | nil =>
    have hunclosed : ∀ piece ∈ listPieces [] ++ listAfter,
        (either structName).closesAt piece = false := by decide
    have hnone : ∀ piece ∈ listPieces [] ++ listAfter,
        (either structName).opensAt piece = false := by decide
    have hfind : (either structName).find (setPieces messageId []) = none := by
      rw [hsplit, find_append hbefore, Element.find, close_eq_none hunclosed, ite_self,
        find_eq_none hnone]
      rfl
    cases fuel with
    | zero => rfl
    | succ fuel => rw [Element.findAll, hfind]
  | cons p list =>
    obtain ⟨fuel, rfl⟩ : ∃ n, fuel = n + 1 :=
      ⟨fuel - 1, by rw [List.length_cons] at hfuel; omega⟩
    have hleading : ∀ piece ∈ firstLeading, (either structName).closesAt piece = false := by
      decide
    have hfind : (either structName).find (setPieces messageId (p :: list)) =
        some (firstLeading ++ blockPieces p, linePieces list ++ listAfter) := by
      have hlines : listPieces (p :: list) ++ listAfter = firstLeading ++ (blockPieces p ++
          tag "/ParameterValueStruct" :: (linePieces list ++ listAfter)) := by
        change (text "\n" :: itemPieces p ++ linePieces list) ++ listAfter = _
        rw [itemPieces_eq]
        unfold firstLeading
        simp only [List.append_assoc, List.cons_append, List.nil_append]
      rw [hsplit, find_append hbefore, hlines]
      exact find_tag hopen (close_item p hleading _)
    rw [Element.findAll, hfind]
    change _ :: (either structName).findAll fuel _ = _ :: _
    rw [findAll_lines list (Nat.le_of_succ_le_succ hfuel)]

theorem flatten_fields (p : ParameterValue) :
    ∃ inner, flatten angle (fields p) = '<' :: inner ++ ['>'] := by
  refine ⟨"Name".toList ++ '>' :: (xmlEscape p.name ++ (flatten angle [tag "/Name",
    text "\n        ", .tag (valueTag p)] ++ (xmlEscape p.value ++ '<' :: "/Value".toList))), ?_⟩
  unfold fields
  simp only [tag, text, flatten_cons, flatten_nil, flat_tag, flat_text, List.append_assoc,
    List.cons_append, List.nil_append, List.append_nil]

theorem trim_block (p : ParameterValue) :
    trim (flatten angle (blockPieces p)) = flatten angle ([] ++ fields p) ∧
    trim (flatten angle (firstLeading ++ blockPieces p)) =
      flatten angle ([tag "ParameterValueStruct", text "\n        "] ++ fields p) := by
  obtain ⟨inner, hinner⟩ := flatten_fields p
  constructor
  · have hflat : flatten angle (blockPieces p) =
        "\n        ".toList ++ ('<' :: inner ++ ['>']) ++ "\n      ".toList := by
      unfold blockPieces
      rw [flatten_cons, flatten_append, hinner]
      simp only [text, flat_text, flatten_cons, flatten_nil, List.append_assoc, List.append_nil]
    rw [hflat, List.nil_append, hinner]
    exact trim_append (by decide) (by decide) (by decide) (by decide)
  · have hflat : flatten angle (firstLeading ++ blockPieces p) = "\n      ".toList ++
        ('<' :: ("ParameterValueStruct".toList ++ '>' :: ("\n        ".toList ++ '<' :: inner)) ++
          ['>']) ++ "\n      ".toList := by
      have hspace : "\n".toList ++ "      ".toList = "\n      ".toList := by decide
      unfold firstLeading blockPieces
      rw [flatten_append, flatten_cons, flatten_cons, flatten_cons, flatten_cons, flatten_append,
        hinner]
      simp only [tag, text, flat_tag, flat_text, flatten_cons, flatten_nil, List.append_assoc,
        List.cons_append, List.nil_append, List.append_nil]
      rw [← List.append_assoc "\n".toList, hspace]
    rw [hflat, trim_append (by decide) (by decide) (by decide) (by decide), flatten_append,
      flatten_cons, flatten_cons, hinner]
    simp only [tag, text, flat_tag, flat_text, flatten_nil, List.append_assoc, List.cons_append,
      List.nil_append, List.append_nil]

theorem length_setPieces (messageId : Text) (list : List ParameterValue) :
    list.length ≤ (flatten angle (setPieces messageId list)).length := by
  have hlines : ∀ list : List ParameterValue, list.length ≤
      (flatten angle (linePieces list)).length := by
    intro list
    induction list with
    | nil => exact Nat.le_refl 0
    | cons p list ih =>
      change _ ≤ (flatten angle (text "\n" :: (itemPieces p ++ linePieces list))).length
      rw [flatten_cons, flatten_append, List.length_append, List.length_append, List.length_cons]
      have hone : ((text "\n").flat angle).length = 1 := rfl
      omega
  have hlist : list.length ≤ (flatten angle (listPieces list)).length := by
    cases list with
    | nil => exact Nat.zero_le _
    | cons p list => exact hlines (p :: list)
  unfold setPieces
  simp only [flatten_append, flatten_cons, List.length_append]
  omega

theorem parse_buildSetParameterValues (messageId : Text) (list : List ParameterValue) :
    parseGetParameterValuesResponse (buildSetParameterValues messageId list) =
      list.map fun p => (trim (xmlEscape p.name), trim (xmlEscape p.value)) := by
  have hread : ∀ {before : List (Piece Char)}, Leading before → ∀ p : ParameterValue,
      (orElse (extractTag (flatten angle (before ++ fields p)) "Name") [],
        orElse (extractTag (flatten angle (before ++ fields p)) "Value") []) =
      (trim (xmlEscape p.name), trim (xmlEscape p.value)) := by
    intro before hbefore p
    have hsome : ∀ text : Text, orElse (some text) [] = text := fun text => by
      cases text <;> rfl
    obtain ⟨hname, hvalue⟩ := extractTag_fields hbefore p
    rw [hname, hvalue, hsome, hsome]
  have hall : extractAllTags (buildSetParameterValues messageId list) structName =
      ((either structName).findAll (flatten angle (setPieces messageId list)).length
        (setPieces messageId list)).map fun pieces => trim (flatten angle pieces) := by
    unfold extractAllTags
    rw [← flatten_setPieces, searchAll_flatten ⟨by decide, by decide⟩ _
      (plain_setPieces messageId list), List.map_map]
    rfl
  unfold parseGetParameterValuesResponse parseParameters
  change (extractAllTags _ structName).map _ = _
  rw [hall, findAll_setPieces messageId list (length_setPieces messageId list)]
  cases list with
  | nil => rfl
  | cons p list =>
    rw [List.map_cons, List.map_cons, (trim_block p).2, hread (Or.inr rfl) p, List.map_cons,
      List.map_map, List.map_map]
    refine congrArg (List.cons _) (List.map_congr_left fun q _ => ?_)
    change (orElse (extractTag (trim (flatten angle (blockPieces q))) "Name") [],
      orElse (extractTag (trim (flatten angle (blockPieces q))) "Value") []) = _
    rw [(trim_block q).1, hread (Or.inl rfl) q]

/-- The id read is the one written iff it is there with no character escaped. -/
theorem messageId_iff (now : Nat) {messageId : Text} (htrim : trim messageId = messageId)
    (list : List ParameterValue) :
    extractMessageId now (buildSetParameterValues messageId list) = messageId ↔
      messageId ≠ [] ∧ ∀ c ∈ messageId, special c = false := by
  rw [extractMessageId_set]
  cases hread : trim (xmlEscape messageId) with
  | nil =>
    change "ID-".toList ++ Nat.toDigits 10 now = messageId ↔ _
    constructor
    · rintro rfl
      have hplain : ∀ c ∈ "ID-".toList ++ Nat.toDigits 10 now, special c = false := by
        intro c hmem
        rcases List.mem_append.mp hmem with hc | hc
        · have hlead : ("ID-".toList.all fun c => !special c) = true := by decide
          exact plain_of_all hlead c hc
        · have hdigit := Nat.isDigit_of_mem_toDigits (by decide) (by decide) hc
          refine Bool.eq_false_iff.mpr fun hspecial => ?_
          rcases special_cases hspecial with rfl | rfl | rfl | rfl | rfl <;> cases hdigit
      rw [xmlEscape_plain hplain, htrim] at hread
      cases hread
    · rintro ⟨hne, hplain⟩
      rw [xmlEscape_plain hplain, htrim] at hread
      exact absurd hread hne
  | cons c rest =>
    change c :: rest = messageId ↔ _
    rw [← hread, readBack_iff]
    constructor
    · rintro ⟨-, hplain⟩
      refine ⟨?_, hplain⟩
      rintro rfl
      cases hread
    · rintro ⟨-, hplain⟩
      exact ⟨htrim, hplain⟩

/-- A request is read back iff its id needs no escape and its names and values are faithful. -/
theorem set_roundtrip_iff (now : Nat) {messageId : Text} (htrim : trim messageId = messageId)
    (list : List ParameterValue) :
    parseGetParameterValuesResponse (buildSetParameterValues messageId list) =
        (list.map fun p => (p.name, p.value)) ∧
      extractMessageId now (buildSetParameterValues messageId list) = messageId ↔
    (messageId ≠ [] ∧ ∀ c ∈ messageId, special c = false) ∧
      ∀ p ∈ list, Faithful p.name ∧ Faithful p.value := by
  rw [messageId_iff now htrim, parse_buildSetParameterValues, List.map_inj_left, and_comm]
  refine and_congr_right fun _ => forall₂_congr fun p _ => ?_
  rw [Prod.mk.injEq, readBack_iff, readBack_iff]

/-- A request with an id and one parameter. -/
theorem set_roundtrip_iff_sample :
    trim "TASK-7".toList = "TASK-7".toList ∧
    (parseGetParameterValuesResponse (buildSetParameterValues "TASK-7".toList
        [⟨"Device.Time.Enable".toList, "1".toList, none⟩]) =
        ([⟨"Device.Time.Enable".toList, "1".toList, none⟩].map fun p : ParameterValue =>
          (p.name, p.value)) ∧
      extractMessageId 0 (buildSetParameterValues "TASK-7".toList
        [⟨"Device.Time.Enable".toList, "1".toList, none⟩]) = "TASK-7".toList) := by
  refine ⟨by decide, (set_roundtrip_iff 0 (by decide) _).mpr
    ⟨⟨by decide, plain_of_all (by decide)⟩, fun p hp => ?_⟩⟩
  obtain rfl := List.mem_singleton.mp hp
  exact ⟨⟨by decide, plain_of_all (by decide)⟩,
    ⟨by decide, plain_of_all (by decide)⟩⟩

/-- A value with an ampersand is not read back as it was written. -/
theorem set_roundtrip_fails :
    ¬∀ (now : Nat) (messageId : Text) (list : List ParameterValue),
      trim messageId = messageId →
      parseGetParameterValuesResponse (buildSetParameterValues messageId list) =
          (list.map fun p => (p.name, p.value)) ∧
        extractMessageId now (buildSetParameterValues messageId list) = messageId := by
  intro h
  have hread := (h 0 "TASK-7".toList [⟨"Device.WiFi.SSID".toList, "A&B".toList, none⟩]
    (by decide)).1
  rw [parse_buildSetParameterValues] at hread
  revert hread
  decide

end FireIsp.Cwmp
