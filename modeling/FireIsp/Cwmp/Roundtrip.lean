import FireIsp.Cwmp.Xml
import Mathlib.Data.List.Count

/-!
# What is read back of an escaped string

Nothing is decoded when an envelope is read, and white space is removed.  A string is read back as
it was written if none of its characters is escaped and no white space is around it.
-/

namespace FireIsp.Cwmp

open Regex

/-- The five characters that are escaped. -/
def special (c : Char) : Bool := c = '&' || c = '<' || c = '>' || c = '"' || c = '\''

/-- What becomes of a character. -/
def escapeChar (c : Char) : Text :=
  if c = '&' then "&amp;".toList else if c = '<' then "&lt;".toList
  else if c = '>' then "&gt;".toList else if c = '"' then "&quot;".toList
  else if c = '\'' then "&apos;".toList else [c]

/-- A string that is read back as it was written. -/
def Faithful (text : Text) : Prop := trim text = text ∧ ∀ c ∈ text, special c = false

variable {text : Text}

theorem plain_of_all (h : text.all (fun c => !special c) = true) :
    ∀ c ∈ text, special c = false :=
  fun c hc => (Bool.not_eq_true' _).mp (List.all_eq_true.mp h c hc)

theorem xmlEscape_eq (text : Text) : xmlEscape text = text.flatMap escapeChar := by
  unfold xmlEscape replaceAll
  simp only [List.flatMap_assoc]
  refine List.flatMap_congr fun c _ => ?_
  unfold escapeChar
  by_cases h₁ : c = '&'
  · subst h₁
    decide
  by_cases h₂ : c = '<'
  · subst h₂
    decide
  by_cases h₃ : c = '>'
  · subst h₃
    decide
  by_cases h₄ : c = '"'
  · subst h₄
    decide
  by_cases h₅ : c = '\''
  · subst h₅
    decide
  simp only [h₁, h₂, h₃, h₄, h₅, if_false, List.flatMap_cons, List.flatMap_nil, List.append_nil]

variable {c : Char}

theorem escapeChar_plain (h : special c = false) : escapeChar c = [c] := by
  unfold special at h
  simp only [Bool.or_eq_false_iff, decide_eq_false_iff_not] at h
  obtain ⟨⟨⟨⟨h₁, h₂⟩, h₃⟩, h₄⟩, h₅⟩ := h
  simp only [escapeChar, h₁, h₂, h₃, h₄, h₅, if_false]

theorem special_cases (h : special c = true) :
    c = '&' ∨ c = '<' ∨ c = '>' ∨ c = '"' ∨ c = '\'' := by
  unfold special at h
  simp only [Bool.or_eq_true, decide_eq_true_eq] at h
  tauto

theorem escapeChar_free (c : Char) : '<' ∉ escapeChar c ∧ '>' ∉ escapeChar c := by
  cases h : special c with
  | true => rcases special_cases h with rfl | rfl | rfl | rfl | rfl <;> decide
  | false =>
    rw [escapeChar_plain h]
    constructor <;> rintro hmem <;> obtain rfl := List.mem_singleton.mp hmem <;>
      revert h <;> decide

theorem xmlEscape_free (text : Text) : '<' ∉ xmlEscape text ∧ '>' ∉ xmlEscape text := by
  rw [xmlEscape_eq]
  constructor <;> intro hmem <;> obtain ⟨c, -, hc⟩ := List.mem_flatMap.mp hmem
  · exact (escapeChar_free c).1 hc
  · exact (escapeChar_free c).2 hc

theorem xmlEscape_plain (h : ∀ c ∈ text, special c = false) :
    xmlEscape text = text := by
  rw [xmlEscape_eq]
  induction text with
  | nil => rfl
  | cons c text ih =>
    rw [List.flatMap_cons, escapeChar_plain (h c List.mem_cons_self),
      ih fun d hd => h d (List.mem_cons_of_mem c hd)]
    rfl

theorem count_xmlEscape (text : Text) :
    (xmlEscape text).count ';' = text.count ';' + text.countP special := by
  rw [xmlEscape_eq]
  induction text with
  | nil => rfl
  | cons c text ih =>
    rw [List.flatMap_cons, List.count_append, ih, List.countP_cons, List.count_cons]
    cases h : special c with
    | true =>
      have hone : (escapeChar c).count ';' = 1 ∧ (c == ';') = false := by
        rcases special_cases h with rfl | rfl | rfl | rfl | rfl <;> decide
      rw [hone.1, hone.2, if_neg Bool.false_ne_true, if_pos rfl]
      omega
    | false =>
      rw [escapeChar_plain h, List.count_singleton, if_neg Bool.false_ne_true]
      omega

theorem count_dropWhile (hc : Text.isSpace c = false) (text : Text) :
    (text.dropWhile Text.isSpace).count c = text.count c := by
  induction text with
  | nil => rfl
  | cons d text ih =>
    rw [List.dropWhile_cons]
    split_ifs with hd
    · have hne : (d == c) = false := by
        rw [beq_eq_false_iff_ne]
        rintro rfl
        rw [hc] at hd
        cases hd
      rw [ih, List.count_cons, hne, if_neg Bool.false_ne_true]
      rfl
    · rfl

theorem count_trim (hc : Text.isSpace c = false) (text : Text) :
    (trim text).count c = text.count c := by
  unfold trim
  rw [List.count_reverse, count_dropWhile hc, List.count_reverse, count_dropWhile hc]

theorem readBack_iff : trim (xmlEscape text) = text ↔ Faithful text := by
  constructor
  · intro h
    have hcount := count_xmlEscape text
    rw [← count_trim (show Text.isSpace ';' = false by decide), h] at hcount
    have hplain : ∀ c ∈ text, special c = false := by
      have hnone : text.countP special = 0 := by omega
      intro c hc
      exact Bool.not_eq_true _ ▸ List.countP_eq_zero.mp hnone c hc
    rw [xmlEscape_plain hplain] at h
    exact ⟨h, hplain⟩
  · rintro ⟨htrim, hplain⟩
    rw [xmlEscape_plain hplain, htrim]

theorem mem_of_mem_trim (h : c ∈ trim text) : c ∈ text := by
  have hdrop := (List.dropWhile_sublist Text.isSpace).subset (List.mem_reverse.mp h)
  exact (List.dropWhile_sublist Text.isSpace).subset (List.mem_reverse.mp hdrop)

theorem stripCdata_of_free (h : '<' ∉ text) : stripCdata text = text := by
  have hnone : cdata.exec text = none := by
    cases text with
    | nil => rfl
    | cons c text =>
      have hne : c ≠ '<' := fun heq => h (heq ▸ List.mem_cons_self)
      exact run_exactly_ne _ hne _
  unfold stripCdata
  rw [hnone]
  rfl

theorem trim_append {before after : Text} {d : Char} (hbefore : before.all Text.isSpace)
    (hafter : after.all Text.isSpace) (hc : Text.isSpace c = false) (hd : Text.isSpace d = false) :
    trim (before ++ (c :: text ++ [d]) ++ after) = c :: text ++ [d] := by
  have hdrop : ∀ {spaces rest : Text} {e : Char}, spaces.all Text.isSpace → Text.isSpace e = false →
      (spaces ++ e :: rest).dropWhile Text.isSpace = e :: rest := by
    intro spaces rest e hspaces he
    rw [List.dropWhile_append_of_pos (List.all_eq_true.mp hspaces), List.dropWhile_cons_of_neg]
    rw [he]
    exact Bool.false_ne_true
  unfold trim
  rw [List.append_assoc, List.append_assoc, List.cons_append, hdrop hbefore hc]
  have hreverse : (c :: (text ++ ([d] ++ after))).reverse =
      after.reverse ++ d :: (c :: text).reverse := by
    simp only [List.reverse_cons, List.reverse_append, List.append_assoc, List.nil_append,
      List.cons_append]
  rw [hreverse, hdrop (by rw [List.all_reverse]; exact hafter) hd]
  simp only [List.reverse_cons, List.reverse_reverse, List.reverse_append, List.reverse_nil,
    List.nil_append, List.cons_append]

end FireIsp.Cwmp

/-!
## Reading back what was written

The envelope of a request is a list of tags and of texts between them.  What the reader finds in it
is read off that list: the id, and one block for each parameter.
-/

namespace FireIsp.Cwmp

open Regex Markup

/-- A tag whose text is known. -/
def tag (content : String) : Piece Char := .tag content.toList

/-- A text that is known. -/
def text (content : String) : Piece Char := .text content.toList

@[simp] theorem flat_tag (content : Text) :
    (Piece.tag content).flat angle = '<' :: content ++ ['>'] := rfl

@[simp] theorem flat_text (content : Text) : (Piece.text content).flat angle = content := rfl

/-- The pieces in front of the id. -/
def idBefore : List (Piece Char) :=
  [tag "?xml version=\"1.0\" encoding=\"UTF-8\"?", text "\n",
    tag "soapenv:Envelope xmlns:soapenv=\"http://schemas.xmlsoap.org/soap/envelope/\"
                  xmlns:cwmp=\"urn:dslforum-org:cwmp-1-0\"
                  xmlns:xsd=\"http://www.w3.org/2001/XMLSchema\"
                  xmlns:xsi=\"http://www.w3.org/2001/XMLSchema-instance\"",
    text "\n  ", tag "soapenv:Header", text "\n    "]

def idTag : String := "cwmp:ID soapenv:mustUnderstand=\"1\""

/-- The pieces between the id and the body. -/
def idAfter : List (Piece Char) :=
  [tag "/cwmp:ID", text "\n  ", tag "/soapenv:Header", text "\n  ", tag "soapenv:Body",
    text "\n    "]

def bodyAfter : List (Piece Char) :=
  [text "\n  ", tag "/soapenv:Body", text "\n", tag "/soapenv:Envelope"]

def listTag (count : Nat) : Text :=
  "ParameterList soapenv:arrayType=\"cwmp:ParameterValueStruct[".toList ++ Nat.toDigits 10 count ++
    "]\"".toList

def valueTag (p : ParameterValue) : Text :=
  "Value xsi:type=\"".toList ++ xmlEscape (orElse p.type "xsd:string".toList) ++ "\"".toList

def fields (p : ParameterValue) : List (Piece Char) :=
  [tag "Name", .text (xmlEscape p.name), tag "/Name", text "\n        ", .tag (valueTag p),
    .text (xmlEscape p.value), tag "/Value"]

def itemPieces (p : ParameterValue) : List (Piece Char) :=
  [text "      ", tag "ParameterValueStruct", text "\n        "] ++ fields p ++
    [text "\n      ", tag "/ParameterValueStruct"]

def linePieces (list : List ParameterValue) : List (Piece Char) :=
  list.flatMap fun p => text "\n" :: itemPieces p

def listAfter : List (Piece Char) :=
  [text "\n      ", tag "/ParameterList", text "\n      ", tag "ParameterKey", tag "/ParameterKey",
    text "\n    ", tag "/cwmp:SetParameterValues"] ++ bodyAfter

def listPieces : List ParameterValue → List (Piece Char)
  | [] => [text "\n"]
  | list => linePieces list

def setPieces (messageId : Text) (list : List ParameterValue) : List (Piece Char) :=
  idBefore ++ .tag idTag.toList :: .text (xmlEscape messageId) :: (idAfter ++
    tag "cwmp:SetParameterValues" :: text "\n      " :: .tag (listTag list.length) ::
      (listPieces list ++ listAfter))

theorem flatten_itemPieces (p : ParameterValue) :
    flatten angle (itemPieces p) = parameterItem p := by
  have hopen : "      <ParameterValueStruct>\n        <Name>".toList =
      flatten angle [text "      ", tag "ParameterValueStruct", text "\n        ", tag "Name"] := by
    decide
  have hvalue : "</Name>\n        <Value xsi:type=\"".toList =
      flatten angle [tag "/Name", text "\n        "] ++ '<' :: "Value xsi:type=\"".toList := by
    decide
  have hclose : "</Value>\n      </ParameterValueStruct>".toList =
      flatten angle [tag "/Value", text "\n      ", tag "/ParameterValueStruct"] := by
    decide
  have hquote : "\">".toList = "\"".toList ++ ['>'] := by decide
  unfold parameterItem itemPieces fields valueTag
  rw [hopen, hvalue, hquote, hclose]
  simp only [tag, text, flatten_cons, flatten_nil, flat_tag, flat_text, List.append_assoc,
    List.cons_append, List.nil_append, List.append_nil]

theorem flatten_listPieces (list : List ParameterValue) :
    flatten angle (listPieces list) = '\n' :: joinLines (list.map parameterItem) := by
  have hlines : ∀ p list, flatten angle (linePieces (p :: list)) =
      '\n' :: joinLines ((p :: list).map parameterItem) := by
    intro p list
    induction list generalizing p with
    | nil =>
      change flatten angle (text "\n" :: (itemPieces p ++ [])) = _
      rw [List.append_nil, flatten_cons, flatten_itemPieces]
      rfl
    | cons q list ih =>
      change flatten angle (text "\n" :: (itemPieces p ++ linePieces (q :: list))) = _
      rw [flatten_cons, flatten_append, flatten_itemPieces, ih q]
      rfl
  cases list with
  | nil => rfl
  | cons p list => exact hlines p list

set_option maxRecDepth 4000 in
theorem flatten_setPieces (messageId : Text) (list : List ParameterValue) :
    flatten angle (setPieces messageId list) = buildSetParameterValues messageId list := by
  have hid : SOAP_HEADER.toList ++
      "\n  <soapenv:Header>\n    <cwmp:ID soapenv:mustUnderstand=\"1\">".toList =
      flatten angle (idBefore ++ [.tag idTag.toList]) := by
    unfold SOAP_HEADER idBefore idTag tag text
    repeat rw [String.toList_ofList]
    rfl
  have hbody : "</cwmp:ID>\n  </soapenv:Header>\n  <soapenv:Body>\n    ".toList =
      flatten angle idAfter := by
    unfold idAfter tag text
    repeat rw [String.toList_ofList]
    rfl
  have hset : "<cwmp:SetParameterValues>
      <ParameterList soapenv:arrayType=\"cwmp:ParameterValueStruct[".toList =
      flatten angle [tag "cwmp:SetParameterValues", text "\n      "] ++
        '<' :: "ParameterList soapenv:arrayType=\"cwmp:ParameterValueStruct[".toList := by
    unfold tag text
    repeat rw [String.toList_ofList]
    rfl
  have hlist : "]\">\n".toList = "]\"".toList ++ '>' :: ['\n'] := by decide
  have hafter : "
      </ParameterList>
      <ParameterKey></ParameterKey>
    </cwmp:SetParameterValues>".toList ++ "\n  </soapenv:Body>\n</soapenv:Envelope>".toList =
      flatten angle listAfter := by
    unfold listAfter bodyAfter tag text
    repeat rw [String.toList_ofList]
    rfl
  unfold buildSetParameterValues wrapEnvelope setPieces listTag
  simp only [List.append_assoc]
  rw [hafter, ← List.append_assoc SOAP_HEADER.toList, hid, hbody, hset, hlist]
  simp only [tag, text, flatten_cons, flatten_nil, flatten_append, flatten_listPieces, flat_tag,
    flat_text, List.append_assoc, List.cons_append, List.nil_append, List.append_nil]

theorem digits_free (n : Nat) : '<' ∉ Nat.toDigits 10 n ∧ '>' ∉ Nat.toDigits 10 n := by
  constructor <;> intro hmem <;>
    have hdigit := Nat.isDigit_of_mem_toDigits (by decide) (by decide) hmem <;>
    revert hdigit <;> decide

theorem plain_listTag (n : Nat) : (Piece.tag (listTag n)).Plain angle := by
  obtain ⟨hlt, hgt⟩ := digits_free n
  unfold listTag
  constructor <;> simp only [List.mem_append, not_or, angle]
  · exact ⟨⟨by decide, hlt⟩, by decide⟩
  · exact ⟨⟨by decide, hgt⟩, by decide⟩

theorem plain_valueTag (p : ParameterValue) : (Piece.tag (valueTag p)).Plain angle := by
  obtain ⟨hlt, hgt⟩ := xmlEscape_free (orElse p.type "xsd:string".toList)
  unfold valueTag
  constructor <;> simp only [List.mem_append, not_or, angle]
  · exact ⟨⟨by decide, hlt⟩, by decide⟩
  · exact ⟨⟨by decide, hgt⟩, by decide⟩

theorem plain_fields (p : ParameterValue) : ∀ piece ∈ fields p, piece.Plain angle := by
  have hvalue := plain_valueTag p
  have hname : (Piece.text (xmlEscape p.name)).Plain angle := (xmlEscape_free p.name).1
  have htext : (Piece.text (xmlEscape p.value)).Plain angle := (xmlEscape_free p.value).1
  have htag : ∀ content ∈ ["Name", "/Name", "/Value"], (tag content).Plain angle := by decide
  have hspace : (text "\n        ").Plain angle := by decide
  unfold fields
  simp only [List.forall_mem_cons, List.not_mem_nil, false_implies, implies_true, and_true] at htag ⊢
  exact ⟨htag.1, hname, htag.2.1, hspace, hvalue, htext, htag.2.2⟩

end FireIsp.Cwmp
