import FireIsp.Base.Entities

/-!
# Text of a CFDI

`escapeXml` writes the five special characters of XML as entities, and `decodeXmlEntities` reads
entities back, the ampersand last. Texts are sequences of UTF-16 code units.
-/

namespace FireIsp.Cfdi

open Entities

def units (literal : String) : List UInt16 := literal.toList.map fun c => UInt16.ofNat c.toNat

/-- `text.replace(/pattern/g, replacement)`. -/
def replace (pattern replacement : String) (text : List UInt16) : List UInt16 :=
  replaceAll (units pattern) (units replacement) text

def escapeXml (str : List UInt16) : List UInt16 :=
  replace "'" "&apos;" (replace "\"" "&quot;" (replace ">" "&gt;" (replace "<" "&lt;"
    (replace "&" "&amp;" str))))

def decodeXmlEntities (s : List UInt16) : List UInt16 :=
  replace "&amp;" "&" (replace "&apos;" "'" (replace "&#39;" "'" (replace "&quot;" "\""
    (replace "&gt;" ">" (replace "&lt;" "<" s)))))

/-- Entities by the characters they stand for. -/
def entities (names : List (String × String)) : List (UInt16 × List UInt16) :=
  names.flatMap fun name => (units name.1).map fun c => (c, units name.2)

theorem replace_encode (pattern replacement : String) (names replaced : List (String × String))
    (h : Replaces (units pattern) (units replacement) (entities names) (entities replaced))
    (text : List UInt16) :
    replace pattern replacement (encode (entities names) text) = encode (entities replaced) text :=
  replaceAll_encode h text

/-- The special characters and their entities. -/
def special : List (String × String) :=
  [("&", "&amp;"), ("<", "&lt;"), (">", "&gt;"), ("\"", "&quot;"), ("'", "&apos;")]

theorem encode_nil (text : List UInt16) : encode (entities []) text = text :=
  List.flatMap_singleton' text

theorem escapeXml_eq (str : List UInt16) : escapeXml str = encode (entities special) str := by
  have hamp := replace_encode "&" "&amp;" [] (special.take 1) (by decide) str
  rw [encode_nil] at hamp
  rw [escapeXml, hamp, replace_encode "<" "&lt;" _ (special.take 2) (by decide),
    replace_encode ">" "&gt;" _ (special.take 3) (by decide),
    replace_encode "\"" "&quot;" _ (special.take 4) (by decide),
    replace_encode "'" "&apos;" _ special (by decide)]

/-- A text that is escaped is read back, since the ampersands are read last. -/
theorem decodeXmlEntities_escapeXml (s : List UInt16) : decodeXmlEntities (escapeXml s) = s := by
  have hamp := replace_encode "&amp;" "&" (special.take 1) [] (by decide) s
  rw [encode_nil] at hamp
  rw [escapeXml_eq, decodeXmlEntities,
    replace_encode "&lt;" "<" _ (special.eraseIdx 1) (by decide),
    replace_encode "&gt;" ">" _ (special.take 1 ++ special.drop 3) (by decide),
    replace_encode "&quot;" "\"" _ (special.take 1 ++ special.drop 4) (by decide),
    replace_encode "&#39;" "'" _ (special.take 1 ++ special.drop 4) (by decide),
    replace_encode "&apos;" "'" _ (special.take 1) (by decide), hamp]

example : decodeXmlEntities (units "&amp;lt;") = units "&lt;" := by decide

/-- The marks of a literal do not occur in an escaped text, and where an ampersand does, one of the
five entities begins; texts are escaped one after the other. -/
theorem escapeXml_markup (str : List UInt16) :
    (∀ c ∈ units "<>\"'", c ∉ escapeXml str) ∧
    (∀ before after, escapeXml str = before ++ units "&" ++ after →
      ∃ name ∈ special, units name.2 <+: units "&" ++ after) ∧
    ∀ more, escapeXml (str ++ more) = escapeXml str ++ escapeXml more := by
  have hkeys : units "&<>\"'" = (entities special).map Prod.fst := by decide
  have hwords : ∀ entry ∈ entities special, ∃ name ∈ special,
      word (entities special) entry.1 = units name.2 := by decide
  have hmarks : units "&<>\"'" = units "&" ++ units "<>\"'" := by decide
  have hplain : ∀ name ∈ special, (units name.2).filter (· ∈ units "<>\"'") = [] := by decide
  have htails : ∀ name ∈ special, 38 ∉ (units name.2).tail := by decide
  have hword : ∀ b, (∃ name ∈ special, word (entities special) b = units name.2) ∨
      b ∉ units "&<>\"'" ∧ word (entities special) b = [b] := by
    intro b
    by_cases hspecial : ∃ entry ∈ entities special, entry.1 = b
    · obtain ⟨entry, hentry, rfl⟩ := hspecial
      exact .inl (hwords entry hentry)
    · exact .inr ⟨fun hmem => hspecial (List.mem_map.mp (hkeys ▸ hmem)),
        word_of_not_mem fun entry hentry heq => hspecial ⟨entry, hentry, heq⟩⟩
  simp only [escapeXml_eq]
  refine ⟨fun c hc hmem => ?_, fun before after h => ?_, fun more => List.flatMap_append⟩
  · obtain ⟨b, -, hmem⟩ := List.mem_flatMap.mp hmem
    rcases hword b with ⟨name, hname, hb⟩ | ⟨hb, hself⟩
    · exact List.filter_eq_nil_iff.mp (hplain name hname) c (hb ▸ hmem) (decide_eq_true hc)
    · rw [hself, List.mem_singleton] at hmem
      exact hb (hmem ▸ hmarks ▸ List.mem_append_right _ hc)
  · have htail : ∀ b, 38 ∉ (word (entities special) b).tail := by
      intro b
      rcases hword b with ⟨name, hname, hb⟩ | ⟨-, hself⟩
      · exact hb ▸ htails name hname
      · exact hself ▸ List.not_mem_nil
    rw [List.append_assoc] at h
    obtain ⟨b, hhead, hbegins⟩ := word_prefix htail h
    rcases hword b with ⟨name, hname, hb⟩ | ⟨hb, hself⟩
    · exact ⟨name, hname, hb ▸ hbegins⟩
    · rw [hself] at hhead
      obtain rfl := Option.some.inj hhead
      exact absurd (by decide) hb

end FireIsp.Cfdi
