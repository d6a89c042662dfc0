import FireIsp.Base.Occurs
import FireIsp.Cwmp.Xml

/-!
# Envelopes as documents

A document is a tree of elements with text between them, however it is spelt: with any prefixes,
attributes, references, CDATA sections and comments.  The message of an envelope is the element in
its body.
-/

namespace FireIsp.Cwmp

/-- White space of markup. -/
def isBlank (c : Char) : Bool := c = ' ' || c = '\t' || c = '\n' || c = '\r'

structure Attribute where
  space : Text
  name : Text
  around : Text × Text
  quote : Char
  value : Text

def Attribute.render (a : Attribute) : Text :=
  a.space ++ a.name ++ a.around.1 ++ '=' :: a.around.2 ++ a.quote :: a.value ++ [a.quote]

/-- What stands in a tag. -/
structure Tag where
  name : Text
  attributes : List Attribute
  space : Text

def Tag.behind (tag : Tag) : Text := tag.attributes.flatMap Attribute.render ++ tag.space

/-- What an element holds: free text, then a piece of markup, then more. -/
inductive Content
  | text (raw : Text)
  | element (before : Text) (tag : Tag) (inner : Content) (space : Text) (after : Content)
  | empty (before : Text) (tag : Tag) (after : Content)
  | cdata (before content : Text) (after : Content)
  | comment (before content : Text) (after : Content)

def Tag.opens (tag : Tag) : Text := '<' :: tag.name ++ tag.behind ++ ['>']

def Tag.closes (tag : Tag) (space : Text) : Text := '<' :: '/' :: tag.name ++ space ++ ['>']

/-- A tag that is an element. -/
def Tag.alone (tag : Tag) : Text := '<' :: tag.name ++ tag.behind ++ ['/', '>']

def cdataSection (content : Text) : Text := "<![CDATA[".toList ++ content ++ "]]>".toList

def commentSection (content : Text) : Text := "<!--".toList ++ content ++ "-->".toList

namespace Content

def render : Content → Text
  | text raw => raw
  | element before tag inner space after =>
    before ++ tag.opens ++ inner.render ++ tag.closes space ++ after.render
  | empty before tag after => before ++ tag.alone ++ after.render
  | cdata before content after => before ++ cdataSection content ++ after.render
  | comment before content after => before ++ commentSection content ++ after.render

/-- The free text at the end. -/
def last : Content → Text
  | text raw => raw
  | element _ _ _ _ after => after.last
  | empty _ _ after => after.last
  | cdata _ _ after => after.last
  | comment _ _ after => after.last

/-- Free text and markup by turns, up to the end. -/
def parts : Content → List (Text × Text)
  | text _ => []
  | element before tag inner space after =>
    (before, tag.opens) :: inner.parts ++ (inner.last, tag.closes space) :: after.parts
  | empty before tag after => (before, tag.alone) :: after.parts
  | cdata before content after => (before, cdataSection content) :: after.parts
  | comment before content after => (before, commentSection content) :: after.parts

end Content

def isNameChar (c : Char) : Bool :=
  !isBlank c && c ≠ '<' && c ≠ '>' && c ≠ '/' && c ≠ '=' && c ≠ '"' && c ≠ '\'' && c ≠ '&'

def Attribute.wellFormed (a : Attribute) : Bool :=
  !a.space.isEmpty && a.space.all isBlank && !a.name.isEmpty && a.name.all isNameChar &&
    a.around.1.all isBlank && a.around.2.all isBlank && (a.quote = '"' || a.quote = '\'') &&
    a.value.all fun c => c ≠ '<' && c ≠ a.quote

def Tag.wellFormed (tag : Tag) : Bool :=
  !tag.name.isEmpty && tag.name.all isNameChar && tag.attributes.all Attribute.wellFormed &&
    tag.space.all isBlank

def isFree (raw : Text) : Bool := raw.all (· ≠ '<') && !includes raw "]]>"

namespace Content

def wellFormed : Content → Bool
  | text raw => isFree raw
  | element before tag inner space after =>
    isFree before && tag.wellFormed && inner.wellFormed && space.all isBlank && after.wellFormed
  | empty before tag after => isFree before && tag.wellFormed && after.wellFormed
  | cdata before content after => isFree before && !includes content "]]>" && after.wellFormed
  | comment before content after => isFree before && !includes content "--" && after.wellFormed

end Content

/-- An element of a document. -/
structure Node where
  tag : Tag
  /-- What it holds; nothing where it is one tag. -/
  inner : Option Content

def localName (name : Text) : Text :=
  match name.dropWhile (· ≠ ':') with
  | [] => name
  | _ :: rest => rest

/-- The elements in some content, but not those within them. -/
def Content.nodes : Content → List Node
  | .text _ => []
  | .element _ tag inner _ after => ⟨tag, some inner⟩ :: after.nodes
  | .empty _ tag after => ⟨tag, none⟩ :: after.nodes
  | .cdata _ _ after => after.nodes
  | .comment _ _ after => after.nodes

namespace Node

/-- An element has a name, with any prefix. -/
def isNamed (name : String) (node : Node) : Bool := localName node.tag.name = name.toList

/-- The elements within an element. -/
def children (node : Node) : List Node := (node.inner.map Content.nodes).getD []

end Node

/-- What a reference stands for. -/
def referenced (name : Text) : Option Char :=
  if name = "amp".toList then some '&'
  else if name = "lt".toList then some '<'
  else if name = "gt".toList then some '>'
  else if name = "quot".toList then some '"'
  else if name = "apos".toList then some '\''
  else match name with
    | '#' :: 'x' :: digits => (Numeral.parseInt 16 digits).map fun code => Char.ofNat code.toNat
    | '#' :: digits => (Numeral.parseInt 10 digits).map fun code => Char.ofNat code.toNat
    | _ => none

/-- Free text without its references. -/
def dereference : Nat → Text → Text
  | 0, raw => raw
  | _ + 1, [] => []
  | fuel + 1, c :: raw =>
    if c = '&' then
      match referenced (raw.takeWhile (· ≠ ';')), raw.dropWhile (· ≠ ';') with
      | some d, _ :: rest => d :: dereference fuel rest
      | _, _ => c :: dereference fuel raw
    else c :: dereference fuel raw

def freeValue (raw : Text) : Text := dereference raw.length raw

def Content.value : Content → Text
  | .text raw => freeValue raw
  | .element before _ inner _ after => freeValue before ++ inner.value ++ after.value
  | .empty before _ after => freeValue before ++ after.value
  | .cdata before content after => freeValue before ++ content ++ after.value
  | .comment before _ after => freeValue before ++ after.value

def Node.eventCodes (message : Node) : List Text :=
  let events := message.children.filter (Node.isNamed "Event")
  let structs := (events.flatMap Node.children).filter (Node.isNamed "EventStruct")
  let codes := (structs.flatMap Node.children).filter (Node.isNamed "EventCode")
  codes.map fun code => trim ((code.inner.map Content.value).getD [])

/-- A device reports that a diagnosis is complete. -/
def Node.carries (message : Node) : Bool :=
  message.isNamed "Inform" && message.eventCodes.contains "8 DIAGNOSTICS COMPLETE".toList

structure Document where
  declaration : Option Text
  content : Content

namespace Document

/-- The parts of the declaration. -/
def prolog (doc : Document) : List (Text × Text) :=
  (doc.declaration.map fun text => ([], "<?xml".toList ++ text ++ "?>".toList)).toList

def wellFormed (doc : Document) : Bool := doc.content.wellFormed

def render (doc : Document) : Text :=
  doc.prolog.flatMap (fun part => part.1 ++ part.2) ++ doc.content.render

/-- Free text and markup by turns, up to the end. -/
def parts (doc : Document) : List (Text × Text) := doc.prolog ++ doc.content.parts

/-- The element of a list of one element. -/
def only : List Node → Option Node
  | [node] => some node
  | _ => none

def message (doc : Document) : Option Node := do
  let envelope ← only doc.content.nodes
  let body ← only (envelope.children.filter fun node => !node.isNamed "Header")
  if envelope.isNamed "Envelope" && body.isNamed "Body" then only body.children else none

end Document

def Node.expected (message : Node) (type : MessageType) : MessageType :=
  if message.carries then .diagnosticsComplete else type

end FireIsp.Cwmp
