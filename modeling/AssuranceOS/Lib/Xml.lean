/-
XML documents as text, and the elements that a parser gives for them.

An `Element` is one of `xml.etree.ElementTree`: a tag and the key of an attribute are a namespace with
a local name, and what follows a child is left out.  `Markup` is an element as it is written, with the
namespaces that it declares.  `chars` writes it, with the characters of markup as entities, and
`element` is what a parser makes of it: names are resolved, ends of lines are line feeds, and in the
value of an attribute every end of a line and every tab is a blank.  A text with a character that is
not one of XML is not read (`Document.read`).
-/
import Mathlib.Tactic.Common

namespace Xml

/-- A name; `none` is no namespace. -/
structure Name where
  space : Option String := none
  local' : String
  deriving DecidableEq, Repr

inductive Element where
  | mk (tag : Name) (attrib : List (Name × String)) (text : Option String)
      (children : List Element)

namespace Element

def tag : Element → Name
  | mk tag _ _ _ => tag

def attrib : Element → List (Name × String)
  | mk _ attrib _ _ => attrib

def text : Element → Option String
  | mk _ _ text _ => text

def children : Element → List Element
  | mk _ _ _ children => children

/-- `element.get(key)`. -/
def get (e : Element) (key : Name) : Option String :=
  e.attrib.lookup key

/-- `element.findall(tag)`. -/
def findall (e : Element) (tag : Name) : List Element :=
  e.children.filter fun child => child.tag = tag

/-- `element.find(tag)`. -/
def find (e : Element) (tag : Name) : Option Element :=
  e.children.find? fun child => child.tag = tag

mutual

/-- `element.iter(tag)`: the element and everything below it, in document order. -/
def iter (tag : Name) : Element → List Element
  | mk tag' attrib text children =>
    (if tag' = tag then [mk tag' attrib text children] else []) ++ iterAll tag children

def iterAll (tag : Name) : List Element → List Element
  | [] => []
  | e :: es => iter tag e ++ iterAll tag es

end

/-- The texts of the elements below, `"".join(node.text or "" for node in element.iter(tag))`. -/
def joinedText (e : Element) (tag : Name) : String :=
  String.join ((e.iter tag).map fun node => node.text.getD "")

end Element

/-- The characters of XML 1.0. -/
def isXmlChar (c : Char) : Bool :=
  let n := c.toNat
  n = 9 || n = 10 || n = 13 || (0x20 ≤ n && n ≤ 0xd7ff) || (0xe000 ≤ n && n ≤ 0xfffd) || 0x10000 ≤ n

def escapeChar (c : Char) : List Char :=
  if c = '&' then "&amp;".toList
  else if c = '<' then "&lt;".toList
  else if c = '>' then "&gt;".toList
  else if c = '"' then "&quot;".toList
  else [c]

/-- A text with the characters of markup as entities. -/
def escape (cs : List Char) : List Char := cs.flatMap escapeChar

/-- The end of a line is a line feed, however it is written. -/
def normalizeNewlines : List Char → List Char
  | [] => []
  | '\r' :: '\n' :: cs => '\n' :: normalizeNewlines cs
  | '\r' :: cs => '\n' :: normalizeNewlines cs
  | c :: cs => c :: normalizeNewlines cs

def isLineSpace (c : Char) : Bool := c = '\t' || c = '\n' || c = '\r'

/-- The value of an attribute, for what is written in the document. -/
def attributeValue (cs : List Char) : List Char :=
  (normalizeNewlines cs).map fun c => if isLineSpace c then ' ' else c

/-- A name with its prefix. -/
structure QName where
  space : Option String := none
  name : String

inductive Markup where
  | empty (tag : String) (attrs : List (QName × String))
  | node (tag : String) (spaces : List (Option String × String)) (attrs : List (QName × String))
      (text : String) (children : List Markup)

def QName.chars (q : QName) : List Char :=
  match q.space with
  | none => q.name.toList
  | some space => space.toList ++ ':' :: q.name.toList

def quotedChars (cs : List Char) : List Char := '=' :: '"' :: (cs ++ ['"'])

def attrChars (a : QName × String) : List Char :=
  ' ' :: (a.1.chars ++ quotedChars (escape a.2.toList))

def spaceChars (s : Option String × String) : List Char :=
  ' ' :: ("xmlns".toList ++ ((match s.1 with
    | none => []
    | some space => ':' :: space.toList) ++ quotedChars s.2.toList))

namespace Markup

mutual

/-- The text of an element. -/
def chars : Markup → List Char
  | empty tag attrs => '<' :: (tag.toList ++ (attrs.flatMap attrChars ++ "/>".toList))
  | node tag spaces attrs text children =>
    '<' :: (tag.toList ++ (spaces.flatMap spaceChars ++ (attrs.flatMap attrChars ++
      '>' :: (escape text.toList ++ (allChars children ++ ("</".toList ++ (tag.toList ++ ['>'])))))))

def allChars : List Markup → List Char
  | [] => []
  | m :: ms => m.chars ++ allChars ms

end

mutual

/-- Only characters of XML. -/
def legal : Markup → Bool
  | empty _ attrs => attrs.all fun a => a.2.toList.all isXmlChar
  | node _ _ attrs text children =>
    (attrs.all fun a => a.2.toList.all isXmlChar) && text.toList.all isXmlChar && allLegal children

def allLegal : List Markup → Bool
  | [] => true
  | m :: ms => m.legal && allLegal ms

end

/-- The namespaces that are declared, by their prefixes. -/
abbrev Scope := List (Option String × String)

def attributeName (scope : Scope) (q : QName) : Name :=
  match q.space with
  | none => ⟨none, q.name⟩
  | some space => ⟨scope.lookup (some space), q.name⟩

def attributes (scope : Scope) (attrs : List (QName × String)) : List (Name × String) :=
  attrs.map fun a => (attributeName scope a.1, String.ofList (attributeValue a.2.toList))

/-- The text of an element, which is no text where there is nothing. -/
def textOf (text : String) : Option String :=
  if text = "" then none else some (String.ofList (normalizeNewlines text.toList))

mutual

/-- What a parser makes of the text of an element. -/
def element (scope : Scope) : Markup → Element
  | empty tag attrs => .mk ⟨scope.lookup none, tag⟩ (attributes scope attrs) none []
  | node tag spaces attrs text children =>
    .mk ⟨(spaces ++ scope).lookup none, tag⟩ (attributes (spaces ++ scope) attrs) (textOf text)
      (elements (spaces ++ scope) children)

def elements (scope : Scope) : List Markup → List Element
  | [] => []
  | m :: ms => m.element scope :: elements scope ms

end

end Markup

/-- A document, by its root element. -/
structure Document where
  root : Markup

/-- `<?xml version="1.0" encoding="UTF-8" standalone="yes"?>` -/
def prolog : String := "<?xml version=\"1.0\" encoding=\"UTF-8\" standalone=\"yes\"?>"

def Document.chars (d : Document) : List Char := prolog.toList ++ d.root.chars

/-- What a parser makes of the text of a document. -/
def Document.read (d : Document) : Option Element :=
  if d.root.legal then some (d.root.element []) else none

theorem Document.read_eq_some {d : Document} {e : Element} :
    d.read = some e ↔ d.root.legal = true ∧ e = d.root.element [] := by
  rw [Document.read]
  cases d.root.legal with
  | true => simp [eq_comm]
  | false => simp

end Xml
