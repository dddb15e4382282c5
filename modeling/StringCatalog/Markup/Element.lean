/-!
# StringCatalog.Markup.Element

The tree of a document.  What an entity expands to belongs to the text of the
element around it, but the elements in it are not children of that element.
-/

namespace StringCatalog.Markup

/-- The name of an element or an attribute: what its prefix stands for, if anything, and the part
after it. -/
structure Name where
  space : Option String
  base : String
  deriving DecidableEq, Repr

/-- An attribute. -/
structure Attribute where
  name : Name
  value : String
  deriving DecidableEq, Repr

/-- A node: text, an element, or what an entity expands to. -/
inductive Node where
  | text (s : String)
  | element (name : Name) (attributes : List Attribute) (children : List Node)
  | expansion (children : List Node)
  deriving Repr

/-- An element. -/
structure Element where
  name : Name
  attributes : List Attribute
  children : List Node
  deriving Repr

mutual

/-- The characters of all text in a node. -/
def Node.chars : Node → List Char
  | .text s => s.toList
  | .element _ _ children => charsOf children
  | .expansion children => charsOf children

/-- The characters of all text in some nodes. -/
def charsOf : List Node → List Char
  | [] => []
  | n :: ns => n.chars ++ charsOf ns

end

namespace Element

def text (e : Element) : String := String.ofList (charsOf e.children)

/-- The elements directly in an element. -/
def elements (e : Element) : List Element :=
  e.children.filterMap fun
    | .element name attributes children => some ⟨name, attributes, children⟩
    | _ => none

def attribute? (e : Element) (name : String) : Option String :=
  (e.attributes.find? fun a => a.name = ⟨none, name⟩).map (·.value)

/-- Whether an element has a name without namespace. -/
def isNamed (e : Element) (name : String) : Bool := e.name = ⟨none, name⟩

end Element

end StringCatalog.Markup
