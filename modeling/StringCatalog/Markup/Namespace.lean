import StringCatalog.Markup.Element
import StringCatalog.Markup.Lexeme
import StringCatalog.OrderedMap

/-!
# StringCatalog.Markup.Namespace

Namespaces: which attributes declare them, which declarations are allowed, and
what a prefix stands for.
-/

namespace StringCatalog.Markup

/-! ## Names of namespaces -/

/-- Whether a character may stand in any part of an address as it is. -/
def isAddressChar (c : Char) : Bool :=
  c.isAlphanum || "-._~!$&'()*+,;=:@".toList.contains c

/-- Whether characters may stand in a part of an address, with `extra` ones besides; a percent sign
stands before two hexadecimal digits. -/
def isAddressPart (extra : List Char) : List Char → Bool
  | [] => true
  | '%' :: a :: b :: rest =>
    (Number.readDigits? 16 [a, b]).isSome && isAddressPart extra rest
  | c :: rest => (isAddressChar c || extra.contains c) && isAddressPart extra rest

/-- Whether characters are the host of an address with the user before and the port behind. -/
def isAuthority (cs : List Char) : Bool :=
  let (user, host) := if cs.contains '@' then
      (cs.takeWhile (· ≠ '@'), (cs.dropWhile (· ≠ '@')).drop 1)
    else ([], cs)
  let isPort (cs : List Char) : Bool := match cs with
    | [] => true
    | ':' :: digits => digits.all Char.isDigit
    | _ => false
  isAddressPart [] user &&
    match host with
    | '[' :: rest => rest.contains ']' && isPort ((rest.dropWhile (· ≠ ']')).drop 1)
    | _ =>
      let name := host.takeWhile (· ≠ ':')
      isAddressPart [] name && !name.contains '@' && isPort (host.dropWhile (· ≠ ':'))

/-- Whether characters are the path of an address, with a host before it or not. -/
def isAddressPath (cs : List Char) : Bool :=
  match cs with
  | '/' :: '/' :: rest =>
    isAuthority (rest.takeWhile (· ≠ '/')) && isAddressPart ['/'] (rest.dropWhile (· ≠ '/'))
  | _ => isAddressPart ['/'] cs

/-- Whether a text is the address of something, absolute or relative. -/
def isAddress (s : String) : Bool :=
  let cs := s.toList
  let beforeFragment := cs.takeWhile (· ≠ '#')
  let fragment := (cs.dropWhile (· ≠ '#')).drop 1
  let path := beforeFragment.takeWhile (· ≠ '?')
  let query := (beforeFragment.dropWhile (· ≠ '?')).drop 1
  let first := path.takeWhile (· ≠ '/')
  let scheme := first.takeWhile (· ≠ ':')
  let hasScheme := first.contains ':'
  let isScheme := match scheme with
    | c :: rest => c.isAlpha && rest.all fun d => d.isAlphanum || ['+', '-', '.'].contains d
    | [] => false
  isAddressPart ['/', '?', '[', ']'] fragment && isAddressPart ['/', '?'] query &&
    if hasScheme then isScheme && isAddressPath (path.drop (scheme.length + 1))
    else isAddressPath path

/-! ## Scopes -/

def xmlNamespace : String := "http://www.w3.org/XML/1998/namespace"

/-- The namespace of declarations of namespaces, which no prefix may stand for. -/
def declarationNamespace : String := "http://www.w3.org/2000/xmlns/"

/-- What prefixes stand for; the empty prefix is that of names without one, and the empty namespace
is none. -/
abbrev Scope := OrderedMap String String

/-- The scope around a document. -/
def Scope.outermost : Scope := [("xml", xmlNamespace)]

/-- The prefix that an attribute declares, if it is a declaration. -/
def declaredPrefix? (q : QName) : Option String :=
  match q with
  | ⟨none, "xmlns"⟩ => some ""
  | ⟨some "xmlns", base⟩ => some base
  | _ => none

/-- Whether a prefix may be declared to stand for a namespace. -/
def mayDeclare (declared value : String) : Bool :=
  if declared = "xml" then value = xmlNamespace
  else if declared = "xmlns" then false
  else if value = xmlNamespace || value = declarationNamespace then false
  else if value.isEmpty then declared.isEmpty
  else isAddress value

/-- The scope inside an element with some attributes, if its declarations are allowed. -/
def Scope.enter? (scope : Scope) (attributes : List (QName × String)) : Option Scope :=
  attributes.foldlM (fun scope (q, value) =>
    match declaredPrefix? q with
    | none => some scope
    | some declared =>
      if mayDeclare declared value then
        if declared = "xml" then some scope else some (scope.put declared value)
      else none) scope

/-- What a prefix stands for, if it is declared. -/
def Scope.namespace? (scope : Scope) (written : String) : Option (Option String) :=
  match scope.get? written with
  | some "" => some none
  | some space => some (some space)
  | none => if written.isEmpty then some none else none

def Scope.elementName? (scope : Scope) (q : QName) : Option Name :=
  (scope.namespace? (q.space.getD "")).map fun space => ⟨space, q.base⟩

/-- The name of an attribute; without a prefix it has no namespace. -/
def Scope.attributeName? (scope : Scope) (q : QName) : Option Name :=
  match q.space with
  | none => some ⟨none, q.base⟩
  | some p => (scope.namespace? p).map fun space => ⟨space, q.base⟩

/-- Whether an attribute may have its value: an identifier, between blanks, is a name without
colons. -/
def Attribute.isAllowed (a : Attribute) : Bool :=
  a.name ≠ ⟨some xmlNamespace, "id"⟩ ||
    match readPlainName? (skipBlanks a.value.toList) with
    | some (_, rest) => (skipBlanks rest).isEmpty
    | none => false

/-- Whether every member of a list occurs once. -/
def allDistinct [BEq α] : List α → Bool
  | [] => true
  | x :: xs => !xs.contains x && allDistinct xs

/-- The attributes of an element that declare no namespace, under their full names, which must be
distinct; their values must be allowed. -/
def Scope.attributes? (scope : Scope) (attributes : List (QName × String)) :
    Option (List Attribute) := do
  let proper := attributes.filter fun a => (declaredPrefix? a.1).isNone
  let named ← proper.mapM fun (q, value) => do
    return (⟨← scope.attributeName? q, value⟩ : Attribute)
  if allDistinct (named.map (·.name)) && named.all Attribute.isAllowed then pure named else none

end StringCatalog.Markup
