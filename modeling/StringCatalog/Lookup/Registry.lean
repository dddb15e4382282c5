import StringCatalog.Value

/-!
# StringCatalog.Lookup.Registry

The locales of a compiled package: named members with a language code and two
names.  A member that repeats all values of an earlier one is another name of
that one and is not listed.
-/

namespace StringCatalog.Lookup

/-- What a member stands for; `token` tells members apart that agree otherwise. -/
structure MemberValue where
  token : String
  code : String
  displayName : String
  nativeName : String
  deriving DecidableEq, Repr

/-- Named members in order, further names included. -/
structure Registry where
  names : OrderedMap String MemberValue
  deriving Repr

namespace Registry

/-- Members in order, where a value that came before gives only a further name. -/
def membersOf : (seen : List MemberValue) → List (String × MemberValue) → List (String × MemberValue)
  | _, [] => []
  | seen, (name, v) :: rest =>
    if seen.contains v then membersOf seen rest else (name, v) :: membersOf (v :: seen) rest

/-- The members proper. -/
def members (r : Registry) : List (String × MemberValue) := membersOf [] r.names

def memberNamed? (r : Registry) (name : String) : Option (String × MemberValue) :=
  (r.names.get? name).bind fun v => r.members.find? fun m => m.2 = v

def displayNames (r : Registry) : OrderedMap String String :=
  OrderedMap.ofList (r.members.map fun m => (m.2.code, m.2.displayName))

def nativeNames (r : Registry) : OrderedMap String String :=
  OrderedMap.ofList (r.members.map fun m => (m.2.code, m.2.nativeName))

/-- The name of the member that stands in for unknown codes. -/
def fallbackName : String := "DEFAULT"

/-- The first member of a code, or else the fallback member, if there is one. -/
def findByCode (r : Registry) (code : Value) : Option String :=
  match r.members.find? fun m => Value.text m.2.code == code with
  | some m => some m.1
  | none => (r.memberNamed? fallbackName).map (·.1)

end Registry

end StringCatalog.Lookup
