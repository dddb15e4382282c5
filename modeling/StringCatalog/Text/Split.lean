/-!
# StringCatalog.Text.Split

Cutting a text at every occurrence of a character.
-/

namespace StringCatalog.Text

/-- The pieces between the occurrences of a character; there is always at least one. -/
def splitChars (sep : Char) : List Char → List (List Char)
  | [] => [[]]
  | c :: cs =>
    if c = sep then [] :: splitChars sep cs
    else
      match splitChars sep cs with
      | [] => [[c]]
      | piece :: pieces => (c :: piece) :: pieces

def splitText (sep : Char) (s : String) : List String :=
  (splitChars sep s.toList).map String.ofList

end StringCatalog.Text
