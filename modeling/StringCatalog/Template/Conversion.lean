import StringCatalog.Template.Position

/-!
# StringCatalog.Template.Conversion

The conversions of a template: a percent sign, the position of an argument,
flags, a width, a precision and a letter, of which only the first and the last
must be there.

* `Conversion.eq_of_read?` — a conversion is read as it is written;
* `pieces` — a template as literal characters and conversions.
-/

namespace StringCatalog.Template

/-- A conversion as it is written; an empty width is a missing one. -/
structure Conversion where
  position : Option (List Char)
  flags : List Char
  width : List Char
  precision : Option (List Char)
  letter : Char
  deriving DecidableEq, Repr

def isFlag (c : Char) : Bool := ['-', '#', '+', ' ', '0'].contains c

/-- Whether a character may end a conversion. -/
def isConversionLetter (c : Char) : Bool := c.isAlpha || c = '%'

namespace Conversion

/-- A precision that may be missing, as it is written. -/
def precisionChars : Option (List Char) → List Char
  | none => []
  | some ds => '.' :: ds

def chars (c : Conversion) : List Char :=
  '%' :: positionChars c.position ++ c.flags ++ c.width ++ precisionChars c.precision ++ [c.letter]

/-- A point with digits and what follows them; a point without digits is no precision. -/
def readPrecision (cs : List Char) : Option (List Char) × List Char :=
  match cs with
  | '.' :: rest =>
    match rest.takeWhile Char.isDigit with
    | [] => (none, cs)
    | ds => (some ds, rest.dropWhile Char.isDigit)
  | _ => (none, cs)

/-- The conversion whose percent sign precedes these characters, and what follows it. -/
def read? (cs : List Char) : Option (Conversion × List Char) :=
  let (position, afterPosition) := match readPosition? cs with
    | some (ds, rest) => (some ds, rest)
    | none => (none, cs)
  let flags := afterPosition.takeWhile isFlag
  let afterFlags := afterPosition.dropWhile isFlag
  let width := afterFlags.takeWhile Char.isDigit
  let (precision, rest) := readPrecision (afterFlags.dropWhile Char.isDigit)
  match rest with
  | c :: rest =>
    if isConversionLetter c then some (⟨position, flags, width, precision, c⟩, rest) else none
  | [] => none

/-- What is read is the precision and the rest. -/
theorem eq_of_readPrecision (cs : List Char) :
    cs = precisionChars (readPrecision cs).1 ++ (readPrecision cs).2 := by
  unfold readPrecision
  split
  · next rest =>
    split
    · simp [precisionChars]
    · next h => simp [precisionChars, List.takeWhile_append_dropWhile]
  · simp [precisionChars]

/-- What is read is the conversion and the rest. -/
theorem eq_of_read? {cs : List Char} {c : Conversion} {rest : List Char}
    (h : read? cs = some (c, rest)) : '%' :: cs = c.chars ++ rest := by
  have flagged : ∀ xs : List Char,
      xs.takeWhile isFlag ++ ((xs.dropWhile isFlag).takeWhile Char.isDigit ++
        (precisionChars (readPrecision ((xs.dropWhile isFlag).dropWhile Char.isDigit)).1 ++
          (readPrecision ((xs.dropWhile isFlag).dropWhile Char.isDigit)).2)) = xs := by
    intro xs
    rw [← eq_of_readPrecision, List.takeWhile_append_dropWhile, List.takeWhile_append_dropWhile]
  unfold read? at h
  cases hp : readPosition? cs with
  | none =>
    rw [hp] at h
    simp only at h
    split at h
    · next d after hr =>
      split at h
      · cases h
        have := flagged cs
        rw [hr] at this
        simp only [chars, positionChars, List.append_assoc, List.cons_append, List.nil_append]
        rw [this]
      · cases h
    · cases h
  | some found =>
    obtain ⟨ds, start⟩ := found
    rw [hp] at h
    simp only at h
    split at h
    · next d after hr =>
      split at h
      · cases h
        have := flagged start
        rw [hr] at this
        rw [eq_of_readPosition? hp]
        simp only [chars, positionChars, List.append_assoc, List.cons_append, List.nil_append]
        rw [this]
      · cases h
    · cases h

/-- Whether a conversion takes an argument; a percent sign and a newline take none. -/
def takesArgument (c : Conversion) : Bool := c.letter ≠ '%' && c.letter ≠ 'n'

end Conversion

/-! ## The scan -/

/-- A part of a template.  Nothing follows a percent sign that starts no conversion. -/
inductive Piece where
  | literal (c : Char)
  | conversion (c : Conversion)
  | dangling (offset : Nat)
  deriving DecidableEq, Repr

/-- The pieces of a template from `offset` on, after passing over `skip` characters. -/
def piecesFrom (offset : Nat) : (skip : Nat) → List Char → List Piece
  | _, [] => []
  | skip + 1, _ :: rest => piecesFrom (offset + 1) skip rest
  | 0, c :: rest =>
    if c = '%' then
      match Conversion.read? rest with
      | some (v, _) => .conversion v :: piecesFrom (offset + 1) (v.chars.length - 1) rest
      | none => [.dangling offset]
    else .literal c :: piecesFrom (offset + 1) 0 rest

def pieces (cs : List Char) : List Piece := piecesFrom 0 0 cs

end StringCatalog.Template
