import StringCatalog.Proofs.Outcomes
import StringCatalog.Proofs.Scanning

/-!
# StringCatalog.Proofs.Filling

Where the filling of a template breaks off.  An argument that is missing or does
not fit leaves the template as it is; two things are not met so: a position of
too many digits, and a width for which there is no room.

* `Conversion.fill_eq_fault_iff` — when one conversion breaks the filling off;
* `fillPieces_eq_fault_iff` — pieces break off at the first conversion that does
  if all pieces before it were filled;
* `fill_eq_error_iff`, `fillOrKeep_eq_error_iff` — so does a template (`Faults`);
* `Tame.not_faults`, `faults_positioned` — templates that never break off, and
  some that always do.
-/

namespace StringCatalog.Template

variable {args : List Value} {next : Nat} {f : Fault}

/-! ## One conversion -/

namespace Conversion

variable {c : Conversion} {v : Value}

/-- The argument that a conversion takes, if there is one. -/
def Takes (args : List Value) (next : Nat) (c : Conversion) (v : Value) : Prop :=
  ∃ i next', c.select next = .ok (some i, next') ∧ args[i]? = some v

/-- Whether the position of a conversion has too many digits for a number. -/
def Overlong (c : Conversion) (digits : Nat) : Prop :=
  Value.maxDigits < digits ∧ ∃ ds, c.position = some ds ∧ ds.length = digits

/-- Whether a conversion asks for more room than there is. -/
def Huge (c : Conversion) : Prop := ∃ l, c.layout = .ok l ∧ memoryLimit < l.width

/-- Whether a conversion has a form for a value, but no room for it. -/
def LacksRoom (c : Conversion) (v : Value) : Prop :=
  c.Huge ∧ ∃ cs, format {c with width := []} v = .ok cs

/-- The test for a width that leaves no room is what it is called. -/
theorem isHuge_eq_true_iff : c.isHuge = true ↔ c.Huge := by
  unfold isHuge Huge
  split
  · next l hl => simp [hl]
  · next r hr => simp [hr]

/-- What breaks the filling off at a conversion that takes an argument. -/
inductive BreaksOff (args : List Value) (next : Nat) (c : Conversion) : Fault → Prop where
  | position {digits : Nat} (htakes : c.takesArgument = true) (h : c.Overlong digits) :
      BreaksOff args next c (.positionTooLong digits)
  | room {v : Value} (htakes : c.takesArgument = true) (hargument : c.Takes args next v)
      (h : c.LacksRoom v) : BreaksOff args next c .outOfMemory

/-- Selecting an argument fails only on a position with too many digits. -/
theorem select_eq_error_iff {e : Stop} :
    c.select next = .error e ↔ ∃ digits, c.Overlong digits ∧ e = .fault (.positionTooLong digits) := by
  unfold select
  constructor
  · intro h
    split at h
    · cases h
    · next ds hposition =>
      split at h
      · next hlength =>
        cases h
        exact ⟨_, ⟨hlength, ds, hposition, rfl⟩, rfl⟩
      · cases h
  · rintro ⟨digits, ⟨hlength, ds, hposition, rfl⟩, rfl⟩
    rw [hposition]
    exact if_pos hlength

/-- A conversion takes the argument that its selection names. -/
theorem takes_iff {index : Option Nat} {next' : Nat} (h : c.select next = .ok (index, next')) :
    c.Takes args next v ↔ index.bind (args[·]?) = some v := by
  unfold Takes
  rw [h]
  cases index <;> simp

/-- Putting in a value may leave a template unfilled, but does not break off. -/
theorem ne_fault_of_put_eq_error {e : Stop} (h : c.put v = .error e) : e ≠ .fault f := by
  unfold put at h
  split at h <;> cases h
  nofun

/-- Percent signs and line feeds take no argument, all other conversions do. -/
theorem takesArgument_eq_true_iff : c.takesArgument = true ↔ c.letter ≠ '%' ∧ c.letter ≠ 'n' := by
  simp [takesArgument]

/-- A conversion that takes no argument is always filled, in the same way. -/
theorem fill_of_not_takesArgument (args : List Value) (next : Nat) (h : c.takesArgument = false) :
    c.fill args next = .ok ([if c.letter = '%' then '%' else '\n'], next) := by
  unfold fill
  by_cases hpercent : c.letter = '%'
  · rw [if_pos hpercent, if_pos hpercent]
  · have hline : c.letter = 'n' := by simpa [takesArgument, hpercent] using h
    rw [if_neg hpercent, if_neg hpercent, if_pos hline]

/-- What a value becomes in place of a conversion, if there is room for it. -/
def place (c : Conversion) (v : Value) : Except Stop (List Char) :=
  if c.isHuge && (match format {c with width := []} v with | .ok _ => true | _ => false) then
    .error (.fault .outOfMemory)
  else c.put v

/-- A conversion selects an argument and puts it in its place. -/
theorem fill_of_takesArgument (args : List Value) (next : Nat) (h : c.takesArgument = true) :
    c.fill args next = (c.select next).bind fun s =>
      match s.1.bind (args[·]?) with
      | none => .error (.unfilled (.noArgument c))
      | some v => (c.place v).map (·, s.2) := by
  obtain ⟨hpercent, hline⟩ := takesArgument_eq_true_iff.1 h
  rw [fill, if_neg hpercent, if_neg hline]
  cases c.select next with
  | error e => rfl
  | ok s =>
      simp only [Except.bind]
      cases s.1.bind (args[·]?) with
      | none => rfl
      | some v =>
          dsimp only [place]
          cases c.isHuge <;> cases format {c with width := []} v <;> cases c.put v <;> rfl

/-- A value finds no place only where there is no room for it. -/
theorem place_eq_fault_iff : c.place v = .error (.fault f) ↔ c.LacksRoom v ∧ f = .outOfMemory := by
  have hput : c.put v ≠ .error (.fault f) := fun h => ne_fault_of_put_eq_error h rfl
  rw [place, LacksRoom, ← isHuge_eq_true_iff]
  cases c.isHuge with
  | false => simpa using hput
  | true => cases format {c with width := []} v with
    | error r => simpa using hput
    | ok cs => simp [eq_comm]

/-- Filling a conversion breaks off exactly for the reasons listed. -/
theorem fill_eq_fault_iff : c.fill args next = .error (.fault f) ↔ BreaksOff args next c f := by
  cases htakes : c.takesArgument with
  | false =>
      rw [fill_of_not_takesArgument args next htakes]
      refine iff_of_false nofun fun h => ?_
      cases h <;> simp_all
  | true =>
      rw [fill_of_takesArgument args next htakes]
      constructor
      · intro h
        rcases bind_eq_error_iff.1 h with hselect | ⟨⟨index, next'⟩, hselect, hplace⟩
        · obtain ⟨digits, hoverlong, heq⟩ := select_eq_error_iff.1 hselect
          cases heq
          exact .position htakes hoverlong
        · split at hplace
          · cases hplace
          · next v hv =>
            obtain ⟨hroom, rfl⟩ := place_eq_fault_iff.1 (map_eq_error_iff.1 hplace)
            exact .room htakes ((takes_iff hselect).2 hv) hroom
      · rintro (⟨-, hoverlong⟩ | ⟨-, hargument, hroom⟩)
        · rw [select_eq_error_iff.2 ⟨_, hoverlong, rfl⟩]
          rfl
        · obtain ⟨i, next', hselect, hv⟩ := hargument
          rw [hselect]
          simp only [Except.bind, Option.bind_some, hv]
          rw [place_eq_fault_iff.2 ⟨hroom, rfl⟩]
          rfl

/-- The number of the next argument after a conversion. -/
def nextAfter (next : Nat) (c : Conversion) : Nat :=
  if c.takesArgument && c.position.isNone then next + 1 else next

/-- Only a selection without a position moves on to the next argument. -/
theorem next_of_select_eq_ok {index : Option Nat} {next' : Nat}
    (h : c.select next = .ok (index, next')) :
    next' = if c.position.isNone then next + 1 else next := by
  unfold select at h
  split at h
  · next hposition =>
    cases h
    simp [hposition]
  · next ds hposition =>
    split at h <;> cases h
    simp [hposition]

/-- After a conversion was filled, the next argument is the one that its shape says. -/
theorem next_of_fill_eq_ok {cs : List Char} {next' : Nat} (h : c.fill args next = .ok (cs, next')) :
    next' = c.nextAfter next := by
  unfold nextAfter
  cases htakes : c.takesArgument with
  | false =>
      rw [fill_of_not_takesArgument args next htakes] at h
      cases h
      rfl
  | true =>
      rw [fill_of_takesArgument args next htakes] at h
      obtain ⟨⟨index, next''⟩, hselect, h⟩ := bind_eq_ok h
      split at h
      · cases h
      · obtain ⟨_, -, heq⟩ := map_eq_ok h
        cases heq
        exact next_of_select_eq_ok hselect

end Conversion

/-! ## Pieces -/

namespace Piece

/-- What stands in place of one piece, and the number of the next argument. -/
def fill (args : List Value) (next : Nat) : Piece → Except Stop (List Char × Nat)
  | .literal a => .ok ([a], next)
  | .dangling offset => .error (.unfilled (.dangling offset))
  | .conversion c => c.fill args next

def nextAfter (next : Nat) : Piece → Nat
  | .conversion c => c.nextAfter next
  | _ => next

theorem next_of_fill_eq_ok {p : Piece} {r : List Char × Nat} (h : p.fill args next = .ok r) :
    r.2 = p.nextAfter next := by
  cases p with
  | literal a =>
      cases h
      rfl
  | dangling offset => cases h
  | conversion c => exact Conversion.next_of_fill_eq_ok h

theorem fill_eq_fault_iff {p : Piece} :
    p.fill args next = .error (.fault f) ↔ ∃ c, p = .conversion c ∧ c.BreaksOff args next f := by
  cases p with
  | literal a => simp [fill]
  | dangling offset => simp [fill]
  | conversion c => simp [fill, Conversion.fill_eq_fault_iff]

end Piece

/-- Where the first piece can be filled, its text comes before that of the others. -/
theorem fillPieces_cons_of_ok {p : Piece} {r : List Char × Nat} {ps : List Piece}
    (h : p.fill args next = .ok r) :
    fillPieces args next (p :: ps) = (fillPieces args (p.nextAfter next) ps).map (r.1 ++ ·) := by
  rw [← Piece.next_of_fill_eq_ok h]
  cases p with
  | literal a =>
      cases h
      rw [fillPieces]
      cases fillPieces args next ps <;> rfl
  | dangling offset => cases h
  | conversion c =>
      have hfill : c.fill args next = .ok r := h
      simp only [fillPieces, hfill]
      cases fillPieces args r.2 ps <;> rfl

/-- Where it cannot, the others are not looked at. -/
theorem fillPieces_cons_of_error {p : Piece} {e : Stop} (h : p.fill args next = .error e)
    (ps : List Piece) : fillPieces args next (p :: ps) = .error e := by
  cases p with
  | literal a => cases h
  | dangling offset =>
      cases h
      rfl
  | conversion c =>
      have hfill : c.fill args next = .error e := h
      simp only [fillPieces, hfill]

def nextAfter (next : Nat) (ps : List Piece) : Nat := ps.foldl Piece.nextAfter next

/-- Whether filling pieces reaches a conversion, all before it being filled, and breaks off there. -/
def BreaksOffIn (args : List Value) (next : Nat) (ps : List Piece) (f : Fault) : Prop :=
  ∃ before c after, ps = before ++ .conversion c :: after ∧
    (∃ cs, fillPieces args next before = .ok cs) ∧ c.BreaksOff args (nextAfter next before) f

/-- Filling pieces breaks off at the first conversion that breaks it off. -/
theorem fillPieces_eq_fault_iff {ps : List Piece} :
    fillPieces args next ps = .error (.fault f) ↔ BreaksOffIn args next ps f := by
  induction ps generalizing next with
  | nil =>
      refine iff_of_false nofun ?_
      rintro ⟨before, c, after, h, -, -⟩
      cases before <;> cases h
  | cons p ps ih =>
      cases hp : p.fill args next with
      | error e =>
          -- nothing after the piece is reached
          have hhead : e = .fault f ↔ ∃ c, p = .conversion c ∧ c.BreaksOff args next f := by
            rw [← Piece.fill_eq_fault_iff, hp, Except.error.injEq]
          rw [fillPieces_cons_of_error hp, Except.error.injEq, hhead]
          constructor
          · rintro ⟨c, rfl, hc⟩
            exact ⟨[], c, ps, rfl, ⟨[], rfl⟩, hc⟩
          · rintro ⟨before, c, after, heq, ⟨cs, hcs⟩, hc⟩
            cases before with
            | nil =>
                cases heq
                exact ⟨c, rfl, hc⟩
            | cons _ before =>
                cases heq
                rw [fillPieces_cons_of_error hp] at hcs
                cases hcs
      | ok r =>
          rw [fillPieces_cons_of_ok hp, map_eq_error_iff, ih]
          constructor
          · rintro ⟨before, c, after, rfl, ⟨cs, hcs⟩, hc⟩
            refine ⟨p :: before, c, after, rfl, ⟨r.1 ++ cs, ?_⟩, hc⟩
            rw [fillPieces_cons_of_ok hp, hcs]
            rfl
          · rintro ⟨before, c, after, heq, ⟨cs, hcs⟩, hc⟩
            cases before with
            | nil =>
                cases heq
                have hfault : (Piece.conversion c).fill args next = .error (.fault f) :=
                  Piece.fill_eq_fault_iff.2 ⟨c, rfl, hc⟩
                rw [hfault] at hp
                cases hp
            | cons _ before =>
                cases heq
                rw [fillPieces_cons_of_ok hp] at hcs
                obtain ⟨cs, hcs, -⟩ := map_eq_ok hcs
                exact ⟨before, c, after, rfl, ⟨cs, hcs⟩, hc⟩

/-! ## Templates -/

/-- Whether filling a template breaks off. -/
def Faults (template : String) (args : List Value) (f : Fault) : Prop :=
  BreaksOffIn args 0 (pieces template.toList) f

/-- **Filling breaks off** exactly for the reasons listed. -/
theorem fill_eq_error_iff {template : String} : fill template args = .error f ↔ Faults template args f := by
  rw [Faults, ← fillPieces_eq_fault_iff, fill]
  split <;> simp_all

/-- The text that comes of a template, which stays as it is where it was not filled. -/
def Outcome.textOr (template : String) : Outcome → String
  | .filled t => t
  | .unfilled _ => template

/-- Where filling has an outcome, the text is that of the outcome, or the template. -/
theorem fillOrKeep_of_fill {template : String} {outcome : Outcome}
    (h : fill template args = .ok outcome) :
    fillOrKeep template args = .ok (outcome.textOr template) := by
  rw [fillOrKeep, h]
  rfl

/-- Whether no conversion of a template has a long position or asks for more room than there is. -/
def Tame (template : String) : Prop :=
  ∀ c, .conversion c ∈ pieces template.toList → c.takesArgument = true →
    (∀ digits, ¬ c.Overlong digits) ∧ ¬ c.Huge

/-- Digits before a dollar sign are read as a position. -/
theorem readPosition?_append {ds : List Char} (hne : ds ≠ []) (h : ∀ d ∈ ds, d.isDigit = true)
    (rest : List Char) : readPosition? (ds ++ '$' :: rest) = some (ds, rest) := by
  obtain ⟨d, ds, rfl⟩ := List.exists_cons_of_ne_nil hne
  unfold readPosition?
  rw [List.takeWhile_append_of_pos h, List.dropWhile_append_of_pos h,
    List.takeWhile_cons_of_neg (by decide), List.dropWhile_cons_of_neg (by decide), List.append_nil]
  rfl

end StringCatalog.Template
