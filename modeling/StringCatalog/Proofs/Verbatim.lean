import StringCatalog.Proofs.Fillable

/-!
# StringCatalog.Proofs.Verbatim

Templates that say what they are meant to say.  A message is put together from
texts and references to arguments that are texts; with every percent sign of a
text doubled it becomes a template, and when this is filled, texts and arguments
come through as they are.

* `Fills` — what some characters become, wherever they stand in a template;
* `Fills.placeholder`, `Fills.text` — one placeholder and one text in front of
  what is filled;
* `fills_phrases` — all phrases of a message, by induction;
* `fill_templateOf` — so is the template of a message filled.
-/

namespace StringCatalog.Template

open Number

/-! ## Messages -/

/-- A phrase of a message: a text, a reference to the next argument, or a reference to the argument
of a number, which is counted from zero here and from one where it is written. -/
inductive Phrase where
  | text (s : String)
  | next
  | argument (i : Nat)
  deriving DecidableEq

/-- A text in a template: every percent sign is doubled. -/
def doubled (cs : List Char) : List Char :=
  cs.flatMap fun c => if c = '%' then ['%', '%'] else [c]

def Phrase.chars : Phrase → List Char
  | .text s => doubled s.toList
  | .next => ['%', 's']
  | .argument i => '%' :: (digitsOf (i + 1) ++ ['$', 's'])

def templateOf (phrases : List Phrase) : String := String.ofList (phrases.flatMap Phrase.chars)

def Phrase.nextAfter (next : Nat) : Phrase → Nat
  | .next => next + 1
  | _ => next

/-- What a phrase says; `next` is the number of the next argument. -/
def Phrase.said (args : List String) (next : Nat) : Phrase → String
  | .text s => s
  | .next => args.getD next ""
  | .argument i => args.getD i ""

/-- What the phrases of a message say one by one. -/
def saidFrom (args : List String) (next : Nat) : List Phrase → List String
  | [] => []
  | p :: phrases => p.said args next :: saidFrom args (p.nextAfter next) phrases

/-- What a message says. -/
def said (args : List String) (phrases : List Phrase) : String :=
  String.join (saidFrom args 0 phrases)

/-- Whether there are all arguments that a message refers to, in turn and by number. -/
structure Suffices (args : List String) (next : Nat) (phrases : List Phrase) : Prop where
  next : next + phrases.count .next ≤ args.length
  argument : ∀ i, .argument i ∈ phrases → i < args.length

/-- Arguments that suffice for some phrases suffice for those behind the first. -/
theorem Suffices.tail {args : List String} {next : Nat} {p : Phrase} {phrases : List Phrase}
    (h : Suffices args next (p :: phrases)) : Suffices args (p.nextAfter next) phrases where
  next := by
    have hnext := h.next
    rw [List.count_cons] at hnext
    cases p with
    | next => simpa [Phrase.nextAfter, Nat.add_right_comm, Nat.add_assoc] using hnext
    | text s => simpa [Phrase.nextAfter] using hnext
    | argument i => simpa [Phrase.nextAfter] using hnext
  argument := fun i hi => h.argument i (List.mem_cons_of_mem p hi)

/-! ## What characters become -/

variable {args : List Value} {next : Nat} {cs xs : List Char}

/-- Some characters become a text, wherever they stand in a template. -/
def Fills (args : List Value) (next : Nat) (cs xs : List Char) : Prop :=
  ∀ offset, fillPieces args next (piecesFrom offset 0 cs) = .ok xs

theorem fills_nil : Fills args next [] [] := fun _ => rfl

/-- A character that is no percent sign is put in front of both. -/
theorem Fills.literal {c : Char} (hc : c ≠ '%') (h : Fills args next cs xs) :
    Fills args next (c :: cs) (c :: xs) := by
  intro offset
  have hfill : (Piece.literal c).fill args next = .ok ([c], next) := rfl
  rw [piecesFrom_literal offset hc, fillPieces_cons_of_ok hfill]
  exact congrArg (Except.map ([c] ++ ·)) (h (offset + 1))

/-- A placeholder in front is filled, and what follows takes the arguments that are left. -/
theorem Fills.placeholder {p : Placeholder} (hlegible : p.Legible) {ys : List Char}
    (hfill : p.conversion.fill args next = .ok (ys, p.conversion.nextAfter next))
    (h : Fills args (p.conversion.nextAfter next) cs xs) :
    Fills args next (p.chars ++ cs) (ys ++ xs) := by
  intro offset
  have hpiece : (Piece.conversion p.conversion).fill args next =
      .ok (ys, p.conversion.nextAfter next) := hfill
  rw [piecesFrom_chars hlegible, fillPieces_cons_of_ok hpiece]
  exact congrArg (Except.map (ys ++ ·)) (h (offset + p.chars.length))

/-- A text in front comes through as it is, whatever its characters. -/
theorem Fills.text (h : Fills args next cs xs) (ts : List Char) :
    Fills args next (doubled ts ++ cs) (ts ++ xs) := by
  induction ts with
  | nil => exact h
  | cons c ts ih =>
      rw [doubled, List.flatMap_cons, List.append_assoc]
      by_cases hc : c = '%'
      · subst hc
        have hfill : Placeholder.literalPercent.conversion.fill args next =
            .ok (['%'], Placeholder.literalPercent.conversion.nextAfter next) := rfl
        have hpair : Fills args next (['%', '%'] ++ (doubled ts ++ cs)) (['%'] ++ (ts ++ xs)) :=
          Fills.placeholder Placeholder.legible_literalPercent hfill ih
        rw [if_pos rfl]
        exact hpair
      · rw [if_neg hc]
        exact Fills.literal hc ih

/-! ## References -/

/-- The placeholder of an argument that is a text. -/
def textPlaceholder (position : Option (List Char)) : Placeholder := ⟨position, 's'⟩

/-- A text is put in its place as it is. -/
theorem place_textPlaceholder (position : Option (List Char)) (s : String) :
    (textPlaceholder position).conversion.place (.text s) = .ok s.toList := by
  have hformat : format (textPlaceholder position).conversion (.text s) =
      .ok (formatText ⟨false, false, false, false, false, 0, none⟩ s.toList) := rfl
  have hhuge : (textPlaceholder position).conversion.isHuge = false := rfl
  rw [Conversion.place, hhuge, Bool.false_and, if_neg Bool.false_ne_true, Conversion.put, hformat]
  simp [formatText, Layout.fill]

theorem legible_textPlaceholder {position : Option (List Char)}
    (h : ∀ ds, position = some ds → Conversion.IsDigits ds) : (textPlaceholder position).Legible where
  position := h
  letter := (by decide : 's' ∈ placeholderLetters)

/-- A reference becomes the text that it refers to. -/
theorem Fills.argument {position : Option (List Char)}
    (hlegible : (textPlaceholder position).Legible) (hshort : (textPlaceholder position).IsShort)
    {texts : List String} {i : Nat} (hi : i < texts.length)
    (hreference : (textPlaceholder position).conversion.reference next = i)
    (h : Fills (texts.map .text) ((textPlaceholder position).conversion.nextAfter next) cs xs) :
    Fills (texts.map .text) next ((textPlaceholder position).chars ++ cs)
      ((texts.getD i "").toList ++ xs) := by
  refine Fills.placeholder hlegible ?_ h
  have hargument : argumentAt (texts.map .text) i = some (.text (texts.getD i "")) := by
    simp [argumentAt, hi]
  rw [Conversion.fill_of_not_overlong rfl (Placeholder.not_overlong hshort), hreference, hargument]
  dsimp only
  rw [place_textPlaceholder]
  rfl

/-- A number of an argument that there can be has no more digits than a number may have. -/
theorem isShort_digitsOf {i : Nat} (h : i < maxArguments) :
    (textPlaceholder (some (digitsOf (i + 1)))).IsShort := by
  have hlt : i + 1 < Nat.pow 10 19 := Nat.lt_of_le_of_lt h (by decide)
  have hlength : (digitsOf (i + 1)).length ≤ 19 := length_digitsOf_le (by decide) hlt
  exact Nat.le_trans hlength (by decide : 19 ≤ Value.maxDigits)

/-! ## All phrases -/

theorem chars_argument (i : Nat) :
    (Phrase.argument i).chars = (textPlaceholder (some (digitsOf (i + 1)))).chars := by
  simp [Phrase.chars, textPlaceholder, Placeholder.chars, positionChars]

/-- A phrase in front becomes what it says, and what follows takes the arguments that are left. -/
theorem Fills.phrase {texts : List String} (hlength : texts.length ≤ maxArguments) {p : Phrase}
    {phrases : List Phrase} (hsuffices : Suffices texts next (p :: phrases))
    (h : Fills (texts.map .text) (p.nextAfter next) cs xs) :
    Fills (texts.map .text) next (p.chars ++ cs) ((p.said texts next).toList ++ xs) := by
  cases p with
  | text s => exact Fills.text h s.toList
  | next =>
      have hi : next < texts.length := by
        have hnext := hsuffices.next
        rw [List.count_cons_self] at hnext
        omega
      have hlegible : (textPlaceholder none).Legible := legible_textPlaceholder nofun
      have hshort : (textPlaceholder none).IsShort := Nat.zero_le Value.maxDigits
      exact Fills.argument hlegible hshort hi rfl h
  | argument i =>
      have hi := hsuffices.argument i List.mem_cons_self
      have hlegible : (textPlaceholder (some (digitsOf (i + 1)))).Legible := by
        refine legible_textPlaceholder ?_
        rintro _ ⟨⟩
        exact isDigits_digitsOf _
      have hreference :
          (textPlaceholder (some (digitsOf (i + 1)))).conversion.reference next = i := by
        simp [Conversion.reference, Placeholder.conversion, textPlaceholder, countOf_digitsOf]
      rw [chars_argument]
      exact Fills.argument hlegible (isShort_digitsOf (by omega)) hi hreference h

/-- **The phrases of a message become what they say.** -/
theorem fills_phrases {texts : List String} (hlength : texts.length ≤ maxArguments)
    {phrases : List Phrase} (h : Suffices texts next phrases) :
    Fills (texts.map .text) next (phrases.flatMap Phrase.chars)
      ((saidFrom texts next phrases).flatMap String.toList) := by
  induction phrases generalizing next with
  | nil => exact fills_nil
  | cons p phrases ih =>
      rw [saidFrom, List.flatMap_cons, List.flatMap_cons]
      exact Fills.phrase hlength h (ih h.tail)

/-- **Texts and arguments come through as they are.**  When every percent sign of the texts of a
message is doubled and its references are written as placeholders, the template is filled with the
texts and the arguments one after the other; nothing of them is taken for a placeholder. -/
theorem fill_templateOf (phrases : List Phrase) (args : List String)
    (hlength : args.length ≤ maxArguments) (h : Suffices args 0 phrases) :
    fill (templateOf phrases) (args.map .text) = .ok (.filled (said args phrases)) ∧
      fillOrKeep (templateOf phrases) (args.map .text) = .ok (said args phrases) := by
  have hsaid : (said args phrases).toList = (saidFrom args 0 phrases).flatMap String.toList := by
    simp [said]
  have hfill : fill (templateOf phrases) (args.map .text) = .ok (.filled (said args phrases)) := by
    rw [fill_eq_filled_iff, hsaid, templateOf, String.toList_ofList]
    exact fills_phrases hlength h 0
  exact ⟨hfill, fillOrKeep_of_fill hfill⟩

theorem fill_templateOf_percents :
    ["%d", "100%%"].length ≤ maxArguments ∧
      Suffices ["%d", "100%%"] 0 [.text "%", .next, .text "1$s%", .argument 1, .next] ∧
      fill "%%%s1$s%%%2$s%s" [.text "%d", .text "100%%"] = .ok (.filled "%%d1$s%100%%100%%") ∧
      fillOrKeep "%%%s1$s%%%2$s%s" [.text "%d", .text "100%%"] = .ok "%%d1$s%100%%100%%" := by
  have hlength : ["%d", "100%%"].length ≤ maxArguments := by decide
  have hsuffices : Suffices ["%d", "100%%"] 0
      [.text "%", .next, .text "1$s%", .argument 1, .next] :=
    ⟨by decide, by simp⟩
  exact ⟨hlength, hsuffices, fill_templateOf _ _ hlength hsuffices⟩

end StringCatalog.Template
