import StringCatalog.Proofs.Conversions

/-!
# StringCatalog.Proofs.Appending

Templates are filled from left to right, and what is behind has no influence on
what is before: an outcome of a template is carried on by the text that is put
behind it, with the number of the next argument and the offset reached so far.
Only a percent sign that starts no conversion is different, as more characters
can make a conversion of it.

* `piecesFrom_shift` — a scan from a later offset moves the offset it tells;
* `fillPieces_append` — the pieces of a longer template, one part after the other;
* `fill_append` — so are templates filled.
-/

namespace StringCatalog.Template

variable {args : List Value} {next : Nat}

/-! ## A template as a continuation -/

/-- What comes of some pieces, filled or not. -/
def outcomeOf : Except Stop (List Char) → Except Fault Outcome
  | .ok cs => .ok (.filled (String.ofList cs))
  | .error (.unfilled r) => .ok (.unfilled r)
  | .error (.fault f) => .error f

/-- Fills a template whose conversions without a position take the arguments from `next` on. -/
def fillFrom (next : Nat) (template : String) (args : List Value) : Except Fault Outcome :=
  outcomeOf (fillPieces args next (pieces template.toList))

/-- To fill a template is to fill it from the first argument on. -/
theorem fill_eq_fillFrom (template : String) (args : List Value) :
    fill template args = fillFrom 0 template args := by
  unfold fill fillFrom outcomeOf
  split <;> simp_all

/-- Whether a piece is a conversion that takes an argument and names no position. -/
def Piece.isUnindexed : Piece → Bool
  | .conversion c => c.takesArgument && c.position.isNone
  | _ => false

/-- How many conversions of a template take an argument and name no position. -/
def unindexed (template : String) : Nat := (pieces template.toList).countP Piece.isUnindexed

/-- The next argument after some pieces: one further for each of them that takes one without a
position. -/
theorem nextAfter_eq (next : Nat) (ps : List Piece) :
    nextAfter next ps = next + ps.countP Piece.isUnindexed := by
  induction ps generalizing next with
  | nil => rfl
  | cons p ps ih =>
      have hstep : p.nextAfter next = next + if p.isUnindexed then 1 else 0 := by
        cases p with
        | conversion c =>
            simp only [Piece.nextAfter, Conversion.nextAfter, Piece.isUnindexed]
            split <;> simp_all
        | literal c => simp [Piece.nextAfter, Piece.isUnindexed]
        | dangling o => simp [Piece.nextAfter, Piece.isUnindexed]
      show nextAfter (p.nextAfter next) ps = _
      rw [ih, hstep, List.countP_cons]
      omega

/-! ## Later offsets -/

/-- The same reason `n` characters later. -/
def Reason.shift (n : Nat) : Reason → Reason
  | .dangling offset => .dangling (n + offset)
  | r => r

/-- The same stop `n` characters later. -/
def Stop.shift (n : Nat) : Stop → Stop
  | .unfilled r => .unfilled (r.shift n)
  | .fault f => .fault f

/-- The same piece `n` characters later. -/
def Piece.shift (n : Nat) : Piece → Piece
  | .dangling offset => .dangling (n + offset)
  | p => p

/-- Further along in a template, the pieces of a text are the same but for their offsets. -/
theorem piecesFrom_shift (n offset skip : Nat) (cs : List Char) :
    piecesFrom (n + offset) skip cs = (piecesFrom offset skip cs).map (Piece.shift n) := by
  induction cs generalizing offset skip with
  | nil => cases skip <;> rfl
  | cons c cs ih =>
      cases skip with
      | succ skip => exact ih (offset + 1) skip
      | zero =>
          simp only [piecesFrom]
          by_cases hc : c = '%'
          · simp only [if_pos hc]
            cases Conversion.read? cs with
            | none => rfl
            | some found => simp [Nat.add_assoc, ih, Piece.shift]
          · simp [if_neg hc, Nat.add_assoc, ih, Piece.shift]

/-- No conversion tells an offset. -/
theorem Conversion.shift_of_fill_eq_error {c : Conversion} {e : Stop}
    (h : c.fill args next = .error e) (n : Nat) : e.shift n = e := by
  cases htakes : c.takesArgument with
  | false =>
      rw [Conversion.fill_of_not_takesArgument args next htakes] at h
      cases h
  | true =>
      rw [Conversion.fill_of_takesArgument args next htakes] at h
      cases hselect : c.select next with
      | error e' =>
          rw [hselect] at h
          cases h
          obtain ⟨digits, -, rfl⟩ := Conversion.select_eq_error_iff.1 hselect
          rfl
      | ok s =>
          rw [hselect] at h
          simp only [Except.bind] at h
          split at h
          · cases h
            rfl
          · rw [map_eq_error_iff] at h
            unfold Conversion.place Conversion.put at h
            grind [Stop.shift, Reason.shift]

/-- Pieces further along are filled alike and stop further along. -/
theorem fillPieces_shift (n : Nat) (ps : List Piece) :
    fillPieces args next (ps.map (Piece.shift n)) =
      (fillPieces args next ps).mapError (Stop.shift n) := by
  induction ps generalizing next with
  | nil => rfl
  | cons p ps ih =>
      cases p with
      | dangling offset => rfl
      | literal c =>
          simp only [List.map_cons, Piece.shift, fillPieces, ih]
          cases fillPieces args next ps <;> rfl
      | conversion c =>
          simp only [List.map_cons, Piece.shift, fillPieces]
          cases hc : c.fill args next with
          | error e => exact congrArg Except.error (Conversion.shift_of_fill_eq_error hc n).symm
          | ok r =>
              simp only [ih]
              cases fillPieces args r.2 ps <;> rfl

/-! ## One part after the other -/

/-- Some pieces and then others, which take the arguments that are left. -/
def fillBoth (args : List Value) (next : Nat) (ps qs : List Piece) : Except Stop (List Char) :=
  (fillPieces args next ps).bind fun xs =>
    (fillPieces args (nextAfter next ps) qs).map (xs ++ ·)

/-- Where the first piece can be filled, its text comes before that of the others. -/
theorem fillBoth_cons_of_ok {p : Piece} {r : List Char × Nat} (h : p.fill args next = .ok r)
    (ps qs : List Piece) :
    fillBoth args next (p :: ps) qs = (fillBoth args (p.nextAfter next) ps qs).map (r.1 ++ ·) := by
  have hnext : nextAfter next (p :: ps) = nextAfter (p.nextAfter next) ps := rfl
  rw [fillBoth, fillBoth, fillPieces_cons_of_ok h, hnext]
  cases fillPieces args (p.nextAfter next) ps with
  | error e => rfl
  | ok xs =>
      cases fillPieces args (nextAfter (p.nextAfter next) ps) qs <;>
        simp [Except.map, Except.bind]

/-- Whether filling stops at a percent sign that starts no conversion. -/
def Dangles (args : List Value) (next : Nat) (ps : List Piece) : Prop :=
  ∃ offset, fillPieces args next ps = .error (.unfilled (.dangling offset))

/-- One step of the induction: after a first piece that does not dangle, what holds of the rest
holds of all. -/
theorem fillPieces_cons {p : Piece} {ps qs rest : List Piece}
    (h : ¬ Dangles args next (p :: ps))
    (ih : ¬ Dangles args (p.nextAfter next) ps →
      fillPieces args (p.nextAfter next) rest = fillBoth args (p.nextAfter next) ps qs) :
    fillPieces args next (p :: rest) = fillBoth args next (p :: ps) qs := by
  cases hp : p.fill args next with
  | error e =>
      rw [fillPieces_cons_of_error hp, fillBoth, fillPieces_cons_of_error hp]
      rfl
  | ok r =>
      have hps : ¬ Dangles args (p.nextAfter next) ps := by
        rintro ⟨offset, heq⟩
        exact h ⟨offset, by rw [fillPieces_cons_of_ok hp, heq]; rfl⟩
      rw [fillPieces_cons_of_ok hp, ih hps, fillBoth_cons_of_ok hp]

/-- **The pieces of a longer template** are filled one part after the other, unless the first part
stops at a percent sign that starts no conversion. -/
theorem fillPieces_append (offset : Nat) (cs : List Char)
    (h : ¬ Dangles args next (piecesFrom offset 0 cs)) (more : List Char) :
    fillPieces args next (piecesFrom offset 0 (cs ++ more)) =
      fillBoth args next (piecesFrom offset 0 cs) (piecesFrom (offset + cs.length) 0 more) := by
  induction cs using scan_induction generalizing offset next with
  | nil =>
      show fillPieces args next (piecesFrom offset 0 more) =
        (fillPieces args next (piecesFrom offset 0 more)).map ([] ++ ·)
      cases fillPieces args next (piecesFrom offset 0 more) <;> rfl
  | @literal c cs hc ih =>
      rw [piecesFrom_literal offset hc] at h
      rw [List.cons_append, piecesFrom_literal offset hc, piecesFrom_literal offset hc]
      refine fillPieces_cons h fun hcs => ?_
      rw [ih (offset + 1) hcs, List.length_cons, Nat.add_assoc, Nat.add_comm 1]
  | dangling hv =>
      rw [piecesFrom_dangling offset hv] at h
      exact absurd ⟨offset, rfl⟩ h
  | @conversion v cs rest hv ih =>
      have hlength : ('%' :: cs).length = v.chars.length + rest.length := by
        rw [Conversion.eq_of_read? hv, List.length_append]
      rw [piecesFrom_conversion offset hv] at h
      rw [List.cons_append, piecesFrom_conversion offset (Conversion.read?_append hv more),
        piecesFrom_conversion offset hv]
      refine fillPieces_cons h fun hrest => ?_
      rw [ih (offset + v.chars.length) hrest, hlength, Nat.add_assoc]

/-! ## Templates -/

/-- The outcome of what is put behind a template of some length that was filled with `text`, as
the outcome of the whole. -/
def Outcome.after (text : String) (length : Nat) : Outcome → Outcome
  | .filled t => .filled (text ++ t)
  | .unfilled r => .unfilled (r.shift length)

/-- The outcome with a text before it and its offsets further along. -/
theorem outcomeOf_after (xs : List Char) (n : Nat) (x : Except Stop (List Char)) :
    outcomeOf ((x.mapError (Stop.shift n)).map (xs ++ ·)) =
      (outcomeOf x).map (Outcome.after (String.ofList xs) n) := by
  rcases x with (r | f) | ys
  · rfl
  · rfl
  · show outcomeOf (.ok (xs ++ ys)) = _
    simp [Except.map, outcomeOf, Outcome.after, String.ofList_append]

/-- What comes of a template with another one behind it, when the first one does not end within a
conversion. -/
theorem fill_append_of_ne_dangling {t : String}
    (h : ∀ offset, fill t args ≠ .ok (.unfilled (.dangling offset))) (u : String) :
    fill (t ++ u) args = (fill t args).bind fun
      | .filled x => (fillFrom (unindexed t) u args).map (Outcome.after x t.length)
      | .unfilled r => .ok (.unfilled r) := by
  have hdangles : ¬ Dangles args 0 (pieces t.toList) := by
    rintro ⟨offset, heq⟩
    apply h offset
    rw [fill_eq_fillFrom, fillFrom, heq]
    rfl
  have hnext : nextAfter 0 (pieces t.toList) = unindexed t := by
    rw [nextAfter_eq, Nat.zero_add, unindexed]
  have hrest : piecesFrom (0 + t.toList.length) 0 u.toList =
      (pieces u.toList).map (Piece.shift t.length) := by
    rw [Nat.zero_add, String.length_toList]
    exact piecesFrom_shift t.length 0 0 u.toList
  have hboth : fillPieces args 0 (pieces (t ++ u).toList) =
      fillBoth args 0 (pieces t.toList) ((pieces u.toList).map (Piece.shift t.length)) := by
    rw [← hrest, String.toList_append]
    exact fillPieces_append 0 _ hdangles _
  rw [fill_eq_fillFrom, fill_eq_fillFrom, fillFrom, fillFrom, hboth, fillBoth, hnext]
  rcases fillPieces args 0 (pieces t.toList) with (r | f) | xs
  · rfl
  · rfl
  · show outcomeOf ((fillPieces args (unindexed t) _).map (xs ++ ·)) = _
    rw [fillPieces_shift, outcomeOf_after]
    rfl

/-- **A template is filled from left to right.**  When it was filled, what is put behind it is filled
with the arguments that are left, its text comes after the first one and its reason is that of the
whole, at a later offset; when it was not filled, or the work on it broke off, nothing that is put
behind it matters, unless it ended within a conversion. -/
theorem fill_append (t u : String) (args : List Value) :
    (∀ x, fill t args = .ok (.filled x) →
      fill (t ++ u) args = (fillFrom (unindexed t) u args).map (Outcome.after x t.length)) ∧
    (∀ r, fill t args = .ok (.unfilled r) → (∀ offset, r ≠ .dangling offset) →
      fill (t ++ u) args = .ok (.unfilled r)) ∧
    ∀ f, fill t args = .error f → fill (t ++ u) args = .error f := by
  refine ⟨fun x h => ?_, fun r h hne => ?_, fun f h => ?_⟩
  · rw [fill_append_of_ne_dangling (by simp [h]), h]
    rfl
  · rw [fill_append_of_ne_dangling (by simpa [h] using hne), h]
    rfl
  · rw [fill_append_of_ne_dangling (by simp [h]), h]
    rfl

theorem fill_append_two_parts :
    fill "%s has %2$d, " [.text "Ada", .int 5] = .ok (.filled "Ada has 5, ") ∧
      fill ("%s has %2$d, " ++ "%d left") [.text "Ada", .int 5] =
        .ok (.filled "Ada has 5, 5 left") ∧
      fill ("%s has %2$d, " ++ "50%") [.text "Ada", .int 5] =
        .ok (.unfilled (.dangling 15)) := by
  have hfill : fill "%s has %2$d, " [.text "Ada", .int 5] = .ok (.filled "Ada has 5, ") := rfl
  exact ⟨hfill, ((fill_append _ "%d left" _).1 _ hfill).trans rfl,
    ((fill_append _ "50%" _).1 _ hfill).trans rfl⟩

end StringCatalog.Template
