import StringCatalog.Catalog
import StringCatalog.Proofs.Conversions

/-!
# StringCatalog.Proofs.Placeholders

Which placeholders are found in a text.  The scan starts afresh behind every
placeholder and every doubled percent sign, so it meets exactly the ones that a
text was put together from, and nothing else is ever taken for one.

* `Placeholder.Legible.read?_eq` — a placeholder is read as it is written,
  whatever follows;
* `map_occurrencesFrom_chars` — the scan of a text in segments;
* `legible_of_mem_occurrencesFrom` — whatever the scan meets is a placeholder of
  the text;
* `placeholders_exact` — both for texts and for the entries made of them.
-/

namespace StringCatalog.Template

/-! ## Placeholders as they are written -/

namespace Placeholder

/-- The grammar of placeholders: digits before a dollar sign, or none, and one of the letters.  The
letters include the percent sign, which makes a placeholder only behind a position. -/
structure Legible (p : Placeholder) : Prop where
  position : ∀ ds, p.position = some ds → Conversion.IsDigits ds
  letter : p.letter ∈ placeholderLetters

variable {p : Placeholder}

/-- The conversion of the same characters. -/
def conversion (p : Placeholder) : Conversion := ⟨p.position, [], [], none, p.letter⟩

/-- A placeholder is written as its conversion is. -/
theorem chars_conversion (p : Placeholder) : p.conversion.chars = p.chars := by
  simp [conversion, Conversion.chars, Conversion.precisionChars, chars]

theorem chars_append (p : Placeholder) (rest : List Char) :
    p.chars ++ rest = '%' :: (p.conversion.body ++ p.letter :: rest) := by
  rw [← chars_conversion, Conversion.chars_eq]
  simp [conversion]

/-- A placeholder is a conversion as well. -/
theorem Legible.conversion (h : p.Legible) : p.conversion.Legible where
  position := h.position
  flags := nofun
  width := nofun
  width_head := nofun
  precision := nofun
  letter := by
    have hletters : placeholderLetters.all isConversionLetter = true := by decide
    exact List.all_eq_true.1 hletters p.letter h.letter

theorem Legible.read?_conversion (h : p.Legible) (rest : List Char) :
    Conversion.read? (p.conversion.body ++ p.letter :: rest) = some (p.conversion, rest) :=
  h.conversion.read?_eq rest

/-- A placeholder is read as it is written, whatever follows. -/
theorem Legible.read?_eq (h : p.Legible) (rest : List Char) :
    read? (p.conversion.body ++ p.letter :: rest) = some (p, rest) := by
  rw [read?_eq_of_conversion (h.read?_conversion rest),
    if_pos ⟨rfl, List.contains_iff_mem.2 h.letter⟩]
  rfl

/-- A placeholder that is read can be read again. -/
theorem legible_of_read? {cs rest : List Char} (h : read? cs = some (p, rest)) : p.Legible := by
  rw [read?_eq] at h
  split at h
  · split at h
    · next hletter =>
      cases h
      exact ⟨fun _ => digits_of_splitPosition, List.contains_iff_mem.1 hletter⟩
    · cases h
  · cases h

theorem legible_literalPercent : literalPercent.Legible := ⟨nofun, by decide⟩

/-- No two placeholders are written alike. -/
theorem Legible.eq_of_chars_eq {q : Placeholder} (h : p.Legible) (hq : q.Legible)
    (heq : p.chars = q.chars) : p = q := by
  have hrest : p.conversion.body ++ [p.letter] = q.conversion.body ++ [q.letter] := by
    rw [← List.append_nil p.chars, ← List.append_nil q.chars, chars_append, chars_append] at heq
    exact List.tail_eq_of_cons_eq heq
  have hread := h.read?_eq []
  rw [hrest, hq.read?_eq []] at hread
  cases hread
  rfl

end Placeholder

/-! ## Whatever the scan meets -/

/-- What is met in a text is a placeholder, and its characters stand in the text. -/
theorem legible_of_mem_occurrencesFrom {offset skip o : Nat} {cs : List Char} {p : Placeholder}
    (h : (o, p) ∈ occurrencesFrom offset skip cs) : p.Legible ∧ p.chars <:+: cs := by
  induction cs generalizing offset skip with
  | nil => cases skip <;> cases h
  | cons c cs ih =>
      have hlater : ∀ {offset skip}, (o, p) ∈ occurrencesFrom offset skip cs →
          p.Legible ∧ p.chars <:+: c :: cs :=
        fun h => ⟨(ih h).1, List.infix_cons (ih h).2⟩
      cases skip with
      | succ skip => exact hlater h
      | zero =>
          rw [occurrencesFrom] at h
          split at h
          · next hc =>
            split at h
            · next p' rest hread =>
              rcases List.mem_cons.1 h with heq | h
              · cases heq
                refine ⟨Placeholder.legible_of_read? hread, ?_⟩
                rw [hc, Placeholder.eq_of_read? hread]
                exact (List.prefix_append _ _).isInfix
              · exact hlater h
            · exact hlater h
          · exact hlater h

/-- A listed placeholder was met in the text, and is no doubled percent sign. -/
theorem exists_of_mem_placeholders {value token : String} (h : token ∈ placeholders value) :
    ∃ p : Placeholder, p.Legible ∧ p ≠ .literalPercent ∧ token = String.ofList p.chars ∧
      p.chars <:+: value.toList := by
  obtain ⟨p, hp, rfl⟩ := List.mem_map.1 (mem_distinct.1 h)
  obtain ⟨hmet, hne⟩ := List.mem_filter.1 hp
  obtain ⟨⟨o, p⟩, hmem, rfl⟩ := List.mem_map.1 hmet
  obtain ⟨hlegible, hinfix⟩ := legible_of_mem_occurrencesFrom hmem
  exact ⟨p, hlegible, of_decide_eq_true hne, rfl, hinfix⟩

/-! ## Texts in segments -/

/-- A segment of a text: characters other than the percent sign, a doubled percent sign, or a
placeholder. -/
inductive Segment where
  | plain (s : String) (h : '%' ∉ s.toList)
  | percent
  | placeholder (p : Placeholder) (hlegible : p.Legible) (hne : p ≠ .literalPercent)

namespace Segment

def chars : Segment → List Char
  | .plain s _ => s.toList
  | .percent => ['%', '%']
  | .placeholder p _ _ => p.chars

/-- What the scan meets at a segment, if anything. -/
def met? : Segment → Option Placeholder
  | .plain _ _ => none
  | .percent => some .literalPercent
  | .placeholder p _ _ => some p

/-- The placeholder that a segment is, as it is written. -/
def token? : Segment → Option String
  | .placeholder p _ _ => some (String.ofList p.chars)
  | _ => none

end Segment

def textOf (segments : List Segment) : String := String.ofList (segments.flatMap Segment.chars)

def tokensOf (segments : List Segment) : List String := segments.filterMap Segment.token?

/-- A placeholder is met where it is written, and the scan goes on behind it. -/
theorem occurrencesFrom_chars {p : Placeholder} (h : p.Legible) (offset : Nat) (rest : List Char) :
    occurrencesFrom offset 0 (p.chars ++ rest) =
      (offset, p) :: occurrencesFrom (offset + p.chars.length) 0 rest := by
  rw [p.chars_append, occurrencesFrom_met offset (h.read?_eq rest)]

/-- When a template is filled, the same characters are its conversion. -/
theorem piecesFrom_chars {p : Placeholder} (h : p.Legible) (offset : Nat) (rest : List Char) :
    piecesFrom offset 0 (p.chars ++ rest) =
      .conversion p.conversion :: piecesFrom (offset + p.chars.length) 0 rest := by
  rw [p.chars_append, piecesFrom_conversion offset (h.read?_conversion rest), p.chars_conversion]

/-- **The scan of a text in segments** meets the placeholders and doubled percent signs among them. -/
theorem map_occurrencesFrom_chars (offset : Nat) (segments : List Segment) :
    (occurrencesFrom offset 0 (segments.flatMap Segment.chars)).map (·.2) =
      segments.filterMap Segment.met? := by
  induction segments generalizing offset with
  | nil => rfl
  | cons s segments ih =>
      rw [List.flatMap_cons]
      cases s with
      | plain s h =>
          rw [Segment.chars, occurrencesFrom_plain offset h, ih]
          rfl
      | percent =>
          rw [Segment.chars, show ['%', '%'] = Placeholder.literalPercent.chars from rfl,
            occurrencesFrom_chars Placeholder.legible_literalPercent, List.map_cons, ih]
          rfl
      | placeholder p hlegible hne =>
          rw [Segment.chars, occurrencesFrom_chars hlegible, List.map_cons, ih]
          rfl

/-- Without the doubled percent signs, these are the placeholders among the segments. -/
theorem filter_met (segments : List Segment) :
    ((segments.filterMap Segment.met?).filter (· ≠ .literalPercent)).map
      (fun p => String.ofList p.chars) = tokensOf segments := by
  induction segments with
  | nil => rfl
  | cons s segments ih =>
      cases s with
      | plain s h => exact ih
      | percent => exact ih
      | placeholder p hlegible hne =>
          have hmet : Segment.met? (.placeholder p hlegible hne) = some p := rfl
          have htoken : Segment.token? (.placeholder p hlegible hne) = some (String.ofList p.chars) :=
            rfl
          rw [tokensOf, List.filterMap_cons_some hmet, List.filterMap_cons_some htoken,
            List.filter_cons_of_pos (by simpa using hne), List.map_cons, ih, tokensOf]

/-- The placeholders of a text made of segments are their tokens, each once. -/
theorem placeholders_textOf (segments : List Segment) :
    placeholders (textOf segments) = (tokensOf segments).eraseDups := by
  rw [placeholders, textOf, String.toList_ofList, occurrences, map_occurrencesFrom_chars,
    distinct_eq_eraseDups, filter_met]

/-! ## Entries -/

/-- A text is an entry with placeholders if some were found, and a plain one otherwise. -/
theorem ofText_eq (key value : String) :
    Entry.ofText key value =
      if placeholders value = [] then .simple key value
      else .formatted key value (placeholders value) := by
  unfold Entry.ofText
  split
  · next heq => rw [if_pos heq]
  · next hne => rw [if_neg hne]

/-- **Exactly the placeholders of a text are found.**  In a text of segments these are the ones that
it was put together from, each where it occurs first, and they alone decide on the kind of the
entry; in any text none is found twice, none is a doubled percent sign, and each one is a part of
the text that the grammar of placeholders allows. -/
theorem placeholders_exact :
    (∀ segments : List Segment,
      placeholders (textOf segments) = (tokensOf segments).eraseDups ∧
      ∀ key, Entry.ofText key (textOf segments) =
        if tokensOf segments = [] then .simple key (textOf segments)
        else .formatted key (textOf segments) (tokensOf segments).eraseDups) ∧
    ∀ value, (placeholders value).Nodup ∧ "%%" ∉ placeholders value ∧
      ∀ token ∈ placeholders value, token.toList <:+: value.toList ∧
        ∃ p : Placeholder, p.Legible ∧ token = String.ofList p.chars := by
  refine ⟨fun segments => ⟨placeholders_textOf segments, fun key => ?_⟩, fun value => ⟨?_, ?_, ?_⟩⟩
  · rw [ofText_eq, placeholders_textOf]
    cases tokensOf segments <;> simp [List.eraseDups_cons]
  · exact nodup_distinct _
  · intro h
    obtain ⟨p, hlegible, hne, htoken, -⟩ := exists_of_mem_placeholders h
    have hchars : p.chars = Placeholder.literalPercent.chars := by
      rw [← String.toList_ofList (l := p.chars), ← htoken]
      rfl
    exact hne (hlegible.eq_of_chars_eq Placeholder.legible_literalPercent hchars)
  · intro token h
    obtain ⟨p, hlegible, -, rfl, hinfix⟩ := exists_of_mem_placeholders h
    exact ⟨by rwa [String.toList_ofList], p, hlegible, rfl⟩

theorem placeholders_exact_mixed :
    placeholders "%%%d1$s%%d%d%1$%" = ["%d", "%1$%"] ∧
      Entry.ofText "count" "%%%d1$s%%d%d%1$%" =
        .formatted "count" "%%%d1$s%%d%d%1$%" ["%d", "%1$%"] ∧
      "%1$%".toList <:+: "%%%d1$s%%d%d%1$%".toList := by
  have hnumber : Placeholder.Legible ⟨none, 'd'⟩ := ⟨nofun, by decide⟩
  have hpercent : Placeholder.Legible ⟨some ['1'], '%'⟩ :=
    ⟨fun ds h => Option.some.inj h ▸ ⟨by decide, List.forall_mem_singleton.2 rfl⟩, by decide⟩
  obtain ⟨hplaceholders, hentry⟩ := placeholders_exact.1 [.percent, .placeholder _ hnumber (by decide),
    .plain "1$s" (by decide), .percent, .plain "d" (by decide), .placeholder _ hnumber (by decide),
    .placeholder _ hpercent (by decide)]
  refine ⟨hplaceholders, hentry "count", ((placeholders_exact.2 _).2.2 "%1$%" ?_).1⟩
  rw [show placeholders "%%%d1$s%%d%d%1$%" = ["%d", "%1$%"] from hplaceholders]
  decide

end StringCatalog.Template
