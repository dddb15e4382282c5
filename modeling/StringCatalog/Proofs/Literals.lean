import StringCatalog.Package.Literal
import StringCatalog.Proofs.Quoting

/-!
# StringCatalog.Proofs.Literals

The literals of compiled modules are read back as they were written.  What a
literal is followed by matters, as its reader must see where it ends:
`ReadsBack` says of one value that it is read back before every character of
some sort.

* `readsBack_text`, `readsBack_row`, `readsBack_readOnly` — texts, rows and
  read-only maps, before anything but a quote;
* `readItems?_commaSeparated` — items with commas between them, whatever they
  are.
-/

namespace StringCatalog.Package

open Text

/-- A value is read back from its text before every character that may follow it. -/
def ReadsBack (read : Reader α) (write : α → List Char) (follow : Char → Prop) (a : α) : Prop :=
  ∀ c rest, follow c → read (write a ++ c :: rest) = some (a, c :: rest)

/-- What reads back before some characters does so before fewer. -/
theorem ReadsBack.mono {read : Reader α} {write : α → List Char} {follow follow' : Char → Prop}
    {a : α} (h : ReadsBack read write follow a) (hfollow : ∀ c, follow' c → follow c) :
    ReadsBack read write follow' a :=
  fun c rest hc => h c rest (hfollow c hc)

/-! ## Fixed pieces -/

/-- A piece that is there is passed over. -/
theorem expect?_append (piece rest : List Char) : expect? piece (piece ++ rest) = some rest := by
  have hpre : piece.isPrefixOf (piece ++ rest) = true :=
    List.isPrefixOf_iff_prefix.2 (List.prefix_append piece rest)
  rw [expect?, if_pos hpre, List.drop_left]

/-- A piece that is not there is not found. -/
theorem expect?_eq_none {piece cs : List Char} (h : ¬ piece <+: cs) : expect? piece cs = none := by
  rw [← List.isPrefixOf_iff_prefix] at h
  rw [expect?, if_neg h]

theorem expect?_singleton (c : Char) (rest : List Char) : expect? [c] (c :: rest) = some rest :=
  expect?_append [c] rest

theorem expect?_of_ne {c d : Char} (h : c ≠ d) (piece rest : List Char) :
    expect? (c :: piece) (d :: rest) = none :=
  expect?_eq_none fun hpre => h (List.cons_prefix_cons.1 hpre).1

/-! ## Texts -/

/-- A text literal is read back, unless a quote follows that would belong to it. -/
theorem readText?_textLiteral (s : String) (rest : List Char)
    (hrest : ∀ c, rest.head? = some c → ¬ IsQuote c) :
    readText? (textLiteral s ++ rest) = some (s, rest) := by
  rw [readText?, textLiteral, readQuoted?_quotedChars _ _ hrest]
  simp

/-- Text literals read back. -/
theorem readsBack_text (s : String) : ReadsBack readText? textLiteral (¬ IsQuote ·) s := by
  intro c rest hc
  refine readText?_textLiteral s _ fun d hd => ?_
  rwa [← Option.some.inj hd]

/-- A text literal starts with a quote. -/
theorem textLiteral_eq_cons (s : String) : ∃ q cs, textLiteral s = q :: cs ∧ IsQuote q :=
  ⟨_, _, rfl, isQuote_quoteFor s.toList⟩

/-- No text starts like a character that is not a quote. -/
theorem not_prefix_textLiteral {c : Char} (hc : ¬ IsQuote c) (s : String) (tail : List Char) :
    ¬ [c] <+: textLiteral s ++ tail := by
  obtain ⟨q, cs, hq, hquote⟩ := textLiteral_eq_cons s
  rw [hq, List.cons_append, List.cons_prefix_cons]
  rintro ⟨rfl, -⟩
  exact hc hquote

/-! ## Items -/

@[simp] theorem commaSeparated_nil : commaSeparated [] = [] := rfl

@[simp] theorem commaSeparated_singleton (x : List Char) : commaSeparated [x] = x := by
  simp [commaSeparated, List.intercalate]

theorem commaSeparated_cons_cons (x y : List Char) (xs : List (List Char)) :
    commaSeparated (x :: y :: xs) = x ++ ',' :: ' ' :: commaSeparated (y :: xs) := by
  simp [commaSeparated, List.intercalate]

/-- **Items with commas between them are read back** up to the character that closes them, if no
item starts with that character. -/
theorem readItems?_commaSeparated {read : Reader α} {write : α → List Char} {follow : Char → Prop}
    {close : Char} (hcomma : follow ',') (hclose : follow close) (hne : close ≠ ',')
    (items : List α) (hread : ∀ a ∈ items, ReadsBack read write follow a)
    (hfirst : ∀ a ∈ items, ∀ tail, ¬ [close] <+: write a ++ tail) (more : Bool)
    (hmore : items = [] → more = false) (rest : List Char) :
    readItems? read [close] more (commaSeparated (items.map write) ++ close :: rest) =
      some (items, rest) := by
  induction items generalizing more with
  | nil =>
      rw [List.map_nil, commaSeparated_nil, List.nil_append, readItems?, expect?_singleton,
        hmore rfl]
      rfl
  | cons a items ih =>
      have ha := hread a List.mem_cons_self
      have hopen := fun tail => expect?_eq_none (hfirst a List.mem_cons_self tail)
      cases items with
      | nil =>
          rw [List.map_singleton, commaSeparated_singleton, readItems?, hopen]
          dsimp only
          rw [ha close rest hclose]
          dsimp only
          rw [expect?_of_ne (Ne.symm hne), expect?_singleton]
          rfl
      | cons b items =>
          have htail := ih (fun x hx => hread x (List.mem_cons_of_mem a hx))
            (fun x hx => hfirst x (List.mem_cons_of_mem a hx)) true nofun
          rw [List.map_cons, List.map_cons, commaSeparated_cons_cons, ← List.map_cons,
            List.append_assoc, List.cons_append, List.cons_append, readItems?, hopen]
          dsimp only
          rw [ha ',' _ hcomma]
          dsimp only
          rw [show ∀ cs, expect? [',', ' '] (',' :: ' ' :: cs) = some cs from
            expect?_append [',', ' ']]
          dsimp only
          rw [dif_pos (by simp only [List.length_append, List.length_cons]; omega), htail]
          rfl

/-! ## Rows -/

theorem not_isQuote_comma : ¬ IsQuote ',' := by unfold IsQuote; decide

theorem not_isQuote_paren : ¬ IsQuote ')' := by unfold IsQuote; decide

theorem not_isQuote_brace : ¬ IsQuote '\x7d' := by unfold IsQuote; decide

/-- **A row of texts is read back.** -/
theorem readsBack_row (items : List String) :
    ReadsBack readRow? rowLiteral (fun _ => True) items := by
  rintro c rest -
  have hitems : readItems? readText? [')'] false
      (commaSeparated (items.map textLiteral) ++ ')' :: c :: rest) = some (items, c :: rest) :=
    readItems?_commaSeparated not_isQuote_comma not_isQuote_paren (by decide) items
      (fun s _ => readsBack_text s) (fun s _ => not_prefix_textLiteral not_isQuote_paren s) false
      (fun _ => rfl) (c :: rest)
  cases items with
  | nil =>
      have hnone : readText? (')' :: c :: rest) = none := rfl
      have hrow : rowLiteral [] ++ c :: rest = '(' :: ')' :: c :: rest := rfl
      rw [List.map_nil, commaSeparated_nil, List.nil_append] at hitems
      simp only [hrow, readRow?, expect?_singleton, Option.bind_eq_bind, Option.bind_some, hnone,
        hitems]
  | cons a items =>
      cases items with
      | nil =>
          have ha := readsBack_text a ',' (')' :: c :: rest) not_isQuote_comma
          simp only [rowLiteral, List.map_singleton, commaSeparated_singleton, List.cons_append,
            List.append_assoc, List.length_singleton, if_true, List.nil_append]
          simp only [readRow?, expect?_singleton, Option.bind_eq_bind, Option.bind_some, ha]
          rfl
      | cons b items =>
          have ha := readsBack_text a ','
            (' ' :: (commaSeparated ((b :: items).map textLiteral) ++ ')' :: c :: rest))
            not_isQuote_comma
          have hrow : rowLiteral (a :: b :: items) ++ c :: rest = '(' :: (textLiteral a ++
              ',' :: ' ' :: (commaSeparated ((b :: items).map textLiteral) ++ ')' :: c :: rest)) := by
            simp [rowLiteral, commaSeparated_cons_cons]
          rw [List.map_cons, List.map_cons, commaSeparated_cons_cons, ← List.map_cons,
            List.append_assoc, List.cons_append, List.cons_append] at hitems
          simp only [hrow, readRow?, expect?_singleton, Option.bind_eq_bind, Option.bind_some, ha,
            hitems]
          rfl

/-! ## Maps -/

/-- An entry of a map is read back if its value is. -/
theorem readsBack_entry {read : Reader α} {write : α → List Char} {follow : Char → Prop}
    (e : String × α) (h : ReadsBack read write follow e.2) :
    ReadsBack (readBinding? read) (entryLiteral write) follow e := by
  intro c rest hc
  have hcolon : ∀ cs, expect? [':', ' '] (':' :: ' ' :: cs) = some cs := expect?_append [':', ' ']
  have hkey := readsBack_text e.1 ':' (' ' :: (write e.2 ++ c :: rest))
    (by unfold IsQuote; decide)
  simp only [entryLiteral, List.append_assoc, List.cons_append, readBinding?, hkey]
  simp [hcolon, h c rest hc]

/-- **A read-only map is read back** if its values are. -/
theorem readsBack_readOnly {read : Reader α} {write : α → List Char} (m : OrderedMap String α)
    (h : ∀ e ∈ m, ReadsBack read write (¬ IsQuote ·) e.2) :
    ReadsBack (readReadOnly? read) (readOnlyLiteral write) (fun _ => True) m := by
  rintro c rest -
  have hitems : readItems? (readBinding? read) ['\x7d'] false
      (commaSeparated (m.map (entryLiteral write)) ++ '\x7d' :: ')' :: c :: rest) =
      some (m, ')' :: c :: rest) := by
    refine readItems?_commaSeparated not_isQuote_comma not_isQuote_brace (by decide) m
      (fun e he => readsBack_entry e (h e he)) (fun e _ tail => ?_) false (fun _ => rfl) _
    rw [entryLiteral, List.append_assoc]
    exact not_prefix_textLiteral not_isQuote_brace e.1 _
  simp only [readOnlyLiteral, mapLiteral, List.append_assoc, List.cons_append, List.nil_append,
    readReadOnly?, readMap?, expect?_append]
  simp [expect?_singleton, hitems]

end StringCatalog.Package
