import StringCatalog.Package.Tables
import StringCatalog.Proofs.Literals
import StringCatalog.Proofs.Maps

/-!
# StringCatalog.Proofs.TableModules

The module of a locale's texts says what its catalog says.  Two roads lead from
a catalog to four tables: `Tables.ofCatalog` fills them entry by entry, and the
views of `Catalog` select the entries of one kind.

* `ofCatalog_eq_views` — both give the same tables;
* `Tables.read?_chars` — a module is read back as the tables it was made from;
* `read?_source_ofCatalog` — so reading a module gives the views of its catalog,
  and catalogs share a module exactly when they share their views.
-/

namespace StringCatalog.Package

open Text

/-! ## The tables of a catalog -/

/-- A text with its placeholders from a view. -/
def FormattedText.ofPair (p : String × List String) : FormattedText := ⟨p.1, p.2⟩

/-- Filling tables with entries writes the entries of every kind to the table of that kind. -/
theorem foldl_add (c : Catalog) (t : Tables) :
    c.foldl Tables.add t =
      { title := t.title
        simple := t.simple.putAll (c.filterMap Entry.simple?)
        formatted := t.formatted.putAll
          ((c.filterMap Entry.formatted?).map fun e => (e.1, FormattedText.ofPair e.2))
        plurals := t.plurals.putAll (c.filterMap Entry.plurals?)
        arrays := t.arrays.putAll (c.filterMap Entry.array?) } := by
  induction c generalizing t with
  | nil => rfl
  | cons e c ih =>
      rw [List.foldl_cons, ih]
      cases e <;> rfl

/-- **The tables of a catalog are its views.** -/
theorem ofCatalog_eq_views (l : Locale) (c : Catalog) :
    Tables.ofCatalog l c =
      { title := Tables.titleOf l
        simple := c.simple
        formatted := c.formatted.mapValues FormattedText.ofPair
        plurals := c.plurals
        arrays := c.arrays } := by
  have hformatted := OrderedMap.mapValues_putAll FormattedText.ofPair []
    (c.filterMap Entry.formatted?)
  rw [Tables.ofCatalog, foldl_add, Catalog.formatted, Catalog.viewBy, OrderedMap.ofList, hformatted]
  rfl

/-! ## Reading a module -/

/-- A formatted text reads back with its placeholders. -/
theorem readsBack_formatted (f : FormattedText) :
    ReadsBack Tables.readFormatted? Tables.formattedLiteral (fun _ => True) f := by
  rintro c rest -
  have hcomma : ∀ cs, expect? [',', ' '] (',' :: ' ' :: cs) = some cs := expect?_append [',', ' ']
  have hvalue := readsBack_text f.value ',' (' ' :: (rowLiteral f.placeholders ++ ')' :: c :: rest))
    not_isQuote_comma
  have hrow := readsBack_row f.placeholders ')' (c :: rest) trivial
  simp only [Tables.formattedLiteral, List.append_assoc, List.cons_append, List.nil_append,
    Tables.readFormatted?, expect?_append]
  simp [hvalue, hcomma, hrow, expect?_singleton]

/-- The line of a table is read back if the values of the table are. -/
theorem readTable?_tableLine (name : String) {read : Reader α} {write : α → List Char}
    (m : OrderedMap String α) (h : ∀ a, ReadsBack read write (¬ IsQuote ·) a) (rest : List Char) :
    Tables.readTable? name read (Tables.tableLine name write m ++ rest) = some (m, rest) := by
  have hm := readsBack_readOnly m (fun e _ => h e.2) '\n' rest trivial
  simp only [Tables.tableLine, List.append_assoc, List.cons_append, List.nil_append,
    Tables.readTable?, expect?_append]
  simp [hm, expect?_singleton]

/-- **A module is read back as its tables**, unless its title ends in a quote. -/
theorem Tables.read?_chars (t : Tables)
    (htitle : ∀ c, t.title.toList.getLast? = some c → ¬ IsQuote c) :
    Tables.read? t.chars = some t := by
  have hheader : ∀ cs, expect? (headerLine.toList ++ ['\n']) (headerLine.toList ++ '\n' :: cs) =
      some cs := by
    intro cs
    have h := expect?_append (headerLine.toList ++ ['\n']) cs
    rwa [List.append_assoc] at h
  have hread : ∀ rest, readText? (documentChars t.title.toList ++ rest) = some (t.title, rest) := by
    intro rest
    rw [readText?, readQuoted?_documentChars _ _ htitle]
    simp
  have hsimple := readTable?_tableLine "SIMPLE" t.simple readsBack_text
  have hformatted := readTable?_tableLine "FORMATTED" t.formatted
    fun f => (readsBack_formatted f).mono fun _ _ => trivial
  have hplurals := readTable?_tableLine "PLURALS" t.plurals
    fun m => (readsBack_readOnly m fun e _ => readsBack_text e.2).mono fun _ _ => trivial
  have harrays := readTable?_tableLine "ARRAYS" t.arrays
    (fun items => (readsBack_row items).mono fun _ _ => trivial) []
  rw [List.append_nil] at harrays
  simp only [Tables.chars, List.append_assoc, List.cons_append, Tables.read?, hheader]
  simp [hread, expect?_append, hsimple, hformatted, hplurals, harrays]

theorem Tables.titleOf_eq (l : Locale) :
    Tables.titleOf l = "String tables for " ++ l.displayName ++ " (" ++ l.code ++ ")." := rfl

/-- A title ends in a full stop. -/
theorem getLast?_titleOf (l : Locale) : (Tables.titleOf l).toList.getLast? = some '.' := by
  have hstop : ").".toList.getLast? = some '.' := by decide
  rw [Tables.titleOf_eq, String.toList_append, List.getLast?_append, hstop, Option.some_or]

/-- The module of a catalog reads back as its tables. -/
theorem read?_ofCatalog (l : Locale) (c : Catalog) :
    Tables.read? (Tables.ofCatalog l c).source.toList = some (Tables.ofCatalog l c) := by
  have htitle : (Tables.ofCatalog l c).title = Tables.titleOf l := by rw [ofCatalog_eq_views]
  rw [Tables.source, String.toList_ofList]
  refine Tables.read?_chars _ fun d hd => ?_
  rw [htitle, getLast?_titleOf] at hd
  rw [← Option.some.inj hd]
  unfold IsQuote
  decide

/-- Catalogs share the module of a locale exactly when they share its tables. -/
theorem source_ofCatalog_inj (l : Locale) (c d : Catalog) :
    (Tables.ofCatalog l c).source = (Tables.ofCatalog l d).source ↔
      Tables.ofCatalog l c = Tables.ofCatalog l d := by
  constructor
  · intro h
    have hc := read?_ofCatalog l c
    rw [h, read?_ofCatalog l d] at hc
    exact (Option.some.inj hc).symm
  · intro h
    rw [h]

/-- Tables with the same formatted texts have the same texts and placeholders. -/
theorem mapValues_ofPair_inj {m m' : OrderedMap String (String × List String)} :
    m.mapValues FormattedText.ofPair = m'.mapValues FormattedText.ofPair ↔ m = m' := by
  refine List.map_inj_right fun e e' h => ?_
  obtain ⟨k, v, ps⟩ := e
  obtain ⟨k', v', ps'⟩ := e'
  simpa [FormattedText.ofPair] using h

/-- **Reading undoes compiling.**  The module of a locale is read back as its title and the four
views of its catalog, with every key once; and catalogs have the same module exactly when their
views agree. -/
theorem read?_source_ofCatalog (l : Locale) (c : Catalog) :
    (∃ t, Tables.read? (Tables.ofCatalog l c).source.toList = some t ∧
      t.title = "String tables for " ++ l.displayName ++ " (" ++ l.code ++ ")." ∧
      (t.simple = c.simple ∧ t.simple.keys.Nodup) ∧
      (t.formatted = c.formatted.mapValues FormattedText.ofPair ∧ t.formatted.keys.Nodup) ∧
      (t.plurals = c.plurals ∧ t.plurals.keys.Nodup) ∧
      (t.arrays = c.arrays ∧ t.arrays.keys.Nodup)) ∧
    ∀ d : Catalog, (Tables.ofCatalog l c).source = (Tables.ofCatalog l d).source ↔
      c.simple = d.simple ∧ c.formatted = d.formatted ∧ c.plurals = d.plurals ∧
        c.arrays = d.arrays := by
  have hviews := ofCatalog_eq_views l c
  refine ⟨⟨_, read?_ofCatalog l c, ?_⟩, fun d => ?_⟩
  · rw [hviews]
    refine ⟨Tables.titleOf_eq l, ⟨rfl, ?_⟩, ⟨rfl, ?_⟩, ⟨rfl, ?_⟩, ⟨rfl, ?_⟩⟩
    · exact OrderedMap.nodup_keys_ofList _
    · rw [OrderedMap.keys_mapValues]
      exact OrderedMap.nodup_keys_ofList _
    · exact OrderedMap.nodup_keys_ofList _
    · exact OrderedMap.nodup_keys_ofList _
  · rw [source_ofCatalog_inj, hviews, ofCatalog_eq_views l d, Tables.mk.injEq,
      mapValues_ofPair_inj]
    simp

end StringCatalog.Package
