import Mathlib.Tactic.SplitIfs
import StringCatalog.Package.Write
import StringCatalog.Proofs.Quoting
import StringCatalog.Proofs.Wiring

/-!
# StringCatalog.Proofs.Sources

What all modules of a package have in common as texts: they start with the
header line and hold no carriage return.  So a module that was written is known
again as a compiled one, and reads as the text that was written.

* `return_not_mem_quotedChars`, `return_not_mem_documentChars` — texts of any
  characters are written without carriage returns;
* `isPackage_artifacts` — the artifacts of a model are such modules;
* `isCompiled_toUTF8`, `textOf?_toUTF8` — such a module is known again, and read
  as it is.
-/

namespace StringCatalog

namespace Text

/-! ## Quoted texts -/

theorem return_not_mem_hexDigits (width n : Nat) : '\r' ∉ hexDigits width n := by
  have hdigits : ∀ k, k < 16 → '\r' ≠ Nat.digitChar k := by decide
  intro h
  obtain ⟨k, hk, hd⟩ := mem_hexDigits h
  exact hdigits k hk hd

theorem return_not_mem_numericEscape (c : Char) : '\r' ∉ numericEscape c := by
  have hdigits := fun width => return_not_mem_hexDigits width c.toNat
  unfold numericEscape
  split_ifs <;> simp [hdigits]

theorem ne_return_of_isPrintable {c : Char} (h : isPrintable c = true) : '\r' ≠ c := by
  rintro rfl
  exact absurd h (by decide)

theorem return_not_mem_quotedChar {q : Char} (hq : IsQuote q) (c : Char) :
    '\r' ∉ quotedChar q c := by
  unfold quotedChar
  split_ifs with hesc hprintable
  · rw [Bool.or_eq_true, decide_eq_true_eq, decide_eq_true_eq] at hesc
    rcases hesc with rfl | rfl
    · rcases hq with rfl | rfl <;> decide
    · decide
  · simpa using ne_return_of_isPrintable hprintable
  · exact return_not_mem_numericEscape c

theorem return_not_mem_documentChar (c : Char) : '\r' ∉ documentChar c := by
  unfold documentChar
  split_ifs with hb hplain
  · decide
  · rw [Bool.or_eq_true, Bool.or_eq_true, decide_eq_true_eq, decide_eq_true_eq] at hplain
    rcases hplain with (rfl | rfl) | hprintable
    · decide
    · decide
    · simpa using ne_return_of_isPrintable hprintable
  · exact return_not_mem_numericEscape c

theorem return_ne_quote {q : Char} (hq : IsQuote q) : '\r' ≠ q := by
  rcases hq with rfl | rfl <;> decide

theorem return_not_mem_quotedBody (cs : List Char) : '\r' ∉ quotedBody cs := by
  rw [quotedBody, List.mem_flatMap]
  rintro ⟨c, -, hc⟩
  exact return_not_mem_quotedChar (isQuote_quoteFor cs) c hc

theorem return_not_mem_quotedChars (cs : List Char) : '\r' ∉ quotedChars cs := by
  have hquote := return_ne_quote (isQuote_quoteFor cs)
  simp [quotedChars, hquote, return_not_mem_quotedBody]

theorem return_not_mem_documentChars (cs : List Char) : '\r' ∉ documentChars cs := by
  have hbody : '\r' ∉ cs.flatMap documentChar := by
    rw [List.mem_flatMap]
    rintro ⟨c, -, hc⟩
    exact return_not_mem_documentChar c hc
  have hquotes : ∀ q, IsQuote q → '\r' ∉ tripled q := fun q hq => by
    simp [tripled, return_ne_quote hq]
  have hdouble := hquotes '"' (.inl rfl)
  have hsingle := hquotes '\x27' (.inr rfl)
  unfold documentChars
  dsimp only
  split_ifs <;> simp only [List.mem_append, not_or]
  · exact ⟨⟨hdouble, hbody⟩, hdouble⟩
  · exact ⟨⟨hsingle, hbody⟩, hsingle⟩
  · exact ⟨⟨hsingle, return_not_mem_quotedBody cs⟩, hsingle⟩

end Text

namespace Package

open Text

/-! ## Literals -/

theorem return_not_mem_commaSeparated {items : List (List Char)} (h : ∀ x ∈ items, '\r' ∉ x) :
    '\r' ∉ commaSeparated items := by
  induction items with
  | nil => exact List.not_mem_nil
  | cons x items ih =>
      have hx := h x List.mem_cons_self
      have hitems := ih fun y hy => h y (List.mem_cons_of_mem x hy)
      cases items with
      | nil => rwa [commaSeparated_singleton]
      | cons y items =>
          rw [commaSeparated_cons_cons]
          simp [hx, hitems]

theorem return_not_mem_textLiteral (s : String) : '\r' ∉ textLiteral s :=
  return_not_mem_quotedChars s.toList

theorem return_not_mem_rowLiteral (items : List String) : '\r' ∉ rowLiteral items := by
  have hitems : '\r' ∉ commaSeparated (items.map textLiteral) := by
    refine return_not_mem_commaSeparated fun x hx => ?_
    obtain ⟨s, -, rfl⟩ := List.mem_map.1 hx
    exact return_not_mem_textLiteral s
  unfold rowLiteral
  split <;> simp [hitems]

theorem return_not_mem_readOnlyLiteral {write : α → List Char} (m : OrderedMap String α)
    (h : ∀ a, '\r' ∉ write a) : '\r' ∉ readOnlyLiteral write m := by
  have hopening : '\r' ∉ readOnlyOpening := by decide
  have hentries : '\r' ∉ commaSeparated (m.map (entryLiteral write)) := by
    refine return_not_mem_commaSeparated fun x hx => ?_
    obtain ⟨e, -, rfl⟩ := List.mem_map.1 hx
    simp [entryLiteral, return_not_mem_textLiteral, h]
  simp [readOnlyLiteral, mapLiteral, hopening, hentries]

/-! ## Lines that all packages share -/

theorem return_not_mem_literal {cs : List Char} (h : '\r' ∉ cs) :
    '\r' ∉ (String.ofList cs).toList := by
  rwa [String.toList_ofList]

/-- The lines of modules that do not depend on the model. -/
def fixedLines : List (List String) := [
  formattedStringLines, faceLines, RegistryModule.openingLines, RegistryModule.closingLines,
  AccessorModule.openingLines, AccessorModule.middleLines, AccessorModule.closingLines]

set_option maxRecDepth 2000 in
theorem return_not_mem_fixedLines :
    ∀ lines ∈ fixedLines, ∀ l ∈ lines, '\r' ∉ l.toList := by
  unfold fixedLines formattedStringLines faceLines RegistryModule.openingLines
    RegistryModule.closingLines AccessorModule.openingLines AccessorModule.middleLines
    AccessorModule.closingLines
  simp only [List.forall_mem_cons (p := fun lines => ∀ l ∈ lines, '\r' ∉ String.toList l)]
  -- line by line, as a text that is written out is the list of its characters
  refine ⟨?_, ?_, ?_, ?_, ?_, ?_, ?_, List.forall_mem_nil _⟩
  all_goals
    repeat refine List.forall_mem_cons.2 ⟨return_not_mem_literal (by decide), ?_⟩
    exact List.forall_mem_nil _

/-! ## Modules -/

/-- What the source of every module of a package is: text after the header line, without carriage
returns. -/
structure IsModuleSource (source : String) : Prop where
  header : ∃ rest, source.toList = headerLine.toList ++ '\n' :: rest
  no_return : '\r' ∉ source.toList

/-- Lines below the header make the source of a module if there is no return in them. -/
theorem isModuleSource_ofLines {lines : List String} (hlines : ∀ l ∈ lines, '\r' ∉ l.toList)
    (rest : List Char) (hrest : '\r' ∉ rest) {source : String}
    (h : source = String.ofList (RegistryModule.linesChars (headerLine :: lines) ++ rest)) :
    IsModuleSource source := by
  have hheader : '\r' ∉ headerLine.toList := return_not_mem_literal (by decide)
  subst h
  refine ⟨⟨RegistryModule.linesChars lines ++ rest, ?_⟩, ?_⟩
  · rw [String.toList_ofList, RegistryModule.linesChars, List.flatMap_cons]
    simp only [List.append_assoc, List.cons_append, List.nil_append]
    rfl
  · rw [String.toList_ofList, RegistryModule.linesChars, List.flatMap_cons, List.mem_append,
      List.mem_append, List.mem_flatMap]
    rintro ((hmem | ⟨l, hl, hmem⟩) | hmem)
    · simp [hheader] at hmem
    · simp [hlines l hl] at hmem
    · exact hrest hmem

theorem return_not_mem_linesChars {lines : List String} (h : ∀ l ∈ lines, '\r' ∉ l.toList) :
    '\r' ∉ RegistryModule.linesChars lines := by
  rw [RegistryModule.linesChars, List.mem_flatMap]
  rintro ⟨l, hl, hmem⟩
  simp [h l hl] at hmem

theorem isModuleSource_moduleOf {lines : List String} (h : ∀ l ∈ lines, '\r' ∉ l.toList) :
    IsModuleSource (moduleOf lines) := by
  refine isModuleSource_ofLines h [] List.not_mem_nil ?_
  rw [List.append_nil]
  rfl

/-- The tables of a locale are the source of a module. -/
theorem isModuleSource_tables (t : Tables) : IsModuleSource t.source := by
  have hheader : '\r' ∉ headerLine.toList := return_not_mem_literal (by decide)
  have himport : '\r' ∉ Tables.importLines := by decide +kernel
  have hline : ∀ {α : Type} (name : String) (write : α → List Char) (m : OrderedMap String α),
      '\r' ∉ name.toList → (∀ a, '\r' ∉ write a) → '\r' ∉ Tables.tableLine name write m := by
    intro α name write m hname hwrite
    simp [Tables.tableLine, Tables.tableOpening, hname, return_not_mem_readOnlyLiteral m hwrite]
  have hformatted : ∀ f, '\r' ∉ Tables.formattedLiteral f := by
    intro f
    have hopening : '\r' ∉ Tables.formattedOpening := by decide
    simp [Tables.formattedLiteral, hopening, return_not_mem_textLiteral,
      return_not_mem_rowLiteral]
  refine ⟨⟨documentChars t.title.toList ++ Tables.importLines ++
    Tables.tableLine "SIMPLE" textLiteral t.simple ++
    Tables.tableLine "FORMATTED" Tables.formattedLiteral t.formatted ++
    Tables.tableLine "PLURALS" (readOnlyLiteral textLiteral) t.plurals ++
    Tables.tableLine "ARRAYS" rowLiteral t.arrays, ?_⟩, ?_⟩
  · rw [Tables.source, String.toList_ofList, Tables.chars]
    simp only [List.append_assoc, List.cons_append]
  · rw [Tables.source, String.toList_ofList, Tables.chars]
    simp only [List.mem_append, List.mem_cons, not_or]
    exact ⟨⟨⟨⟨⟨⟨hheader, by decide, return_not_mem_documentChars _⟩, himport⟩,
      hline _ _ _ (by decide) return_not_mem_textLiteral⟩, hline _ _ _ (by decide) hformatted⟩,
      hline _ _ _ (by decide) fun m => return_not_mem_readOnlyLiteral m return_not_mem_textLiteral⟩,
      hline _ _ _ (by decide) return_not_mem_rowLiteral⟩

/-- So is the registry. -/
theorem isModuleSource_registry {locales : List Locale}
    (h : ∀ l ∈ locales, '\r' ∉ l.memberName.toList) :
    IsModuleSource (RegistryModule.source locales) := by
  have hopening := return_not_mem_fixedLines RegistryModule.openingLines (by simp [fixedLines])
  have hclosing := return_not_mem_fixedLines RegistryModule.closingLines (by simp [fixedLines])
  refine isModuleSource_ofLines hopening ((locales.map RegistryModule.memberOf).flatMap
    RegistryModule.memberLine ++ RegistryModule.linesChars RegistryModule.closingLines) ?_ ?_
  · rw [List.mem_append, not_or, List.mem_flatMap]
    refine ⟨?_, return_not_mem_linesChars hclosing⟩
    rintro ⟨m, hm, hmem⟩
    obtain ⟨l, hl, rfl⟩ := List.mem_map.1 hm
    have hname := h l hl
    simp [RegistryModule.memberLine, RegistryModule.memberOf, RegistryModule.indent, hname,
      return_not_mem_rowLiteral] at hmem
  · rw [RegistryModule.source, RegistryModule.chars, List.append_assoc]

/-- And so are the accessors. -/
theorem isModuleSource_accessor {locales : List Locale} {default : Locale}
    (hmember : ∀ l ∈ default :: locales, '\r' ∉ l.memberName.toList)
    (hmodule : ∀ l ∈ locales, '\r' ∉ l.moduleName.toList) :
    IsModuleSource (AccessorModule.source locales default) := by
  have hopening := return_not_mem_fixedLines AccessorModule.openingLines (by simp [fixedLines])
  have hmiddle := return_not_mem_fixedLines AccessorModule.middleLines (by simp [fixedLines])
  have hclosing := return_not_mem_fixedLines AccessorModule.closingLines (by simp [fixedLines])
  have himport : '\r' ∉ AccessorModule.importOpening := by decide
  have hwiring : '\r' ∉ AccessorModule.wiringOpening := by decide
  have happ : '\r' ∉ AccessorModule.memberOpening := by decide
  have himported : '\r' ∉ commaSeparated
      ((Wiring.ofLocales locales default).imported.map String.toList) := by
    refine return_not_mem_commaSeparated fun x hx => ?_
    obtain ⟨name, hname, rfl⟩ := List.mem_map.1 hx
    obtain ⟨l, hl, rfl⟩ := List.mem_map.1 hname
    exact hmodule l hl
  have htables : '\r' ∉ commaSeparated
      ((Wiring.ofLocales locales default).tables.map AccessorModule.wire) := by
    refine return_not_mem_commaSeparated fun x hx => ?_
    obtain ⟨w, hw, rfl⟩ := List.mem_map.1 hx
    obtain ⟨l, hl, rfl⟩ := List.mem_map.1 hw
    simp [AccessorModule.wire, happ, hmember l (List.mem_cons_of_mem _ hl), hmodule l hl]
  have hdefault : '\r' ∉ (Wiring.ofLocales locales default).default.toList :=
    hmember default List.mem_cons_self
  refine isModuleSource_ofLines hopening (AccessorModule.importOpening ++
    (commaSeparated ((Wiring.ofLocales locales default).imported.map String.toList) ++ '\n' ::
    (RegistryModule.linesChars AccessorModule.middleLines ++ (AccessorModule.wiringOpening ++
    (commaSeparated ((Wiring.ofLocales locales default).tables.map AccessorModule.wire) ++
    '\x7d' :: ',' :: ' ' :: (AccessorModule.memberOpening ++
    ((Wiring.ofLocales locales default).default.toList ++ ')' :: '\n' ::
    RegistryModule.linesChars AccessorModule.closingLines))))))) ?_ ?_
  · simp only [List.mem_append, List.mem_cons, not_or]
    exact ⟨himport, himported, by decide, return_not_mem_linesChars hmiddle, hwiring, htables,
      by decide, by decide, by decide, happ, hdefault, by decide, by decide,
      return_not_mem_linesChars hclosing⟩
  · rw [AccessorModule.source, AccessorModule.chars]
    simp only [List.append_assoc, List.cons_append]

/-- Artifacts that are modules under names of their own. -/
structure IsPackage (artifacts : Artifacts) : Prop where
  nodup : artifacts.keys.Nodup
  isModuleFile : ∀ e ∈ artifacts, isModuleFile e.1 = true
  isModuleSource : ∀ e ∈ artifacts, IsModuleSource e.2

/-- The file of a module has the name of one. -/
theorem isModuleFile_fileName (module : String) : isModuleFile (fileName module) = true := by
  rw [isModuleFile, fileName, String.toList_append]
  exact List.isSuffixOf_iff_suffix.2 (List.suffix_append _ _)

/-- **The artifacts of a model are modules** under names of their own. -/
theorem isPackage_artifacts {m : Model} (h : m.WellNamed) : IsPackage (artifacts m) := by
  have hnot : ¬ IsNameChar '\r' := by decide
  have hmember : ∀ l ∈ m.locales, '\r' ∉ l.memberName.toList := fun l hl hmem =>
    hnot ((safeName_memberName h hl).nameChars _ hmem)
  have hmodule : ∀ l ∈ m.locales, '\r' ∉ l.moduleName.toList := fun l hl hmem =>
    hnot (nameChars_moduleName h hl _ hmem)
  have hformatted := return_not_mem_fixedLines formattedStringLines (by simp [fixedLines])
  have hface := return_not_mem_fixedLines faceLines (by simp [fixedLines])
  have hall : ∀ e ∈ artifacts m, Package.isModuleFile e.1 = true ∧ IsModuleSource e.2 := by
    intro e he
    rw [artifacts_eq h, List.mem_append, List.mem_cons, List.mem_map] at he
    rcases he with (rfl | ⟨e, he, rfl⟩) | he
    · exact ⟨isModuleFile_fileName _, isModuleSource_moduleOf hformatted⟩
    · exact ⟨isModuleFile_fileName _, isModuleSource_tables _⟩
    · simp only [List.mem_cons, List.not_mem_nil, or_false] at he
      rcases he with rfl | rfl | rfl
      · exact ⟨isModuleFile_fileName _, isModuleSource_registry hmember⟩
      · refine ⟨isModuleFile_fileName _, isModuleSource_accessor ?_ hmodule⟩
        exact List.forall_mem_cons.2 ⟨hmember _ (default_mem_locales h), hmember⟩
      · exact ⟨isModuleFile_fileName _, isModuleSource_moduleOf hface⟩
  exact ⟨nodup_artifacts m, fun e he => (hall e he).1, fun e he => (hall e he).2⟩

/-! ## Bytes -/

theorem toList_loop (bs : ByteArray) (i : Nat) (acc : List UInt8) :
    ByteArray.toList.loop bs i acc = acc.reverse ++ bs.data.toList.drop i := by
  fun_induction ByteArray.toList.loop bs i acc with
  | case1 i acc h ih =>
      have hi : i < bs.data.toList.length := h
      have hget : bs.get! i = bs.data.toList[i] := by
        rw [ByteArray.get!, getElem!_pos bs.data i h, Array.getElem_toList]
      rw [ih, List.reverse_cons, List.append_assoc, List.drop_eq_getElem_cons hi, hget]
      rfl
  | case2 i acc h =>
      have hle : bs.data.toList.length ≤ i := Nat.not_lt.1 h
      rw [List.drop_eq_nil_of_le hle, List.append_nil]

theorem toList_eq_data (bs : ByteArray) : bs.toList = bs.data.toList := by
  rw [ByteArray.toList, toList_loop]
  rfl

/-- The bytes of two texts, one after the other. -/
theorem toList_toUTF8_append (s t : String) :
    (s ++ t).toUTF8.toList = s.toUTF8.toList ++ t.toUTF8.toList := by
  rw [toList_eq_data, toList_eq_data, toList_eq_data]
  simp

/-- A file is known as compiled by the header and a line end after it. -/
theorem isCompiled_of_toList {content : ByteArray} {b : UInt8} {bytes : List UInt8}
    (hb : b = 10 ∨ b = 13) (h : content.toList = headerLine.toUTF8.toList ++ b :: bytes) :
    isCompiled content = true := by
  rw [isCompiled, h]
  simpa using hb

/-- A module that was written is known as a compiled one. -/
theorem isCompiled_toUTF8 {source : String} (h : IsModuleSource source) :
    isCompiled source.toUTF8 = true := by
  obtain ⟨rest, hrest⟩ := h.header
  have hsource : source = headerLine ++ ("\n" ++ String.ofList rest) := by
    have hlist : (String.ofList rest).toList = rest := String.toList_ofList
    apply String.toList_injective
    rw [hrest, String.toList_append, String.toList_append, hlist]
    rfl
  have hfeed : "\n".toUTF8.toList = [10] := by
    rw [toList_eq_data]
    decide
  have hbytes : source.toUTF8.toList =
      headerLine.toUTF8.toList ++ 10 :: (String.ofList rest).toUTF8.toList := by
    rw [hsource, toList_toUTF8_append, toList_toUTF8_append, hfeed, List.singleton_append]
  exact isCompiled_of_toList (.inl rfl) hbytes

/-- The header line makes a compiled module by itself. -/
theorem isCompiled_header : isCompiled (headerLine ++ "\n").toUTF8 = true := by
  have hsource : moduleOf [] = headerLine ++ "\n" := by decide +kernel
  rw [← hsource]
  exact isCompiled_toUTF8 (isModuleSource_moduleOf nofun)

/-- The bytes of a text are read back as the text. -/
theorem fromUTF8?_toUTF8 (s : String) : String.fromUTF8? s.toUTF8 = some s := by
  have hvalid : s.toUTF8.IsValidUTF8 := s.isValidUTF8
  rw [String.fromUTF8?, dif_pos hvalid]
  rfl

/-- A module that was written is read as it is. -/
theorem textOf?_toUTF8 {source : String} (h : IsModuleSource source) :
    FileTree.textOf? source.toUTF8 = some source := by
  rw [FileTree.textOf?, fromUTF8?_toUTF8, Option.map_some, unifyLineEnds_eq_self h.no_return,
    String.ofList_toList]

/-! ## Names of files -/

/-- Every character takes a byte at least. -/
theorem length_le_utf8ByteSize (s : String) : s.toList.length ≤ s.utf8ByteSize := by
  obtain ⟨cs, rfl⟩ : ∃ cs, s = String.ofList cs := ⟨s.toList, String.ofList_toList.symm⟩
  rw [String.toList_ofList]
  induction cs with
  | nil => exact Nat.zero_le _
  | cons c cs ih =>
      have hcons : String.ofList (c :: cs) = String.singleton c ++ String.ofList cs := by
        apply String.toList_injective
        rw [String.toList_append, String.toList_ofList, String.toList_ofList,
          String.toList_singleton]
        rfl
      rw [hcons, String.utf8ByteSize_append, String.utf8ByteSize_singleton, List.length_cons]
      have hpos := c.utf8Size_pos
      omega

theorem length_tablesFile {l : Locale} (h : SafeName l.name) :
    (tablesFile l).toList.length = l.name.toList.length + 11 := by
  have hstart : "strings_".toList.length = 8 := rfl
  have hend : moduleSuffix.toList.length = 3 := rfl
  rw [tablesFile, fileName, Locale.moduleName, String.toList_append, String.toList_append,
    List.length_append, List.length_append, h.toList_lower, List.length_map]
  omega

end Package

end StringCatalog
