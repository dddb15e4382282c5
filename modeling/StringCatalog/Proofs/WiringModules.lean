import StringCatalog.Package.AccessorModule
import StringCatalog.Proofs.Literals
import StringCatalog.Proofs.SafeNames

/-!
# StringCatalog.Proofs.WiringModules

The two modules that say which locales a package has are read back as they were
written: the registry as its members, the accessor as its wiring.

* `RegistryModule.read?_chars` — members whose names have no space in them;
* `AccessorModule.read?_chars` — wirings of names that no mark ends early.
-/

namespace StringCatalog.Package

open Text Lookup

/-! ## The registry -/

namespace RegistryModule

/-- The line of a member is read back, whatever follows it. -/
theorem readMember?_memberLine (m : String × MemberValue) (hname : ' ' ∉ m.1.toList)
    (rest : List Char) : readMember? (memberLine m ++ rest) = some (m, rest) := by
  obtain ⟨name, token, code, displayName, nativeName⟩ := m
  have hspace : ∀ c ∈ name.toList, decide (c ≠ ' ') = true := by
    intro c hc
    rw [decide_eq_true_eq]
    rintro rfl
    exact hname hc
  have hequals : ∀ cs, expect? [' ', '=', ' '] (' ' :: '=' :: ' ' :: cs) = some cs :=
    expect?_append [' ', '=', ' ']
  have hrow := readsBack_row [token, code, displayName, nativeName] '\n' rest trivial
  simp only [memberLine, valueRow, List.append_assoc, List.cons_append, List.nil_append,
    readMember?, expect?_append, Option.bind_eq_bind, Option.bind_some,
    List.takeWhile_append_of_pos hspace, List.dropWhile_append_of_pos hspace]
  simp [hequals, hrow, expect?_singleton]

/-- Members are read back up to the lines that follow them. -/
theorem readMembers?_memberLines (members : List (String × MemberValue))
    (hnames : ∀ m ∈ members, ' ' ∉ m.1.toList) :
    readMembers? (members.flatMap memberLine ++ linesChars closingLines) = some members := by
  induction members with
  | nil => rw [List.flatMap_nil, List.nil_append, readMembers?, if_pos rfl]
  | cons m members ih =>
      have hm := readMember?_memberLine m (hnames m List.mem_cons_self)
        (members.flatMap memberLine ++ linesChars closingLines)
      have hrest := ih fun m' hm' => hnames m' (List.mem_cons_of_mem m hm')
      -- a member is indented, and the lines that follow the members start with an empty one
      have hne : memberLine m ++ (members.flatMap memberLine ++ linesChars closingLines) ≠
          linesChars closingLines := by
        intro heq
        have hhead := congrArg List.head? heq
        have hclosing : (linesChars closingLines).head? = some '\n' := rfl
        rw [hclosing] at hhead
        exact absurd (Option.some.inj hhead) (by decide)
      have hlength : (members.flatMap memberLine ++ linesChars closingLines).length <
          (memberLine m ++ (members.flatMap memberLine ++ linesChars closingLines)).length := by
        simp only [memberLine, indent, List.length_append, List.length_cons]
        omega
      rw [List.flatMap_cons, List.append_assoc, readMembers?, if_neg hne, hm]
      dsimp only
      rw [dif_pos hlength, hrest]
      rfl

/-- **A registry is read back as its members.** -/
theorem read?_chars (members : List (String × MemberValue))
    (hnames : ∀ m ∈ members, ' ' ∉ m.1.toList) : read? (chars members) = some members := by
  rw [chars, List.append_assoc, read?, expect?_append]
  exact readMembers?_memberLines members hnames

end RegistryModule

/-! ## The accessor -/

namespace AccessorModule

open RegistryModule (linesChars)

/-- A name that a reader sees whole: it is not empty and has no mark in it. -/
structure IsUnmarked (name : String) : Prop where
  ne_nil : name.toList ≠ []
  not_isMark : ∀ c ∈ name.toList, isMark c = false

theorem isUnmarked_of_nameChars {name : String} (hne : name.toList ≠ [])
    (h : ∀ c ∈ name.toList, IsNameChar c) : IsUnmarked name where
  ne_nil := hne
  not_isMark c hc := forall_ascii (p := fun c => IsNameChar c → isMark c = false) (by decide)
    (h c hc).lt (h c hc)

/-- Names without marks read back. -/
theorem readsBack_name {name : String} (h : IsUnmarked name) :
    ReadsBack readName? String.toList (isMark · = true) name := by
  intro c rest hc
  have hname : ∀ d ∈ name.toList, (!isMark d) = true := fun d hd => by simp [h.not_isMark d hd]
  have htake : (name.toList ++ c :: rest).takeWhile (fun d => !isMark d) = name.toList := by
    rw [List.takeWhile_append_of_pos hname, List.takeWhile_cons_of_neg (by simp [hc]),
      List.append_nil]
  have hdrop : (name.toList ++ c :: rest).dropWhile (fun d => !isMark d) = c :: rest := by
    rw [List.dropWhile_append_of_pos hname, List.dropWhile_cons_of_neg (by simp [hc])]
  rw [readName?, htake, hdrop]
  split
  · next hnil => exact absurd hnil h.ne_nil
  · rw [String.ofList_toList]

/-- So does a pair of them. -/
theorem readsBack_wire {w : String × String} (h₁ : IsUnmarked w.1) (h₂ : IsUnmarked w.2) :
    ReadsBack readWire? wire (isMark · = true) w := by
  intro c rest hc
  have hcolon : ∀ cs, expect? [':', ' '] (':' :: ' ' :: cs) = some cs := expect?_append [':', ' ']
  have hmember := readsBack_name h₁ ':' (' ' :: (w.2.toList ++ c :: rest)) (by decide)
  have hmodule := readsBack_name h₂ c rest hc
  simp only [wire, List.append_assoc, List.cons_append, readWire?, expect?_append]
  simp [hmember, hcolon, hmodule]

/-- What the names of a wiring must be for its module to be read. -/
structure IsReadable (w : Wiring) : Prop where
  imported_ne_nil : w.imported ≠ []
  imported : ∀ name ∈ w.imported, IsUnmarked name
  tables : ∀ e ∈ w.tables, IsUnmarked e.1 ∧ IsUnmarked e.2
  default : IsUnmarked w.default

/-- No unmarked name starts with a mark. -/
theorem IsUnmarked.not_isPrefixOf {name : String} (h : IsUnmarked name) {c : Char}
    (hc : isMark c = true) (tail : List Char) : ¬ [c] <+: name.toList ++ tail := by
  obtain ⟨d, ds, hds⟩ := List.exists_cons_of_ne_nil h.ne_nil
  rw [hds, List.cons_append, List.cons_prefix_cons]
  rintro ⟨rfl, -⟩
  have hd := h.not_isMark c (hds ▸ List.mem_cons_self)
  simp [hc] at hd

/-- No wired member starts like the end of the wiring. -/
theorem not_prefix_wire (w : String × String) (tail : List Char) :
    ¬ ['\x7d'] <+: wire w ++ tail := by
  have hopening : memberOpening = 'A' :: "ppLocale.".toList := rfl
  rw [wire, hopening, List.append_assoc, List.append_assoc, List.cons_append, List.cons_prefix_cons]
  exact fun h => absurd h.1 (by decide)

/-- **An accessor is read back as its wiring.** -/
theorem read?_chars (w : Wiring) (h : IsReadable w) : read? (chars w) = some w := by
  have himported : ∀ rest, readItems? readName? ['\n'] true
      (commaSeparated (w.imported.map String.toList) ++ '\n' :: rest) = some (w.imported, rest) :=
    readItems?_commaSeparated (by decide) (by decide) (by decide) w.imported
      (fun name hname => readsBack_name (h.imported name hname))
      (fun name hname => (h.imported name hname).not_isPrefixOf (by decide)) true
      (fun hnil => absurd hnil h.imported_ne_nil)
  have htables : ∀ rest, readItems? readWire? ['\x7d'] false
      (commaSeparated (w.tables.map wire) ++ '\x7d' :: rest) = some (w.tables, rest) :=
    readItems?_commaSeparated (by decide) (by decide) (by decide) w.tables
      (fun e he => readsBack_wire (h.tables e he).1 (h.tables e he).2)
      (fun e _ => not_prefix_wire e) false (fun _ => rfl)
  have hdefault := readsBack_name h.default ')' ('\n' :: linesChars closingLines) (by decide)
  have hopening : ∀ cs, expect? (linesChars (headerLine :: openingLines) ++ importOpening)
      (linesChars (headerLine :: openingLines) ++ (importOpening ++ cs)) = some cs := by
    intro cs
    rw [← List.append_assoc]
    exact expect?_append _ cs
  have hmiddle : ∀ cs, expect? (linesChars middleLines ++ wiringOpening)
      (linesChars middleLines ++ (wiringOpening ++ cs)) = some cs := by
    intro cs
    rw [← List.append_assoc]
    exact expect?_append _ cs
  have hcomma : ∀ cs, expect? (',' :: ' ' :: memberOpening)
      (',' :: ' ' :: (memberOpening ++ cs)) = some cs :=
    expect?_append (',' :: ' ' :: memberOpening)
  rw [chars, read?]
  simp only [List.append_assoc, List.cons_append, Option.bind_eq_bind]
  rw [hopening, Option.bind_some, himported, Option.bind_some]
  dsimp only
  rw [hmiddle, Option.bind_some, htables, Option.bind_some]
  dsimp only
  rw [hcomma, Option.bind_some, hdefault, Option.bind_some]
  dsimp only
  rw [if_pos rfl]
  rfl

end AccessorModule

end StringCatalog.Package
