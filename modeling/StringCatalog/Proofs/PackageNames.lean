import StringCatalog.Package.RegistryModule
import StringCatalog.Proofs.Discovered
import StringCatalog.Text.Identifier

/-!
# StringCatalog.Proofs.PackageNames

The names under which a package knows its locales.  Member names are in upper
case, or `DEFAULT`; module names hold the name in lower case.  Locales whose
names are apart in lower case have members and modules of their own.

* `WellNamed.nodup_memberNames`, `WellNamed.nodup_moduleNames` — no name twice;
* `WellNamed.isMemberName` — a member name is an identifier that means nothing
  else in the class of the registry.
-/

namespace StringCatalog

open Text Package

/-! ## Names of members -/

/-- The name of the method that a line of a class defines. -/
def Package.methodName? (line : String) : Option String :=
  (expect? "    def ".toList line.toList).map fun cs => String.ofList (cs.takeWhile (· ≠ '('))

/-- The names of the methods of a registry. -/
def Package.RegistryModule.methodNames : List String := closingLines.filterMap methodName?

theorem methodNames_eq : RegistryModule.methodNames =
    ["__init__", "supported_locales", "supported_native_locales", "find_by_code"] := by
  decide +kernel

/-- Names with underscores at both ends, which a class of members keeps for itself. -/
def IsSunder (s : String) : Prop := s.toList.head? = some '_' ∧ s.toList.getLast? = some '_'

/-- What a name must be to name a member of the registry. -/
structure IsMemberName (s : String) : Prop where
  ascii : ∀ c ∈ s.toList, c.toNat < 128
  identifier : isIdentifier s = true
  not_reserved : s ∉ reservedWords
  not_sunder : ¬ IsSunder s
  not_method : s ∉ RegistryModule.methodNames

theorem isIdentifierStart_of_isUpper {c : Char} (h : c.isUpper = true) :
    isIdentifierStart c = true := by
  rw [isIdentifierStart, if_pos (lt_of_isUpper h), isAlpha_of_isUpper h]
  rfl

/-- The characters of names may stand in identifiers. -/
theorem IsNameChar.isIdentifierRest {c : Char} (h : IsNameChar c) : isIdentifierRest c = true := by
  rw [Text.isIdentifierRest, if_pos h.lt]
  exact h

/-- Safe names are identifiers. -/
theorem SafeName.isIdentifier {s : String} (h : SafeName s) : isIdentifier s = true := by
  obtain ⟨c, cs, hcs, hc⟩ := h.upperFirst
  have hrest : ∀ d ∈ cs, Text.isIdentifierRest d = true := fun d hd =>
    (h.nameChars d (hcs ▸ List.mem_cons_of_mem c hd)).isIdentifierRest
  rw [Text.isIdentifier, hcs]
  simpa [isIdentifierStart_of_isUpper hc] using hrest

theorem not_isLower_toUpper {c : Char} (h : IsNameChar c) : c.toUpper.isLower = false :=
  forall_ascii (p := fun c => c.toUpper.isLower = false) (by decide) h.lt

/-- There is no lower case in upper case. -/
theorem SafeName.not_isLower_upper {s : String} (h : SafeName s) :
    ∀ c ∈ (Text.upper s).toList, c.isLower = false := by
  intro c hc
  rw [h.toList_upper] at hc
  obtain ⟨d, hd, rfl⟩ := List.mem_map.1 hc
  exact not_isLower_toUpper (h.nameChars d hd)

/-- A safe name without lower-case letters names a member. -/
theorem SafeName.isMemberName {s : String} (h : SafeName s)
    (hupper : ∀ c ∈ s.toList, c.isLower = false) : IsMemberName s where
  ascii c hc := (h.nameChars c hc).lt
  identifier := h.isIdentifier
  not_reserved hs := by
    have hlower : ∀ w ∈ reservedWords, w.toList.any Char.isLower = true := by decide +kernel
    obtain ⟨c, hc, hclower⟩ := List.any_eq_true.1 (hlower s hs)
    simp [hupper c hc] at hclower
  not_sunder := by
    rintro ⟨hhead, -⟩
    obtain ⟨c, cs, hcs, hc⟩ := h.upperFirst
    rw [hcs] at hhead
    cases hhead
    exact absurd hc (by decide)
  not_method hs := by
    have hlower : ∀ w ∈ RegistryModule.methodNames, w.toList.any Char.isLower = true := by
      rw [methodNames_eq]
      decide +kernel
    obtain ⟨c, hc, hclower⟩ := List.any_eq_true.1 (hlower s hs)
    simp [hupper c hc] at hclower

/-! ## Names of locales -/

theorem safeName_default : SafeName "DEFAULT" :=
  ⟨forall_mem_of_all (by decide), 'D', "EFAULT".toList, by decide⟩

theorem lower_default : lower "DEFAULT" = "default" := by decide +kernel

theorem Locale.memberName_of_isDefault {l : Locale} (h : l.isDefault = true) :
    l.memberName = "DEFAULT" := if_pos h

theorem Locale.memberName_of_not_isDefault {l : Locale} (h : l.isDefault = false) :
    l.memberName = upper l.name := if_neg (by simp [h])

namespace WellNamed

variable {default : Locale} {others : List Locale}

/-- All names are safe. -/
theorem name (h : WellNamed default others) : ∀ l ∈ default :: others, SafeName l.name :=
  List.forall_mem_cons.2 ⟨h.default_name, h.others_name⟩

/-- Only the default locale has its member name. -/
theorem memberName_ne_default (h : WellNamed default others) {l : Locale} (hl : l ∈ others) :
    l.memberName ≠ "DEFAULT" := by
  intro heq
  rw [Locale.memberName_of_not_isDefault (h.others_isDefault l hl)] at heq
  apply h.lower_ne_default l hl
  rw [← (h.others_name l hl).lower_upper, heq, lower_default]

/-- The default locale is the only one that goes by `DEFAULT`. -/
theorem memberName_eq_default_iff (h : WellNamed default others) {l : Locale}
    (hl : l ∈ default :: others) : l.memberName = "DEFAULT" ↔ l = default := by
  constructor
  · intro heq
    rcases List.mem_cons.1 hl with rfl | hl
    · rfl
    · exact absurd heq (h.memberName_ne_default hl)
  · rintro rfl
    exact Locale.memberName_of_isDefault h.default_isDefault

/-- Locales with the same member name have the same name up to case. -/
theorem lower_eq_of_memberName_eq (h : WellNamed default others) {l l' : Locale}
    (hl : l ∈ default :: others) (hl' : l' ∈ default :: others)
    (heq : l.memberName = l'.memberName) : lower l.name = lower l'.name := by
  have hdefault := Locale.memberName_of_isDefault h.default_isDefault
  rcases List.mem_cons.1 hl with rfl | hm <;> rcases List.mem_cons.1 hl' with rfl | hm'
  · rfl
  · exact absurd (heq.symm.trans hdefault) (h.memberName_ne_default hm')
  · exact absurd (heq.trans hdefault) (h.memberName_ne_default hm)
  · rw [Locale.memberName_of_not_isDefault (h.others_isDefault l hm),
      Locale.memberName_of_not_isDefault (h.others_isDefault l' hm')] at heq
    exact (h.others_name l hm).lower_eq_of_upper_eq (h.others_name l' hm') heq

/-- Locales with the same module have the same name up to case. -/
theorem lower_eq_of_moduleName_eq {l l' : Locale} (heq : l.moduleName = l'.moduleName) :
    lower l.name = lower l'.name := by
  have hlist := congrArg String.toList heq
  rw [Locale.moduleName, Locale.moduleName, String.toList_append, String.toList_append] at hlist
  exact String.toList_injective (List.append_cancel_left hlist)

/-- What tells apart names that differ in lower case tells apart all locales. -/
theorem nodup_map (h : WellNamed default others) {β : Type} {f : Locale → β}
    (hf : ∀ l ∈ default :: others, ∀ l' ∈ default :: others, f l = f l' →
      lower l.name = lower l'.name) : ((default :: others).map f).Nodup := by
  refine List.pairwise_map.2 (List.Pairwise.imp_of_mem ?_ (List.pairwise_map.1 h.lower_nodup))
  intro l l' hl hl' hne heq
  exact hne (hf l hl l' hl' heq)

/-- **No two locales share a member.** -/
theorem nodup_memberNames (h : WellNamed default others) :
    ((default :: others).map Locale.memberName).Nodup :=
  h.nodup_map fun _ hl _ hl' => h.lower_eq_of_memberName_eq hl hl'

/-- **No two locales share a module.** -/
theorem nodup_moduleNames (h : WellNamed default others) :
    ((default :: others).map Locale.moduleName).Nodup :=
  h.nodup_map fun _ _ _ _ => lower_eq_of_moduleName_eq

/-- Names of members are safe as well. -/
theorem safeName_memberName (h : WellNamed default others) {l : Locale}
    (hl : l ∈ default :: others) : SafeName l.memberName := by
  rcases List.mem_cons.1 hl with rfl | hl
  · rw [Locale.memberName_of_isDefault h.default_isDefault]
    exact safeName_default
  · rw [Locale.memberName_of_not_isDefault (h.others_isDefault l hl)]
    exact (h.others_name l hl).upper

/-- **Every locale has a name that a member can have.** -/
theorem isMemberName (h : WellNamed default others) {l : Locale} (hl : l ∈ default :: others) :
    IsMemberName l.memberName := by
  refine (h.safeName_memberName hl).isMemberName ?_
  rcases List.mem_cons.1 hl with rfl | hl
  · rw [Locale.memberName_of_isDefault h.default_isDefault]
    exact forall_mem_of_all (by decide)
  · rw [Locale.memberName_of_not_isDefault (h.others_isDefault l hl)]
    exact (h.others_name l hl).not_isLower_upper

/-- Names of modules consist of the characters of names. -/
theorem nameChars_moduleName (h : WellNamed default others) {l : Locale}
    (hl : l ∈ default :: others) : ∀ c ∈ l.moduleName.toList, IsNameChar c := by
  intro c hc
  rw [Locale.moduleName, String.toList_append, List.mem_append] at hc
  rcases hc with hc | hc
  · have hprefix : ∀ d ∈ "strings_".toList, IsNameChar d :=
      forall_mem_of_all (by decide)
    exact hprefix c hc
  · exact (h.name l hl).nameChars_lower c hc

end WellNamed

end StringCatalog
