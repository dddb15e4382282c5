import StringCatalog.Proofs.Accounting
import StringCatalog.Proofs.Collected
import StringCatalog.Proofs.LowerCase

/-!
# StringCatalog.Proofs.Codes

The code of a locale is its token in lower case, as it is; what is kept apart
is the names.  Codes are apart with them, but for tokens with one of the two
characters whose lower case falls to ASCII.

* `Discovers.codes_apart` — when locales can share a code;
* `findByCode_registryOf` — the first locale of a code is found;
* `locales_by_code` — so the registry leads from a code to its locale, and to
  the names of that locale, wherever no two locales share the code.
-/

namespace StringCatalog

open Text Package Lookup

/-! ## The names of English -/

/-- An ASCII character that is lower case already stays through the conversion to lower case. -/
theorem mem_lowerAfter {c : Char} {cs : List Char} (hc : c.toNat < 0x80) (hlower : c.toLower = c)
    (hmem : c ∈ cs) (before : List Char) : c ∈ lowerAfter before cs := by
  induction cs generalizing before with
  | nil => cases hmem
  | cons d ds ih =>
      rw [lowerAfter, List.mem_append]
      by_cases hd : c = d
      · subst hd
        have hsigma : c.toNat ≠ 0x3a3 := by omega
        simp [hsigma, lowerChar_ascii hc, hlower]
      · exact .inr (ih ((List.mem_cons.1 hmem).resolve_left hd) _)

theorem lower_defaultCode : lower Locale.defaultCode = Locale.defaultCode := by decide

/-- Every token of the default locale's code has the default locale's names. -/
theorem namesOf_of_lower_eq {token : String} (h : lower token = Locale.defaultCode) :
    Language.namesOf token = Language.namesOf Locale.defaultCode := by
  have hprimary : Language.primary token = Language.primary Locale.defaultCode := by
    rw [Language.primary, Language.primary, h, lower_defaultCode]
  have hseparators : token.toList.any Language.isSeparator = false := by
    rw [List.any_eq_false]
    intro c hmem hseparator
    have hcases : c = '_' ∨ c = '-' := by simpa [Language.isSeparator] using hseparator
    have hlower : c ∈ (lower token).toList := by
      rw [lower, String.toList_ofList]
      rcases hcases with rfl | rfl
      · exact mem_lowerAfter (by decide) (by decide) hmem []
      · exact mem_lowerAfter (by decide) (by decide) hmem []
    rw [h] at hlower
    rcases hcases with rfl | rfl
    · exact absurd hlower (by decide)
    · exact absurd hlower (by decide)
  have hdefault : Locale.defaultCode.toList.any Language.isSeparator = false := by decide
  have hknown : (Language.known.get? (Language.primary Locale.defaultCode)).isSome = true := by
    decide
  obtain ⟨names, hnames⟩ := Option.isSome_iff_exists.1 hknown
  rw [Language.namesOf, Language.namesOf, hprimary, hnames]
  simp only [hseparators, hdefault, Bool.false_eq_true, if_false]

/-! ## Codes in a registry -/

namespace Package

def registryOf (locales : List Locale) : Registry := ⟨locales.map RegistryModule.memberOf⟩

section WellNamed

variable {default : Locale} {others : List Locale} (h : WellNamed default others)
include h

/-- **The first locale of a code is found.** -/
theorem findByCode_registryOf {code : String} {l : Locale}
    (hfirst : (default :: others).find? (fun l => decide (l.code = code)) = some l) :
    (registryOf (default :: others)).findByCode (.text code) = some l.memberName := by
  have hcode : (fun m : String × MemberValue => Value.text m.2.code == Value.text code) ∘
      RegistryModule.memberOf = fun l => decide (l.code = code) := by
    funext l
    exact Value.text_beq_text _ _
  rw [Registry.findByCode, registryOf, h.members_registry, List.find?_map, hcode, hfirst]
  rfl

end WellNamed

/-- When all locales of a code say the same, a map by codes says it of that code. -/
theorem get?_ofList_codes (f : Locale → String) {locales : List Locale} {l : Locale}
    (hl : l ∈ locales) (hagree : ∀ l' ∈ locales, l'.code = l.code → f l' = f l) :
    (OrderedMap.ofList (locales.map fun l => (l.code, f l))).get? l.code = some (f l) := by
  have hcollects := OrderedMap.collects_ofList (fun l => some (l.code, f l)) locales
  have hgiven : ∃ l' ∈ locales, ∃ v, OrderedMap.Writes (fun l => some (l.code, f l)) l' l.code v :=
    ⟨l, hl, f l, rfl⟩
  obtain ⟨v, hlast⟩ := OrderedMap.exists_lastGiven_iff.2 hgiven
  have hv : v = f l := by
    obtain ⟨before, l', after, rfl, hwrites, -⟩ := hlast
    obtain ⟨hcode, rfl⟩ : l'.code = l.code ∧ f l' = v := by simpa [OrderedMap.Writes] using hwrites
    exact hagree l' (by simp) hcode
  rw [← hv, ← List.filterMap_eq_map]
  exact (hcollects.get?_iff _ _).2 hlast

/-- Among the locales of a code there is a first, and it is the one that is found. -/
theorem exists_first_of_code {locales : List Locale} {l : Locale} (hl : l ∈ locales) :
    ∃ first ∈ locales, first.code = l.code ∧
      locales.find? (fun l' => decide (l'.code = l.code)) = some first := by
  have hsome : (locales.find? fun l' => decide (l'.code = l.code)).isSome = true :=
    List.find?_isSome.2 ⟨l, hl, by simp⟩
  obtain ⟨first, hfirst⟩ := Option.isSome_iff_exists.1 hsome
  exact ⟨first, List.mem_of_find?_eq_some hfirst, by simpa using List.find?_some hfirst, hfirst⟩

/-- What a registry of a default locale and others must do to lead from codes to locales: find each
of the others by its code, and tell the names of what it finds, unless others share the code. -/
structure LeadsByCode (default : Locale) (others : List Locale) (r : Registry) : Prop where
  find_own : ∀ l ∈ others, l.code ≠ default.code → (∀ l' ∈ others, l'.code = l.code → l' = l) →
    r.findByCode (.text l.code) = some l.memberName
  names_of_found : ∀ code ∈ r.displayNames.keys,
    (∀ l ∈ others, ∀ l' ∈ others, l.code = code → l'.code = code → l = l') →
    ∃ l ∈ default :: others, r.findByCode (.text code) = some l.memberName ∧
      r.displayNames.get? code = some l.displayName ∧ r.nativeNames.get? code = some l.nativeName

section WellNamed

variable {default : Locale} {others : List Locale} (h : WellNamed default others)
include h

/-- The display names of a registry, by code, as its table lists them. -/
theorem displayNames_registryOf :
    (registryOf (default :: others)).displayNames =
      OrderedMap.ofList ((default :: others).map fun l => (l.code, l.displayName)) := by
  rw [Registry.displayNames, registryOf, h.members_registry, List.map_map]
  rfl

/-- The native names of a registry, by code, as its table lists them. -/
theorem nativeNames_registryOf :
    (registryOf (default :: others)).nativeNames =
      OrderedMap.ofList ((default :: others).map fun l => (l.code, l.nativeName)) := by
  rw [Registry.nativeNames, registryOf, h.members_registry, List.map_map]
  rfl

/-- A registry leads from codes to locales if locales of the default code have the default names. -/
theorem leadsByCode_registryOf
    (hdefault : ∀ l ∈ others, l.code = default.code →
      l.displayName = default.displayName ∧ l.nativeName = default.nativeName) :
    LeadsByCode default others (registryOf (default :: others)) where
  find_own l hl hcode hown := by
    obtain ⟨first, hmem, hsame, hfirst⟩ := exists_first_of_code (List.mem_cons_of_mem default hl)
    have hother : first ∈ others :=
      (List.mem_cons.1 hmem).resolve_left fun heq => hcode (by rw [← hsame, heq])
    rw [findByCode_registryOf h hfirst, hown first hother hsame]
  names_of_found code hkey hown := by
    rw [displayNames_registryOf h, ← List.filterMap_eq_map,
      (OrderedMap.collects_ofList _ _).mem_keys] at hkey
    obtain ⟨l, hl, name, hwrites⟩ := hkey
    obtain ⟨rfl, -⟩ : l.code = code ∧ l.displayName = name := by
      simpa [OrderedMap.Writes] using hwrites
    obtain ⟨first, hmem, hsame, hfirst⟩ := exists_first_of_code hl
    have hagree : ∀ l' ∈ default :: others, l'.code = first.code →
        l'.displayName = first.displayName ∧ l'.nativeName = first.nativeName := by
      intro l' hl' hcode
      rw [List.mem_cons] at hmem hl'
      rcases hmem with rfl | hmem
      · rcases hl' with rfl | hl'
        · exact ⟨rfl, rfl⟩
        · exact hdefault l' hl' hcode
      · rcases hl' with rfl | hl'
        · have hnames := hdefault first hmem hcode.symm
          exact ⟨hnames.1.symm, hnames.2.symm⟩
        · rw [hown l' hl' first hmem (hcode.trans hsame) hsame]
          exact ⟨rfl, rfl⟩
    refine ⟨first, hmem, findByCode_registryOf h hfirst, ?_, ?_⟩
    · rw [displayNames_registryOf h, ← hsame]
      exact get?_ofList_codes Locale.displayName hmem fun l' hl' hcode => (hagree l' hl' hcode).1
    · rw [nativeNames_registryOf h, ← hsame]
      exact get?_ofList_codes Locale.nativeName hmem fun l' hl' hcode => (hagree l' hl' hcode).2

end WellNamed

end Package

/-! ## Codes of discovered locales -/

namespace Compilation

open Discovery

variable {t : FileTree} {s : Settings} {found : Discovered}

/-- The display name of a directory's locale is the English name of its token. -/
theorem displayName_ofDirectory (d : String) :
    (Locale.ofDirectory d).displayName = (Language.namesOf (token d)).english := by
  simp only [Locale.ofDirectory, Locale.ofToken, token]

/-- The native name of a directory's locale is that of its token. -/
theorem nativeName_ofDirectory (d : String) :
    (Locale.ofDirectory d).nativeName = (Language.namesOf (token d)).native := by
  simp only [Locale.ofDirectory, Locale.ofToken, token]

/-- The default locale has the default code and the names that go with it. -/
theorem default?_names {name : String} {default : Locale} (h : Locale.default? name = some default) :
    default.code = Locale.defaultCode ∧
      default.displayName = (Language.namesOf Locale.defaultCode).english ∧
      default.nativeName = (Language.namesOf Locale.defaultCode).native := by
  unfold Locale.default? at h
  dsimp only at h
  split at h
  · cases h
  · cases h
    exact ⟨rfl, rfl, rfl⟩

/-- What is found is the default locale and the locales of some directories. -/
theorem Discovers.directories (h : Discovers t s found) :
    Locale.default? s.defaultLocaleName = some found.default.1 ∧
      ∃ listed : List String, found.others = listed.map fun d =>
        (Locale.ofDirectory d, (s.resourcesDir.entry d).child s.catalogFile) := by
  obtain ⟨default, hdefault, -, -⟩ := exists_default h.usable.1
  obtain ⟨found', message, hdiscover, hfirst, hothers⟩ : ∃ found' message, _ ∧ _ ∧ _ :=
    discover_eq_ok hdefault h.usable.2
  have hfound : Discovers t s found' := congrArg Prod.fst hdiscover
  obtain rfl := h.unique hfound
  exact ⟨by rw [hfirst, hdefault], _, hothers⟩

/-- **Locales share a code only if** the token of one of them has a Kelvin sign or a capital `I` with
a dot above. -/
theorem Discovers.codes_apart (h : Discovers t s found) {listed : List String}
    (hothers : found.others = listed.map fun d =>
      (Locale.ofDirectory d, (s.resourcesDir.entry d).child s.catalogFile)) :
    listed.Pairwise fun d e => (Locale.ofDirectory d).code = (Locale.ofDirectory e).code →
      ∃ c ∈ (token d).toList ++ (token e).toList, c.toNat = 0x212a ∨ c.toNat = 0x130 := by
  have hnames : (listed.map lowerName).Nodup := by
    have hall := h.names_apart
    rw [Discovered.all, List.map_cons, List.nodup_cons, hothers, List.map_map] at hall
    exact hall.2
  refine (List.pairwise_map.1 hnames).imp fun {d e} hname hcode => ?_
  by_contra hplain
  have hall : ∀ c ∈ (token d).toList ++ (token e).toList, isPlain c = true := by
    intro c hc
    have hnot := fun hspecial => hplain ⟨c, hc, hspecial⟩
    simpa [isPlain, not_or] using hnot
  rw [List.forall_mem_append] at hall
  exact hname (lower_safeName_eq hall.1 hall.2 hcode)

/-- **Locales by their codes.**  Of the discovered locales two share a code only if the token of one
of them has a Kelvin sign or a capital `I` with a dot above.  The registry of the default locale and
any others of them leads to each by its code, and tells the names of what it leads to, wherever no
two of the others share the code. -/
theorem locales_by_code (h : Discovers t s found) :
    (∃ listed : List String,
      (found.others = listed.map fun d =>
        (Locale.ofDirectory d, (s.resourcesDir.entry d).child s.catalogFile)) ∧
      listed.Pairwise fun d e => (Locale.ofDirectory d).code = (Locale.ofDirectory e).code →
        ∃ c ∈ (token d).toList ++ (token e).toList, c.toNat = 0x212a ∨ c.toNat = 0x130) ∧
    found.default.1.code = "en" ∧
    ∀ kept : List Locale, kept.Sublist (found.others.map (·.1)) → ∃ r : Registry,
      RegistryModule.read? (RegistryModule.source (found.default.1 :: kept)).toList =
        some r.names ∧
      LeadsByCode found.default.1 kept r := by
  obtain ⟨hdefault, listed, hothers⟩ := h.directories
  obtain ⟨hcode, hdisplay, hnative⟩ := default?_names hdefault
  refine ⟨⟨listed, hothers, h.codes_apart hothers⟩, hcode, fun kept hkept => ?_⟩
  have hnamed : WellNamed found.default.1 kept := (discover_spec h).1.sublist hkept
  refine ⟨registryOf (found.default.1 :: kept), hnamed.read?_registry,
    leadsByCode_registryOf hnamed fun l hl hsame => ?_⟩
  have hlisted : l ∈ listed.map Locale.ofDirectory := by
    have hmem := hkept.mem hl
    rwa [hothers, List.map_map] at hmem
  obtain ⟨d, -, rfl⟩ := List.mem_map.1 hlisted
  have hnames : Language.namesOf (token d) = Language.namesOf Locale.defaultCode :=
    namesOf_of_lower_eq (hsame.trans hcode)
  rw [hdisplay, hnative, ← hnames]
  exact ⟨displayName_ofDirectory d, nativeName_ofDirectory d⟩

theorem locales_by_code_twoLocales :
    ∃ found l, Discovers twoLocales resSettings found ∧ found.others.map (·.1) = [l] ∧
      l.code = "de" ∧ ∃ r : Registry,
        RegistryModule.read? (RegistryModule.source [found.default.1, l]).toList = some r.names ∧
        r.findByCode (.text "de") = some l.memberName := by
  obtain ⟨found, hfound, hothers⟩ : ∃ found, Discovers twoLocales resSettings found ∧
      found.others.map (·.1) = [Locale.ofDirectory "values-de"] := by
    apply exists_ok_of_toOption_map
    rw [discover, candidates_twoLocales]
    decide
  have hcode : (Locale.ofDirectory "values-de").code = "de" := by decide
  obtain ⟨-, hdefault, hregistry⟩ := locales_by_code hfound
  obtain ⟨r, hread, hleads⟩ := hregistry [Locale.ofDirectory "values-de"] (hothers ▸ .refl _)
  refine ⟨found, _, hfound, hothers, hcode, r, hread, ?_⟩
  rw [← hcode]
  refine hleads.find_own _ List.mem_cons_self ?_ fun l hl _ => List.mem_singleton.1 hl
  rw [hcode, hdefault]
  decide

/-- A tree with two directories whose tokens differ in a Kelvin sign only. -/
def kelvinSign : FileTree where
  workingDir := []
  entries := [
    (["res"], .directory),
    (["res", "values"], .directory),
    (["res", "values-akb"], .directory),
    (["res", "values-a\u212ab"], .directory)]

/-- Both directories stand for a locale. -/
theorem candidates_kelvinSign :
    candidates kelvinSign resSettings.resourcesDir = (["values-akb", "values-a\u212ab"], .ok ()) := by
  have hsorted : FileTree.sortNames ["values", "values-akb", "values-a\u212ab"] =
      ["values", "values-akb", "values-a\u212ab"] := List.mergeSort_of_pairwise (by decide)
  have hnames : kelvinSign.names resSettings.resourcesDir =
      .ok (FileTree.sortNames ["values", "values-akb", "values-a\u212ab"]) := rfl
  have hdir : kelvinSign.isDirectory? resSettings.resourcesDir = .ok true := rfl
  rw [candidates, hdir, hnames, hsorted]
  rfl

/-- The locales of this tree. -/
def kelvinLocales : List Locale := [
  ⟨"Default", "en", "English", "English", true⟩, ⟨"Akb", "akb", "Akb", "Akb", false⟩,
  ⟨"A_b", "akb", "A\u212ab", "A\u212ab", false⟩]

/-- They are what is found: a Kelvin sign keeps the names of the two directories apart. -/
theorem discover_kelvinSign :
    ∃ found, Discovers kelvinSign resSettings found ∧ found.all.map (·.1) = kelvinLocales := by
  apply exists_ok_of_toOption_map
  rw [discover, candidates_kelvinSign]
  decide

/-- Both are listed, as their names differ, and share a code.  The first one is found by it, and the
names told of it are those of the last one. -/
theorem not_codes_apart_kelvin_sign :
    ∃ found, Discovers kelvinSign resSettings found ∧
      ¬ (found.others.map (·.1.code)).Nodup ∧ ∃ r : Registry,
        RegistryModule.read? (RegistryModule.source (found.all.map (·.1))).toList = some r.names ∧
        r.findByCode (.text "akb") = some "AKB" ∧
        r.names.get? "AKB" = some ⟨"strings_akb", "akb", "Akb", "Akb"⟩ ∧
        r.displayNames.get? "akb" = some "A\u212ab" := by
  obtain ⟨found, hfound, hlocales⟩ := discover_kelvinSign
  have hnamed := (discover_spec hfound).1
  obtain ⟨hdefault, hothers⟩ := List.cons_eq_cons.1 hlocales
  dsimp only at hdefault
  rw [hdefault, hothers] at hnamed
  have hcodes : found.others.map (·.1.code) = ["akb", "akb"] := by
    have hmapped := congrArg (List.map Locale.code) hothers
    rw [List.map_map] at hmapped
    exact hmapped
  have hfirst : kelvinLocales.find? (fun l => decide (l.code = "akb")) =
      some ⟨"Akb", "akb", "Akb", "Akb", false⟩ := by decide
  refine ⟨found, hfound, by simp [hcodes], registryOf kelvinLocales, ?_, ?_, ?_, ?_⟩
  · rw [hlocales]
    exact hnamed.read?_registry
  · rw [kelvinLocales, findByCode_registryOf hnamed hfirst]
    decide
  · decide
  · rw [kelvinLocales, displayNames_registryOf hnamed]
    decide

end Compilation

end StringCatalog
