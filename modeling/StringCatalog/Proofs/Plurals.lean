import StringCatalog.Proofs.Lookups
import StringCatalog.Proofs.Maps

/-!
# StringCatalog.Proofs.Plurals

Texts for quantities.  A look-up settles on one map of texts before it looks at
the quantity, and turns to no other map afterwards.  The category comes of the
quantity and of which categories the map has; only then is a text looked at.

* `category_eq_some_iff` — the category that is chosen (`Chosen`);
* `category_congr` — it depends on five categories being there or not;
* `settlesOn_iff` — the map on which a look-up settles (`SettlesOn`);
* `getPlural_of_settlesOn` — the answer that comes of a map;
* `answers_plurals` — every look-up of a text for a quantity (`AnswersPlurals`).
-/

namespace StringCatalog.Lookup

open Template

variable {quantity : Value} {q : Int} {items items' : OrderedMap String String} {name : String}

/-! ## Categories -/

/-- The integer that a quantity is; the truth values are integers too. -/
inductive IsCount : Value → Int → Prop where
  | int (q : Int) : IsCount (.int q) q
  | bool (b : Bool) : IsCount (.bool b) (if b then 1 else 0)

/-- The category that an integer asks for. -/
inductive AsksFor : Int → String → Prop where
  | zero : AsksFor 0 "zero"
  | one : AsksFor 1 "one"
  | two : AsksFor 2 "two"
  | many {q : Int} (h : 2 < q) : AsksFor q "many"

/-- The category that is chosen for an integer among those of a map: the one that it asks for, or
`other` in its stead. -/
inductive Chosen (q : Int) (items : OrderedMap String String) : String → Prop where
  | asked {name : String} (h : AsksFor q name) (hhas : items.has name = true) : Chosen q items name
  | other (hnone : ∀ name, AsksFor q name → items.has name = false)
      (hhas : items.has "other" = true) : Chosen q items "other"

/-- The categories that a choice takes note of. -/
def consulted : List String := ["zero", "one", "two", "many", "other"]

/-- Every quantity from zero on asks for a category. -/
theorem exists_asksFor (hq : 0 ≤ q) : ∃ name, AsksFor q name := by
  have hcases : q = 0 ∨ q = 1 ∨ q = 2 ∨ 2 < q := by omega
  rcases hcases with rfl | rfl | rfl | h
  · exact ⟨_, .zero⟩
  · exact ⟨_, .one⟩
  · exact ⟨_, .two⟩
  · exact ⟨_, .many h⟩

/-- A negative one asks for none. -/
theorem not_asksFor (hq : q < 0) (name : String) : ¬ AsksFor q name := by
  intro h
  cases h <;> omega

/-- An integer asks for one category at most. -/
theorem AsksFor.unique {name' : String} (h : AsksFor q name) (h' : AsksFor q name') :
    name = name' := by
  cases h <;> cases h' <;> first | rfl | omega

/-- What is asked for is one of the categories consulted. -/
theorem AsksFor.mem_consulted (h : AsksFor q name) : name ∈ consulted := by
  cases h <;> decide

/-- An integer leaves two of the rules. -/
theorem AsksFor.filter_asked (h : AsksFor q name) :
    (asked q).filter (·.1) = [(true, name), (true, "other")] := by
  cases h with
  | many h =>
      have h0 : q ≠ 0 := by omega
      have h1 : q ≠ 1 := by omega
      have h2 : q ≠ 2 := by omega
      simp [asked, h0, h1, h2, h]
  | _ => rfl

/-- Below zero only `other` is left. -/
theorem filter_asked_of_neg (hq : q < 0) : (asked q).filter (·.1) = [(true, "other")] := by
  have h0 : q ≠ 0 := by omega
  have h1 : q ≠ 1 := by omega
  have h2 : q ≠ 2 := by omega
  have hmany : ¬ q > 2 := by omega
  simp [asked, h0, h1, h2, hmany]

theorem category_eq (q : Int) (items : OrderedMap String String) :
    category q items = (((asked q).filter (·.1)).find? fun r => items.has r.2).map (·.2) := by
  simp [category, List.find?_filter]

/-- The category asked for is taken if it is there, and `other` if not. -/
theorem category_of_asksFor (h : AsksFor q name) (items : OrderedMap String String) :
    category q items = if items.has name then some name
      else if items.has "other" then some "other" else none := by
  rw [category_eq, h.filter_asked]
  cases hname : items.has name <;> cases hother : items.has "other" <;> simp [hname, hother]

/-- A negative quantity can have `other` only. -/
theorem category_of_neg (hq : q < 0) (items : OrderedMap String String) :
    category q items = if items.has "other" then some "other" else none := by
  rw [category_eq, filter_asked_of_neg hq]
  cases hother : items.has "other" <;> simp [hother]

/-- What is chosen is the category found. -/
theorem Chosen.category_eq (h : Chosen q items name) : category q items = some name := by
  cases h with
  | asked h hhas => rw [category_of_asksFor h, if_pos hhas]
  | other hnone hhas =>
      by_cases hq : 0 ≤ q
      · obtain ⟨wanted, hwanted⟩ := exists_asksFor hq
        rw [category_of_asksFor hwanted, hnone wanted hwanted, if_neg Bool.false_ne_true, if_pos hhas]
      · rw [category_of_neg (by omega), if_pos hhas]

/-- The category found is chosen. -/
theorem chosen_of_category_eq (h : category q items = some name) : Chosen q items name := by
  by_cases hq : 0 ≤ q
  · obtain ⟨wanted, hwanted⟩ := exists_asksFor hq
    rw [category_of_asksFor hwanted] at h
    split at h
    · next hhas =>
      cases h
      exact .asked hwanted hhas
    · next hhas =>
      split at h
      · next hother =>
        cases h
        refine .other (fun name hname => ?_) hother
        rw [hname.unique hwanted]
        exact Bool.eq_false_iff.2 hhas
      · cases h
  · have hneg : q < 0 := by omega
    rw [category_of_neg hneg] at h
    split at h
    · next hother =>
      cases h
      exact .other (fun name hname => absurd hname (not_asksFor hneg name)) hother
    · cases h

/-- **The category that is chosen** is the one that the integer asks for, or `other`. -/
theorem category_eq_some_iff : category q items = some name ↔ Chosen q items name :=
  ⟨chosen_of_category_eq, Chosen.category_eq⟩

/-- **A choice depends on five categories** being there or not. -/
theorem category_congr (h : ∀ name ∈ consulted, items.has name = items'.has name) :
    category q items = category q items' := by
  have hother := h "other" (by decide)
  by_cases hq : 0 ≤ q
  · obtain ⟨wanted, hwanted⟩ := exists_asksFor hq
    rw [category_of_asksFor hwanted, category_of_asksFor hwanted, h wanted hwanted.mem_consulted,
      hother]
  · have hneg : q < 0 := by omega
    rw [category_of_neg hneg, category_of_neg hneg, hother]

/-- A category that is chosen has a text. -/
theorem Chosen.exists_get? (h : Chosen q items name) : ∃ text, items.get? name = some text := by
  have hhas : items.has name = true := by cases h <;> assumption
  rwa [OrderedMap.has_eq_isSome_get?, Option.isSome_iff_exists] at hhas

/-- A category is always chosen by the integer that a quantity is. -/
theorem IsCount.categoryOf (h : IsCount quantity q) (items : OrderedMap String String) :
    Strings.categoryOf quantity items = .ok (category q items) := by
  cases h with
  | int q => exact categoryOf_int q items
  | bool b =>
      have hrules : pluralRules (.bool b) = pluralRules (.int (if b then 1 else 0)) := by
        cases b <;> rfl
      rw [← categoryOf_int, Strings.categoryOf, pluralCategory, hrules]
      rfl

/-! ## Maps -/

namespace Strings

variable {s : Strings} {key : String} {locale : LocaleKey} {args : List Value}

/-- The map of texts on which a look-up settles: that of the locale asked for, or that of the default
one where the locale asked for has none. -/
inductive SettlesOn (s : Strings) (key : String) (locale : LocaleKey) :
    OrderedMap String String → Prop where
  | own {items : OrderedMap String String}
      (h : s.entryIn Table.plurals key (s.requested locale) = some items) : SettlesOn s key locale items
  | default {items : OrderedMap String String}
      (hnone : s.entryIn Table.plurals key (s.requested locale) = none)
      (h : s.entryIn Table.plurals key s.default = some items) : SettlesOn s key locale items

/-- A look-up settles on the plurals that are its entry. -/
theorem settlesOn_iff : SettlesOn s key locale items ↔ s.entry Table.plurals key locale = some items := by
  rw [entry, Option.or_eq_some_iff]
  constructor
  · intro h
    cases h with
    | own h => exact .inl h
    | default hnone h => exact .inr ⟨hnone, h⟩
  · rintro (h | ⟨hnone, h⟩)
    · exact .own h
    · exact .default hnone h

/-- It settles on one of them at most. -/
theorem SettlesOn.unique (h : SettlesOn s key locale items) (h' : SettlesOn s key locale items') :
    items = items' :=
  Option.some.inj ((settlesOn_iff.1 h).symm.trans (settlesOn_iff.1 h'))

/-- The answer that a map gives. -/
def answerFrom (q : Int) (args : List Value) (items : OrderedMap String String) :
    Except LookupError String :=
  match (category q items).bind items.get? with
  | none => .ok sentinel
  | some text => if args.isEmpty then .ok text else filled text args

/-- **A look-up answers from the map on which it settles.** -/
theorem getPlural_of_settlesOn (h : SettlesOn s key locale items) (hq : IsCount quantity q)
    (args : List Value) :
    s.getPlural (.text key) quantity args locale = answerFrom q args items := by
  rw [getPlural, find_text, settlesOn_iff.1 h, answerFrom]
  simp only [bind, Except.bind, hq.categoryOf]
  cases (category q items).bind items.get? <;> cases args <;> rfl

/-- Without plurals the answer is the sentinel. -/
theorem getPlural_of_not_settlesOn (h : ∀ items, ¬ SettlesOn s key locale items)
    (quantity : Value) (args : List Value) :
    s.getPlural (.text key) quantity args locale = .ok sentinel := by
  have hnone : s.entry Table.plurals key locale = none :=
    Option.eq_none_iff_forall_ne_some.2 fun items hitems => h items (settlesOn_iff.2 hitems)
  rw [getPlural, find_text, hnone]
  rfl

/-- The text of the category chosen is the answer, filled if there are arguments. -/
theorem answerFrom_of_chosen {text : String} (h : Chosen q items name)
    (htext : items.get? name = some text) :
    answerFrom q args items = if args.isEmpty then .ok text else filled text args := by
  rw [answerFrom, h.category_eq, Option.bind_some, htext]

/-- Without a category the answer is the sentinel. -/
theorem answerFrom_of_not_chosen (h : ∀ name, ¬ Chosen q items name) :
    answerFrom q args items = .ok sentinel := by
  have hnone : category q items = none :=
    Option.eq_none_iff_forall_ne_some.2 fun name hname => h name (category_eq_some_iff.1 hname)
  rw [answerFrom, hnone]
  rfl

/-- Maps with the same categories and the same text for the one that is chosen give one answer. -/
theorem answerFrom_congr (hhas : ∀ name ∈ consulted, items.has name = items'.has name)
    (hget : ∀ name, Chosen q items name → items.get? name = items'.get? name) :
    answerFrom q args items = answerFrom q args items' := by
  rw [answerFrom, answerFrom, ← category_congr hhas]
  cases hcategory : category q items with
  | none => rfl
  | some name => rw [Option.bind_some, Option.bind_some, hget name (category_eq_some_iff.1 hcategory)]

/-- How texts for quantities are looked up. -/
structure AnswersPlurals (s : Strings) (key : String) (locale : LocaleKey) : Prop where
  /-- One map at most is settled on, before there is a quantity. -/
  settled : ∀ items items', SettlesOn s key locale items → SettlesOn s key locale items' →
    items = items'
  /-- The category of any map is the one that the quantity asks for, or `other`. -/
  category : ∀ quantity q items, IsCount quantity q →
    ∃ chosen, categoryOf quantity items = .ok chosen ∧
      ∀ name, chosen = some name ↔ Chosen q items name
  /-- Neither the texts of a map nor any other category have a part in the choice. -/
  choice : ∀ quantity q items items', IsCount quantity q →
    (∀ name ∈ consulted, items.has name = items'.has name) →
      categoryOf quantity items = categoryOf quantity items'
  /-- Without a map there is no text. -/
  unsettled : (∀ items, ¬ SettlesOn s key locale items) → ∀ quantity args,
    s.getPlural (.text key) quantity args locale = .ok sentinel
  /-- Without a category in the map there is no text, whatever another map has. -/
  unchosen : ∀ items quantity q args, SettlesOn s key locale items → IsCount quantity q →
    (∀ name, ¬ Chosen q items name) →
      s.getPlural (.text key) quantity args locale = .ok sentinel
  /-- The text of the category is the answer as it is, or with the arguments put in. -/
  chosen : ∀ items quantity q args name, SettlesOn s key locale items → IsCount quantity q →
    Chosen q items name → ∃ text, items.get? name = some text ∧
      s.getPlural (.text key) quantity args locale =
        if args.isEmpty then .ok text else (fillOrKeep text args).mapError .fault
  /-- Two look-ups agree when their maps have the same categories and the same text for the one that
  is chosen, whatever else the tables hold. -/
  alone : ∀ items quantity q args (s' : Strings) key' locale' items',
    SettlesOn s key locale items → SettlesOn s' key' locale' items' → IsCount quantity q →
    (∀ name ∈ consulted, items.has name = items'.has name) →
    (∀ name, Chosen q items name → items.get? name = items'.get? name) →
      s.getPlural (.text key) quantity args locale = s'.getPlural (.text key') quantity args locale'

/-- **Texts for quantities are looked up in one map**, by a category that the quantity and the
categories of the map decide. -/
theorem answers_plurals (s : Strings) (key : String) (locale : LocaleKey) :
    AnswersPlurals s key locale where
  settled _ _ := SettlesOn.unique
  category _ q items hq := ⟨Lookup.category q items, hq.categoryOf items, fun _ => category_eq_some_iff⟩
  choice _ _ items items' hq h := by
    rw [hq.categoryOf items, hq.categoryOf items', category_congr h]
  unsettled h quantity args := getPlural_of_not_settlesOn h quantity args
  unchosen _ _ _ args h hq hnone := by
    rw [getPlural_of_settlesOn h hq args, answerFrom_of_not_chosen hnone]
  chosen _ _ _ args _ h hq hchosen := by
    obtain ⟨text, htext⟩ := hchosen.exists_get?
    refine ⟨text, htext, ?_⟩
    rw [getPlural_of_settlesOn h hq args, answerFrom_of_chosen hchosen htext]
    rfl
  alone _ _ _ args _ _ _ _ h h' hq hhas hget := by
    rw [getPlural_of_settlesOn h hq args, getPlural_of_settlesOn h' hq args,
      answerFrom_congr hhas hget]

/-- A map that has only `few` is settled on, although the default one has a text for every
quantity. -/
example :
    (new [(.value (.text "en"), some ⟨[], [], [("days", [("other", "%d days")])], []⟩),
      (.value (.text "pl"), some ⟨[], [], [("days", [("few", "%d dni")])], []⟩)]
      (.value (.text "en"))).getPlural (.text "days") (.int 3) [.int 3] (.value (.text "pl")) =
        .ok sentinel := rfl

end Strings

end StringCatalog.Lookup
