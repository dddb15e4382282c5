import StringCatalog.Proofs.Lookups

/-!
# StringCatalog.Proofs.Fallback

Look-ups in two steps: first the locale that is asked for, then the default
one.  The entry that is found decides the answer, and neither the locales nor
the calls made before have any other part in it.

* `Query` — what is asked of a key, apart from where it is looked up;
* `step_call` — an answer is that of the entry that is found (`Query.answerOf`),
  or that of finding none (`Query.absent`);
* `after_new` — the current locale is the one that was set last;
* `run_falls_back` — both steps of every look-up, after any calls (`FallsBack`).
-/

namespace StringCatalog.Lookup

/-! ## Queries -/

/-- What is asked of a key: a plain text, a text with arguments put in, a text for a quantity, or
the items of an array. -/
inductive Query where
  | plain
  | formatted (args : List Value)
  | plural (quantity : Value) (args : List Value)
  | array

namespace Query

/-- The entries among which a query looks. -/
def Entry : Query → Type
  | .plain => Option String
  | .formatted _ => String
  | .plural .. => OrderedMap String String
  | .array => List String

/-- The entries of this sort in a table. -/
def entries : (q : Query) → Table → OrderedMap String q.Entry
  | .plain => Table.simple
  | .formatted _ => Table.formatted
  | .plural .. => Table.plurals
  | .array => Table.arrays

/-- The call that looks a key up. -/
def call (q : Query) (key : String) (locale : LocaleKey) : Call :=
  match q with
  | .plain => .get (.text key) locale
  | .formatted args => .formatted (.text key) args locale
  | .plural quantity args => .plural (.text key) quantity args locale
  | .array => .array (.text key) locale

/-- The answer that an entry gives. -/
def answerOf : (q : Query) → q.Entry → Except LookupError Answer
  | .plain, (text : Option String) => .ok (.text (text.getD sentinel))
  | .formatted args, (template : String) => (Strings.filled template args).map .text
  | .plural quantity args, (items : OrderedMap String String) =>
    match Strings.categoryOf quantity items with
    | .error e => .error e
    | .ok category =>
      match category.bind items.get? with
      | none => .ok (.text sentinel)
      | some text => if args.isEmpty then .ok (.text text) else (Strings.filled text args).map .text
  | .array, (items : List String) => .ok (.items items)

/-- The answer when there is no entry. -/
def absent : Query → Answer
  | .array => .items []
  | _ => .text sentinel

end Query

/-- An entry that the table of a locale has under a key.  A locale has no table when its name cannot
be a key of tables, or when nothing or no table is kept under its name. -/
def Holds (tables : OrderedMap LocaleKey (Option Table)) (q : Query) (key : String)
    (locale : LocaleKey) (e : q.Entry) : Prop :=
  locale.canHaveTable = true ∧
    ∃ table, tables.get? locale = some (some table) ∧ (q.entries table).get? key = some e

namespace Strings

variable {s : Strings} {q : Query} {key : String} {locale : LocaleKey}

/-- The entry found is the one that the tables hold. -/
theorem entryIn_eq_some_iff {e : q.Entry} :
    s.entryIn q.entries key locale = some e ↔ Holds s.tables q key locale e := by
  unfold entryIn tableOf Holds
  split
  · next hcan => simp [hcan, Option.bind_eq_some_iff, Option.join_eq_some_iff]
  · next hcan => simp [hcan]

/-- None is found exactly if the tables hold none. -/
theorem entryIn_eq_none_iff :
    s.entryIn q.entries key locale = none ↔ ∀ e, ¬ Holds s.tables q key locale e := by
  rw [Option.eq_none_iff_forall_ne_some]
  exact forall_congr' fun e => not_congr entryIn_eq_some_iff

/-- **The entry that is found decides the answer.** -/
theorem step_call (q : Query) (key : String) (locale : LocaleKey) :
    (s.step (q.call key locale)).1 =
      match s.entry q.entries key locale with
      | some e => q.answerOf e
      | none => .ok q.absent := by
  have hfind : s.find q.entries (.text key) locale = .ok (s.entry q.entries key locale) :=
    find_text key locale
  generalize s.entry q.entries key locale = found at hfind ⊢
  cases q with
  | plain =>
      have hget : s.find Table.simple (.text key) locale = .ok found := hfind
      rw [Query.call, step, get, hget]
      cases found <;> rfl
  | formatted args =>
      have hget : s.find Table.formatted (.text key) locale = .ok found := hfind
      rw [Query.call, step, getFormatted, hget]
      cases found <;> rfl
  | plural quantity args =>
      have hget : s.find Table.plurals (.text key) locale = .ok found := hfind
      rw [Query.call, step, getPlural, hget]
      cases found with
      | none => rfl
      | some items =>
          simp only [Query.answerOf, bind, Except.bind]
          cases categoryOf quantity items with
          | error e => rfl
          | ok category =>
              dsimp only
              cases category.bind items.get? with
              | none => rfl
              | some text => cases args <;> rfl
  | array =>
      have hget : s.find Table.arrays (.text key) locale = .ok found := hfind
      rw [Query.call, step, getArray, hget]
      cases found <;> rfl

theorem requested_of_not_isNull (h : locale.isNull = false) : s.requested locale = locale := by
  rw [requested, h, if_neg Bool.false_ne_true]

/-- Naming a locale that is asked for anyway changes nothing. -/
theorem entry_congr {α : Type} {kind : Table → OrderedMap String α} {locale' : LocaleKey}
    (h : s.requested locale = s.requested locale') :
    s.entry kind key locale = s.entry kind key locale' := by
  rw [entry, entry, h]

/-- A query is answered from the locale it asks for, if that has the entry. -/
theorem step_call_of_holds {e : q.Entry} (h : Holds s.tables q key (s.requested locale) e) :
    (s.step (q.call key locale)).1 = q.answerOf e := by
  rw [step_call, entry, entryIn_eq_some_iff.2 h]
  rfl

/-- What the locale asked for does not have is looked up in the default one. -/
theorem step_call_of_not_holds (hdefault : s.default.isNull = false)
    (h : ∀ e, ¬ Holds s.tables q key (s.requested locale) e) :
    (s.step (q.call key locale)).1 = (s.step (q.call key s.default)).1 := by
  rw [step_call, step_call, entry, entry, entryIn_eq_none_iff.2 h,
    requested_of_not_isNull hdefault, Option.none_or, Option.or_self]

/-- If neither that locale nor the default one has it, the answer is that of an absent entry. -/
theorem step_call_of_absent (h : ∀ e, ¬ Holds s.tables q key (s.requested locale) e)
    (h' : ∀ e, ¬ Holds s.tables q key s.default e) :
    (s.step (q.call key locale)).1 = .ok q.absent := by
  rw [step_call, entry, entryIn_eq_none_iff.2 h, entryIn_eq_none_iff.2 h']
  rfl

end Strings

/-! ## Runs -/

/-- The locale that a call makes the current one, if it does. -/
def Call.set? : Call → Option LocaleKey
  | .setCurrent locale => some locale
  | _ => none

/-- The locale that some calls set last, or else the default one. -/
def lastSet (default : LocaleKey) (calls : List Call) : LocaleKey :=
  (calls.filterMap Call.set?).getLast?.getD default

/-- After some calls the current locale is the one set last. -/
theorem foldl_currentAfter (default : LocaleKey) (calls : List Call) :
    calls.foldl Call.currentAfter default = lastSet default calls := by
  induction calls generalizing default with
  | nil => rfl
  | cons c calls ih =>
      rw [List.foldl_cons, ih]
      cases c with
      | setCurrent locale => simp [lastSet, Call.set?, Call.currentAfter, List.getLast?_cons]
      | _ => rfl

namespace Strings

/-- The current locale is the one that was set last; all else stays. -/
theorem after_new (tables : OrderedMap LocaleKey (Option Table)) (default : LocaleKey)
    (calls : List Call) :
    (new tables default).after calls = ⟨tables, default, lastSet default calls⟩ := by
  rw [after_eq, new, foldl_currentAfter]
  rfl

/-- Look-ups in two steps, after some calls. -/
structure FallsBack (tables : OrderedMap LocaleKey (Option Table)) (default : LocaleKey)
    (calls : List Call) : Prop where
  /-- Calls change nothing but the current locale. -/
  after : (new tables default).after calls = ⟨tables, default, lastSet default calls⟩
  /-- What comes next is answered from what they leave. -/
  run : ∀ c more, (new tables default).run (calls ++ c :: more) =
    (new tables default).run calls ++ (((new tables default).after calls).step c).1 ::
      ((new tables default).after (calls ++ [c])).run more
  /-- The locale that is asked for answers from its own entry, whatever else there is. -/
  own : ∀ (q : Query) key locale e,
    Holds tables q key (if locale.isNull then lastSet default calls else locale) e →
      (((new tables default).after calls).step (q.call key locale)).1 = q.answerOf e
  /-- Otherwise the answer is that for the default locale. -/
  otherwise : ∀ (q : Query) key locale,
    (∀ e, ¬ Holds tables q key (if locale.isNull then lastSet default calls else locale) e) →
      (((new tables default).after calls).step (q.call key locale)).1 =
        (((new tables default).after calls).step (q.call key default)).1
  /-- When neither has an entry, the answer is the sentinel, or no items. -/
  absent : ∀ (q : Query) key locale,
    (∀ e, ¬ Holds tables q key (if locale.isNull then lastSet default calls else locale) e) →
    (∀ e, ¬ Holds tables q key default e) →
      (((new tables default).after calls).step (q.call key locale)).1 = .ok q.absent
  /-- Naming no locale is the same as naming the one that is said to be current. -/
  current : ∃ now, (((new tables default).after calls).step .current).1 = .ok (.locale now) ∧
    ∀ (q : Query) key locale, locale.isNull = true →
      (((new tables default).after calls).step (q.call key locale)).1 =
        (((new tables default).after calls).step (q.call key now)).1

/-- **Every look-up falls back in two steps**, after any calls: to the default locale, and from
there to the sentinel or to no items. -/
theorem run_falls_back (tables : OrderedMap LocaleKey (Option Table)) (default : LocaleKey)
    (hdefault : default.isNull = false) (calls : List Call) : FallsBack tables default calls where
  after := after_new tables default calls
  run c more := by
    rw [run_append, after, after, List.foldl_append]
    rfl
  own q key locale e h := by
    rw [after_new]
    exact step_call_of_holds h
  otherwise q key locale h := by
    rw [after_new]
    exact step_call_of_not_holds hdefault h
  absent q key locale h h' := by
    rw [after_new]
    exact step_call_of_absent h h'
  current := by
    rw [after_new]
    refine ⟨lastSet default calls, rfl, fun q key locale hnull => ?_⟩
    have hrequested : ∀ now : LocaleKey, requested ⟨tables, default, now⟩ now = now := by
      intro now
      unfold requested
      split <;> rfl
    rw [step_call, step_call, entry_congr]
    rw [hrequested, requested, if_pos hnull]

/-- Tables in which one locale lacks a text that the default one has. -/
def twoTables : OrderedMap LocaleKey (Option Table) :=
  [(.value (.text "en"), some ⟨[("a", some "b")], [], [], []⟩),
    (.value (.text "de"), some ⟨[("c", some "d")], [], [], []⟩), (.value (.text "fr"), none)]

/-- After a locale was set whose name cannot be a key, a text comes from the default locale. -/
theorem run_falls_back_unhashable :
    (LocaleKey.value (.text "en")).isNull = false ∧
      FallsBack twoTables (.value (.text "en"))
        [.setCurrent (.value (.text "de")), .setCurrent (.value (.list []))] ∧
      (((new twoTables (.value (.text "en"))).after
        [.setCurrent (.value (.text "de")), .setCurrent (.value (.list []))]).step
          (.get (.text "a") (.value .null))).1 = .ok (.text "b") := by
  have hfalls := run_falls_back twoTables (.value (.text "en")) rfl
    [.setCurrent (.value (.text "de")), .setCurrent (.value (.list []))]
  refine ⟨rfl, hfalls, ?_⟩
  have hother : ∀ e, ¬ Holds twoTables .plain "a" (.value (.list [])) e := fun e h => by
    cases h.1
  have hdefault : Holds twoTables .plain "a" (.value (.text "en")) (some "b") :=
    ⟨rfl, ⟨[("a", some "b")], [], [], []⟩, rfl, rfl⟩
  exact (hfalls.otherwise .plain "a" (.value .null) hother).trans
    (hfalls.own .plain "a" (.value (.text "en")) _ hdefault)

end Strings

end StringCatalog.Lookup
