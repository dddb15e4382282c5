import Mathlib.Algebra.Group.Nat.Defs
import Mathlib.Data.List.Basic
import Mathlib.Tactic.SplitIfs
import StringCatalog.Text.Quoted

/-!
# StringCatalog.Proofs.Quoting

Quoted texts are read back as they were written, whatever characters they hold
and whatever follows them:

* `readQuoted?_quotedChars` — a text on one line;
* `readQuoted?_documentChars` — a documentation text, unless it ends in a quote.

Both rest on one lemma for each class of characters (`readChar?_quotedChar`,
`readChar?_documentChar`) and on `readUntil?_flatMap`, which puts the characters
together as long as the closing quotes are met nowhere before the end.
-/

namespace StringCatalog.Text

/-- The two characters that texts are quoted with. -/
def IsQuote (q : Char) : Prop := q = '"' ∨ q = '\x27'

/-! ## Hexadecimal digits -/

theorem hexValue?_digitChar : ∀ n, n < 16 → hexValue? (Nat.digitChar n) = some n := by decide

theorem digitChar_ne_quote : ∀ n, n < 16 → Nat.digitChar n ≠ '"' ∧ Nat.digitChar n ≠ '\x27' := by
  decide

/-- Reading hexadecimal digits one after the other. -/
def readHex? (acc : Nat) (ds : List Char) : Option Nat :=
  ds.foldlM (fun acc c => (hexValue? c).map (acc * 16 + ·)) acc

/-- Digits are read one group after the other. -/
theorem readHex?_append (acc : Nat) (ds es : List Char) :
    readHex? acc (ds ++ es) = (readHex? acc ds).bind fun n => readHex? n es := by
  simp only [readHex?, List.foldlM_append]
  rfl

theorem readHex?_digitChar (acc : Nat) {n : Nat} (h : n < 16) :
    readHex? acc [Nat.digitChar n] = some (acc * 16 + n) := by
  simp [readHex?, hexValue?_digitChar n h]

/-- The digits of a number are read as that number. -/
theorem readHex?_toDigits (n : Nat) : readHex? 0 (Nat.toDigits 16 n) = some n := by
  induction n using Nat.strongRecOn with
  | ind n ih =>
    by_cases h : n < 16
    · rw [Nat.toDigits_of_lt_base h, readHex?_digitChar 0 h, Nat.zero_mul, Nat.zero_add]
    · have hlt : n / 16 < n := Nat.div_lt_self (by omega) (by decide)
      have hmod : n % 16 < 16 := Nat.mod_lt n (by decide)
      rw [Nat.toDigits_of_base_le (by decide) (by omega), readHex?_append, ih (n / 16) hlt,
        Option.bind_some, readHex?_digitChar _ hmod]
      congr 1
      omega

theorem readHex?_replicate_zero (k : Nat) : readHex? 0 (List.replicate k '0') = some 0 := by
  induction k with
  | zero => rfl
  | succ k ih =>
    have h0 : readHex? 0 ['0'] = some 0 := readHex?_digitChar 0 (n := 0) (by decide)
    rw [List.replicate_succ, ← List.singleton_append, readHex?_append, h0, Option.bind_some, ih]

/-- Zeros in front change nothing: padded digits are read as the character they number. -/
theorem hexChar?_hexDigits (width : Nat) (c : Char) :
    hexChar? (hexDigits width c.toNat) = some c := by
  have hread : readHex? 0 (hexDigits width c.toNat) = some c.toNat := by
    rw [hexDigits, readHex?_append, readHex?_replicate_zero, Option.bind_some, readHex?_toDigits]
  have hvalid : c.toNat.isValidChar := c.valid
  unfold readHex? at hread
  rw [hexChar?, hread, Option.bind_some, if_pos hvalid, Char.ofNat_toNat]

/-- A number that fits has as many digits as asked for. -/
theorem length_hexDigits (width : Nat) {n : Nat} (hw : 0 < width) (h : n < 16 ^ width) :
    (hexDigits width n).length = width := by
  have hle := (Nat.length_toDigits_le_iff (b := 16) (by decide) hw).2 h
  simp only [hexDigits, List.length_append, List.length_replicate]
  omega

/-- The digits of a number in base sixteen are digits below sixteen. -/
theorem mem_toDigits (n : Nat) : ∀ d ∈ Nat.toDigits 16 n, ∃ k, k < 16 ∧ d = Nat.digitChar k := by
  induction n using Nat.strongRecOn with
  | ind n ih =>
    intro d hd
    by_cases h : n < 16
    · rw [Nat.toDigits_of_lt_base h, List.mem_singleton] at hd
      exact ⟨n, h, hd⟩
    · rw [Nat.toDigits_of_base_le (by decide) (by omega), List.mem_append,
        List.mem_singleton] at hd
      rcases hd with hd | hd
      · exact ih (n / 16) (Nat.div_lt_self (by omega) (by decide)) d hd
      · exact ⟨n % 16, Nat.mod_lt n (by decide), hd⟩

/-- They still are with zeros in front. -/
theorem mem_hexDigits {width n : Nat} {d : Char} (h : d ∈ hexDigits width n) :
    ∃ k, k < 16 ∧ d = Nat.digitChar k := by
  rw [hexDigits, List.mem_append, List.mem_replicate] at h
  rcases h with ⟨-, rfl⟩ | h
  · exact ⟨0, by decide, by decide⟩
  · exact mem_toDigits n d h

theorem quote_not_mem_hexDigits {q : Char} (hq : IsQuote q) (width n : Nat) :
    q ∉ hexDigits width n := by
  intro h
  obtain ⟨k, hk, hd⟩ := mem_hexDigits h
  have hne := digitChar_ne_quote k hk
  rcases hq with rfl | rfl
  · exact hne.1 hd.symm
  · exact hne.2 hd.symm

/-! ## Characters -/

theorem quote_not_mem_numericEscape {q : Char} (hq : IsQuote q) (c : Char) :
    q ∉ numericEscape c := by
  have hdigits := fun width => quote_not_mem_hexDigits hq width c.toNat
  unfold numericEscape
  rcases hq with rfl | rfl <;> split_ifs <;> simp [hdigits]

/-- An escape by name or by number is read as its character. -/
theorem readChar?_numericEscape (form : QuotedForm) (c : Char) (after : List Char) :
    readChar? form (numericEscape c ++ after) = some (c, after) := by
  have hlt : c.toNat < 0x110000 := by
    have := c.valid
    simp only [UInt32.isValidChar, Nat.isValidChar] at this
    exact this.elim (fun h => Nat.lt_of_lt_of_le h (by decide)) (fun h => h.2)
  unfold numericEscape
  split_ifs with hn hr ht h2 h4
  · subst hn; rfl
  · subst hr; rfl
  · subst ht; rfl
  · have hchar := hexChar?_hexDigits 2 c
    have hlen := length_hexDigits 2 (by decide) (show c.toNat < 16 ^ 2 by omega)
    match hds : hexDigits 2 c.toNat, hlen with
    | [a, b], _ =>
      rw [hds] at hchar
      simp [readChar?, hchar]
  · have hchar := hexChar?_hexDigits 4 c
    have hlen := length_hexDigits 4 (by decide) (show c.toNat < 16 ^ 4 by omega)
    match hds : hexDigits 4 c.toNat, hlen with
    | [a, b, d, e], _ =>
      rw [hds] at hchar
      simp [readChar?, hchar]
  · have hchar := hexChar?_hexDigits 8 c
    have hlen := length_hexDigits 8 (by decide) (show c.toNat < 16 ^ 8 by omega)
    match hds : hexDigits 8 c.toNat, hlen with
    | [a, b, d, e, f, g, h, i], _ =>
      rw [hds] at hchar
      simp [readChar?, hchar]

/-- A character that stands for itself is read as itself. -/
theorem readChar?_cons {form : QuotedForm} {c : Char} (hc : c ≠ '\\') (ha : form.admits c)
    (after : List Char) : readChar? form (c :: after) = some (c, after) := by
  rw [readChar?.eq_6] <;> simp_all

/-- A printable character may stand in any kind of string. -/
theorem admits_of_isPrintable {c : Char} (h : isPrintable c) (form : QuotedForm) :
    form.admits c := by
  have hn : c ≠ '\n' := by rintro rfl; exact absurd h (by decide)
  have hr : c ≠ '\r' := by rintro rfl; exact absurd h (by decide)
  have h0 : c ≠ '\x00' := by rintro rfl; exact absurd h (by decide)
  cases form <;> simp [QuotedForm.admits, hn, hr, h0]

/-- **A character on one line** is read as itself. -/
theorem readChar?_quotedChar {q : Char} (hq : IsQuote q) (form : QuotedForm) (c : Char)
    (after : List Char) : readChar? form (quotedChar q c ++ after) = some (c, after) := by
  unfold quotedChar
  split_ifs with hesc hp
  · rw [Bool.or_eq_true, decide_eq_true_eq, decide_eq_true_eq] at hesc
    rcases hesc with rfl | rfl
    · rcases hq with rfl | rfl <;> rfl
    · rfl
  · have hc : c ≠ '\\' := by
      rintro rfl
      simp at hesc
    exact readChar?_cons hc (admits_of_isPrintable hp form) after
  · exact readChar?_numericEscape form c after

/-- **A character of a documentation text** is read as itself. -/
theorem readChar?_documentChar (c : Char) (after : List Char) :
    readChar? .document (documentChar c ++ after) = some (c, after) := by
  unfold documentChar
  split_ifs with hb hp
  · subst hb; rfl
  · rw [Bool.or_eq_true, Bool.or_eq_true, decide_eq_true_eq, decide_eq_true_eq] at hp
    rcases hp with (rfl | rfl) | hp
    · exact readChar?_cons (by decide) (by decide) after
    · exact readChar?_cons (by decide) (by decide) after
    · exact readChar?_cons hb (admits_of_isPrintable hp .document) after
  · exact readChar?_numericEscape .document c after

/-- No character on one line starts like the quotes around it. -/
theorem quotedChar_eq_cons {q : Char} (hq : IsQuote q) (c : Char) :
    ∃ d ds, quotedChar q c = d :: ds ∧ d ≠ q := by
  have hb : '\\' ≠ q := by rcases hq with rfl | rfl <;> decide
  unfold quotedChar
  split_ifs with hesc hp
  · exact ⟨'\\', [c], rfl, hb⟩
  · refine ⟨c, [], rfl, ?_⟩
    rintro rfl
    simp at hesc
  · unfold numericEscape
    split_ifs <;> exact ⟨'\\', _, rfl, hb⟩

/-- A quote in a documentation text comes from that quote. -/
theorem eq_of_mem_documentChar {q c : Char} (hq : IsQuote q) (h : q ∈ documentChar c) : c = q := by
  unfold documentChar at h
  split_ifs at h with hb hp
  · rcases hq with rfl | rfl <;> simp at h
  · exact (List.mem_singleton.1 h).symm
  · exact absurd h (quote_not_mem_numericEscape hq c)

theorem documentChar_ne_nil (c : Char) : documentChar c ≠ [] := by
  unfold documentChar numericEscape
  split_ifs <;> simp

/-! ## Whole texts -/

/-- Characters that are each read back come back together, as long as the closing quotes are not
met before any of them. -/
theorem readUntil?_flatMap {form : QuotedForm} {close rest : List Char} {write : Char → List Char}
    (hread : ∀ c after, readChar? form (write c ++ after) = some (c, after)) (cs : List Char)
    (hclose : ∀ post, post <:+ cs → post ≠ [] →
      ¬ close <+: post.flatMap write ++ (close ++ rest)) :
    readUntil? form close (cs.flatMap write ++ (close ++ rest)) = some (cs, rest) := by
  induction cs with
  | nil =>
      have hpre : close.isPrefixOf (close ++ rest) = true :=
        List.isPrefixOf_iff_prefix.2 (List.prefix_append close rest)
      rw [List.flatMap_nil, List.nil_append, readUntil?, if_pos hpre, List.drop_left]
  | cons c cs ih =>
      have hnot := hclose (c :: cs) (List.suffix_refl _) (List.cons_ne_nil c cs)
      have htail := ih fun post hpost => hclose post (hpost.trans (List.suffix_cons c cs))
      have hstep := hread c (cs.flatMap write ++ (close ++ rest))
      rw [← List.isPrefixOf_iff_prefix] at hnot
      rw [List.flatMap_cons, List.append_assoc] at hnot ⊢
      rw [readUntil?, if_neg hnot]
      split
      · next h => rw [hstep] at h; cases h
      · next d after h =>
        rw [hstep] at h
        cases h
        rw [htail]
        rfl

/-- Quotes are not met before a character that starts unlike them. -/
theorem not_quote_prefix {q : Char} {close : List Char} (hq : IsQuote q) {post : List Char}
    (hpost : post ≠ []) (after : List Char) :
    ¬ q :: close <+: post.flatMap (quotedChar q) ++ after := by
  obtain ⟨c, cs, rfl⟩ := List.exists_cons_of_ne_nil hpost
  obtain ⟨d, ds, hd, hne⟩ := quotedChar_eq_cons hq c
  rw [List.flatMap_cons, hd, List.cons_append, List.cons_append, List.cons_prefix_cons]
  exact fun h => hne h.1.symm

theorem isQuote_quoteFor (cs : List Char) : IsQuote (quoteFor cs) := by
  unfold quoteFor IsQuote
  split <;> simp

/-- **A text on one line is read back**, unless a quote follows it directly. -/
theorem readQuoted?_quotedChars (cs rest : List Char)
    (hrest : ∀ c, rest.head? = some c → ¬ IsQuote c) :
    readQuoted? (quotedChars cs ++ rest) = some (cs, rest) := by
  have hq := isQuote_quoteFor cs
  unfold quotedChars quotedBody
  generalize quoteFor cs = q at hq ⊢
  have hbody : readUntil? .line [q] (cs.flatMap (quotedChar q) ++ ([q] ++ rest)) =
      some (cs, rest) :=
    readUntil?_flatMap (readChar?_quotedChar hq .line) cs
      fun post _ hne => not_quote_prefix hq hne _
  -- Neither an empty text nor a longer one starts with three quotes.
  have hopen : ¬ [q, q] <+: cs.flatMap (quotedChar q) ++ ([q] ++ rest) := by
    cases cs with
    | nil =>
        cases rest with
        | nil => simp
        | cons c rest =>
            have hc : c ≠ q := by
              rintro rfl
              exact hrest c rfl hq
            simp [Ne.symm hc]
    | cons c cs => exact not_quote_prefix hq (List.cons_ne_nil c cs) _
  rw [List.cons_append, List.cons_append, List.append_assoc]
  generalize cs.flatMap (quotedChar q) ++ ([q] ++ rest) = body at hbody hopen ⊢
  rcases hq with rfl | rfl
  · rw [readQuoted?.eq_3, hbody]
    rintro tail rfl
    exact hopen ⟨tail, rfl⟩
  · rw [readQuoted?.eq_4, hbody]
    rintro tail rfl
    exact hopen ⟨tail, rfl⟩

/-! ## Documentation texts -/

/-- The test for three quotes finds them anywhere. -/
theorem hasTriple_iff (q : Char) (cs : List Char) : hasTriple q cs = true ↔ tripled q <:+: cs := by
  fun_induction hasTriple q cs with
  | case1 a b c rest ih =>
      have hcons : tripled q <:+: a :: b :: c :: rest ↔
          tripled q <+: a :: b :: c :: rest ∨ tripled q <:+: b :: c :: rest := List.infix_cons_iff
      rw [Bool.or_eq_true, ih, hcons]
      simp only [tripled, Bool.and_eq_true, decide_eq_true_eq, List.cons_prefix_cons,
        List.nil_prefix, and_true]
      constructor
      · rintro (⟨⟨rfl, rfl⟩, rfl⟩ | h)
        · exact .inl ⟨rfl, rfl, rfl⟩
        · exact .inr h
      · rintro (⟨rfl, rfl, rfl⟩ | h)
        · exact .inl ⟨⟨rfl, rfl⟩, rfl⟩
        · exact .inr h
  | case2 cs hshort =>
      constructor
      · intro h; cases h
      · intro h
        have hlen : 3 ≤ cs.length := by simpa [tripled] using h.length_le
        match cs, hshort with
        | [], _ | [_], _ | [_, _], _ => simp at hlen
        | a :: b :: c :: rest, hs => exact absurd rfl (hs a b c rest)

/-- What three quotes are the start of either has them itself or ends in one. -/
theorem not_tripled_prefix {q : Char} {s rest : List Char} (hs : s ≠ [])
    (htriple : ¬ tripled q <:+: s) (hlast : s.getLast? ≠ some q) :
    ¬ tripled q <+: s ++ (tripled q ++ rest) := by
  intro h
  match s, hs with
  | [a], _ =>
      simp only [tripled, List.cons_append, List.nil_append, List.cons_prefix_cons] at h
      exact hlast (by rw [h.1]; rfl)
  | [a, b], _ =>
      simp only [tripled, List.cons_append, List.nil_append, List.cons_prefix_cons] at h
      exact hlast (by rw [h.2.1]; rfl)
  | a :: b :: c :: s, _ =>
      simp only [tripled, List.cons_append, List.cons_prefix_cons] at h
      obtain ⟨rfl, rfl, rfl, -⟩ := h
      exact htriple ⟨[], s, rfl⟩

/-- The text of a documentation string ends in a quote only if the string does. -/
theorem getLast?_flatMap_documentChar {q : Char} (hq : IsQuote q) {cs : List Char}
    (h : (cs.flatMap documentChar).getLast? = some q) : cs.getLast? = some q := by
  rcases List.eq_nil_or_concat cs with rfl | ⟨init, c, rfl⟩
  · simp at h
  · have hne := documentChar_ne_nil c
    rw [List.concat_eq_append, List.flatMap_append, List.flatMap_singleton,
      List.getLast?_append_of_ne_nil _ hne] at h
    rw [List.concat_eq_append, List.getLast?_concat,
      eq_of_mem_documentChar hq (List.mem_of_getLast? h)]

/-- Three quotes in that text mean that there is one in the string. -/
theorem mem_of_hasTriple {q : Char} (hq : IsQuote q) {cs : List Char}
    (h : hasTriple q (cs.flatMap documentChar) = true) : q ∈ cs := by
  have hmem : q ∈ cs.flatMap documentChar :=
    ((hasTriple_iff q _).1 h).subset (List.mem_cons_self)
  obtain ⟨c, hc, hqc⟩ := List.mem_flatMap.1 hmem
  rwa [← eq_of_mem_documentChar hq hqc]

/-- A documentation text between three quotes that it does not have itself is read back. -/
theorem readUntil?_document {q : Char} (hq : IsQuote q) {cs : List Char} (rest : List Char)
    (htriple : ¬ hasTriple q (cs.flatMap documentChar) = true) (hlast : cs.getLast? ≠ some q) :
    readUntil? .document (tripled q) (cs.flatMap documentChar ++ (tripled q ++ rest)) =
      some (cs, rest) := by
  refine readUntil?_flatMap readChar?_documentChar cs fun post hpost hne => ?_
  obtain ⟨pre, rfl⟩ := hpost
  rw [hasTriple_iff, List.flatMap_append] at htriple
  apply not_tripled_prefix
  · intro hnil
    obtain ⟨c, cs, rfl⟩ := List.exists_cons_of_ne_nil hne
    exact documentChar_ne_nil c (List.append_eq_nil_iff.1 hnil).1
  · exact fun h => htriple (h.trans (List.suffix_append _ _).isInfix)
  · intro h
    rw [List.getLast?_append_of_ne_nil _ hne] at hlast
    exact hlast (getLast?_flatMap_documentChar hq h)

/-- **A documentation text is read back**, unless it ends in a quote. -/
theorem readQuoted?_documentChars (cs rest : List Char)
    (hlast : ∀ c, cs.getLast? = some c → ¬ IsQuote c) :
    readQuoted? (documentChars cs ++ rest) = some (cs, rest) := by
  have hend : ∀ q, IsQuote q → cs.getLast? ≠ some q := fun q hq h => hlast q h hq
  unfold documentChars
  dsimp only
  split_ifs with hdouble hsingle
  · rw [Bool.not_eq_true'] at hdouble
    rw [List.append_assoc, List.append_assoc]
    exact readUntil?_document (.inl rfl) rest (by rw [hdouble]; decide) (hend _ (.inl rfl))
  · rw [Bool.not_eq_true'] at hsingle
    rw [List.append_assoc, List.append_assoc]
    exact readUntil?_document (.inr rfl) rest (by rw [hsingle]; decide) (hend _ (.inr rfl))
  · -- Both quotes occur, so that the form on one line escapes every apostrophe.
    rw [Bool.not_eq_true', Bool.not_eq_false] at hdouble hsingle
    have hquote : quoteFor cs = '\x27' := by
      simp [quoteFor, mem_of_hasTriple (.inl rfl) hdouble]
    rw [List.append_assoc, List.append_assoc, quotedBody, hquote]
    exact readUntil?_flatMap (readChar?_quotedChar (.inr rfl) .document) cs
      fun post _ hne => not_quote_prefix (.inr rfl) hne _

end StringCatalog.Text
