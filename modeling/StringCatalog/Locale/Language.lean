import StringCatalog.OrderedMap
import StringCatalog.Text.LetterCase

/-!
# StringCatalog.Locale.Language

Languages that have names of their own, and the names shown for a locale token.
-/

namespace StringCatalog

open Text

/-- A language: its name in English and in the language itself. -/
structure Language where
  english : String
  native : String
  deriving DecidableEq, Repr

namespace Language

def known : OrderedMap String Language := [
  ("en", ⟨"English", "English"⟩),
  ("es", ⟨"Spanish", "Español"⟩),
  ("fr", ⟨"French", "Français"⟩),
  ("de", ⟨"German", "Deutsch"⟩),
  ("it", ⟨"Italian", "Italiano"⟩),
  ("pt", ⟨"Portuguese", "Português"⟩),
  ("ru", ⟨"Russian", "Русский"⟩),
  ("ja", ⟨"Japanese", "日本語"⟩),
  ("ko", ⟨"Korean", "한국어"⟩),
  ("zh", ⟨"Chinese", "中文"⟩),
  ("ar", ⟨"Arabic", "العربية"⟩),
  ("hi", ⟨"Hindi", "हिन्दी"⟩),
  ("tr", ⟨"Turkish", "Türkçe"⟩),
  ("pl", ⟨"Polish", "Polski"⟩),
  ("nl", ⟨"Dutch", "Nederlands"⟩),
  ("sv", ⟨"Swedish", "Svenska"⟩),
  ("da", ⟨"Danish", "Dansk"⟩),
  ("no", ⟨"Norwegian", "Norsk"⟩),
  ("fi", ⟨"Finnish", "Suomi"⟩),
  ("el", ⟨"Greek", "Ελληνικά"⟩),
  ("cs", ⟨"Czech", "Čeština"⟩),
  ("hu", ⟨"Hungarian", "Magyar"⟩),
  ("ro", ⟨"Romanian", "Română"⟩),
  ("uk", ⟨"Ukrainian", "Українська"⟩),
  ("he", ⟨"Hebrew", "עברית"⟩),
  ("th", ⟨"Thai", "ไทย"⟩),
  ("vi", ⟨"Vietnamese", "Tiếng Việt"⟩),
  ("id", ⟨"Indonesian", "Bahasa Indonesia"⟩),
  ("ms", ⟨"Malay", "Bahasa Melayu"⟩),
  ("bg", ⟨"Bulgarian", "Български"⟩),
  ("hr", ⟨"Croatian", "Hrvatski"⟩),
  ("sr", ⟨"Serbian", "Српски"⟩),
  ("sk", ⟨"Slovak", "Slovenčina"⟩),
  ("sl", ⟨"Slovenian", "Slovenščina"⟩)]

/-- The characters that end the language part of a token. -/
def isSeparator (c : Char) : Bool := c = '_' || c = '-'

/-- The language part of a token. -/
def primary (token : String) : String :=
  String.ofList ((lower token).toList.takeWhile fun c => !isSeparator c)

def capitalized (s : String) : String :=
  match s.toList with
  | [] => ""
  | c :: cs => String.ofList (upperChar c ++ cs)

/-- The names shown for a token: those of its language, with the whole token in parentheses when it
names more than the language, or the token itself when the language is unknown. -/
def namesOf (token : String) : Language :=
  match known.get? (primary token) with
  | none => ⟨capitalized token, capitalized token⟩
  | some l =>
    if token.toList.any isSeparator then
      ⟨l.english ++ " (" ++ token ++ ")", l.native ++ " (" ++ token ++ ")"⟩
    else l

end Language

end StringCatalog
