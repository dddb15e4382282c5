/-!
# StringCatalog.Command.Options

The command line as its words say it: one of two commands with options.  Every
option takes a value, which follows it as a word of its own or behind an equals
sign, whatever it looks like; the last value of an option counts.
-/

namespace StringCatalog.Command

inductive Task where
  | generate
  | locales
  deriving DecidableEq, Repr

structure Options where
  configFolder : String
  projectDir : String
  resourcesDir : Option String
  defaultLocaleName : Option String
  outputPackage : Option String
  outputDir : Option String
  deriving DecidableEq, Repr

namespace Options

/-- The options when none is given. -/
def defaults : Options := ⟨"config", ".", none, none, none, none⟩

/-- Sets an option by its name; none if there is no such option. -/
def set? (o : Options) (name value : String) : Option Options :=
  match name with
  | "--config-folder" => some {o with configFolder := value}
  | "--project-dir" => some {o with projectDir := value}
  | "--resources-dir" => some {o with resourcesDir := some value}
  | "--default-locale-name" => some {o with defaultLocaleName := some value}
  | "--output-package" => some {o with outputPackage := some value}
  | "--output-dir" => some {o with outputDir := some value}
  | _ => none

end Options

/-- What the words of a command line ask for. -/
inductive Request where
  | run (task : Task) (o : Options)
  | help
  | usageError
  deriving DecidableEq, Repr

/-- Splits a word at its first equals sign. -/
def splitWord (word : String) : String × Option String :=
  let cs := word.toList
  let name := cs.takeWhile (· ≠ '=')
  match cs.dropWhile (· ≠ '=') with
  | _ :: value => (String.ofList name, some (String.ofList value))
  | [] => (word, none)

def isOption (word : String) : Bool :=
  match word.toList with
  | '-' :: _ :: _ => true
  | _ => false

/-- What was read of the words behind a command. -/
structure Words where
  options : Options
  asksHelp : Bool
  hasExtra : Bool

/-- Reads the words behind a command; none if they cannot be understood. -/
def readWords (w : Words) : List String → Option Words
  | [] => some w
  | word :: rest =>
    if word = "--" then some {w with hasExtra := w.hasExtra || !rest.isEmpty}
    else if isOption word then
      match splitWord word with
      | ("--help", none) => readWords {w with asksHelp := true} rest
      | (name, some value) =>
        match w.options.set? name value with
        | some o => readWords {w with options := o} rest
        | none => none
      | (name, none) =>
        match rest with
        | [] => none
        | value :: rest =>
          match w.options.set? name value with
          | some o => readWords {w with options := o} rest
          | none => none
    else readWords {w with hasExtra := true} rest

/-- What the words behind a command ask for. -/
def requestOf (task : Task) (words : List String) : Request :=
  match readWords ⟨Options.defaults, false, false⟩ words with
  | none => .usageError
  | some w => if w.asksHelp then .help else if w.hasExtra then .usageError else .run task w.options

/-- What a word and those behind it ask for where a command is expected. -/
def commandOf (words : List String) : Request :=
  match words with
  | "generate" :: rest => requestOf .generate rest
  | "locales" :: rest => requestOf .locales rest
  | _ => .usageError

/-- Whether a word before a command asks about the program itself. -/
def isQuestion (word : String) : Bool := word = "--help" || word = "--version"

/-- What the words of a command line ask for.  Questions are answered, whatever follows them, unless
it is an option that does not exist. -/
def Request.ofWords (words : List String) : Request :=
  let asked := words.takeWhile isQuestion
  match words.dropWhile isQuestion with
  | "--" :: rest => if asked.isEmpty then commandOf rest else .help
  | rest =>
    if asked.isEmpty then commandOf rest
    else if rest.head?.any isOption then .usageError
    else .help

end StringCatalog.Command
