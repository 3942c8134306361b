import PartsList.Number.Numeral
import PartsList.Settings.Basic

/-!
# Options

The options of the command line and how they are read.  An option is given once at most; its value
is the rest of its word, behind an equals sign or not, or else the next word.  The first thing that
is wrong, or that asks for the version or for help, ends the reading.
-/

namespace PartsList

/-- An option. -/
inductive OptionName
  | config | input | rowsOutput | summaryOutput | database | checkpoint | fallbackDir | maxFiles
  | workers | timeoutSecs | resume | retryFailedOnly | retry | library | debug | version | help
deriving DecidableEq, Repr

/-- What an option is followed by. -/
inductive ValueKind
  /-- Nothing. -/
  | absent
  /-- A path, which is not empty. -/
  | path
  /-- A machine word. -/
  | number
deriving DecidableEq, Repr

namespace OptionName

/-- All options in the order in which they are explained. -/
def all : List OptionName :=
  [config, input, rowsOutput, summaryOutput, database, checkpoint, fallbackDir, maxFiles, workers,
   timeoutSecs, resume, retryFailedOnly, retry, library, debug, help, version]

/-- The name of the option. -/
def spelling : OptionName → String
  | config => "config"
  | input => "input"
  | rowsOutput => "rows-output"
  | summaryOutput => "summary-output"
  | database => "database"
  | checkpoint => "checkpoint"
  | fallbackDir => "fallback-dir"
  | maxFiles => "max-files"
  | workers => "workers"
  | timeoutSecs => "timeout-secs"
  | resume => "resume"
  | retryFailedOnly => "retry-failed-only"
  | retry => "retry"
  | library => "pdfium-lib"
  | debug => "debug"
  | version => "version"
  | help => "help"

/-- The letter of the option, if it has one. -/
def letter? : OptionName → Option Char
  | config => some 'c'
  | input => some 'i'
  | workers => some 'w'
  | debug => some 'd'
  | version => some 'V'
  | help => some 'h'
  | _ => none

/-- What the option is followed by. -/
def kind : OptionName → ValueKind
  | resume | retryFailedOnly | retry | debug | version | help => .absent
  | maxFiles | workers | timeoutSecs => .number
  | _ => .path

/-- The option with a given name. -/
def ofSpelling? (spelling : String) : Option OptionName :=
  all.find? (·.spelling == spelling)

/-- The option with a given letter. -/
def ofLetter? (letter : Char) : Option OptionName :=
  all.find? (·.letter? == some letter)

end OptionName

/-- Why a command line asks for no job. -/
inductive Refusal
  /-- It makes no sense. -/
  | usage
  /-- It asks for the version. -/
  | version
  /-- It asks for help. -/
  | help
deriving DecidableEq, Repr

/-- The options that are given, each with its value. -/
structure Options where
  /-- The options, the last one first. -/
  given : List (OptionName × String) := []
deriving DecidableEq, Repr

namespace Options

/-- The machine word that a text writes in decimal, with or without a plus sign. -/
def word? (text : String) : Option Nat :=
  let digits :=
    match text.toList with
    | '+' :: rest => rest
    | whole => whole
  if digits.isEmpty || !digits.all Char.isDigit then none
  else
    let value := Numeral.digitsValue digits
    if value < Word.size then some value else none

/-- The option is given. -/
def has (options : Options) (name : OptionName) : Bool :=
  options.given.any (·.1 == name)

/-- The value of an option. -/
def value? (options : Options) (name : OptionName) : Option String :=
  (options.given.find? (·.1 == name)).map (·.2)

/-- The path that an option names. -/
def path? (options : Options) (name : OptionName) : Option Path :=
  (options.value? name).map Path.mk

/-- The number that an option names. -/
def number? (options : Options) (name : OptionName) : Option Nat :=
  (options.value? name).bind word?

/-- The value fits the option. -/
def fits (name : OptionName) (value : String) : Bool :=
  match name.kind with
  | .absent => value == ""
  | .path => value != ""
  | .number => (word? value).isSome

/-- The options with one more. -/
def give (options : Options) (name : OptionName) (value : String) : Except Refusal Options :=
  match name with
  | .version => .error .version
  | .help => .error .help
  | name =>
    if options.has name || !fits name value then .error .usage
    else .ok ⟨(name, value) :: options.given⟩

/-- The value behind a letter in the same word. -/
def attached : List Char → String
  | '=' :: value => String.ofList value
  | value => String.ofList value

/-- Reads the letters of a word.  The second part of the answer is the option whose value is still
to come. -/
def readLetters (options : Options) : List Char → Except Refusal (Options × Option OptionName)
  | [] => .ok (options, none)
  | letter :: rest =>
    match OptionName.ofLetter? letter with
    | none => .error .usage
    | some name =>
      if name.kind = .absent then
        match options.give name "" with
        | .ok options => readLetters options rest
        | .error refusal => .error refusal
      else if rest.isEmpty then .ok (options, some name)
      else (options.give name (attached rest)).map fun options => (options, none)

/-- Reads the name of a word and the value behind its equals sign.  The second part of the answer is
the option whose value is still to come. -/
def readName (options : Options) (text : List Char) :
    Except Refusal (Options × Option OptionName) :=
  match OptionName.ofSpelling? (String.ofList (text.takeWhile (· != '='))) with
  | none => .error .usage
  | some name =>
    match text.dropWhile (· != '=') with
    | _ :: value =>
      if name.kind = .absent then .error .usage
      else (options.give name (String.ofList value)).map fun options => (options, none)
    | [] =>
      if name.kind = .absent then (options.give name "").map fun options => (options, none)
      else .ok (options, some name)

/-- Reads a word that is no value.  There are no words but options. -/
def readWord (options : Options) (word : String) : Except Refusal (Options × Option OptionName) :=
  match word.toList with
  | '-' :: '-' :: name => options.readName name
  | '-' :: letter :: letters => options.readLetters (letter :: letters)
  | _ => .error .usage

/-- The word cannot be the value of the word before it, because it looks like an option. -/
def looksLikeOption (word : String) : Bool :=
  match word.toList with
  | '-' :: _ :: _ => true
  | _ => false

/-- Reads words.  Behind two dashes on their own there may be nothing. -/
def readWords (options : Options) : List String → Except Refusal Options
  | [] => .ok options
  | word :: rest =>
    if word = "--" then
      if rest.isEmpty then .ok options else .error .usage
    else
      match options.readWord word with
      | .error refusal => .error refusal
      | .ok (options, none) => readWords options rest
      | .ok (options, some name) =>
        match rest with
        | [] => .error .usage
        | value :: rest =>
          if looksLikeOption value then .error .usage
          else
            match options.give name value with
            | .error refusal => .error refusal
            | .ok options => readWords options rest

/-- Reads a command line. -/
def read (words : List String) : Except Refusal Options :=
  readWords {} words

/-- The settings with those that options name in their place.  An option without a value can only
switch something on. -/
def override (options : Options) (settings : Settings) : Settings :=
  { settings with
    inputDir := (options.path? .input).getD settings.inputDir
    rowsOutput := (options.path? .rowsOutput).getD settings.rowsOutput
    summaryOutput := (options.path? .summaryOutput).getD settings.summaryOutput
    databasePath := (options.path? .database).getD settings.databasePath
    checkpointPath := (options.path? .checkpoint).getD settings.checkpointPath
    fallbackDir := (options.path? .fallbackDir).getD settings.fallbackDir
    maxFiles := (options.number? .maxFiles).getD settings.maxFiles
    workers := (options.number? .workers).or settings.workers
    perFileTimeoutSecs := (options.number? .timeoutSecs).getD settings.perFileTimeoutSecs
    libraryPath := (options.path? .library).or settings.libraryPath
    resume := settings.resume || options.has .resume
    retryFailedOnly := settings.retryFailedOnly || options.has .retryFailedOnly
    retry := { settings.retry with enabled := settings.retry.enabled || options.has .retry }
    debug := settings.debug || options.has .debug }

end Options

end PartsList
