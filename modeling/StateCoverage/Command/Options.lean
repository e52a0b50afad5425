import StateCoverage.Text.Digit
import StateCoverage.Text.Quoted

/-!
# Options

What stands on the command line: one run of paths and options, which begin with
dashes.  A long option may be cut short as long as it stays unambiguous, its
value follows it or an equals sign, and after `--` everything is a path.

* `Options.parse` — the options of an argument list, or what to do instead.
-/

namespace StateCoverage

/-- The two forms of a report. -/
inductive ReportFormat where
  | text
  | json
  deriving Repr, DecidableEq, Inhabited

/-- The options of a run. -/
structure Options where
  paths : List String
  config? : Option String
  severity? : Option String
  disable : Bool
  format : ReportFormat
  failOnViolation : Bool
  verbose : Bool
  deriving Repr, DecidableEq, Inhabited

/-- The options that are known. -/
inductive Flag where
  | help
  | config
  | severity
  | disable
  | format
  | failOnViolation
  | verbose
  deriving Repr, DecidableEq, Inhabited

namespace Flag

/-- All options in the order of their listing. -/
def all : List Flag := [help, config, severity, disable, format, failOnViolation, verbose]

/-- The ways to write an option. -/
def spellings : Flag → List String
  | .help => ["-h", "--help"]
  | .config => ["--config"]
  | .severity => ["--severity"]
  | .disable => ["--disable"]
  | .format => ["--format"]
  | .failOnViolation => ["--fail-on-violation"]
  | .verbose => ["-v", "--verbose"]

/-- Whether a value belongs to the option. -/
def takesValue : Flag → Bool
  | .config | .severity | .format => true
  | _ => false

/-- The option as it is called in complaints. -/
def label (f : Flag) : String := "/".intercalate f.spellings

/-- Every way to write an option. -/
def spelled : List (String × Flag) :=
  all.flatMap fun f => f.spellings.map (·, f)

/-- The option with a given spelling. -/
def ofSpelling? (s : String) : Option Flag := spelled.lookup s

end Flag

/-- The values that `--format` takes. -/
def formatWords : List (String × ReportFormat) := [("text", .text), ("json", .json)]

/-- What is wrong with a command line. -/
inductive UsageFault where
  | ambiguous (word : String) (candidates : List String)
  | valueMissing (flag : Flag)
  | valueIgnored (flag : Flag) (value : String)
  | unknownFormat (value : String)
  | noPaths
  | unrecognized (words : List String)
  deriving Repr, DecidableEq

/-- The wording of a fault. -/
def UsageFault.message : UsageFault → String
  | .ambiguous word candidates =>
      let listed := ", ".intercalate candidates
      s!"ambiguous option: {word} could match {listed}"
  | .valueMissing flag => s!"argument {flag.label}: expected one argument"
  | .valueIgnored flag value =>
      s!"argument {flag.label}: ignored explicit argument {Text.quoted value}"
  | .unknownFormat value =>
      let choices := ", ".intercalate (formatWords.map fun w => Text.quoted w.1)
      s!"argument {Flag.format.label}: invalid choice: {Text.quoted value} (choose from {choices})"
  | .noPaths => "the following arguments are required: paths"
  | .unrecognized words =>
      let listed := " ".intercalate words
      s!"unrecognized arguments: {listed}"

/-! ## Words -/

/-- What a word of the command line is. -/
inductive Word where
  /-- A path, or the value of an option. -/
  | plain (text : String)
  /-- The mark after which there are no options. -/
  | separator
  /-- An option, with the value given in the same word. -/
  | option (flag : Flag) (isShort : Bool) (value? : Option String)
  /-- Something that looks like an option but is none. -/
  | unknown (text : String)
  deriving Repr, DecidableEq

/-- A text up to its first equals sign, and what follows that. -/
def splitAtEquals (s : String) : String × Option String :=
  let cs := s.toList
  let front := cs.takeWhile (· ≠ '=')
  match cs.drop front.length with
  | [] => (s, none)
  | _ :: value => (String.ofList front, some (String.ofList value))

/-- Whether a word is a negative number, in the digits of any script, which is no
option.  A line feed may follow it. -/
def isNegativeNumber (s : String) : Bool :=
  match s.toList with
  | '-' :: cs =>
      let whole := cs.takeWhile Text.isDecimalDigit
      let isEnd := fun rest => rest = [] || rest = ['\n']
      match cs.drop whole.length with
      | '.' :: rest =>
          let fraction := rest.takeWhile Text.isDecimalDigit
          !fraction.isEmpty && isEnd (rest.drop fraction.length)
      | rest => !whole.isEmpty && isEnd rest
  | _ => false

/-- The options that a word can mean, each with its spelling: those that it is
short for, or the one that its first letter is. -/
def candidates (s : String) : List (String × Word) :=
  if s.startsWith "--" then
    let (front, value?) := splitAtEquals s
    (Flag.spelled.filter fun c => c.1.startsWith front).map fun c => (c.1, .option c.2 false value?)
  else
    let short := String.ofList (s.toList.take 2)
    let value := String.ofList (s.toList.drop 2)
    (Flag.spelled.filter fun c => c.1 = short).map fun c => (c.1, .option c.2 true (some value))

/-- What a word is, before the separator. -/
def Word.ofText (s : String) : Except UsageFault Word :=
  if !s.startsWith "-" then .ok (.plain s)
  else
    match Flag.ofSpelling? s with
    | some flag => .ok (.option flag (!s.startsWith "--") none)
    | none =>
        if s.length = 1 then .ok (.plain s)
        else
          let (front, value?) := splitAtEquals s
          match value?, Flag.ofSpelling? front with
          | some value, some flag => .ok (.option flag (!s.startsWith "--") (some value))
          | _, _ =>
              match candidates s with
              | [(_, word)] => .ok word
              | [] =>
                  if isNegativeNumber s || s.toList.contains ' ' then .ok (.plain s)
                  else .ok (.unknown s)
              | several => .error (.ambiguous s (several.map Prod.fst))

/-- What the words of a command line are. -/
def words : List String → Except UsageFault (List (String × Word))
  | [] => .ok []
  | "--" :: rest => .ok (("--", .separator) :: rest.map fun s => (s, .plain s))
  | s :: rest => do
      let w ← Word.ofText s
      return (s, w) :: (← words rest)

/-! ## Options -/

/-- What a command line asks for. -/
inductive Request where
  | run (options : Options)
  | help
  | refuse (fault : UsageFault)
  /-- An option that was given the separator for its value. -/
  | valueLost
  deriving Repr, DecidableEq

/-- What is known while a command line is read. -/
structure OptionsState where
  options : Options
  /-- Whether the run of paths has been read. -/
  hasPaths : Bool
  extras : List String

/-- The start: no option is given. -/
def OptionsState.start : OptionsState :=
  ⟨⟨[], none, none, false, .text, false, false⟩, false, []⟩

/-- Takes in an option without a value. -/
def OptionsState.setFlag (s : OptionsState) (flag : Flag) : Except Request OptionsState :=
  match flag with
  | .help => .error .help
  | .disable => .ok { s with options := { s.options with disable := true } }
  | .failOnViolation => .ok { s with options := { s.options with failOnViolation := true } }
  | .verbose => .ok { s with options := { s.options with verbose := true } }
  | .config | .severity | .format => .error (.refuse (.valueMissing flag))

/-- Takes in an option with its value. -/
def OptionsState.setValue (s : OptionsState) (flag : Flag) (value : String) :
    Except Request OptionsState :=
  if value = "--" then .error .valueLost
  else
    match flag with
    | .config => .ok { s with options := { s.options with config? := some value } }
    | .severity => .ok { s with options := { s.options with severity? := some value } }
    | .format =>
        match formatWords.lookup value with
        | some format => .ok { s with options := { s.options with format } }
        | none => .error (.refuse (.unknownFormat value))
    | _ => .error (.refuse (.valueIgnored flag value))

/-- The options that the letters after a short option are, with the option. -/
def letters (flag : Flag) : List Char → Except Request (List Flag)
  | [] => .ok [flag]
  | c :: cs =>
      match Flag.ofSpelling? (String.ofList ['-', c]) with
      | none => .error (.refuse (.valueIgnored flag (String.ofList (c :: cs))))
      | some next => do return flag :: (← letters next cs)

/-- Takes in an option that has a value in the same word.  What follows a short
option without a value is more of these. -/
def OptionsState.setExplicit (s : OptionsState) (flag : Flag) (isShort : Bool) (value : String) :
    Except Request OptionsState :=
  if flag.takesValue then s.setValue flag value
  else if isShort && value ≠ "" then do (← letters flag value.toList).foldlM OptionsState.setFlag s
  else .error (.refuse (.valueIgnored flag value))

/-- Takes in the words before the next option as the paths, if there are any and
none were read before. -/
def OptionsState.setPaths (s : OptionsState) (given : List (String × Word)) : OptionsState :=
  let texts := given.map Prod.fst
  if !s.hasPaths && given.any fun w => w.2 ≠ .separator then
    let paths := match texts.span (· ≠ "--") with
      | (before, _ :: after) => before ++ after
      | (before, []) => before
    { s with options := { s.options with paths }, hasPaths := true }
  else { s with extras := s.extras ++ texts }

/-- Whether a word is a path, a value or the separator. -/
def Word.isPlain : Word → Bool
  | .plain _ | .separator => true
  | _ => false

/-- Reads words, at most so many. -/
def readWords : Nat → OptionsState → List (String × Word) → Except Request OptionsState
  | 0, s, _ => .ok s
  | n + 1, s, ws =>
      let paths := ws.takeWhile fun w => w.2.isPlain
      let s := if paths.isEmpty then s else s.setPaths paths
      match ws.drop paths.length with
      | [] => .ok s
      | (text, w) :: rest =>
          match w with
          | .option flag isShort (some value) => do
              readWords n (← s.setExplicit flag isShort value) rest
          | .option flag _ none =>
              if flag.takesValue then
                match rest with
                | (value, .plain _) :: rest => do readWords n (← s.setValue flag value) rest
                | _ => .error (.refuse (.valueMissing flag))
              else do readWords n (← s.setFlag flag) rest
          | _ => readWords n { s with extras := s.extras ++ [text] } rest

/-- The request that a command line makes. -/
def Options.parse (args : List String) : Request :=
  match words args with
  | .error f => .refuse f
  | .ok ws =>
      match readWords (ws.length + 1) .start ws with
      | .error r => r
      | .ok s =>
          if !s.hasPaths then .refuse .noPaths
          else if !s.extras.isEmpty then .refuse (.unrecognized s.extras)
          else .run s.options

end StateCoverage
