import PriceTracker.Url.Parse

/-!
# Arguments

What the arguments of the program ask for. Options are read from left to right, and the first
fault is the answer; options that exclude each other are looked at last. A request for the help
text or the version ends the reading.

* `Options.take` takes one argument;
* `Arguments.read` takes all of them.
-/

namespace PriceTracker.CommandLine

/-- An option without a value. -/
inductive Flag where
  | verbose
  | quiet
  | dryRun
  | stats
  | initSchema
  | help
  | version
  deriving DecidableEq, Repr

/-- An option with a value. -/
inductive Setting where
  | config
  | category
  deriving DecidableEq, Repr

/-- An option. -/
inductive OptionName where
  | flag (flag : Flag)
  | setting (setting : Setting)
  deriving DecidableEq, Repr

/-- The option of a word after two hyphens. -/
def OptionName.ofWord? : String → Option OptionName
  | "verbose" => some (.flag .verbose)
  | "quiet" => some (.flag .quiet)
  | "dry-run" => some (.flag .dryRun)
  | "stats" => some (.flag .stats)
  | "init-schema" => some (.flag .initSchema)
  | "help" => some (.flag .help)
  | "version" => some (.flag .version)
  | "config" => some (.setting .config)
  | "category" => some (.setting .category)
  | _ => none

/-- The option of a letter after one hyphen. -/
def OptionName.ofLetter? : Char → Option OptionName
  | 'v' => some (.flag .verbose)
  | 'q' => some (.flag .quiet)
  | 'h' => some (.flag .help)
  | 'V' => some (.flag .version)
  | 'c' => some (.setting .config)
  | _ => none

/-- Why arguments are refused. -/
inductive UsageError where
  /-- The argument means nothing. -/
  | unexpected (argument : String)
  /-- The option needs a value. -/
  | missingValue (setting : Setting)
  /-- The option takes no value. -/
  | needlessValue (argument : String)
  /-- The option may be given once only. -/
  | repeated (argument : String)
  /-- The options exclude each other. -/
  | exclusive
  /-- The category is no URL. -/
  | badCategory (value : String) (cause : Url.ParseError)
  deriving DecidableEq, Repr

/-- The written form of an option with a value. -/
def Setting.written : Setting → String
  | .config => "--config <FILE>"
  | .category => "--category <URL>"

/-- The wording of the error. -/
def UsageError.message : UsageError → String
  | .unexpected argument => s!"unexpected argument '{argument}' found"
  | .missingValue setting =>
    s!"a value is required for '{setting.written}' but none was supplied"
  | .needlessValue argument => s!"unexpected value for '{argument}' found; no more were expected"
  | .repeated argument => s!"the argument '{argument}' cannot be used multiple times"
  | .exclusive => "the arguments given cannot be used together"
  | .badCategory value cause => s!"invalid value '{value}' for '--category <URL>': {cause.message}"

/-- What was asked for so far. -/
structure Options where
  settingsFile : Option String := none
  /-- How often more messages were asked for. -/
  verbosity : Nat := 0
  quiet : Bool := false
  dryRun : Bool := false
  stats : Bool := false
  initSchema : Bool := false
  categories : List Url := []
  /-- The option whose value comes next. -/
  awaited : Option Setting := none
  deriving DecidableEq, Repr

/-- What the arguments ask for. -/
inductive Request where
  /-- The help text. -/
  | help
  /-- The name and version of the program. -/
  | version
  /-- What the options say. -/
  | run (options : Options)
  deriving DecidableEq, Repr

namespace Options

/-- Sets an option without a value, or ends the reading. -/
def set (o : Options) (argument : String) : Flag → Except UsageError Request
  | .verbose => .ok (.run { o with verbosity := o.verbosity + 1 })
  | .quiet => if o.quiet then .error (.repeated argument) else .ok (.run { o with quiet := true })
  | .dryRun =>
    if o.dryRun then .error (.repeated argument) else .ok (.run { o with dryRun := true })
  | .stats => if o.stats then .error (.repeated argument) else .ok (.run { o with stats := true })
  | .initSchema =>
    if o.initSchema then .error (.repeated argument) else .ok (.run { o with initSchema := true })
  | .help => .ok .help
  | .version => .ok .version

/-- Sets an option with a value, which may not be empty. -/
def put (o : Options) (value : String) : Setting → Except UsageError Request
  | .config =>
    if value.isEmpty then .error (.missingValue .config)
    else if o.settingsFile.isSome then .error (.repeated Setting.config.written)
    else .ok (.run { o with settingsFile := some value, awaited := none })
  | .category =>
    match Url.parse value with
    | .error cause => .error (.badCategory value cause)
    | .ok url => .ok (.run { o with categories := o.categories ++ [url], awaited := none })

/-- Takes letters after one hyphen. What follows the letter of an option with a value is the
value. -/
def takeLetters (o : Options) (argument : String) : List Char → Except UsageError Request
  | [] => .ok (.run o)
  | c :: rest =>
    match OptionName.ofLetter? c with
    | none => .error (.unexpected argument)
    | some (.flag flag) =>
      match o.set argument flag with
      | .ok (.run o) => o.takeLetters argument rest
      | ended => ended
    | some (.setting setting) =>
      match rest with
      | [] => .ok (.run { o with awaited := some setting })
      | '=' :: value => o.put (String.ofList value) setting
      | value => o.put (String.ofList value) setting

/-- Takes a word after two hyphens, with the value behind an equals sign if there is one. -/
def takeWord (o : Options) (argument : String) (word : List Char) : Except UsageError Request :=
  let name := word.takeWhile (· != '=')
  let value? := if name.length < word.length then some (word.drop (name.length + 1)) else none
  match OptionName.ofWord? (String.ofList name), value? with
  | none, _ => .error (.unexpected argument)
  | some (.flag flag), none => o.set argument flag
  | some (.flag _), some _ => .error (.needlessValue argument)
  | some (.setting setting), some value => o.put (String.ofList value) setting
  | some (.setting setting), none => .ok (.run { o with awaited := some setting })

/-- Takes one argument. A lone hyphen is no option, and nothing may follow a lone double hyphen. -/
def take (o : Options) (argument : String) (rest : List String) : Except UsageError Request :=
  match argument.toList, o.awaited with
  | '-' :: _ :: _, some setting => .error (.missingValue setting)
  | _, some setting => o.put argument setting
  | ['-', '-'], none =>
    match rest with
    | [] => .ok (.run o)
    | next :: _ => .error (.unexpected next)
  | '-' :: '-' :: word, none => o.takeWord argument word
  | '-' :: c :: letters, none => o.takeLetters argument (c :: letters)
  | _, none => .error (.unexpected argument)

/-- Looks at the options together. -/
def close (o : Options) : Except UsageError Request :=
  match o.awaited with
  | some setting => .error (.missingValue setting)
  | none =>
    if (o.quiet && 0 < o.verbosity) || (o.dryRun && o.stats) || (o.dryRun && o.initSchema) ||
        (o.stats && o.initSchema) then
      .error .exclusive
    else .ok (.run o)

/-- Takes arguments in order. -/
def takeAll (o : Options) : List String → Except UsageError Request
  | [] => o.close
  | argument :: rest =>
    match o.take argument rest with
    | .ok (.run o) => o.takeAll rest
    | ended => ended

end Options

/-- What arguments ask for. -/
def readArguments (arguments : List String) : Except UsageError Request :=
  ({} : Options).takeAll arguments

end PriceTracker.CommandLine
