/-!
# Command line

The options of the program: a script and whether it is strict, or a prompt with or without banner,
echo and history. Which of them conflict and which requires which is the program's own choice; for
the rest the command line follows the documented rules of the option parser that the program uses
(clap):

* Words are taken from left to right, and after `--` no word is an option any more. Short options
  without values can share a word.
* The value of an option stands in the same word, after an equals sign or, for a short option,
  directly, or else it is the next word. A word that begins with a hyphen is no value, except for
  the hyphen alone, and an empty value is none either. A value is only judged once the next option
  or the end is reached; so a word that is no option at all is complained about first.
* An option that is given twice conflicts with itself.
* Conflicts and requirements are judged when all words are known, and conflicts take precedence:
  what conflicts with an option that is there is not required. So `strict`, which requires a script,
  is accepted without one next to an option that conflicts with a script (`conclude`).
* The help and the version end the parsing as soon as they are asked for.

The texts of the help, of the version and of the complaints are the option parser's own and are left
out: words that give no options end the program with a status (`Interruption.status`).
-/

namespace SetCalculator

/-- The options of the program. -/
structure Options where
  /-- The script to run instead of the prompt. -/
  script : Option String
  /-- Whether the script ends at the first line that is not executed. -/
  strict : Bool
  /-- Whether the prompt leaves out the banner. -/
  quiet : Bool
  /-- Whether the prompt echoes the lines it reads. -/
  echo : Bool
  /-- The file in which the prompt keeps its history. -/
  history : Option String
  deriving DecidableEq, Repr

/-- Why the words give no options. -/
inductive Interruption where
  /-- The help was asked for. -/
  | help
  /-- The version was asked for. -/
  | version
  /-- A word that is neither an option nor a value. -/
  | unknownArgument
  /-- An option given twice, or two options that rule each other out. -/
  | argumentConflict
  /-- An option without another one that it needs. -/
  | missingRequired
  /-- An option without a value, or with an empty one. -/
  | invalidValue
  /-- A value for an option that takes none. -/
  | unexpectedValue
  deriving DecidableEq, Repr

/-- The status with which the program ends. -/
def Interruption.status : Interruption → Nat
  | help => 0
  | version => 0
  | _ => 2

namespace CommandLine

/-- An option that is given or not. -/
inductive Flag where
  | strict
  | quiet
  | echo
  | help
  | version
  deriving DecidableEq, Repr

/-- An option with a value. -/
inductive Setting where
  | script
  | history
  deriving DecidableEq, Repr

/-- An option of either kind. -/
inductive Switch where
  | flag (flag : Flag)
  | setting (setting : Setting)
  deriving DecidableEq, Repr

/-- The long options. -/
def longNames : List (String × Switch) :=
  [("script", .setting .script), ("strict", .flag .strict), ("quiet", .flag .quiet),
   ("echo", .flag .echo), ("history", .setting .history), ("help", .flag .help),
   ("version", .flag .version)]

/-- The short options. -/
def shortNames : List (Char × Switch) :=
  [('s', .setting .script), ('q', .flag .quiet), ('e', .flag .echo), ('h', .flag .help),
   ('V', .flag .version)]

/-- What is known after some of the words. -/
structure Progress where
  options : Options
  /-- A setting that waits to be judged, with its value if there was one. -/
  pending : Option (Setting × Option String)
  /-- Whether every later word would be an operand, which the program does not take. -/
  ended : Bool
  deriving DecidableEq, Repr

/-- What is known before the first word. -/
def Progress.initial : Progress := ⟨⟨none, false, false, false, none⟩, none, false⟩

/-- The value of a setting so far. -/
def valueOf (options : Options) : Setting → Option String
  | .script => options.script
  | .history => options.history

/-- Gives a setting its value: once, and not an empty one. -/
def assign (options : Options) (setting : Setting) (value : String) :
    Except Interruption Options :=
  if (valueOf options setting).isSome then .error .argumentConflict
  else if value = "" then .error .invalidValue
  else match setting with
    | .script => .ok { options with script := some value }
    | .history => .ok { options with history := some value }

/-- Judges the setting that waits. -/
def settle (p : Progress) : Except Interruption Progress :=
  match p.pending with
  | none => .ok p
  | some (_, none) => .error .invalidValue
  | some (setting, some value) => do
    let options ← assign p.options setting value
    .ok { p with options, pending := none }

/-- Takes a flag: once. -/
def raise (options : Options) : Flag → Except Interruption Options
  | .strict =>
    if options.strict then .error .argumentConflict else .ok { options with strict := true }
  | .quiet =>
    if options.quiet then .error .argumentConflict else .ok { options with quiet := true }
  | .echo =>
    if options.echo then .error .argumentConflict else .ok { options with echo := true }
  | .help => .error .help
  | .version => .error .version

/-- Takes a flag after the setting that waits was judged. -/
def takeFlag (p : Progress) (flag : Flag) : Except Interruption Progress := do
  let p ← settle p
  let options ← raise p.options flag
  .ok { p with options }

/-- Takes a setting with the value in the same word. -/
def takeSetting (p : Progress) (setting : Setting) (value : String) :
    Except Interruption Progress := do
  let p ← settle p
  let options ← assign p.options setting value
  .ok { p with options }

/-- Takes a setting whose value is the next word. -/
def awaitValue (p : Progress) (setting : Setting) : Except Interruption Progress := do
  let p ← settle p
  .ok { p with pending := some (setting, none) }

/-- Takes a long option; the value in the same word stands after an equals sign. -/
def takeLong (p : Progress) (body : List Char) : Except Interruption Progress :=
  let name := String.ofList (body.takeWhile (· ≠ '='))
  let value := body.dropWhile (· ≠ '=')
  match longNames.lookup name, value with
  | none, _ => .error .unknownArgument
  | some (.flag flag), [] => takeFlag p flag
  | some (.flag _), _ :: _ => .error .unexpectedValue
  | some (.setting setting), [] => awaitValue p setting
  | some (.setting setting), _ :: value => takeSetting p setting (String.ofList value)

/-- Takes the short options of one word; what follows a setting is its value, with or without an
equals sign before it. -/
def takeShort (p : Progress) : List Char → Except Interruption Progress
  | [] => .ok p
  | name :: rest =>
    match shortNames.lookup name with
    | none => .error .unknownArgument
    | some (.flag flag) => do
      let p ← takeFlag p flag
      takeShort p rest
    | some (.setting setting) =>
      match rest with
      | [] => awaitValue p setting
      | '=' :: value => takeSetting p setting (String.ofList value)
      | value => takeSetting p setting (String.ofList value)

/-- Takes a word that is no option: it can only be the value that a setting waits for. -/
def takeValue (p : Progress) (word : String) : Except Interruption Progress :=
  match p.pending with
  | some (setting, none) => .ok { p with pending := some (setting, some word) }
  | _ => .error .unknownArgument

/-- Takes one word. -/
def takeWord (p : Progress) (word : String) : Except Interruption Progress :=
  if p.ended then .error .unknownArgument
  else match word.toList with
    | ['-', '-'] => .ok { p with ended := true }
    | '-' :: '-' :: body => takeLong p body
    | '-' :: name :: names => takeShort p (name :: names)
    | _ => takeValue p word

/-- Judges the options together: a script conflicts with what is for the prompt, and `strict`
requires a script unless something is there that conflicts with one. -/
def conclude (options : Options) : Except Interruption Options :=
  let prompting := options.quiet || options.echo || options.history.isSome
  if options.script.isSome && prompting then .error .argumentConflict
  else if options.strict && options.script.isNone && !prompting then .error .missingRequired
  else .ok options

/-- The options that the words give. -/
def parse (words : List String) : Except Interruption Options := do
  let p ← words.foldlM takeWord Progress.initial
  let p ← settle p
  conclude p.options

end CommandLine

end SetCalculator
