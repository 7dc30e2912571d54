import VisualNovel.Text.Digit
import VisualNovel.Text.Field
import VisualNovel.Text.Quoted

/-!
# Command line

The options of the player. An option may be shortened as long as it stays the only one of its
beginning, and its value follows it as the next argument or behind an equals sign. Everything behind
two dashes alone is no option, and two dashes behind an equals sign are no value.
-/
namespace VisualNovel.CommandLine

open VisualNovel.Text

/-- What is given to an option that takes a value. -/
inductive Operand where
  | text (s : String)
  /-- Two dashes, which are taken for a separator and leave nothing. -/
  | nothing
deriving DecidableEq, Repr

structure Options where
  config : Option Operand := none
  script : Option String := none
  outDir : Option String := none
  noCache : Bool := false
  /-- Whether every choice is answered by the first label. -/
  chooseFirst : Option Bool := none
  logLevel : Operand := .text "INFO"
deriving DecidableEq, Repr

inductive Key where
  | help
  | config
  | script
  | outDir
  | noCache
  | choose
  | logLevel
deriving DecidableEq, Repr

namespace Key

def spellings : List (String × Key) := [
  ("-h", help), ("--help", help), ("--config", config), ("--script", script), ("--out-dir", outDir),
  ("--no-cache", noCache), ("--choose", choose), ("--log-level", logLevel)]

def name : Key → String
  | help => "-h/--help"
  | config => "--config"
  | script => "--script"
  | outDir => "--out-dir"
  | noCache => "--no-cache"
  | choose => "--choose"
  | logLevel => "--log-level"

def takesValue : Key → Bool
  | help | noCache => false
  | _ => true

end Key

/-- What is wrong with the arguments. -/
inductive Misuse where
  | ambiguous (argument : String) (spellings : List String)
  | noValue (key : Key)
  | ignoredValue (key : Key) (value : String)
  | invalidChoice (value : String)
  | unrecognized (arguments : List String)
deriving DecidableEq, Repr

def Misuse.message : Misuse → String
  | .ambiguous argument spellings =>
    "ambiguous option: " ++ argument ++ " could match " ++ String.intercalate ", " spellings
  | .noValue key => "argument " ++ key.name ++ ": expected one argument"
  | .ignoredValue key value =>
    "argument " ++ key.name ++ ": ignored explicit argument " ++ quoted value
  | .invalidChoice value =>
    "argument " ++ Key.choose.name ++ ": invalid choice: " ++ quoted value ++
      " (choose from 'first', 'second')"
  | .unrecognized arguments => "unrecognized arguments: " ++ String.intercalate " " arguments

/-- Why no options are given back: help is wanted, or the arguments are wrong. -/
inductive Stop where
  | help
  | misuse (m : Misuse)
deriving DecidableEq, Repr

/-- What an argument is. -/
inductive Word where
  | plain (text : String)
  | separator
  | unknown (text : String)
  | option (key : Key) (value : Option String)
  /-- The short help option with more letters behind it. -/
  | shortHelp (letters : String)
deriving DecidableEq, Repr

/-- A negative number is no option. -/
def isNegativeNumber (s : List Char) : Bool :=
  let digit (c : Char) : Bool := (digitValue? c).isSome
  let s := if s.getLast? = some '\n' then s.dropLast else s
  match s with
  | '-' :: r =>
    (r ≠ [] && r.all digit) ||
      (match r.dropWhile digit with
        | '.' :: places => places ≠ [] && places.all digit
        | _ => false)
  | _ => false

def candidates (s : List Char) : List (String × Word) :=
  let (front, value) :=
    match splitFirst '=' s with
    | some (a, b) => (a, some (String.ofList b))
    | none => (s, none)
  match s with
  | '-' :: '-' :: _ =>
    Key.spellings.filterMap fun (spelling, key) =>
      if front.isPrefixOf spelling.toList then some (spelling, .option key value) else none
  | '-' :: c :: letters =>
    Key.spellings.filterMap fun (spelling, key) =>
      if spelling.toList = ['-', c] then
        some (spelling, .shortHelp (String.ofList letters))
      else if s.isPrefixOf spelling.toList then some (spelling, .option key none)
      else none
  | _ => []

def classify (text : String) : Except Stop Word :=
  let s := text.toList
  if s.head? ≠ some '-' then .ok (.plain text)
  else
    match Key.spellings.lookup text with
    | some key => .ok (.option key none)
    | none =>
      if s.length = 1 then .ok (.plain text)
      else
        let exact :=
          match splitFirst '=' s with
          | some (a, b) =>
            (Key.spellings.lookup (String.ofList a)).map fun key =>
              Word.option key (some (String.ofList b))
          | none => none
        match exact with
        | some (.option .help (some letters)) =>
          if text.startsWith "--" || letters = "" then .ok (.option .help (some letters))
          else .ok (.shortHelp letters)
        | some w => .ok w
        | none =>
          match candidates s with
          | [(_, w)] => .ok w
          | [] =>
            if isNegativeNumber s || s.contains ' ' then .ok (.plain text) else .ok (.unknown text)
          | many => .error (.misuse (.ambiguous text (many.map Prod.fst)))

def classifyAll : List String → Except Stop (List Word)
  | [] => .ok []
  | "--" :: rest => .ok (.separator :: rest.map .plain)
  | text :: rest => do
    let w ← classify text
    return w :: (← classifyAll rest)

/-- Follows the letters behind the short help option. Help is given if all of them ask for it. -/
def shortHelp : List Char → Stop
  | [] => .help
  | 'h' :: rest => shortHelp rest
  | letters => .misuse (.ignoredValue .help (String.ofList letters))

/-- Sets an option that takes a value. A file that is named by nothing is not named, and nothing
answers no choice with its first label. -/
def store (o : Options) (key : Key) (value : String) : Except Stop Options :=
  let operand : Operand := if value = "--" then .nothing else .text value
  let named : Option String := if value = "--" then none else some value
  match key with
  | .help | .noCache => .ok o
  | .config => .ok { o with config := some operand }
  | .script => .ok { o with script := named }
  | .outDir => .ok { o with outDir := named }
  | .logLevel => .ok { o with logLevel := operand }
  | .choose =>
    if value = "first" then .ok { o with chooseFirst := some true }
    else if value = "second" || value = "--" then .ok { o with chooseFirst := some false }
    else .error (.misuse (.invalidChoice value))

def raise (o : Options) : Key → Except Stop Options
  | .help => .error .help
  | .noCache => .ok { o with noCache := true }
  | _ => .ok o

/-- Reads classified arguments; also gives those that are not used. -/
def readWords (o : Options) (extras : List String) : List Word → Except Stop (Options × List String)
  | [] => .ok (o, extras)
  | .plain text :: rest => readWords o (extras ++ [text]) rest
  | .unknown text :: rest => readWords o (extras ++ [text]) rest
  | .separator :: rest => readWords o (extras ++ ["--"]) rest
  | .shortHelp letters :: _ => .error (shortHelp letters.toList)
  | .option key (some value) :: rest =>
    if key.takesValue then do readWords (← store o key value) extras rest
    else .error (.misuse (.ignoredValue key value))
  | .option key none :: .plain value :: rest =>
    if key.takesValue then do readWords (← store o key value) extras rest
    else do readWords (← raise o key) (extras ++ [value]) rest
  | .option key none :: rest =>
    if key.takesValue then .error (.misuse (.noValue key))
    else do readWords (← raise o key) extras rest

def read (arguments : List String) : Except Stop Options := do
  let words ← classifyAll arguments
  match ← readWords {} [] words with
  | (o, []) => return o
  | (_, extras) => throw (.misuse (.unrecognized extras))

def usage : List String := [
  "usage: vn_play.py [-h] [--config CONFIG] [--script SCRIPT] [--out-dir OUT_DIR]",
  "                  [--no-cache] [--choose \x7bfirst,second\x7d]",
  "                  [--log-level LOG_LEVEL]"]

def helpText : List String := usage ++ [
  "",
  "Render a vnscript script frame by frame",
  "",
  "options:",
  "  -h, --help            show this help message and exit",
  "  --config CONFIG       Settings YAML file (defaults + environment if omitted)",
  "  --script SCRIPT       Script to play (overrides settings script_path)",
  "  --out-dir OUT_DIR     Frame output directory (overrides settings render_dir)",
  "  --no-cache            Render every frame, ignoring the render cache",
  "  --choose \x7bfirst,second\x7d",
  "                        Answer every two-way choice without prompting",
  "  --log-level LOG_LEVEL",
  "                        Default log level (TRACE, DEBUG, INFO, WARNING, ERROR)"]

def report (m : Misuse) : List String :=
  usage ++ ["vn_play.py: error: " ++ m.message]

end VisualNovel.CommandLine
