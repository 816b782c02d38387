import Diglot.Setting
import Diglot.Text.Basic
import Diglot.Text.Digit

/-!
# Command-line arguments

A command declares its options and which positional arguments it takes. Arguments are read from
left to right. A value may follow its option or be joined to it by an equals sign; after a double
dash everything is positional. Positional arguments of which there may be any number stand in one
group.

A long name may be cut short as long as it fits one option only. Short options without values may
be written together, and a value may stand right behind a short option.

An argument that starts with a dash and is no option is refused at the end, so that a request for
help after it is still met. An argument that fits several options is refused at once.

A double dash joined to an option is no value: the option counts as given with nothing in it.
-/

set_option autoImplicit false

namespace Diglot.Command

/-! ## Declarations -/

/-- What an option does with a value. -/
inductive OptionUse
  | flag
  | help
  | value
  | choice (values : List Text)
  deriving DecidableEq, Repr

def OptionUse.takesValue : OptionUse → Bool
  | .flag | .help => false
  | .value | .choice _ => true

/-- An option with its names; its arguments are recorded under its key. -/
structure OptionRule where
  key : String
  names : List String
  use : OptionUse
  required : Bool := false
  deriving DecidableEq, Repr

/-- Which positional arguments there are: a fixed number of them, a group of one or more, or the
name of a command that all further arguments belong to. -/
inductive PositionalRule
  | exactly (count : Nat)
  | oneOrMore
  | command
  deriving DecidableEq, Repr

structure Grammar where
  options : List OptionRule
  positionals : PositionalRule
  deriving DecidableEq, Repr

/-- Why arguments lead to no run. -/
inductive Stop
  | help
  | misuse
  deriving DecidableEq, Repr

/-! ## Arguments -/

def doubleDash : Text := ['-', '-']

/-- The single value that a text stands for, if it is one. -/
def singleValue (text : Text) : Option Text :=
  if text = doubleDash then none else some text

/-- The arguments that were read: the positional ones in order, the options with their values, the
latest first, and the command with its own arguments. -/
structure Arguments where
  positionals : List (Option Text) := []
  options : List (String × Option Text) := []
  command : Option (Text × List Text) := none
  inGroup : Bool := false
  surplus : Bool := false
  deriving DecidableEq, Repr

namespace Arguments

/-- What an option was last set to. -/
def setting (arguments : Arguments) (key : String) : Setting Text :=
  match arguments.options.find? (·.1 = key) with
  | none => .absent
  | some (_, none) => .void
  | some (_, some text) => .value text

def has (arguments : Arguments) (key : String) : Bool :=
  arguments.setting key ≠ .absent

/-- Whether one more positional argument may stand here. -/
def accepts (arguments : Arguments) : PositionalRule → Bool
  | .exactly count => arguments.positionals.length < count
  | .oneOrMore => arguments.positionals.isEmpty || arguments.inGroup
  | .command => false

def addPositional (arguments : Arguments) (rule : PositionalRule) (given : Option Text) :
    Arguments :=
  if arguments.accepts rule then
    { arguments with positionals := arguments.positionals ++ [given], inGroup := true }
  else { arguments with surplus := true }

def addOption (arguments : Arguments) (key : String) (given : Option Text) : Arguments :=
  { arguments with options := (key, given) :: arguments.options, inGroup := false }

def addSurplus (arguments : Arguments) : Arguments :=
  { arguments with surplus := true, inGroup := false }

/-- Reads texts that are single positional arguments. -/
def addSingles (arguments : Arguments) (rule : PositionalRule) (texts : List Text) : Arguments :=
  texts.foldl (fun read text => read.addPositional rule (singleValue text)) arguments

end Arguments

/-! ## Shapes -/

/-- What an argument is, judged by its form. -/
inductive Shape
  | positional
  | option (rule : OptionRule) (long : Bool) (joined : Option Text)
  | unknown
  | ambiguous
  deriving DecidableEq, Repr

def isLongName (name : Text) : Bool :=
  doubleDash.isPrefixOf name

/-- Whether the text after a dash is a number, perhaps with a line feed behind it. -/
def isUnsignedNumber (text : Text) : Bool :=
  let text := if text.getLast? = some '\n' then text.dropLast else text
  let whole := text.takeWhile Text.isDecimalDigit
  match text.dropWhile Text.isDecimalDigit with
  | [] => !whole.isEmpty
  | '.' :: fraction => !fraction.isEmpty && fraction.all Text.isDecimalDigit
  | _ => false

namespace Grammar

def named (grammar : Grammar) : List (Text × OptionRule) :=
  grammar.options.flatMap fun rule => rule.names.map fun name => (name.toList, rule)

def option? (grammar : Grammar) (name : Text) : Option OptionRule :=
  (grammar.named.find? (·.1 = name)).map (·.2)

/-- The option that a whole name with a joined value gives. -/
def joinedOption? (grammar : Grammar) (text : Text) : Option Shape :=
  match Text.cutAt ['='] text with
  | some (name, value) =>
    (grammar.option? name).map fun rule => .option rule (isLongName name) (some value)
  | none => none

/-- The options that a text may be meant for: those whose long name it is a front of, or the one
whose short name it begins with. -/
def candidates (grammar : Grammar) : Text → List Shape
  | '-' :: '-' :: rest =>
    let text : Text := '-' :: '-' :: rest
    let (front, joined) := match Text.cutAt ['='] text with
      | some (front, value) => (front, some value)
      | none => (text, none)
    (grammar.named.filter fun (name, _) => front.isPrefixOf name).map fun (_, rule) =>
      .option rule true joined
  | '-' :: letter :: rest =>
    (grammar.named.filter fun (name, _) => name = ['-', letter]).map fun (_, rule) =>
      .option rule false (some rest)
  | _ => []

/-- What an argument is. A lone dash, a negative number and a text with a space are positional
unless they may be meant for an option. -/
def shape (grammar : Grammar) (text : Text) : Shape :=
  match text with
  | '-' :: rest =>
    match grammar.option? text with
    | some rule => .option rule (isLongName text) none
    | none =>
      if rest.isEmpty then .positional
      else match grammar.joinedOption? text with
        | some shape => shape
        | none =>
          match grammar.candidates text with
          | [shape] => shape
          | [] => if isUnsignedNumber rest || text.contains ' ' then .positional else .unknown
          | _ => .ambiguous
  | _ => .positional

/-- Whether an option can have the argument as its value. -/
def isValue (grammar : Grammar) (text : Text) : Bool :=
  text ≠ doubleDash && grammar.shape text = .positional

/-! ## Options -/

/-- An argument that is an option, taken apart: options without values that stand before the last
one, and the last one with what is joined to it. -/
structure Cluster where
  leading : List OptionRule := []
  last : OptionRule
  joined : Option Text

/-- Takes apart what stands behind a short option without a value. -/
def clusterBehind (grammar : Grammar) (rule : OptionRule) : Text → Except Stop Cluster
  | [] => .error .misuse
  | letter :: rest =>
    match grammar.option? ['-', letter] with
    | none => .error .misuse
    | some next =>
      if rest.isEmpty then .ok ⟨[rule], next, none⟩
      else if next.use.takesValue then .ok ⟨[rule], next, some rest⟩
      else match clusterBehind grammar next rest with
        | .error stop => .error stop
        | .ok cluster => .ok { cluster with leading := rule :: cluster.leading }

def cluster (grammar : Grammar) (rule : OptionRule) (long : Bool) (joined : Option Text) :
    Except Stop Cluster :=
  match joined with
  | none => .ok ⟨[], rule, none⟩
  | some text =>
    if rule.use.takesValue then .ok ⟨[], rule, some text⟩
    else if long then .error .misuse
    else grammar.clusterBehind rule text

/-- Records an option without a value. -/
def takeFlag (arguments : Arguments) (rule : OptionRule) : Except Stop Arguments :=
  match rule.use with
  | .help => .error .help
  | _ => .ok (arguments.addOption rule.key none)

/-- Records an option, with its value if it may have it. -/
def takeOption (arguments : Arguments) (rule : OptionRule) (given : Option Text) :
    Except Stop Arguments :=
  match rule.use, given with
  | .value, some text => .ok (arguments.addOption rule.key (singleValue text))
  | .choice values, some text =>
    if text = doubleDash || values.contains text then
      .ok (arguments.addOption rule.key (singleValue text))
    else .error .misuse
  | .value, none | .choice _, none => .error .misuse
  | .flag, _ | .help, _ => takeFlag arguments rule

/-- Records the options of a cluster, the last one with its value. -/
def Cluster.take (cluster : Cluster) (arguments : Arguments) (given : Option Text) :
    Except Stop Arguments :=
  match cluster.leading.foldlM takeFlag arguments with
  | .error stop => .error stop
  | .ok more => takeOption more cluster.last given

/-! ## Reading -/

/-- Reads what follows a double dash. The dash goes with the positional argument right before it, or
else with the first one after it. -/
def readAfterDash (grammar : Grammar) (arguments : Arguments) (texts : List Text) : Arguments :=
  let more := match grammar.positionals, texts with
    | .oneOrMore, texts =>
      texts.foldl (fun read text => read.addPositional .oneOrMore (some text)) arguments
    | rule, [] => arguments.addSingles rule []
    | rule, text :: others =>
      if arguments.inGroup then arguments.addSingles rule (text :: others)
      else (arguments.addPositional rule (some text)).addSingles rule others
  if arguments.accepts grammar.positionals || arguments.inGroup then more else more.addSurplus

/-- Reads arguments after those that were read already. -/
def readFrom (grammar : Grammar) (arguments : Arguments) : List Text → Except Stop Arguments
  | [] => .ok arguments
  | text :: texts =>
    if text = doubleDash then .ok (grammar.readAfterDash arguments texts)
    else match grammar.shape text with
      | .ambiguous => .error .misuse
      | .unknown => readFrom grammar arguments.addSurplus texts
      | .positional =>
        if grammar.positionals = .command then .ok { arguments with command := some (text, texts) }
        else readFrom grammar (arguments.addPositional grammar.positionals (some text)) texts
      | .option rule long joined =>
        match grammar.cluster rule long joined with
        | .error stop => .error stop
        | .ok cluster =>
          if cluster.last.use.takesValue && cluster.joined.isNone then
            match texts with
            | [] => .error .misuse
            | following :: others =>
              if grammar.isValue following then
                match cluster.take arguments (some following) with
                | .ok more => readFrom grammar more others
                | .error stop => .error stop
              else .error .misuse
          else
            match cluster.take arguments cluster.joined with
            | .ok more => readFrom grammar more texts
            | .error stop => .error stop

def isComplete (grammar : Grammar) (arguments : Arguments) : Bool :=
  let counted := match grammar.positionals with
    | .exactly count => arguments.positionals.length == count
    | .oneOrMore => !arguments.positionals.isEmpty
    | .command => true
  counted && grammar.options.all fun rule => !rule.required || arguments.has rule.key

/-- Reads arguments, some of which may be surplus. -/
def readSome (grammar : Grammar) (texts : List Text) : Except Stop Arguments :=
  if (texts.takeWhile (· ≠ doubleDash)).any (grammar.shape · = .ambiguous) then .error .misuse
  else match grammar.readFrom {} texts with
    | .error stop => .error stop
    | .ok arguments => if grammar.isComplete arguments then .ok arguments else .error .misuse

/-- Reads arguments, none of which may be surplus. -/
def read (grammar : Grammar) (texts : List Text) : Except Stop Arguments :=
  match grammar.readSome texts with
  | .error stop => .error stop
  | .ok arguments => if arguments.surplus then .error .misuse else .ok arguments

end Grammar

/-! ## Common options -/

def helpOption : OptionRule := ⟨"help", ["-h", "--help"], .help, false⟩

def verboseOption : OptionRule := ⟨"verbose", ["--verbose", "-v"], .flag, false⟩

def dictionaryOption : OptionRule := ⟨"dictionary", ["--dictionary"], .value, false⟩

def libraryOption : OptionRule := ⟨"library", ["--library"], .value, false⟩

end Diglot.Command
