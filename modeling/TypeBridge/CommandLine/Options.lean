import TypeBridge.Text.Numeral

/-!
The shape of a command line: options with or without a value, and words. An option has a long name and may
have a letter; its value follows it, in the same token or in the next. Two dashes alone end the options.
Tokens are taken from left to right, and the first one that is out of place decides.
-/
namespace TypeBridge.CommandLine

open TypeBridge.Text

inductive Argument where
  | text
  | path
  | natural
  | signed
  deriving DecidableEq

namespace Argument

def admits (argument : Argument) (value : String) : Bool :=
  match argument with
  | text => true
  | path => !value.isEmpty
  | natural => (readNatural? (twoTo 64) value.toList).isSome
  | signed => (readInteger? (twoTo 31) value.toList).isSome

/-- A token after the option is its value unless it looks like an option itself; a negative number does
not where a signed number is expected. -/
def admitsToken (argument : Argument) (token : String) : Bool :=
  (argument = signed || token = "-" || token.toList.head? != some '-') && argument.admits token

end Argument

inductive Effect where
  | flag
  | value (argument : Argument)
  | version
  | help
  deriving DecidableEq

structure OptionSpec where
  name : String
  letter : Option Char
  effect : Effect

def OptionSpec.takesValue (spec : OptionSpec) : Bool :=
  match spec.effect with
  | .value _ => true
  | _ => false

inductive Stop where
  | misuse
  | version
  | help
  deriving DecidableEq

inductive Token where
  | word
  | separator
  | option (spec : OptionSpec) (value : Option String)
  | unknown

/-- After the letter of an option without a value further letters may follow. -/
def tokenOf (specs : List OptionSpec) (text : String) : Token :=
  match text.toList with
  | ['-', '-'] => .separator
  | '-' :: '-' :: long =>
    let name := String.ofList (long.takeWhile (· != '='))
    let value := match long.dropWhile (· != '=') with
      | [] => none
      | _ :: value => some (String.ofList value)
    match specs.find? (·.name == name) with
    | some spec => .option spec value
    | none => .unknown
  | '-' :: letter :: rest =>
    let value := match rest with
      | [] => none
      | '=' :: value => some (String.ofList value)
      | value => some (String.ofList value)
    match specs.find? (·.letter == some letter) with
    | some spec => .option spec (if spec.takesValue then value else none)
    | none => .unknown
  | _ => .word

/-- The options and words read so far, and the tokens that are left. A flag has an empty value. -/
structure Arguments where
  given : List (String × String)
  words : List String
  left : List String

namespace Arguments

def empty : Arguments := ⟨[], [], []⟩

def option? (arguments : Arguments) (name : String) : Option String := arguments.given.lookup name

def isGiven (arguments : Arguments) (name : String) : Bool := (arguments.option? name).isSome

def give (arguments : Arguments) (name value : String) : Arguments :=
  { arguments with given := (name, value) :: arguments.given }

def addWords (arguments : Arguments) (words : List String) : Arguments :=
  { arguments with words := arguments.words ++ words }

/-- Read tokens; `waiting` is an option that still lacks its value. With `untilWord` reading ends before
the first word, otherwise all words are kept. An option may be given once. -/
def read (specs : List OptionSpec) (untilWord : Bool) :
    Option (String × Argument) → Arguments → List String → Except Stop Arguments
  | some _, _, [] => .error .misuse
  | none, arguments, [] => .ok arguments
  | some (name, argument), arguments, token :: rest =>
    if argument.admitsToken token then read specs untilWord none (arguments.give name token) rest
    else .error .misuse
  | none, arguments, token :: rest =>
    match tokenOf specs token with
    | .word =>
      if untilWord then .ok { arguments with left := token :: rest }
      else read specs untilWord none (arguments.addWords [token]) rest
    | .separator => if untilWord then .error .misuse else .ok (arguments.addWords rest)
    | .unknown => .error .misuse
    | .option spec value =>
      match spec.effect, value with
      | .version, none => .error .version
      | .help, none => .error .help
      | .flag, none =>
        if arguments.isGiven spec.name then .error .misuse
        else read specs untilWord none (arguments.give spec.name "") rest
      | .value argument, none =>
        if arguments.isGiven spec.name then .error .misuse
        else read specs untilWord (some (spec.name, argument)) arguments rest
      | .value argument, some value =>
        if arguments.isGiven spec.name || !argument.admits value then .error .misuse
        else read specs untilWord none (arguments.give spec.name value) rest
      | _, some _ => .error .misuse

end Arguments

end TypeBridge.CommandLine
