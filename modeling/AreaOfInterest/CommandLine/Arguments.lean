import AreaOfInterest.Decimal.Numeral

/-!
# Command-line arguments

The arguments of the program are read from left to right: options of the program, the name of a command, and the
options and the one operand of that command. Options that hold for every command may stand before or after its name,
and the later place wins. What cannot be read ends the program at the first argument that does not fit.
-/

namespace AreaOfInterest.CommandLine

/-- The commands by name. -/
inductive CommandName where
  | validate | area | buffer | bbox | search
  deriving DecidableEq, Repr

/-- The name of a command as it is typed. -/
def CommandName.text : CommandName → String
  | validate => "validate"
  | area => "area"
  | buffer => "buffer"
  | bbox => "bbox"
  | search => "search"

/-- All commands in the order in which they are listed. -/
def CommandName.all : List CommandName := [validate, area, buffer, bbox, search]

/-- The command of a name. -/
def CommandName.ofText? (text : String) : Option CommandName := all.find? (·.text == text)

/-- What to do. -/
inductive Command where
  | validate (file : String)
  | area (file : String)
  | buffer (file : String) (distance : Float) (output : Option String)
  | bbox (file : String)
  | search (query : String) (output : Option String)

/-- What to do, and the configuration file to do it with. -/
structure Invocation where
  config : Option String
  command : Command

/-- What there is help on. -/
inductive Topic where
  | program
  | command (name : CommandName)
  | help
  deriving DecidableEq, Repr

/-- Why the arguments ask for no command. -/
inductive Stop where
  /-- They do not fit. -/
  | misuse
  | help (topic : Topic)
  | version
  deriving DecidableEq, Repr

/-- The options. -/
inductive OptionName where
  | config | verbose | distance | output | help | version
  deriving DecidableEq, Repr

namespace OptionName

/-- The long form of an option, without its dashes. -/
def long : OptionName → String
  | config => "config"
  | verbose => "verbose"
  | distance => "distance"
  | output => "output"
  | help => "help"
  | version => "version"

/-- The letter of an option. -/
def letter? : OptionName → Option Char
  | config => none
  | verbose => some 'v'
  | distance => some 'd'
  | output => some 'o'
  | help => some 'h'
  | version => some 'V'

/-- The options that may stand in a place: before the name of a command, or after one. -/
def allowed : Option CommandName → List OptionName
  | none => [config, verbose, help, version]
  | some .buffer => [config, distance, output, verbose, help]
  | some .search => [config, output, verbose, help]
  | some _ => [config, verbose, help]

/-- Whether an option has a value. -/
def takesValue : OptionName → Bool
  | config | distance | output => true
  | verbose | help | version => false

/-- Whether a text will do as the value of an option. -/
def admits (name : OptionName) (value : String) : Bool :=
  match name with
  | config | output => value ≠ ""
  | distance => (Numeral.float? value).isSome
  | verbose | help | version => true

end OptionName

/-- An argument by its form. -/
inductive Form where
  /-- Two dashes alone: only operands follow. -/
  | separator
  /-- A long option, and the value after its equals sign. -/
  | long (name : String) (value : Option String)
  /-- A dash and the letters of options. -/
  | letters (letters : List Char)
  | word (text : String)

/-- The form of an argument. A dash alone is a word. -/
def Form.of (argument : String) : Form :=
  match argument.toList with
  | ['-', '-'] => .separator
  | '-' :: '-' :: rest =>
    let name := rest.takeWhile (· ≠ '=')
    let value := match rest.drop name.length with
      | [] => none
      | _ :: value => some (String.ofList value)
    .long (String.ofList name) value
  | '-' :: c :: rest => .letters (c :: rest)
  | _ => .word argument

/-- The options and operands read so far in one place. -/
structure Draft where
  options : List (OptionName × String) := []
  operands : List String := []

namespace Draft

variable (place : Option CommandName)

/-- Takes an option with its value; no option may be given twice. -/
def put (d : Draft) (name : OptionName) (value : String) : Except Stop Draft :=
  if (d.options.lookup name).isSome || !name.admits value then .error .misuse
  else .ok { d with options := (name, value) :: d.options }

/-- Takes an option without a value. -/
def switch (d : Draft) : OptionName → Except Stop Draft
  | .help => .error (.help (place.elim .program .command))
  | .version => .error .version
  | name => d.put name ""

/-- Takes an operand. A command has one of them, and only a search may have an empty one. -/
def pushOperand (d : Draft) (text : String) : Except Stop Draft :=
  if !d.operands.isEmpty || (text == "" && place != some .search) then .error .misuse
  else .ok { d with operands := [text] }

/-- Takes several operands. -/
def pushOperands (d : Draft) (texts : List String) : Except Stop Draft := texts.foldlM (pushOperand place) d

/-- Takes the options of some letters; the first of them that has a value takes the other letters as it, or leaves
it to the next argument. -/
def pushLetters (d : Draft) : List Char → Except Stop (Draft × Option OptionName)
  | [] => .ok (d, none)
  | c :: rest =>
    match (OptionName.allowed place).find? (·.letter? == some c) with
    | none => .error .misuse
    | some name =>
      if name.takesValue then
        match rest with
        | [] => .ok (d, some name)
        | '=' :: value => return (← d.put name (String.ofList value), none)
        | value => return (← d.put name (String.ofList value), none)
      else do pushLetters (← d.switch place name) rest

/-- Takes a long option, and says whether its value is left to the next argument. -/
def pushLong (d : Draft) (text : String) (value : Option String) : Except Stop (Draft × Option OptionName) :=
  match (OptionName.allowed place).find? (·.long == text), value with
  | none, _ => .error .misuse
  | some name, some value => if name.takesValue then return (← d.put name value, none) else .error .misuse
  | some name, none => if name.takesValue then .ok (d, some name) else return (← d.switch place name, none)

end Draft

/-- Reads the arguments of one place, `pending` being the option whose value comes next. Before the name of a command
reading ends at the first word, and what is left begins with it. -/
def readPlace (place : Option CommandName) (pending : Option OptionName) (d : Draft) :
    List String → Except Stop (Draft × List String)
  | [] => if pending.isSome then .error .misuse else .ok (d, [])
  | argument :: rest =>
    match pending, Form.of argument with
    | some name, .word value => do readPlace place none (← d.put name value) rest
    | some _, _ => .error .misuse
    | none, .separator =>
      if place.isNone then .error .misuse else return (← d.pushOperands place rest, [])
    | none, .long text value => do
      let (d, pending) ← d.pushLong place text value
      readPlace place pending d rest
    | none, .letters letters => do
      let (d, pending) ← d.pushLetters place letters
      readPlace place pending d rest
    | none, .word text =>
      if place.isNone then .ok (d, argument :: rest)
      else do readPlace place none (← d.pushOperand place text) rest

/-- The command that its options and operand make up. -/
def Draft.command? (d : Draft) (name : CommandName) : Option Command := do
  let operand ← d.operands.head?
  let output := d.options.lookup .output
  match name with
  | .validate => return .validate operand
  | .area => return .area operand
  | .buffer => return .buffer operand (← Numeral.float? (← d.options.lookup .distance)) output
  | .bbox => return .bbox operand
  | .search => return .search operand output

/-- The topic that the words after `help` name. -/
def Topic.ofWords? : List String → Option Topic
  | [] => some .program
  | [word] => if word == "help" then some .help else (CommandName.ofText? word).map .command
  | _ => none

/-- Reads the arguments of the program. -/
def Invocation.ofArguments (arguments : List String) : Except Stop Invocation := do
  let (outer, rest) ← readPlace none none {} arguments
  match rest with
  | [] => .error .misuse
  | word :: rest =>
    match CommandName.ofText? word with
    | some name =>
      let (inner, _) ← readPlace (some name) none {} rest
      match inner.command? name with
      | some command => .ok ⟨(inner.options.lookup .config).or (outer.options.lookup .config), command⟩
      | none => .error .misuse
    | none =>
      if word == "help" then
        match Topic.ofWords? rest with
        | some topic => .error (.help topic)
        | none => .error .misuse
      else .error .misuse

end AreaOfInterest.CommandLine
