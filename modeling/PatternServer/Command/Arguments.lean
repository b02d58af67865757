import PatternServer.Data.Record
import PatternServer.Files.Path

/-!
# The command line

Which command a list of arguments asks for. The options of the program itself come before the name
of a command; those of a command may stand before and behind its other arguments. Two dashes end
them. An option that takes a value takes it from behind an equals sign or else the
next argument, whatever that is. Of an option given several times the last counts.
-/

namespace PatternServer.Command

set_option autoImplicit false

open PatternServer.Data PatternServer.Files PatternServer.Text

structure OptionNames where
  flags : List String
  values : List String
deriving Repr, DecidableEq, Inhabited

/-- Arguments sorted into flags, values of options and the rest, each in the order given. -/
structure Sorted where
  flags : List String
  values : List (String × String)
  rest : List String
deriving Repr, DecidableEq, Inhabited

namespace Sorted

def addFlag (name : String) (s : Sorted) : Sorted := { s with flags := name :: s.flags }

def addValue (name value : String) (s : Sorted) : Sorted :=
  { s with values := (name, value) :: s.values }

def addRest (arg : String) (s : Sorted) : Sorted := { s with rest := arg :: s.rest }

def hasFlag (s : Sorted) (name : String) : Bool := s.flags.contains name

def value? (s : Sorted) (name : String) : Option String :=
  s.values.reverse.lookup name

def path? (s : Sorted) (name : String) : Option Path :=
  (s.value? name).map Path.ofString

/-- Whether the value of an option, if it is given, can be a path. -/
def hasGoodPath (s : Sorted) (name : String) : Bool :=
  (s.value? name).all fun text => !text.toList.contains (Char.ofNat 0)

end Sorted

/-- Whether an argument is to be read as an option: a dash with something behind it. -/
def isOption (arg : String) : Bool :=
  arg.startsWith "-" && 1 < arg.length

/-- The name of an option and what stands behind an equals sign in it. -/
def splitOption (arg : String) : String × Option String :=
  let cut := cutAt '=' arg.toList
  (String.ofList cut.1,
    if arg.toList.contains '=' then some (String.ofList cut.2) else none)

/-- Sorts arguments. `pending` is an option that waits for its value. There is no result for an
unknown option, for a flag with a value and for an option without one. -/
def sort (names : OptionNames) : (pending : Option String) → List String → Option Sorted
  | none, [] => some ⟨[], [], []⟩
  | some _, [] => none
  | some name, arg :: args => (sort names none args).map (Sorted.addValue name arg)
  | none, arg :: args =>
    if arg = "--" then some ⟨[], [], args⟩
    else if isOption arg then
      let option := splitOption arg
      if names.flags.contains option.1 then
        if option.2.isSome then none else (sort names none args).map (Sorted.addFlag option.1)
      else if names.values.contains option.1 then
        match option.2 with
        | some value => (sort names none args).map (Sorted.addValue option.1 value)
        | none => sort names (some option.1) args
      else none
    else (sort names none args).map (Sorted.addRest arg)

structure ServeOptions where
  tcp : Bool
  host : String
  port : Int
  root : Option Path
  config : Option Path
deriving Repr, DecidableEq, Inhabited

structure CheckOptions where
  paths : List Path
  root : Option Path
  config : Option Path
  json : Bool
deriving Repr, DecidableEq, Inhabited

inductive Invocation where
  | help
  | serve (o : ServeOptions)
  | check (o : CheckOptions)
  | suggest (word : String) (functions : Bool)
deriving Repr, DecidableEq, Inhabited

def helpFlag : String := "--help"

def defaultPort : Int := 2087

def defaultAddress : String := "127.0.0.1"

def serveNames : OptionNames := ⟨[helpFlag, "--tcp"], ["--host", "--port", "--root", "--config"]⟩

def checkNames : OptionNames := ⟨[helpFlag, "--json"], ["--root", "--config"]⟩

def suggestNames : OptionNames := ⟨[helpFlag, "--functions"], []⟩

def serveOf? (s : Sorted) : Option Invocation :=
  let port? :=
    match s.value? "--port" with
    | some text => readIntText? text.toList
    | none => some defaultPort
  match s.rest, port? with
  | [], some port =>
    if s.hasGoodPath "--root" && s.hasGoodPath "--config" then
      some <| .serve
        { tcp := s.hasFlag "--tcp"
          host := (s.value? "--host").getD defaultAddress
          port
          root := s.path? "--root"
          config := s.path? "--config" }
    else none
  | _, _ => none

/-- At least one file has to be named, and all paths have to lead to files. -/
def checkOf? (isFile : Path → Bool) (s : Sorted) : Option Invocation :=
  let paths := s.rest.map Path.ofString
  if !paths.isEmpty && paths.all isFile && s.hasGoodPath "--root" && s.hasGoodPath "--config" then
    some <| .check
      { paths
        root := s.path? "--root"
        config := s.path? "--config"
        json := s.hasFlag "--json" }
  else none

def suggestOf? (s : Sorted) : Option Invocation :=
  match s.rest with
  | [word] => some (.suggest word (s.hasFlag "--functions"))
  | _ => none

/-- The invocation of one command. Asking for help comes before everything but an option that cannot
be read. -/
def commandOf? (names : OptionNames) (read : Sorted → Option Invocation) (args : List String) :
    Option Invocation :=
  (sort names none args).bind fun s => if s.hasFlag helpFlag then some .help else read s

def namedCommand? (isFile : Path → Bool) : List String → Option Invocation
  | [] => none
  | name :: args =>
    match name with
    | "serve" => commandOf? serveNames serveOf? args
    | "check" => commandOf? checkNames (checkOf? isFile) args
    | "suggest" => commandOf? suggestNames suggestOf? args
    | _ => none

/-- The arguments behind the options of the program itself, and whether one of these asks for help.
There is no other such option. -/
def leadingOptions? : List String → Option (Bool × List String)
  | [] => some (false, [])
  | arg :: args =>
    if arg = "--" then some (false, args)
    else if arg = helpFlag then (leadingOptions? args).map fun r => (true, r.2)
    else if isOption arg then none
    else some (false, arg :: args)

/-- The invocation that arguments ask for; none for arguments that cannot be used. -/
def Invocation.ofArguments? (isFile : Path → Bool) (args : List String) : Option Invocation :=
  (leadingOptions? args).bind fun r => if r.1 then some .help else namedCommand? isFile r.2

end PatternServer.Command
