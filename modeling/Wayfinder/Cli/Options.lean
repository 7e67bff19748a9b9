/-!
# Options on a command line

An argument that starts with a dash is an option, and its value is the next argument or stands
after an equals sign. All other arguments are operands, and so is everything after two dashes.
-/

namespace Wayfinder.Cli

/-- Why a command line is not carried out. -/
inductive Stop
  /-- It is refused. -/
  | refused
  /-- It asks for help. -/
  | help
  /-- It asks for the version. -/
  | version
deriving DecidableEq, Repr

/-- How an option is used. -/
inductive Usage
  /-- Without a value, and at most once. -/
  | flag
  /-- With a value, and at most once. -/
  | once
  /-- With a value, and any number of times. -/
  | many
  /-- It stops the reading of the command line. -/
  | stops (how : Stop)
deriving DecidableEq, Repr

/-- The spellings of options, with their use. -/
abbrev Options := List (String × Usage)

/-- What a command line gives: options with their values, and operands, both in order. -/
structure Given where
  options : List (String × String) := []
  operands : List String := []
deriving DecidableEq, Repr

namespace Given

/-- The values of an option. -/
def all (g : Given) (option : String) : List String :=
  (g.options.filter (·.1 = option)).map Prod.snd

/-- The value of an option that occurs at most once. -/
def get? (g : Given) (option : String) : Option String :=
  (g.all option).head?

/-- The option occurs. -/
def has (g : Given) (option : String) : Bool :=
  !(g.all option).isEmpty

end Given

/-- The argument is an option. A single dash is none. -/
def isOption (arg : String) : Bool :=
  arg.toList.head? = some '-' && arg ≠ "-"

/-- The spelling of an option and the value after its equals sign. -/
def splitOption (arg : String) : String × Option String :=
  let cs := arg.toList
  let name := String.ofList (cs.takeWhile (· ≠ '='))
  match cs.dropWhile (· ≠ '=') with
  | [] => (name, none)
  | _ :: value => (name, some (String.ofList value))

/-- An option in front of what is given by the arguments after it. -/
def Given.withOption (name value : String) (g : Given) : Given :=
  { g with options := (name, value) :: g.options }

/-- An operand in front of what is given by the arguments after it. -/
def Given.withOperand (operand : String) (g : Given) : Given :=
  { g with operands := operand :: g.operands }

namespace Options

/-- What arguments give. Unless options may be `mixed` with operands, the first operand and all that
follows it are operands. -/
def scan (os : Options) (mixed : Bool) : List String → Except Stop Given
  | [] => .ok {}
  | arg :: args =>
    if arg = "--" then if mixed then .ok ⟨[], args⟩ else .error .refused
    else if !isOption arg then
      if mixed then (os.scan mixed args).map (.withOperand arg) else .ok ⟨[], arg :: args⟩
    else
      let (name, value) := splitOption arg
      match os.lookup name, value, args with
      | none, _, _ => .error .refused
      | some (.stops how), none, _ => .error how
      | some (.stops _), some _, _ => .error .refused
      | some .flag, none, args => (os.scan mixed args).map (.withOption name "")
      | some .flag, some _, _ => .error .refused
      | some .once, some v, args | some .many, some v, args =>
        (os.scan mixed args).map (.withOption name v)
      | some .once, none, v :: args | some .many, none, v :: args =>
        if isOption v then
          -- An option where a value has to be is refused, if it is one of the known ones or not.
          .error .refused
        else (os.scan mixed args).map (.withOption name v)
      | some .once, none, [] | some .many, none, [] => .error .refused

/-- An option that is used at most once occurs more often. -/
def repeats (os : Options) (g : Given) : Bool :=
  os.any fun o => o.2 ≠ .many && (g.all o.1).length > 1

/-- What arguments give, if no option occurs too often. -/
def read (os : Options) (mixed : Bool) (args : List String) : Except Stop Given := do
  let g ← os.scan mixed args
  if os.repeats g then .error .refused else .ok g

end Options

end Wayfinder.Cli
