/-! Long options on a command line. -/
namespace Planar.Command

/-- Why a command line does not lead to a run. -/
inductive Halt where
  | usage
  | help
  | version
  deriving DecidableEq, Repr

inductive Arity where
  | switch
  | once
  | many
  deriving DecidableEq, Repr

structure Rule where
  name : String
  arity : Arity
  accepts : String → Bool

/-- The options given, in order. Switches have an empty value. -/
abbrev Bindings := List (String × String)

/-- Whether an argument cannot be the value of an option before it. -/
def looksLikeOption (arg : String) : Bool := arg.startsWith "-" && arg ≠ "-"

/-- Splits a long option into its name and the value attached with an equals sign. -/
def splitAttached (arg : String) : String × Option String :=
  let letters := arg.toList.drop 2
  let name := String.ofList (letters.takeWhile (· ≠ '='))
  match letters.dropWhile (· ≠ '=') with
  | [] => (name, none)
  | _ :: value => (name, some (String.ofList value))

/-- Adds one option. Only those that may be repeated are accepted twice. -/
def bind (rule : Rule) (value : String) (found : Bindings) : Except Halt Bindings :=
  if rule.arity ≠ .many ∧ (found.lookup rule.name).isSome then .error .usage
  else if rule.arity = .switch ∨ rule.accepts value then .ok (found ++ [(rule.name, value)])
  else .error .usage

/-- Where a reader of options stands. -/
inductive Cursor where
  | ready
  /-- After an option without its value. -/
  | due (rule : Rule)
  /-- After the end of options. -/
  | closed

/-- Reads one more argument. -/
def step (rules : List Rule) : Cursor × Bindings → String → Except Halt (Cursor × Bindings)
  | (.closed, _), _ => .error .usage
  | (.due rule, found), value =>
    if looksLikeOption value then .error .usage
    else (bind rule value found).map fun found => (.ready, found)
  | (.ready, found), arg =>
    if arg = "--" then .ok (.closed, found)
    else if arg.startsWith "--" then
      let (name, attached) := splitAttached arg
      match rules.find? (·.name = name), attached with
      | some rule, some value =>
        if rule.arity = .switch then .error .usage
        else (bind rule value found).map fun found => (.ready, found)
      | some rule, none =>
        if rule.arity = .switch then (bind rule "" found).map fun found => (.ready, found)
        else .ok (.due rule, found)
      | none, none => .error (if name = "help" then .help else .usage)
      | none, some _ => .error .usage
    else if arg.startsWith "-h" then .error .help
    else .error .usage

/-- Reads options by their rules, left to right. There are no other arguments. -/
def parse (rules : List Rule) (args : List String) : Except Halt Bindings := do
  match ← args.foldlM (step rules) (.ready, []) with
  | (.due _, _) => throw .usage
  | (_, found) => return found

end Planar.Command
