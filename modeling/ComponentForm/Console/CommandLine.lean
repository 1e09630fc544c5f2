/-! The command line: a component, and options in any order around it. Options that take a value take
it after an equals sign or as the next argument, which must not look like an option. -/
namespace ComponentForm

structure CommandLine where
  component : String
  server : Option String
  triggers : List String
  submit : Bool
  valuesFile : Option String
  reopen : Bool
deriving DecidableEq, Repr

namespace CommandLine

inductive Stop
  | usage
  | help
deriving DecidableEq, Repr

structure Draft where
  component : Option String := none
  server : Option String := none
  triggers : List String := []
  submit : Bool := false
  valuesFile : Option String := none
  reopen : Bool := false

def takeComponent (d : Draft) (value : String) : Except Stop Draft :=
  if d.component.isSome then .error .usage else .ok { d with component := some value }

def takeFlag (d : Draft) (name : String) : Except Stop Draft :=
  if name = "submit" ∧ !d.submit then .ok { d with submit := true }
  else if name = "back-to-edit" ∧ !d.reopen then .ok { d with reopen := true }
  else if name = "help" then .error .help
  else .error .usage

def takesValue (name : String) : Bool :=
  name ∈ ["server-url", "trigger", "properties"]

/-- An option with its value. A file must have a name. -/
def takeValue (d : Draft) (name value : String) : Except Stop Draft :=
  if name = "trigger" then .ok { d with triggers := d.triggers ++ [value] }
  else if name = "server-url" ∧ d.server.isNone then .ok { d with server := some value }
  else if name = "properties" ∧ d.valuesFile.isNone ∧ value ≠ "" then
    .ok { d with valuesFile := some value }
  else .error .usage

def looksLikeOption (arg : String) : Bool :=
  match arg.toList with
  | '-' :: _ :: _ => true
  | _ => false

/-- Takes the arguments in turn; after two dashes all are plain. -/
def readArgs (plain : Bool) : Draft → List String → Except Stop Draft
  | d, [] => .ok d
  | d, arg :: rest =>
    if plain then (takeComponent d arg).bind fun d => readArgs true d rest
    else if arg = "--" then readArgs true d rest
    else match arg.toList with
      | '-' :: '-' :: option =>
        let name := String.ofList (option.takeWhile (· ≠ '='))
        match option.dropWhile (· ≠ '=') with
        | _ :: value =>
          (takeValue d name (String.ofList value)).bind fun d => readArgs false d rest
        | [] =>
          if takesValue name then
            match rest with
            | value :: rest =>
              if looksLikeOption value then .error .usage
              else (takeValue d name value).bind fun d => readArgs false d rest
            | [] => .error .usage
          else (takeFlag d name).bind fun d => readArgs false d rest
      | '-' :: 'h' :: _ => .error .help
      | '-' :: _ :: _ => .error .usage
      | _ => (takeComponent d arg).bind fun d => readArgs false d rest

/-- Values of one's own and the way back need a submission. -/
def complete (d : Draft) : Except Stop CommandLine :=
  match d.component with
  | none => .error .usage
  | some component =>
    if !d.submit ∧ (d.valuesFile.isSome ∨ d.reopen) then .error .usage
    else .ok ⟨component, d.server, d.triggers, d.submit, d.valuesFile, d.reopen⟩

def parse (args : List String) : Except Stop CommandLine :=
  (readArgs false {} args).bind complete

def synopsis : String :=
  "Usage: form_console [OPTIONS] <COMPONENT_ID>"

def helpText : String :=
  "Opens a component form, fires field triggers, and optionally submits it\n\n" ++ synopsis ++
    "\n\nArguments:\n  <COMPONENT_ID>  Identifier of the component to open\n\nOptions:\n" ++
    "      --server-url <SERVER_URL>  Overrides the configured component server\n" ++
    "      --trigger <FIELD>          Fires the triggers declared on FIELD once the form is shown\n" ++
    "      --submit                   \n" ++
    "      --properties <FILE>        JSON file with the properties to submit instead of the form's values\n" ++
    "      --back-to-edit             Returns to the form after the submitted result is shown\n" ++
    "  -h, --help                     Print help\n"

end CommandLine
end ComponentForm
