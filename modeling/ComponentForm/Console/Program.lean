import ComponentForm.Console.CommandLine
import ComponentForm.Console.Worker
import ComponentForm.Settings

/-! The program: a command line, an environment, a directory and a network in, text and an exit code
out. -/
namespace ComponentForm

/-- The files of the working directory. -/
abbrev Directory := Entries (List UInt8)

namespace Directory

/-- The names on a path, without those that lead nowhere. -/
def tidy (path : String) : List String :=
  (Text.cut '/' path).filter fun name => name ≠ "" && name ≠ "."

def read (d : Directory) (path : String) : Except String (List UInt8) :=
  match Entries.value? d path with
  | some bytes => .ok bytes
  | none =>
    let steps := tidy path
    let known := d.map fun file => (tidy file.1, file.2)
    if path = "" ∨ path.toList.head? = some '/' then .error "No such file or directory (os error 2)"
    else if known.any fun file => file.1.isPrefixOf steps && file.1 ≠ steps then
      .error "Not a directory (os error 20)"
    else match known.find? (·.1 = steps) with
      | some (_, bytes) =>
        if path.toList.getLast? = some '/' then .error "Not a directory (os error 20)" else .ok bytes
      | none =>
        if steps = [] ∨ known.any (fun file => steps.isPrefixOf file.1) then
          .error "Is a directory (os error 21)"
        else .error "No such file or directory (os error 2)"

end Directory

/-- An error in the form in which the program ends with it. -/
structure Complaint where
  message : String
  causes : List String
deriving DecidableEq, Repr

namespace Complaint

/-- A cause, every line of it under the first. -/
def causeText (lead margin cause : String) : String :=
  "\n" ++ lead ++ Text.join ("\n" ++ margin) (Text.cut '\n' cause)

def numbered (n : Nat) (cause : String) : String :=
  let digits := toString n
  causeText (String.ofList (List.replicate (5 - digits.length) ' ') ++ digits ++ ": ") "       " cause

def causesText : List String → String
  | [] => ""
  | [cause] => "\n\nCaused by:" ++ causeText "    " "    " cause
  | causes =>
    "\n\nCaused by:" ++ String.join (causes.zipIdx.map fun (cause, n) => numbered n cause)

def text (c : Complaint) : String :=
  "Error: " ++ c.message ++ causesText c.causes ++ "\n"

end Complaint

structure Ending where
  exit : Nat
  out : String
  err : String
  sent : List Request

namespace Program

def readValues (d : Directory) (path : String) : Except Complaint Document :=
  let unread (cause : String) : Complaint :=
    ⟨"failed to read properties file '" ++ path ++ "'", [cause]⟩
  match d.read path with
  | .error cause => .error (unread cause)
  | .ok bytes =>
    match String.fromUTF8? (ByteArray.mk bytes.toArray) with
    | none => .error (unread "stream did not contain valid UTF-8")
    | some _ =>
      (Outline.readText Outline.readDocument bytes).mapError fun e =>
        ⟨"properties file '" ++ path ++ "' is not valid JSON", [e.message]⟩

def queueDepth : Nat := 64

/-- The settings of a command line. A server that it names goes before all others. -/
def settings (d : Directory) (env : String → Option String) (c : CommandLine) : Settings :=
  let s := Settings.load (Entries.value? d Settings.fileName) env
  { s with server := c.server.getD s.server }

def prepare (d : Directory) (s : Settings) (c : CommandLine) : Except Complaint (Plan × Worker) := do
  let values ← match c.valuesFile with
    | some path => (readValues d path).map some
    | none => pure none
  let detail ← s.detailEndpoint.mapError fun e =>
    (⟨"invalid component detail endpoint", [e.message]⟩ : Complaint)
  let actions ← s.triggerEndpoint.mapError fun e =>
    (⟨"invalid trigger endpoint", e.message :: e.causes⟩ : Complaint)
  return (⟨c.triggers, c.submit, values, c.reopen⟩, ⟨.ofEndpoint detail, actions⟩)

def runCommand (net : Nat → Network) (d : Directory) (env : String → Option String)
    (c : CommandLine) : Ending :=
  let s := settings d env c
  match prepare d s c with
  | .error e => ⟨1, "", e.text, []⟩
  | .ok (plan, worker) =>
    let course := (Runner.new s.policy queueDepth plan).runWith net worker c.component
    let out := linesText course.runner.transcript
    match course.result with
    | .ok () => ⟨0, out, "", course.sent⟩
    | .error e => ⟨1, out, (⟨e.message, e.causes⟩ : Complaint).text, course.sent⟩

def run (net : Nat → Network) (d : Directory) (env : String → Option String)
    (args : List String) : Ending :=
  match CommandLine.parse args with
  | .error .help => ⟨0, CommandLine.helpText, "", []⟩
  | .error .usage => ⟨2, "", CommandLine.synopsis ++ "\n", []⟩
  | .ok c => runCommand net d env c

end Program
end ComponentForm
