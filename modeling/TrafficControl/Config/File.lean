import TrafficControl.Config.Form
import TrafficControl.Failure
import TrafficControl.Text.Utf8
import TrafficControl.Toml.Reader
import TrafficControl.Yaml.Reader

namespace TrafficControl

inductive FileFormat where
  | toml
  | yaml
  deriving DecidableEq, Repr

namespace FileFormat

def ending (name : List Char) : List Char := (name.reverse.takeWhile (· ≠ '.')).reverse

def ofEnding? (ending : String) : Option FileFormat :=
  if ending = "toml" then some .toml
  else if ending = "yaml" ∨ ending = "yml" then some .yaml
  else none

end FileFormat

inductive TextFault where
  | malformed
  | mismatch (format : FileFormat) (cause : Mismatch)

def TextFault.message : TextFault → Option String
  | .malformed => none
  | .mismatch .toml cause =>
    let message := Text.quoted (cause.message .json)
    some ("toml to json error Error(" ++ message ++ ", line: 0, column: 0)")
  | .mismatch .yaml cause =>
    some ("yaml to struct error Error(" ++ Text.quoted (cause.message .yaml) ++ ")")

def readText (format : FileFormat) (reader : Reader α) (text : String) : Except TextFault α :=
  let parsed? := match format with
    | .toml => (Toml.parse? text).map .ofJson
    | .yaml => Yaml.parse? text
  let place : Place := match format with
    | .toml => .json
    | .yaml => .yaml
  match parsed? with
  | none => .error .malformed
  | some d =>
    match reader place d with
    | .ok x => .ok x
    | .error cause => .error (.mismatch format cause)

inductive FileFault where
  | missing (name : String)
  | notText (name : String)
  | unknownEnding (ending : String)
  | text (fault : TextFault)
  | refused (failure : Failure)

def unreadable (name reason : String) : String :=
  "read path error : " ++ Text.quoted name ++ " " ++ reason

/-- The failure that a fault is shown as; a malformed text has no message of its own. -/
def FileFault.failure? : FileFault → Option Failure
  | .missing name => some (.other (unreadable name "No such file or directory (os error 2)"))
  | .notText name => some (.other (unreadable name "stream did not contain valid UTF-8"))
  | .unknownEnding ending => some (.other ("not support " ++ Text.quoted ending))
  | .text fault => fault.message.map .other
  | .refused failure => some failure

/-- The configuration in a file with these bytes; `none` where there is no such file. -/
def Config.ofFile (name : String) (bytes? : Option (List UInt8)) : Except FileFault Config :=
  match bytes? with
  | none => .error (.missing name)
  | some bytes =>
    match Text.Utf8.decode bytes with
    | .error _ => .error (.notText name)
    | .ok cs =>
      let ending := String.ofList (FileFormat.ending name.toList)
      match FileFormat.ofEnding? ending with
      | none => .error (.unknownEnding ending)
      | some format =>
        match readText format Config.read (String.ofList cs) with
        | .error fault => .error (.text fault)
        | .ok config =>
          match config.validate with
          | .ok config => .ok config
          | .error failure => .error (.refused failure)

end TrafficControl
