import UiToolkit.Settings.Fault
import UiToolkit.Text.Utf8

/-!
# Settings files

Reading the JSON value that a file holds. Missing files and malformed texts are handed to the loader that asked, which names them in an error of its own; bytes that are no text and numbers that are too long pass it by.
-/

namespace UiToolkit

/-- What reading a path gives: its bytes, or the reason why there are none. -/
abbrev FileContent := Except FileError (List UInt8)

namespace FileContent

/-- The text of a file with unified line ends. -/
def decode (bytes : List UInt8) : Except Fault Text :=
  match Text.ofUtf8? bytes with
  | some text => .ok (Text.unifyLineEnds text)
  | none => .error .undecodable

/-- The JSON value of a file, `fault` saying how a failure is reported. -/
def json (fault : LoadError → Fault) (content : FileContent) : Except Fault Json :=
  match content with
  | .error e => .error (fault (.file e))
  | .ok bytes => do
    let source ← decode bytes
    match Json.parse source with
    | .ok j => .ok j
    | .error failure =>
      .error (if failure.problem == .longInteger then .longInteger else fault (.malformed source failure))

end FileContent

end UiToolkit
