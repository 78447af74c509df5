import UiToolkit.Text.Quoted
import UiToolkit.Text.Span

/-!
# Switches

A command line is a sequence of switches and other arguments. A switch has short and long spellings and may take a value: the rest of a short group, what follows an equals sign, or the next argument whatever it looks like. Two hyphens on their own end the switches.
-/

namespace UiToolkit

/-- What a switch settles. -/
inductive Setting where
  | version
  | verbose
  | help
  | input
  | styleSheet
  | reset
  | config
  | output
  | extraction
  | noExtraction
  | outputName
  | properties
  | breaking
  | metadata
  deriving DecidableEq

structure Switch where
  setting : Setting
  spellings : List Text
  takesValue : Bool
  explanation : Text

/-- Why a command line cannot be followed. -/
inductive UsageError where
  | unknownSwitch (spelling : Text)
  | valueMissing (spelling : Text)
  | valueUnwanted (spelling : Text)
  | switchMissing (spelling : Text)
  | argumentMissing (name : Text)
  | unexpectedArgument (argument : Text)
  | commandMissing
  | unknownCommand (name : Text)
  | noSuchPath (path : Text)
  | directoryGiven (path : Text)
  | fileGiven (path : Text)
  | notReadable (path : Text)
  deriving DecidableEq

namespace UsageError

open Text

def message : UsageError → Text
  | .unknownSwitch spelling => "No such option: " ++ spelling
  | .valueMissing spelling => "Option " ++ quoted spelling ++ " requires an argument."
  | .valueUnwanted spelling => "Option " ++ quoted spelling ++ " does not take a value."
  | .switchMissing spelling => "Missing option " ++ quoted spelling ++ "."
  | .argumentMissing name => "Missing argument " ++ quoted name ++ "."
  | .unexpectedArgument argument => "Got unexpected extra argument (" ++ argument ++ ")"
  | .commandMissing => "Missing command."
  | .unknownCommand name => "No such command " ++ quoted name ++ "."
  | .noSuchPath path => "Path " ++ quoted path ++ " does not exist."
  | .directoryGiven path => "File " ++ quoted path ++ " is a directory."
  | .fileGiven path => "Directory " ++ quoted path ++ " is a file."
  | .notReadable path => "Path " ++ quoted path ++ " is not readable."

end UsageError

/-- The settings that a command line makes, in order, and the other arguments. -/
structure Arguments where
  settings : List (Setting × Text)
  others : List Text
  deriving DecidableEq

namespace Arguments

def has (a : Arguments) (s : Setting) : Bool := a.settings.any (·.1 == s)

def values (a : Arguments) (s : Setting) : List Text :=
  a.settings.filterMap fun (setting, value) => if setting = s then some value else none

/-- The last value wins. -/
def value? (a : Arguments) (s : Setting) : Option Text := (a.values s).getLast?

def withSettings (settings : List (Setting × Text)) (a : Arguments) : Arguments := ⟨settings ++ a.settings, a.others⟩

end Arguments

/-- What one argument that holds switches comes to. -/
inductive SwitchGroup where
  | complete (settings : List (Setting × Text))
  /-- The last switch takes its value from the next argument. -/
  | open (settings : List (Setting × Text)) (last : Setting) (spelling : Text)
  deriving DecidableEq

namespace SwitchGroup

open Text

def find? (switches : List Switch) (spelling : Text) : Option Switch :=
  switches.find? (·.spellings.contains spelling)

def ofLong (switches : List Switch) (spelling : Text) (value : Option Text) : Except UsageError SwitchGroup :=
  match find? switches spelling with
  | none => .error (.unknownSwitch spelling)
  | some switch =>
    match switch.takesValue, value with
    | true, some value => .ok (.complete [(switch.setting, value)])
    | true, none => .ok (.open [] switch.setting spelling)
    | false, none => .ok (.complete [(switch.setting, [])])
    | false, some _ => .error (.valueUnwanted spelling)

def withSetting (setting : Setting) : SwitchGroup → SwitchGroup
  | .complete settings => .complete ((setting, []) :: settings)
  | .open settings last spelling => .open ((setting, []) :: settings) last spelling

/-- A group of short switches; the first that takes a value takes the rest of the group. -/
def ofShort (switches : List Switch) : Text → Except UsageError SwitchGroup
  | [] => .ok (.complete [])
  | c :: cs =>
    match find? switches ['-', c] with
    | none => .error (.unknownSwitch ['-', c])
    | some switch =>
      if !switch.takesValue then (ofShort switches cs).map (withSetting switch.setting)
      else if cs.isEmpty then .ok (.open [] switch.setting ['-', c])
      else .ok (.complete [(switch.setting, cs)])

/-- What an argument that starts with a hyphen comes to. -/
def ofArgument (switches : List Switch) (argument : Text) : Except UsageError SwitchGroup :=
  if "--".toList.isPrefixOf argument then
    match splitOnce? "=" argument with
    | some (spelling, value) => ofLong switches spelling (some value)
    | none => ofLong switches argument none
  else ofShort switches (argument.drop 1)

end SwitchGroup

namespace Arguments

open Text

/-- A lone hyphen is no switch. -/
def isSwitch (argument : Text) : Bool := ['-'].isPrefixOf argument && argument ≠ ['-']

/-- Reads a command line. Switches may stand among the other arguments if `mixed` is set; otherwise the first other argument ends them. -/
def read (switches : List Switch) (mixed : Bool) : List Text → Except UsageError Arguments
  | [] => .ok ⟨[], []⟩
  | argument :: rest =>
    if argument == "--".toList then .ok ⟨[], rest⟩
    else if isSwitch argument then
      match SwitchGroup.ofArgument switches argument with
      | .error e => .error e
      | .ok (.complete settings) => (read switches mixed rest).map (withSettings settings)
      | .ok (.open settings last spelling) =>
        match rest with
        | [] => .error (.valueMissing spelling)
        | value :: rest => (read switches mixed rest).map (withSettings (settings ++ [(last, value)]))
    else if mixed then (read switches mixed rest).map fun a => ⟨a.settings, argument :: a.others⟩
    else .ok ⟨[], argument :: rest⟩

end Arguments

end UiToolkit
