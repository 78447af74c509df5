import UiToolkit.CommandLine.Request

/-!
# Help

What the program says about itself.
-/

namespace UiToolkit

open Text

def programName : Text := "html2uitk"

def versionText : Text := programName ++ ", version 0.3.0\n"

def Switch.helpLine (s : Switch) : Text :=
  "  " ++ joinWith ", " s.spellings ++ (if s.takesValue then " VALUE" else "") ++ "  " ++ s.explanation ++ "\n"

namespace CommandName

def helpLine (c : CommandName) : Text := "  " ++ c.name ++ "  " ++ c.explanation ++ "\n"

def helpText (c : CommandName) : Text :=
  "Usage: " ++ programName ++ [' '] ++ c.name ++ " [OPTIONS]" ++ ((c.argument?.map (' ' :: ·)).getD []) ++ "\n\n  "
    ++ c.explanation ++ "\n\nOptions:\n" ++ c.switches.flatMap Switch.helpLine

def programHelpText : Text :=
  "Usage: " ++ programName ++ " [OPTIONS] COMMAND [ARGS]...\n\n  Convert HTML/CSS into Unity UI Toolkit UXML/USS.\n\n"
    ++ "Options:\n" ++ programSwitches.flatMap Switch.helpLine ++ "\nCommands:\n" ++ all.flatMap helpLine

end CommandName

end UiToolkit
