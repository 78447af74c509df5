import UiToolkit.CommandLine.Run

/-!
# Scripts

A script is what a command asks of its host, call by call, each call chosen by the answers to those before it. Scripts are a host themselves, and a command that runs on them leaves its own script behind. Followed on any host, that script does what the command does there. What one call preserves is therefore preserved by every command.
-/

namespace UiToolkit

/-- The world after a message. -/
def World.warn (w : World) (text : Text) : World := ⟨w.files, w.printed, w.warned ++ text⟩

/-- What can be asked of a host. -/
inductive Call where
  | kind? (path : Text)
  | mayRead (path : Text)
  | read (path : Path)
  | write (path : Path) (text : Text)
  | createDirectory (path : Path)
  | print (text : Text)
  | warn (text : Text)
  deriving DecidableEq

namespace Call

def Answer : Call → Type
  | .kind? _ => Option FileKind
  | .mayRead _ => Bool
  | .read _ => FileContent
  | .write _ _ => Except FileError Unit
  | .createDirectory _ => Except FileError Unit
  | .print _ => Unit
  | .warn _ => Unit

def make {m : Type → Type} [Host m] : (c : Call) → m c.Answer
  | .kind? path => Host.kind? path
  | .mayRead path => Host.mayRead path
  | .read path => Host.read path
  | .write path text => Host.write path text
  | .createDirectory path => Host.createDirectory path
  | .print text => Host.print text
  | .warn text => Host.warn text

end Call

inductive Script (α : Type) where
  | done (a : α)
  | call (c : Call) (next : c.Answer → Script α)

namespace Script

variable {α β : Type}

def andThen : Script α → (α → Script β) → Script β
  | .done a, f => f a
  | .call c next, f => .call c fun answer => (next answer).andThen f

instance : Monad Script where
  pure := done
  bind := andThen

theorem id_map (s : Script α) : id <$> s = s := by
  induction s with
  | done a => rfl
  | call c next ih => exact congrArg (call c) (funext ih)

theorem bind_assoc {γ : Type} (s : Script α) (f : α → Script β) (g : β → Script γ) :
    s >>= f >>= g = s >>= fun a => f a >>= g := by
  induction s with
  | done a => rfl
  | call c next ih => exact congrArg (call c) (funext ih)

instance : LawfulMonad Script := LawfulMonad.mk' Script id_map (fun _ _ => rfl) bind_assoc

instance : Host Script where
  kind? path := call (.kind? path) done
  mayRead path := call (.mayRead path) done
  read path := call (.read path) done
  write path text := call (.write path text) done
  createDirectory path := call (.createDirectory path) done
  print text := call (.print text) done
  warn text := call (.warn text) done

variable {m : Type → Type} [Monad m] [Host m]

/-- Makes the calls of a script on a host. -/
def follow : Script α → m α
  | .done a => pure a
  | .call c next => do (next (← c.make)).follow

variable [LawfulMonad m]

theorem follow_bind (s : Script α) (f : α → Script β) : (s >>= f).follow = ((s.follow >>= fun a => (f a).follow) : m β) := by
  induction s with
  | done a => exact (LawfulMonad.pure_bind a fun a => ((f a).follow : m β)).symm
  | call c next ih =>
    have hstep : (call c next >>= f).follow = ((c.make >>= fun answer => (next answer >>= f).follow) : m β) := rfl
    rw [hstep, follow, LawfulMonad.bind_assoc]
    exact congrArg (c.make >>= ·) (funext ih)

theorem follow_map (f : α → β) (s : Script α) : (f <$> s).follow = (f <$> s.follow : m β) := by
  rw [← bind_pure_comp, ← bind_pure_comp, follow_bind]
  rfl

theorem follow_make (c : Call) : (c.make : Script c.Answer).follow = (c.make : m c.Answer) := by
  cases c <;> exact bind_pure _

end Script

/-! ### Jobs as scripts -/

namespace Job

variable {α β : Type} {m : Type → Type} [Monad m] [Host m]

def follow (job : Job Script α) : Job m α := ExceptT.mk job.run.follow

theorem follow_pure (a : α) : follow (pure a) = (pure a : Job m α) := rfl

theorem follow_ofExcept (r : Except Fault α) : follow (ofExcept r) = (ofExcept r : Job m α) := rfl

theorem follow_ofFile (r : Except FileError α) : follow (ofFile r) = (ofFile r : Job m α) := rfl

variable [LawfulMonad m]

theorem follow_bind (job : Job Script α) (f : α → Job Script β) :
    follow (job >>= f) = ((follow job >>= fun a => follow (f a)) : Job m β) := by
  refine (Script.follow_bind job.run _).trans (congrArg (job.run.follow >>= ·) (funext fun result => ?_))
  cases result with
  | ok a => rfl
  | error e => rfl

theorem follow_make (c : Call) : follow (c.make : Job Script c.Answer) = (c.make : Job m c.Answer) := by
  cases c <;> exact (Script.follow_map Except.ok _).trans (congrArg (Except.ok <$> ·) (bind_pure _))

theorem follow_mapM {f : α → Job Script β} {g : α → Job m β} (h : ∀ a, follow (f a) = g a) (as : List α) :
    follow (as.mapM f) = as.mapM g := by
  induction as with
  | nil => rfl
  | cons a as ih => simp only [List.mapM_cons, follow_bind, h, ih, follow_pure]

theorem follow_forM {f : α → Job Script PUnit} {g : α → Job m PUnit} (h : ∀ a, follow (f a) = g a) (as : List α) :
    follow (as.forM f) = as.forM g := by
  induction as with
  | nil => rfl
  | cons a as ih => exact (follow_bind _ _).trans (by simp only [h, ih]; rfl)

theorem follow_attempt (report : FileError → Text) {job : Job Script α} {job' : Job m α} (h : follow job = job') :
    follow (attempt report job) = attempt report job' := by
  subst h
  refine (Script.follow_bind job.run _).trans (congrArg (job.run.follow >>= ·) (funext fun result => ?_))
  cases result with
  | ok a => rfl
  | error failure =>
    cases failure with
    | file e => exact (Script.follow_bind _ _).trans (congrArg (· >>= _) (Script.follow_make (.warn (report e))))
    | fault f => rfl

theorem follow_kind? (path : Text) : follow (Host.kind? path) = (Host.kind? path : Job m (Option FileKind)) :=
  follow_make (.kind? path)

theorem follow_read (path : Path) : follow (Host.read path) = (Host.read path : Job m FileContent) := follow_make (.read path)

theorem follow_write (path : Path) (text : Text) :
    follow (Host.write path text) = (Host.write path text : Job m (Except FileError Unit)) := follow_make (.write path text)

theorem follow_createDirectory (path : Path) :
    follow (Host.createDirectory path) = (Host.createDirectory path : Job m (Except FileError Unit)) :=
  follow_make (.createDirectory path)

theorem follow_print (text : Text) : follow (Host.print text) = (Host.print text : Job m Unit) := follow_make (.print text)

theorem follow_warn (text : Text) : follow (Host.warn text) = (Host.warn text : Job m Unit) := follow_make (.warn text)

theorem follow_readText (path : Path) : follow (readText path) = (readText path : Job m Text) := by
  simp only [readText, follow_bind, follow_read, follow_ofFile, follow_ofExcept]

theorem follow_writeText (path : Path) (text : Text) : follow (writeText path text) = (writeText path text : Job m Unit) := by
  simp only [writeText, follow_bind, follow_write, follow_ofFile]

theorem follow_readDocument (path : Path) : follow (readDocument path) = (readDocument path : Job m (List Html.Node)) := by
  simp only [readDocument, follow_bind, follow_readText]
  congr 1
  funext text
  cases Html.document? text <;> rfl

theorem follow_readSettings (load : Text → FileContent → Except Fault α) (bundled : α) (path? : Option Text) :
    follow (readSettings load bundled path?) = (readSettings load bundled path? : Job m α) := by
  cases path? with
  | none => rfl
  | some path => simp only [readSettings, follow_bind, follow_read, follow_ofExcept]

theorem follow_readConverter (paths : SettingsPaths) :
    follow (readConverter paths) = (readConverter paths : Job m Converter) := by
  simp only [readConverter, follow_bind, follow_readSettings, follow_pure]

theorem follow_log (verbose : Bool) (entries : List LogEntry) : follow (log verbose entries) = (log verbose entries : Job m Unit) := by
  cases verbose with
  | false => rfl
  | true => exact follow_forM (fun e => (follow_warn e.line : _ = (Host.warn e.line : Job m Unit))) entries

theorem follow_convertText (verbose : Bool) (c : Converter) (css : Text) :
    follow (convertText verbose c css) = (convertText verbose c css : Job m Conversion) := by
  simp only [convertText, follow_bind, follow_log, follow_ofExcept]

theorem follow_printSummary (r : Report) : follow (printSummary r) = (printSummary r : Job m Unit) :=
  follow_forM (fun line => (follow_warn (line ++ ['\n']) : _ = (Host.warn _ : Job m Unit))) r.summary

theorem follow_acceptDirectory (path : Path) (made : Except FileError Unit) :
    follow (Host.acceptDirectory path made) = (Host.acceptDirectory path made : Job m (Except FileError Unit)) := by
  cases made with
  | ok _ => rfl
  | error e => simp only [Host.acceptDirectory, follow_bind, follow_kind?, follow_pure]

theorem follow_createDirectories (root : Text) (names : List Text) :
    follow (Host.createDirectories root names) = (Host.createDirectories root names : Job m (Except FileError Unit)) := by
  induction names with
  | nil => simp only [Host.createDirectories, follow_bind, follow_createDirectory, follow_acceptDirectory]
  | cons name outer ih =>
    simp only [Host.createDirectories, follow_bind, follow_createDirectory]
    congr 1
    funext made
    split
    · rw [follow_bind, ih]
      congr 1
      funext outside
      split
      · rfl
      · simp only [follow_bind, follow_createDirectory, follow_acceptDirectory]
    · exact follow_acceptDirectory _ _

theorem follow_makeDirectory (path : Path) :
    follow (Host.makeDirectory path) = (Host.makeDirectory path : Job m (Except FileError Unit)) :=
  follow_createDirectories path.root path.names.reverse

end Job

namespace Batch

open Job

variable {m : Type → Type} [Monad m] [Host m] [LawfulMonad m]

theorem follow_extract (r : BatchRequest) (directory document : Path) :
    follow (extract r directory document) = (extract r directory document : Job m (Option Path)) := by
  simp only [extract, follow_bind, follow_readDocument]
  congr 1
  funext nodes
  split
  · rfl
  · simp only [follow_bind, follow_writeText, follow_print, follow_pure]

theorem follow_extractAll (r : BatchRequest) (directory : Path) (documents : List Path) :
    follow (extractAll r directory documents) = (extractAll r directory documents : Job m (List (Option (Option Path)))) := by
  simp only [extractAll]
  split
  · rw [follow_bind, follow_print, follow_mapM fun document => follow_attempt _ (follow_extract r directory document)]
  · rfl

theorem follow_convertDocument (verbose : Bool) (config : Config) (directory document : Path) :
    follow (convertDocument verbose config directory document) = (convertDocument verbose config directory document : Job m Unit) := by
  simp only [convertDocument, follow_bind, follow_readDocument, follow_log, follow_writeText, follow_print]

theorem follow_convertStyleSheet (verbose : Bool) (c : Converter) (directory styleSheet : Path) :
    follow (convertStyleSheet verbose c directory styleSheet) =
      (convertStyleSheet verbose c directory styleSheet : Job m Unit) := by
  simp only [convertStyleSheet, follow_bind, follow_readText, follow_convertText, follow_writeText, follow_printSummary,
    follow_print]

/-! The loops over documents and over style sheets: -/

def convertDocuments {m : Type → Type} [Monad m] [Host m] (verbose : Bool) (config : Config) (directory : Path)
    (documents : List Path) : Job m (List (Option Unit)) :=
  documents.mapM fun document => attempt (documentFailure document) (convertDocument verbose config directory document)

def convertStyleSheets {m : Type → Type} [Monad m] [Host m] (verbose : Bool) (c : Converter) (directory : Path)
    (styleSheets : List Path) : Job m (List (Option Unit)) :=
  styleSheets.mapM fun styleSheet => attempt (styleSheetFailure styleSheet) (convertStyleSheet verbose c directory styleSheet)

/-- All style sheets of a batch, given those extracted from its documents. -/
def styleSheets (r : BatchRequest) (extracted : List Path) : List Path :=
  r.styleSheets.map Path.ofText ++ extracted ++ r.reset?.toList.map Path.ofText

theorem convertAll_eq {m : Type → Type} [Monad m] [Host m] (verbose : Bool) (c : Converter) (r : BatchRequest) (directory : Path) :
    (convertAll verbose c r directory : Job m Bool) = do
      let extracted ← extractAll r directory (r.documents.map Path.ofText)
      let converted ← convertDocuments verbose c.config directory (r.documents.map Path.ofText)
      let styled ← convertStyleSheets verbose c directory (styleSheets r (extracted.filterMap Option.join))
      return extracted.all Option.isSome && converted.all Option.isSome && styled.all Option.isSome := rfl

theorem follow_convertDocuments (verbose : Bool) (config : Config) (directory : Path) (documents : List Path) :
    follow (convertDocuments verbose config directory documents) =
      (convertDocuments verbose config directory documents : Job m (List (Option Unit))) :=
  follow_mapM (fun document => follow_attempt _ (follow_convertDocument verbose config directory document)) documents

theorem follow_convertStyleSheets (verbose : Bool) (c : Converter) (directory : Path) (styleSheets : List Path) :
    follow (convertStyleSheets verbose c directory styleSheets) =
      (convertStyleSheets verbose c directory styleSheets : Job m (List (Option Unit))) :=
  follow_mapM (fun styleSheet => follow_attempt _ (follow_convertStyleSheet verbose c directory styleSheet)) styleSheets

theorem follow_convertAll (verbose : Bool) (c : Converter) (r : BatchRequest) (directory : Path) :
    follow (convertAll verbose c r directory) = (convertAll verbose c r directory : Job m Bool) := by
  simp only [convertAll_eq, follow_bind, follow_extractAll, follow_convertDocuments, follow_convertStyleSheets, follow_pure]

theorem follow_run (verbose : Bool) (r : BatchRequest) : follow (run verbose r) = (run verbose r : Job m Bool) := by
  simp only [run, follow_bind, follow_readConverter, follow_makeDirectory]
  congr 1
  funext c
  congr 1
  funext made
  cases made with
  | ok _ => exact follow_convertAll verbose c r _
  | error e => simp only [follow_bind, follow_warn, follow_pure]

end Batch

namespace Command

open Job

variable {m : Type → Type} [Monad m] [Host m] [LawfulMonad m]

theorem follow_list (verbose : Bool) (styleSheet : Text) (metadata? : Option Text) :
    follow (list verbose styleSheet metadata?) = (list verbose styleSheet metadata? : Job m Bool) := by
  simp only [list, follow_bind, follow_readSettings, follow_readText, follow_log, follow_print, follow_pure]

theorem follow_printConverted (verbose : Bool) (styleSheet : Text) (settings : SettingsPaths) :
    follow (printConverted verbose styleSheet settings) = (printConverted verbose styleSheet settings : Job m Bool) := by
  simp only [printConverted, follow_bind, follow_readConverter, follow_readText, follow_convertText, follow_print,
    follow_printSummary, follow_pure]

theorem follow_perform (verbose : Bool) (command : Command) :
    follow (command.perform verbose) = (command.perform verbose : Job m Bool) := by
  cases command with
  | convert request => exact Batch.follow_run verbose request
  | inspect styleSheet metadata? => exact follow_list verbose styleSheet metadata?
  | uss styleSheet settings => exact follow_printConverted verbose styleSheet settings

end Command

/-! ### Whole runs as scripts -/

namespace Request

open Script

variable {m : Type → Type} [Monad m] [Host m] [LawfulMonad m]

theorem follow_firstProblem? (demands : List Demand) :
    (Demand.firstProblem? demands : Script (Option UsageError)).follow = (Demand.firstProblem? demands : m (Option UsageError)) := by
  induction demands with
  | nil => rfl
  | cons d ds ih =>
    rw [Demand.firstProblem?, Demand.firstProblem?, follow_bind]
    refine congr (congrArg _ (follow_make (.kind? d.path))) (funext fun kind => ?_)
    rw [follow_bind]
    refine congr (congrArg _ (follow_make (.mayRead d.path))) (funext fun readable => ?_)
    cases d.problem? kind readable with
    | some e => rfl
    | none => exact ih

theorem follow_last (c : Call) (status : Status) :
    (do let _ ← c.make; return status : Script Status).follow = (do let _ ← c.make; return status : m Status) :=
  (follow_bind _ _).trans (congrArg (· >>= fun _ => pure status) (follow_make c))

theorem follow_settle (result : Except Failure Bool) : (settle result : Script Status).follow = (settle result : m Status) := by
  cases result with
  | ok succeeded => rfl
  | error failure =>
    rw [settle, settle]
    cases failure.message with
    | ok message => exact follow_last (.warn _) _
    | error fault => rfl

/-- What a request does on a host is what its script does there. -/
theorem follow_answer (request : Request) : (request.answer : Script Status).follow = (request.answer : m Status) := by
  cases request with
  | version => exact follow_last (.print _) _
  | help name => exact follow_last (.print _) _
  | run verbose command =>
    rw [answer, answer, follow_bind, follow_firstProblem?]
    refine congrArg _ (funext fun problem? => ?_)
    cases problem? with
    | some e => exact follow_last (.warn _) _
    | none =>
      have hperform : follow (command.perform verbose : Job Script Bool).run = ((command.perform verbose : Job m Bool).run) :=
        Command.follow_perform verbose command
      exact (follow_bind _ _).trans (congr (congrArg _ hperform) (funext follow_settle))

/-- What a request comes to in a world, and the world after it. -/
def within (request : Request) (w : World) : Status × World := StateT.run (m := Id) request.answer w

end Request

end UiToolkit
