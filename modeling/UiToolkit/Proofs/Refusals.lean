import Mathlib.Data.List.Basic
import UiToolkit.Proofs.Scripts

/-!
# Files that cannot be read

A batch goes on after a file that fails to be read. It leaves behind what it would have left without that file, apart from a report and the exit code. What is wrong with the arguments, such as a file that does not exist or must not be read, is found before anything is written.
-/

namespace UiToolkit

open Text

/-- Two worlds that differ in nothing but what was written to the stream for messages. -/
structure World.Alike (w w' : World) : Prop where
  files : w.files = w'.files
  printed : w.printed = w'.printed

theorem World.Alike.refl (w : World) : w.Alike w := ⟨rfl, rfl⟩

/-- What keeps paths from being read: some must not be read, and reading others fails all the same. -/
structure Obstacles where
  closed : Text → Bool
  refusal? : Path → Option FileError

/-- A world in which not every path can be read. -/
def Guarded (_ : Obstacles) (α : Type) : Type := StateM World α

namespace Guarded

variable {obstacles : Obstacles} {α β : Type}

instance : Monad (Guarded obstacles) := inferInstanceAs (Monad (StateM World))

instance : LawfulMonad (Guarded obstacles) := inferInstanceAs (LawfulMonad (StateM World))

/-- What a step comes to in a world, and the world after it. -/
def within (step : Guarded obstacles α) (w : World) : α × World := StateT.run (m := Id) step w

def ofWorld (step : StateM World α) : Guarded obstacles α := step

instance : Host (Guarded obstacles) where
  kind? path := ofWorld (Host.kind? path)
  mayRead path := ofWorld (pure (!obstacles.closed path))
  read path :=
    match obstacles.refusal? path with
    | some e => ofWorld (pure (.error e))
    | none => ofWorld (Host.read path)
  write path text := ofWorld (Host.write path text)
  createDirectory path := ofWorld (Host.createDirectory path)
  print text := ofWorld (Host.print text)
  warn text := ofWorld (Host.warn text)

theorem within_bind (step : Guarded obstacles α) (f : α → Guarded obstacles β) (w : World) :
    (step >>= f).within w = (f (step.within w).1).within (step.within w).2 := rfl

/-- A call is answered without regard to the messages so far, and takes none of them back. -/
theorem within_make (c : Call) {w w' : World} (h : w.Alike w') :
    ((c.make : Guarded obstacles c.Answer).within w).1 = ((c.make : Guarded obstacles c.Answer).within w').1 ∧
      ((c.make : Guarded obstacles c.Answer).within w).2.Alike ((c.make : Guarded obstacles c.Answer).within w').2 ∧
      w.warned <+: ((c.make : Guarded obstacles c.Answer).within w).2.warned := by
  obtain ⟨files, printed, warned⟩ := w
  obtain ⟨files', printed', warned'⟩ := w'
  obtain ⟨rfl, rfl⟩ : files = files' ∧ printed = printed' := ⟨h.files, h.printed⟩
  have hchange : ∀ f : FileTree → Except FileError FileTree,
      (World.change f ⟨files, printed, warned⟩).1 = (World.change f ⟨files, printed, warned'⟩).1 ∧
        (World.change f ⟨files, printed, warned⟩).2.Alike (World.change f ⟨files, printed, warned'⟩).2 ∧
        warned <+: (World.change f ⟨files, printed, warned⟩).2.warned := by
    intro f
    unfold World.change
    cases f files with
    | ok files => exact ⟨rfl, ⟨rfl, rfl⟩, List.prefix_rfl⟩
    | error e => exact ⟨rfl, ⟨rfl, rfl⟩, List.prefix_rfl⟩
  cases c with
  | kind? path => exact ⟨rfl, ⟨rfl, rfl⟩, List.prefix_rfl⟩
  | mayRead path => exact ⟨rfl, ⟨rfl, rfl⟩, List.prefix_rfl⟩
  | read path =>
    simp only [Call.make, Host.read]
    cases obstacles.refusal? path with
    | some e => exact ⟨rfl, ⟨rfl, rfl⟩, List.prefix_rfl⟩
    | none => exact ⟨rfl, ⟨rfl, rfl⟩, List.prefix_rfl⟩
  | write path text => exact hchange (·.write path text)
  | createDirectory path => exact hchange (·.createDirectory path)
  | print text => exact ⟨rfl, ⟨rfl, rfl⟩, List.prefix_rfl⟩
  | warn text => exact ⟨rfl, ⟨rfl, rfl⟩, List.prefix_append _ _⟩

theorem within_follow (s : Script α) {w w' : World} (h : w.Alike w') :
    ((s.follow : Guarded obstacles α).within w).1 = ((s.follow : Guarded obstacles α).within w').1 ∧
      ((s.follow : Guarded obstacles α).within w).2.Alike ((s.follow : Guarded obstacles α).within w').2 ∧
      w.warned <+: ((s.follow : Guarded obstacles α).within w).2.warned := by
  induction s generalizing w w' with
  | done a => exact ⟨rfl, h, List.prefix_rfl⟩
  | call c next ih =>
    obtain ⟨hanswer, hcall, hwarned⟩ := @within_make obstacles c w w' h
    rw [Script.follow, within_bind, within_bind, ← hanswer]
    obtain ⟨hresult, hrest, hmore⟩ := ih ((c.make : Guarded obstacles c.Answer).within w).1 hcall
    exact ⟨hresult, hrest, hwarned.trans hmore⟩

end Guarded

/-! ### Jobs one of which passes over a file -/

namespace Job

variable {obstacles : Obstacles} {α β γ δ : Type}

theorem within_run_bind (job : Job (Guarded obstacles) α) (f : α → Job (Guarded obstacles) β) (w : World) :
    (job >>= f).run.within w = (ExceptT.bindCont f (job.run.within w).1).within (job.run.within w).2 := rfl

theorem within_bind_ok {job : Job (Guarded obstacles) α} {w u : World} {a : α} (h : job.run.within w = (.ok a, u))
    (f : α → Job (Guarded obstacles) β) : (job >>= f).run.within w = (f a).run.within u := by
  rw [within_run_bind, h]
  rfl

theorem within_bind_error {job : Job (Guarded obstacles) α} {w u : World} {e : Failure}
    (h : job.run.within w = (.error e, u)) (f : α → Job (Guarded obstacles) β) :
    (job >>= f).run.within w = (.error e, u) := by
  rw [within_run_bind, h]
  rfl

theorem exists_of_bind_ok {job : Job (Guarded obstacles) α} {f : α → Job (Guarded obstacles) β} {w v : World} {b : β}
    (h : (job >>= f).run.within w = (.ok b, v)) :
    ∃ a u, job.run.within w = (.ok a, u) ∧ (f a).run.within u = (.ok b, v) := by
  cases hjob : job.run.within w with
  | mk result u =>
    cases result with
    | ok a => exact ⟨a, u, rfl, (within_bind_ok hjob f).symm.trans h⟩
    | error e =>
      rw [within_bind_error hjob] at h
      cases h

/-- Where `job'` comes to a result, `job` comes to one that `Q` relates to it, and leaves the same world but for messages. -/
def Passes (job : Job (Guarded obstacles) α) (job' : Job (Guarded obstacles) β) (Q : α → β → Prop) : Prop :=
  ∀ ⦃w w' : World⦄, w.Alike w' → ∀ ⦃b v'⦄, job'.run.within w' = (.ok b, v') →
    ∃ a v, job.run.within w = (.ok a, v) ∧ v.Alike v' ∧ Q a b

theorem passes_pure {Q : α → β → Prop} {a : α} {b : β} (h : Q a b) :
    (pure a : Job (Guarded obstacles) α).Passes (pure b) Q := by
  intro w w' halike b' v' hresult
  cases hresult
  exact ⟨a, w, rfl, halike, h⟩

theorem Passes.bind {job : Job (Guarded obstacles) α} {job' : Job (Guarded obstacles) β} {Q : α → β → Prop}
    {f : α → Job (Guarded obstacles) γ} {f' : β → Job (Guarded obstacles) δ} {R : γ → δ → Prop} (h : job.Passes job' Q)
    (hf : ∀ a b, Q a b → (f a).Passes (f' b) R) : (job >>= f).Passes (job' >>= f') R := by
  intro w w' halike d v' hresult
  obtain ⟨b, u', hjob', hrest'⟩ := exists_of_bind_ok hresult
  obtain ⟨a, u, hjob, hbetween, hQ⟩ := h halike hjob'
  obtain ⟨c, v, hrest, hafter, hR⟩ := hf a b hQ hbetween hrest'
  exact ⟨c, v, (within_bind_ok hjob f).trans hrest, hafter, hR⟩

theorem Passes.mono {job : Job (Guarded obstacles) α} {job' : Job (Guarded obstacles) β} {Q R : α → β → Prop}
    (h : job.Passes job' Q) (hQ : ∀ a b, Q a b → R a b) : job.Passes job' R := by
  intro w w' halike b v' hresult
  obtain ⟨a, v, hjob, hafter, hab⟩ := h halike hresult
  exact ⟨a, v, hjob, hafter, hQ a b hab⟩

theorem passes_follow (job : Job Script α) : (follow job : Job (Guarded obstacles) α).Passes (follow job) Eq := by
  intro w w' halike b v' hresult
  obtain ⟨hsame, hafter, -⟩ := @Guarded.within_follow obstacles _ job.run w w' halike
  have hresult' : (job.run.follow : Guarded obstacles (Except Failure α)).within w' = (.ok b, v') := hresult
  rw [hresult'] at hsame hafter
  exact ⟨b, ((job.run.follow : Guarded obstacles (Except Failure α)).within w).2, Prod.ext hsame rfl, hafter, rfl⟩

/-- Whether the job writes a message wherever it comes to a result. -/
def Reports (text : Text) (job : Job (Guarded obstacles) α) : Prop :=
  ∀ ⦃w : World⦄, ∀ ⦃a v⦄, job.run.within w = (.ok a, v) → text <:+: v.warned

theorem Reports.bind {text : Text} {job : Job (Guarded obstacles) α} (h : job.Reports text) (f : α → Job Script β) :
    (job >>= fun a => follow (f a)).Reports text := by
  intro w b v hresult
  obtain ⟨a, u, hjob, hrest⟩ := exists_of_bind_ok hresult
  obtain ⟨-, -, hwarned⟩ := @Guarded.within_follow obstacles _ (f a).run u u (.refl u)
  have hrest' : ((f a).run.follow : Guarded obstacles (Except Failure β)).within u = (.ok b, v) := hrest
  rw [hrest'] at hwarned
  exact (h hjob).trans hwarned.isInfix

theorem reports_bind {text : Text} {f : α → Job (Guarded obstacles) β} (h : ∀ a, (f a).Reports text)
    (job : Job (Guarded obstacles) α) : (job >>= f).Reports text := by
  intro w b v hresult
  obtain ⟨a, u, -, hrest⟩ := exists_of_bind_ok hresult
  exact h a hrest

/-! ### A file that cannot be read -/

section

variable {path : Path} {e : FileError}

theorem within_readText_refused (h : obstacles.refusal? path = some e) (w : World) :
    (readText path : Job (Guarded obstacles) Text).run.within w = (.error (.file e), w) := by
  have hread : (Host.read path : Guarded obstacles FileContent) = Guarded.ofWorld (pure (.error e)) := by
    simp only [Host.read, h]
  have hlift : (Host.read path : Job (Guarded obstacles) FileContent).run.within w = (.ok (.error e), w) := by
    have hrun : (Host.read path : Job (Guarded obstacles) FileContent) = ExceptT.lift (Host.read path : Guarded obstacles FileContent) := rfl
    rw [hrun, hread]
    rfl
  have hbytes : (ofFile (.error e) : Job (Guarded obstacles) (List UInt8)).run.within w = (.error (.file e), w) := rfl
  exact (within_bind_ok hlift _).trans (within_bind_error hbytes _)

theorem within_readDocument_refused (h : obstacles.refusal? path = some e) (w : World) :
    (readDocument path : Job (Guarded obstacles) (List Html.Node)).run.within w = (.error (.file e), w) :=
  within_bind_error (within_readText_refused h w) _

theorem within_attempt {job : Job (Guarded obstacles) α} {w : World} (h : job.run.within w = (.error (.file e), w))
    (report : FileError → Text) : (attempt report job).run.within w = (.ok none, w.warn (report e)) := by
  rw [attempt, ExceptT.run_mk, Guarded.within_bind, h]
  rfl

end

/-! ### Loops over files -/

section

variable (f : γ → Job Script (Option δ)) {bad : γ} {text : Text}

/-- A loop with one more element that comes to nothing. -/
theorem passes_mapM (hbad : ∀ w, (follow (f bad) : Job (Guarded obstacles) (Option δ)).run.within w = (.ok none, w.warn text))
    (as bs : List γ) :
    (follow ((as ++ bad :: bs).mapM f) : Job (Guarded obstacles) (List (Option δ))).Passes (follow ((as ++ bs).mapM f))
      fun xs ys => ∃ us vs, xs = us ++ none :: vs ∧ ys = us ++ vs := by
  induction as with
  | nil =>
    rw [List.nil_append, List.nil_append, List.mapM_cons, follow_bind]
    intro w w' halike ys v' hresult
    have hskipped : (w.warn text).Alike w' := ⟨halike.files, halike.printed⟩
    obtain ⟨xs, v, hrest, hafter, rfl⟩ := passes_follow (bs.mapM f) hskipped hresult
    refine ⟨none :: xs, v, ?_, hafter, [], xs, rfl, rfl⟩
    rw [within_bind_ok (hbad w), follow_bind, within_bind_ok hrest]
    rfl
  | cons a as ih =>
    rw [List.cons_append, List.cons_append, List.mapM_cons, List.mapM_cons, follow_bind, follow_bind]
    refine (passes_follow (f a)).bind fun x y hxy => ?_
    rw [follow_bind, follow_bind]
    refine ih.bind fun xs ys ⟨us, vs, hxs, hys⟩ => passes_pure ⟨x :: us, vs, ?_, ?_⟩
    · rw [hxs, List.cons_append]
    · rw [hys, hxy, List.cons_append]

theorem reports_mapM (hbad : ∀ w, (follow (f bad) : Job (Guarded obstacles) (Option δ)).run.within w = (.ok none, w.warn text))
    (as bs : List γ) :
    (follow ((as ++ bad :: bs).mapM f) : Job (Guarded obstacles) (List (Option δ))).Reports text := by
  induction as with
  | nil =>
    have hreports : (follow (f bad) : Job (Guarded obstacles) (Option δ)).Reports text := by
      intro w a v hresult
      rw [hbad] at hresult
      cases hresult
      exact (List.suffix_append w.warned text).isInfix
    rw [List.nil_append, List.mapM_cons, follow_bind]
    exact hreports.bind _
  | cons a as ih =>
    rw [List.cons_append, List.mapM_cons, follow_bind]
    refine reports_bind (fun x => ?_) _
    rw [follow_bind]
    exact ih.bind _

theorem all_isSome_of_insert {xs ys : List (Option δ)} (h : ∃ us vs, xs = us ++ none :: vs ∧ ys = us ++ vs) :
    xs.all Option.isSome = false := by
  obtain ⟨us, vs, rfl, -⟩ := h
  simp

/-- The loop as a whole is no success, and says so. -/
theorem fails_mapM (hbad : ∀ w, (follow (f bad) : Job (Guarded obstacles) (Option δ)).run.within w = (.ok none, w.warn text))
    (as bs : List γ) :
    (follow ((as ++ bad :: bs).mapM f) : Job (Guarded obstacles) (List (Option δ))).Passes (follow ((as ++ bs).mapM f))
        (fun xs _ => xs.all Option.isSome = false) ∧
      (follow ((as ++ bad :: bs).mapM f) : Job (Guarded obstacles) (List (Option δ))).Reports text :=
  ⟨(passes_mapM f hbad as bs).mono fun _ _ => all_isSome_of_insert, reports_mapM f hbad as bs⟩

end

end Job

namespace Batch

open Job

/-- The second request is the first without one of its files, the failure of which is reported by `report`. -/
inductive Omits (r : BatchRequest) (bad : Text) : (Path → FileError → Text) → BatchRequest → Prop
  | document {as bs : List Text} (h : r.documents = as ++ bad :: bs) : Omits r bad documentFailure { r with documents := as ++ bs }
  | styleSheet {as bs : List Text} (h : r.styleSheets = as ++ bad :: bs) (hextract : r.extract = true → as ++ bs ≠ []) :
      Omits r bad styleSheetFailure { r with styleSheets := as ++ bs }
  /-- A style sheet that is given keeps the styles of the documents from being extracted, so the only one goes together with the
  extraction. -/
  | onlyStyleSheet (h : r.styleSheets = [bad]) : Omits r bad styleSheetFailure { r with styleSheets := [], extract := false }
  | reset (h : r.reset? = some bad) : Omits r bad styleSheetFailure { r with reset? := none }

variable {obstacles : Obstacles} {bad : Path} {e : FileError}

theorem within_extract_refused (h : obstacles.refusal? bad = some e) (r : BatchRequest) (directory : Path) (w : World) :
    (follow (attempt (extractionFailure bad) (extract r directory bad)) : Job (Guarded obstacles) _).run.within w =
      (.ok none, w.warn (extractionFailure bad e)) := by
  rw [follow_attempt _ (follow_extract r directory bad)]
  exact within_attempt (within_bind_error (within_readDocument_refused h w) _) _

theorem within_convertDocument_refused (h : obstacles.refusal? bad = some e) (verbose : Bool) (config : Config) (directory : Path)
    (w : World) :
    (follow (attempt (documentFailure bad) (convertDocument verbose config directory bad)) : Job (Guarded obstacles) _).run.within w =
      (.ok none, w.warn (documentFailure bad e)) := by
  rw [follow_attempt _ (follow_convertDocument verbose config directory bad)]
  exact within_attempt (within_bind_error (within_readDocument_refused h w) _) _

theorem within_convertStyleSheet_refused (h : obstacles.refusal? bad = some e) (verbose : Bool) (c : Converter) (directory : Path)
    (w : World) :
    (follow (attempt (styleSheetFailure bad) (convertStyleSheet verbose c directory bad)) : Job (Guarded obstacles) _).run.within w =
      (.ok none, w.warn (styleSheetFailure bad e)) := by
  rw [follow_attempt _ (follow_convertStyleSheet verbose c directory bad)]
  exact within_attempt (within_bind_error (within_readText_refused h w) _) _

theorem convertAll_follow (verbose : Bool) (c : Converter) (r : BatchRequest) (directory : Path) :
    (convertAll verbose c r directory : Job (Guarded obstacles) Bool) = do
      let extracted ← follow (extractAll r directory (r.documents.map Path.ofText))
      let converted ← follow (convertDocuments verbose c.config directory (r.documents.map Path.ofText))
      let styled ← follow (convertStyleSheets verbose c directory (styleSheets r (extracted.filterMap Option.join)))
      return extracted.all Option.isSome && converted.all Option.isSome && styled.all Option.isSome := by
  rw [convertAll_eq]
  simp only [follow_extractAll, follow_convertDocuments, follow_convertStyleSheets]

theorem passes_extractAll (h : obstacles.refusal? bad = some e) (r : BatchRequest) (directory : Path) (as bs : List Path) :
    (follow (extractAll r directory (as ++ bad :: bs)) : Job (Guarded obstacles) _).Passes (follow (extractAll r directory (as ++ bs)))
      fun xs ys => xs.filterMap Option.join = ys.filterMap Option.join := by
  have hloop := passes_mapM (fun document => attempt (extractionFailure document) (extract r directory document))
    (within_extract_refused h r directory) as bs
  unfold extractAll
  split
  · rw [follow_bind, follow_bind]
    refine (passes_follow _).bind fun _ _ _ => hloop.mono ?_
    rintro xs ys ⟨us, vs, rfl, rfl⟩
    rw [List.filterMap_append, List.filterMap_append, List.filterMap_cons_none rfl]
  · exact passes_pure rfl

theorem passes_convertDocuments (h : obstacles.refusal? bad = some e) (verbose : Bool) (config : Config) (directory : Path) (as bs : List Path) :
    (follow (convertDocuments verbose config directory (as ++ bad :: bs)) : Job (Guarded obstacles) _).Passes
        (follow (convertDocuments verbose config directory (as ++ bs))) (fun xs _ => xs.all Option.isSome = false) ∧
      (follow (convertDocuments verbose config directory (as ++ bad :: bs)) : Job (Guarded obstacles) _).Reports
        (documentFailure bad e) :=
  fails_mapM (fun document => attempt (documentFailure document) (convertDocument verbose config directory document))
    (within_convertDocument_refused h verbose config directory) as bs

theorem passes_convertStyleSheets (h : obstacles.refusal? bad = some e) (verbose : Bool) (c : Converter) (directory : Path) (as bs : List Path) :
    (follow (convertStyleSheets verbose c directory (as ++ bad :: bs)) : Job (Guarded obstacles) _).Passes
        (follow (convertStyleSheets verbose c directory (as ++ bs))) (fun xs _ => xs.all Option.isSome = false) ∧
      (follow (convertStyleSheets verbose c directory (as ++ bad :: bs)) : Job (Guarded obstacles) _).Reports
        (styleSheetFailure bad e) :=
  fails_mapM (fun styleSheet => attempt (styleSheetFailure styleSheet) (convertStyleSheet verbose c directory styleSheet))
    (within_convertStyleSheet_refused h verbose c directory) as bs

theorem passes_convertAll_document {text : Text} (h : obstacles.refusal? (Path.ofText text) = some e) (verbose : Bool) (c : Converter)
    (directory : Path)
    {r : BatchRequest} {as bs : List Text} (hr : r.documents = as ++ text :: bs) :
    (convertAll verbose c r directory : Job (Guarded obstacles) Bool).Passes
        (convertAll verbose c { r with documents := as ++ bs } directory) (fun all _ => all = false) ∧
      (convertAll verbose c r directory : Job (Guarded obstacles) Bool).Reports (documentFailure (Path.ofText text) e) := by
  have hsplit : r.documents.map Path.ofText = as.map Path.ofText ++ Path.ofText text :: bs.map Path.ofText := by simp [hr]
  have hrest : (as ++ bs).map Path.ofText = as.map Path.ofText ++ bs.map Path.ofText := List.map_append
  obtain ⟨hpasses, hreports⟩ := passes_convertDocuments h verbose c.config directory (as.map Path.ofText) (bs.map Path.ofText)
  rw [convertAll_follow, convertAll_follow, hsplit, hrest]
  constructor
  · refine (passes_extractAll h r directory _ _).bind fun xs ys hextracted => hpasses.bind fun us vs hconverted => ?_
    have hsheets : ∀ extracted, styleSheets { r with documents := as ++ bs } extracted = styleSheets r extracted := fun _ => rfl
    rw [hsheets, hextracted]
    refine (passes_follow _).bind fun _ _ _ => passes_pure ?_
    rw [hconverted, Bool.and_false, Bool.false_and]
  · refine reports_bind (fun extracted => ?_) _
    have hrestScript := hreports.bind fun converted => do
      let styled ← convertStyleSheets verbose c directory (styleSheets r (extracted.filterMap Option.join))
      return extracted.all Option.isSome && converted.all Option.isSome && styled.all Option.isSome
    simpa only [follow_bind, follow_pure] using hrestScript

/-- A batch with the same documents and extraction as another, and one more style sheet that cannot be read. -/
theorem passes_convertAll_styleSheet (h : obstacles.refusal? bad = some e) (verbose : Bool) (c : Converter) (directory : Path)
    {r r' : BatchRequest} (hdocuments : r'.documents = r.documents)
    (hextract : ∀ documents, (extractAll r' directory documents : Job Script _) = extractAll r directory documents)
    (hsheets : ∀ extracted, ∃ as bs, styleSheets r extracted = as ++ bad :: bs ∧ styleSheets r' extracted = as ++ bs) :
    (convertAll verbose c r directory : Job (Guarded obstacles) Bool).Passes (convertAll verbose c r' directory)
        (fun all _ => all = false) ∧
      (convertAll verbose c r directory : Job (Guarded obstacles) Bool).Reports (styleSheetFailure bad e) := by
  rw [convertAll_follow, convertAll_follow, hdocuments, hextract]
  constructor
  · refine (passes_follow _).bind fun extracted _ hsame => (passes_follow _).bind fun converted _ _ => ?_
    subst hsame
    obtain ⟨as, bs, hall, hrest⟩ := hsheets (extracted.filterMap Option.join)
    rw [hall, hrest]
    refine (passes_convertStyleSheets h verbose c directory as bs).1.bind fun styled _ hstyled => passes_pure ?_
    rw [hstyled, Bool.and_false]
  · refine reports_bind (fun extracted => reports_bind (fun converted => ?_) _) _
    obtain ⟨as, bs, hall, -⟩ := hsheets (extracted.filterMap Option.join)
    rw [hall]
    exact (passes_convertStyleSheets h verbose c directory as bs).2.bind fun styled => pure _

theorem extractAll_eq_nil {r : BatchRequest} (h : r.extract = true → r.styleSheets ≠ []) (directory : Path) (documents : List Path) :
    (extractAll r directory documents : Job Script _) = pure [] := by
  have hnone : (r.extract && r.styleSheets.isEmpty) = false := by
    rw [Bool.and_eq_false_imp]
    intro hextract
    rw [Bool.eq_false_iff, ne_eq, List.isEmpty_iff]
    exact h hextract
  rw [extractAll, hnone, if_neg Bool.false_ne_true]

theorem Omits.passes_convertAll {r r' : BatchRequest} {text : Text} {report : Path → FileError → Text}
    (homits : Omits r text report r')
    (h : obstacles.refusal? (Path.ofText text) = some e) (verbose : Bool) (c : Converter) (directory : Path) :
    (convertAll verbose c r directory : Job (Guarded obstacles) Bool).Passes (convertAll verbose c r' directory)
        (fun all _ => all = false) ∧
      (convertAll verbose c r directory : Job (Guarded obstacles) Bool).Reports (report (Path.ofText text) e) := by
  cases homits with
  | document hr => exact passes_convertAll_document h verbose c directory hr
  | @styleSheet as bs hr hextract =>
    have hgiven : r.extract = true → r.styleSheets ≠ [] := fun _ => by simp [hr]
    refine passes_convertAll_styleSheet h verbose c directory rfl (fun documents => ?_) fun extracted => ?_
    · exact (extractAll_eq_nil hextract directory documents).trans (extractAll_eq_nil hgiven directory documents).symm
    · exact ⟨as.map Path.ofText, bs.map Path.ofText ++ extracted ++ r.reset?.toList.map Path.ofText,
        by simp [styleSheets, hr], by simp [styleSheets]⟩
  | onlyStyleSheet hr =>
    have hgiven : r.extract = true → r.styleSheets ≠ [] := fun _ => by simp [hr]
    refine passes_convertAll_styleSheet h verbose c directory rfl (fun documents => ?_) fun extracted => ?_
    · exact (extractAll_eq_nil (absurd · Bool.false_ne_true) directory documents).trans
        (extractAll_eq_nil hgiven directory documents).symm
    · exact ⟨[], extracted ++ r.reset?.toList.map Path.ofText, by simp [styleSheets, hr], by simp [styleSheets]⟩
  | reset hr =>
    refine passes_convertAll_styleSheet h verbose c directory rfl (fun documents => rfl) fun extracted => ?_
    exact ⟨r.styleSheets.map Path.ofText ++ extracted, [], by simp [styleSheets, hr], by simp [styleSheets]⟩

end Batch

/-! ### Whole runs -/

/-- What is wrong with a demand in a world where not every path can be read. -/
def Obstacles.problem? (obstacles : Obstacles) (w : World) (d : Demand) : Option UsageError :=
  d.problem? (w.files.kind? d.path) (!obstacles.closed d.path)

namespace Request

open Batch Job

variable {obstacles : Obstacles}

theorem within_firstProblem?_cons (d : Demand) (ds : List Demand) (w : World) :
    (Demand.firstProblem? (d :: ds) : Guarded obstacles (Option UsageError)).within w =
      match obstacles.problem? w d with
      | some e => (some e, w)
      | none => (Demand.firstProblem? ds : Guarded obstacles (Option UsageError)).within w := by
  have hkind : (Host.kind? d.path : Guarded obstacles (Option FileKind)).within w = (w.files.kind? d.path, w) := rfl
  have hmay : (Host.mayRead d.path : Guarded obstacles Bool).within w = (!obstacles.closed d.path, w) := rfl
  rw [Demand.firstProblem?, Guarded.within_bind, hkind, Guarded.within_bind, hmay, Obstacles.problem?]
  cases d.problem? (w.files.kind? d.path) (!obstacles.closed d.path) with
  | some e => rfl
  | none => rfl

theorem within_firstProblem?_some {demands : List Demand} {d : Demand} {w : World} (hd : d ∈ demands)
    (hproblem : obstacles.problem? w d ≠ none) :
    ∃ problem, (Demand.firstProblem? demands : Guarded obstacles (Option UsageError)).within w = (some problem, w) := by
  induction demands with
  | nil => cases hd
  | cons d' ds ih =>
    rw [within_firstProblem?_cons]
    cases hfirst : obstacles.problem? w d' with
    | some problem => exact ⟨problem, rfl⟩
    | none =>
      rcases List.mem_cons.mp hd with rfl | hd
      · exact absurd hfirst hproblem
      · exact ih hd

theorem within_firstProblem?_none {demands : List Demand} {w : World} (hdemands : ∀ d ∈ demands, obstacles.problem? w d = none) :
    (Demand.firstProblem? demands : Guarded obstacles (Option UsageError)).within w = (none, w) := by
  induction demands with
  | nil => rfl
  | cons d ds ih =>
    obtain ⟨hd, hds⟩ := List.forall_mem_cons.mp hdemands
    rw [within_firstProblem?_cons, hd]
    exact ih hds

theorem problem?_file_ne_none {w : World} {path : Text} (h : w.files.kind? path ≠ some .file ∨ obstacles.closed path = true) :
    obstacles.problem? w (.file path) ≠ none := by
  simp only [Obstacles.problem?, Demand.path]
  cases hkind : w.files.kind? path with
  | none => simp [Demand.problem?]
  | some kind =>
    cases kind with
    | directory => simp [Demand.problem?]
    | file =>
      have hclosed := h.resolve_left (not_not.mpr hkind)
      simp [Demand.problem?, hclosed]

/-- A file that is not there, or must not be read, is found before anything is done. -/
theorem within_answer_of_unusable (verbose : Bool) {r : BatchRequest} {w : World} {path : Text}
    (hpath : path ∈ r.documents ++ r.styleSheets ++ r.reset?.toList)
    (h : w.files.kind? path ≠ some .file ∨ obstacles.closed path = true) :
    ∃ message, ((Request.run verbose (.convert r)).answer : Guarded obstacles Status).within w = (.exit 2, w.warn message) := by
  have hdemand : Demand.file path ∈ (Command.convert r).demands :=
    List.mem_append_left _ (List.mem_append_left _ (List.mem_map_of_mem hpath))
  obtain ⟨problem, hfound⟩ := within_firstProblem?_some hdemand (problem?_file_ne_none h)
  refine ⟨"Error: " ++ problem.message ++ "\n", ?_⟩
  rw [answer, Guarded.within_bind, hfound]
  rfl

theorem within_run {verbose : Bool} {r : BatchRequest} {w u : World} {c : Converter}
    (hsettings : (readConverter r.settings : Job (Guarded obstacles) Converter).run.within w = (.ok c, w))
    (hdirectory : (Host.makeDirectory (Path.ofText r.output) : Job (Guarded obstacles) _).run.within w = (.ok (.ok ()), u)) :
    (Batch.run verbose r : Job (Guarded obstacles) Bool).run.within w =
      (convertAll verbose c r (Path.ofText r.output) : Job (Guarded obstacles) Bool).run.within u :=
  (within_bind_ok hsettings _).trans (within_bind_ok hdirectory _)

/-- Three documents, the second of which is no text. -/
def documentTree : FileTree :=
  ⟨[(["good.html"], .file (utf8 "<p>x</p>")), (["bad.html"], .file [255]), (["secret.html"], .file (utf8 "<p>y</p>"))]⟩

def documentBatch (documents : List Text) : BatchRequest where
  documents := documents
  styleSheets := []
  reset? := none
  settings := ⟨none, none, none⟩
  output := "out"
  extract := true
  outputName? := none

/-- A file that only others may read, and files that are damaged. -/
def damage : Obstacles where
  closed path := path == "secret.html"
  refusal? path := if path = Path.ofText "bad.html" ∨ path = Path.ofText "bad.css" then some .inputOutput else none

/-- The files with the directory that a batch makes. -/
def documentWorld : World := .ofFiles (documentTree.put ["out"] .directory)

/-- A page with styles, a reset file with the name that these are extracted to, and a style sheet. -/
def sheetTree : FileTree :=
  ⟨[(["page.html"], .file (utf8 "<style>.a { color: red; }</style>")),
    (["page-styles.css"], .file (utf8 ".b { color: blue; }")), (["bad.css"], .file [])]⟩

def sheetBatch (styleSheets : List Text) : BatchRequest where
  documents := ["page.html"]
  styleSheets := styleSheets
  reset? := some "page-styles.css"
  settings := ⟨none, none, none⟩
  output := "."
  extract := true
  outputName? := none

end Request

end UiToolkit
