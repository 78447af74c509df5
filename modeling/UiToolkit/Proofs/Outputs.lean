import Mathlib.Data.List.Nodup
import UiToolkit.Proofs.Paths
import UiToolkit.Proofs.Writes

/-!
# The outputs of a batch

A batch writes what it extracts from its documents, then the documents, then the style sheets, each to a path that only the stem of its input tells. So one output takes the place of another exactly when two documents, or two style sheets, have the same stem.
-/

namespace UiToolkit

open Text

namespace Batch

open Job

/-! ### What each step writes -/

/-- The styles of a document in a file of their own, if it had any when it was read. -/
def IsExtraction (files : FileTree) (r : BatchRequest) (directory document : Path) (x? : Option Write) : Prop :=
  ∃ nodes, documentIn files document = .ok nodes ∧
    x? = if (Html.styleBlocks true nodes).isEmpty then none
      else some ⟨files, extractedPath r directory document, Html.StyleBlock.combined (Html.styleBlocks true nodes)⟩

def IsDocument (config : Config) (directory document : Path) (x : Write) : Prop :=
  ∃ nodes, documentIn x.before document = .ok nodes ∧
    x = ⟨x.before, documentPath directory document, Uxml.ofDocument config nodes⟩

def IsStyleSheet (c : Converter) (directory styleSheet : Path) (x : Write) : Prop :=
  ∃ css conv, textIn x.before styleSheet = .ok css ∧ c.convertRules (Rule.ofCss css) = .ok conv ∧
    x = ⟨x.before, styleSheetPath directory styleSheet, conv.text⟩

theorem meets_extract (r : BatchRequest) (directory document : Path) :
    (extract r directory document).Meets fun files out x? =>
      IsExtraction files r directory document x? ∧ out = x?.map Write.path := by
  intro w
  have hread := runs_readDocument document w
  cases hdocument : documentIn w.files document with
  | error failure =>
    rw [hdocument] at hread
    exact .inr ⟨failure, w, hread.bind_error⟩
  | ok nodes =>
    rw [hdocument] at hread
    by_cases hempty : (Html.styleBlocks true nodes).isEmpty = true
    · refine .inl ⟨none, w, none, hread.bind ?_, ⟨nodes, hdocument, (if_pos hempty).symm⟩, rfl⟩
      dsimp only
      rw [if_pos hempty]
      exact runs_pure none w
    · rcases runs_writeText_cases (extractedPath r directory document) (Html.StyleBlock.combined (Html.styleBlocks true nodes)) w
        with ⟨u, hwrite⟩ | ⟨e, hwrite⟩
      · obtain ⟨v, hprint⟩ := tells_print ((extractedPath r directory document).name ++ " CSS extracted\n") u
        refine .inl ⟨some _, v, some _, hread.bind ?_, ⟨nodes, hdocument, (if_neg hempty).symm⟩, rfl⟩
        dsimp only
        rw [if_neg hempty]
        exact hwrite.bind (hprint.bind (runs_pure _ v))
      · refine .inr ⟨.file e, w, hread.bind ?_⟩
        dsimp only
        rw [if_neg hempty]
        exact hwrite.bind_error

theorem meets_convertDocument (verbose : Bool) (config : Config) (directory document : Path) :
    (convertDocument verbose config directory document).Meets fun _ _ x? =>
      ∃ x, x? = some x ∧ IsDocument config directory document x := by
  intro w
  have hread := runs_readDocument document w
  cases hdocument : documentIn w.files document with
  | error failure =>
    rw [hdocument] at hread
    exact .inr ⟨failure, w, hread.bind_error⟩
  | ok nodes =>
    rw [hdocument] at hread
    obtain ⟨u, hlog⟩ := tells_log verbose (Uxml.log nodes) w
    rcases runs_writeText_cases (documentPath directory document) (Uxml.ofDocument config nodes) u with ⟨v, hwrite⟩ | ⟨e, hwrite⟩
    · obtain ⟨z, hprint⟩ := tells_print (document.stem ++ " UXML written\n") v
      have hsame : u.files = w.files := hlog.files
      exact .inl ⟨(), z, some ⟨u.files, _, _⟩, hread.bind (hlog.bind (hwrite.bind hprint)), _, rfl, nodes, hsame ▸ hdocument, rfl⟩
    · exact .inr ⟨.file e, u, hread.bind (hlog.bind hwrite.bind_error)⟩

theorem meets_convertStyleSheet (verbose : Bool) (c : Converter) (directory styleSheet : Path) :
    (convertStyleSheet verbose c directory styleSheet).Meets fun _ _ x? =>
      ∃ x, x? = some x ∧ IsStyleSheet c directory styleSheet x := by
  intro w
  have hread := runs_readText styleSheet w
  cases hcss : textIn w.files styleSheet with
  | error failure =>
    rw [hcss] at hread
    exact .inr ⟨failure, w, hread.bind_error⟩
  | ok css =>
    rw [hcss] at hread
    obtain ⟨u, hconvert⟩ := exists_runs_convertText verbose c css w
    cases hconversion : c.convertRules (Rule.ofCss css) with
    | error e =>
      rw [hconversion] at hconvert
      exact .inr ⟨.fault (.rounding e), u, hread.bind hconvert.bind_error⟩
    | ok conv =>
      rw [hconversion] at hconvert
      rcases runs_writeText_cases (styleSheetPath directory styleSheet) conv.text u with ⟨v, hwrite⟩ | ⟨e, hwrite⟩
      · obtain ⟨y, hsummary⟩ := tells_printSummary conv.report v
        obtain ⟨z, hprint⟩ := tells_print (styleSheet.stem ++ " USS written\n") y
        have hsame : u.files = w.files := hconvert.files
        exact .inl ⟨(), z, some ⟨u.files, _, _⟩, hread.bind (hconvert.bind (hwrite.bind (hsummary.bind hprint))),
          _, rfl, css, conv, hsame ▸ hcss, hconversion, rfl⟩
      · exact .inr ⟨.file e, u, hread.bind (hconvert.bind hwrite.bind_error)⟩

/-! ### What the loops write -/

section

variable {β γ : Type} {Step : γ → β → Option Write → Prop} {made : List γ} {ps : List (Option β × Option Write)}

theorem map_path_sublist {target : γ → Path} (htarget : ∀ c b x, Step c b (some x) → x.path = target c)
    (h : List.Forall₂ (fun c p => Attempted (Step c) p.1 p.2) made ps) :
    ((ps.filterMap Prod.snd).map Write.path).Sublist (made.map target) := by
  induction h with
  | nil => exact .slnil
  | @cons c p made ps hstep _ ih =>
    obtain ⟨out, x?⟩ := p
    cases x? with
    | none => exact ih.cons _
    | some x =>
      rcases hstep with ⟨b, -, hb⟩ | ⟨-, hnone⟩
      · have hfirst : ((out, some x) :: ps).filterMap Prod.snd = x :: ps.filterMap Prod.snd := rfl
        rw [hfirst, List.map_cons, List.map_cons, htarget c b x hb]
        exact ih.cons_cons _
      · cases hnone

theorem forall₂_of_all_isSome (h : List.Forall₂ (fun c p => Attempted (Step c) p.1 p.2) made ps)
    (hall : (ps.map Prod.fst).all Option.isSome = true) :
    List.Forall₂ (fun c p => ∃ b, p.1 = some b ∧ Step c b p.2) made ps := by
  induction h with
  | nil => exact .nil
  | @cons c p made ps hstep _ ih =>
    rw [List.map_cons, List.all_cons, Bool.and_eq_true] at hall
    refine .cons ?_ (ih hall.2)
    rcases hstep with hstep | ⟨hnone, -⟩
    · exact hstep
    · rw [hnone] at hall
      cases hall.1

theorem map_path_of_forall₂ {IsOutput : γ → Write → Prop} {target : γ → Path} {cs : List γ} {xs : List Write}
    (htarget : ∀ c x, IsOutput c x → x.path = target c) (h : List.Forall₂ IsOutput cs xs) :
    xs.map Write.path = cs.map target := by
  induction h with
  | nil => rfl
  | @cons c x cs xs hfirst _ ih => rw [List.map_cons, List.map_cons, htarget c x hfirst, ih]

theorem forall₂_filterMap_of_forall₂ {IsOutput : γ → Write → Prop}
    (h : List.Forall₂ (fun c p => ∃ x, p.2 = some x ∧ IsOutput c x) made ps) : List.Forall₂ IsOutput made (ps.filterMap Prod.snd) := by
  induction h with
  | nil => exact .nil
  | @cons c p made ps hstep _ ih =>
    obtain ⟨out, x?⟩ := p
    obtain ⟨x, rfl, houtput⟩ := hstep
    exact .cons houtput ih

theorem exists_runs_outputs {f : γ → Job Script Unit} {IsOutput : γ → Write → Prop} {target : γ → Path}
    (hf : ∀ c, (f c).Meets fun _ _ x? => ∃ x, x? = some x ∧ IsOutput c x) (htarget : ∀ c x, IsOutput c x → x.path = target c)
    (report : γ → FileError → Text) (cs : List γ) (w : World) :
    ∃ result u xs, (cs.mapM fun c => attempt (report c) (f c)).Runs w result u xs ∧
      (xs.map Write.path).Sublist (cs.map target) ∧
      ∀ outs, result = .ok outs → outs.all Option.isSome = true → List.Forall₂ IsOutput cs xs := by
  obtain ⟨result, u, made, rest, ps, hruns, rfl, hsteps, hresult⟩ := runs_mapM_attempt hf report cs w
  refine ⟨result, u, ps.filterMap Prod.snd, hruns, ?_, fun outs houts hall => ?_⟩
  · rw [List.map_append]
    refine (map_path_sublist (fun c b x hx => ?_) hsteps).trans (List.sublist_append_left _ _)
    obtain ⟨-, -, y, hy, houtput⟩ := hx
    rw [Option.some.inj hy]
    exact htarget c y houtput
  · obtain ⟨rfl, rfl⟩ := hresult outs houts
    rw [List.append_nil]
    refine forall₂_filterMap_of_forall₂ ((forall₂_of_all_isSome hsteps hall).imp fun c p hp => ?_)
    obtain ⟨-, -, -, -, houtput⟩ := hp
    exact houtput

end

theorem IsDocument.path {config : Config} {directory document : Path} {x : Write} (h : IsDocument config directory document x) :
    x.path = documentPath directory document := by
  obtain ⟨nodes, -, hx⟩ := h
  rw [hx]

theorem IsStyleSheet.path {c : Converter} {directory styleSheet : Path} {x : Write} (h : IsStyleSheet c directory styleSheet x) :
    x.path = styleSheetPath directory styleSheet := by
  obtain ⟨css, conv, -, -, hx⟩ := h
  rw [hx]

theorem exists_runs_convertDocuments (verbose : Bool) (config : Config) (directory : Path) (documents : List Path) (w : World) :
    ∃ result u xs, (convertDocuments verbose config directory documents).Runs w result u xs ∧
      (xs.map Write.path).Sublist (documents.map (documentPath directory)) ∧
      ∀ outs, result = .ok outs → outs.all Option.isSome = true → List.Forall₂ (IsDocument config directory) documents xs :=
  exists_runs_outputs (meets_convertDocument verbose config directory) (fun _ _ => IsDocument.path) documentFailure documents w

theorem exists_runs_convertStyleSheets (verbose : Bool) (c : Converter) (directory : Path) (styleSheets : List Path) (w : World) :
    ∃ result u xs, (convertStyleSheets verbose c directory styleSheets).Runs w result u xs ∧
      (xs.map Write.path).Sublist (styleSheets.map (styleSheetPath directory)) ∧
      ∀ outs, result = .ok outs → outs.all Option.isSome = true → List.Forall₂ (IsStyleSheet c directory) styleSheets xs :=
  exists_runs_outputs (meets_convertStyleSheet verbose c directory) (fun _ _ => IsStyleSheet.path) styleSheetFailure styleSheets w

/-- The documents whose styles are extracted. -/
def extractedFrom (r : BatchRequest) (documents : List Path) : List Path :=
  if r.extract && r.styleSheets.isEmpty then documents else []

theorem filterMap_join {Step : Path → Option Path → Option Write → Prop} {made : List Path}
    {ps : List (Option (Option Path) × Option Write)} (hstep : ∀ d out x?, Step d out x? → out = x?.map Write.path)
    (h : List.Forall₂ (fun c p => Attempted (Step c) p.1 p.2) made ps) :
    (ps.map Prod.fst).filterMap Option.join = (ps.filterMap Prod.snd).map Write.path := by
  induction h with
  | nil => rfl
  | @cons c p made ps hfirst _ ih =>
    obtain ⟨out, x?⟩ := p
    rcases hfirst with ⟨out, rfl, hout⟩ | ⟨rfl, rfl⟩
    · rw [hstep c out x? hout]
      cases x? with
      | none => exact ih
      | some x => exact congrArg (x.path :: ·) ih
    · exact ih

theorem exists_runs_extractAll (r : BatchRequest) (directory : Path) (documents : List Path) (w : World) :
    ∃ result u xs, (extractAll r directory documents).Runs w result u xs ∧
      (xs.map Write.path).Sublist ((extractedFrom r documents).map (extractedPath r directory)) ∧
      ∀ outs, result = .ok outs → outs.filterMap Option.join = xs.map Write.path ∧
        (outs.all Option.isSome = true → ∃ x?s, List.Forall₂ (fun document x? => ∃ files ∈ Write.moments xs u.files,
          IsExtraction files r directory document x?) (extractedFrom r documents) x?s ∧ xs = x?s.filterMap id) := by
  rw [extractAll, extractedFrom]
  split
  · obtain ⟨v, hprint⟩ := tells_print "Extracting CSS from HTML files...\n" w
    obtain ⟨result, u, made, rest, ps, hruns, rfl, hsteps, hresult⟩ :=
      runs_mapM_attempt (meets_extract r directory) extractionFailure documents v
    refine ⟨result, u, ps.filterMap Prod.snd, hprint.bind hruns, ?_, fun outs houts => ?_⟩
    · rw [List.map_append]
      refine (map_path_sublist (fun d out x hx => ?_) hsteps).trans (List.sublist_append_left _ _)
      obtain ⟨files, -, ⟨nodes, -, hx⟩, -⟩ := hx
      split at hx
      · cases hx
      · rw [Option.some.inj hx]
    · obtain ⟨rfl, rfl⟩ := hresult outs houts
      refine ⟨filterMap_join (fun d out x? hx => ?_) hsteps, fun hall => ⟨ps.map Prod.snd, ?_, ?_⟩⟩
      · obtain ⟨files, -, -, hpath⟩ := hx
        exact hpath
      · rw [List.append_nil, List.forall₂_map_right_iff]
        refine (forall₂_of_all_isSome hsteps hall).imp fun d p hp => ?_
        obtain ⟨out, -, files, hfiles, hextraction, -⟩ := hp
        exact ⟨files, hfiles, hextraction⟩
      · rw [List.filterMap_map]
        rfl
  · refine ⟨.ok [], w, [], runs_pure [] w, .slnil, fun outs houts => ?_⟩
    obtain rfl := Except.ok.inj houts
    exact ⟨rfl, fun _ => ⟨[], .nil, rfl⟩⟩

/-! ### What a batch writes -/

/-- The writes of a batch: the styles of documents, documents and style sheets. -/
structure Outputs where
  extracted : List Write
  documents : List Write
  styleSheets : List Write

namespace Outputs

def all (o : Outputs) : List Write := o.extracted ++ (o.documents ++ o.styleSheets)

/-- The style sheets that were there to be converted. -/
def sources (r : BatchRequest) (o : Outputs) : List Path := Batch.styleSheets r (o.extracted.map Write.path)

/-- Each write is to the path of an input, in their order. -/
structure FitsIn (r : BatchRequest) (directory : Path) (o : Outputs) : Prop where
  extracted : (o.extracted.map Write.path).Sublist
    ((extractedFrom r (r.documents.map Path.ofText)).map (extractedPath r directory))
  documents : (o.documents.map Write.path).Sublist ((r.documents.map Path.ofText).map (documentPath directory))
  styleSheets : (o.styleSheets.map Write.path).Sublist ((o.sources r).map (styleSheetPath directory))

/-- Every input is there with what it comes to, up to the files that there are in the end. -/
structure IsComplete (c : Converter) (r : BatchRequest) (directory : Path) (final : FileTree) (o : Outputs) : Prop where
  extracted : ∃ x?s, List.Forall₂ (fun document x? => ∃ files ∈ Write.moments o.all final,
    IsExtraction files r directory document x?) (extractedFrom r (r.documents.map Path.ofText)) x?s ∧ o.extracted = x?s.filterMap id
  documents : List.Forall₂ (IsDocument c.config directory) (r.documents.map Path.ofText) o.documents
  styleSheets : List.Forall₂ (IsStyleSheet c directory) (o.sources r) o.styleSheets

/-- No two documents have the same stem, and no two style sheets. -/
def StemsDiffer (r : BatchRequest) (o : Outputs) : Prop :=
  ((r.documents.map Path.ofText).map Path.stem).Nodup ∧ ((o.sources r).map Path.stem).Nodup

end Outputs

theorem exists_runs_convertAll (verbose : Bool) (c : Converter) (r : BatchRequest) (directory : Path) (w : World) :
    ∃ result u, ∃ o : Outputs, (convertAll verbose c r directory).Runs w result u o.all ∧ o.FitsIn r directory ∧
      (result = .ok true → o.IsComplete c r directory u.files) := by
  obtain ⟨extracted, u₁, xs, hextract, hxs, hextracted⟩ := exists_runs_extractAll r directory (r.documents.map Path.ofText) w
  rw [convertAll_eq]
  cases extracted with
  | error failure =>
    refine ⟨.error failure, u₁, ⟨xs, [], []⟩, ?_, ⟨hxs, List.nil_sublist _, List.nil_sublist _⟩, fun hall => by cases hall⟩
    rw [Outputs.all, List.append_nil, List.append_nil]
    exact hextract.bind_error
  | ok extracted =>
    obtain ⟨hsources, hextracted⟩ := hextracted extracted rfl
    obtain ⟨converted, u₂, ys, hconvert, hys, hconverted⟩ :=
      exists_runs_convertDocuments verbose c.config directory (r.documents.map Path.ofText) u₁
    cases converted with
    | error failure =>
      refine ⟨.error failure, u₂, ⟨xs, ys, []⟩, ?_, ⟨hxs, hys, List.nil_sublist _⟩, fun hall => by cases hall⟩
      rw [Outputs.all, List.append_nil]
      exact hextract.bind hconvert.bind_error
    | ok converted =>
      obtain ⟨styled, u₃, zs, hstyle, hzs, hstyled⟩ :=
        exists_runs_convertStyleSheets verbose c directory (styleSheets r (extracted.filterMap Option.join)) u₂
      rw [hsources] at hzs hstyled
      cases styled with
      | error failure =>
        refine ⟨.error failure, u₃, ⟨xs, ys, zs⟩, ?_, ⟨hxs, hys, hzs⟩, fun hall => by cases hall⟩
        exact hextract.bind (hconvert.bind hstyle.bind_error)
      | ok styled =>
        refine ⟨.ok (extracted.all Option.isSome && converted.all Option.isSome && styled.all Option.isSome), u₃,
          ⟨xs, ys, zs⟩, ?_, ⟨hxs, hys, hzs⟩, fun hall => ?_⟩
        · rw [Outputs.all, ← List.append_nil zs]
          exact hextract.bind (hconvert.bind (hstyle.bind (runs_pure _ u₃)))
        · have hall := Except.ok.inj hall
          rw [Bool.and_eq_true, Bool.and_eq_true] at hall
          obtain ⟨x?s, hx?s, hxs⟩ := hextracted hall.1.1
          -- what extraction leaves is what the documents start from
          have hmoment : u₁.files ∈ Write.moments (ys ++ zs) u₃.files :=
            Write.moments_subset_append ys hstyle.mem_moments hconvert.mem_moments
          refine ⟨⟨x?s, hx?s.imp fun document x? ⟨files, hfiles, hx?⟩ => ⟨files, ?_, hx?⟩, hxs⟩,
            hconverted converted rfl hall.1.2, hstyled styled rfl hall.2⟩
          exact Write.moments_subset_append _ hmoment hfiles

theorem exists_leads_run (verbose : Bool) (r : BatchRequest) (w : World) :
    ∃ result u, ∃ o : Outputs, (run verbose r).Leads w result u o.all ∧ o.FitsIn r (Path.ofText r.output) ∧
      (result = .ok true → ∃ c, ((readConverter r.settings : Job Script Converter).run.within w).1 = .ok c ∧
        o.IsComplete c r (Path.ofText r.output) u.files) := by
  have hnothing : (⟨[], [], []⟩ : Outputs).FitsIn r (Path.ofText r.output) :=
    ⟨List.nil_sublist _, List.nil_sublist _, List.nil_sublist _⟩
  have hsettings := (isSilent_readConverter r.settings).leads w
  rw [run]
  cases hconverter : ((readConverter r.settings : Job Script Converter).run.within w).1 with
  | error failure =>
    rw [hconverter] at hsettings
    exact ⟨.error failure, _, ⟨[], [], []⟩, hsettings.bind_error, hnothing, fun hall => by cases hall⟩
  | ok c =>
    rw [hconverter] at hsettings
    have hdirectory := (isSilent_makeDirectory (Path.ofText r.output)).leads
      ((readConverter r.settings : Job Script Converter).run.within w).2
    generalize ((Host.makeDirectory (Path.ofText r.output) : Job Script (Except FileError Unit)).run.within _) = made at hdirectory
    obtain ⟨failure | e | ⟨⟩, v⟩ := made
    · exact ⟨.error failure, v, ⟨[], [], []⟩, hsettings.bind hdirectory.bind_error, hnothing, fun hall => by cases hall⟩
    · -- the directory cannot be made: nothing is written
      obtain ⟨z, hwarn⟩ := tells_warn (directoryFailure (Path.ofText r.output) e) v
      exact ⟨.ok false, z, ⟨[], [], []⟩, hsettings.bind (hdirectory.bind (hwarn.toLeads.bind (runs_pure false z).toLeads)),
        hnothing, fun hall => by cases hall⟩
    · obtain ⟨result, u, o, hruns, hfits, hcomplete⟩ := exists_runs_convertAll verbose c r (Path.ofText r.output) v
      exact ⟨result, u, o, hsettings.bind (hdirectory.bind hruns.toLeads), hfits, fun hresult => ⟨c, rfl, hcomplete hresult⟩⟩

/-! ### Names of outputs -/

theorem exists_name_extractedPath (r : BatchRequest) (directory document : Path) :
    ∃ base, (extractedPath r directory document).name = base ++ ".css" :=
  Path.exists_name_join (by decide) (by decide) directory _

theorem name_documentPath (directory : Path) {document : Path} (h : document.IsSplit) :
    (documentPath directory document).name = document.stem ++ ".uxml" :=
  Path.name_join (by decide) (by decide) directory h.stem

theorem name_styleSheetPath (directory : Path) {styleSheet : Path} (h : styleSheet.IsSplit) :
    (styleSheetPath directory styleSheet).name = styleSheet.stem ++ ".uss" :=
  Path.name_join (by decide) (by decide) directory h.stem

/-- The names of all files that are written end in `suffix`. -/
def EndIn (suffix : Text) (xs : List Write) : Prop := ∀ x ∈ xs, ∃ base, x.path.name = base ++ suffix

theorem EndIn.isProper {suffix : Text} {xs : List Write} (h : EndIn suffix xs) (hlength : 2 < suffix.length) :
    ∀ x ∈ xs, FileTree.IsProper x.path.name := by
  intro x hx
  obtain ⟨base, hbase⟩ := h x hx
  exact hbase ▸ Path.isProper_append hlength base

theorem EndIn.name_ne {s t : Text} {xs ys : List Write} (hxs : EndIn s xs) (hys : EndIn t ys) (hs : '.' ∈ s) (ht : '.' ∈ t)
    (hne : Path.suffix s ≠ Path.suffix t) :
    ∀ name ∈ xs.map (·.path.name), ∀ name' ∈ ys.map (·.path.name), name ≠ name' := by
  simp only [List.forall_mem_map]
  intro x hx y hy heq
  obtain ⟨base, hbase⟩ := hxs x hx
  obtain ⟨base', hbase'⟩ := hys y hy
  rw [hbase, hbase'] at heq
  have hsuffix := congrArg Path.suffix heq
  rw [Path.suffix_append base hs, Path.suffix_append base' ht] at hsuffix
  exact hne hsuffix

section

variable {xs : List Write} {ps : List Path} {target : Path → Path} {suffix : Text}
  (hpaths : (xs.map Write.path).Sublist (ps.map target)) (hname : ∀ p ∈ ps, (target p).name = p.stem ++ suffix)
include hpaths hname

theorem endIn_of_sublist : EndIn suffix xs := by
  intro x hx
  obtain ⟨p, hp, htarget⟩ := List.mem_map.mp (hpaths.subset (List.mem_map_of_mem hx))
  exact ⟨p.stem, htarget ▸ hname p hp⟩

theorem nodup_names_of_sublist (hstems : (ps.map Path.stem).Nodup) : (xs.map (·.path.name)).Nodup := by
  have hnames : ((xs.map Write.path).map Path.name).Nodup := by
    refine List.Nodup.sublist (hpaths.map Path.name) ?_
    have htargets : (ps.map target).map Path.name = (ps.map Path.stem).map (· ++ suffix) := by
      rw [List.map_map, List.map_map]
      exact List.map_congr_left hname
    rw [htargets]
    exact hstems.map (List.append_left_injective suffix)
  rwa [List.map_map] at hnames

end

namespace Outputs

variable {r : BatchRequest} {o : Outputs}

theorem name_of_mem_documents : ∀ p ∈ r.documents.map Path.ofText,
    (documentPath (Path.ofText r.output) p).name = p.stem ++ ".uxml" := by
  simp only [List.forall_mem_map]
  exact fun path _ => name_documentPath _ (Path.isSplit_ofText path)

section

variable (h : o.FitsIn r (Path.ofText r.output))
include h

theorem FitsIn.isSplit_sources : ∀ p ∈ o.sources r, p.IsSplit := by
  intro p hp
  rw [sources, Batch.styleSheets, List.mem_append, List.mem_append] at hp
  rcases hp with (hp | hp) | hp
  · obtain ⟨path, -, rfl⟩ := List.mem_map.mp hp
    exact Path.isSplit_ofText path
  · obtain ⟨document, -, rfl⟩ := List.mem_map.mp (h.extracted.subset hp)
    exact (Path.isSplit_ofText r.output).join _
  · obtain ⟨path, -, rfl⟩ := List.mem_map.mp hp
    exact Path.isSplit_ofText path

theorem FitsIn.name_of_mem_sources : ∀ p ∈ o.sources r, (styleSheetPath (Path.ofText r.output) p).name = p.stem ++ ".uss" :=
  fun p hp => name_styleSheetPath _ (h.isSplit_sources p hp)

theorem FitsIn.endIn_extracted : EndIn ".css" o.extracted := by
  intro x hx
  obtain ⟨document, -, htarget⟩ := List.mem_map.mp (h.extracted.subset (List.mem_map_of_mem hx))
  exact htarget ▸ exists_name_extractedPath r _ document

theorem FitsIn.endIn_documents : EndIn ".uxml" o.documents := endIn_of_sublist h.documents name_of_mem_documents

theorem FitsIn.endIn_styleSheets : EndIn ".uss" o.styleSheets := endIn_of_sublist h.styleSheets h.name_of_mem_sources

theorem FitsIn.isProper : ∀ x ∈ o.all, FileTree.IsProper x.path.name := by
  rw [all]
  exact List.forall_mem_append.mpr ⟨h.endIn_extracted.isProper (by decide),
    List.forall_mem_append.mpr ⟨h.endIn_documents.isProper (by decide), h.endIn_styleSheets.isProper (by decide)⟩⟩

end

/-- A name tells the stem, so extracted styles that are converted under different stems have different names. -/
theorem StemsDiffer.nodup_extracted (hstems : o.StemsDiffer r) : (o.extracted.map (·.path.name)).Nodup := by
  have hsources : (o.extracted.map Write.path).Sublist (o.sources r) := by
    rw [sources, Batch.styleSheets, List.append_assoc]
    exact (List.sublist_append_left _ _).trans (List.sublist_append_right _ _)
  have hnodup := hstems.2.sublist (hsources.map Path.stem)
  rw [List.map_map] at hnodup
  exact List.pairwise_map.mpr ((List.pairwise_map.mp hnodup).imp fun hne hname => hne (Path.stem_eq_of_name_eq hname))

theorem FitsIn.nodup_names (h : o.FitsIn r (Path.ofText r.output)) (hstems : o.StemsDiffer r) :
    (o.all.map (·.path.name)).Nodup := by
  have hdocuments := nodup_names_of_sublist h.documents name_of_mem_documents hstems.1
  have hstyleSheets := nodup_names_of_sublist h.styleSheets h.name_of_mem_sources hstems.2
  rw [all, List.map_append, List.map_append, List.nodup_append, List.nodup_append]
  -- names of different kinds end in different suffixes
  refine ⟨hstems.nodup_extracted, ⟨hdocuments, hstyleSheets, ?_⟩, ?_⟩
  · exact h.endIn_documents.name_ne h.endIn_styleSheets (by decide) (by decide) (by decide)
  · refine fun name hname => List.forall_mem_append.mpr ⟨?_, ?_⟩
    · exact h.endIn_extracted.name_ne h.endIn_documents (by decide) (by decide) (by decide) name hname
    · exact h.endIn_extracted.name_ne h.endIn_styleSheets (by decide) (by decide) (by decide) name hname

/-- Two outputs of one kind whose inputs have the same stem go to the same path. -/
theorem IsComplete.stemsDiffer {c : Converter} {directory : Path} {final : FileTree} (h : o.IsComplete c r directory final)
    (hnodup : (o.all.map Write.path).Nodup) : o.StemsDiffer r := by
  rw [all, List.map_append, List.map_append, List.nodup_append, List.nodup_append] at hnodup
  obtain ⟨-, ⟨hdocuments, hstyleSheets, -⟩, -⟩ := hnodup
  have hwritten : o.documents.map Write.path = (r.documents.map Path.ofText).map (documentPath directory) :=
    map_path_of_forall₂ (fun _ _ => IsDocument.path) h.documents
  have hstyled : o.styleSheets.map Write.path = (o.sources r).map (styleSheetPath directory) :=
    map_path_of_forall₂ (fun _ _ => IsStyleSheet.path) h.styleSheets
  rw [hwritten] at hdocuments
  rw [hstyled] at hstyleSheets
  constructor
  · refine List.Nodup.of_map (fun stem => directory.join (stem ++ ".uxml")) ?_
    rwa [List.map_map]
  · refine List.Nodup.of_map (fun stem => directory.join (stem ++ ".uss")) ?_
    rwa [List.map_map]

end Outputs

end Batch

/-! ### Whole runs -/

namespace Request

open Batch Text

/-- The writes of a request in a world, in their order. -/
def writes (request : Request) (w : World) : List Write := (request.answer : Script Status).writes w

theorem within_script (request : Request) (w : World) : (request.answer : Script Status).within w = request.within w := by
  rw [Script.within, follow_answer, within]

theorem writes_firstProblem? (demands : List Demand) (w : World) :
    (Demand.firstProblem? demands : Script (Option UsageError)).writes w = [] ∧
      ((Demand.firstProblem? demands : Script (Option UsageError)).within w).2 = w := by
  induction demands with
  | nil => exact ⟨rfl, rfl⟩
  | cons d ds ih =>
    have hkind : (Host.kind? d.path : Script (Option FileKind)).within w = (w.files.kind? d.path, w) := rfl
    have hnone : (Host.kind? d.path : Script (Option FileKind)).writes w = [] := rfl
    have hmay : (Host.mayRead d.path : Script Bool).within w = (true, w) := rfl
    have hmayNone : (Host.mayRead d.path : Script Bool).writes w = [] := rfl
    rw [Demand.firstProblem?, Script.writes_bind, Script.within_bind, hkind, hnone]
    dsimp only
    rw [Script.writes_bind, Script.within_bind, hmay, hmayNone]
    dsimp only
    cases d.problem? (w.files.kind? d.path) true with
    | some e => exact ⟨rfl, rfl⟩
    | none => exact ih

theorem writes_settle (result : Except Failure Bool) (w : World) : (settle result : Script Status).writes w = [] ∧
    ((settle result : Script Status).within w).2.files = w.files := by
  cases result with
  | ok succeeded => exact ⟨rfl, rfl⟩
  | error failure =>
    rw [settle]
    cases failure.message <;> exact ⟨rfl, rfl⟩

theorem eq_ok_true_of_settle {result : Except Failure Bool} {w : World}
    (h : ((settle result : Script Status).within w).1 = .exit 0) : result = .ok true := by
  cases result with
  | ok succeeded =>
    cases succeeded with
    | true => rfl
    | false => cases h
  | error failure =>
    rw [settle] at h
    cases hmessage : failure.message with
    | ok message =>
      rw [hmessage] at h
      cases h
    | error fault =>
      rw [hmessage] at h
      cases h

theorem exists_outputs (verbose : Bool) (r : BatchRequest) (w : World) :
    ∃ o : Outputs, (Request.run verbose (.convert r)).writes w = o.all ∧ o.FitsIn r (Path.ofText r.output) ∧
      (((Request.run verbose (.convert r)).within w).1 = .exit 0 →
        ∃ c, ((Job.readConverter r.settings : Job Script Converter).run.within w).1 = .ok c ∧
          o.IsComplete c r (Path.ofText r.output) ((Request.run verbose (.convert r)).within w).2.files) := by
  obtain ⟨hnone, hsame⟩ := writes_firstProblem? (Command.convert r).demands w
  rw [← within_script, writes, answer, Script.writes_bind, Script.within_bind, hnone, hsame, List.nil_append]
  cases ((Demand.firstProblem? (Command.convert r).demands : Script (Option UsageError)).within w).1 with
  | some problem =>
    exact ⟨⟨[], [], []⟩, rfl, ⟨List.nil_sublist _, List.nil_sublist _, List.nil_sublist _⟩, fun hexit => by cases hexit⟩
  | none =>
    obtain ⟨result, u, o, hruns, hfits, hcomplete⟩ := exists_leads_run verbose r w
    have hperform : ((Command.convert r).perform verbose : Job Script Bool).Leads w result u o.all := hruns
    dsimp only
    rw [Script.writes_bind, Script.within_bind, hperform.within, hperform.writes, (writes_settle result u).1,
      (writes_settle result u).2, List.append_nil]
    exact ⟨o, rfl, hfits, fun hexit => hcomplete (eq_ok_true_of_settle hexit)⟩

/-- Outputs take the place of each other exactly when two documents, or two style sheets, have the same stem. -/
theorem writes_nodup_iff_stemsDiffer (verbose : Bool) (r : BatchRequest) (w : World) :
    ∃ o : Outputs, (Request.run verbose (.convert r)).writes w = o.all ∧ o.FitsIn r (Path.ofText r.output) ∧
      (o.StemsDiffer r → (o.all.map Write.path).Nodup ∧
        ∀ x ∈ o.all, ((Request.run verbose (.convert r)).within w).2.files.read x.path = .ok (utf8 x.text)) ∧
      (((Request.run verbose (.convert r)).within w).1 = .exit 0 →
        ((o.all.map Write.path).Nodup ↔ o.StemsDiffer r) ∧
          ∃ c, ((Job.readConverter r.settings : Job Script Converter).run.within w).1 = .ok c ∧
            o.IsComplete c r (Path.ofText r.output) ((Request.run verbose (.convert r)).within w).2.files) := by
  obtain ⟨o, hwrites, hfits, hcomplete⟩ := exists_outputs verbose r w
  have honce : o.StemsDiffer r → (o.all.map Write.path).Nodup := fun hstems => by
    have hnames := hfits.nodup_names hstems
    rw [← Function.comp_def Path.name Write.path, ← List.map_map] at hnames
    exact hnames.of_map
  refine ⟨o, hwrites, hfits, fun hstems => ⟨honce hstems, ?_⟩, fun hexit => ?_⟩
  · rw [← hwrites, ← within_script]
    refine Script.read_writes (Script.pairwise_place ?_ ?_) <;> rw [← writes, hwrites]
    · exact hfits.isProper
    · exact hfits.nodup_names hstems
  · obtain ⟨c, hsettings, hall⟩ := hcomplete hexit
    exact ⟨⟨hall.stemsDiffer, honce⟩, c, hsettings, hall⟩

/-! ### Pages in several directories -/

def pageTree : FileTree :=
  ⟨[(["a"], .directory), (["a", "x.html"], .file (utf8 "<style>.a { color: red; }</style><p>a</p>")),
    (["b"], .directory), (["b", "x.html"], .file (utf8 "<p>b</p>")), (["b", "y.html"], .file (utf8 "<style>b</style><p>b</p>")),
    (["c"], .directory), (["c", "x.html"], .file (utf8 "<p>c</p>")), (["c", "x-styles.css"], .file (utf8 "c"))]⟩

def pageBatch (documents : List Text) (reset? outputName? : Option Text) : BatchRequest where
  documents := documents
  styleSheets := []
  reset? := reset?
  settings := ⟨none, none, none⟩
  output := "out"
  extract := true
  outputName? := outputName?

/-- What comes of two of the pages. -/
def pagePaths : List Path :=
  [Path.ofText "out/y-styles.css", Path.ofText "out/y.uxml", Path.ofText "out/x.uxml", Path.ofText "out/y-styles.uss"]

theorem writes_nodup_iff_stemsDiffer_pages :
    ((Request.run false (.convert (pageBatch ["b/y.html", "c/x.html"] none none))).within (.ofFiles pageTree)).1 = .exit 0 ∧
      ∃ o : Outputs, o.all.map Write.path = pagePaths ∧ o.StemsDiffer (pageBatch ["b/y.html", "c/x.html"] none none) ∧
        ∀ x ∈ o.all, ((Request.run false (.convert (pageBatch ["b/y.html", "c/x.html"] none none))).within
          (.ofFiles pageTree)).2.files.read x.path = .ok (utf8 x.text) := by
  obtain ⟨o, hwrites, -, hkept, hcomplete⟩ :=
    writes_nodup_iff_stemsDiffer false (pageBatch ["b/y.html", "c/x.html"] none none) (.ofFiles pageTree)
  have hexit : ((Request.run false (.convert (pageBatch ["b/y.html", "c/x.html"] none none))).within (.ofFiles pageTree)).1 =
      .exit 0 := by decide +kernel
  have hpaths : ((Request.run false (.convert (pageBatch ["b/y.html", "c/x.html"] none none))).writes (.ofFiles pageTree)).map
      Write.path = pagePaths := by decide +kernel
  rw [hwrites] at hpaths
  have hnodup : (o.all.map Write.path).Nodup := by
    rw [hpaths]
    decide
  have hstems := (hcomplete hexit).1.mp hnodup
  exact ⟨hexit, o, hpaths, hstems, (hkept hstems).2⟩

/-- The request reports no failure, and a text that it wrote is not there in the end. -/
def Loses (request : Request) (w : World) : Prop :=
  (request.within w).1 = .exit 0 ∧ ∃ x ∈ request.writes w, (request.within w).2.files.read x.path ≠ .ok (utf8 x.text)

instance (request : Request) (w : World) : Decidable (request.Loses w) := inferInstanceAs (Decidable (_ ∧ _))

/-- Two documents with the same stem, one name for the styles of two documents, a reset file with the stem of other styles. -/
theorem loses_pages :
    (Request.run false (.convert (pageBatch ["b/x.html", "c/x.html"] none none))).Loses (.ofFiles pageTree) ∧
      (Request.run false (.convert (pageBatch ["a/x.html", "b/y.html"] none (some "main")))).Loses (.ofFiles pageTree) ∧
      (Request.run false (.convert (pageBatch ["a/x.html"] (some "c/x-styles.css") none))).Loses (.ofFiles pageTree) := by
  decide +kernel

end Request

end UiToolkit
