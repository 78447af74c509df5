import UiToolkit.Proofs.FileTrees
import UiToolkit.Proofs.Scripts

/-!
# The writes of a script

Followed in a world, a script writes certain files one after the other. A file is in the end as it was last written, so when all writes go to different places nothing that was written is lost.
-/

namespace UiToolkit

open Text

/-- A text that was written to a path, and the files before that. -/
structure Write where
  before : FileTree
  path : Path
  text : Text
  deriving DecidableEq

namespace Write

def place (x : Write) : Except FileError Place := x.before.place x.path

/-- The files before each of the writes, and those in the end. -/
def moments (xs : List Write) (final : FileTree) : List FileTree := xs.map before ++ [final]

theorem moments_append_subset (xs ys : List Write) (final : FileTree) : moments ys final ⊆ moments (xs ++ ys) final := by
  rw [moments, moments, List.map_append, List.append_assoc]
  exact List.subset_append_right _ _

theorem moments_subset_append (xs : List Write) {ys : List Write} {middle final : FileTree} (h : middle ∈ moments ys final) :
    moments xs middle ⊆ moments (xs ++ ys) final := by
  rw [moments, moments, List.map_append, List.append_assoc]
  refine List.append_subset.mpr ⟨List.subset_append_left _ _, List.cons_subset.mpr ⟨?_, List.nil_subset _⟩⟩
  exact List.mem_append_right _ h

end Write

namespace Call

/-- What a call comes to in a world, and the world after it. -/
def within (c : Call) (w : World) : c.Answer × World := StateT.run (m := Id) c.make w

/-- The file that a call writes, if it is one to write and can be carried out. -/
def writes (c : Call) (files : FileTree) : List Write :=
  match c with
  | .write path text =>
    match files.write path text with
    | .ok _ => [⟨files, path, text⟩]
    | .error _ => []
  | _ => []

end Call

namespace Script

variable {α β : Type}

/-- What a script comes to in a world, and the world after it. -/
def within (s : Script α) (w : World) : α × World := StateT.run (m := Id) s.follow w

def writes : Script α → World → List Write
  | .done _, _ => []
  | .call c next, w => c.writes w.files ++ (next (c.within w).1).writes (c.within w).2

theorem within_call (c : Call) (next : c.Answer → Script α) (w : World) :
    (call c next).within w = (next (c.within w).1).within (c.within w).2 := rfl

theorem within_bind (s : Script α) (f : α → Script β) (w : World) :
    (s >>= f).within w = (f (s.within w).1).within (s.within w).2 := by
  rw [within, follow_bind]
  rfl

theorem writes_bind (s : Script α) (f : α → Script β) (w : World) :
    (s >>= f).writes w = s.writes w ++ (f (s.within w).1).writes (s.within w).2 := by
  induction s generalizing w with
  | done a => rfl
  | call c next ih =>
    have hstep : (call c next >>= f).writes w = c.writes w.files ++ (next (c.within w).1 >>= f).writes (c.within w).2 := rfl
    rw [hstep, ih, writes, within_call, List.append_assoc]

end Script

/-! ### What stays written -/

open FileTree

/-- What a call can do to files: nothing, make a directory, or write one file. -/
theorem Call.files_cases (c : Call) (w : World) :
    (c.writes w.files = [] ∧ (c.within w).2.files = w.files) ∨
      (c.writes w.files = [] ∧ ∃ path, w.files.createDirectory path = .ok (c.within w).2.files) ∨
      ∃ path text, c.writes w.files = [⟨w.files, path, text⟩] ∧ w.files.write path text = .ok (c.within w).2.files := by
  cases c with
  | kind? path => exact .inl ⟨rfl, rfl⟩
  | mayRead path => exact .inl ⟨rfl, rfl⟩
  | read path => exact .inl ⟨rfl, rfl⟩
  | write path text =>
    have hafter : (Call.write path text).within w = World.change (·.write path text) w := rfl
    rw [hafter, World.change, writes]
    cases hwrite : w.files.write path text with
    | ok files => exact .inr (.inr ⟨path, text, rfl, hwrite⟩)
    | error e => exact .inl ⟨rfl, rfl⟩
  | createDirectory path =>
    have hafter : (Call.createDirectory path).within w = World.change (·.createDirectory path) w := rfl
    rw [hafter, World.change]
    cases hcreate : w.files.createDirectory path with
    | ok files => exact .inr (.inl ⟨rfl, path, hcreate⟩)
    | error e => exact .inl ⟨rfl, rfl⟩
  | print text => exact .inl ⟨rfl, rfl⟩
  | warn text => exact .inl ⟨rfl, rfl⟩

theorem Call.keeps_within (c : Call) (w : World) : w.files.Keeps (c.within w).2.files := by
  rcases c.files_cases w with ⟨-, hsame⟩ | ⟨-, path, hcreate⟩ | ⟨path, text, -, hwrite⟩
  · rw [hsame]
    exact fun _ h => h
  · obtain ⟨place, -, hnode, hput⟩ := exists_put_of_createDirectory hcreate
    rw [hput]
    exact keeps_put (by simp [hnode])
  · obtain ⟨place, -, hnode, hput⟩ := exists_put_of_write hwrite
    rw [hput]
    exact keeps_put hnode

section

variable {α : Type} {p : Path} {bytes : List UInt8}

theorem Call.read_within {c : Call} {w : World} (hread : w.files.read p = .ok bytes)
    (hplaces : ∀ x ∈ c.writes w.files, w.files.place p ≠ x.place) : (c.within w).2.files.read p = .ok bytes := by
  rcases c.files_cases w with ⟨-, hsame⟩ | ⟨-, path, hcreate⟩ | ⟨path, text, hwrites, hwrite⟩
  · rw [hsame, hread]
  · exact read_of_createDirectory hcreate hread
  · exact read_of_write hwrite hread (hplaces ⟨w.files, path, text⟩ (by rw [hwrites]; exact List.mem_singleton_self _))

/-- A file is read as it was, as long as its place is not written. -/
theorem Script.read_within {s : Script α} {w : World} (hread : w.files.read p = .ok bytes)
    (hplaces : ∀ x ∈ s.writes w, w.files.place p ≠ x.place) : (s.within w).2.files.read p = .ok bytes := by
  induction s generalizing w with
  | done a => exact hread
  | call c next ih =>
    rw [writes, List.forall_mem_append] at hplaces
    obtain ⟨hcall, hrest⟩ := hplaces
    obtain ⟨place, hplace, -⟩ := read_eq_ok.mp hread
    have hafter : (c.within w).2.files.place p = w.files.place p := by
      rw [hplace, place_of_keeps (c.keeps_within w) hplace]
    exact @ih (c.within w).1 (c.within w).2 (Call.read_within hread hcall) (by rwa [hafter])

/-- Where no place is written twice, every text that was written is there in the end. -/
theorem Script.read_writes {s : Script α} {w : World} (hplaces : (s.writes w).Pairwise fun x y => x.place ≠ y.place) :
    ∀ x ∈ s.writes w, (s.within w).2.files.read x.path = .ok (utf8 x.text) := by
  induction s generalizing w with
  | done a => simp [writes]
  | call c next ih =>
    rw [writes, List.pairwise_append] at hplaces
    obtain ⟨-, hrest, hbetween⟩ := hplaces
    rw [writes, List.forall_mem_append]
    refine ⟨fun x hx => ?_, @ih (c.within w).1 (c.within w).2 hrest⟩
    rcases c.files_cases w with ⟨hnone, -⟩ | ⟨hnone, -⟩ | ⟨path, text, hwrites, hwrite⟩
    · rw [hnone] at hx
      cases hx
    · rw [hnone] at hx
      cases hx
    · -- the text is there after the call, and no later write goes to its place
      have hbehind := hbetween x hx
      rw [hwrites, List.mem_singleton] at hx
      subst hx
      obtain ⟨place, hplace, -, -⟩ := exists_put_of_write hwrite
      refine @Script.read_within α path _ (next (c.within w).1) (c.within w).2 (read_write hwrite) fun y hy => ?_
      rw [place_of_keeps (c.keeps_within w) hplace, ← hplace]
      exact hbehind y hy

end

theorem Script.exists_place {α : Type} {s : Script α} {w : World} : ∀ x ∈ s.writes w, ∃ place, x.place = .ok place := by
  induction s generalizing w with
  | done a => simp [writes]
  | call c next ih =>
    rw [writes, List.forall_mem_append]
    refine ⟨fun x hx => ?_, ih _⟩
    rcases c.files_cases w with ⟨hnone, -⟩ | ⟨hnone, -⟩ | ⟨path, text, hwrites, hwrite⟩
    · rw [hnone] at hx
      cases hx
    · rw [hnone] at hx
      cases hx
    · rw [hwrites, List.mem_singleton] at hx
      subst hx
      obtain ⟨place, hplace, -⟩ := exists_put_of_write hwrite
      exact ⟨place, hplace⟩

/-- Writes to paths that end in different names go to different places. -/
theorem Script.pairwise_place {α : Type} {s : Script α} {w : World} (hproper : ∀ x ∈ s.writes w, IsProper x.path.name)
    (hnames : ((s.writes w).map fun x => x.path.name).Nodup) : (s.writes w).Pairwise fun x y => x.place ≠ y.place := by
  refine (List.pairwise_map.mp hnames).imp_of_mem fun {x y} hx hy hne heq => hne ?_
  obtain ⟨place, hplace⟩ := exists_place x hx
  have hname : ∀ z ∈ s.writes w, z.place = .ok place → place.getLast? = some z.path.name :=
    fun z hz => getLast?_place (hproper z hz)
  exact Option.some.inj ((hname x hx hplace).symm.trans (hname y hy (heq.symm.trans hplace)))

/-! ### The writes of jobs -/

namespace Job

variable {α β : Type}

/-- In the world `w` the job comes to a result and makes the writes `xs`, which leaves the world `u`. -/
structure Leads (job : Job Script α) (w : World) (result : Except Failure α) (u : World) (xs : List Write) : Prop where
  within : job.run.within w = (result, u)
  writes : job.run.writes w = xs

/-- The job changes files by its writes alone. -/
structure Runs (job : Job Script α) (w : World) (result : Except Failure α) (u : World) (xs : List Write) : Prop
    extends Leads job w result u xs where
  files : (xs.map Write.before).headD u.files = w.files

section

variable {job : Job Script α} {w u v : World} {xs ys : List Write}

theorem Leads.bind {a : α} {f : α → Job Script β} {result : Except Failure β} (h : job.Leads w (.ok a) u xs)
    (hf : (f a).Leads u result v ys) : (job >>= f).Leads w result v (xs ++ ys) := by
  have hrun : (job >>= f).run = job.run >>= ExceptT.bindCont f := rfl
  constructor
  · rw [hrun, Script.within_bind, h.within]
    exact hf.within
  · rw [hrun, Script.writes_bind, h.within, h.writes]
    exact congrArg (xs ++ ·) hf.writes

theorem Leads.bind_error {e : Failure} {f : α → Job Script β} (h : job.Leads w (.error e) u xs) :
    (job >>= f).Leads w (.error e) u xs := by
  have hrun : (job >>= f).run = job.run >>= ExceptT.bindCont f := rfl
  constructor
  · rw [hrun, Script.within_bind, h.within]
    rfl
  · rw [hrun, Script.writes_bind, h.within, h.writes]
    exact List.append_nil xs

theorem Leads.attempt {result : Except Failure α} {kept : Except Failure (Option α)} (h : job.Leads w result u xs)
    (report : FileError → Text) (hrest : (Job.attempt report (ExceptT.mk (pure result) : Job Script α)).Leads u kept v []) :
    (Job.attempt report job).Leads w kept v xs := by
  constructor
  · rw [Job.attempt, ExceptT.run_mk, Script.within_bind, h.within]
    exact hrest.within
  · rw [Job.attempt, ExceptT.run_mk, Script.writes_bind, h.within, h.writes]
    exact (congrArg (xs ++ ·) hrest.writes).trans (List.append_nil xs)

theorem Runs.bind {a : α} {f : α → Job Script β} {result : Except Failure β} (h : job.Runs w (.ok a) u xs)
    (hf : (f a).Runs u result v ys) : (job >>= f).Runs w result v (xs ++ ys) := by
  refine ⟨h.toLeads.bind hf.toLeads, ?_⟩
  cases xs with
  | nil => exact hf.files.trans h.files
  | cons x xs => exact h.files

theorem Runs.bind_error {e : Failure} {f : α → Job Script β} (h : job.Runs w (.error e) u xs) :
    (job >>= f).Runs w (.error e) u xs := ⟨h.toLeads.bind_error, h.files⟩

theorem Runs.mem_moments {result : Except Failure α} (h : job.Runs w result u xs) : w.files ∈ Write.moments xs u.files := by
  rw [← h.files, Write.moments]
  cases xs with
  | nil => exact List.mem_singleton_self _
  | cons x xs => exact List.mem_cons_self

end

theorem runs_pure (a : α) (w : World) : (pure a : Job Script α).Runs w (.ok a) w [] := ⟨⟨rfl, rfl⟩, rfl⟩

theorem runs_ofFile (r : Except FileError α) (w : World) : (ofFile r).Runs w (r.mapError .file) w [] := ⟨⟨rfl, rfl⟩, rfl⟩

theorem runs_ofExcept (r : Except Fault α) (w : World) : (ofExcept r).Runs w (r.mapError .fault) w [] := ⟨⟨rfl, rfl⟩, rfl⟩

theorem runs_read (path : Path) (w : World) : (Host.read path : Job Script FileContent).Runs w (.ok (w.files.read path)) w [] :=
  ⟨⟨rfl, rfl⟩, rfl⟩

/-- The text of a file, or why there is none. -/
def textIn (files : FileTree) (path : Path) : Except Failure Text := do
  let bytes ← (files.read path).mapError .file
  (FileContent.decode bytes).mapError .fault

def documentIn (files : FileTree) (path : Path) : Except Failure (List Html.Node) :=
  match textIn files path with
  | .ok text => ((Html.document? text).map .ok).getD (.error (.fault .rejectedMarkup))
  | .error e => .error e

theorem runs_readText (path : Path) (w : World) : (readText path).Runs w (textIn w.files path) w [] := by
  have hread := runs_read path w
  unfold textIn
  cases hcontent : w.files.read path with
  | error e =>
    rw [hcontent] at hread
    exact hread.bind (runs_ofFile (.error e) w).bind_error
  | ok bytes =>
    rw [hcontent] at hread
    exact hread.bind ((runs_ofFile (.ok bytes) w).bind (runs_ofExcept _ w))

theorem runs_readDocument (path : Path) (w : World) : (readDocument path).Runs w (documentIn w.files path) w [] := by
  have hread := runs_readText path w
  unfold documentIn
  cases htext : textIn w.files path with
  | error e =>
    rw [htext] at hread
    exact hread.bind_error
  | ok text =>
    rw [htext] at hread
    refine hread.bind ?_
    dsimp only
    cases Html.document? text with
    | none => exact runs_ofExcept _ w
    | some nodes => exact runs_pure nodes w

theorem leads_write (path : Path) (text : Text) (w : World) :
    (Host.write path text : Job Script (Except FileError Unit)).Leads w (.ok (World.change (·.write path text) w).1)
      (World.change (·.write path text) w).2 ((Call.write path text).writes w.files) :=
  ⟨rfl, List.append_nil _⟩

/-- Writing a text fails and changes nothing, or makes one write. -/
theorem runs_writeText_cases (path : Path) (text : Text) (w : World) :
    (∃ u, (writeText path text).Runs w (.ok ()) u [⟨w.files, path, text⟩]) ∨
      ∃ e, (writeText path text).Runs w (.error (.file e)) w [] := by
  have hwrite := leads_write path text w
  rw [World.change, Call.writes] at hwrite
  cases hfiles : w.files.write path text with
  | ok files =>
    rw [hfiles] at hwrite
    exact .inl ⟨_, hwrite.bind (runs_ofFile (.ok ()) _).toLeads, rfl⟩
  | error e =>
    rw [hfiles] at hwrite
    exact .inr ⟨e, hwrite.bind (runs_ofFile (.error e) w).toLeads, rfl⟩

/-- The job comes to `a` without a fault and leaves all files as they are. -/
def Tells (job : Job Script α) (a : α) : Prop := ∀ w, ∃ u, job.Runs w (.ok a) u []

theorem tells_print (text : Text) : (Host.print text : Job Script Unit).Tells () := fun _ => ⟨_, ⟨rfl, rfl⟩, rfl⟩

theorem tells_warn (text : Text) : (Host.warn text : Job Script Unit).Tells () := fun _ => ⟨_, ⟨rfl, rfl⟩, rfl⟩

theorem tells_forM {γ : Type} {f : γ → Job Script PUnit} (h : ∀ c, (f c).Tells ()) (cs : List γ) : (cs.forM f).Tells () := by
  induction cs with
  | nil => exact fun w => ⟨w, runs_pure _ w⟩
  | cons c cs ih =>
    intro w
    obtain ⟨u, hfirst⟩ := h c w
    obtain ⟨v, hrest⟩ := ih u
    exact ⟨v, hfirst.bind hrest⟩

theorem tells_log (verbose : Bool) (entries : List LogEntry) : (log verbose entries).Tells () := by
  cases verbose with
  | false => exact fun w => ⟨w, runs_pure _ w⟩
  | true => exact tells_forM (fun e => tells_warn e.line) entries

theorem tells_printSummary (r : Report) : (printSummary r).Tells () := tells_forM (fun line => tells_warn (line ++ ['\n'])) r.summary

theorem exists_runs_convertText (verbose : Bool) (c : Converter) (css : Text) (w : World) :
    ∃ u, (convertText verbose c css).Runs w ((c.convertRules (Rule.ofCss css)).mapError (.fault ∘ .rounding)) u [] := by
  obtain ⟨u, hlog⟩ := tells_log verbose (StyleSheet.log css ++ c.log (Rule.ofCss css)) w
  have hconvert := runs_ofExcept ((c.convertRules (Rule.ofCss css)).mapError .rounding) u
  have herror : ((c.convertRules (Rule.ofCss css)).mapError .rounding).mapError .fault =
      (c.convertRules (Rule.ofCss css)).mapError (Failure.fault ∘ Fault.rounding) := by
    cases c.convertRules (Rule.ofCss css) <;> rfl
  rw [herror] at hconvert
  exact ⟨u, hlog.bind hconvert⟩

/-- The job writes no file. -/
def IsSilent (job : Job Script α) : Prop := ∀ w, job.run.writes w = []

theorem IsSilent.leads {job : Job Script α} (h : job.IsSilent) (w : World) :
    job.Leads w (job.run.within w).1 (job.run.within w).2 [] := ⟨rfl, h w⟩

theorem IsSilent.bind {job : Job Script α} {f : α → Job Script β} (h : job.IsSilent) (hf : ∀ a, (f a).IsSilent) :
    (job >>= f).IsSilent := by
  intro w
  have hrun : (job >>= f).run = job.run >>= ExceptT.bindCont f := rfl
  rw [hrun, Script.writes_bind, h w, List.nil_append]
  cases (job.run.within w).1 with
  | ok a => exact hf a _
  | error e => rfl

theorem isSilent_readSettings (load : Text → FileContent → Except Fault α) (bundled : α) (path? : Option Text) :
    (readSettings load bundled path? : Job Script α).IsSilent := by
  cases path? with
  | none => exact fun _ => rfl
  | some path => exact IsSilent.bind (fun _ => rfl) fun content _ => rfl

theorem isSilent_readConverter (paths : SettingsPaths) : (readConverter paths : Job Script Converter).IsSilent :=
  (isSilent_readSettings _ _ _).bind fun _ => (isSilent_readSettings _ _ _).bind fun _ =>
    (isSilent_readSettings _ _ _).bind fun _ _ => rfl

theorem isSilent_acceptDirectory (path : Path) (made : Except FileError Unit) :
    (Host.acceptDirectory path made : Job Script (Except FileError Unit)).IsSilent := by
  cases made with
  | ok _ => exact fun _ => rfl
  | error e => exact IsSilent.bind (fun _ => rfl) fun kind _ => rfl

theorem isSilent_createDirectories (root : Text) (names : List Text) :
    (Host.createDirectories root names : Job Script (Except FileError Unit)).IsSilent := by
  induction names with
  | nil => exact IsSilent.bind (fun _ => rfl) fun made => isSilent_acceptDirectory _ _
  | cons name outer ih =>
    refine IsSilent.bind (fun _ => rfl) fun made => ?_
    split
    · refine ih.bind fun outside => ?_
      split
      · exact fun _ => rfl
      · exact IsSilent.bind (fun _ => rfl) fun made => isSilent_acceptDirectory _ _
    · exact isSilent_acceptDirectory _ _

theorem isSilent_makeDirectory (path : Path) : (Host.makeDirectory path : Job Script (Except FileError Unit)).IsSilent :=
  isSilent_createDirectories path.root path.names.reverse

/-- Where the job comes to a result, it has made at most one write, as `Step` says for the files that it found. Elsewhere it has
made none. -/
def Meets (job : Job Script α) (Step : FileTree → α → Option Write → Prop) : Prop :=
  ∀ w, (∃ a u x?, job.Runs w (.ok a) u x?.toList ∧ Step w.files a x?) ∨ ∃ failure u, job.Runs w (.error failure) u []

/-- What an attempt leaves: what the job leaves, or nothing. -/
def Attempted (Step : α → Option Write → Prop) (out : Option α) (x? : Option Write) : Prop :=
  (∃ a, out = some a ∧ Step a x?) ∨ (out = none ∧ x? = none)

theorem Attempted.imp {Step Step' : α → Option Write → Prop} {out : Option α} {x? : Option Write} (h : Attempted Step out x?)
    (himp : ∀ a, Step a x? → Step' a x?) : Attempted Step' out x? :=
  h.imp_left fun ⟨a, ha, hstep⟩ => ⟨a, ha, himp a hstep⟩

theorem Meets.attempt {job : Job Script α} {Step : FileTree → α → Option Write → Prop} (h : job.Meets Step)
    (report : FileError → Text) : (attempt report job).Meets fun files => Attempted (Step files) := by
  intro w
  rcases h w with ⟨a, u, x?, hrun, hstep⟩ | ⟨e | f, u, hrun⟩
  · exact .inl ⟨some a, u, x?, ⟨hrun.toLeads.attempt report ⟨rfl, rfl⟩, hrun.files⟩, .inl ⟨a, rfl, hstep⟩⟩
  · exact .inl ⟨none, u.warn (report e), none, ⟨hrun.toLeads.attempt report ⟨rfl, rfl⟩, hrun.files⟩, .inr ⟨rfl, rfl⟩⟩
  · exact .inr ⟨.fault f, u, hrun.toLeads.attempt report ⟨rfl, rfl⟩, hrun.files⟩

theorem runs_mapM {γ : Type} {f : γ → Job Script β} {Step : γ → FileTree → β → Option Write → Prop}
    (h : ∀ c, (f c).Meets (Step c)) (cs : List γ) (w : World) :
    ∃ result u made rest ps, (cs.mapM f).Runs w result u (ps.filterMap Prod.snd) ∧ cs = made ++ rest ∧
      List.Forall₂ (fun c (p : β × Option Write) => ∃ files ∈ Write.moments (ps.filterMap Prod.snd) u.files, Step c files p.1 p.2)
        made ps ∧
      ∀ bs, result = .ok bs → rest = [] ∧ bs = ps.map Prod.fst := by
  induction cs generalizing w with
  | nil => exact ⟨_, w, [], [], [], runs_pure _ w, rfl, .nil, fun bs hbs => ⟨rfl, (Except.ok.inj hbs).symm⟩⟩
  | cons c cs ih =>
    rw [List.mapM_cons]
    rcases h c w with ⟨b, u, x?, hfirst, hstep⟩ | ⟨failure, u, hfirst⟩
    · obtain ⟨result, v, made, rest, ps, hrest, rfl, hall, hresult⟩ := ih u
      have hwrites : ((b, x?) :: ps).filterMap Prod.snd = x?.toList ++ ps.filterMap Prod.snd := by
        cases x? <;> rfl
      have hstart : w.files ∈ Write.moments (((b, x?) :: ps).filterMap Prod.snd) v.files := by
        rw [hwrites]
        exact Write.moments_subset_append _ hrest.mem_moments hfirst.mem_moments
      have hsteps : List.Forall₂ (fun c p => ∃ files ∈ Write.moments (((b, x?) :: ps).filterMap Prod.snd) v.files,
          Step c files p.1 p.2) (c :: made) ((b, x?) :: ps) := by
        refine .cons ⟨w.files, hstart, hstep⟩ (hall.imp fun c' p ⟨files, hfiles, hp⟩ => ⟨files, ?_, hp⟩)
        rw [hwrites]
        exact Write.moments_append_subset _ _ _ hfiles
      cases result with
      | ok bs =>
        obtain ⟨rfl, rfl⟩ := hresult bs rfl
        refine ⟨.ok (b :: ps.map Prod.fst), v, c :: made, [], (b, x?) :: ps, ?_, rfl, hsteps,
          fun bs hbs => ⟨rfl, (Except.ok.inj hbs).symm⟩⟩
        rw [hwrites, ← List.append_nil (ps.filterMap Prod.snd)]
        exact hfirst.bind (hrest.bind (runs_pure _ v))
      | error failure =>
        refine ⟨.error failure, v, c :: made, rest, (b, x?) :: ps, ?_, rfl, hsteps, fun bs hbs => by cases hbs⟩
        rw [hwrites]
        exact hfirst.bind hrest.bind_error
    · -- a fault ends the loop with what has been made so far
      exact ⟨_, u, [], c :: cs, [], hfirst.bind_error, rfl, .nil, fun bs hbs => by cases hbs⟩

/-- A loop that goes on after a failure: what each attempt leaves comes from files that the loop has found at some moment. -/
theorem runs_mapM_attempt {γ : Type} {f : γ → Job Script β} {Step : γ → FileTree → β → Option Write → Prop}
    (h : ∀ c, (f c).Meets (Step c)) (report : γ → FileError → Text) (cs : List γ) (w : World) :
    ∃ result u made rest ps, (cs.mapM fun c => attempt (report c) (f c)).Runs w result u (ps.filterMap Prod.snd) ∧
      cs = made ++ rest ∧
      List.Forall₂ (fun c (p : Option β × Option Write) =>
        Attempted (fun b x? => ∃ files ∈ Write.moments (ps.filterMap Prod.snd) u.files, Step c files b x?) p.1 p.2) made ps ∧
      ∀ bs, result = .ok bs → rest = [] ∧ bs = ps.map Prod.fst := by
  obtain ⟨result, u, made, rest, ps, hruns, hcs, hsteps, hresult⟩ := runs_mapM (fun c => (h c).attempt (report c)) cs w
  refine ⟨result, u, made, rest, ps, hruns, hcs, hsteps.imp fun c p ⟨files, hfiles, hp⟩ => ?_, hresult⟩
  exact hp.imp fun b hb => ⟨files, hfiles, hb⟩

end Job

end UiToolkit
