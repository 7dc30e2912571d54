import VisualNovel.Player.Program
import VisualNovel.Proofs.Cache.Legacy
import VisualNovel.Proofs.Player.Gallery
import VisualNovel.Proofs.Script.Bounded
import VisualNovel.Proofs.Script.Load

/-!
# A call of the program

A call that ends with the code zero has read its arguments, loaded its settings, opened its script,
enabled the cache if it was asked to, cleared the directory of the drawings and played the script to
the end. The argument that turns the cache off changes nothing else in that.
-/
namespace VisualNovel

namespace CommandLine

variable {arguments : List String} {o p : Options} {key : Key} {value : String}
  {extras rest : List String} {words : List Word}

def Options.uncached (o : Options) : Options :=
  { o with noCache := true }

theorem store_uncached (h : store o key value = .ok p) :
    store o.uncached key value = .ok p.uncached := by
  cases key with
  | choose =>
    simp only [store] at h ⊢
    by_cases hfirst : value = "first"
    · rw [if_pos hfirst] at h ⊢
      cases h
      rfl
    · rw [if_neg hfirst] at h ⊢
      split at h
      · cases h
        rename_i hsecond
        rw [if_pos hsecond]
        rfl
      · cases h
  | help | noCache | config | script | outDir | logLevel =>
    cases h
    rfl

theorem raise_uncached (h : raise o key = .ok p) : raise o.uncached key = .ok p.uncached := by
  cases key with
  | help => cases h
  | config | script | outDir | noCache | choose | logLevel =>
    cases h
    rfl

theorem readWords_uncached (h : readWords o extras words = .ok (p, rest)) :
    readWords o.uncached extras words = .ok (p.uncached, rest) := by
  induction o, extras, words using readWords.induct with
  | case1 o extras =>
    cases h
    rfl
  | case2 o extras text words ih | case3 o extras text words ih | case4 o extras words ih =>
    rw [readWords] at h ⊢
    exact ih h
  | case5 o extras letters words => cases h
  | case6 o extras key value words takes ih =>
    rw [readWords, if_pos takes] at h ⊢
    obtain ⟨stored, hstored, hrest⟩ := exists_of_bind h
    rw [store_uncached hstored]
    exact ih stored hrest
  | case7 o extras key value words takes =>
    rw [readWords, if_neg takes] at h
    cases h
  | case8 o extras key value words takes ih =>
    rw [readWords, if_pos takes] at h ⊢
    obtain ⟨stored, hstored, hrest⟩ := exists_of_bind h
    rw [store_uncached hstored]
    exact ih stored hrest
  | case9 o extras key value words takes ih =>
    rw [readWords, if_neg takes] at h ⊢
    obtain ⟨raised, hraised, hrest⟩ := exists_of_bind h
    rw [raise_uncached hraised]
    exact ih raised hrest
  | case10 o extras key words plain takes =>
    rw [readWords, if_pos takes] at h
    · cases h
    · exact plain
  | case11 o extras key words plain takes ih =>
    rw [readWords, if_neg takes] at h ⊢
    · obtain ⟨raised, hraised, hrest⟩ := exists_of_bind h
      rw [raise_uncached hraised]
      exact ih raised hrest
    · exact plain
    · exact plain

/-- The argument in front that turns the cache off does this and nothing else. -/
theorem read_no_cache (h : read arguments = .ok o) :
    read ("--no-cache" :: arguments) = .ok o.uncached := by
  obtain ⟨words, hwords, hread⟩ := exists_of_bind h
  obtain ⟨⟨p, unused⟩, hp, hrest⟩ := exists_of_bind hread
  cases unused with
  | cons text more => cases hrest
  | nil =>
    cases hrest
    have hclassified : classifyAll ("--no-cache" :: arguments) =
        .ok (.option .noCache none :: words) := by
      have hclassify : classify "--no-cache" = .ok (.option .noCache none) := by decide +kernel
      rw [classifyAll, hclassify, hwords]
      · rfl
      · decide
    have hflag : readWords {} [] (.option .noCache none :: words) =
        readWords (Options.uncached {}) [] words := by
      cases words with
      | nil => rfl
      | cons word rest => cases word <;> rfl
    rw [read, hclassified]
    change (readWords {} [] (.option .noCache none :: words) >>= _) = _
    rw [hflag, readWords_uncached hp]
    rfl

end CommandLine

namespace Program

open CommandLine (Options)

variable {arguments : List String} {environment : List (String × String)} {budget : Nat}
  {o : Options} {settings : Settings} {stage furnished : Stage} {s t : Session}

def gallery (o : Options) (settings : Settings) : Path :=
  Path.ofText (orElse o.outDir settings.renderDir)

/-- The file of the script that is opened. -/
def entry (o : Options) (settings : Settings) : Path :=
  Path.ofText (orElse o.script settings.scriptPath)

def prepare (o : Options) (environment : List (String × String)) : Action (Settings × Stage) := do
  let level ← given .lostLevel o.logLevel
  modify fun s => { s with
    journal := { s.journal with thresholds := s.journal.thresholds.configure level [] } }
  note .info "vnscript player"
  let settings ← loadSettings o environment
  let path := orElse o.script settings.scriptPath
  note .debug ("Engine initializing, searching for " ++ path)
  return (settings, ← openStage settings path)

def caches (o : Options) (settings : Settings) : Bool :=
  settings.cacheEnabled && !o.noCache

def furnish (o : Options) (settings : Settings) (stage : Stage) : Action Stage :=
  if caches o settings then do
    let cache ← RenderCache.enable { directory := Path.ofText settings.cacheDir }
    return { stage with cache := some cache }
  else return stage

def begin (o : Options) (environment : List (String × String)) : Action (Settings × Stage) := do
  let (settings, stage) ← prepare o environment
  let stage ← furnish o settings stage
  Play.clearDrawings (gallery o settings)
  return (settings, stage)

theorem run_recover {α : Type} (known : Failure → Bool) (a : Action α) (s : Session) :
    (recover known a).run s =
      match a.run s with
      | .ok x s => .ok (.ok x) s
      | .error e s => if known e then .ok (.error e) s else .error e s :=
  rfl

theorem run_of_run_recover {α : Type} {known : Failure → Bool} {a : Action α} {x : α}
    (h : (recover known a).run s = .ok (.ok x) t) : a.run s = .ok x t := by
  rw [run_recover] at h
  cases ha : a.run s with
  | ok y s' =>
    rw [ha] at h
    cases h
    rfl
  | error e s' =>
    simp only [ha] at h
    split at h <;> cases h

theorem perform_eq (o : Options) (settings : Settings) (stage : Stage) (out : Path) (budget : Nat) :
    perform o settings stage out budget = (do
      let stage ← furnish o settings stage
      Play.clearDrawings out
      recover Failure.isReported
        (Play.onStage stage (Play.play (.scene settings) out o.chooseFirst budget))) := by
  rw [perform, furnish, ← caches]
  cases caches o settings with
  | true => simp only [if_true, bind_assoc, pure_bind]
  | false => simp only [Bool.false_eq_true, if_false, pure_bind]

theorem run_onStage {α : Type} (stage : Stage) (act : Act α) (s : Session) :
    (Play.onStage stage act).run s =
      match act.run ⟨s, stage⟩ with
      | .ok x p => .ok x p.session
      | .error e p => .error e p.session :=
  rfl

theorem exists_of_run_onStage {α : Type} {act : Act α} {x : α}
    (h : (Play.onStage stage act).run s = .ok x t) :
    ∃ p, act.run ⟨s, stage⟩ = .ok x p ∧ p.session = t := by
  rw [run_onStage] at h
  cases hact : act.run ⟨s, stage⟩ with
  | ok a p =>
    rw [hact] at h
    cases h
    exact ⟨p, rfl, rfl⟩
  | error e p =>
    rw [hact] at h
    cases h

theorem exists_of_run_playWith (h : (playWith o environment budget).run s = .ok 0 t) :
    ∃ settings stage s' n p, (begin o environment).run s = .ok (settings, stage) s' ∧
      (Play.play (.scene settings) (gallery o settings) o.chooseFirst budget).run ⟨s', stage⟩ =
        .ok n p ∧
      t = { p.session with
        journal := p.session.journal.record "vn_play" .info
          ("Rendered " ++ Text.natText n ++ " frames to " ++ (gallery o settings).text) } := by
  obtain ⟨level, s₁, hlevel, h⟩ := exists_of_run_bind h
  obtain ⟨_, s₂, hconfigure, h⟩ := exists_of_run_bind h
  obtain ⟨_, s₃, hgreet, h⟩ := exists_of_run_bind h
  obtain ⟨loaded, s₄, hsettings, h⟩ := exists_of_run_bind h
  cases loaded with
  | error e => cases h
  | ok settings =>
    obtain ⟨_, s₅, hsearch, h⟩ := exists_of_run_bind h
    obtain ⟨opened, s₆, hopen, h⟩ := exists_of_run_bind h
    cases opened with
    | error e => cases h
    | ok stage =>
      obtain ⟨performed, s₇, hperform, h⟩ := exists_of_run_bind h
      cases performed with
      | error e => cases h
      | ok n =>
        cases h
        rw [perform_eq] at hperform
        obtain ⟨furnished, s₈, hfurnish, hperform⟩ := exists_of_run_bind hperform
        obtain ⟨_, s₉, hclear, hplay⟩ := exists_of_run_bind hperform
        obtain ⟨p, hp, rfl⟩ := exists_of_run_onStage (run_of_run_recover hplay)
        refine ⟨settings, furnished, s₉, n, p, ?_, hp, rfl⟩
        simp only [begin, prepare, gallery, EStateM.run_bind, hlevel, hconfigure, hgreet,
          run_of_run_recover hsettings, hsearch, run_of_run_recover hopen, EStateM.run_pure,
          hfurnish, hclear]

/-- A call that has begun and whose play comes to the end comes to the end itself. -/
theorem exists_run_playWith {n : Nat} {p : Play} {s' : Session}
    (begins : (begin o environment).run s = .ok (settings, stage) s')
    (plays : (Play.play (.scene settings) (gallery o settings) o.chooseFirst budget).run
      ⟨s', stage⟩ = .ok n p) :
    ∃ journal, (playWith o environment budget).run s = .ok 0 { p.session with journal } := by
  obtain ⟨⟨_, opened⟩, s₁, hprepare, h⟩ := exists_of_run_bind begins
  obtain ⟨furnished, s₂, hfurnish, h⟩ := exists_of_run_bind h
  obtain ⟨_, s₃, hclear, h⟩ := exists_of_run_bind h
  cases h
  obtain ⟨level, s₄, hlevel, h⟩ := exists_of_run_bind hprepare
  obtain ⟨_, s₅, hconfigure, h⟩ := exists_of_run_bind h
  obtain ⟨_, s₆, hgreet, h⟩ := exists_of_run_bind h
  obtain ⟨loaded, s₇, hsettings, h⟩ := exists_of_run_bind h
  obtain ⟨_, s₈, hsearch, h⟩ := exists_of_run_bind h
  obtain ⟨found, s₉, hopen, h⟩ := exists_of_run_bind h
  cases h
  rw [gallery] at plays hclear
  simp only [playWith, EStateM.run_bind, hlevel, hconfigure, hgreet, run_recover, hsettings, hsearch,
    hopen, perform_eq, hfurnish, hclear, run_onStage, plays]
  exact ⟨_, rfl⟩

/-- A call that ends with the code zero has read its arguments and played to the end. -/
theorem exists_of_run (h : (run arguments environment budget).run s = .ok (.code 0) t) :
    ∃ o, CommandLine.read arguments = .ok o ∧
      (playWith o environment budget).run s = .ok 0 t := by
  rw [run] at h
  cases hread : CommandLine.read arguments with
  | ok o =>
    simp only [hread] at h
    obtain ⟨code, s', hplay, hcode⟩ := exists_of_run_bind h
    cases hcode
    exact ⟨o, rfl, hplay⟩
  | error stop =>
    cases stop with
    | help =>
      simp only [hread] at h
      obtain ⟨_, s', -, hcode⟩ := exists_of_run_bind h
      cases hcode
    | misuse m =>
      simp only [hread] at h
      obtain ⟨_, s', -, hcode⟩ := exists_of_run_bind h
      cases hcode

theorem run_of_run_playWith {code : Nat} (read : CommandLine.read arguments = .ok o)
    (plays : (playWith o environment budget).run s = .ok code t) :
    (run arguments environment budget).run s = .ok (.code code) t := by
  simp only [run, read, EStateM.run_bind, plays, EStateM.run_pure]

theorem eq_of_run_given {lost : Failure} {operand : CommandLine.Operand} {text : String}
    (h : (given lost operand).run s = .ok text t) : operand = .text text ∧ t = s := by
  cases operand with
  | nothing => cases h
  | text given =>
    cases h
    exact ⟨rfl, rfl⟩

theorem files_of_loadSettings (h : (loadSettings o environment).run s = .ok settings t) :
    t.files = s.files := by
  obtain ⟨path, s₁, hpath, h⟩ := exists_of_run_bind h
  have hs₁ : s₁ = s := by
    cases hconfig : o.config with
    | none =>
      rw [hconfig] at hpath
      cases hpath
      rfl
    | some operand =>
      rw [hconfig] at hpath
      obtain ⟨text, s', hgiven, hsome⟩ := exists_of_run_bind hpath
      cases hsome
      exact (eq_of_run_given hgiven).2
  obtain ⟨_, s₂, hget, h⟩ := exists_of_run_bind h
  cases hget
  obtain ⟨loaded, s₃, hloaded, hnoted⟩ := exists_of_run_bind h
  obtain ⟨-, rfl⟩ := Session.eq_of_run_attempt hloaded
  cases hnoted
  rw [hs₁]

/-- A stage that has been opened is at the first event of the script that was read, and the files are as
they were. -/
theorem of_prepare (h : (prepare o environment).run s = .ok (settings, stage) t) :
    ∃ script : Script, script.Bounded ∧ stage = .opening settings script ∧ t.files = s.files ∧
      t.images = { root := some (Path.ofText settings.baseDir) } ∧
      ∃ content, s.files.read (entry o settings).text = .ok content ∧
        Script.Holds content (entry o settings).text script := by
  obtain ⟨level, s₁, hlevel, h⟩ := exists_of_run_bind h
  obtain ⟨_, s₂, hconfigure, h⟩ := exists_of_run_bind h
  obtain ⟨_, s₃, hgreet, h⟩ := exists_of_run_bind h
  obtain ⟨loaded, s₄, hsettings, h⟩ := exists_of_run_bind h
  obtain ⟨_, s₅, hsearch, h⟩ := exists_of_run_bind h
  obtain ⟨opened, s₆, hopen, h⟩ := exists_of_run_bind h
  cases h
  obtain ⟨script, s₇, hscript, hopen⟩ := exists_of_run_bind hopen
  obtain ⟨content, hread, hholds, hs₇⟩ := Session.exists_of_run_loadScript hscript
  obtain ⟨-, rfl⟩ := eq_of_run_given hlevel
  have hsettingsFiles := files_of_loadSettings hsettings
  cases hopen
  cases hsearch
  cases hgreet
  cases hconfigure
  have hfiles : s₇.files = s₁.files := by
    rw [hs₇]
    exact hsettingsFiles
  refine ⟨script, Script.bounded_of_loadScript hscript, rfl, hfiles, rfl, content, ?_, hholds⟩
  rw [← hsettingsFiles]
  exact hread

theorem exists_of_run_furnish (h : (furnish o settings stage).run s = .ok furnished t)
    (caches : caches o settings = true) :
    ∃ files names,
      s.files.ensureDirectory (Path.ofText settings.cacheDir) = .ok files ∧
      files.list (Path.ofText settings.cacheDir).text = .ok names ∧
      furnished = { stage with cache := some {
        directory := Path.ofText settings.cacheDir
        index := RenderCache.scan files [] (names.map (Path.ofText settings.cacheDir).child)
        enabled := true } } ∧
      t = { s with files, journal := t.journal } := by
  rw [furnish, if_pos caches] at h
  obtain ⟨cache, s', henable, hstage⟩ := exists_of_run_bind h
  cases hstage
  cases hensure : s.files.ensureDirectory (Path.ofText settings.cacheDir) with
  | error e =>
    rw [RenderCache.run_enable_of_error hensure] at henable
    cases henable
  | ok files =>
    obtain ⟨names, journal, hnames, hrun⟩ := RenderCache.run_enable_of_ok
      (c := { directory := Path.ofText settings.cacheDir }) hensure
    rw [hrun] at henable
    cases henable
    exact ⟨files, names, rfl, hnames, rfl, rfl⟩

theorem furnish_of_not_caches (caches : caches o settings = false) :
    furnish o settings stage = pure stage := by
  rw [furnish, caches, if_neg Bool.false_ne_true]

/-- Enabling the cache adds directories, none if the directory of the cache is there, and changes
nothing else on the stage. -/
theorem of_furnish (h : (furnish o settings stage).run s = .ok furnished t) :
    FileTree.AddsDirectories s.files t.files ∧ t = { s with files := t.files, journal := t.journal } ∧
      (s.files.isDirectory (Path.ofText settings.cacheDir).text = true → t.files = s.files) ∧
      furnished = { stage with cache := furnished.cache } := by
  cases hcaches : caches o settings with
  | false =>
    rw [furnish_of_not_caches hcaches] at h
    cases h
    exact ⟨.refl _, rfl, fun _ => rfl, rfl⟩
  | true =>
    obtain ⟨files, names, hensure, -, rfl, ht⟩ := exists_of_run_furnish h hcaches
    have hfiles : t.files = files := by rw [ht]
    rw [hfiles]
    refine ⟨(FileTree.addsDirectories_ensureDirectory hensure).1, ht, fun hthere => ?_, rfl⟩
    cases hensure.symm.trans (FileTree.ensureDirectory_of_isDirectory hthere)
    rfl

/-- The cache of a stage that has been furnished finds files in its directory. -/
theorem finds_of_furnish {genuine : Nat → Content → Prop}
    (h : (furnish o settings stage).run s = .ok furnished t) (plain : stage.cache = none)
    (truthful : RenderCache.Truthful genuine
      (RenderCache.place s.files.home (Path.ofText settings.cacheDir)) s.files)
    {c : RenderCache} (hc : furnished.cache = some c) :
    RenderCache.Finds (Path.ofText settings.cacheDir) c := by
  cases hcaches : caches o settings with
  | false =>
    rw [furnish_of_not_caches hcaches] at h
    cases h
    cases plain.symm.trans hc
  | true =>
    obtain ⟨files, names, hensure, hnames, rfl, -⟩ := exists_of_run_furnish h hcaches
    cases hc
    obtain ⟨hadds, hdirectory⟩ := FileTree.addsDirectories_ensureDirectory hensure
    have hensured := truthful.addsDirectories hadds
    rw [← hadds.home] at hensured
    exact hensured.finds_scan hdirectory hnames

/-- A call opens the stage, furnishes it, and clears the drawings afterwards. -/
theorem of_begin (h : (begin o environment).run s = .ok (settings, stage) t) :
    ∃ opened s₁ s₂,
      (prepare o environment).run s = .ok (settings, opened) s₁ ∧
      (furnish o settings opened).run s₁ = .ok stage s₂ ∧
      Play.cleared (gallery o settings) s₂.files = .ok t.files ∧
      t = { s₂ with files := t.files, journal := t.journal } := by
  obtain ⟨⟨_, opened⟩, s₁, hprepare, h⟩ := exists_of_run_bind h
  obtain ⟨furnished, s₂, hfurnish, h⟩ := exists_of_run_bind h
  obtain ⟨_, s₃, hclear, h⟩ := exists_of_run_bind h
  cases h
  have hcleared := Play.makes_cleared (gallery o settings) s₂
  cases hfiles : Play.cleared (gallery o settings) s₂.files with
  | error e =>
    rw [hfiles] at hcleared
    obtain ⟨e, s', hfailed⟩ := hcleared
    rw [hfailed] at hclear
    cases hclear
  | ok u =>
    rw [hfiles] at hcleared
    obtain ⟨journal, hdone⟩ := hcleared
    rw [hdone] at hclear
    cases hclear
    exact ⟨opened, s₁, s₂, hprepare, hfurnish, hfiles, rfl⟩

theorem exists_run_begin_uncached {files : FileTree}
    (prepared : (prepare o environment).run s = .ok (settings, stage) t)
    (cleared : Play.cleared (gallery o settings) t.files = .ok files) :
    ∃ journal, (begin o.uncached environment).run s =
      .ok (settings, stage) { t with files, journal } := by
  have hclear := Play.makes_cleared (gallery o settings) t
  rw [cleared] at hclear
  obtain ⟨journal, hrun⟩ := hclear
  have hfurnish : furnish o.uncached settings stage = pure stage :=
    furnish_of_not_caches (Bool.and_false _)
  have hprepare : (prepare o.uncached environment).run s = .ok (settings, stage) t := prepared
  have hgallery : gallery o.uncached settings = gallery o settings := rfl
  refine ⟨journal, ?_⟩
  simp only [begin, EStateM.run_bind, hprepare, hfurnish, EStateM.run_pure, hgallery, hrun]

end Program

end VisualNovel
