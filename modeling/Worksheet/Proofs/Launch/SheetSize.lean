import Mathlib
import Worksheet.Launch.Run
import Worksheet.Proofs.Document.Transition
import Worksheet.Proofs.Settings.Load

/-!
# Runs that end because of the sheet size

A run takes the size of its document from the settings file unless options give it.  A file that
holds no settings leaves a warning and the default settings, and the run goes on.  A count out of
range is no problem to the loader, though: it reaches the document, which refuses it, and the run
ends.  `run_settingsFile` says that these files, and no others, end a run in this way.

The settings reach a run in two places, which `work_eq_warned` keeps apart: the warnings stand in
front of a report that depends on nothing but the settings.
-/

namespace Worksheet.Launch

variable {host : Host} {o : Options}

/-! ### Reports -/

/-- A report ends with a problem: the exit code is one and the problem is the last that is told. -/
def Report.EndsWith (r : Report) (p : Problem) : Prop :=
  r.code = 1 ∧ r.notices.getLast? = some ("Error: " ++ p.message)

/-- A report with warnings in front of its messages. -/
def Report.warned (r : Report) (ws : List Settings.Warning) : Report :=
  { r with notices := (ws.map fun w => "Warning: " ++ w.message) ++ r.notices }

/-- No warning is the message of a problem. -/
lemma warned_endsWith_iff {r : Report} {ws : List Settings.Warning} {p : Problem} :
    (r.warned ws).EndsWith p ↔ r.EndsWith p := by
  unfold Report.EndsWith Report.warned
  cases hlast : r.notices.getLast? with
  | some s => rw [List.getLast?_append, hlast, Option.some_or]
  | none =>
    rw [List.getLast?_append, hlast, Option.none_or, List.getLast?_map]
    simp only [reduceCtorEq, and_false, iff_false, not_and]
    intro _ h
    obtain ⟨w, -, hw⟩ := Option.map_eq_some_iff.mp h
    have hhead := congrArg (fun s => s.toList.head?) hw
    simp at hhead

lemma failed_endsWith_iff {output : String} {notices : List String} {p q : Problem} :
    (Report.failed output notices p).EndsWith q ↔ p.message = q.message := by
  simp [Report.EndsWith, Report.failed, String.append_right_inj]

/-- No other problem has a message about the sheet size. -/
lemma exists_sheetSize_of_message_eq {p : Problem} {f : Failure}
    (h : p.message = (Problem.sheetSize f).message) : ∃ g, p = .sheetSize g := by
  have hhead : p.message.toList.head? = some 'i' := by
    rw [h]
    unfold Problem.message
    simp
  cases p with
  | sheetSize g => exact ⟨g, rfl⟩
  | logFile path reason =>
    unfold Problem.message at hhead
    simp at hhead
  | batch q =>
    unfold Problem.message Batch.Problem.message at hhead
    cases q <;> simp at hhead
  | noTerminal =>
    unfold Problem.message at hhead
    simp at hhead

/-- A run that a problem has ended tells about the sheet size only if that is the problem. -/
lemma exists_failed_endsWith_sheetSize_iff {output : String} {notices : List String} {p : Problem} :
    (∃ f, (Report.failed output notices p).EndsWith (.sheetSize f)) ↔ ∃ f, p = .sheetSize f := by
  constructor
  · rintro ⟨f, hends⟩
    exact exists_sheetSize_of_message_eq (failed_endsWith_iff.mp hends)
  · rintro ⟨f, rfl⟩
    exact ⟨f, failed_endsWith_iff.mpr rfl⟩

/-! ### Work under given settings -/

/-- The report of a run under given settings, without the warnings about them. -/
def workUnder (o : Options) (s : Settings) : Report :=
  match document o s with
  | .error f => .failed "" [] (.sheetSize f)
  | .ok d =>
    if o.isBatch then
      match (Batch.run d o.request).result with
      | .ok code => ⟨code, (Batch.run d o.request).output, []⟩
      | .error p => .failed (Batch.run d o.request).output [] (.batch p)
    else .failed "" [] .noTerminal

/-- Warnings stand in front of the report and change nothing else in it. -/
lemma work_eq_warned (host : Host) (o : Options) :
    work host o = (workUnder o (settings host o).1).warned (settings host o).2 := by
  unfold work workUnder
  obtain ⟨s, ws⟩ := settings host o
  simp only
  cases document o s with
  | error f => rfl
  | ok d =>
    simp only
    split
    · cases (Batch.run d o.request).result with
      | ok code => simp [Report.warned]
      | error p => rfl
    · rfl

/-- Only a size that is not allowed ends a run with a problem about the size. -/
lemma workUnder_endsWith_sheetSize_iff {s : Settings} :
    (∃ f, (workUnder o s).EndsWith (.sheetSize f)) ↔ ∃ f, document o s = .error f := by
  unfold workUnder
  cases document o s with
  | error f => simp [exists_failed_endsWith_sheetSize_iff]
  | ok d =>
    simp only [reduceCtorEq, exists_false, iff_false]
    split
    · split
      · simp [Report.EndsWith]
      · simp [exists_failed_endsWith_sheetSize_iff]
    · simp [exists_failed_endsWith_sheetSize_iff]

/-- Without options for the size, the counts of the settings decide whether there is a document. -/
lemma document_eq_error_iff (hrows : o.rows = none) (hcols : o.cols = none) {s : Settings} :
    (∃ f, document o s = .error f) ↔ ∃ a : Axis, ¬ a.Allows (s.count a) := by
  rw [document, hrows, hcols, Option.getD_none, Option.getD_none]
  constructor
  · rintro ⟨f, hf⟩
    by_contra hall
    push Not at hall
    have hok := Document.ofSize_eq_ok_iff.mpr ⟨hall .row, hall .column, rfl⟩
    exact absurd (hf.symm.trans hok) (by simp)
  · rintro ⟨a, hnot⟩
    cases hdoc : Document.ofSize s.rows s.cols with
    | error f => exact ⟨f, rfl⟩
    | ok d =>
      obtain ⟨hrow, hcol, -⟩ := Document.ofSize_eq_ok_iff.mp hdoc
      cases a with
      | row => exact absurd hrow hnot
      | column => exact absurd hcol hnot

/-! ### The settings file -/

/-- The files of a run once its log has been opened; none if that failed. -/
def files? (host : Host) (o : Options) : Option (String → File) :=
  match o.logFile with
  | none => some host.file
  | some path => (host.openLog path).toOption

/-- The settings file of a run with its source; none if the run does not get there or uses none. -/
def settingsFile? (host : Host) (o : Options) : Option (Settings.Source × File) :=
  (files? host o).bind fun file => (source? host o).map fun s => (s, file s.path)

/-- The options with the settings file left alone. -/
def withoutConfig (o : Options) : Options := { o with config := none, noConfig := true }

/-- A run whose log has been opened is the work on the files from then on. -/
lemma run_of_files? {file : String → File} (h : files? host o = some file) :
    run host o = work { host with file := file } o := by
  unfold files? at h
  unfold run
  cases hlog : o.logFile with
  | none =>
    rw [hlog, Option.some.injEq] at h
    rw [← h]
  | some path =>
    simp only [hlog] at h ⊢
    cases hopen : host.openLog path with
    | ok file' =>
      rw [hopen, Except.toOption, Option.some.injEq] at h
      rw [h]
    | error reason =>
      rw [hopen] at h
      cases h

/-- Any other run ends with the log. -/
lemma run_of_files?_eq_none (h : files? host o = none) :
    ∃ path reason, run host o = .failed "" [] (.logFile path reason) := by
  unfold files? at h
  unfold run
  cases hlog : o.logFile with
  | none =>
    rw [hlog] at h
    cases h
  | some path =>
    simp only [hlog] at h ⊢
    cases hopen : host.openLog path with
    | ok file =>
      rw [hopen] at h
      cases h
    | error reason => exact ⟨path, reason, rfl⟩

/-- The settings of a run have a count out of range exactly if its settings file oversteps. -/
lemma exists_not_allows_settings_iff {file : String → File} (hfile : files? host o = some file) :
    (∃ a : Axis, ¬ a.Allows ((settings { host with file := file } o).1.count a)) ↔
      ∃ source f, settingsFile? host o = some (source, f) ∧ f.Oversteps := by
  have hsource : source? { host with file := file } o = source? host o := rfl
  rw [settings, hsource, settingsFile?, hfile, Option.bind_some]
  cases source? host o with
  | none =>
    simp only [Option.map_none, reduceCtorEq, false_and, exists_false, iff_false, not_exists]
    intro a hnot
    exact hnot (by cases a <;> decide)
  | some source =>
    simp only [Option.map_some, Option.some.injEq, Prod.mk.injEq]
    rw [Settings.exists_not_allows_load_iff]
    constructor
    · intro h
      exact ⟨source, file source.path, ⟨rfl, rfl⟩, h⟩
    · rintro ⟨-, -, ⟨rfl, rfl⟩, h⟩
      exact h

/-- A file that holds no settings only adds warnings to the run that leaves it alone. -/
theorem run_eq_warned_of_not_holds {source : Settings.Source} {f : File}
    (hfile : settingsFile? host o = some (source, f)) (hholds : ¬ ∃ pairs, f.Holds pairs) :
    ∃ ws, run host o = (run host (withoutConfig o)).warned ws := by
  obtain ⟨file, hopen, hsource⟩ := Option.bind_eq_some_iff.mp hfile
  obtain ⟨source', hsource', heq⟩ := Option.map_eq_some_iff.mp hsource
  obtain ⟨rfl, rfl⟩ := Prod.mk.inj heq
  have hopen' : files? host (withoutConfig o) = some file := hopen
  have hset : (settings { host with file := file } o).1 = {} := by
    have hsame : source? { host with file := file } o = source? host o := rfl
    rw [settings, hsame, hsource']
    exact Settings.load_of_not_holds hholds
  refine ⟨(settings { host with file := file } o).2, ?_⟩
  calc run host o
      = work { host with file := file } o := run_of_files? hopen
    _ = (workUnder o {}).warned (settings { host with file := file } o).2 := by
        rw [work_eq_warned, hset]
    _ = (work { host with file := file } (withoutConfig o)).warned
          (settings { host with file := file } o).2 := by
        rw [work_eq_warned _ (withoutConfig o)]
        rfl
    _ = (run host (withoutConfig o)).warned (settings { host with file := file } o).2 := by
        rw [run_of_files? hopen']

/-- A run without options for the size ends because of the size exactly if its settings file has a
count out of range.  A file that holds no settings only adds warnings to the run without it. -/
theorem run_settingsFile (hrows : o.rows = none) (hcols : o.cols = none) :
    ((∃ f, (run host o).EndsWith (.sheetSize f)) ↔
      ∃ source f, settingsFile? host o = some (source, f) ∧ f.Oversteps) ∧
    ∀ source f, settingsFile? host o = some (source, f) → (¬ ∃ pairs, f.Holds pairs) →
      ∃ ws, run host o = (run host (withoutConfig o)).warned ws := by
  refine ⟨?_, fun source f => run_eq_warned_of_not_holds⟩
  cases hopen : files? host o with
  | some file =>
    rw [run_of_files? hopen, ← exists_not_allows_settings_iff hopen,
      ← document_eq_error_iff hrows hcols, ← workUnder_endsWith_sheetSize_iff]
    simp only [work_eq_warned, warned_endsWith_iff]
  | none =>
    obtain ⟨path, reason, hrun⟩ := run_of_files?_eq_none hopen
    have hnone : settingsFile? host o = none := by
      rw [settingsFile?, hopen, Option.bind_none]
    rw [hrun, hnone, exists_failed_endsWith_sheetSize_iff]
    simp only [reduceCtorEq, false_and, exists_false]

/-- Twenty-seven columns are one more than can be named. -/
theorem run_endsWith_of_many_cols :
    ∃ f, (run (Files.host ⟨[(["config.toml"], .file "cols = 27\n".toUTF8)], []⟩ none)
      { config := some "/config.toml", print := true }).EndsWith (.sheetSize f) := by
  refine (run_settingsFile rfl rfl).1.mpr ⟨⟨"/config.toml", true⟩, _, rfl, ?_⟩
  refine ⟨[("cols".toList, 27)], ?_, .column, 27, by decide, by decide⟩
  exact ⟨_, "cols = 27\n", rfl, rfl, by decide +kernel, by decide⟩

/-- A settings file without rows is loaded as it stands, and the run ends. -/
theorem run_endsWith_of_zero_rows :
    (run (Files.host ⟨[(["config.toml"], .file "rows = 0\n".toUTF8)], []⟩ none)
      { config := some "/config.toml", dump := true }).EndsWith (.sheetSize (.badCount .row 0)) :=
  ⟨by decide +kernel, by decide +kernel⟩

end Worksheet.Launch
