/-
**Asking for more of the report.**

The switch for a verbose log can stand anywhere in a command line, except behind an announcement,
where it would be taken for the directory. Wherever it stands, the command is the same but for this
one switch, and no part of a run looks at that: the whole report is made in any case, and only when
all is done is some of it hidden. So two runs that differ in the switch meet the outside in the same
way at every point, end in the same way, and report the same but for events at debug level.

* `Argument.isDirectory_iff`: where a text is taken for a directory.
* `Command.ofArguments_verbose`: what the switch makes of a command.
* `Command.withoutDebug_run`: what is hidden of a run does not matter to the rest of it.
* `withoutDebug_run_verbose`: two runs of the program against any outside.
* `FileSystem.run_verbose`: the same in a file system, point by point.
-/

import TypeChart.Json.Reader
import TypeChart.Proofs.Command.Courses
import TypeChart.Proofs.Command.Units

namespace TypeChart

/-! ### The switch in a command line -/

namespace Argument

/-- Between these texts a text is taken for the directory of an announcement. -/
def IsDirectory (front : List String) (text : String) (back : List String) : Prop :=
  ∃ before after, front = before.flatMap spelled ++ [outputSpelling] ∧
    Reads (front ++ text :: back) (before ++ .outputDirectory text :: after)

/-- An announcement without a directory is the last that is read. -/
theorem Reads.exists_eq_concat {texts : List String} {arguments : List Argument}
    (reads : Reads texts arguments) (missing : .missingDirectory ∈ arguments) :
    ∃ before others, texts = before ++ [outputSpelling] ∧ Reads before others ∧
      .missingDirectory ∉ others := by
  obtain ⟨front, back, rfl⟩ := List.append_of_mem missing
  obtain ⟨before, after, rfl, ofFront, ofBack, complete⟩ := reads.split
  refine ⟨before, front, ?_, ofFront, complete (List.cons_ne_nil _ _)⟩
  cases ofBack
  rfl

/-- **A text is taken for a directory** exactly if an announcement without one stands before it. -/
theorem isDirectory_iff {front : List String} {text : String} {back : List String} :
    IsDirectory front text back ↔ .missingDirectory ∈ scan front := by
  constructor
  · rintro ⟨arguments, others, rfl, reads⟩
    obtain ⟨before, after, _, ofBefore, _, complete⟩ := reads.split
    have ofFront := ofBefore.append (complete (List.cons_ne_nil _ _)) .missing
    rw [← ofBefore.flatMap_spelled] at ofFront
    rw [← ofFront.eq_scan]
    exact List.mem_append_right _ List.mem_cons_self
  · intro missing
    obtain ⟨before, arguments, rfl, ofBefore, complete⟩ :=
      (reads_scan front).exists_eq_concat missing
    refine ⟨arguments, scan back, by rw [ofBefore.flatMap_spelled], ?_⟩
    rw [List.append_assoc]
    exact ofBefore.append complete (.directory text (reads_scan back))

theorem scan_append {front : List String} (complete : .missingDirectory ∉ scan front)
    (back : List String) : scan (front ++ back) = scan front ++ scan back :=
  ((reads_scan front).append complete (reads_scan back)).eq_scan.symm

/-- What gives no directory can as well stand at the end. -/
theorem Agree.moved (front back : List Argument) {argument : Argument}
    (noDirectory : argument.directory? = none) :
    Agree (front ++ argument :: back) (front ++ back ++ [argument]) := by
  refine ⟨fun known => List.Perm.mem_iff ?_, ?_⟩
  · rw [List.append_assoc]
    exact (List.perm_append_singleton argument back).symm.append_left front
  · simp only [List.filterMap_append, List.filterMap_cons_none noDirectory, List.filterMap_nil,
      List.append_nil]

end Argument

namespace Command

/-- **The switch changes the command in nothing else**, unless it is taken for a directory. -/
theorem ofArguments_verbose (first : String) {front back : List String}
    (notDirectory : ¬ Argument.IsDirectory front "--verbose" back) :
    ofArguments first (front ++ "--verbose" :: back) =
      (ofArguments first (front ++ back)).turnOn .verbose := by
  have complete := mt Argument.isDirectory_iff.mpr notDirectory
  have ofSwitch : Argument.scan ("--verbose" :: back) = .switch .verbose :: Argument.scan back :=
    Argument.scan_cons (by decide) back
  calc ofArguments first (front ++ "--verbose" :: back)
      = (Argument.scan front ++ Argument.switch .verbose :: Argument.scan back).foldl extend
          (ofFirst first) := by
        rw [ofArguments, Argument.scan_append complete, ofSwitch]
    _ = (Argument.scan front ++ Argument.scan back ++ [Argument.switch .verbose]).foldl extend
          (ofFirst first) := foldl_extend_congr (.moved _ _ rfl) _
    _ = ((Argument.scan front ++ Argument.scan back).foldl extend
          (ofFirst first)).turnOn .verbose := by
        rw [List.foldl_append]
        rfl
    _ = (ofArguments first (front ++ back)).turnOn .verbose := by
        rw [ofArguments, Argument.scan_append complete]

end Command

/-! ### What is left without debug events -/

/-- A log without its events at debug level. -/
def withoutDebug (log : List Event) : List Event :=
  log.filter fun event => event.level ≠ .debug

theorem withoutDebug_shownEvents (verbose : Bool) (log : List Event) :
    withoutDebug (shownEvents verbose log) = withoutDebug log := by
  unfold withoutDebug shownEvents
  rw [List.filter_filter]
  refine List.filter_congr fun event _ => ?_
  by_cases hidden : event.level = .debug
  · simp [hidden]
  · simp [hidden]

/-- An outcome without the debug events of its log. -/
def Outcome.withoutDebug (outcome : Outcome) : Outcome :=
  { outcome with log := TypeChart.withoutDebug outcome.log }

/-! ### Two runs -/

section Hosts

variable {m : Type → Type} [Monad m] (parser : Json.Parser) (host : Host m)

/-- **No part of a run looks at the switch.** -/
theorem Command.execute_turnOn_verbose (command : Command) :
    (command.turnOn .verbose).execute parser host = command.execute parser host :=
  rfl

variable [LawfulMonad m]

/-- Hiding some of the report comes after all else. -/
theorem Command.withoutDebug_run (command : Command) :
    Outcome.withoutDebug <$> command.run parser host =
      Outcome.withoutDebug <$> command.execute parser host := by
  unfold Command.run
  rw [map_bind, map_eq_pure_bind]
  apply bind_congr
  intro outcome
  rw [map_pure]
  show pure (Outcome.mk _ (TypeChart.withoutDebug (shownEvents _ _))) = pure _
  rw [withoutDebug_shownEvents]
  rfl

/-- **Two runs that differ in the switch** do the same with any outside, and differ in nothing but
debug events. -/
theorem withoutDebug_run_verbose (first : String) {front back : List String}
    (notDirectory : ¬ Argument.IsDirectory front "--verbose" back) :
    Outcome.withoutDebug <$> run parser host (first :: (front ++ "--verbose" :: back)) =
      Outcome.withoutDebug <$> run parser host (first :: (front ++ back)) := by
  show Outcome.withoutDebug <$>
      (Command.ofArguments first (front ++ "--verbose" :: back)).run parser host =
    Outcome.withoutDebug <$> (Command.ofArguments first (front ++ back)).run parser host
  rw [Command.withoutDebug_run, Command.withoutDebug_run,
    Command.ofArguments_verbose first notDirectory, Command.execute_turnOn_verbose]

end Hosts

namespace FileSystem

/-- **A verbose run differs in debug events only.** Put the switch anywhere behind the first
argument where it is not taken for a directory: exit code, error stream and all that is left in the
file system are the same, and so is the log without its debug events. -/
theorem run_verbose {σ : Type} (parser : Json.Parser) (files : FileSystem σ) (state : σ)
    (first : String) {front back : List String} (notDirectory : ¬ Argument.IsDirectory front "--verbose" back) :
    let quiet := files.run parser state (first :: (front ++ back))
    let verbose := files.run parser state (first :: (front ++ "--verbose" :: back))
    verbose.1.ending.exitCode = quiet.1.ending.exitCode ∧
      verbose.1.ending.errorText = quiet.1.ending.errorText ∧
      verbose.2 = quiet.2 ∧
      verbose.1.log.filter (fun event => event.level ≠ .debug) =
        quiet.1.log.filter (fun event => event.level ≠ .debug) := by
  intro quiet verbose
  have same : (verbose.1.withoutDebug, verbose.2) = (quiet.1.withoutDebug, quiet.2) :=
    congrArg (fun action => (action.run state).run)
      (withoutDebug_run_verbose parser files.host first notDirectory)
  obtain ⟨outcomes, states⟩ := Prod.mk.inj same
  obtain ⟨endings, logs⟩ := Outcome.mk.inj outcomes
  exact ⟨congrArg Ending.exitCode endings, congrArg Ending.errorText endings, states, logs⟩

/-- The sample has a type that is passed over, and this is said only on request. Behind the
announcement the switch would be a directory. -/
theorem run_verbose_sample :
    let tree : FileTree := { entries := [(["out"], .directory)] }
    let quiet := FileTree.system.run Json.parser tree ["--sample", "--outputDir", "out"]
    let verbose := FileTree.system.run Json.parser tree ["--sample", "--outputDir", "out", "--verbose"]
    Argument.IsDirectory ["--outputDir"] "--verbose" ["out"] ∧
      ¬ Argument.IsDirectory ["--outputDir", "out"] "--verbose" [] ∧
      verbose.1.ending.exitCode = quiet.1.ending.exitCode ∧ verbose.2 = quiet.2 ∧
      verbose.1.log.filter (fun event => event.level ≠ .debug) =
        quiet.1.log.filter (fun event => event.level ≠ .debug) ∧
      quiet.1.log.length = 2 ∧ verbose.1.log.length = 4 := by
  intro tree quiet verbose
  have isDirectory : Argument.IsDirectory ["--outputDir"] "--verbose" ["out"] :=
    Argument.isDirectory_iff.mpr (by decide)
  have notDirectory : ¬ Argument.IsDirectory ["--outputDir", "out"] "--verbose" [] :=
    mt Argument.isDirectory_iff.mp (by decide)
  obtain ⟨code, _, files, log⟩ := run_verbose Json.parser FileTree.system tree "--sample" notDirectory
  exact ⟨isDirectory, notDirectory, code, files, log, by decide +kernel, by decide +kernel⟩

end FileSystem

end TypeChart
