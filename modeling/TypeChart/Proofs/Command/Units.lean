/-
**A command line, unit by unit.**

What a text of the command line means depends on all texts before it: an announcement takes the
text behind it for its directory, even one that is spelled like a switch or like another
announcement. `Argument.Reads` is the grammar of this. It reads every command line in one way, and
what is read can be spelled again in one way.

Of all that is read, two things count: which switches occur, and which directories are given in
which order. So a command line can be rearranged without a change to what it asks for, as long as
no two directories change places and an announcement without a directory stays at the end.

* `Argument.reads_iff`: the grammar reads what scanning reads.
* `Argument.Reads.append`, `Argument.Reads.split`: command lines behind each other.
* `Command.foldl_extend_congr`: what counts of the arguments of a command.
* `Argument.Step`, `Argument.Step.agree`: one rearrangement and what it keeps.
* `Argument.Reads.of_steps`: any number of them.
* `Command.ofArguments_reads`: all of this of every command line.
-/

import Mathlib.Logic.Relation
import TypeChart.Command.Arguments

namespace TypeChart

namespace Switch

theorem ofSpelling?_eq_some_iff {text : String} {known : Switch} :
    ofSpelling? text = some known ↔ text = known.spelling := by
  constructor
  · intro found
    unfold ofSpelling? at found
    have same := List.find?_some found
    exact (beq_iff_eq.mp same).symm
  · rintro rfl
    exact known.ofSpelling?_spelling

theorem ofSpelling?_eq_none_iff {text : String} :
    ofSpelling? text = none ↔ ∀ known : Switch, text ≠ known.spelling := by
  rw [Option.eq_none_iff_forall_ne_some]
  exact forall_congr' fun known => not_congr ofSpelling?_eq_some_iff

theorem spelling_ne_output (known : Switch) : known.spelling ≠ Argument.outputSpelling := by
  cases known <;> decide

end Switch

namespace Argument

/-! ### The grammar -/

/-- The grammar of a command line after its first argument. -/
inductive Reads : List String → List Argument → Prop
  | nil : Reads [] []
  /-- The last text announces a directory. -/
  | missing : Reads [outputSpelling] [.missingDirectory]
  | directory (path : String) {rest : List String} {arguments : List Argument}
      (further : Reads rest arguments) :
      Reads (outputSpelling :: path :: rest) (.outputDirectory path :: arguments)
  | switch (known : Switch) {rest : List String} {arguments : List Argument}
      (further : Reads rest arguments) :
      Reads (known.spelling :: rest) (.switch known :: arguments)
  | unknown {text : String} {rest : List String} {arguments : List Argument}
      (notOutput : text ≠ outputSpelling) (notSwitch : ∀ known : Switch, text ≠ known.spelling)
      (further : Reads rest arguments) :
      Reads (text :: rest) (.unknown text :: arguments)

/-- The texts that spell an argument. -/
def spelled : Argument → List String
  | switch known => [known.spelling]
  | outputDirectory path => [outputSpelling, path]
  | missingDirectory => [outputSpelling]
  | unknown text => [text]

/-! ### Scanning -/

theorem single_spelling (known : Switch) : single known.spelling = .switch known := by
  rw [single, known.ofSpelling?_spelling]

theorem single_of_unknown {text : String} (notSwitch : ∀ known : Switch, text ≠ known.spelling) :
    single text = .unknown text := by
  rw [single, Switch.ofSpelling?_eq_none_iff.mpr notSwitch]

theorem scan_cons {text : String} (notOutput : text ≠ outputSpelling) (rest : List String) :
    scan (text :: rest) = single text :: scan rest := by
  cases rest with
  | nil => exact if_neg notOutput
  | cons next rest => exact if_neg notOutput

theorem scan_output (path : String) (rest : List String) :
    scan (outputSpelling :: path :: rest) = .outputDirectory path :: scan rest :=
  if_pos rfl

theorem Reads.single {text : String} {rest : List String} {arguments : List Argument}
    (notOutput : text ≠ outputSpelling) (further : Reads rest arguments) :
    Reads (text :: rest) (Argument.single text :: arguments) := by
  cases found : Switch.ofSpelling? text with
  | some known =>
    obtain rfl := Switch.ofSpelling?_eq_some_iff.mp found
    rw [single_spelling]
    exact .switch known further
  | none =>
    have notSwitch := Switch.ofSpelling?_eq_none_iff.mp found
    rw [single_of_unknown notSwitch]
    exact .unknown notOutput notSwitch further

theorem reads_scan (texts : List String) : Reads texts (scan texts) := by
  induction texts using scan.induct with
  | case1 => exact .nil
  | case2 =>
    exact .missing
  | case3 text notOutput =>
    rw [scan_cons notOutput]
    exact .single notOutput .nil
  | case4 path rest ih =>
    rw [scan_output]
    exact .directory path ih
  | case5 text next rest notOutput ih =>
    rw [scan_cons notOutput]
    exact .single notOutput ih

theorem Reads.eq_scan {texts : List String} {arguments : List Argument}
    (reads : Reads texts arguments) : arguments = scan texts := by
  induction reads with
  | nil => rfl
  | missing => rfl
  | directory path _ ih => rw [scan_output, ih]
  | switch known _ ih => rw [scan_cons known.spelling_ne_output, single_spelling, ih]
  | unknown notOutput notSwitch _ ih => rw [scan_cons notOutput, single_of_unknown notSwitch, ih]

/-- **The grammar reads what scanning reads**, and nothing else. -/
theorem reads_iff {texts : List String} {arguments : List Argument} :
    Reads texts arguments ↔ arguments = scan texts := by
  constructor
  · exact Reads.eq_scan
  · rintro rfl
    exact reads_scan texts

theorem Reads.flatMap_spelled {texts : List String} {arguments : List Argument}
    (reads : Reads texts arguments) : arguments.flatMap spelled = texts := by
  induction reads with
  | nil => rfl
  | missing => rfl
  | directory path _ ih => rw [List.flatMap_cons, ih]; rfl
  | switch known _ ih => rw [List.flatMap_cons, ih]; rfl
  | unknown _ _ _ ih => rw [List.flatMap_cons, ih]; rfl

/-! ### Command lines behind each other -/

/-- A command line is read up to its end before the next one begins, unless it ends in an
announcement. -/
theorem Reads.append {front back : List String} {arguments others : List Argument}
    (reads : Reads front arguments) (complete : .missingDirectory ∉ arguments)
    (further : Reads back others) : Reads (front ++ back) (arguments ++ others) := by
  induction reads with
  | nil => exact further
  | missing => exact absurd List.mem_cons_self complete
  | directory path _ ih => exact .directory path (ih (List.not_mem_of_not_mem_cons complete))
  | switch known _ ih => exact .switch known (ih (List.not_mem_of_not_mem_cons complete))
  | unknown notOutput notSwitch _ ih =>
    exact .unknown notOutput notSwitch (ih (List.not_mem_of_not_mem_cons complete))

/-- What is read first was spelled first, and what follows it is read in its own right. -/
theorem Reads.of_cons {texts : List String} {argument : Argument} {arguments : List Argument}
    (reads : Reads texts (argument :: arguments)) :
    argument = .missingDirectory ∧ arguments = [] ∧ texts = [outputSpelling] ∨
      argument ≠ .missingDirectory ∧ ∃ rest, texts = argument.spelled ++ rest ∧
        Reads argument.spelled [argument] ∧ Reads rest arguments := by
  cases reads with
  | missing => exact .inl ⟨rfl, rfl, rfl⟩
  | directory path further => exact .inr ⟨nofun, _, rfl, .directory path .nil, further⟩
  | switch known further => exact .inr ⟨nofun, _, rfl, .switch known .nil, further⟩
  | unknown notOutput notSwitch further =>
    exact .inr ⟨nofun, _, rfl, .unknown notOutput notSwitch .nil, further⟩

/-- What is read in two parts was spelled in two parts. -/
theorem Reads.split {texts : List String} {front back : List Argument}
    (reads : Reads texts (front ++ back)) :
    ∃ before after, texts = before ++ after ∧ Reads before front ∧ Reads after back ∧
      (back ≠ [] → .missingDirectory ∉ front) := by
  induction front generalizing texts with
  | nil => exact ⟨[], texts, rfl, .nil, reads, fun _ => List.not_mem_nil⟩
  | cons argument front ih =>
    rcases reads.of_cons with ⟨rfl, none, rfl⟩ | ⟨notMissing, rest, rfl, ofArgument, further⟩
    · -- an announcement without a directory is read last, so it is all of the front
      obtain ⟨rfl, rfl⟩ := List.append_eq_nil_iff.mp none
      exact ⟨[outputSpelling], [], rfl, .missing, .nil, fun some => absurd rfl some⟩
    · obtain ⟨before, after, rfl, ofFront, ofBack, complete⟩ := ih further
      have single : .missingDirectory ∉ [argument] :=
        fun member => notMissing (List.mem_singleton.mp member).symm
      refine ⟨argument.spelled ++ before, after, ?_, ofArgument.append single ofFront, ofBack, ?_⟩
      · rw [List.append_assoc]
      · intro some
        exact List.not_mem_cons_of_ne_of_not_mem notMissing.symm (complete some)

/-! ### What counts -/

/-- The directory that an argument gives. -/
def directory? : Argument → Option String
  | outputDirectory path => some path
  | switch _ | missingDirectory | unknown _ => none

/-- Lists of arguments with the same switches, however often and wherever, and with the same
directories in the same order. -/
structure Agree (arguments others : List Argument) : Prop where
  switches : ∀ known : Switch, .switch known ∈ arguments ↔ .switch known ∈ others
  directories : arguments.filterMap directory? = others.filterMap directory?

end Argument

namespace Command

/-- Whether a command has a switch on. -/
def isOn (command : Command) : Switch → Bool
  | .hideClasses => command.options.hideClasses
  | .hideInterfaces => command.options.hideInterfaces
  | .hideEnums => command.options.hideEnums
  | .allAncestors => command.options.allAncestors
  | .byNamespace => command.options.byNamespace
  | .verbose => command.verbose
  | .sample => command.useSample

/-- A command is its switches, its directory and its input. -/
theorem eq_of_isOn_eq {command other : Command}
    (switches : ∀ known, command.isOn known = other.isOn known)
    (directory : command.outputDirectory = other.outputDirectory)
    (input : command.input = other.input) : command = other := by
  obtain ⟨_, _, _, _, ⟨_, _, _, _, _⟩⟩ := command
  obtain ⟨_, _, _, _, ⟨_, _, _, _, _⟩⟩ := other
  obtain rfl : _ = _ := switches .hideClasses
  obtain rfl : _ = _ := switches .hideInterfaces
  obtain rfl : _ = _ := switches .hideEnums
  obtain rfl : _ = _ := switches .allAncestors
  obtain rfl : _ = _ := switches .byNamespace
  obtain rfl : _ = _ := switches .verbose
  obtain rfl : _ = _ := switches .sample
  obtain rfl : _ = _ := directory
  obtain rfl : _ = _ := input
  rfl

theorem isOn_turnOn (command : Command) (on known : Switch) :
    (command.turnOn on).isOn known = (decide (on = known) || command.isOn known) := by
  cases on <;> cases known <;> rfl

/-! ### One more argument -/

theorem isOn_extend {command : Command} {argument : Argument} {known : Switch} :
    (command.extend argument).isOn known = true ↔
      argument = .switch known ∨ command.isOn known = true := by
  cases argument with
  | switch on =>
    show (command.turnOn on).isOn known = true ↔ _
    rw [isOn_turnOn, Bool.or_eq_true, decide_eq_true_iff, Argument.switch.injEq]
  | outputDirectory path => exact (or_iff_right nofun).symm
  | missingDirectory => exact (or_iff_right nofun).symm
  | unknown text => exact (or_iff_right nofun).symm

theorem outputDirectory_extend (command : Command) (argument : Argument) :
    (command.extend argument).outputDirectory =
      argument.directory?.or command.outputDirectory := by
  cases argument with
  | switch on => cases on <;> rfl
  | outputDirectory path => rfl
  | missingDirectory => rfl
  | unknown text => rfl

theorem input_extend (command : Command) (argument : Argument) :
    (command.extend argument).input = command.input := by
  cases argument with
  | switch on => cases on <;> rfl
  | outputDirectory path => rfl
  | missingDirectory => rfl
  | unknown text => rfl

/-! ### All arguments -/

variable {arguments others : List Argument}

theorem isOn_foldl_extend {command : Command} {known : Switch} :
    (arguments.foldl extend command).isOn known = true ↔
      .switch known ∈ arguments ∨ command.isOn known = true := by
  induction arguments generalizing command with
  | nil => exact (or_iff_right List.not_mem_nil).symm
  | cons argument rest ih =>
    rw [List.foldl_cons, ih, isOn_extend, List.mem_cons, or_left_comm, or_assoc, eq_comm]

theorem outputDirectory_foldl_extend (command : Command) :
    (arguments.foldl extend command).outputDirectory =
      (arguments.filterMap Argument.directory?).getLast?.or command.outputDirectory := by
  induction arguments generalizing command with
  | nil => rfl
  | cons argument rest ih =>
    rw [List.foldl_cons, ih, outputDirectory_extend]
    cases given : argument.directory? with
    | none => rw [List.filterMap_cons_none given, Option.none_or]
    | some path =>
      rw [List.filterMap_cons_some given, List.getLast?_cons]
      cases (rest.filterMap Argument.directory?).getLast? with
      | none => rfl
      | some later => rfl

theorem input_foldl_extend (command : Command) :
    (arguments.foldl extend command).input = command.input := by
  induction arguments generalizing command with
  | nil => rfl
  | cons argument rest ih => rw [List.foldl_cons, ih, input_extend]

/-- **Of the arguments of a command, only switches and directories count.** -/
theorem foldl_extend_congr (agree : Argument.Agree arguments others) (command : Command) :
    arguments.foldl extend command = others.foldl extend command := by
  apply eq_of_isOn_eq
  · intro known
    rw [Bool.eq_iff_iff, isOn_foldl_extend, isOn_foldl_extend, agree.switches]
  · rw [outputDirectory_foldl_extend, outputDirectory_foldl_extend, agree.directories]
  · rw [input_foldl_extend, input_foldl_extend]

theorem isOn_ofFirst {first : String} {known : Switch} :
    (ofFirst first).isOn known = true ↔ known = .sample ∧ first = "--sample" := by
  unfold ofFirst
  by_cases sample : first = Switch.sample.spelling
  · rw [if_pos sample]
    refine Iff.trans ?_ (and_iff_left sample).symm
    cases known <;> simp [isOn]
  · rw [if_neg sample]
    refine iff_of_false ?_ fun both => sample both.2
    cases known <;> exact nofun

theorem outputDirectory_ofFirst (first : String) : (ofFirst first).outputDirectory = none := by
  unfold ofFirst
  split
  · rfl
  · rfl

theorem input_ofFirst (first : String) :
    (ofFirst first).input = if first = "--sample" then "" else first := by
  unfold ofFirst
  split
  · rename_i sample
    exact (if_pos sample).symm
  · rename_i other
    exact (if_neg other).symm

end Command

/-! ### Rearranged command lines -/

namespace Argument

/-- A change to a part of a command line. -/
inductive Change : List Argument → List Argument → Prop
  /-- Something of no meaning is left out. -/
  | drop (text : String) : Change [.unknown text] []
  /-- A switch is said once more. -/
  | again (known : Switch) : Change [.switch known] [.switch known, .switch known]
  /-- Neighbours change places, unless both give a directory or one gives none that it should. -/
  | swap {first second : Argument}
      (oneDirectory : first.directory? = none ∨ second.directory? = none)
      (complete : .missingDirectory ∉ [first, second]) :
      Change [first, second] [second, first]

/-- One rearrangement of a command line: a change anywhere. -/
inductive Step : List Argument → List Argument → Prop
  | inside (front : List Argument) {part changed : List Argument} (change : Change part changed)
      (back : List Argument) : Step (front ++ part ++ back) (front ++ changed ++ back)

variable {arguments others part changed : List Argument}

theorem Agree.refl (arguments : List Argument) : Agree arguments arguments :=
  ⟨fun _ => Iff.rfl, rfl⟩

theorem Agree.trans {final : List Argument} (before : Agree arguments others)
    (after : Agree others final) : Agree arguments final :=
  ⟨fun known => (before.switches known).trans (after.switches known),
    before.directories.trans after.directories⟩

theorem Agree.inside (agree : Agree part changed) (front back : List Argument) :
    Agree (front ++ part ++ back) (front ++ changed ++ back) := by
  refine ⟨fun known => ?_, ?_⟩
  · simp only [List.mem_append, agree.switches]
  · simp only [List.filterMap_append, agree.directories]

theorem Change.agree (change : Change part changed) : Agree part changed := by
  cases change with
  | drop text => exact ⟨fun known => by simp, rfl⟩
  | again known => exact ⟨fun other => by simp, rfl⟩
  | swap oneDirectory _ =>
    refine ⟨fun known => by simp [or_comm], ?_⟩
    rcases oneDirectory with none | none
    · simp [List.filterMap_cons, none]
    · simp [List.filterMap_cons, none]

/-- A rearrangement loses no switch and no directory. -/
theorem Step.agree (step : Step arguments others) : Agree arguments others := by
  obtain ⟨front, change, back⟩ := step
  exact change.agree.inside front back

/-- No change is made to an announcement without a directory. -/
theorem Change.complete (change : Change part changed) :
    part ≠ [] ∧ .missingDirectory ∉ part ∧ .missingDirectory ∉ changed := by
  cases change with
  | drop text => simp
  | again known => simp
  | swap _ complete => exact ⟨List.cons_ne_nil _ _, complete, by simpa [and_comm] using complete⟩

theorem Change.reads {texts : List String} (change : Change part changed)
    (reads : Reads texts part) : ∃ others, Reads others changed := by
  cases change with
  | drop text => exact ⟨[], .nil⟩
  | again known => exact ⟨texts ++ texts, reads.append (by simp) reads⟩
  | @swap first second _ complete =>
    rw [← List.singleton_append] at reads
    obtain ⟨before, after, rfl, ofFirst, ofSecond, _⟩ := reads.split
    have notMissing : .missingDirectory ∉ [second] :=
      fun member => complete (List.mem_cons_of_mem first member)
    exact ⟨after ++ before, ofSecond.append notMissing ofFirst⟩

/-- **A rearranged command line can be spelled.** -/
theorem Step.reads {texts : List String} (step : Step arguments others)
    (reads : Reads texts arguments) : ∃ rearranged, Reads rearranged others := by
  obtain ⟨front, change, back⟩ := step
  obtain ⟨some, _, complete⟩ := change.complete
  obtain ⟨before, after, rfl, ofFrontAndPart, ofBack, _⟩ := reads.split
  obtain ⟨before, middle, rfl, ofFront, ofPart, inFront⟩ := ofFrontAndPart.split
  obtain ⟨other, ofChanged⟩ := change.reads ofPart
  have ofBoth := ofFront.append (inFront some) ofChanged
  exact ⟨_, ofBoth.append (by simp [inFront some, complete]) ofBack⟩

/-- **Any number of rearrangements** leave a command line that can be spelled and that agrees with
the first one in all that counts. -/
theorem Reads.of_steps {texts : List String} (reads : Reads texts arguments)
    (steps : Relation.ReflTransGen Step arguments others) :
    Reads (others.flatMap spelled) others ∧ Agree arguments others := by
  induction steps with
  | refl =>
    rw [reads.flatMap_spelled]
    exact ⟨reads, .refl arguments⟩
  | tail _ step ih =>
    obtain ⟨before, agree⟩ := ih
    obtain ⟨rearranged, after⟩ := step.reads before
    refine ⟨?_, agree.trans step.agree⟩
    rw [after.flatMap_spelled]
    exact after

end Argument

/-- **What a command line asks for.** It is read in one way. A switch is on if it occurs, and the
sample is asked for if the first argument says so, too. Of the directories that are given the last
counts, and the first argument is the input unless it asks for the sample. Leaving out what has no
meaning, saying a switch again, and moving switches about changes nothing. -/
theorem Command.ofArguments_reads (first : String) (rest : List String) :
    ∃ arguments, (∀ others, Argument.Reads rest others ↔ others = arguments) ∧
      (∀ known, (ofArguments first rest).isOn known = true ↔
        .switch known ∈ arguments ∨ known = .sample ∧ first = "--sample") ∧
      (ofArguments first rest).outputDirectory =
        (arguments.filterMap Argument.directory?).getLast? ∧
      (ofArguments first rest).input = (if first = "--sample" then "" else first) ∧
      ∀ others, Relation.ReflTransGen Argument.Step arguments others →
        Argument.Reads (others.flatMap Argument.spelled) others ∧
          ofArguments first (others.flatMap Argument.spelled) = ofArguments first rest := by
  refine ⟨Argument.scan rest, fun _ => Argument.reads_iff, fun known => ?_, ?_, ?_, ?_⟩
  · rw [ofArguments, isOn_foldl_extend, isOn_ofFirst]
  · rw [ofArguments, outputDirectory_foldl_extend, outputDirectory_ofFirst, Option.or_none]
  · rw [ofArguments, input_foldl_extend, input_ofFirst]
  · intro others steps
    obtain ⟨reads, agree⟩ := (Argument.reads_scan rest).of_steps steps
    refine ⟨reads, ?_⟩
    rw [ofArguments, ofArguments, ← reads.eq_scan]
    exact (foldl_extend_congr agree _).symm

/-- A directory that is spelled like an announcement, and an announcement at the end. The switch
between them is on, and can as well stand in front. -/
theorem Command.ofArguments_reads_announcements :
    let command := ofArguments "in.json"
      ["--outputDir", "--outputDir", "--verbose", "--quiet", "--outputDir"]
    command.isOn .verbose = true ∧ command.isOn .sample = false ∧
      command.outputDirectory = some "--outputDir" ∧ command.input = "in.json" ∧
      ofArguments "in.json" ["--verbose", "--outputDir", "--outputDir", "--outputDir"] =
        command := by
  have notSwitch : ∀ known : Switch, "--quiet" ≠ known.spelling := by
    intro known
    cases known <;> decide
  obtain ⟨arguments, only, on, directory, input, same⟩ := ofArguments_reads "in.json"
    ["--outputDir", "--outputDir", "--verbose", "--quiet", "--outputDir"]
  obtain rfl := (only _).mp
    (.directory "--outputDir" (.switch .verbose (.unknown (by decide) notSwitch .missing)))
  have steps : Relation.ReflTransGen Argument.Step
      [.outputDirectory "--outputDir", .switch .verbose, .unknown "--quiet", .missingDirectory]
      [.switch .verbose, .outputDirectory "--outputDir", .missingDirectory] :=
    .tail (.single (.inside [] (.swap (.inr rfl) (by decide)) [.unknown "--quiet", _]))
      (.inside [_, _] (.drop "--quiet") [_])
  refine ⟨(on .verbose).mpr (.inl (by decide)), ?_, directory, input, (same _ steps).2⟩
  exact eq_false_of_ne_true fun isOn => absurd ((on .sample).mp isOn) (by decide)

end TypeChart
