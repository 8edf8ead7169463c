import StatementShell.CommandLine
import StatementShell.Proofs.Console.Endurance
import StatementShell.Proofs.Console.SingleInstructions
import StatementShell.Proofs.Files.Opening
/-!
# What the command line reports

The exit code and the standard output say what became of the arguments, whatever is asked of the
log.  A script succeeds if it compiles and nothing in it stops the run; what it wrote before it
failed is shown all the same.
-/

namespace StatementShell

/-! ## Verdicts on scripts -/

/-- Whether a text is a program that nothing in it stops: no deliberate failure, and no pause that
the clock cannot take. -/
def RunsToEnd (text : Text) : Prop :=
  ∃ p, compileMessages text = .program p ∧ ∀ i ∈ p, i.stop? = none

/-- What a text prints: its errors, or its tables up to the first instruction that stops it. -/
inductive Prints (text : Text) : Text → Prop
  | errors {first : Text} {more : List Text} : compileMessages text = .errors first more →
      Prints text (Text.closeLines (first :: more))
  | tables {p : Program} {tables : List Table} : compileMessages text = .program p →
      p.Shows tables → Prints text (Text.closeLines (tables.map Table.render))

theorem succeeded_verdictOn_iff (text : Text) :
    (verdictOn text).succeeded = true ↔ RunsToEnd text := by
  have hends := endsAlone text
  generalize verdictOn text = verdict at hends ⊢
  cases hends with
  | rejected hcompile =>
    refine iff_of_false nofun ?_
    rintro ⟨p, hp, -⟩
    rw [hcompile] at hp
    cases hp
  | completed hcompile hstop _ =>
    exact iff_of_true rfl ⟨_, hcompile, List.findSome?_eq_none_iff.1 hstop⟩
  | failed hcompile hstop _ =>
    refine iff_of_false nofun ?_
    rintro ⟨p, hp, hnone⟩
    rw [hcompile] at hp
    cases hp
    rw [List.findSome?_eq_none_iff.2 hnone] at hstop
    cases hstop

theorem prints_written (text : Text) :
    Prints text (Text.closeLines (compileMessages text).written) := by
  cases hcompile : compileMessages text with
  | errors first more => exact .errors hcompile
  | program p =>
    rw [← hcompile, Compilation.written_of_compileMessages hcompile]
    exact .tables hcompile (Program.shows_of_compileMessages hcompile)

/-! ## Log files that do not matter -/

/-- The log file, if there is to be one, can be opened and is not the script. -/
structure Invocation.LogApart (invocation : Invocation) : Prop where
  opens : ∀ log ∈ (Settings.ofEnvironment invocation.environment).logFile,
    ∃ files, invocation.files.openLog log = .ok files
  apart : ∀ log ∈ (Settings.ofEnvironment invocation.environment).logFile,
    ∀ script, invocation.arguments = [script] → ∀ place,
      invocation.files.resolve (log.absolute invocation.files.workingFolder).toText = .ok place →
        invocation.files.resolve (Path.ofText script).toText ≠ .ok place

namespace CommandLine

variable {invocation : Invocation} {files files' : FileSystem} {input text : Text}
  {arguments : List Text} {path : Path}

/-- Of the files only the script is read. -/
theorem perform_congr (h : ∀ script, arguments = [script] →
    files'.readScript (.ofText script) = files.readScript (.ofText script)) :
    perform files' input arguments = perform files input arguments := by
  match arguments with
  | [] => rfl
  | [script] => exact congrArg runScript (h script rfl)
  | _ :: _ :: _ => rfl

/-- With a log file apart, the shell does what it does without one, and then keeps the log. -/
theorem run_eq_keepLog (h : invocation.LogApart) :
    ∃ files, run invocation = keepLog invocation files
      (perform invocation.files invocation.input invocation.arguments) := by
  unfold run
  dsimp only
  split
  · exact ⟨_, rfl⟩
  · exact ⟨_, rfl⟩
  · rename_i log hlog _
    obtain ⟨files, hopen⟩ := h.opens log hlog
    have hsame : perform files invocation.input invocation.arguments =
        perform invocation.files invocation.input invocation.arguments :=
      perform_congr fun script hscript =>
        FileSystem.readScript_openLog hopen (h.apart log hlog script hscript)
    rw [hopen]
    exact ⟨files, congrArg (keepLog invocation files) hsame⟩

/-! ## Reports -/

theorem ending_runText (text : Text) :
    (runText text).ending = .code (if (verdictOn text).succeeded then 0 else 1) := by
  have hresult := judges_standard {} text
  unfold runText
  generalize ({} : Dispatcher).dispatch .standard {} text = dispatched at hresult ⊢
  dsimp only
  rw [hresult]

theorem output_runText (text : Text) :
    (runText text).output = Text.closeLines (compileMessages text).written :=
  output_dispatch_standard {}

theorem ending_runSession (input : Text) : (runSession input).ending = .code 0 := by
  obtain ⟨-, -, dispatcher, hnext⟩ := Session.takes_fresh (s := {}) rfl rfl
    (Keystroke.weave input [])
  unfold runSession
  dsimp only
  rw [hnext]
  rfl

theorem readScript_of_read_eq_error {fault : PathFault} (h : files.read path.toText = .error fault)
    (hfault : fault ≠ .tooLong) : files.readScript path = .error (.missing path) := by
  rw [FileSystem.readScript, h]
  cases fault <;> first | rfl | contradiction

theorem readScript_of_decode {bytes : List UInt8} (h : files.read path.toText = .ok bytes)
    (hdecode : Utf8.decode bytes = .ok text) :
    files.readScript path = .ok (Newline.normalize text) := by
  rw [FileSystem.readScript, h, StatementShell.readScript, decodeScript, hdecode]

structure Reports (invocation : Invocation) (report : CommandReport) : Prop where
  refused : 2 ≤ invocation.arguments.length →
    report.ending = .code 2 ∧ report.output = [] ∧ report.errorOutput = usage ++ ['\n'] ∧
      report.log = []
  session : invocation.arguments = [] → report.ending = .code 0
  missing : ∀ script fault, invocation.arguments = [script] →
    invocation.files.read (Path.ofText script).toText = .error fault → fault ≠ .tooLong →
      report.ending = .code 1 ∧
        report.output = "File not found: " ++ (Path.ofText script).toText ++ ['\n']
  /-- A path that is too long to be looked up ends the shell without a word to the user. -/
  tooLong : ∀ script, invocation.arguments = [script] →
    invocation.files.read (Path.ofText script).toText = .error .tooLong →
      report.ending = .script (.tooLong (.ofText script)) ∧ report.output = []
  ran : ∀ script bytes text, invocation.arguments = [script] →
    invocation.files.read (Path.ofText script).toText = .ok bytes → Utf8.decode bytes = .ok text →
      (RunsToEnd (Newline.normalize text) → report.ending = .code 0) ∧
      (¬ RunsToEnd (Newline.normalize text) → report.ending = .code 1) ∧
      Prints (Newline.normalize text) report.output

theorem reports_keepLog (invocation : Invocation) (files : FileSystem) :
    Reports invocation (keepLog invocation files
      (perform invocation.files invocation.input invocation.arguments)) where
  refused h := by
    match harguments : invocation.arguments, h with
    | _ :: _ :: _, _ => exact ⟨rfl, rfl, rfl, rfl⟩
  session h := by
    rw [h]
    exact ending_runSession invocation.input
  missing script fault h hread hfault := by
    rw [h, perform, readScript_of_read_eq_error hread hfault]
    exact ⟨rfl, rfl⟩
  tooLong script h hread := by
    rw [h, perform, FileSystem.readScript, hread]
    exact ⟨rfl, rfl⟩
  ran script bytes text h hread hdecode := by
    rw [h, perform, readScript_of_decode hread hdecode]
    have hending := ending_runText (Newline.normalize text)
    refine ⟨fun hruns => ?_, fun hruns => ?_, ?_⟩
    · rw [if_pos ((succeeded_verdictOn_iff _).2 hruns)] at hending
      exact hending
    · rw [if_neg (mt (succeeded_verdictOn_iff _).1 hruns)] at hending
      exact hending
    · have houtput := prints_written (Newline.normalize text)
      rw [← output_runText] at houtput
      exact houtput

/-- The shell reports what became of its arguments, and the settings of the log make no difference
to its exit code and its standard output. -/
theorem run_reports (h : invocation.LogApart) :
    Reports invocation (run invocation) ∧
    ∀ other : Invocation, other.LogApart → other.arguments = invocation.arguments →
      other.files = invocation.files → other.input = invocation.input →
        (run other).ending = (run invocation).ending ∧
          (run other).output = (run invocation).output := by
  obtain ⟨files, hrun⟩ := run_eq_keepLog h
  rw [hrun]
  refine ⟨reports_keepLog invocation files, fun other hother harguments hfiles hinput => ?_⟩
  obtain ⟨files', hrun'⟩ := run_eq_keepLog hother
  rw [hrun', harguments, hfiles, hinput]
  exact ⟨rfl, rfl⟩

theorem run_reports_failed_script :
    let text := "select 1;raise 'x'".toList
    let bytes := text.map fun c => UInt8.ofNat c.toNat
    let invocation : Invocation :=
      { arguments := ["s.pxe".toList]
        files := { entries := [(["s.pxe".toList], .file bytes)] }
        environment := [(Settings.logFileVariable, "run.log".toList),
          (Settings.levelVariable, "error".toList)] }
    (run invocation).ending = .code 1 ∧ Prints text (run invocation).output := by
  intro text bytes invocation
  have hlog : (Settings.ofEnvironment invocation.environment).logFile =
      some (.ofText "run.log".toList) := by
    decide +kernel
  have hapart : invocation.LogApart := by
    constructor
    · rw [hlog]
      rintro _ ⟨⟩
      exact ⟨_, rfl⟩
    · rw [hlog]
      rintro _ ⟨⟩ _ ⟨⟩ place hplace
      have hplaces : invocation.files.resolve
          ((Path.ofText "run.log".toList).absolute invocation.files.workingFolder).toText ≠
            invocation.files.resolve (Path.ofText "s.pxe".toList).toText := by
        decide +kernel
      exact fun hsame => hplaces (hplace.trans hsame.symm)
  have hcompile : compileMessages text =
      .program [.select [⟨.int 1, none⟩], .raise ['x'] ⟨1, 10⟩] := by
    decide +kernel
  obtain ⟨-, hstops, hprints⟩ := (run_reports hapart).1.ran "s.pxe".toList bytes text rfl
    (by decide +kernel) (by decide +kernel)
  have htext : Newline.normalize text = text := by decide +kernel
  rw [htext] at hstops hprints
  refine ⟨hstops ?_, hprints⟩
  rintro ⟨p, hp, hnone⟩
  rw [hcompile] at hp
  cases hp
  exact absurd (hnone _ (List.mem_cons_of_mem _ List.mem_cons_self)) nofun

/-- A name of 256 bytes names no file, and no file system takes it. -/
theorem run_name_too_long :
    let script : Text := List.replicate 256 'a'
    let invocation : Invocation := { arguments := [script] }
    invocation.LogApart ∧ invocation.files.read (Path.ofText script).toText = .error .tooLong ∧
      (run invocation).ending = .script (.tooLong (.ofText script)) ∧
      (run invocation).output = [] := by
  exact ⟨⟨nofun, nofun⟩, by decide +kernel, by decide +kernel, by decide +kernel⟩

end CommandLine

end StatementShell
