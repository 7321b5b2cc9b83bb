import Mathlib.Data.List.Forall2
import Parsing.Cli.Run

/-!
# A demonstration runs all its cases or none

Every case names a grammar. When the registry knows each name, running the cases gives one outcome
per case, in order, holding what the grammar read or the text of its parse error: exactly one of
the two, so the line that would say there is no result is never written. Otherwise the run fails
with the first unknown name in case order, and that is the only way it fails. The command line
writes only after the whole run, so it writes every line with exit code 0, or no line and the
error with exit code 1.
-/

namespace Parsing

set_option autoImplicit false

namespace Grammar

def Registered (name : String) : Prop := name ∈ all.map (·.name)

instance (name : String) : Decidable (Registered name) := inferInstanceAs (Decidable (_ ∈ _))

theorem lookup_of_registered {name : String} (known : Registered name) :
    ∃ g, lookup name = .ok g := by
  cases found : all.find? (·.name == name) with
  | some g => exact ⟨g, by simp [lookup, found]⟩
  | none =>
      obtain ⟨g, member, named⟩ := List.mem_map.mp known
      have := List.find?_eq_none.mp found g member
      simp [named] at this

theorem lookup_of_unregistered {name : String} (unknown : ¬ Registered name) :
    lookup name = .error (.unknownGrammar name) := by
  have missing : all.find? (·.name == name) = none := by
    rw [List.find?_eq_none]
    intro g member named
    exact unknown (List.mem_map.mpr ⟨g, member, by simpa using named⟩)
  simp [lookup, missing]

end Grammar

open Grammar

namespace CaseOutcome

/-- The outcome reports the case: its grammar and input, and the strings that the grammar of that
name read from the input as the value with no error, or no value and the text of the parse
error. -/
def Reports (k : DemoCase) (o : CaseOutcome) : Prop :=
  o.grammar = k.grammar ∧ o.input = k.input ∧
    ∃ g, lookup k.grammar = .ok g ∧
      match g.run k.input with
      | .ok values => o.value = some values ∧ o.error = none
      | .error e => o.value = none ∧ o.error = some e.display

theorem Reports.one_result {k : DemoCase} {o : CaseOutcome} (reports : Reports k o) :
    o.value.isSome ≠ o.error.isSome := by
  obtain ⟨-, -, g, -, read⟩ := reports
  split at read <;> simp [read.1, read.2]

theorem Reports.each_one_result {ks : List DemoCase} {os : List CaseOutcome}
    (reported : List.Forall₂ Reports ks os) :
    ∀ o ∈ os, o.value.isSome ≠ o.error.isSome := by
  induction reported with
  | nil => simp
  | cons reports _ induction =>
      intro o member
      rcases List.mem_cons.mp member with rfl | later
      · exact reports.one_result
      · exact induction o later

end CaseOutcome

open CaseOutcome

/-- `name` is the grammar of the first case, in case order, whose grammar the registry does not
know. -/
def FirstUnknown (cases : List DemoCase) (name : String) : Prop :=
  ∃ before k after, cases = before ++ k :: after ∧ (∀ b ∈ before, Registered b.grammar) ∧
    ¬ Registered k.grammar ∧ k.grammar = name

theorem first_unknown_nil (name : String) : ¬ FirstUnknown [] name := by
  rintro ⟨before, k, after, split, -⟩
  simp at split

theorem first_unknown_cons (k : DemoCase) (ks : List DemoCase) (name : String) :
    FirstUnknown (k :: ks) name ↔
      (¬ Registered k.grammar ∧ k.grammar = name) ∨
        (Registered k.grammar ∧ FirstUnknown ks name) := by
  constructor
  · rintro ⟨before, k', after, split, known, unknown, named⟩
    cases before with
    | nil =>
        cases split
        exact .inl ⟨unknown, named⟩
    | cons b before =>
        obtain ⟨same, rest⟩ := List.cons_eq_cons.mp split
        subst same rest
        exact .inr ⟨known k (by simp), before, k', after, rfl,
          fun b member => known b (by simp [member]), unknown, named⟩
  · rintro (⟨unknown, named⟩ | ⟨known, before, k', after, rfl, earlier, unknown, named⟩)
    · exact ⟨[], k, ks, rfl, by simp, unknown, named⟩
    · refine ⟨k :: before, k', after, rfl, ?_, unknown, named⟩
      intro b member
      rcases List.mem_cons.mp member with rfl | later
      · exact known
      · exact earlier b later

namespace DemoCase

theorem run_of_unregistered {k : DemoCase} (unknown : ¬ Registered k.grammar) :
    k.run = .error (.unknownGrammar k.grammar) := by
  simp [run, lookup_of_unregistered unknown, bind, Except.bind]

theorem run_of_registered {k : DemoCase} (known : Registered k.grammar) :
    ∃ o, k.run = .ok o ∧ Reports k o := by
  obtain ⟨g, found⟩ := lookup_of_registered known
  cases read : g.run k.input with
  | ok values =>
      refine ⟨⟨k.grammar, k.input, some values, none⟩, ?_, rfl, rfl, g, found, ?_⟩
      · simp [run, found, read, bind, Except.bind, pure, Except.pure]
      · simp [read]
  | error e =>
      refine ⟨⟨k.grammar, k.input, none, some e.display⟩, ?_, rfl, rfl, g, found, ?_⟩
      · simp [run, found, read, bind, Except.bind, pure, Except.pure]
      · simp [read]

theorem run_cases (k : DemoCase) :
    (¬ Registered k.grammar ∧ k.run = .error (.unknownGrammar k.grammar)) ∨
    (Registered k.grammar ∧ ∃ o, k.run = .ok o ∧ Reports k o) := by
  by_cases known : Registered k.grammar
  · exact .inr ⟨known, run_of_registered known⟩
  · exact .inl ⟨known, run_of_unregistered known⟩

theorem run_reports {k : DemoCase} {o : CaseOutcome} (ran : k.run = .ok o) : Reports k o := by
  rcases run_cases k with ⟨-, failed⟩ | ⟨-, o', ran', reports⟩
  · rw [ran] at failed
    cases failed
  · rw [ran] at ran'
    cases ran'
    exact reports

end DemoCase

/-! ## Running the cases in order -/

section Cases

variable (cases : List DemoCase) {k : DemoCase} (ks : List DemoCase)

theorem map_run_cons_of_error {e : Error} (failed : k.run = .error e) :
    (k :: ks).mapM DemoCase.run = .error e := by
  simp [List.mapM_cons, failed, bind, Except.bind]

theorem map_run_cons_of_ok {o : CaseOutcome} (ran : k.run = .ok o) :
    (k :: ks).mapM DemoCase.run = (ks.mapM DemoCase.run).map (o :: ·) := by
  simp only [List.mapM_cons, ran, bind, Except.bind, pure, Except.pure]
  cases ks.mapM DemoCase.run <;> rfl

theorem run_cases_eq_unknown_iff (name : String) :
    cases.mapM DemoCase.run = .error (.unknownGrammar name) ↔ FirstUnknown cases name := by
  induction cases with
  | nil => simp [first_unknown_nil, pure, Except.pure]
  | cons k ks induction =>
      rw [first_unknown_cons]
      rcases DemoCase.run_cases k with ⟨unknown, failed⟩ | ⟨known, o, ran, -⟩
      · rw [map_run_cons_of_error ks failed]
        simp [unknown]
      · rw [map_run_cons_of_ok ks ran, ← induction]
        cases ks.mapM DemoCase.run <;> simp [Except.map, known]

theorem run_cases_error_unknown {e : Error} (failed : cases.mapM DemoCase.run = .error e) :
    ∃ name, e = .unknownGrammar name := by
  induction cases with
  | nil => cases failed
  | cons k ks induction =>
      rcases DemoCase.run_cases k with ⟨-, failedAt⟩ | ⟨-, o, ran, -⟩
      · rw [map_run_cons_of_error ks failedAt] at failed
        cases failed
        exact ⟨_, rfl⟩
      · rw [map_run_cons_of_ok ks ran] at failed
        cases rest : ks.mapM DemoCase.run with
        | error e' =>
            rw [rest] at failed
            cases failed
            exact induction rest
        | ok os => rw [rest] at failed; cases failed

theorem run_cases_ok_reports {os : List CaseOutcome} (ran : cases.mapM DemoCase.run = .ok os) :
    List.Forall₂ Reports cases os := by
  induction cases generalizing os with
  | nil =>
      cases ran
      exact .nil
  | cons k ks induction =>
      cases first : k.run with
      | error e => rw [map_run_cons_of_error ks first] at ran; cases ran
      | ok o =>
          rw [map_run_cons_of_ok ks first] at ran
          cases rest : ks.mapM DemoCase.run with
          | error e => rw [rest] at ran; cases ran
          | ok os' =>
              rw [rest] at ran
              cases ran
              exact .cons (DemoCase.run_reports first) (induction rest)

theorem run_cases_ok_iff :
    (∃ os, cases.mapM DemoCase.run = .ok os) ↔ ∀ k ∈ cases, Registered k.grammar := by
  induction cases with
  | nil => simp [pure, Except.pure]
  | cons k ks induction =>
      rw [List.forall_mem_cons, ← induction]
      rcases DemoCase.run_cases k with ⟨unknown, failed⟩ | ⟨known, o, ran, -⟩
      · rw [map_run_cons_of_error ks failed]
        simp [unknown]
      · rw [map_run_cons_of_ok ks ran]
        cases ks.mapM DemoCase.run <;> simp [Except.map, known]

end Cases

namespace DemoConfig

/-- Running a configuration runs all its cases or none: it fails exactly with the first unknown
grammar and in no other way, and it succeeds exactly when every grammar is known, with one
outcome reporting each case, in order, and holding one result. -/
structure RunsAllOrNone (c : DemoConfig) : Prop where
  fails_at_first_unknown : ∀ name,
    c.runAll = .error (.unknownGrammar name) ↔ FirstUnknown c.cases name
  fails_only_on_unknown : ∀ e, c.runAll = .error e → ∃ name, e = .unknownGrammar name
  succeeds_iff_known : (∃ os, c.runAll = .ok os) ↔ ∀ k ∈ c.cases, Registered k.grammar
  reports_each_case : ∀ os, c.runAll = .ok os → List.Forall₂ Reports c.cases os
  one_result_each : ∀ os, c.runAll = .ok os → ∀ o ∈ os, o.value.isSome ≠ o.error.isSome

theorem runs_all_or_none (c : DemoConfig) : c.RunsAllOrNone where
  fails_at_first_unknown := run_cases_eq_unknown_iff c.cases
  fails_only_on_unknown _ failed := run_cases_error_unknown c.cases failed
  succeeds_iff_known := run_cases_ok_iff c.cases
  reports_each_case _ ran := run_cases_ok_reports c.cases ran
  one_result_each _ ran := Reports.each_one_result (run_cases_ok_reports c.cases ran)

end DemoConfig

namespace Cli

/-- What the command line writes for the cases it selected: when a grammar is unknown, no line
and only the error naming the first unknown grammar, with exit code 1; else one line for each
case, in order, with exit code 0. -/
structure WritesAllOrNone (output : Output) (cases : List DemoCase) (format : OutputFormat) :
    Prop where
  unknown : ∀ name, FirstUnknown cases name →
    output = ⟨1, "", "Error: Unknown grammar: " ++ name ++ "\n"⟩
  known : (∀ k ∈ cases, Registered k.grammar) → ∃ os, List.Forall₂ Reports cases os ∧
    output = ⟨0, String.join (os.map fun o => o.render format ++ "\n"), ""⟩

section Execute

variable {o : Options} {files : String → FileRead} {config : DemoConfig}

theorem execute_eq_of_config (listing : o.list = false)
    (loaded : loadConfig files o.config = .ok config) :
    o.execute files =
      match (o.selectCases config).mapM DemoCase.run with
      | .ok os =>
        ⟨0, String.join (os.map fun x => x.render (o.format.getD config.format) ++ "\n"), ""⟩
      | .error e => ⟨1, "", "Error: " ++ e.message ++ "\n"⟩ := by
  rw [Options.execute, if_neg (by simp [listing])]
  simp only [loaded, DemoConfig.runAll, bind, Except.bind, pure, Except.pure]
  cases (o.selectCases config).mapM DemoCase.run <;> rfl

theorem execute_writes_all_or_none (listing : o.list = false)
    (loaded : loadConfig files o.config = .ok config) :
    WritesAllOrNone (o.execute files) (o.selectCases config) (o.format.getD config.format) where
  unknown name first := by
    rw [execute_eq_of_config listing loaded, (run_cases_eq_unknown_iff _ name).mpr first]
    -- the message read off by unfolding: its equation lemmas are costly to generate
    show Output.mk 1 "" ("Error: " ++ (toString "Unknown grammar: " ++ toString name) ++ "\n") = _
    simp only [toString, ← String.append_assoc]
    rfl
  known allKnown := by
    obtain ⟨os, ran⟩ := (run_cases_ok_iff _).mpr allKnown
    refine ⟨os, run_cases_ok_reports _ ran, ?_⟩
    rw [execute_eq_of_config listing loaded, ran]

end Execute

end Cli

/-- A demonstration runs all its cases or none: running a configuration fails exactly with its
first unknown grammar, or gives one outcome with one result for each case; and the command line,
once its configuration is read, writes every line with exit code 0 or no line and the error with
exit code 1. -/
theorem demo_runs_all_cases_or_none :
    (∀ c : DemoConfig, c.RunsAllOrNone) ∧
    ∀ (o : Cli.Options) (files : String → Cli.FileRead) (config : DemoConfig),
      o.list = false → Cli.loadConfig files o.config = .ok config →
        Cli.WritesAllOrNone (o.execute files) (o.selectCases config)
          (o.format.getD config.format) :=
  ⟨DemoConfig.runs_all_or_none, fun _ _ _ listing loaded =>
    Cli.execute_writes_all_or_none listing loaded⟩

theorem misspelt_grammar_writes_only_the_error :
    (⟨none, some "Word", none, false, some "abc"⟩ : Cli.Options).list = false ∧
    Cli.loadConfig (fun _ => .cannotOpen "") none = .ok DemoConfig.default ∧
    (⟨none, some "Word", none, false, some "abc"⟩ : Cli.Options).execute
        (fun _ => .cannotOpen "") = ⟨1, "", "Error: Unknown grammar: Word\n"⟩ :=
  ⟨rfl, rfl, (demo_runs_all_cases_or_none.2 _ _ DemoConfig.default rfl rfl).unknown "Word"
    ⟨[], ⟨"Word", "abc"⟩, [], rfl, by simp, by simp [Registered, Grammar.all], rfl⟩⟩

end Parsing
