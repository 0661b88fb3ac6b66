import LuceneQuery.Command
import LuceneQuery.Proofs.WrittenFiles

/-!
# What commands leave behind

A command that fails has printed nothing and changed nothing. Only making a settings file changes
the files: one of them is put where the command says, and everywhere else they stay as they were.
-/

namespace LuceneQuery

set_option autoImplicit false

namespace Surroundings

/-- The source is there, and its bytes are the text. -/
def SourceHolds (around : Surroundings) (source text : Text) : Prop :=
  if source = ['-'] then around.input = encoded text
  else pathProblem? source = none ∧
    ∃ location, around.tree.locate (around.directory.follow source) = .ok location ∧
      around.tree.at? location = some (.file (encoded text))

theorem read_source_eq_ok (around : Surroundings) (source text : Text) :
    around.readSource source = .ok text ↔ around.SourceHolds source text := by
  unfold readSource SourceHolds
  by_cases hyphen : source = ['-']
  · simp only [hyphen, BEq.rfl, if_true]
    refine Iff.trans ?_ (FileTree.text_of_eq_ok around.input text)
    cases FileTree.textOf around.input <;> simp
  · simp only [beq_iff_eq, if_neg hyphen, FileTree.readFrom]
    refine Iff.trans ?_ (around.tree.read_given_eq_ok source _ text)
    cases around.tree.readGiven source (around.directory.follow source) <;> simp

/-- The settings load, the source holds a document, and it builds the query under the settings. -/
def Answers (around : Surroundings) (source : Text) (query : Query) : Prop :=
  ∃ effective text document,
    Settings.load around.tree around.home around.directory = .ok effective ∧
    around.SourceHolds source text ∧ Document.read text = .ok document ∧
    document.build effective.settings around.now = .ok query

/-- What becomes of the source once the settings are loaded. -/
def answer (around : Surroundings) (source : Text) (settings : Settings) :
    Except DocumentError Query :=
  (do Document.read (← around.readSource source)) >>= fun document =>
    document.build settings around.now

theorem answers_iff (around : Surroundings) (source : Text) (query : Query) :
    around.Answers source query ↔ ∃ effective,
      Settings.load around.tree around.home around.directory = .ok effective ∧
      around.answer source effective.settings = .ok query := by
  unfold Answers answer
  simp only [bind_eq_ok, read_source_eq_ok]
  refine exists_congr fun effective => ⟨?_, ?_⟩
  · rintro ⟨text, document, loaded, holds, read, built⟩
    exact ⟨loaded, document, ⟨text, holds, read⟩, built⟩
  · rintro ⟨loaded, document, ⟨text, holds, read⟩, built⟩
    exact ⟨text, document, loaded, holds, read, built⟩

theorem render_answered (around : Surroundings) (source : Text) (explain : Bool) (query : Query)
    (answers : around.Answers source query) :
    ∃ notices, around.render source explain =
      .done around.tree notices (queryText query explain) := by
  obtain ⟨effective, loaded, answered⟩ := (around.answers_iff source query).mp answers
  unfold answer at answered
  unfold render withSettings
  simp only [loaded, answered]
  exact ⟨_, rfl⟩

theorem render_unanswered (around : Surroundings) (source : Text) (explain : Bool)
    (unanswered : ∀ query, ¬ around.Answers source query) :
    ∃ notices problem hint, around.render source explain =
      .failed around.tree notices problem hint := by
  simp only [answers_iff] at unanswered
  unfold render withSettings
  cases loaded : Settings.load around.tree around.home around.directory with
  | error problem => exact ⟨_, _, _, rfl⟩
  | ok effective =>
      cases answered : around.answer source effective.settings with
      | ok query => exact absurd ⟨effective, loaded, answered⟩ (unanswered query)
      | error problem =>
          unfold answer at answered
          simp only [answered]
          exact ⟨_, _, _, rfl⟩

theorem render_cases (around : Surroundings) (source : Text) (explain : Bool) :
    (∃ query notices, around.Answers source query ∧
      around.render source explain = .done around.tree notices (queryText query explain)) ∨
    (∀ query, ¬ around.Answers source query) ∧ ∃ notices problem hint,
      around.render source explain = .failed around.tree notices problem hint := by
  by_cases answered : ∃ query, around.Answers source query
  · obtain ⟨query, answers⟩ := answered
    obtain ⟨notices, done⟩ := around.render_answered source explain query answers
    exact .inl ⟨query, notices, answers, done⟩
  · have unanswered := not_exists.mp answered
    exact .inr ⟨unanswered, around.render_unanswered source explain unanswered⟩

theorem config_cases (around : Surroundings) :
    (∃ notices output, around.config = .done around.tree notices output) ∨
      ∃ notices problem hint, around.config = .failed around.tree notices problem hint := by
  unfold config withSettings
  cases Settings.load around.tree around.home around.directory with
  | ok effective => exact .inl ⟨_, _, rfl⟩
  | error problem => exact .inr ⟨_, _, _, rfl⟩

/-- The file named is written, or nothing is. -/
theorem init_cases (around : Surroundings) (forHome force : Bool) :
    (∃ path template location tree, around.newFile forHome = some (path, template) ∧
      (force = false → around.tree.isThere path = false) ∧
      around.tree.Writes path (encoded template.text) location tree ∧
      around.init forHome force = .done tree [.templateWritten template]
        ("Created ".toList ++ path.text ++ ['\n'])) ∨
    ∃ problem hint, around.init forHome force = .failed around.tree [] problem hint := by
  unfold init
  cases named : around.newFile forHome with
  | none => exact .inr ⟨_, _, rfl⟩
  | some target =>
      obtain ⟨path, template⟩ := target
      cases wrote : around.tree.write path (encoded template.text) with
      | error problem =>
          right
          simp only [wrote]
          split
          · exact ⟨_, _, rfl⟩
          · exact ⟨_, _, rfl⟩
      | ok tree =>
          simp only [wrote]
          split
          · exact .inr ⟨_, _, rfl⟩
          · next allowed =>
            obtain ⟨location, writes⟩ := (FileTree.write_eq_ok _ _ _ _).mp wrote
            refine .inl ⟨path, template, location, tree, rfl, ?_, writes, rfl⟩
            rintro rfl
            simpa using allowed

theorem render_tree (around : Surroundings) (source : Text) (explain : Bool) :
    (around.render source explain).tree = around.tree := by
  obtain ⟨_, _, _, done⟩ | ⟨_, _, _, _, failed⟩ := around.render_cases source explain
  · rw [done]
    rfl
  · rw [failed]
    rfl

theorem render_succeeds_iff (around : Surroundings) (source : Text) (explain : Bool) :
    (around.render source explain).status = .success ↔ ∃ query, around.Answers source query := by
  obtain ⟨query, _, answers, done⟩ | ⟨unanswered, _, _, _, failed⟩ :=
    around.render_cases source explain
  · rw [done]
    exact ⟨fun _ => ⟨query, answers⟩, fun _ => rfl⟩
  · rw [failed]
    exact ⟨nofun, fun ⟨query, answers⟩ => absurd answers (unanswered query)⟩

theorem config_tree (around : Surroundings) : around.config.tree = around.tree := by
  obtain ⟨_, _, done⟩ | ⟨_, _, _, failed⟩ := around.config_cases
  · rw [done]
    rfl
  · rw [failed]
    rfl

theorem run_all_or_nothing (around : Surroundings) (command : Command)
    (unsuccessful : (around.run command).status ≠ .success) :
    (around.run command).output = [] ∧ (around.run command).tree = around.tree := by
  cases command with
  | escape tokens force => exact absurd rfl unsuccessful
  | render source explain =>
      obtain ⟨_, _, _, done⟩ | ⟨_, _, _, _, failed⟩ := around.render_cases source explain
      · rw [run, done] at unsuccessful
        exact absurd rfl unsuccessful
      · rw [run, failed]
        exact ⟨rfl, rfl⟩
  | config =>
      obtain ⟨_, _, done⟩ | ⟨_, _, _, failed⟩ := around.config_cases
      · rw [run, done] at unsuccessful
        exact absurd rfl unsuccessful
      · rw [run, failed]
        exact ⟨rfl, rfl⟩
  | init forHome force =>
      obtain ⟨_, _, _, _, _, _, _, done⟩ | ⟨_, _, failed⟩ := around.init_cases forHome force
      · rw [run, done] at unsuccessful
        exact absurd rfl unsuccessful
      · rw [run, failed]
        exact ⟨rfl, rfl⟩

/-- The new file is where its name leads and reads as its template. It is the only file that
changes, and unless it was to be replaced there was none before. -/
structure Creates (around : Surroundings) (force : Bool) (path : Path) (template : Template)
    (location : Location) (after : FileTree) : Prop where
  located : around.tree.locate path = .ok location
  held : after.at? location = some (.file (encoded template.text))
  read_back : after.readText path = .ok template.text
  kept : ∀ other, other ≠ location → after.at? other = around.tree.at? other
  fresh : force = false → around.tree.at? location = none

theorem init_creates (around : Surroundings) (forHome force : Bool)
    (succeeded : (around.init forHome force).status = .success) :
    ∃ path template location, around.newFile forHome = some (path, template) ∧
      (around.init forHome force).output = "Created ".toList ++ path.text ++ ['\n'] ∧
      around.Creates force path template location (around.init forHome force).tree := by
  obtain ⟨path, template, location, tree, named, allowed, writes, done⟩ | ⟨_, _, failed⟩ :=
    around.init_cases forHome force
  · have fresh : force = false → around.tree.at? location = none := fun unforced =>
      around.tree.at_of_not_there path location writes.named writes.located (allowed unforced)
    rw [done]
    exact ⟨path, template, location, named, rfl,
      ⟨writes.located, writes.held, writes.read_back _ rfl, writes.kept, fresh⟩⟩
  · rw [failed] at succeeded
    cases succeeded

end Surroundings

theorem Status.code_eq_zero (status : Status) : status.code = 0 ↔ status = .success := by
  cases status <;> decide

/-- A command prints its result and makes its file, or fails and does neither. Escaping takes
nothing from what is around it. Rendering succeeds just when there is a query to render, and only a
new settings file changes the files, at the one location that it is named by. -/
theorem commands_all_or_nothing (around : Surroundings) (arguments : List Text)
    (invocation : Invocation) (accepted : Invocation.read arguments = .ok invocation)
    (printed : Printed) (ran : runArguments around arguments = printed) :
    (printed.code ≠ 0 → printed.output = [] ∧ printed.tree = around.tree) ∧
    (∀ tokens force, invocation.command = .escape tokens force →
      printed.tree = around.tree ∧
      ∀ other, runArguments other arguments = { printed with tree := other.tree }) ∧
    (invocation.command = .config → printed.tree = around.tree) ∧
    (∀ source explain, invocation.command = .render source explain →
      printed.tree = around.tree ∧
      (printed.code = 0 ↔ ∃ query, around.Answers source query) ∧
      ∀ query, around.Answers source query →
        printed.output = if explain then query.explain else query.render ++ ['\n']) ∧
    (∀ forHome force, invocation.command = .init forHome force → printed.code = 0 →
      ∃ path template location, around.newFile forHome = some (path, template) ∧
        printed.output = "Created ".toList ++ path.text ++ ['\n'] ∧
        around.Creates force path template location printed.tree) := by
  obtain ⟨command, verbosity⟩ := invocation
  simp only [runArguments, accepted] at ran ⊢
  subst ran
  refine ⟨?_, ?_, ?_, ?_, ?_⟩
  · intro failed
    exact around.run_all_or_nothing command ((Status.code_eq_zero _).not.mp failed)
  · rintro tokens force rfl
    exact ⟨rfl, fun _ => rfl⟩
  · rintro rfl
    exact around.config_tree
  · rintro source explain rfl
    refine ⟨around.render_tree source explain, ?_, ?_⟩
    · exact (Status.code_eq_zero _).trans (around.render_succeeds_iff source explain)
    · intro query answers
      obtain ⟨notices, done⟩ := around.render_answered source explain query answers
      simp only [Surroundings.run, done]
      rfl
  · rintro forHome force rfl succeeded
    exact around.init_creates forHome force ((Status.code_eq_zero _).mp succeeded)

/-- A directory with nothing in it, and a document at hand. -/
def freshProject : Surroundings where
  tree := ⟨[([['p']], .directory)]⟩
  home := none
  directory := ⟨[['p']]⟩
  input := Surroundings.encoded "[[clause]]\nkind = \"term\"\nvalue = \"a\"\n".toList
  now := .still ⟨0, 0, 0⟩

theorem fresh_project_answers :
    (∃ tree, runArguments freshProject ["init".toList] =
        ⟨0, "Created /p/.lq.toml\n".toList, [], tree⟩ ∧
      freshProject.Creates false ⟨[['p'], Settings.fileName]⟩ .forProject
        [['p'], Settings.fileName] tree) ∧
    ∃ query, freshProject.Answers ['-'] query ∧ query.render = ['a'] := by
  constructor
  · obtain ⟨_, _, _, _, creates⟩ := commands_all_or_nothing freshProject ["init".toList]
      ⟨.init false false, 0⟩ rfl _ rfl
    obtain ⟨path, template, location, named, _, created⟩ := creates false false rfl rfl
    cases named
    cases created.located
    exact ⟨_, rfl, created⟩
  · obtain ⟨_, _, _, renders, _⟩ := commands_all_or_nothing freshProject
      ["render".toList, ['-']] ⟨.render ['-'] false, 0⟩ rfl _ rfl
    obtain ⟨_, succeeds, prints⟩ := renders ['-'] false rfl
    obtain ⟨query, answers⟩ := succeeds.mp (by decide +kernel)
    have written : query.render ++ ['\n'] = ['a', '\n'] :=
      (prints query answers).symm.trans (by decide +kernel)
    exact ⟨query, answers, List.append_cancel_right written⟩

end LuceneQuery
