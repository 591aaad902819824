/-
  Scaffold/Proofs/Render/Steps.lean
  =================================
  **Which steps every template writes.**

  The names of an entity add no step, so a template has the steps of its literals: rules in the
  fakers of the data transfer objects, insertions and rules in the tests that seed parents, and
  nothing in an open feature. The permission is left out here, since it is written as it was given.
-/
import Scaffold.Proofs.Render.Files
import Scaffold.Proofs.Render.Flags
import Scaffold.Proofs.Render.Imports
import Scaffold.Proofs.Source.Steps

namespace Scaffold

open Text.Tells (cons_literal cons_literals cons_silent)

/-! ### Names -/

namespace Entity.IsNamed

variable {e : Entity} (he : e.IsNamed)

include he

theorem silent_name : ∀ c ∈ e.name.toList, Step.IsSilent c := Name.isSilent_of_isIdentifier he.name

theorem silent_plural : ∀ c ∈ e.plural.toList, Step.IsSilent c :=
  Name.isSilent_of_isIdentifier he.plural

theorem silent_lambda : ∀ c ∈ e.lambda.toList, Step.IsSilent c :=
  Name.isSilent_of_isIdentifier he.lambda

theorem silent_key : ∀ c ∈ e.key.name.toList, Step.IsSilent c :=
  Name.isSilent_of_isIdentifier he.key

theorem silent_lowerName : ∀ c ∈ e.lowerName.toList, Step.IsSilent c := fun c hc =>
  Name.isSilent_of_isPart (Name.isPart_asciiLower he.name c hc)

theorem silent_localName : ∀ c ∈ e.localName.toList, Step.IsSilent c := by
  intro c hc
  rcases Name.isPart_or_escape e.lambda he.name c hc with hpart | rfl
  · exact Name.isSilent_of_isPart hpart
  · decide

theorem isIdentifier_fakeVariable : Name.isIdentifier (Name.fakeVariable e.name) = true := by
  unfold Name.fakeVariable
  exact Name.isIdentifier_append_identifier
    (Name.isIdentifier_append_identifier (by decide) he.name) (by decide)

end Entity.IsNamed

theorem PropertyType.silent_csharp (type : PropertyType) :
    ∀ c ∈ type.csharp.toList, Step.IsSilent c :=
  Name.isSilent_of_isIdentifier (by cases type <;> decide)

/-! ### Fakers of data transfer objects -/

namespace Fakes

variable {e : Entity} (he : e.IsNamed)

include he

end Fakes

/-! ### Seeds -/

namespace Seeds

variable {e : Entity} (he : e.IsNamed)

include he

/-- The pair for a parent inserts it, and does nothing else of note. -/
theorem tells_statementPair {r : Relationship} (hr : r ∈ e.relationships) :
    Text.Tells (statementPair r) [.insertion r.seedVariable] := by
  have hscope : Text.lowerFirst Name.testingServiceScope = "testingServiceScope" := by decide
  have hinsert : ".InsertAsync(" = "." ++ "InsertAsync(" := rfl
  have hparent := Name.isSilent_of_isIdentifier (he.relationships r hr).parent
  have hseed := (he.relationships r hr).seed_variable
  have hbreak : Text.Tells bodyBreak [] := .literal _ (by decide)
  unfold statementPair
  simp only [hscope, hinsert, Name.faker, DtoShape.className, DtoShape.suffix, String.append_assoc]
  refine cons_literal _ (by decide) (cons_silent (Name.isSilent_of_isIdentifier hseed)
    (cons_literal _ (by decide) (cons_literal _ (by decide) (cons_silent hparent
    (cons_literal _ (by decide) (cons_literal _ (by decide) (cons_silent hparent
    (cons_literals _ _ (by decide) ?_))))))))
  exact hbreak.append (cons_literal _ (by decide) (cons_literal _ (by decide)
    (cons_literal _ (by decide) (.cons_insertion hseed (hbreak.append hbreak)))))

/-- The clause for a parent is the rule that its property reads its key. -/
theorem tells_clause {r : Relationship} (hr : r ∈ e.relationships) :
    Text.Tells (clause e.lambda r) [.rule r.property (r.seedVariable ++ "." ++ r.parentKey)] := by
  have hrule : ".RuleFor(" = "." ++ "RuleFor(" := rfl
  have hr : r.IsNamed := he.relationships r hr
  have hbreak : Text.Tells chainBreak [] := .literal _ (by decide)
  have hplain : ∀ c ∈ (r.seedVariable ++ "." ++ r.parentKey).toList, c ≠ '(' ∧ c ≠ ')' := by
    have hname : ∀ {name}, Name.isIdentifier name = true →
        ∀ c ∈ name.toList, c ≠ '(' ∧ c ≠ ')' := fun h c hc =>
      Name.not_bracket_of_isPart (Name.isPart_of_mem h c hc)
    simp only [String.toList_append, List.forall_mem_append]
    refine ⟨⟨hname hr.seed_variable, ?_⟩, hname hr.parent_key⟩
    intro c hc
    rw [List.mem_singleton.mp hc]
    decide
  unfold clause
  simp only [hrule, String.append_assoc]
  refine hbreak.append (cons_literal _ (by decide) (.cons_rule he.lambda hr.property ?_
    (cons_silent (Name.isSilent_of_isIdentifier hr.seed_variable) (cons_literal _ (by decide)
    (cons_silent (Name.isSilent_of_isIdentifier hr.parent_key) (.literal _ (by decide)))))))
  intro more
  have hread := Step.argument_append hplain (.inr rfl) more
  rw [String.ofList_toList] at hread
  simp only [String.toList_append, String.append_assoc, List.append_assoc] at hread ⊢
  exact hread

omit he in
theorem clauses_eq (e : Entity) :
    (Seeds.of e).clauses = String.join (e.relationships.map (clause e.lambda)) ++
      if e.relationships.isEmpty then "" else chainBreak := by
  unfold Seeds.of Entity.hasParents
  cases e.relationships with
  | nil => rfl
  | cons r rest => rfl

/-- What seeding does: the parents are inserted, the creation data of the entity reads their keys,
and the entity is inserted. -/
def steps (e : Entity) : List Step :=
  e.relationships.map (fun r => .insertion r.seedVariable) ++
    e.relationships.map (fun r => .rule r.property (r.seedVariable ++ "." ++ r.parentKey)) ++
    [.insertion (Name.fakeVariable e.name)]

end Seeds

/-! ### The tests of the delete command -/

namespace DeleteSuite

/-- The statement that makes the fake of the entity, with a clause for each parent. -/
def creation (e : Entity) : String :=
  "var " ++ Name.fakeVariable e.name ++ " = " ++ Name.faker e.name ++ ".Generate(new " ++
    Name.faker (DtoShape.creation.className e.name) ++ "()" ++
    String.join (e.relationships.map (Seeds.clause e.lambda)) ++
    (if e.relationships.isEmpty then "" else Seeds.chainBreak) ++ ".Generate());"

/-- A test that inserts a row: neither its name nor what follows the arrangement has a step. -/
structure IsSeeded (e : Entity) (test : List String) (name : String) (rest : List (List String)) :
    Prop where
  eq : test = testMethod name (arrangeSeeded e :: rest)
  name_silent : Text.Tells (name ++ "()") []
  rest_silent : Source.Tells (Source.spacedBehind rest) []

theorem tells_testMethod {name : String} {body : List (List String)} {es : List Step}
    (hname : Text.Tells (name ++ "()") []) (hbody : Source.Tells (Source.spaced body) es) :
    Source.Tells (testMethod name body) es := by
  refine .block (.cons_silent (.literal _ (by decide)) (.singleton ?_)) hbody
  rw [String.append_assoc]
  exact cons_literal _ (by decide) hname

theorem tells_openScope : Text.Tells openScope [] := by
  unfold openScope Name.testingServiceScope
  rw [String.append_assoc]
  exact cons_literal _ (by decide) (.literals _ _ (by decide))

theorem tells_assertRefused {exception : String} (h : Name.isIdentifier exception = true) :
    Source.Tells (assertRefused exception) [] := by
  refine .cons_silent (.literal _ (by decide)) (.singleton ?_)
  rw [String.append_assoc]
  exact cons_literal _ (by decide) (cons_silent (Name.isSilent_of_isIdentifier h)
    (.literal _ (by decide)))

section

variable {e : Entity} (he : e.IsNamed)

include he

theorem tells_sameKey {other : String} (hother : ∀ c ∈ other.toList, Step.IsSilent c) :
    Text.Tells (sameKey e other) [] := by
  unfold sameKey
  simp only [String.append_assoc]
  exact cons_silent he.silent_lambda (cons_literal _ (by decide) (cons_silent he.silent_lambda
    (cons_literal _ (by decide) (cons_silent he.silent_key (cons_literal _ (by decide)
    (cons_silent hother (cons_literal _ (by decide) (.of_isSilent he.silent_key))))))))

theorem tells_query {name : String} (hname : ∀ c ∈ name.toList, Step.IsSilent c) :
    Text.Tells (query e name) [] := by
  unfold query
  simp only [String.append_assoc]
  exact cons_literal _ (by decide) (cons_silent hname (cons_literal _ (by decide)
    (.of_isSilent he.silent_plural)))

theorem tells_newCommand {key : String} (hkey : Text.Tells key []) :
    Text.Tells (newCommand e key) [] := by
  unfold newCommand Name.deleteFeature Name.command
  simp only [String.append_assoc]
  exact cons_literal _ (by decide) (cons_literal _ (by decide) (cons_silent he.silent_name
    (cons_literal _ (by decide) (cons_literals _ _ (by decide)
    (hkey.append (.literal _ (by decide)))))))

theorem tells_actOnSeeded : Source.Tells (actOnSeeded e) [] := by
  refine .cons_silent (.literal _ (by decide)) (.cons_silent (tells_newCommand he ?_)
    (.singleton (.literal _ (by decide))))
  rw [String.append_assoc]
  exact cons_silent he.silent_localName (cons_literal _ (by decide) (.of_isSilent he.silent_key))

theorem tells_actExpectingRefusal {key : String} (hkey : Text.Tells key []) :
    Source.Tells (actExpectingRefusal e key) [] :=
  .cons_silent (.literal _ (by decide)) (.cons_silent (tells_newCommand he hkey)
    (.singleton (.literal _ (by decide))))

/-! #### Tests that insert a row -/

omit he in
/-- The lines of the arrangement; the third makes the parents and the entity. -/
theorem arrangeSeeded_eq (e : Entity) :
    arrangeSeeded e = ["// Arrange", openScope] ++
      (String.join (e.relationships.map Seeds.statementPair) ++ creation e) ::
        ["await testingServiceScope.InsertAsync(" ++ Name.fakeVariable e.name ++ ");",
         query e e.localName,
         "    .FirstOrDefaultAsync(" ++ sameKey e (Name.fakeVariable e.name) ++ "));"] := by
  unfold arrangeSeeded creation
  dsimp only
  rw [Seeds.statements_eq, Seeds.clauses_eq]
  simp only [String.append_assoc, List.cons_append, List.nil_append]

theorem tells_statements : Text.Tells (String.join (e.relationships.map Seeds.statementPair))
    (e.relationships.map fun r => .insertion r.seedVariable) := by
  rw [List.map_eq_flatMap (f := fun r : Relationship => Step.insertion r.seedVariable)]
  exact (Source.Tells.of_forall fun r hr => Seeds.tells_statementPair he hr).join

theorem tells_creation : Text.Tells (creation e)
    (e.relationships.map fun r => .rule r.property (r.seedVariable ++ "." ++ r.parentKey)) := by
  have hclauses : Text.Tells (String.join (e.relationships.map (Seeds.clause e.lambda)))
      (e.relationships.map fun r => .rule r.property (r.seedVariable ++ "." ++ r.parentKey)) := by
    rw [List.map_eq_flatMap
      (f := fun r : Relationship => Step.rule r.property (r.seedVariable ++ "." ++ r.parentKey))]
    exact (Source.Tells.of_forall fun r hr => Seeds.tells_clause he hr).join
  have hend : Text.Tells (if e.relationships.isEmpty then "" else Seeds.chainBreak) [] := by
    split
    · exact .empty
    · exact .literal _ (by decide)
  have hfront : Text.Tells ("var " ++ Name.fakeVariable e.name ++ " = " ++ Name.faker e.name ++
      ".Generate(new " ++ Name.faker (DtoShape.creation.className e.name) ++ "()") [] := by
    simp only [Name.faker, DtoShape.className, DtoShape.suffix, String.append_assoc]
    exact cons_literal _ (by decide) (cons_silent
      (Name.isSilent_of_isIdentifier he.isIdentifier_fakeVariable) (cons_literal _ (by decide)
      (cons_literal _ (by decide) (cons_silent he.silent_name (cons_literal _ (by decide)
      (cons_literal _ (by decide) (cons_silent he.silent_name (.literals _ _ (by decide)))))))))
  have hall := ((hfront.append hclauses).append hend).append (.literal ['.', 'G', 'e', 'n', 'e', 'r',
    'a', 't', 'e', '(', ')', ')', ';'] (by decide))
  rw [List.append_nil, List.append_nil] at hall
  exact hall

theorem tells_insertion : Text.Tells ("await testingServiceScope.InsertAsync(" ++
    Name.fakeVariable e.name ++ ");") [.insertion (Name.fakeVariable e.name)] := by
  have hinsert : "await testingServiceScope.InsertAsync(" =
      "await testingServiceScope." ++ "InsertAsync(" := rfl
  have hend : ");" = ");" ++ "" := rfl
  rw [hinsert, String.append_assoc, String.append_assoc, hend]
  exact cons_literal _ (by decide) (.cons_insertion he.isIdentifier_fakeVariable .empty)

theorem tells_arrangeSeeded : Source.Tells (arrangeSeeded e) (Seeds.steps e) := by
  have habove : Source.Tells ["// Arrange", openScope] [] :=
    .cons_silent (.literal _ (by decide)) (.singleton tells_openScope)
  have hbelow : Source.Tells [query e e.localName,
      "    .FirstOrDefaultAsync(" ++ sameKey e (Name.fakeVariable e.name) ++ "));"] [] := by
    refine .cons_silent (tells_query he he.silent_localName) (.singleton ?_)
    rw [String.append_assoc]
    exact cons_literal _ (by decide) ((tells_sameKey he
      (Name.isSilent_of_isIdentifier he.isIdentifier_fakeVariable)).append (.literal _ (by decide)))
  have hseeding := (tells_statements he).append (tells_creation he)
  rw [arrangeSeeded_eq]
  exact habove.append (.cons hseeding (.cons (tells_insertion he) hbelow))

theorem isSeeded_happyPath : ∃ name rest, IsSeeded e (happyPath e) name rest := by
  have hname : Text.Tells ("can_delete_" ++ e.lowerName ++ "_from_db" ++ "()") [] := by
    simp only [String.append_assoc]
    exact cons_literal _ (by decide) (cons_silent he.silent_lowerName (.literals _ _ (by decide)))
  have hresponse : ∀ c ∈ (e.localName ++ "Response").toList, Step.IsSilent c := by
    rw [String.toList_append, List.forall_mem_append]
    exact ⟨he.silent_localName, Name.isSilent_of_isIdentifier (by decide)⟩
  have hcount : Source.Tells [query e (e.localName ++ "Response"),
      "    .CountAsync(" ++ sameKey e e.localName ++ "));"] [] := by
    refine .cons_silent (tells_query he hresponse) (.singleton ?_)
    rw [String.append_assoc]
    exact cons_literal _ (by decide) ((tells_sameKey he he.silent_localName).append
      (.literal _ (by decide)))
  have hassert : Source.Tells ["// Assert", e.localName ++ "Response.Should().Be(0);"] [] :=
    .cons_silent (.literal _ (by decide)) (.singleton (cons_silent he.silent_localName
      (.literal _ (by decide))))
  exact ⟨_, _, rfl, hname,
    .behind_cons ((tells_actOnSeeded he).append hcount) (.behind_cons hassert .behind_nil)⟩

theorem isSeeded_softDelete : ∃ name rest, IsSeeded e (softDelete e) name rest := by
  have hname : Text.Tells ("can_softdelete_" ++ e.lowerName ++ "_from_db" ++ "()") [] := by
    simp only [String.append_assoc]
    exact cons_literal _ (by decide) (cons_silent he.silent_lowerName (.literals _ _ (by decide)))
  have hdeleted : ∀ c ∈ ("deleted" ++ e.name).toList, Step.IsSilent c :=
    Name.isSilent_of_isIdentifier (Name.isIdentifier_append_identifier (by decide) he.name)
  have hread : Source.Tells [query e ("deleted" ++ e.name), "    .IgnoreQueryFilters()",
      "    .FirstOrDefaultAsync(" ++ sameKey e e.localName ++ "));"] [] := by
    refine .cons_silent (tells_query he hdeleted) (.cons_silent (.literal _ (by decide))
      (.singleton ?_))
    rw [String.append_assoc]
    exact cons_literal _ (by decide) ((tells_sameKey he he.silent_localName).append
      (.literal _ (by decide)))
  have hassert : Source.Tells ["// Assert", "deleted" ++ e.name ++ ".Should().NotBeNull();",
      "deleted" ++ e.name ++ "!.IsDeleted.Should().BeTrue();"] [] :=
    .cons_silent (.literal _ (by decide)) (.cons_silent (cons_silent hdeleted (.literal _ (by decide)))
      (.singleton (cons_silent hdeleted (.literal _ (by decide)))))
  exact ⟨_, _, rfl, hname,
    .behind_cons ((tells_actOnSeeded he).append hread) (.behind_cons hassert .behind_nil)⟩

theorem IsSeeded.tells {test : List String} {name : String} {rest : List (List String)}
    (h : IsSeeded e test name rest) : Source.Tells test (Seeds.steps e) := by
  have hbody := Source.Tells.spaced_cons (tells_arrangeSeeded he) h.rest_silent
  rw [List.append_nil] at hbody
  rw [h.eq]
  exact tells_testMethod h.name_silent hbody

/-! #### Tests that expect a refusal -/

omit he in
theorem tells_badKey {type : PropertyType} {key : String} (h : type.badKey? = some key) :
    Text.Tells key [] := by
  cases type <;> cases h <;> exact .literal _ (by decide)

theorem tells_notFound {badKey : String} (hkey : Text.Tells badKey []) :
    Source.Tells (notFound e badKey) [] := by
  have hname : Text.Tells ("delete_" ++ e.lowerName ++
      "_throws_notfoundexception_when_record_does_not_exist" ++ "()") [] := by
    simp only [String.append_assoc]
    exact cons_literal _ (by decide) (cons_silent he.silent_lowerName (.literals _ _ (by decide)))
  have harrange : Source.Tells ["// Arrange", openScope, "var badId = " ++ badKey ++ ";"] [] := by
    refine .cons_silent (.literal _ (by decide)) (.cons_silent tells_openScope (.singleton ?_))
    rw [String.append_assoc]
    exact cons_literal _ (by decide) (hkey.append (.literal _ (by decide)))
  exact tells_testMethod hname (.spaced_cons harrange
    (.behind_cons (tells_actExpectingRefusal he (.literal _ (by decide)))
    (.behind_cons (tells_assertRefused (by decide)) .behind_nil)))

omit he in
theorem tells_anyKey (e : Entity) : Text.Tells (anyKey e) [] := by
  unfold anyKey
  cases hkey : e.key.type.badKey? with
  | some key => exact tells_badKey hkey
  | none =>
    rw [Option.getD_none, String.append_assoc]
    exact cons_literal _ (by decide) (cons_silent e.key.type.silent_csharp (.literal _ (by decide)))

/-- What the test for a permission does once it is withheld, up to the exception it expects. -/
def expectRefusal (e : Entity) : String :=
  "\n\n        // Act\n        " ++ newCommand e (anyKey e) ++
    "\n        Func<Task> act = () => testingServiceScope.SendAsync(command);\n\n" ++
    "        // Assert\n        await act.Should()."

theorem tells_expectRefusal : Text.Tells (expectRefusal e) [] := by
  have hcommand := tells_newCommand he (tells_anyKey e)
  exact (((Text.Tells.literal _ (by decide)).append hcommand).append (.literal _ (by decide))).append
    (.literal _ (by decide))

omit he in
/-- The lines behind the one that withholds the permission. -/
theorem startLines_expectRefusal (e : Entity) :
    Source.startLines (Source.indent (Source.indent ("" :: (actExpectingRefusal e (anyKey e) ++
      "" :: assertRefused "ForbiddenAccessException")) ++ ["\x7d"])) =
      expectRefusal e ++ ("ThrowAsync<ForbiddenAccessException>();" ++ "\n    \x7d") := by
  have hcommand : newCommand e (anyKey e) ≠ "" := by
    unfold newCommand
    simp only [String.append_assoc]
    exact Text.append_ne_empty_left (by decide) _
  have habove : Source.startLines (Source.indent (Source.indent ["", "// Act"])) =
      "\n\n        // Act" := by decide +kernel
  have hbelow : Source.startLines (Source.indent (Source.indent
      ("Func<Task> act = () => testingServiceScope.SendAsync(command);" :: "" ::
        assertRefused "ForbiddenAccessException") ++ ["\x7d"])) =
      "\n        Func<Task> act = () => testingServiceScope.SendAsync(command);\n\n" ++
        ("        // Assert\n        await act.Should()." ++
        ("ThrowAsync<ForbiddenAccessException>();" ++ "\n    \x7d")) := by decide +kernel
  have hlines : "" :: (actExpectingRefusal e (anyKey e) ++
      "" :: assertRefused "ForbiddenAccessException") = ["", "// Act"] ++ newCommand e (anyKey e) ::
        "Func<Task> act = () => testingServiceScope.SendAsync(command);" :: "" ::
          assertRefused "ForbiddenAccessException" := rfl
  have hact : "\n\n        // Act\n        " = "\n\n        // Act" ++ "\n        " := rfl
  unfold expectRefusal
  rw [hlines, Source.startLines_indent_twice hcommand, habove, hbelow, hact]
  simp only [String.append_assoc]

omit he in
/-- The test for a permission, around the permission. -/
theorem members_permissionTest (e : Entity) : ∃ head, Text.Tells head [] ∧ ∀ permission,
    Source.members (permissionTest e permission) =
      head ++ ("SetUserNotPermitted(Permissions." ++ (permission ++ (");" ++ (expectRefusal e ++
        ("ThrowAsync<ForbiddenAccessException>();" ++ "\n    \x7d"))))) := by
  have hheader : Source.Tells ["[Fact]", "public async Task must_be_permitted()"] [] :=
    .cons_silent (.literal _ (by decide)) (.singleton (.literal _ (by decide)))
  have habove : Source.Tells ["// Arrange", openScope] [] :=
    .cons_silent (.literal _ (by decide)) (.singleton tells_openScope)
  have hopen : Source.Tells ["\x7b"] [] := .singleton (.literal _ (by decide))
  refine ⟨Text.endLines (Source.indent (["[Fact]", "public async Task must_be_permitted()"] ++
    ["\x7b"] ++ Source.indent ["// Arrange", openScope])) ++ "        testingServiceScope.",
    ((hheader.append hopen).append habove.indent).indent.endLines.append
      (.literal _ (by decide)), ?_⟩
  intro permission
  have htest : permissionTest e permission = Source.block
      ["[Fact]", "public async Task must_be_permitted()"] (["// Arrange", openScope] ++
        ("testingServiceScope.SetUserNotPermitted(Permissions." ++ permission ++ ");") ::
          ("" :: (actExpectingRefusal e (anyKey e) ++
            "" :: assertRefused "ForbiddenAccessException"))) := rfl
  have hline : "testingServiceScope.SetUserNotPermitted(Permissions." ++ permission ++ ");" ≠ "" :=
    Text.append_ne_empty_left (Text.append_ne_empty_left (by decide) _) _
  have hwithhold : "testingServiceScope.SetUserNotPermitted(Permissions." =
    "testingServiceScope." ++ "SetUserNotPermitted(Permissions." := rfl
  have hmoved : "        testingServiceScope." = "        " ++ "testingServiceScope." := rfl
  rw [htest, Source.members_block _ _ hline, startLines_expectRefusal, hwithhold, hmoved]
  simp only [String.append_assoc]

end

end DeleteSuite

/-! ### The open feature -/

namespace Handler

variable {e : Entity} (he : e.IsNamed)

include he

theorem silent_repositoryName : ∀ c ∈ (repositoryName e).toList, Step.IsSilent c :=
  Name.isSilent_of_isIdentifier (isIdentifier_repositoryName he)

theorem tells_commandLine : Text.Tells (commandLine e) [] := by
  unfold commandLine Name.command
  simp only [String.append_assoc]
  exact cons_literal _ (by decide) (cons_literals _ _ (by decide)
    (cons_silent e.key.type.silent_csharp (cons_literal _ (by decide)
    (cons_silent he.silent_key (.literal _ (by decide))))))

/-- What is written for the dependencies has no step when none is added to their names. -/
theorem tells_map_dependencies (permission : Option String) {write : Dependency → String}
    (h : ∀ d : Dependency, (∀ c ∈ d.type.toList, Step.IsSilent c) →
      (∀ c ∈ d.name.toList, Step.IsSilent c) → Text.Tells (write d) []) :
    Source.Tells ((dependencies e permission).map write) [] := by
  refine .of_forall_silent ?_
  intro line hline
  obtain ⟨d, hd, rfl⟩ := List.mem_map.mp hline
  obtain ⟨htype, hname⟩ := isIdentifier_dependency he hd
  exact h d (Name.isSilent_of_isIdentifier htype) (Name.isSilent_of_isIdentifier hname)

theorem tells_fields (permission : Option String) :
    Source.Tells ((dependencies e permission).map Dependency.field) [] := by
  refine tells_map_dependencies he permission ?_
  intro d htype hname
  unfold Dependency.field
  simp only [String.append_assoc]
  exact cons_literal _ (by decide) (cons_silent htype (cons_literal _ (by decide)
    (cons_silent hname (.literal _ (by decide)))))

theorem tells_constructor (permission : Option String) : Source.Tells (Source.block
    ["public Handler(" ++
      Text.joinWith ", " ((dependencies e permission).map Dependency.parameter) ++ ")"]
    ((dependencies e permission).map Dependency.assignment)) [] := by
  have hparameters : Source.Tells ((dependencies e permission).map Dependency.parameter) [] := by
    refine tells_map_dependencies he permission ?_
    intro d htype hname
    unfold Dependency.parameter
    rw [String.append_assoc]
    exact cons_silent htype (cons_literal _ (by decide) (.of_isSilent hname))
  have hassignments : Source.Tells ((dependencies e permission).map Dependency.assignment) [] := by
    refine tells_map_dependencies he permission ?_
    intro d htype hname
    unfold Dependency.assignment
    simp only [String.append_assoc]
    exact cons_literal _ (by decide) (cons_silent hname (cons_literal _ (by decide)
      (cons_silent hname (.literal _ (by decide)))))
  refine .block (.singleton ?_) hassignments
  rw [String.append_assoc]
  exact cons_literal _ (by decide) ((hparameters.joinWith (.literal _ (by decide))).append
    (.literal _ (by decide)))

theorem tells_handleLines : Source.Tells (handleLines e none) [] := by
  refine .cons_silent ?_ (.cons_silent ?_ (.singleton (.literal _ (by decide))))
  · simp only [String.append_assoc]
    exact cons_literal _ (by decide) (cons_silent (silent_repositoryName he)
      (cons_literal _ (by decide) (cons_silent he.silent_key (.literal _ (by decide)))))
  · simp only [String.append_assoc]
    exact cons_literal _ (by decide) (cons_silent (silent_repositoryName he)
      (.literal _ (by decide)))

omit he in
theorem tells_classLine :
    Text.Tells ("public sealed class Handler : IRequestHandler<" ++ Name.command ++ ">") [] := by
  unfold Name.command
  simp only [String.append_assoc]
  exact cons_literal _ (by decide) (cons_literal _ (by decide) (.literal _ (by decide)))

omit he in
theorem tells_methodLine : Text.Tells ("public async Task Handle(" ++ Name.command ++
    " request, CancellationToken cancellationToken)") [] := by
  unfold Name.command
  simp only [String.append_assoc]
  exact cons_literal _ (by decide) (cons_literal _ (by decide) (.literal _ (by decide)))

theorem tells_lines : Source.Tells (lines e none) [] := by
  have hhandle := Source.Tells.block (.singleton tells_methodLine) (tells_handleLines he)
  have hmembers := Source.Tells.spaced_cons (tells_fields he none)
    (.behind_cons (tells_constructor he none) (.behind_cons hhandle .behind_nil))
  exact .spaced_cons (.singleton (tells_commandLine he))
    (.behind_cons (.block (.singleton tells_classLine) hmembers) .behind_nil)

end Handler

/-! ### The head of a file -/

namespace SourceFile

theorem tells_importLines {imports : List String}
    (h : ∀ name ∈ imports, Name.isDotted name = true) : Text.Tells (importLines imports) [] := by
  unfold importLines
  split
  · exact .empty
  · have hlines : Source.Tells (imports.map fun name => "using " ++ name ++ ";") [] := by
      refine .of_forall_silent ?_
      intro line hline
      obtain ⟨name, hname, rfl⟩ := List.mem_map.mp hline
      rw [String.append_assoc]
      exact cons_literal _ (by decide) (cons_silent (Name.isSilent_of_isDotted (h name hname))
        (.literal _ (by decide)))
    exact hlines.endLines.append (.literal _ (by decide))

/-- What stands in front of the members of a class has no step. -/
theorem Fits.tells_front {f : SourceFile} {kind : ArtifactKind} {entity : String} {p : ClassPath}
    (h : f.Fits kind entity p) (hspace : Name.isDotted p.nameSpace = true)
    (hclass : Name.isIdentifier p.className = true) (hentity : Name.isIdentifier entity = true) :
    Text.Tells f.front [] := by
  have hmodifiers : Text.Tells kind.modifiers [] := by
    cases kind <;> exact .literal _ (by decide)
  have hbases : Text.Tells (kind.bases entity) [] := by
    have hdto : ∀ shape : DtoShape,
        Text.Tells (" : AutoFaker<" ++ shape.className entity ++ ">") [] := by
      intro shape
      have hname : Name.isIdentifier (shape.className entity) = true :=
        Name.isIdentifier_append_identifier hentity (by cases shape <;> decide)
      rw [String.append_assoc]
      exact cons_literal _ (by decide) (cons_silent (Name.isSilent_of_isIdentifier hname)
        (.literal _ (by decide)))
    cases kind with
    | deleteFeature => exact .empty
    | deleteCommandTest => exact .literal _ (by decide)
    | updateEntityTest => exact .empty
    | entityFaker => exact .empty
    | creationDtoFaker => exact hdto .creation
    | updateDtoFaker => exact hdto .update
  unfold front
  rw [h.name_space, h.declaration]
  simp only [String.append_assoc]
  exact cons_literal _ (by decide) (cons_silent (Name.isSilent_of_isDotted hspace)
    (cons_literal _ (by decide) ((tells_importLines h.imports).append (hmodifiers.append
    (cons_literal _ (by decide) (cons_silent (Name.isSilent_of_isIdentifier hclass)
    (hbases.append (.literal _ (by decide)))))))))

end SourceFile

/-! ### Whole files -/

namespace Layout

variable {l : Layout} {e : Entity} {flags : Flags} {kind : ArtifactKind} {text : String}

/-- What has a text has a place. -/
theorem exists_artifact_of_content (h : l.content e flags kind = .ok text) :
    ∃ p, l.artifact e kind = .ok p := by
  -- every template looks up its place first
  cases kind <;> exact (bind_eq_ok_iff.mp h).imp fun _ => And.left

variable {p : ClassPath} {f : SourceFile} {es : List Step} (he : e.IsNamed)

include he

theorem tells_front (hp : l.artifact e kind = .ok p) (hfits : f.Fits kind e.name p) :
    Text.Tells f.front [] :=
  hfits.tells_front (isDotted_nameSpace (Folder.isNamed_ofArtifact he kind) hp)
    (isIdentifier_of_artifact he hp) he.name

/-- A file has the steps of its members. -/
theorem tells_render (hp : l.artifact e kind = .ok p) (hfits : f.Fits kind e.name p)
    (hbody : Text.Tells f.body es) : Text.Tells f.render es := by
  have hmembers : Text.Tells f.memberLines es := by
    refine .cons_literal ['\n'] (by decide) ?_
    split
    · rename_i hempty
      rw [String.isEmpty_iff.mp hempty] at hbody
      rw [← hbody.steps_eq]
      exact .empty
    · have hend := hbody.append (.literal ['\n'] (by decide))
      rw [List.append_nil] at hend
      exact hend
  have hall := (((tells_front he hp hfits).append (.literal ['\x7b'] (by decide))).append
    hmembers).append (.literal ['\x7d', '\n'] (by decide))
  rw [List.append_nil] at hall
  rw [f.render_eq]
  exact hall

/-- The text of the open feature has no step. -/
theorem tells_openFeature (h : l.content e flags .deleteFeature = .ok text)
    (hopen : flags.isProtected = false) : Text.Tells text [] := by
  have hnone : flags.effectivePermission "Delete" e.plural = none := by
    simp [Flags.effectivePermission, hopen]
  obtain ⟨p, hp⟩ := exists_artifact_of_content h
  obtain ⟨f, rfl, hfits, hbody⟩ := file_of_deleteFeature he hp h
  rw [hnone] at hbody
  refine tells_render he hp hfits ?_
  rw [hbody]
  exact (Handler.tells_lines he).members

end Layout

namespace DeleteSuite

/-! #### The class of tests -/

/-- The tests that need no permission. -/
def openTests (e : Entity) (flags : Flags) : List (List String) :=
  happyPath e :: ((e.key.type.badKey?.map (notFound e)).toList ++
    if flags.softDelete then [softDelete e] else [])

theorem tests_eq (e : Entity) (flags : Flags) :
    happyPath e :: laterTests e flags = openTests e flags ++
      ((flags.effectivePermission "Delete" e.plural).map (permissionTest e)).toList := by
  simp only [openTests, laterTests, List.cons_append]

/-- The class is its tests, and nothing happens outside of them. -/
theorem exists_front {l : Layout} {e : Entity} (he : e.IsNamed) {flags : Flags} {text : String}
    (h : l.content e flags .deleteCommandTest = .ok text) :
    ∃ front, Text.Tells front [] ∧ text = front ++ (Text.joinWith "\n\n"
      ((happyPath e :: laterTests e flags).map Source.members) ++ "\n\x7d\n") := by
  obtain ⟨p, hp⟩ := Layout.exists_artifact_of_content h
  obtain ⟨f, rfl, hfits, hbody⟩ := Layout.file_of_deleteCommandTest he hp h
  have hfront := (Layout.tells_front he hp hfits).append (.literal ['\x7b', '\n'] (by decide))
  refine ⟨f.front ++ "\x7b\n", hfront, ?_⟩
  have hrender := f.render_withBody (assemble_ne_empty e flags)
  have hsame : f.withBody (fragments e flags).assemble = f := by rw [← hbody]; rfl
  rw [hsame, assemble_fragments, String.append_assoc] at hrender
  exact hrender

/-- Seeding happens in the first test and, when deleted rows are kept, in the test for that. -/
theorem tells_openTests {e : Entity} (he : e.IsNamed) (flags : Flags) :
    Text.Tells (Text.joinWith "\n\n" ((openTests e flags).map Source.members))
      (Seeds.steps e ++ if flags.softDelete then Seeds.steps e else []) := by
  obtain ⟨_, _, hhappy⟩ := isSeeded_happyPath he
  obtain ⟨_, _, hsoft⟩ := isSeeded_softDelete he
  have hmissing : Source.Tells
      ((e.key.type.badKey?.map (notFound e)).toList.map Source.members) [] := by
    cases hkey : e.key.type.badKey? with
    | none => exact .nil
    | some key => exact .singleton (tells_notFound he (tells_badKey hkey)).members
  have hlater : Source.Tells ((if flags.softDelete then [softDelete e] else []).map Source.members)
      (if flags.softDelete then Seeds.steps e else []) := by
    cases flags.softDelete with
    | false => exact .nil
    | true => exact .singleton (hsoft.tells he).members
  refine Source.Tells.joinWith (.literal ['\n', '\n'] (by decide)) ?_
  rw [openTests, List.map_cons, List.map_append]
  exact .cons (hhappy.tells he).members (hmissing.append hlater)

end DeleteSuite

end Scaffold
