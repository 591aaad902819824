/-
  Scaffold/Proofs/Render/Nesting.lean
  ===================================
  **The members of every generated class are nested.**

  The templates write brackets, the names of an entity have none. A template therefore has the same
  brackets for every entity, up to the number of parents and foreign keys. The one text that is
  not a name is the permission: it is written as it was given, and the members are nested when it is.
-/
import Scaffold.Proofs.Entity.Names
import Scaffold.Proofs.Render.Delete
import Scaffold.Proofs.Source.Slots

namespace Scaffold

open Scaffold.Bracket (Nested)

/-! ### Names -/

namespace Name

theorem brackets_asciiLower {name : String} (h : isIdentifier name = true) :
    Text.brackets (Text.asciiLower name) = [] :=
  Text.brackets_eq_nil_iff.mpr fun c hc => isBracket_of_isPart (isPart_asciiLower h c hc)

theorem brackets_localVariable {entity : String} (lambda : String)
    (h : isIdentifier entity = true) : Text.brackets (localVariable entity lambda) = [] := by
  refine Text.brackets_eq_nil_iff.mpr ?_
  intro c hc
  rcases isPart_or_escape lambda h c hc with hpart | rfl
  · exact isBracket_of_isPart hpart
  · rfl

theorem brackets_faker (name : String) : Text.brackets (faker name) = Text.brackets name := by
  unfold faker
  rw [Text.brackets_append]
  rfl

theorem brackets_deleteFeature (entity : String) :
    Text.brackets (deleteFeature entity) = Text.brackets entity := by
  unfold deleteFeature
  rw [Text.brackets_append]
  rfl

theorem brackets_fakeVariable (entity : String) :
    Text.brackets (fakeVariable entity) = Text.brackets entity := by
  unfold fakeVariable
  rw [Text.brackets_append, Text.brackets_append]
  exact List.append_nil _

theorem brackets_dto (shape : DtoShape) (entity : String) :
    Text.brackets (shape.className entity) = Text.brackets entity := by
  unfold DtoShape.className
  rw [Text.brackets_append]
  cases shape <;> exact List.append_nil _

end Name

namespace Entity.IsNamed

variable {e : Entity} (he : e.IsNamed)

include he

theorem brackets_name : Text.brackets e.name = [] := Name.brackets_of_isIdentifier he.name

theorem brackets_plural : Text.brackets e.plural = [] := Name.brackets_of_isIdentifier he.plural

theorem brackets_lambda : Text.brackets e.lambda = [] := Name.brackets_of_isIdentifier he.lambda

theorem brackets_key : Text.brackets e.key.name = [] := Name.brackets_of_isIdentifier he.key

theorem brackets_lowerName : Text.brackets e.lowerName = [] := Name.brackets_asciiLower he.name

theorem brackets_variableName : Text.brackets e.variableName = [] :=
  Name.brackets_of_isIdentifier (Name.isIdentifier_lowerFirst he.name)

theorem brackets_localName : Text.brackets e.localName = [] :=
  Name.brackets_localVariable e.lambda he.name

end Entity.IsNamed

theorem PropertyType.brackets_csharp (type : PropertyType) : Text.brackets type.csharp = [] := by
  cases type <;> rfl

/-! ### The delete feature -/

namespace Handler

variable {e : Entity} (he : e.IsNamed)

include he

theorem brackets_commandLine : Text.brackets (commandLine e) = ['(', ')'] := by
  unfold commandLine
  simp only [Text.brackets_append, he.brackets_key, PropertyType.brackets_csharp]
  repeat rw [Text.brackets_ofList]
  decide +kernel

theorem brackets_repositoryName : Text.brackets (repositoryName e) = [] :=
  Name.brackets_of_isIdentifier (isIdentifier_repositoryName he)

/-- The dependencies bring no bracket into what is written for them. -/
theorem brackets_map_dependencies {permission : Option String} {write : Dependency → String}
    (h : ∀ d : Dependency, Text.brackets d.type = [] → Text.brackets d.name = [] →
      Text.brackets (write d) = []) :
    ((dependencies e permission).map write).flatMap Text.brackets = [] := by
  refine List.flatMap_eq_nil_iff.mpr ?_
  intro line hline
  obtain ⟨d, hd, rfl⟩ := List.mem_map.mp hline
  obtain ⟨htype, hname⟩ := isIdentifier_dependency he hd
  exact h d (Name.brackets_of_isIdentifier htype) (Name.brackets_of_isIdentifier hname)

theorem brackets_fields (permission : Option String) :
    Source.brackets ((dependencies e permission).map Dependency.field) = [] := by
  refine brackets_map_dependencies he ?_
  intro d htype hname
  unfold Dependency.field
  simp only [Text.brackets_append, htype, hname]
  repeat rw [Text.brackets_ofList]
  rfl

theorem brackets_constructor (permission : Option String) :
    Source.brackets (Source.block
      ["public Handler(" ++
        Text.joinWith ", " ((dependencies e permission).map Dependency.parameter) ++ ")"]
      ((dependencies e permission).map Dependency.assignment)) = ['(', ')', '\x7b', '\x7d'] := by
  have hparameters : Text.brackets
      (Text.joinWith ", " ((dependencies e permission).map Dependency.parameter)) = [] := by
    rw [Text.brackets_joinWith rfl]
    refine brackets_map_dependencies he ?_
    intro d htype hname
    unfold Dependency.parameter
    rw [Text.brackets_append, Text.brackets_append, htype, hname]
    rfl
  have hassignments : Source.brackets
      ((dependencies e permission).map Dependency.assignment) = [] := by
    refine brackets_map_dependencies he ?_
    intro d htype hname
    unfold Dependency.assignment
    simp only [Text.brackets_append, hname]
    rfl
  rw [Source.brackets_block, hassignments, Source.brackets_cons, Text.brackets_append,
    Text.brackets_append, hparameters]
  rfl

omit he in
theorem brackets_guardLines (name : String) :
    Source.brackets (guardLines (some name)) = '(' :: Text.brackets name ++ [')'] := by
  unfold guardLines
  simp only [Source.brackets_cons, Source.brackets_nil, Text.brackets_append]
  rw [Text.brackets_ofList, List.append_assoc]
  rfl

theorem brackets_handleLines (permission : Option String) :
    Source.brackets (handleLines e permission) =
      Source.brackets (guardLines permission) ++ ['(', ')', '(', ')', '(', ')'] := by
  unfold handleLines
  rw [Source.brackets_append, List.append_cancel_left_eq]
  simp only [Source.brackets_cons, Source.brackets_nil, Text.brackets_append,
    brackets_repositoryName he, he.brackets_key]
  repeat rw [Text.brackets_ofList]
  decide +kernel

/-- The permission is checked in a method of a class of the feature. -/
theorem brackets_lines (permission : Option String) :
    Source.brackets (lines e permission) =
      ['(', ')', '\x7b', '(', ')', '\x7b', '\x7d', '(', ')', '\x7b'] ++
        (Source.brackets (guardLines permission) ++
          ['(', ')', '(', ')', '(', ')', '\x7d', '\x7d']) := by
  have hclass : Text.brackets
      ("public sealed class Handler : IRequestHandler<" ++ Name.command ++ ">") = [] := by
    decide +kernel
  have hmethod : Text.brackets
      ("public async Task Handle(" ++ Name.command ++
        " request, CancellationToken cancellationToken)") = ['(', ')'] := by
    decide +kernel
  unfold lines
  simp only [Source.brackets_spaced, List.flatMap_cons, List.flatMap_nil]
  rw [Source.brackets_cons, brackets_commandLine he, Source.brackets_block, Source.brackets_spaced,
    Source.brackets_cons, hclass]
  simp only [List.flatMap_cons, List.flatMap_nil]
  rw [brackets_fields he, brackets_constructor he, Source.brackets_block, Source.brackets_cons,
    hmethod, brackets_handleLines he]
  simp only [Source.brackets_nil, List.append_assoc, List.cons_append, List.nil_append,
    List.append_nil]

omit he in
/-- The permission is written where the handler checks it, and nowhere else. -/
theorem slot_lines (e : Entity) : Source.Slot fun name => lines e (some name) := by
  have hguard : Source.Slot fun name => guardLines (some name) :=
    .of_line (by decide) [] ");" [""]
  have hhandle : Source.Slot fun name => Source.block
      ["public async Task Handle(" ++ Name.command ++ " request, CancellationToken cancellationToken)"]
      (handleLines e (some name)) := (hguard.append_right _).block _
  have hdependencies : ∀ name, dependencies e (some name) = dependencies e (some "") := fun _ => rfl
  simp only [lines, hdependencies]
  exact ((hhandle.spaced [_, _] []).block _).spaced [[commandLine e]] []

theorem nestedAround_lines (permission : Option String) :
    Text.NestedAround (Source.members (lines e permission)) (permission.getD "") := by
  cases permission with
  | none =>
    refine .of_nested ?_
    rw [Source.brackets_members, brackets_lines he]
    decide
  | some name =>
    refine .of_slot (slot_lines e).members ?_ name
    rw [Source.brackets_members, brackets_lines he, brackets_guardLines]
    decide

end Handler

/-! ### Makers of test data -/

namespace Fakes

variable {e : Entity} (he : e.IsNamed)

include he

theorem nested_entityLines : Source.Nested (entityLines e) := by
  have hdto : Text.brackets (DtoShape.creation.className e.name) = [] := by
    rw [Name.brackets_dto, he.brackets_name]
  have hparameter : Text.brackets (Text.lowerFirst (DtoShape.creation.className e.name)) = [] :=
    Name.brackets_of_isIdentifier (Name.isIdentifier_lowerFirst
      (Name.isIdentifier_append_identifier he.name (by decide)))
  unfold entityLines
  refine .spaced_cons (.block ?_ ?_) (.spaced_cons (.block ?_ ?_) .spaced_nil)
  · refine .of_brackets_eq ['(', ')'] ?_ (by decide)
    simp only [Source.brackets_cons, Source.brackets_nil, Text.brackets_append, he.brackets_name,
      hdto, hparameter]
    repeat rw [Text.brackets_ofList]
    rfl
  · refine .of_brackets_eq ['(', ')'] ?_ (by decide)
    simp only [Source.brackets_cons, Source.brackets_nil, Text.brackets_append, he.brackets_name,
      hparameter]
    rfl
  · refine .of_brackets_eq ['(', ')'] ?_ (by decide)
    simp only [Source.brackets_cons, Source.brackets_nil, Text.brackets_append, he.brackets_name]
    rfl
  · refine .of_brackets_eq ['(', '(', ')', '(', ')', ')'] ?_ (by decide)
    simp only [Source.brackets_cons, Source.brackets_nil, Text.brackets_append, he.brackets_name,
      Name.brackets_faker, hdto]
    rfl

theorem nested_dtoLines {className : String} (hclass : Text.brackets className = []) :
    Source.Nested (dtoLines e className) := by
  refine .block ?_ ?_
  · refine .of_brackets_eq ['(', ')'] ?_ (by decide)
    simp only [Source.brackets_cons, Source.brackets_nil, Text.brackets_append, hclass]
    rfl
  · refine Nested.flatMap ?_
    intro line hline
    obtain ⟨p, hp, rfl⟩ := List.mem_map.mp hline
    have hname : Text.brackets p.name = [] :=
      Name.brackets_of_isIdentifier (he.properties p (List.mem_of_mem_filter hp))
    have hline : Text.brackets (resetLine e.lambda p) = ['(', '(', ')', ')'] := by
      unfold resetLine
      simp only [Text.brackets_append, he.brackets_lambda, hname, PropertyType.brackets_csharp]
      rfl
    rw [hline]
    decide

end Fakes

/-! ### The tests of the update method -/

theorem UpdateSuite.nested_lines {e : Entity} (he : e.IsNamed) {className : String}
    (hclass : Text.brackets className = []) : Source.Nested (lines e className) := by
  unfold lines
  dsimp only
  refine .spaced_cons ?_ (.spaced_cons (.block ?_ ?_) (.spaced_cons (.block ?_
    (.spaced_cons ?_ (.spaced_cons ?_ (.spaced_cons ?_ .spaced_nil)))) .spaced_nil))
  · exact .of_brackets_eq [] rfl .nil
  · refine .of_brackets_eq ['(', ')'] ?_ (by decide)
    simp only [Source.brackets_cons, Source.brackets_nil, Text.brackets_append, hclass]
    rfl
  · exact .of_brackets_eq ['(', ')'] rfl (by decide)
  · refine .of_brackets_eq ['[', ']', '(', ')'] ?_ (by decide)
    simp only [Source.brackets_cons, Source.brackets_nil, Text.brackets_append,
      he.brackets_variableName]
    rfl
  · refine .of_brackets_eq ['(', ')', '(', ')', '(', ')'] ?_ (by decide)
    simp only [Source.brackets_cons, Source.brackets_nil, Text.brackets_append, he.brackets_name,
      Name.brackets_faker, Name.brackets_dto]
    rfl
  · refine .of_brackets_eq ['(', ')'] ?_ (by decide)
    simp only [Source.brackets_cons, Source.brackets_nil, Text.brackets_append, he.brackets_name]
    rfl
  · refine .of_brackets_eq ['(', ')', '(', '(', ')', ')'] ?_ (by decide)
    simp only [Source.brackets_cons, Source.brackets_nil, Text.brackets_append, he.brackets_name]
    repeat rw [Text.brackets_ofList]
    rfl

/-! ### The tests of the delete command -/

namespace Seeds

variable {e : Entity} (he : e.IsNamed)

include he

theorem nested_statements : Nested (Text.brackets (Seeds.of e).statements) := by
  unfold Seeds.of
  split
  · dsimp only
    rw [Text.brackets_join, List.flatMap_map]
    refine Nested.flatMap ?_
    intro r hr
    have hr : r.IsNamed := he.relationships r hr
    have hpair : Text.brackets (statementPair r) = ['(', '(', ')', '(', ')', ')', '(', ')'] := by
      unfold statementPair
      simp only [Text.brackets_append, Name.brackets_faker, Name.brackets_dto,
        Name.brackets_of_isIdentifier hr.parent, Name.brackets_of_isIdentifier hr.seed_variable]
      rfl
    rw [hpair]
    decide
  · exact Nested.nil

theorem nested_clauses : Nested (Text.brackets (Seeds.of e).clauses) := by
  unfold Seeds.of
  split
  · dsimp only
    have hbreak : Text.brackets chainBreak = [] := rfl
    rw [Text.brackets_append, hbreak, List.append_nil, Text.brackets_join, List.flatMap_map]
    refine Nested.flatMap ?_
    intro r hr
    have hr : r.IsNamed := he.relationships r hr
    have hclause : Text.brackets (clause e.lambda r) = ['(', ')'] := by
      unfold clause
      simp only [Text.brackets_append, he.brackets_lambda,
        Name.brackets_of_isIdentifier hr.property, Name.brackets_of_isIdentifier hr.seed_variable,
        Name.brackets_of_isIdentifier hr.parent_key]
      rfl
    rw [hclause]
    decide
  · exact Nested.nil

end Seeds

namespace DeleteSuite

theorem nested_testMethod {name : String} {body : List (List String)}
    (hname : Text.brackets name = []) (hbody : Source.Nested (Source.spaced body)) :
    Source.Nested (testMethod name body) := by
  refine .block (.of_brackets_eq ['[', ']', '(', ')'] ?_ (by decide)) hbody
  simp only [Source.brackets_cons, Source.brackets_nil, Text.brackets_append, hname]
  rfl

theorem brackets_openScope : Text.brackets openScope = ['(', ')'] := by
  unfold openScope Name.testingServiceScope
  rw [Text.brackets_append, Text.brackets_append]
  repeat rw [Text.brackets_ofList]
  rfl

theorem nested_assertRefused {exception : String} (h : Text.brackets exception = []) :
    Source.Nested (assertRefused exception) := by
  refine .of_brackets_eq ['(', ')', '(', ')'] ?_ (by decide)
  unfold assertRefused
  simp only [Source.brackets_cons, Source.brackets_nil, Text.brackets_append, h]
  rfl

section

variable {e : Entity} (he : e.IsNamed)

include he

theorem brackets_sameKey {other : String} (hother : Text.brackets other = []) :
    Text.brackets (sameKey e other) = [] := by
  unfold sameKey
  simp only [Text.brackets_append, he.brackets_lambda, he.brackets_key, hother]
  rfl

/-- A query is left open by its first line. -/
theorem brackets_query {name : String} (hname : Text.brackets name = []) :
    Text.brackets (query e name) = ['('] := by
  unfold query
  simp only [Text.brackets_append, hname, he.brackets_plural]
  repeat rw [Text.brackets_ofList]
  rfl

theorem brackets_newCommand {key : String} :
    Text.brackets (newCommand e key) = '(' :: Text.brackets key ++ [')'] := by
  unfold newCommand
  simp only [Text.brackets_append, Name.brackets_deleteFeature, he.brackets_name]
  rfl

theorem nested_arrangeSeeded : Source.Nested (arrangeSeeded e) := by
  have hcall : Nested ['(', ')'] := by decide
  have hfake : Text.brackets (Name.fakeVariable e.name) = [] := by
    rw [Name.brackets_fakeVariable, he.brackets_name]
  refine .of_brackets_eq (['(', ')'] ++ Text.brackets (Seeds.of e).statements ++
      ('(' :: (['(', ')'] ++ Text.brackets (Seeds.of e).clauses ++ ['(', ')']) ++ [')']) ++
      ['(', ')', '(', '(', ')', ')']) ?_ ?_
  · have hnew : Text.brackets ".Generate(new " = ['('] := rfl
    have hempty : Text.brackets "()" = ['(', ')'] := rfl
    have hgenerate : Text.brackets ".Generate());" = ['(', ')', ')'] := rfl
    unfold arrangeSeeded
    simp only [Source.brackets_cons, Source.brackets_nil, Text.brackets_append, brackets_openScope,
      brackets_query he he.brackets_localName, brackets_sameKey he hfake, hfake, he.brackets_name,
      Name.brackets_faker, Name.brackets_dto, hnew, hempty, hgenerate, List.append_assoc,
      List.cons_append]
    rfl
  · have harguments := (hcall.append (Seeds.nested_clauses he)).append hcall
    exact ((hcall.append (Seeds.nested_statements he)).append
      (Nested.between rfl harguments)).append (by decide)

theorem nested_actOnSeeded : Source.Nested (actOnSeeded e) := by
  refine .of_brackets_eq ['(', ')', '(', ')'] ?_ (by decide)
  unfold actOnSeeded
  simp only [Source.brackets_cons, Source.brackets_nil, Text.brackets_append,
    brackets_newCommand he, he.brackets_localName, he.brackets_key]
  repeat rw [Text.brackets_ofList]
  rfl

theorem nested_actExpectingRefusal {key : String} (hkey : Nested (Text.brackets key)) :
    Source.Nested (actExpectingRefusal e key) := by
  refine .of_brackets_eq ('(' :: Text.brackets key ++ [')'] ++ ['(', ')', '(', ')']) ?_
    ((Nested.between rfl hkey).append (by decide))
  unfold actExpectingRefusal
  simp only [Source.brackets_cons, Source.brackets_nil, brackets_newCommand he]
  repeat rw [Text.brackets_ofList]
  rfl

theorem nested_happyPath : Source.Nested (happyPath e) := by
  have hresponse : Text.brackets (e.localName ++ "Response") = [] := by
    rw [Text.brackets_append, he.brackets_localName]
    rfl
  unfold happyPath
  refine nested_testMethod ?_ (.spaced_cons (nested_arrangeSeeded he)
    (.spaced_cons (.append (nested_actOnSeeded he) ?_) (.spaced_cons ?_ .spaced_nil)))
  · rw [Text.brackets_append, Text.brackets_append, he.brackets_lowerName]
    rfl
  · refine .of_brackets_eq ['(', '(', ')', ')'] ?_ (by decide)
    simp only [Source.brackets_cons, Source.brackets_nil, Text.brackets_append,
      brackets_query he hresponse, brackets_sameKey he he.brackets_localName]
    rfl
  · refine .of_brackets_eq ['(', ')', '(', ')'] ?_ (by decide)
    simp only [Source.brackets_cons, Source.brackets_nil, Text.brackets_append,
      he.brackets_localName]
    rfl

theorem nested_notFound {badKey : String} (hkey : Nested (Text.brackets badKey)) :
    Source.Nested (notFound e badKey) := by
  unfold notFound
  refine nested_testMethod ?_ (.spaced_cons ?_ (.spaced_cons
    (nested_actExpectingRefusal he (by decide))
    (.spaced_cons (nested_assertRefused rfl) .spaced_nil)))
  · rw [Text.brackets_append, Text.brackets_append, he.brackets_lowerName]
    repeat rw [Text.brackets_ofList]
    rfl
  · refine .of_brackets_eq (['(', ')'] ++ Text.brackets badKey) ?_ (.append (by decide) hkey)
    simp only [Source.brackets_cons, Source.brackets_nil, Text.brackets_append, brackets_openScope]
    exact congrArg (['(', ')'] ++ ·) ((List.append_nil _).trans (List.append_nil _))

theorem nested_softDelete : Source.Nested (softDelete e) := by
  have hdeleted : Text.brackets ("deleted" ++ e.name) = [] := by
    rw [Text.brackets_append, he.brackets_name]
    rfl
  unfold softDelete
  dsimp only
  refine nested_testMethod ?_ (.spaced_cons (nested_arrangeSeeded he)
    (.spaced_cons (.append (nested_actOnSeeded he) ?_) (.spaced_cons ?_ .spaced_nil)))
  · rw [Text.brackets_append, Text.brackets_append, he.brackets_lowerName]
    rfl
  · refine .of_brackets_eq ['(', '(', ')', '(', ')', ')'] ?_ (by decide)
    simp only [Source.brackets_cons, Source.brackets_nil, Text.brackets_append,
      brackets_query he hdeleted, brackets_sameKey he he.brackets_localName]
    rfl
  · refine .of_brackets_eq ['(', ')', '(', ')', '(', ')', '(', ')'] ?_ (by decide)
    simp only [Source.brackets_cons, Source.brackets_nil, Text.brackets_append, he.brackets_name]
    rfl

omit he in
theorem nested_badKey {type : PropertyType} {key : String} (h : type.badKey? = some key) :
    Nested (Text.brackets key) := by
  cases type <;> cases h <;> decide

omit he in
theorem nested_anyKey (e : Entity) : Nested (Text.brackets (anyKey e)) := by
  unfold anyKey
  cases hkey : e.key.type.badKey? with
  | some key => exact nested_badKey hkey
  | none =>
    have hdefault : Text.brackets ("default(" ++ e.key.type.csharp ++ ")") = ['(', ')'] := by
      rw [Text.brackets_append, Text.brackets_append, PropertyType.brackets_csharp]
      rfl
    rw [Option.getD_none, hdefault]
    decide

theorem nested_permissionTest {permission : String}
    (hpermission : Nested (Text.brackets permission)) :
    Source.Nested (permissionTest e permission) := by
  unfold permissionTest
  refine nested_testMethod rfl (.spaced_cons ?_ (.spaced_cons
    (nested_actExpectingRefusal he (nested_anyKey e))
    (.spaced_cons (nested_assertRefused rfl) .spaced_nil)))
  refine .of_brackets_eq (['(', ')'] ++ ('(' :: Text.brackets permission ++ [')'])) ?_
    (.append (by decide) (Nested.between rfl hpermission))
  simp only [Source.brackets_cons, Source.brackets_nil, Text.brackets_append, brackets_openScope]
  rw [Text.brackets_ofList, Text.brackets_ofList, List.append_nil, List.append_assoc]
  rfl

theorem nested_assemble {flags : Flags}
    (hpermission : ∀ name, flags.effectivePermission "Delete" e.plural = some name →
      Nested (Text.brackets name)) :
    Nested (Text.brackets (fragments e flags).assemble) := by
  rw [assemble_fragments, Text.brackets_joinWith rfl, List.flatMap_map]
  refine Nested.flatMap ?_
  intro test htest
  rw [Source.brackets_members]
  rcases List.mem_cons.mp htest with rfl | htest
  · exact nested_happyPath he
  unfold laterTests at htest
  rcases List.mem_append.mp htest with htest | htest
  · rcases List.mem_append.mp htest with hmissing | hsoft
    · obtain ⟨key, hkey, rfl⟩ := Option.map_eq_some_iff.mp (Option.mem_toList.mp hmissing)
      exact nested_notFound he (nested_badKey hkey)
    · split at hsoft
      · rw [List.mem_singleton.mp hsoft]
        exact nested_softDelete he
      · cases hsoft
  · obtain ⟨name, hname, rfl⟩ := Option.map_eq_some_iff.mp (Option.mem_toList.mp htest)
    exact nested_permissionTest he (hpermission name hname)

omit he in
theorem slot_permissionTest (e : Entity) : Source.Slot (permissionTest e) := by
  have harrange : Source.Slot fun name => ["// Arrange", openScope,
      "testingServiceScope.SetUserNotPermitted(Permissions." ++ name ++ ");"] :=
    .of_line (by decide) ["// Arrange", openScope] ");" []
  exact (harrange.spaced [] [_, _]).block _

theorem nestedAround_assemble (flags : Flags) :
    Text.NestedAround (fragments e flags).assemble
      ((flags.effectivePermission "Delete" e.plural).getD "") := by
  cases hpermission : flags.effectivePermission "Delete" e.plural with
  | none =>
    refine .of_nested (nested_assemble he ?_)
    rw [hpermission]
    exact nofun
  | some name =>
    -- the other tests are those of the feature without protection
    have hopen : ({ flags with isProtected := false } : Flags).effectivePermission "Delete" e.plural =
        none := rfl
    have htests : laterTests e flags =
        laterTests e { flags with isProtected := false } ++ [permissionTest e name] := by
      unfold laterTests
      rw [hpermission, hopen]
      simp
    have hothers : Nested
        (Text.brackets (fragments e { flags with isProtected := false }).assemble) := by
      refine nested_assemble he ?_
      rw [hopen]
      exact nofun
    rw [assemble_fragments, Text.brackets_joinWith rfl] at hothers
    have htest : Source.Nested (permissionTest e "") := nested_permissionTest he Nested.nil
    rw [assemble_fragments, htests, ← List.cons_append, List.map_append]
    refine .of_slot ((slot_permissionTest e).members.joinWith "\n\n" _ []) ?_ name
    rw [Text.brackets_joinWith rfl, List.flatMap_append]
    refine hothers.append ?_
    rw [List.flatMap_singleton, Source.brackets_members]
    exact htest

end

end DeleteSuite

end Scaffold
