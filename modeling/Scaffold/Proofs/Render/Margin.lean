/-
  Scaffold/Proofs/Render/Margin.lean
  ==================================
  **The members of every generated class stand behind the margin.**

  Names hold no line feed, so what the templates write for one line is one line. The one exception is
  the line that inserts a row: it takes the statements and the clauses for all parents, which bring
  their own line feeds, each with the indentation behind it.
-/
import Scaffold.Proofs.Render.Files
import Scaffold.Proofs.Source.Margin

namespace Scaffold

open Text (isLine)

/-! ### Names -/

namespace Entity.IsNamed

variable {e : Entity} (he : e.IsNamed)

include he

theorem isLine_name : isLine e.name = true := Name.isLine_of_isIdentifier he.name

theorem isLine_plural : isLine e.plural = true := Name.isLine_of_isIdentifier he.plural

theorem isLine_lambda : isLine e.lambda = true := Name.isLine_of_isIdentifier he.lambda

theorem isLine_key : isLine e.key.name = true := Name.isLine_of_isIdentifier he.key

theorem isLine_lowerName : isLine e.lowerName = true :=
  Name.isLine_of_isPart fun c hc => .inl (Name.isPart_asciiLower he.name c hc)

theorem isLine_variableName : isLine e.variableName = true :=
  Name.isLine_of_isIdentifier (Name.isIdentifier_lowerFirst he.name)

theorem isLine_localName : isLine e.localName = true :=
  Name.isLine_of_isPart (Name.isPart_or_escape e.lambda he.name)

end Entity.IsNamed

theorem PropertyType.isLine_csharp (type : PropertyType) : isLine type.csharp = true := by
  cases type <;> rfl

theorem PropertyType.isLine_badKey {type : PropertyType} {key : String}
    (h : type.badKey? = some key) : isLine key = true := by
  cases type <;> cases h <;> rfl

theorem DtoShape.isLine_className (shape : DtoShape) {entity : String}
    (h : isLine entity = true) : isLine (shape.className entity) = true := by
  unfold className
  rw [Text.isLine_append, h]
  cases shape <;> rfl

/-! ### The delete feature -/

namespace Handler

variable {e : Entity} (he : e.IsNamed)

include he

theorem isLine_dependency {permission : Option String} {d : Dependency}
    (hd : d ∈ dependencies e permission) : isLine d.type = true ∧ isLine d.name = true := by
  obtain ⟨htype, hname⟩ := isIdentifier_dependency he hd
  exact ⟨Name.isLine_of_isIdentifier htype, Name.isLine_of_isIdentifier hname⟩

theorem areLines_map_dependencies {permission : Option String} {write : Dependency → String}
    (h : ∀ d : Dependency, isLine d.type = true → isLine d.name = true → isLine (write d) = true) :
    Source.areLines ((dependencies e permission).map write) = true := by
  refine List.all_eq_true.mpr ?_
  intro line hline
  obtain ⟨d, hd, rfl⟩ := List.mem_map.mp hline
  obtain ⟨htype, hname⟩ := isLine_dependency he hd
  exact h d htype hname

theorem areLines_lines {permission : Option String}
    (hpermission : ∀ name, permission = some name → isLine name = true) :
    Source.areLines (lines e permission) = true := by
  have hfields : Source.areLines ((dependencies e permission).map Dependency.field) = true := by
    refine areLines_map_dependencies he ?_
    intro d htype hname
    unfold Dependency.field
    simp only [Text.isLine_append, htype, hname]
    rfl
  have hassignments : Source.areLines ((dependencies e permission).map Dependency.assignment) =
      true := by
    refine areLines_map_dependencies he ?_
    intro d _ hname
    unfold Dependency.assignment
    simp only [Text.isLine_append, hname]
    rfl
  have hparameters : isLine (Text.joinWith ", " ((dependencies e permission).map
      Dependency.parameter)) = true := by
    have hall : Source.areLines ((dependencies e permission).map Dependency.parameter) = true := by
      refine areLines_map_dependencies he ?_
      intro d htype hname
      unfold Dependency.parameter
      simp only [Text.isLine_append, htype, hname]
      rfl
    exact Text.isLine_joinWith rfl (List.all_eq_true.mp hall)
  have hguard : Source.areLines (guardLines permission) = true := by
    cases permission with
    | none => rfl
    | some name =>
      unfold guardLines
      simp only [Source.areLines_cons, Source.areLines_nil, Text.isLine_append, hpermission name rfl]
      repeat rw [Text.isLine_ofList]
      rfl
  have hrepository : isLine (repositoryName e) = true :=
    Name.isLine_of_isIdentifier (isIdentifier_repositoryName he)
  unfold lines commandLine handleLines Name.command
  simp only [Source.areLines_spaced, Source.areLines_block, Source.areLines_append,
    Source.areLines_cons, Source.areLines_nil, List.all_cons, List.all_nil, Text.isLine_append,
    hfields, hassignments, hparameters, hguard, hrepository, he.isLine_key,
    PropertyType.isLine_csharp]
  repeat rw [Text.isLine_ofList]
  rfl

end Handler

/-! ### Makers of test data and the tests of the update method -/

namespace Fakes

variable {e : Entity} (he : e.IsNamed)

include he

theorem areLines_entityLines : Source.areLines (entityLines e) = true := by
  have hdto : isLine (DtoShape.creation.className e.name) = true :=
    DtoShape.creation.isLine_className he.isLine_name
  have hparameter : isLine (Text.lowerFirst (DtoShape.creation.className e.name)) = true :=
    Name.isLine_of_isIdentifier (Name.isIdentifier_lowerFirst
      (Name.isIdentifier_append_identifier he.name (by decide)))
  unfold entityLines Name.faker
  simp only [Source.areLines_spaced, Source.areLines_block, Source.areLines_cons,
    Source.areLines_nil, List.all_cons, List.all_nil, Text.isLine_append, hdto, hparameter,
    he.isLine_name]
  repeat rw [Text.isLine_ofList]
  rfl

theorem areLines_dtoLines {className : String} (hclass : isLine className = true) :
    Source.areLines (dtoLines e className) = true := by
  have hreset : Source.areLines ((e.properties.filter (·.isForeign)).map (resetLine e.lambda)) =
      true := by
    refine List.all_eq_true.mpr ?_
    intro line hline
    obtain ⟨p, hp, rfl⟩ := List.mem_map.mp hline
    have hname : isLine p.name = true :=
      Name.isLine_of_isIdentifier (he.properties p (List.mem_of_mem_filter hp))
    unfold resetLine
    simp only [Text.isLine_append, he.isLine_lambda, hname, PropertyType.isLine_csharp]
    rfl
  unfold dtoLines
  simp only [Source.areLines_block, Source.areLines_cons, Source.areLines_nil, Text.isLine_append,
    hclass, hreset]
  rfl

end Fakes

theorem UpdateSuite.areLines_lines {e : Entity} (he : e.IsNamed) {className : String}
    (hclass : isLine className = true) : Source.areLines (lines e className) = true := by
  have hdto : isLine (DtoShape.update.className e.name) = true :=
    DtoShape.update.isLine_className he.isLine_name
  unfold lines Name.faker
  simp only [Source.areLines_spaced, Source.areLines_block, Source.areLines_cons,
    Source.areLines_nil, List.all_cons, List.all_nil, Text.isLine_append, hclass, hdto,
    he.isLine_name, he.isLine_variableName]
  repeat rw [Text.isLine_ofList]
  rfl

/-! ### The tests of the delete command -/

namespace Seeds

theorem hanging_bodyBreak : Text.Hanging bodyBreak :=
  .goesOn (s := "") (t := "       ") (.line rfl) rfl

theorem hanging_chainBreak : Text.Hanging chainBreak :=
  .goesOn (s := "") (t := "           ") (.line rfl) rfl

variable {e : Entity} (he : e.IsNamed)

include he

theorem hanging_statements : Text.Hanging (Seeds.of e).statements := by
  unfold Seeds.of
  split
  · refine .join ?_
    intro pair hpair
    obtain ⟨r, hr, rfl⟩ := List.mem_map.mp hpair
    have hr : r.IsNamed := he.relationships r hr
    have hvariable : isLine r.seedVariable = true := Name.isLine_of_isIdentifier hr.seed_variable
    have hmade : isLine ("var " ++ r.seedVariable ++ " = " ++ Name.faker r.parent ++
        ".Generate(new " ++ Name.faker (DtoShape.creation.className r.parent) ++
        "().Generate());") = true := by
      unfold Name.faker DtoShape.className DtoShape.suffix
      simp only [Text.isLine_append, hvariable, Name.isLine_of_isIdentifier hr.parent]
      rfl
    have hinserted : isLine ("await " ++ Text.lowerFirst Name.testingServiceScope ++
        ".InsertAsync(" ++ r.seedVariable ++ ");") = true := by
      simp only [Text.isLine_append, hvariable]
      rfl
    have hall := (((Text.Hanging.line hmade).append hanging_bodyBreak).append
      ((Text.Hanging.line hinserted).append hanging_bodyBreak)).append hanging_bodyBreak
    unfold statementPair
    simpa only [String.append_assoc] using hall
  · exact .line rfl

theorem hanging_clauses : Text.Hanging (Seeds.of e).clauses := by
  unfold Seeds.of
  split
  · refine .append (.join ?_) hanging_chainBreak
    intro text htext
    obtain ⟨r, hr, rfl⟩ := List.mem_map.mp htext
    have hr : r.IsNamed := he.relationships r hr
    have hrule : isLine (".RuleFor(" ++ e.lambda ++ " => " ++ e.lambda ++ "." ++ r.property ++
        ", _ => " ++ r.seedVariable ++ "." ++ r.parentKey ++ ")") = true := by
      simp only [Text.isLine_append, he.isLine_lambda, Name.isLine_of_isIdentifier hr.property,
        Name.isLine_of_isIdentifier hr.seed_variable, Name.isLine_of_isIdentifier hr.parent_key]
      rfl
    have hall := hanging_chainBreak.append (.line hrule)
    unfold clause
    simpa only [String.append_assoc] using hall
  · exact .line rfl

end Seeds

namespace DeleteSuite

variable {e : Entity} (he : e.IsNamed)

include he

theorem isLine_sameKey {other : String} (hother : isLine other = true) :
    isLine (sameKey e other) = true := by
  unfold sameKey
  simp only [Text.isLine_append, he.isLine_lambda, he.isLine_key, hother]
  rfl

theorem isLine_query {name : String} (hname : isLine name = true) :
    isLine (query e name) = true := by
  unfold query
  simp only [Text.isLine_append, he.isLine_plural, hname]
  repeat rw [Text.isLine_ofList]
  rfl

theorem isLine_newCommand {key : String} (hkey : isLine key = true) :
    isLine (newCommand e key) = true := by
  unfold newCommand Name.deleteFeature Name.command
  simp only [Text.isLine_append, he.isLine_name, hkey]
  rfl

omit he in
theorem hanging_testMethod {name : String} {body : List (List String)} (hname : isLine name = true)
    (hbody : ∀ group ∈ body, Source.Hanging group) : Source.Hanging (testMethod name body) := by
  refine .block (.of_areLines ?_) (.spaced hbody)
  simp only [Source.areLines_cons, Source.areLines_nil, Text.isLine_append, hname]
  rfl

theorem hanging_arrangeSeeded : Source.Hanging (arrangeSeeded e) := by
  have hfake : isLine (Name.fakeVariable e.name) = true := by
    unfold Name.fakeVariable
    simp only [Text.isLine_append, he.isLine_name]
    rfl
  have hmade : isLine ("var " ++ Name.fakeVariable e.name ++ " = " ++ Name.faker e.name ++
      ".Generate(new " ++ Name.faker (DtoShape.creation.className e.name) ++ "()") = true := by
    unfold Name.faker DtoShape.className DtoShape.suffix
    simp only [Text.isLine_append, hfake, he.isLine_name]
    rfl
  have hrow := ((Seeds.hanging_statements he).append (.line hmade)).append
    ((Seeds.hanging_clauses he).append (.line (s := ".Generate());") rfl))
  have hinserted : isLine ("await testingServiceScope.InsertAsync(" ++ Name.fakeVariable e.name ++
      ");") = true := by
    simp only [Text.isLine_append, hfake]
    repeat rw [Text.isLine_ofList]
    rfl
  have hread : isLine ("    .FirstOrDefaultAsync(" ++ sameKey e (Name.fakeVariable e.name) ++
      "));") = true := by
    simp only [Text.isLine_append, isLine_sameKey he hfake]
    rfl
  unfold arrangeSeeded Source.Hanging
  simp only [List.forall_mem_cons]
  refine ⟨.line rfl, .line (by decide +kernel), ?_, .line hinserted,
    .line (isLine_query he he.isLine_localName), .line hread, List.forall_mem_nil _⟩
  simpa only [String.append_assoc] using hrow

theorem areLines_actOnSeeded : Source.areLines (actOnSeeded e) = true := by
  have hkey : isLine (e.localName ++ "." ++ e.key.name) = true := by
    simp only [Text.isLine_append, he.isLine_localName, he.isLine_key]
    rfl
  unfold actOnSeeded
  simp only [Source.areLines_cons, Source.areLines_nil, isLine_newCommand he hkey]
  repeat rw [Text.isLine_ofList]
  rfl

theorem areLines_actExpectingRefusal {key : String} (hkey : isLine key = true) :
    Source.areLines (actExpectingRefusal e key) = true := by
  unfold actExpectingRefusal
  simp only [Source.areLines_cons, Source.areLines_nil, isLine_newCommand he hkey]
  repeat rw [Text.isLine_ofList]
  rfl

omit he in
theorem areLines_assertRefused {exception : String} (h : isLine exception = true) :
    Source.areLines (assertRefused exception) = true := by
  unfold assertRefused
  simp only [Source.areLines_cons, Source.areLines_nil, Text.isLine_append, h]
  rfl

theorem hanging_happyPath : Source.Hanging (happyPath e) := by
  have hname : isLine ("can_delete_" ++ e.lowerName ++ "_from_db") = true := by
    simp only [Text.isLine_append, he.isLine_lowerName]
    rfl
  have hresponse : isLine (e.localName ++ "Response") = true := by
    simp only [Text.isLine_append, he.isLine_localName]
    rfl
  refine hanging_testMethod hname ?_
  simp only [List.forall_mem_cons]
  refine ⟨hanging_arrangeSeeded he, .of_areLines ?_, .of_areLines ?_, List.forall_mem_nil _⟩
  · simp only [Source.areLines_append, Source.areLines_cons, Source.areLines_nil,
      Text.isLine_append, areLines_actOnSeeded he, isLine_query he hresponse,
      isLine_sameKey he he.isLine_localName]
    rfl
  · simp only [Source.areLines_cons, Source.areLines_nil, Text.isLine_append, he.isLine_localName]
    rfl

theorem hanging_notFound {key : String} (hkey : isLine key = true) :
    Source.Hanging (notFound e key) := by
  have hname : isLine ("delete_" ++ e.lowerName ++
      "_throws_notfoundexception_when_record_does_not_exist") = true := by
    simp only [Text.isLine_append, he.isLine_lowerName]
    repeat rw [Text.isLine_ofList]
    rfl
  refine hanging_testMethod hname ?_
  simp only [List.forall_mem_cons]
  refine ⟨.of_areLines ?_, .of_areLines (areLines_actExpectingRefusal he rfl),
    .of_areLines (areLines_assertRefused rfl), List.forall_mem_nil _⟩
  unfold openScope Name.testingServiceScope
  simp only [Source.areLines_cons, Source.areLines_nil, Text.isLine_append, hkey]
  repeat rw [Text.isLine_ofList]
  rfl

theorem hanging_softDelete : Source.Hanging (softDelete e) := by
  have hname : isLine ("can_softdelete_" ++ e.lowerName ++ "_from_db") = true := by
    simp only [Text.isLine_append, he.isLine_lowerName]
    rfl
  have hdeleted : isLine ("deleted" ++ e.name) = true := by
    simp only [Text.isLine_append, he.isLine_name]
    rfl
  refine hanging_testMethod hname ?_
  simp only [List.forall_mem_cons]
  refine ⟨hanging_arrangeSeeded he, .of_areLines ?_, .of_areLines ?_, List.forall_mem_nil _⟩
  · simp only [Source.areLines_append, Source.areLines_cons, Source.areLines_nil,
      Text.isLine_append, areLines_actOnSeeded he, isLine_query he hdeleted,
      isLine_sameKey he he.isLine_localName]
    rfl
  · simp only [Source.areLines_cons, Source.areLines_nil, Text.isLine_append, he.isLine_name]
    rfl

omit he in
theorem isLine_anyKey (e : Entity) : isLine (anyKey e) = true := by
  unfold anyKey
  cases hkey : e.key.type.badKey? with
  | some key => exact PropertyType.isLine_badKey hkey
  | none =>
    rw [Option.getD_none, Text.isLine_append, Text.isLine_append, PropertyType.isLine_csharp]
    rfl

theorem hanging_permissionTest {permission : String} (h : isLine permission = true) :
    Source.Hanging (permissionTest e permission) := by
  refine hanging_testMethod rfl ?_
  simp only [List.forall_mem_cons]
  refine ⟨.of_areLines ?_, .of_areLines (areLines_actExpectingRefusal he (isLine_anyKey e)),
    .of_areLines (areLines_assertRefused rfl), List.forall_mem_nil _⟩
  unfold openScope Name.testingServiceScope
  simp only [Source.areLines_cons, Source.areLines_nil, Text.isLine_append, h]
  repeat rw [Text.isLine_ofList]
  rfl

theorem everyLine_assemble {flags : Flags}
    (hpermission : ∀ name, flags.effectivePermission "Delete" e.plural = some name →
      isLine name = true) :
    Text.EveryLine Source.IsInner (fragments e flags).assemble := by
  rw [assemble_fragments]
  refine .joinWith_blank (.inl rfl) ?_
  intro text htext
  obtain ⟨test, htest, rfl⟩ := List.mem_map.mp htext
  refine Source.Hanging.members ?_
  rcases List.mem_cons.mp htest with rfl | htest
  · exact hanging_happyPath he
  unfold laterTests at htest
  rcases List.mem_append.mp htest with htest | htest
  · rcases List.mem_append.mp htest with hmissing | hsoft
    · obtain ⟨key, hkey, rfl⟩ := Option.map_eq_some_iff.mp (Option.mem_toList.mp hmissing)
      exact hanging_notFound he (PropertyType.isLine_badKey hkey)
    · split at hsoft
      · rw [List.mem_singleton.mp hsoft]
        exact hanging_softDelete he
      · cases hsoft
  · obtain ⟨name, hname, rfl⟩ := Option.map_eq_some_iff.mp (Option.mem_toList.mp htest)
    exact hanging_permissionTest he (hpermission name hname)

end DeleteSuite

end Scaffold
