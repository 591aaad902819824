/-
  Scaffold/Proofs/Batch/ParentKeys.lean
  =====================================
  **Which key a foreign key reads, and that it is the parent's own.**

  `Definition.ReadsKey` says which key a batch gives a foreign key: that of the last definition that
  builds an entity of the parent's name, wherever it stands, else `Id`. In every run of the batch the
  tests that the sink is handed for a definition read that key, in one clause for each foreign key;
  the delete feature that it is handed for the parent takes it as the parameter of its command
  (`parent_keys_agree`).
-/
import Scaffold.Proofs.Batch.Handover
import Scaffold.Proofs.Batch.Memory
import Scaffold.Proofs.Entity.Building

namespace Scaffold

/-! ### Keys of a batch -/

namespace Definition

/-- The key that a foreign key to `parent` reads in a batch. Names are compared in PascalCase. -/
inductive ReadsKey (batch : List Definition) (parent : String) : String → Prop
  /-- The key of the last definition that builds an entity of that name. -/
  | found {before after : List Definition} {d : Definition} {e : Entity}
      (split : batch = before ++ d :: after) (build : d.draft.build = .ok e)
      (name : Name.pascal d.draft.name = Name.pascal parent)
      (last : ∀ other ∈ after, other.builds = true →
        Name.pascal other.draft.name ≠ Name.pascal parent) :
      ReadsKey batch parent e.key.name
  /-- No definition builds an entity of that name. -/
  | missing (none : ∀ d ∈ batch, d.builds = true →
        Name.pascal d.draft.name ≠ Name.pascal parent) :
      ReadsKey batch parent "Id"

variable {batch : List Definition} {d : Definition} {parent name : String}

theorem keyOf?_concat_of_error {cause : DomainError} (build : d.draft.build = .error cause) :
    keyOf? (batch ++ [d]) name = keyOf? batch name := by
  have hkeys : keys (batch ++ [d]) = keys batch := by
    simp [keys, build, Except.toOption]
  rw [keyOf?, hkeys, keyOf?]

theorem keyOf?_concat_of_ok {e : Entity} (build : d.draft.build = .ok e) :
    keyOf? (batch ++ [d]) name = if name = e.name then some e.key.name else keyOf? batch name := by
  have hkeys : keys (batch ++ [d]) = keys batch ++ [(e.name, e.key.name)] := by
    simp [keys, build, Except.toOption]
  rw [keyOf?, hkeys, List.reverse_concat, List.lookup_cons, keyOf?]
  by_cases hname : name = e.name
  · simp [hname]
  · have hbeq : (name == e.name) = false := beq_false_of_ne hname
    simp [hname, hbeq]

/-- A definition at the end without an entity of the parent's name leaves the key as it was. -/
theorem ReadsKey.concat {key : String} (h : ReadsKey batch parent key)
    (hother : d.builds = true → Name.pascal d.draft.name ≠ Name.pascal parent) :
    ReadsKey (batch ++ [d]) parent key := by
  cases h with
  | @found before after d' e split build name last =>
    refine .found (by rw [split, List.append_assoc]; rfl) build name ?_
    intro other hmem
    rcases List.mem_append.mp hmem with hafter | hlast
    · exact last other hafter
    · rw [List.mem_singleton.mp hlast]
      exact hother
  | missing none =>
    refine .missing fun other hmem => ?_
    rcases List.mem_append.mp hmem with hbatch | hlast
    · exact none other hbatch
    · rw [List.mem_singleton.mp hlast]
      exact hother

/-- Definitions at the end without an entity of the name leave the key as it was. -/
theorem keyOf?_append_of_other {after : List Definition}
    (h : ∀ other ∈ after, other.builds = true → Name.pascal other.draft.name ≠ name) :
    keyOf? (batch ++ after) name = keyOf? batch name := by
  induction after using List.reverseRecOn with
  | nil => rw [List.append_nil]
  | append_singleton after d ih =>
    have hafter : keyOf? (batch ++ after) name = keyOf? batch name :=
      ih fun other hmem => h other (List.mem_append_left _ hmem)
    rw [← List.append_assoc]
    cases build : d.draft.build with
    | error cause => rw [keyOf?_concat_of_error build, hafter]
    | ok e =>
      have hlast := h d (List.mem_append_right _ (List.mem_singleton_self d))
        (builds_iff.mpr ⟨e, build⟩)
      have hname : name ≠ e.name := fun hsame =>
        hlast ((Draft.describes_of_build build).name.symm.trans hsame.symm)
      rw [keyOf?_concat_of_ok build, if_neg hname, hafter]

theorem readsKey_keyOf? (batch : List Definition) (parent : String) :
    ReadsKey batch parent ((keyOf? batch (Name.pascal parent)).getD "Id") := by
  induction batch using List.reverseRecOn with
  | nil => exact .missing fun d hd => absurd hd List.not_mem_nil
  | append_singleton batch d ih =>
    cases build : d.draft.build with
    | error cause =>
      rw [keyOf?_concat_of_error build]
      have hnot : d.builds = false := by simp [builds, build, Except.toOption]
      refine ih.concat fun hbuilds => ?_
      rw [hnot] at hbuilds
      cases hbuilds
    | ok e =>
      rw [keyOf?_concat_of_ok build]
      have hname : e.name = Name.pascal d.draft.name := (Draft.describes_of_build build).name
      by_cases hparent : Name.pascal parent = e.name
      · rw [if_pos hparent]
        exact .found rfl build (hname.symm.trans hparent.symm) fun other hother =>
          absurd hother List.not_mem_nil
      · rw [if_neg hparent]
        exact ih.concat fun _ hsame => hparent (hname.trans hsame).symm

theorem ReadsKey.eq_keyOf? {key : String} (h : ReadsKey batch parent key) :
    key = (keyOf? batch (Name.pascal parent)).getD "Id" := by
  cases h with
  | @found before after d e split build name last =>
    have hname : Name.pascal parent = e.name :=
      name.symm.trans (Draft.describes_of_build build).name.symm
    have hsplit : batch = (before ++ [d]) ++ after := by rw [split, List.append_assoc]; rfl
    rw [hsplit, keyOf?_append_of_other last, keyOf?_concat_of_ok build, if_pos hname]
    rfl
  | missing none =>
    have hnone : keyOf? ([] ++ batch) (Name.pascal parent) = keyOf? [] (Name.pascal parent) :=
      keyOf?_append_of_other none
    rw [List.nil_append] at hnone
    rw [hnone]
    rfl

/-- **The key that is looked up is the one to be read**, and no other is. -/
theorem readsKey_iff {key : String} :
    ReadsKey batch parent key ↔ key = (keyOf? batch (Name.pascal parent)).getD "Id" := by
  constructor
  · exact ReadsKey.eq_keyOf?
  · rintro rfl
    exact readsKey_keyOf? batch parent

/-- Where the name of the parent is unique, the key is that of the parent. -/
theorem ReadsKey.eq_of_unique {key : String} (h : ReadsKey batch parent key) {e : Entity}
    (hmem : d ∈ batch) (build : d.draft.build = .ok e)
    (hname : Name.pascal d.draft.name = Name.pascal parent)
    (hunique : ∀ other ∈ batch, other.builds = true →
      Name.pascal other.draft.name = Name.pascal parent → other = d) :
    key = e.key.name := by
  cases h with
  | @found before after d' e' split build' name last =>
    have hmem' : d' ∈ batch := split ▸ List.mem_append_right before List.mem_cons_self
    have hsame : d' = d := hunique d' hmem' (builds_iff.mpr ⟨e', build'⟩) name
    rw [hsame, build] at build'
    cases build'
    rfl
  | missing none => exact absurd hname (none d hmem (builds_iff.mpr ⟨e, build⟩))

theorem readsKey_iff_of_unique {key : String} {e : Entity} (hmem : d ∈ batch)
    (build : d.draft.build = .ok e) (hname : Name.pascal d.draft.name = Name.pascal parent)
    (hunique : ∀ other ∈ batch, other.builds = true →
      Name.pascal other.draft.name = Name.pascal parent → other = d) :
    ReadsKey batch parent key ↔ key = e.key.name := by
  constructor
  · intro h
    exact h.eq_of_unique hmem build hname hunique
  · rintro rfl
    have hread := readsKey_keyOf? batch parent
    rwa [hread.eq_of_unique hmem build hname hunique] at hread

end Definition

/-! ### Foreign keys and their clauses -/

/-- The foreign keys of a draft, each property with the parent that it names, as given. -/
def Draft.foreignKeys (d : Draft) : List (String × String) :=
  d.properties.filterMap fun p => p.parent.map fun parent => (p.name, parent)

namespace Entity

variable (e : Entity)

/-- The relationship of a foreign key, given by its raw property and parent, that reads `key`. -/
def relationshipTo (foreign : String × String) (key : String) : Relationship :=
  { property := Name.pascal foreign.1
    parent := Name.pascal foreign.2
    seedVariable := Draft.seedVariable e.name e.properties (Name.pascal foreign.1)
      (Name.pascal foreign.2)
    parentKey := key }

/-- The clause that sets a foreign key to `key` of its seeded parent. -/
def keyClause (foreign : String × String) (key : String) : String :=
  "\n            " ++ ".RuleFor(" ++ e.lambda ++ " => " ++ e.lambda ++ "." ++
    Name.pascal foreign.1 ++ ", _ => " ++ Draft.seedVariable e.name e.properties
      (Name.pascal foreign.1) (Name.pascal foreign.2) ++ "." ++ key ++ ")"

/-- The creation data of a test, with one clause for each foreign key. -/
def creationData (clauses : List String) : String :=
  "new Fake" ++ e.name ++ "ForCreationDto()" ++ String.join clauses ++
    (if clauses.isEmpty then "" else "\n            ") ++ ".Generate());"

/-- The relationships of a built entity, with the keys of a batch. -/
theorem relationships_withParentKeys {e : Entity} {d : Draft} (build : d.build = .ok e)
    (keyOf? : String → Option String) :
    (e.withParentKeys keyOf?).relationships = d.foreignKeys.map fun foreign =>
      e.relationshipTo foreign ((keyOf? (Name.pascal foreign.2)).getD "Id") := by
  obtain ⟨-, key, -, rfl⟩ := Draft.build_eq_ok_iff.mp build
  simp only [withParentKeys, relationshipTo, Draft.entityWith, Draft.relationships,
    Draft.foreignKeys, List.filterMap_map, List.map_filterMap, Option.map_map, Function.comp_def,
    Property.normalised, Name.defaultParentKey]

/-- The clauses for the foreign keys of a draft, with the keys of a batch. -/
def keyClauses (d : Draft) (keyOf? : String → Option String) : List String :=
  d.foreignKeys.map fun foreign =>
    e.keyClause foreign ((keyOf? (Name.pascal foreign.2)).getD "Id")

variable {e : Entity} {d : Draft}

theorem map_clause_withParentKeys (build : d.build = .ok e) (keyOf? : String → Option String) :
    (e.withParentKeys keyOf?).relationships.map (Seeds.clause e.lambda) =
      e.keyClauses d keyOf? := by
  have hclause : ∀ foreign key,
      Seeds.clause e.lambda (e.relationshipTo foreign key) = e.keyClause foreign key := by
    intro foreign key
    unfold Seeds.clause keyClause Seeds.chainBreak relationshipTo
    dsimp only
  simp only [relationships_withParentKeys build keyOf?, List.map_map, Function.comp_def, hclause,
    keyClauses]

/-- Between the creation faker and its call there are the clauses and a line break, or nothing. -/
theorem clauses_withParentKeys (build : d.build = .ok e) (keyOf? : String → Option String) :
    (Seeds.of (e.withParentKeys keyOf?)).clauses =
      String.join (e.keyClauses d keyOf?) ++
        if (e.keyClauses d keyOf?).isEmpty then "" else "\n            " := by
  rw [← map_clause_withParentKeys build keyOf?, List.isEmpty_map]
  unfold Seeds.of hasParents
  cases hparents : (e.withParentKeys keyOf?).relationships.isEmpty with
  | true =>
    rw [List.isEmpty_iff.mp hparents]
    rfl
  | false => rfl

end Entity

/-! ### The two files -/

section Files

variable {l : Layout} {d : Draft} {e : Entity} {flags : Flags} {keyOf? : String → Option String}

/-- Every test that seeds the parents hands their keys to the creation data. -/
theorem DeleteSuite.holds_creationData (build : d.build = .ok e) :
    Source.Holds (arrangeSeeded (e.withParentKeys keyOf?))
      (e.creationData (e.keyClauses d keyOf?)) := by
  have hholds := holds_arrangeSeeded (e.withParentKeys keyOf?)
  rw [Entity.clauses_withParentKeys build keyOf?] at hholds
  unfold Entity.creationData
  simp only [String.append_assoc] at hholds ⊢
  exact hholds

/-- The first test of a suite hands over the keys, and so does the one for soft deletion. -/
theorem DeleteSuite.creationData_in_order {suite : Rendered} (build : d.build = .ok e)
    (rendered : l.render (e.withParentKeys keyOf?) flags .deleteCommandTest = .ok suite) :
    ∃ first rest, suite.content = first ++ rest ∧
      Text.Contains first (e.creationData (e.keyClauses d keyOf?)) ∧
      (flags.softDelete = true →
        Text.Contains rest (e.creationData (e.keyClauses d keyOf?))) := by
  have hdata : Source.Holds (arrangeSeeded (e.withParentKeys keyOf?))
      (e.creationData (e.keyClauses d keyOf?)) := holds_creationData build
  obtain ⟨first, rest, htext, hfirst, hrest⟩ := tests_in_order (Layout.content_of_render rendered)
  refine ⟨first, rest, htext, hfirst.trans (holds_happyPath hdata).members, fun hsoft => ?_⟩
  have hmem : softDelete (e.withParentKeys keyOf?) ∈
      laterTests (e.withParentKeys keyOf?) flags := by
    unfold laterTests
    rw [hsoft]
    exact List.mem_append_left _ (List.mem_append_right _ (List.mem_singleton_self _))
  exact (hrest _ hmem).trans (holds_softDelete hdata).members

/-- The feature of an entity takes its key as the parameter of the command. -/
theorem Handler.contains_command {feature : Rendered}
    (rendered : l.render (e.withParentKeys keyOf?) flags .deleteFeature = .ok feature) :
    Text.Contains feature.content
      ("public sealed record Command(" ++ e.key.type.csharp ++ " " ++ e.key.name ++
        ") : IRequest;") := by
  have hhead : "public sealed record Command(" =
      "public sealed record " ++ ("Command" ++ "(") := rfl
  have hcommand := contains_commandLine (Layout.content_of_render rendered)
  unfold commandLine Name.command Entity.withParentKeys at hcommand
  simp only [String.append_assoc] at hcommand
  simp only [hhead, String.append_assoc]
  exact hcommand

end Files

namespace Definition

variable (batch : List Definition) (d : Definition) (e : Entity)

/-- The tests of the delete command set each foreign key, in order, to the key that it reads in the
batch: the first test does, and with soft deletion one behind it. -/
def SetsKeys (tests : String) : Prop :=
  ∃ clauses : List String,
    List.Forall₂ (fun foreign clause => ∃ key, ReadsKey batch foreign.2 key ∧
      clause = e.keyClause foreign key) d.draft.foreignKeys clauses ∧
    ∃ first rest, tests = first ++ rest ∧ Text.Contains first (e.creationData clauses) ∧
      (d.flags.softDelete = true → Text.Contains rest (e.creationData clauses))

/-- The command in the delete feature takes the key of the entity. Where no other definition builds
an entity of that name, this is what every foreign key to it reads. -/
def TakesKey (feature : String) : Prop :=
  Text.Contains feature ("public sealed record Command(" ++ e.key.type.csharp ++ " " ++
    e.key.name ++ ") : IRequest;") ∧
  ((∀ other ∈ batch, other.builds = true →
      Name.pascal other.draft.name = Name.pascal d.draft.name → other = d) →
    ∀ child ∈ batch, ∀ foreign ∈ child.draft.foreignKeys,
      Name.pascal foreign.2 = Name.pascal d.draft.name →
      ∀ key, ReadsKey batch foreign.2 key ↔ key = e.key.name)

/-- What the text of a kind tells about the keys of the batch. -/
def KeysAgree : ArtifactKind → String → Prop
  | .deleteCommandTest, tests => SetsKeys batch d e tests
  | .deleteFeature, feature => TakesKey batch d e feature
  | _, _ => True

end Definition

/-- **Which key a foreign key reads.** Whatever the sink, the texts that a run of a batch hands to it
agree on the keys. Those of a definition's tests set each foreign key, in order, to the key of the
last definition that builds an entity of the parent's name, else to `Id`; where one definition alone
builds that name, the key is the parameter of the command in its delete feature. The sink is handed
them at their positions in the batch and at the paths that were planned, unless the layout does not
provide for the kind or the sink refuses the directory. -/
theorem parent_keys_agree {σ : Type} (l : Layout) (sink : Sink (StateM σ))
    (kinds : List ArtifactKind) (batch : List Definition) (s : σ) :
    let plan := l.planBatch kinds batch
    let run := (l.generateBatch sink kinds batch).run s
    ∃ calls, (l.generateBatch sink.traced kinds batch).run (s, []) = (run.1, (run.2, calls)) ∧
      InTurn (Section.HandsOver l sink kinds (Definition.KeysAgree batch)) s batch plan.sections
        run.1.sections calls run.2 := by
  refine l.handsOver_generateBatch sink kinds batch s ?_
  intro d hd e build kind artifact rendered
  cases kind with
  | deleteCommandTest =>
    refine ⟨e.keyClauses d.draft (Definition.keyOf? batch), ?_,
      DeleteSuite.creationData_in_order build rendered⟩
    unfold Entity.keyClauses
    rw [List.forall₂_map_right_iff, List.forall₂_same]
    intro foreign _
    exact ⟨_, Definition.readsKey_iff.mpr rfl, rfl⟩
  | deleteFeature =>
    refine ⟨Handler.contains_command rendered, ?_⟩
    intro hunique child _ foreign _ hname key
    rw [← hname] at hunique
    exact Definition.readsKey_iff_of_unique hd build hname.symm hunique
  | _ => trivial

namespace Definition

/-- A line that names its order in a spelling of its own. -/
def orderLine : Definition :=
  { draft :=
      { name := "order line"
        properties :=
          [{ name := "Id", type := .guid, isKey := true },
           { name := "order_id", type := .int, parent := some "order" }] } }

/-- An order, whose key is not called `Id`. -/
def order : Definition :=
  { draft :=
      { name := "Order"
        properties := [{ name := "order no", type := .int, isKey := true }] } }

end Definition

/-- The tests of a line read the key of the order behind it, the one that the order's command
takes. -/
theorem orderLine_reads_orderNo :
    let l := Layout.conventional "/sln" "Shop"
    let kinds : List ArtifactKind := [.deleteCommandTest, .deleteFeature]
    let batch := [Definition.orderLine, Definition.order]
    let folder := "/sln/tests/Shop.IntegrationTests/FeatureTests/OrderLines"
    ∃ (e entity : Entity) (calls : List Sink.Call) (tests feature : String),
      Definition.orderLine.draft.build = .ok e ∧ Definition.order.draft.build = .ok entity ∧
      calls = ((l.generateBatch Store.sink.traced kinds batch).run (∅, [])).2.2 ∧
      .write (folder ++ "/DeleteOrderLineCommandTests.cs") tests ∈ calls ∧
      .write "/sln/src/Shop/Domain/Orders/Features/DeleteOrder.cs" feature ∈ calls ∧
      Text.Contains tests (e.creationData [e.keyClause ("order_id", "order") "OrderNo"]) ∧
      Text.Contains feature
        ("public sealed record Command(" ++ entity.key.type.csharp ++ " " ++ "OrderNo" ++
          ") : IRequest;") := by
  intro l kinds batch folder
  have hkey : (Definition.keyOf? batch (Name.pascal "order")).getD "Id" = "OrderNo" := by
    decide +kernel
  have hunique : ∀ other ∈ batch, other.builds = true →
      Name.pascal other.draft.name = Name.pascal Definition.order.draft.name →
        other = Definition.order := by
    decide +kernel
  obtain ⟨e, build⟩ : ∃ e, Definition.orderLine.draft.build = .ok e :=
    isSome_toOption_iff.mp (by decide +kernel)
  obtain ⟨entity, hentity⟩ : ∃ entity, Definition.order.draft.build = .ok entity :=
    isSome_toOption_iff.mp (by decide +kernel)
  obtain ⟨calls, hcalls, hturn⟩ := parent_keys_agree l Store.sink kinds batch ∅
  have hreported : ((l.generateBatch Store.sink kinds batch).run ∅).1.sections =
      [{ entity := "OrderLine"
         artifacts :=
           [.written .deleteCommandTest (folder ++ "/DeleteOrderLineCommandTests.cs"),
            .written .deleteFeature
              "/sln/src/Shop/Domain/OrderLines/Features/DeleteOrderLine.cs"] },
       { entity := "Order"
         artifacts :=
           [.written .deleteCommandTest
              "/sln/tests/Shop.IntegrationTests/FeatureTests/Orders/DeleteOrderCommandTests.cs",
            .written .deleteFeature "/sln/src/Shop/Domain/Orders/Features/DeleteOrder.cs"] }] := by
    -- an empty store has room, so the plan is evaluated and not the run
    rw [(l.generateBatch_of_room (Store.hasRoom_empty _)).1]
    decide +kernel
  rw [hreported] at hturn
  obtain ⟨tests, hwrite, clauses, hclauses, first, rest, htext, hfirst, -⟩ :=
    hturn.exists_write (i := 0) (j := 0) rfl build rfl rfl rfl
  obtain ⟨feature, hwrite', hcommand, hreads⟩ :=
    hturn.exists_write (i := 1) (j := 1) rfl hentity rfl rfl rfl
  have hcalls : calls = ((l.generateBatch Store.sink.traced kinds batch).run (∅, [])).2.2 := by
    rw [hcalls]
  refine ⟨e, entity, calls, tests, feature, build, hentity, hcalls, hwrite, hwrite', ?_, ?_⟩
  · cases hclauses with
    | cons hclause hnil =>
      cases hnil
      obtain ⟨key, hread, rfl⟩ := hclause
      obtain rfl : key = "OrderNo" := hread.eq_keyOf?.trans hkey
      rw [htext]
      exact hfirst.append_right rest
  · have hname : "OrderNo" = entity.key.name :=
      (hreads hunique Definition.orderLine List.mem_cons_self _ (List.mem_singleton_self _)
        (by decide +kernel) "OrderNo").mp (Definition.readsKey_iff.mpr hkey.symm)
    rw [hname]
    exact hcommand

end Scaffold
