/-
  Scaffold/Proofs/Source/Offers.lean
  ==================================
  **The last text offered for a fragment is the one that is emitted.**

  A template offers texts for the kinds of fragments one after the other, in any of the three ways to
  insert one. An offer either gives its kind a text or changes nothing at all (`accept_eq_self`), and
  it never touches another kind (`get?_accept_eq_some_iff`). So a kind has the text of the last offer
  that gave it one (`get?_ofOffers_iff`), and offers for different kinds can be made in any order
  (`ofOffers_eq_of_filter_eq`).
-/
import Mathlib.Data.List.Induction
import Scaffold.Source.Fragments

namespace Scaffold.Fragments

/-- Two collections with the same texts are the same. -/
@[ext] theorem ext {fs gs : Fragments} (h : ∀ kind, fs.get? kind = gs.get? kind) : fs = gs := by
  cases fs
  cases gs
  exact congrArg Fragments.mk (funext h)

/-! ### Offers -/

/-- A text offered for a kind of fragment, in one of the three ways to insert it. -/
inductive Offer
  | insert (kind : FragmentKind) (text : String)
  | insertIf (kind : FragmentKind) (enabled : Bool) (text : String)
  | insert? (kind : FragmentKind) (text : Option String)
  deriving DecidableEq, Repr

/-- The kind that an offer is for. -/
def Offer.kind : Offer → FragmentKind
  | insert kind _ | insertIf kind _ _ | insert? kind _ => kind

/-- The offer gives its kind a text: one is there, it is enabled, and it is not empty. -/
inductive Offer.Gives : Offer → String → Prop
  | insert {kind : FragmentKind} {text : String} (nonempty : text ≠ "") :
      Gives (.insert kind text) text
  | insertIf {kind : FragmentKind} {text : String} (nonempty : text ≠ "") :
      Gives (.insertIf kind true text) text
  | insert? {kind : FragmentKind} {text : String} (nonempty : text ≠ "") :
      Gives (.insert? kind (some text)) text

/-- The fragments after one more offer. -/
def accept (fs : Fragments) : Offer → Fragments
  | .insert kind text => fs.insert kind text
  | .insertIf kind enabled text => fs.insertIf kind enabled text
  | .insert? kind text => fs.insert? kind text

/-- The fragments after some offers. -/
def ofOffers (offers : List Offer) : Fragments := offers.foldl accept ∅

/-! ### One offer -/

section Accept

variable (fs : Fragments) {offer : Offer} {text : String}

theorem Offer.Gives.ne_empty (h : offer.Gives text) : text ≠ "" := by
  cases h <;> assumption

theorem Offer.Gives.unique {other : String} (h : offer.Gives text) (h' : offer.Gives other) :
    text = other := by
  cases h <;> cases h' <;> rfl

theorem accept_of_gives (h : offer.Gives text) :
    fs.accept offer = fs.insert offer.kind text := by
  cases h <;> rfl

/-- An empty, absent or disabled text erases nothing. -/
theorem accept_eq_self (h : ∀ text, ¬offer.Gives text) : fs.accept offer = fs := by
  have hempty : ∀ kind, fs.insert kind "" = fs := fun _ => rfl
  cases offer with
  | insert kind text =>
    have htext : text = "" := by_contra fun hne => h text (.insert hne)
    rw [htext]
    exact hempty kind
  | insertIf kind enabled text =>
    cases enabled with
    | false => rfl
    | true =>
      have htext : text = "" := by_contra fun hne => h text (.insertIf hne)
      rw [htext]
      exact hempty kind
  | insert? kind text? =>
    cases text? with
    | none => rfl
    | some text =>
      have htext : text = "" := by_contra fun hne => h text (.insert? hne)
      rw [htext]
      exact hempty kind

/-- After an offer a kind has the text that it is given, or else the one that it had. -/
theorem get?_accept_eq_some_iff {kind : FragmentKind} :
    (fs.accept offer).get? kind = some text ↔ (offer.kind = kind ∧ offer.Gives text) ∨
      ((offer.kind = kind → ∀ other, ¬offer.Gives other) ∧ fs.get? kind = some text) := by
  by_cases hgives : ∃ given, offer.Gives given
  · obtain ⟨given, hgives⟩ := hgives
    rw [accept_of_gives fs hgives, get?_insert]
    by_cases hkind : kind = offer.kind
    · rw [if_pos ⟨hgives.ne_empty, hkind⟩]
      constructor
      · rintro ⟨⟩
        exact .inl ⟨hkind.symm, hgives⟩
      · rintro (⟨-, htext⟩ | ⟨hnone, -⟩)
        · exact congrArg some (hgives.unique htext)
        · exact absurd hgives (hnone hkind.symm given)
    · rw [if_neg fun h => hkind h.2]
      constructor
      · intro hbefore
        exact .inr ⟨fun hsame => absurd hsame.symm hkind, hbefore⟩
      · rintro (⟨hsame, -⟩ | ⟨-, hbefore⟩)
        · exact absurd hsame.symm hkind
        · exact hbefore
  · have hnone : ∀ given, ¬offer.Gives given := not_exists.mp hgives
    rw [accept_eq_self fs hnone]
    constructor
    · intro hbefore
      exact .inr ⟨fun _ => hnone, hbefore⟩
    · rintro (⟨-, htext⟩ | ⟨-, hbefore⟩)
      · exact absurd htext (hnone text)
      · exact hbefore

end Accept

/-! ### Many offers -/

/-- `text` is the last text that the offers give the kind. -/
def LastGiven (offers : List Offer) (kind : FragmentKind) (text : String) : Prop :=
  ∃ front offer back, offers = front ++ offer :: back ∧ offer.kind = kind ∧ offer.Gives text ∧
    ∀ later ∈ back, later.kind = kind → ∀ other, ¬later.Gives other

variable {offers : List Offer} {offer : Offer} {kind : FragmentKind} {text : String}

theorem lastGiven_concat : LastGiven (offers ++ [offer]) kind text ↔
    (offer.kind = kind ∧ offer.Gives text) ∨
      ((offer.kind = kind → ∀ other, ¬offer.Gives other) ∧ LastGiven offers kind text) := by
  constructor
  · rintro ⟨front, given, back, hsplit, hkind, hgives, hback⟩
    rcases List.eq_nil_or_concat back with rfl | ⟨back, last, rfl⟩
    · obtain ⟨-, hlast⟩ := List.append_inj' hsplit rfl
      cases hlast
      exact .inl ⟨hkind, hgives⟩
    · rw [List.concat_eq_append] at hsplit hback
      rw [← List.cons_append, ← List.append_assoc] at hsplit
      obtain ⟨hoffers, hlast⟩ := List.append_inj' hsplit rfl
      cases hlast
      exact .inr ⟨hback offer (by simp), front, given, back, hoffers, hkind, hgives,
        fun later hlater => hback later (List.mem_append_left _ hlater)⟩
  · rintro (⟨hkind, hgives⟩ | ⟨hlast, front, given, back, rfl, hkind, hgives, hback⟩)
    · exact ⟨offers, offer, [], rfl, hkind, hgives, List.forall_mem_nil _⟩
    · refine ⟨front, given, back ++ [offer], by simp, hkind, hgives, ?_⟩
      intro later hlater
      rcases List.mem_append.mp hlater with hmem | hmem
      · exact hback later hmem
      · rw [List.mem_singleton.mp hmem]
        exact hlast

theorem ofOffers_concat (offers : List Offer) (offer : Offer) :
    ofOffers (offers ++ [offer]) = (ofOffers offers).accept offer := by
  rw [ofOffers, List.foldl_append]
  rfl

/-- **A kind has the last text that it was given.** -/
theorem get?_ofOffers_iff :
    (ofOffers offers).get? kind = some text ↔ LastGiven offers kind text := by
  -- by induction on the offers made before the last one
  induction offers using List.reverseRecOn with
  | nil =>
    constructor
    · rintro ⟨⟩
    · rintro ⟨front, offer, back, hsplit, -⟩
      simp at hsplit
  | append_singleton offers offer ih =>
    rw [ofOffers_concat, lastGiven_concat, get?_accept_eq_some_iff, ih]

theorem exists_lastGiven_iff : (∃ text, LastGiven offers kind text) ↔
    ∃ offer ∈ offers, offer.kind = kind ∧ ∃ text, offer.Gives text := by
  constructor
  · rintro ⟨text, front, offer, back, rfl, hkind, hgives, -⟩
    exact ⟨offer, by simp, hkind, text, hgives⟩
  · rintro ⟨offer, hmem, hkind, text, hgives⟩
    induction offers using List.reverseRecOn with
    | nil => cases hmem
    | append_singleton offers last ih =>
      by_cases hlast : last.kind = kind ∧ ∃ given, last.Gives given
      · obtain ⟨hsame, given, hgiven⟩ := hlast
        exact ⟨given, lastGiven_concat.mpr (.inl ⟨hsame, hgiven⟩)⟩
      · have hnone : last.kind = kind → ∀ other, ¬last.Gives other := fun hsame other hother =>
          hlast ⟨hsame, other, hother⟩
        have hbefore : offer ∈ offers := by
          rcases List.mem_append.mp hmem with hmem | hmem
          · exact hmem
          · rw [List.mem_singleton.mp hmem] at hkind hgives
            exact absurd hgives (hnone hkind text)
        obtain ⟨found, hfound⟩ := ih hbefore
        exact ⟨found, lastGiven_concat.mpr (.inr ⟨hnone, hfound⟩)⟩

theorem contains_ofOffers_iff : (ofOffers offers).contains kind = true ↔
    ∃ offer ∈ offers, offer.kind = kind ∧ ∃ text, offer.Gives text := by
  rw [← exists_lastGiven_iff, contains, Option.isSome_iff_exists]
  exact exists_congr fun text => get?_ofOffers_iff

/-! ### The order of offers -/

/-- The text of a kind depends on the offers for that kind only. -/
theorem get?_ofOffers_filter (offers : List Offer) (kind : FragmentKind) :
    (ofOffers (offers.filter (·.kind = kind))).get? kind = (ofOffers offers).get? kind := by
  induction offers using List.reverseRecOn with
  | nil => rfl
  | append_singleton offers offer ih =>
    rw [List.filter_append, ofOffers_concat]
    ext text
    by_cases hkind : offer.kind = kind
    · rw [List.filter_cons_of_pos (by simpa using hkind), List.filter_nil, ofOffers_concat,
        get?_accept_eq_some_iff, get?_accept_eq_some_iff, ih]
    · rw [List.filter_cons_of_neg (by simpa using hkind), List.filter_nil, List.append_nil, ih,
        get?_accept_eq_some_iff]
      simp [hkind]

/-- Offers may be rearranged as long as those for the same kind stay in order. -/
theorem ofOffers_eq_of_filter_eq {others : List Offer}
    (h : ∀ kind, others.filter (·.kind = kind) = offers.filter (·.kind = kind)) :
    ofOffers others = ofOffers offers := by
  ext1 kind
  rw [← get?_ofOffers_filter others, h kind, get?_ofOffers_filter]

/-- **The last text offered for a fragment is the one that is emitted.** A kind is present exactly
when some offer gave it a text, and its text is the last that it was given: an offer whose text is
empty, absent or disabled gives none. The texts that are present are emitted in the order of the
kinds with one blank line between neighbours. So it makes no difference how offers for different
kinds are interleaved, and two neighbours for different kinds can be swapped. -/
theorem last_text_wins (offers : List Offer) :
    (∀ kind, (ofOffers offers).contains kind = true ↔
      ∃ offer ∈ offers, offer.kind = kind ∧ ∃ text, offer.Gives text) ∧
    (∀ kind text, (ofOffers offers).get? kind = some text ↔ LastGiven offers kind text) ∧
    (ofOffers offers).assemble = Text.joinWith "\n\n"
      ([.happyPath, .notFound, .softDelete, .permission].filterMap (ofOffers offers).get?) ∧
    (∀ others : List Offer,
      (∀ kind, others.filter (·.kind = kind) = offers.filter (·.kind = kind)) →
      (ofOffers others).assemble = (ofOffers offers).assemble) ∧
    ∀ front a b back, offers = front ++ a :: b :: back → a.kind ≠ b.kind →
      (ofOffers (front ++ b :: a :: back)).assemble = (ofOffers offers).assemble := by
  refine ⟨fun kind => contains_ofOffers_iff, fun kind text => get?_ofOffers_iff, rfl, ?_, ?_⟩
  · intro others hothers
    rw [ofOffers_eq_of_filter_eq hothers]
  · rintro front a b back rfl hkinds
    refine congrArg assemble (ofOffers_eq_of_filter_eq ?_)
    intro kind
    -- at most one of the two is for this kind
    have hpair : [b, a].filter (·.kind = kind) = [a, b].filter (·.kind = kind) := by
      by_cases ha : a.kind = kind
      · have hb : b.kind ≠ kind := fun hb => hkinds (ha.trans hb.symm)
        simp [ha, hb]
      · simp [List.filter_cons, ha]
    have hcut : ∀ x y : Offer, (front ++ x :: y :: back).filter (·.kind = kind) =
        front.filter (·.kind = kind) ++ [x, y].filter (·.kind = kind) ++
          back.filter (·.kind = kind) := by
      intro x y
      rw [← List.filter_append, ← List.filter_append, List.append_assoc]
      rfl
    rw [hcut, hcut, hpair]

/-- The texts offered last are emitted, the happy path in front, whichever of them came first. -/
theorem permission_offered_first :
    let early := [Offer.insert .permission "    // early"]
    let permission := Offer.insert? .permission (some "    // permission")
    let happy := Offer.insertIf .happyPath true "    // happy"
    let idle := [Offer.insert .permission "", .insert? .happyPath none,
      .insertIf .softDelete false "    // soft"]
    permission.kind ≠ happy.kind ∧
      (ofOffers (early ++ happy :: permission :: idle)).assemble =
        (ofOffers (early ++ permission :: happy :: idle)).assemble ∧
      (ofOffers (early ++ permission :: happy :: idle)).assemble =
        "    // happy\n\n    // permission" ∧
      (ofOffers (early ++ permission :: happy :: idle)).get? .permission =
        some "    // permission" := by
  intro early permission happy idle
  have hkinds : permission.kind ≠ happy.kind := by decide
  obtain ⟨-, hlast, -, -, hswap⟩ := last_text_wins (early ++ permission :: happy :: idle)
  refine ⟨hkinds, hswap early permission happy idle rfl hkinds, by decide +kernel, ?_⟩
  have hidle : ∀ later ∈ happy :: idle, later.kind = .permission → ∀ other, ¬later.Gives other := by
    simp only [happy, idle, List.forall_mem_cons]
    refine ⟨nofun, ?_, nofun, nofun, List.forall_mem_nil _⟩
    rintro - other hother
    cases hother with
    | insert nonempty => exact nonempty rfl
  exact (hlast .permission "    // permission").mpr
    ⟨early, permission, happy :: idle, rfl, rfl, .insert? (by decide), hidle⟩

end Scaffold.Fragments
