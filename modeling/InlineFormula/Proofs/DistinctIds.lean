import InlineFormula.Proofs.DrawnIds
import InlineFormula.Proofs.SessionRuns
import Mathlib.Data.List.Flatten

/-!
Distinct identifiers. An operation on a document keeps identifiers that it found there, takes over
those of children that are given to it, and draws all others; so the identifiers that documents
hold at the top level are never shared, and neither are those below when none are given.
-/

set_option autoImplicit false

namespace InlineFormula

theorem element_within_held (elements : List (Element Id)) (index : Int) (place : Nat)
    (element : Element Id) (within : elementWithin elements index = some (place, element)) :
    elements[place]? = some element := by
  simp only [elementWithin, Option.bind_eq_some_iff, Option.map_eq_some_iff, Prod.mk.injEq]
    at within
  obtain ⟨_, _, _, held, rfl, rfl⟩ := within
  exact held

/-- A part of a list that takes over more makes the whole take over more. -/
theorem subperm_replace {part changed rest whole extra : List Id}
    (divided : (part ++ rest).Perm whole) (takes : changed.Subperm (part ++ extra)) :
    (changed ++ rest).Subperm (whole ++ extra) := by
  have moved : (part ++ extra ++ rest).Perm (whole ++ extra) := by
    rw [List.append_assoc]
    refine (List.perm_append_comm.append_left part).trans ?_
    rw [← List.append_assoc]
    exact divided.append_right extra
  exact (takes.append (List.Subperm.refl rest)).trans moved.subperm

inductive Extent where
  | outermost
  | whole
  deriving DecidableEq, Repr

namespace Extent

def below : Extent → List (Element Id) → List Id
  | outermost, _ => []
  | whole, children => Element.allPreorderIds children

def idsOf (extent : Extent) (element : Element Id) : List Id :=
  element.id :: extent.below element.children

def ids (extent : Extent) (elements : List (Element Id)) : List Id :=
  elements.flatMap extent.idsOf

def supplied (extent : Extent) : Edit → List Id
  | .update _ change => extent.below (change.children.getD [])
  | _ => []

variable (extent : Extent)

theorem ids_cons (element : Element Id) (rest : List (Element Id)) :
    extent.ids (element :: rest) = extent.idsOf element ++ extent.ids rest := by
  rw [ids, List.flatMap_cons, ids]

theorem ids_append (front back : List (Element Id)) :
    extent.ids (front ++ back) = extent.ids front ++ extent.ids back := by
  rw [ids, List.flatMap_append, ids, ids]

theorem ids_sublist_preorder (elements : List (Element Id)) :
    (extent.ids elements).Sublist (Element.allPreorderIds elements) := by
  induction elements with
  | nil => exact List.nil_sublist _
  | cons element rest induction =>
      obtain ⟨kind, value, children, id⟩ := element
      rw [ids_cons, Element.allPreorderIds]
      refine List.Sublist.append ?_ induction
      cases extent with
      | outermost => exact (List.nil_sublist _).cons_cons id
      | whole => exact List.Sublist.refl _

theorem ids_perm {left right : List (Element Id)} (permuted : left.Perm right) :
    (extent.ids left).Perm (extent.ids right) :=
  permuted.flatMap_right extent.idsOf

theorem ids_sublist {left right : List (Element Id)} (within : left.Sublist right) :
    (extent.ids left).Sublist (extent.ids right) :=
  within.flatMap extent.idsOf

theorem ids_set (elements : List (Element Id)) (place : Nat) (element changed : Element Id)
    (held : elements[place]? = some element) (extra : List Id)
    (takes : (extent.idsOf changed).Subperm (extent.idsOf element ++ extra)) :
    (extent.ids (elements.set place changed)).Subperm (extent.ids elements ++ extra) := by
  obtain ⟨bound, rfl⟩ := List.getElem?_eq_some_iff.mp held
  have after := extent.ids_perm (List.set_perm_cons_eraseIdx bound changed)
  have before := extent.ids_perm (List.getElem_cons_eraseIdx_perm bound)
  rw [ids_cons] at after before
  exact after.subperm.trans (subperm_replace before takes)

theorem change_takes (change : Change) (element changed : Element Id)
    (applied : change.apply element = .ok changed) :
    (extent.idsOf changed).Subperm
      (extent.idsOf element ++ extent.below (change.children.getD [])) := by
  obtain ⟨kind, rfl⟩ : ∃ kind, changed = ⟨kind, change.value.getD element.value,
      change.children.getD element.children, element.id⟩ := by
    rw [Change.apply] at applied
    split at applied
    · cases applied
      exact ⟨_, rfl⟩
    · obtain ⟨kind, _, rfl⟩ := of_map_eq_ok applied
      exact ⟨kind, rfl⟩
  cases change.children with
  | none => exact (List.sublist_append_left _ _).subperm
  | some children =>
      exact ((List.sublist_append_right (extent.below element.children) _).cons_cons _).subperm

/-- Of the identifiers in a revision, some were there before, some were supplied, and the others
are drawn by it. -/
theorem revise_ids (settings : Settings) (drawn : Nat) (elements : List (Element Id))
    (edit : Edit) (revision : Revision)
    (revised : edit.revise settings drawn elements = .ok revision) :
    ∃ fresh, Id.DrawnBetween drawn revision.drawn fresh ∧
      (extent.ids revision.elements).Subperm
        (extent.ids elements ++ extent.supplied edit ++ fresh) := by
  cases edit with
  | setText text =>
      cases revised
      have between := Element.all_numbered_between drawn (Formula.parse settings text)
      rw [← Element.all_numbered_size drawn] at between
      exact ⟨_, between,
        ((extent.ids_sublist_preorder _).trans (List.sublist_append_right _ _)).subperm⟩
  | insert element index =>
      cases revised
      have between := Element.all_copied_between drawn [element]
      refine ⟨_, between, ?_⟩
      have moved : (elements.take (clampIndex index elements.length) ++ element.copied drawn ::
          elements.drop (clampIndex index elements.length)).Perm
          ([element.copied drawn] ++ elements) := by
        refine List.perm_middle.trans ?_
        rw [List.take_append_drop]
        exact .refl _
      have copied := extent.ids_sublist_preorder [element.copied drawn]
      have after := extent.ids_perm (moved.trans List.perm_append_comm)
      rw [extent.ids_append elements] at after
      simp only [supplied, List.append_nil]
      exact after.subperm.trans ((List.Sublist.refl _).append copied).subperm
  | update index change =>
      obtain rfl | ⟨place, element, changed, within, applied, rfl⟩ :=
        Edit.revise_update_cases settings drawn elements index change revision revised
      · refine ⟨[], .nil _ _, ?_⟩
        rw [List.append_nil]
        exact (List.sublist_append_left _ _).subperm
      · refine ⟨[], .nil _ _, ?_⟩
        rw [List.append_nil]
        exact extent.ids_set elements place element changed
          (element_within_held elements index place element within) _
          (extent.change_takes change element changed applied)
  | remove index =>
      refine ⟨[], .nil _ _, ?_⟩
      simp only [supplied, List.append_nil]
      rw [Edit.revise] at revised
      split at revised
      case h_1 =>
        cases revised
        exact List.Subperm.refl _
      case h_2 place within =>
        cases revised
        exact (extent.ids_sublist (List.eraseIdx_sublist elements place)).subperm
  | setElements given =>
      cases revised
      exact ⟨_, Element.all_copied_between drawn given,
        ((extent.ids_sublist_preorder _).trans (List.sublist_append_right _ _)).subperm⟩
  | clear =>
      cases revised
      exact ⟨[], .nil _ _, List.nil_subperm⟩

theorem edit_ids (settings : Settings) (configuration : Configuration) (drawn : Nat)
    (document : Document) (edit : Edit) :
    ∃ fresh, Id.DrawnBetween drawn (document.edit settings configuration drawn edit).2 fresh ∧
      (extent.ids (document.edit settings configuration drawn edit).1.document.elements).Subperm
        (extent.ids document.elements ++ extent.supplied edit ++ fresh) := by
  cases revised : edit.revise settings drawn document.elements with
  | error fault =>
      rw [Document.edit_refused settings configuration drawn document edit fault revised]
      refine ⟨[], .nil _ _, ?_⟩
      rw [List.append_nil]
      exact (List.sublist_append_left _ _).subperm
  | ok revision =>
      obtain ⟨content, last⟩ :=
        Document.edit_elements settings configuration drawn document edit revision revised
      rw [content, last]
      exact extent.revise_ids settings drawn document.elements edit revision revised

theorem start_ids (settings : Settings) (configuration : Configuration) (drawn : Nat)
    (text : String) :
    Id.DrawnBetween drawn (Document.start settings configuration drawn text).2
      (extent.ids (Document.start settings configuration drawn text).1.document.elements) := by
  rw [Document.start]
  split
  · exact .nil _ _
  · obtain ⟨fresh, between, among⟩ :=
      extent.edit_ids settings configuration drawn {} (.setText text)
    exact between.subperm among

theorem whole_below (children : List (Element Id)) : whole.below children = whole.ids children := by
  induction children with
  | nil => rfl
  | cons element rest induction =>
      rw [ids_cons, ← induction]
      cases element
      rfl

/-- A touch leaves an element its identifier, and hands down the child that it brings. -/
theorem touch_at_ids (touch : Touch) (path : List Int) (element touched : Element Id)
    (done : element.touchAt touch path = .ok touched) : touched.id = element.id ∧
      (whole.ids touched.children).Subperm
        (whole.ids element.children ++ whole.ids touch.child.toList) := by
  induction path generalizing element touched with
  | nil =>
      cases done
      refine ⟨rfl, ?_⟩
      rw [Touch.apply, ids_append]
  | cons index path induction =>
      rw [Element.touchAt] at done
      split at done
      case h_1 => cases done
      case h_2 place _ =>
        split at done
        case h_1 => cases done
        case h_2 child held =>
          obtain ⟨changed, deeper, rfl⟩ := of_map_eq_ok done
          obtain ⟨same, takes⟩ := induction child changed deeper
          refine ⟨rfl, whole.ids_set element.children place child changed held _ ?_⟩
          rw [idsOf, idsOf, same, whole_below, whole_below, List.cons_append]
          exact (List.subperm_cons _).mpr takes

theorem touch_ids (document touched : Document) (place : Nat) (path : List Int) (touch : Touch)
    (done : document.touch place path touch = .ok touched) :
    (extent.ids touched.elements).Subperm
      (extent.ids document.elements ++ extent.below touch.child.toList) := by
  rw [Document.touch] at done
  split at done
  case h_1 => cases done
  case h_2 element held =>
    obtain ⟨changed, deeper, rfl⟩ := of_map_eq_ok done
    obtain ⟨same, takes⟩ := touch_at_ids touch path element changed deeper
    refine extent.ids_set document.elements place element changed held _ ?_
    rw [idsOf, idsOf, same, List.cons_append]
    refine (List.subperm_cons _).mpr ?_
    cases extent with
    | outermost => exact List.nil_subperm
    | whole =>
        rw [whole_below, whole_below, whole_below]
        exact takes

end Extent

def Source.unnamed : Source → Bool
  | .drafts given => Draft.allUnnamed given
  | .text _ => true

theorem Source.build_between (options : Options) (drawn last : Nat) (source : Source)
    (elements : List (Element Id)) (plain : source.unnamed = true)
    (built : source.build options drawn = (.ok elements, last)) :
    Id.DrawnBetween drawn last (Element.allPreorderIds elements) := by
  cases source with
  | drafts given => exact Draft.build_all_between drawn given plain elements last built
  | text given =>
      rcases options.read_formula_ok drawn last given elements built with ⟨rfl, rfl⟩
      have between := Element.all_numbered_between drawn (Formula.parse options.settings given)
      rwa [← Element.all_numbered_size drawn] at between

namespace DocumentCommand

/-- Elements that a command puts below others as they are given all draw their identifiers. -/
def suppliesDrawn : DocumentCommand → Bool
  | update _ _ _ (some source) => source.unnamed
  | touch _ _ _ _ (some draft) => draft.unnamed
  | _ => true

/-- What is supplied to an edit at the outermost level is nothing, so there it need not draw. -/
theorem prepared_supplied (extent : Extent) (options : Options) (drawn last : Nat)
    (command : DocumentCommand) (edit : Edit)
    (prepared : command.prepare options drawn = some (.ok edit, last))
    (draws : extent = .whole → command.suppliesDrawn = true) :
    Id.DrawnBetween drawn last (extent.supplied edit) := by
  cases command with
  | update index kind value children =>
      cases children with
      | none =>
          cases prepared
          cases extent <;> exact .nil _ _
      | some source =>
          obtain ⟨elements, built, rfl⟩ :=
            Draft.map_drawing_ok _ _ _ _ (Option.some.inj prepared)
          cases extent with
          | outermost => exact .nil _ _
          | whole => exact source.build_between options drawn last elements (draws rfl) built
  | insert draft index =>
      obtain ⟨element, built, rfl⟩ := Draft.map_drawing_ok _ _ _ _ (Option.some.inj prepared)
      exact .nil _ _
  | setElements source =>
      obtain ⟨elements, built, rfl⟩ := Draft.map_drawing_ok _ _ _ _ (Option.some.inj prepared)
      exact .nil _ _
  | setText text =>
      obtain ⟨readable, read, rfl⟩ := Draft.map_drawing_ok _ _ _ _ (Option.some.inj prepared)
      exact .nil _ _
  | remove _ | clear =>
      cases prepared
      exact .nil _ _
  | _ => cases prepared

end DocumentCommand

namespace Workspace

def heldIds (extent : Extent) (workspace : Workspace) : List Id :=
  workspace.documents.flatMap fun entry => extent.ids entry.2.document.elements

variable (extent : Extent) (workspace : Workspace) (name : String)

theorem held_ids_put (holding : Holding) :
    ((workspace.put name holding).heldIds extent).Subperm
      (workspace.heldIds extent ++ extent.ids holding.document.elements) := by
  have others : (workspace.documents.filter fun entry => entry.1 != name).Sublist
      workspace.documents := List.filter_sublist
  exact List.perm_append_comm.subperm.trans
    ((others.flatMap fun entry => extent.ids entry.2.document.elements).append
      (List.Sublist.refl _)).subperm

/-- The document of a name is one of those that are held, apart from all of other names. -/
theorem documents_split (holding : Holding) (found : workspace.find? name = some holding) :
    ∃ others, workspace.documents.Perm ((name, holding) :: others) ∧
      (workspace.documents.filter fun entry => entry.1 != name).Sublist others := by
  obtain ⟨front, back, split, _⟩ := List.lookup_eq_some_iff.mp found
  refine ⟨front ++ back, ?_, ?_⟩
  · rw [split]
    exact List.perm_middle
  · rw [split, List.filter_append, List.filter_cons_of_neg (by simp)]
    exact List.filter_sublist.append List.filter_sublist

theorem held_ids_replace (holding changed : Holding) (found : workspace.find? name = some holding)
    (extra : List Id)
    (takes : (extent.ids changed.document.elements).Subperm
      (extent.ids holding.document.elements ++ extra)) :
    ((workspace.put name changed).heldIds extent).Subperm (workspace.heldIds extent ++ extra) := by
  obtain ⟨others, split, apart⟩ := workspace.documents_split name holding found
  have before := split.flatMap_right fun entry => extent.ids entry.2.document.elements
  have rest := apart.flatMap fun entry => extent.ids entry.2.document.elements
  exact ((List.Sublist.refl _).append rest).subperm.trans (subperm_replace before.symm takes)

def IdsDrawn : Prop := Id.DrawnBetween 0 workspace.drawn (workspace.heldIds extent)

end Workspace

/-- The child of a touch reaches the document as it is, or not at all. -/
theorem Touch.reaching_child (access : Access) (depth : Nat) (touch : Touch) :
    (reaching access depth touch).child = touch.child ∨
      (reaching access depth touch).child = none := by
  cases access with
  | shared => exact .inl rfl
  | copied =>
      by_cases deep : 1 ≤ depth
      · exact .inl (if_pos deep)
      · exact .inr (if_neg deep)

/-- At the outermost level a child has no identifier, and below it was drawn if its draft brought
none. -/
theorem Extent.touch_supplied (extent : Extent) (access : Access) (depth first last : Nat)
    (value : Option String) (child : Option Draft) (built : Option (Element Id))
    (made : child.elim (built = none ∧ last = first) fun draft =>
      ∃ element, built = some element ∧ draft.build first = (.ok element, last))
    (draws : extent = .whole → child.all Draft.unnamed = true) :
    Id.DrawnBetween first last
      (extent.below (Touch.reaching access depth { value, child := built }).child.toList) := by
  cases extent with
  | outermost => exact .nil _ _
  | whole =>
      have whole : Id.DrawnBetween first last (Element.allPreorderIds built.toList) := by
        cases child with
        | none =>
            obtain ⟨rfl, rfl⟩ := made
            exact .nil _ _
        | some draft =>
            obtain ⟨element, rfl, built⟩ := made
            exact draft.build_between first (draws rfl) element last built
      rcases Touch.reaching_child access depth { value, child := built } with kept | dropped
      · rw [kept]
        exact whole
      · rw [dropped]
        exact .nil _ _

namespace Workspace.IdsDrawn

variable {extent : Extent} {before after : Workspace}

theorem keep (held : before.IdsDrawn extent) (same : after.documents = before.documents)
    (grows : before.drawn ≤ after.drawn) : after.IdsDrawn extent := by
  rw [IdsDrawn, heldIds, same]
  exact Id.DrawnBetween.widen held (Nat.le_refl 0) grows

/-- Identifiers that are held afterwards were held before, or were drawn in between. -/
theorem grow (held : before.IdsDrawn extent) (extra : List Id)
    (drawn : Id.DrawnBetween before.drawn after.drawn extra) (grows : before.drawn ≤ after.drawn)
    (takes : (after.heldIds extent).Subperm (before.heldIds extent ++ extra)) :
    after.IdsDrawn extent :=
  (Id.DrawnBetween.append held drawn (Nat.zero_le _) grows).subperm takes

theorem of_effect (held : before.IdsDrawn extent) {name : String} {command : DocumentCommand}
    {answer : Except Fault Answer} (effect : before.Effect name command answer after)
    (draws : extent = .whole → command.suppliesDrawn = true) : after.IdsDrawn extent := by
  cases effect with
  | refused fault failed onlyDraws => exact held.keep onlyDraws.documents onlyDraws.drawn
  | looked looks same =>
      rw [same]
      exact held
  | edited edits holding found edit drawn grows prepared outcome last performed answered left =>
      have supplied := DocumentCommand.prepared_supplied extent before.options before.drawn drawn
        command edit prepared draws
      have grownOn := holding.document.edit_drawn_le before.settings
        (before.configuration holding) drawn edit
      obtain ⟨fresh, between, takes⟩ := extent.edit_ids before.settings
        (before.configuration holding) drawn holding.document edit
      rw [performed] at grownOn between takes
      rw [List.append_assoc] at takes
      subst left
      exact held.grow _ (supplied.append between grows grownOn) (Nat.le_trans grows grownOn)
        (before.held_ids_replace extent name holding _ found _ takes)
  | validated asked holding found outcome performed answered left =>
      have content := Document.validate_elements before.settings (before.configuration holding)
        holding.document
      rw [performed] at content
      subst left
      refine held.grow [] (.nil _ _) (Nat.le_refl _)
        (before.held_ids_replace extent name holding _ found [] ?_)
      rw [List.append_nil, content]
  | configured configures holding found ready onlyDraws change answered left =>
      subst left
      exact held.keep onlyDraws.documents onlyDraws.drawn
  | created text source asked ready onlyDraws configuration number added numbered outcome last
      performed answered left =>
      have ready_held := held.keep onlyDraws.documents onlyDraws.drawn
      have grows := Document.start_drawn_le ready.settings configuration ready.drawn text
      have started := extent.start_ids ready.settings configuration ready.drawn text
      rw [performed] at grows started
      subst left
      exact ready_held.grow _ started grows (ready.held_ids_put extent name _)
  | touched access index path value child asked holding found built drawn grows made place
      document performed answered left =>
      have supplied := extent.touch_supplied access path.length before.drawn drawn value child
        built made fun whole => by
          have drawnOnly := draws whole
          rw [asked] at drawnOnly
          cases child with
          | none => rfl
          | some draft => exact drawnOnly
      have takes := extent.touch_ids holding.document document place path _ performed
      subst left
      exact held.grow _ supplied grows
        (before.held_ids_replace extent name holding _ found _ takes)

end Workspace.IdsDrawn

def Command.suppliesDrawn : Command → Bool
  | .document _ command => command.suppliesDrawn
  | _ => true

namespace Workspace

theorem ids_drawn_lasting (extent : Extent) :
    Lasting (fun command => extent = .whole → command.suppliesDrawn = true) (fun _ => True)
      (IdsDrawn extent) where
  anew _ held := held
  inside _ _ _ _ _ _ held := held
  outside _ _ _ _ _ _ _ _ held := held
  performed workspace command draws held := by
    cases plain : command.documentName? with
    | none =>
        have keeps := Action.perform_keeps_documents workspace command plain
        exact held.keep keeps.documents keeps.drawn
    | some named =>
        cases command with
        | document name command =>
            exact held.of_effect (Action.perform_effect name workspace command) draws
        | _ => cases plain

theorem run_ids_drawn (extent : Extent) (column : Column) (steps : List Step)
    (draws : Step.AllOnly (fun command => extent = .whole → command.suppliesDrawn = true) steps) :
    (({ column } : Workspace).runAll steps).2.IdsDrawn extent :=
  (ids_drawn_lasting extent).run_all steps { column } draws
    (Step.all_bring_of_forall _ (fun _ => trivial) steps) (.nil 0 0)

end Workspace

/-- However a run goes, no two documents or places share the identifier of a top-level element.
If all children that were handed over drew theirs, no two elements share one at any depth. -/
theorem identifiers_never_shared (column : Column) (steps : List Step) :
    let final := (({ column } : Workspace).runAll steps).2
    (final.heldIds .outermost).Nodup ∧
      (Step.AllOnly (fun command => command.suppliesDrawn = true) steps →
        (final.heldIds .whole).Nodup ∧
        ∀ id ∈ final.heldIds .whole,
          ∃ number, number ≤ final.drawn ∧ id = Id.ofNat number) := by
  intro final
  constructor
  · exact (Workspace.run_ids_drawn .outermost column steps
      (Step.all_only_of_forall _ (fun _ whole => nomatch whole) steps)).distinct
  · intro draws
    have drawn := Workspace.run_ids_drawn .whole column steps (by simpa using draws)
    refine ⟨drawn.distinct, fun id member => ?_⟩
    obtain ⟨number, -, bound, rfl⟩ := drawn.drawn id member
    exact ⟨number, bound, rfl⟩

/-- An element comes with the identifier of one in another document, and a child without any is
put below it. -/
def collidingRun : List Step :=
  [.command none (.document "left" (.create "" (.own false [] none))),
   .command none (.document "right" (.create "" (.own false [] none))),
   .command none (.document "left" (.insert ⟨.text "variable", "x", [], none⟩ none)),
   .command none (.document "right" (.insert ⟨.text "variable", "y", [], some "fe-2"⟩ none)),
   .command none (.document "right" (.update 0 none none
      (some (.drafts [⟨.text "number", "2", [], none⟩]))))]

theorem identifiers_never_shared_colliding :
    Step.AllOnly (fun command => command.suppliesDrawn = true) collidingRun ∧
      ((({} : Workspace).runAll collidingRun).2.heldIds .outermost).Nodup ∧
      ((({} : Workspace).runAll collidingRun).2.heldIds .whole).Nodup ∧
      (({} : Workspace).runAll collidingRun).2.heldIds .whole = ["fe-3", "fe-4", "fe-2"] := by
  have draws : Step.AllOnly (fun command => command.suppliesDrawn = true) collidingRun :=
    ⟨rfl, rfl, rfl, rfl, rfl, trivial⟩
  have distinct := identifiers_never_shared .unbounded collidingRun
  exact ⟨draws, distinct.1, (distinct.2 draws).1, by decide +kernel⟩

end InlineFormula
