import InlineFormula.Proofs.CurrentVerdict
import InlineFormula.Proofs.DistinctIds

/-!
Stable identities. Insertions, updates and removals each touch one element at the top level and
leave the others as they are and in their order; and an identifier that an insertion draws was held
by no document before. So the elements of a document can be told through any run of such edits.
-/

set_option autoImplicit false

namespace InlineFormula

inductive Deed where
  | inserted (id : Id)
  | updated (id : Id)
  | removed (id : Id)
  | missed
  deriving DecidableEq, Repr

namespace Deed

def isInsertion : Deed → Bool
  | inserted _ => true
  | _ => false

def isRemoval : Deed → Bool
  | removed _ => true
  | _ => false

inductive Makes : Deed → List (Element Id) → List (Element Id) → Prop where
  | inserted (front back : List (Element Id)) (element : Element Id) :
      Makes (.inserted element.id) (front ++ back) (front ++ element :: back)
  | updated (front back : List (Element Id)) (element changed : Element Id)
      (same : changed.id = element.id) :
      Makes (.updated element.id) (front ++ element :: back) (front ++ changed :: back)
  | removed (front back : List (Element Id)) (element : Element Id) :
      Makes (.removed element.id) (front ++ element :: back) (front ++ back)
  | missed (elements : List (Element Id)) : Makes .missed elements elements

namespace Makes

variable {deed : Deed} {before after : List (Element Id)}

/-- Identifiers keep their order, but for one that is put among them. -/
theorem ordered (makes : Makes deed before after) (kept : Id → Bool)
    (new : ∀ id, deed = .inserted id → kept id = false) :
    ((after.map Element.id).filter kept).Sublist ((before.map Element.id).filter kept) := by
  cases makes with
  | inserted front back element =>
      have dropped := new element.id rfl
      simp [dropped]
  | updated front back element changed same => simp [same]
  | removed front back element =>
      apply List.Sublist.filter
      apply List.Sublist.map
      exact (List.sublist_cons_self element back).append_left front
  | missed => exact List.Sublist.refl _

theorem mem_ids_iff (makes : Makes deed before after) (distinct : (before.map Element.id).Nodup)
    (id : Id) :
    id ∈ after.map Element.id ↔
      id ∈ before.map Element.id ∧ deed ≠ .removed id ∨ deed = .inserted id := by
  cases makes with
  | inserted front back element =>
      simp only [List.map_append, List.map_cons, List.mem_append, List.mem_cons, ne_eq,
        reduceCtorEq, not_false_eq_true, and_true, inserted.injEq]
      rw [or_left_comm, or_comm, eq_comm]
  | updated front back element changed same => simp [same]
  | removed front back element =>
      rw [List.map_append, List.map_cons, List.nodup_middle, List.nodup_cons] at distinct
      have absent := distinct.1
      rw [List.map_append, List.map_append, List.map_cons]
      by_cases same : id = element.id
      · subst same
        simp only [absent, ne_eq, not_true_eq_false, and_false, reduceCtorEq, or_false]
      · have other : Deed.removed element.id ≠ .removed id := by
          intro taken
          cases taken
          exact same rfl
        simp [same, other]
  | missed => simp

theorem mem_cases (makes : Makes deed before after) (now : Element Id) (member : now ∈ after) :
    now ∈ before ∨ deed = .inserted now.id ∨
      ∃ old ∈ before, deed = .updated old.id ∧ now.id = old.id := by
  cases makes with
  | inserted front back element =>
      rcases List.mem_append.mp member with inFront | inBack
      · exact .inl (List.mem_append_left _ inFront)
      · rcases List.mem_cons.mp inBack with rfl | inBack
        · exact .inr (.inl rfl)
        · exact .inl (List.mem_append_right _ inBack)
  | updated front back element changed same =>
      rcases List.mem_append.mp member with inFront | inBack
      · exact .inl (List.mem_append_left _ inFront)
      · rcases List.mem_cons.mp inBack with rfl | inBack
        · exact .inr (.inr ⟨element, by simp, rfl, same⟩)
        · exact .inl (List.mem_append_right _ (List.mem_cons_of_mem _ inBack))
  | removed front back element =>
      exact .inl (((List.sublist_cons_self element back).append_left front).subset member)
  | missed => exact .inl member

theorem counted (makes : Makes deed before after) :
    after.length + [deed].countP isRemoval = before.length + [deed].countP isInsertion := by
  cases makes with
  | inserted front back element => simp [isRemoval, isInsertion]; omega
  | updated front back element changed same => simp [isRemoval, isInsertion]
  | removed front back element => simp [isRemoval, isInsertion]; omega
  | missed => simp [isRemoval, isInsertion]

end Makes

end Deed

/-- How the elements of a document descend from earlier ones through these deeds. -/
structure Descends (original : List (Element Id)) (deeds : List Deed)
    (elements : List (Element Id)) : Prop where
  distinct : (elements.map Element.id).Nodup
  ordered : ((elements.map Element.id).filter fun id => id ∈ original.map Element.id).Sublist
    (original.map Element.id)
  present : ∀ element ∈ original,
    element.id ∈ elements.map Element.id ↔ .removed element.id ∉ deeds
  unchanged : ∀ element ∈ original, .updated element.id ∉ deeds →
    ∀ now ∈ elements, now.id = element.id → now = element
  fresh : ∀ id, .inserted id ∈ deeds → id ∉ original.map Element.id
  accounted : ∀ now ∈ elements, now.id ∈ original.map Element.id ∨ .inserted now.id ∈ deeds
  counted : elements.length + deeds.countP Deed.isRemoval =
    original.length + deeds.countP Deed.isInsertion

namespace Descends

variable {original elements : List (Element Id)} {deeds : List Deed}

theorem eq_of_id (distinct : (original.map Element.id).Nodup) (left right : Element Id)
    (leftMember : left ∈ original) (rightMember : right ∈ original) (same : left.id = right.id) :
    left = right :=
  List.inj_on_of_nodup_map distinct leftMember rightMember same

theorem start (distinct : (original.map Element.id).Nodup) : Descends original [] original where
  distinct := distinct
  ordered := List.filter_sublist
  present element member := by simp [List.mem_map_of_mem member]
  unchanged element member _ now nowMember same :=
    eq_of_id distinct now element nowMember member same
  fresh id impossible := by cases impossible
  accounted now member := .inl (List.mem_map_of_mem member)
  counted := rfl

theorem step {deed : Deed} {after : List (Element Id)} (before : Descends original deeds elements)
    (makes : deed.Makes elements after) (distinct : (after.map Element.id).Nodup)
    (new : ∀ id, deed = .inserted id → id ∉ original.map Element.id) :
    Descends original (deed :: deeds) after where
  distinct := distinct
  ordered := by
    refine (makes.ordered _ ?_).trans before.ordered
    intro id inserted
    exact decide_eq_false (new id inserted)
  present element member := by
    have earlier := before.present element member
    have notNew : deed ≠ .inserted element.id := by
      intro inserted
      exact new element.id inserted (List.mem_map_of_mem member)
    rw [makes.mem_ids_iff before.distinct, earlier, List.mem_cons, not_or, and_comm,
      or_iff_left notNew, ne_comm]
  unchanged element member untouched now nowMember same := by
    rw [List.mem_cons, not_or] at untouched
    rcases makes.mem_cases now nowMember with held | inserted | ⟨old, _, updated, renamed⟩
    · exact before.unchanged element member untouched.2 now held same
    · rw [same] at inserted
      exact absurd (List.mem_map_of_mem member) (new element.id inserted)
    · rw [← renamed, same] at updated
      exact absurd updated.symm untouched.1
  fresh id inserted := by
    rcases List.mem_cons.mp inserted with same | earlier
    · exact new id same.symm
    · exact before.fresh id earlier
  accounted now nowMember := by
    rcases makes.mem_cases now nowMember with held | inserted | ⟨old, held, _, renamed⟩
    · exact (before.accounted now held).imp_right (List.mem_cons_of_mem deed)
    · exact .inr (inserted ▸ List.mem_cons_self)
    · rw [renamed]
      exact (before.accounted old held).imp_right (List.mem_cons_of_mem deed)
  counted := by
    have earlier := before.counted
    have step := makes.counted
    rw [← List.singleton_append, List.countP_append, List.countP_append]
    omega

end Descends

theorem element_within_split (elements : List (Element Id)) (index : Int) (place : Nat)
    (element : Element Id) (within : elementWithin elements index = some (place, element)) :
    ∃ front back, elements = front ++ element :: back ∧ front.length = place := by
  have held := element_within_held elements index place element within
  obtain ⟨bound, rfl⟩ := List.getElem?_eq_some_iff.mp held
  refine ⟨elements.take place, elements.drop (place + 1), ?_, ?_⟩
  · rw [List.getElem_cons_drop, List.take_append_drop]
  · exact List.length_take_of_le (Nat.le_of_lt bound)

theorem index_within_element (elements : List (Element Id)) (index : Int) (place : Nat)
    (within : indexWithin index elements.length = some place) :
    ∃ element, elementWithin elements index = some (place, element) := by
  have bound : place < elements.length := by
    unfold indexWithin at within
    split at within
    · cases within
      omega
    · cases within
  refine ⟨elements[place], ?_⟩
  simp [elementWithin, within, bound]

theorem Change.apply_id (change : Change) (element changed : Element Id)
    (applied : change.apply element = .ok changed) : changed.id = element.id := by
  unfold Change.apply at applied
  split at applied
  · cases applied
    rfl
  · obtain ⟨kind, -, rfl⟩ := of_map_eq_ok applied
    rfl

def Deed.at (made : Id → Deed) (elements : List (Element Id)) (index : Int) : Deed :=
  (elementWithin elements index).elim .missed fun found => made found.2.id

namespace Edit

variable (settings : Settings) (drawn : Nat) (elements : List (Element Id)) (revision : Revision)

theorem insert_makes (element : Element Id) (index : Option Int)
    (revised : (insert element index).revise settings drawn elements = .ok revision) :
    ∃ stored number, revision.answer = .stored stored ∧
      (Deed.inserted stored.id).Makes elements revision.elements ∧
      drawn < number ∧ stored.id = Id.ofNat number := by
  cases revised
  obtain ⟨kind, value, children, id⟩ := element
  refine ⟨_, drawn + Element.totalSize children + 1, rfl, ?_, by omega, rfl⟩
  have parts := List.take_append_drop (clampIndex index elements.length) elements
  have makes := Deed.Makes.inserted (elements.take (clampIndex index elements.length))
    (elements.drop (clampIndex index elements.length))
    (Element.copied drawn ⟨kind, value, children, id⟩)
  rw [parts] at makes
  exact makes

theorem update_makes (index : Int) (change : Change)
    (revised : (update index change).revise settings drawn elements = .ok revision) :
    (Deed.at .updated elements index).Makes elements revision.elements := by
  unfold Deed.at
  rw [revise] at revised
  split at revised
  case h_1 missing =>
    cases revised
    rw [missing]
    exact .missed elements
  case h_2 place element within =>
    obtain ⟨changed, applied, rfl⟩ := of_map_eq_ok revised
    obtain ⟨front, back, split, rfl⟩ := element_within_split elements index place element within
    rw [within, split]
    simpa using Deed.Makes.updated front back element changed
      (change.apply_id element changed applied)

theorem remove_makes (index : Int)
    (revised : (remove index).revise settings drawn elements = .ok revision) :
    (Deed.at .removed elements index).Makes elements revision.elements := by
  unfold Deed.at
  rw [revise] at revised
  split at revised
  case h_1 missing =>
    cases revised
    simp only [elementWithin, missing]
    exact .missed elements
  case h_2 place found =>
    obtain ⟨element, within⟩ := index_within_element elements index place found
    obtain ⟨front, back, split, rfl⟩ := element_within_split elements index place element within
    cases revised
    rw [within, split]
    simpa [List.eraseIdx_append_of_length_le] using Deed.Makes.removed front back element

end Edit

/-- The identifier of the element that an answer shows; an accepted insertion always shows one. -/
def Answer.elementId : Answer → Id
  | element (some shown) => shown.id
  | _ => ""

namespace DocumentCommand

def atPlace : DocumentCommand → Bool
  | insert _ _ | update _ _ _ _ | remove _ => true
  | _ => false

/-- What a command with this answer did to these elements: an insertion put in what it shows, and
the others work on the element that is at their index, if any. -/
def deed (elements : List (Element Id)) (answer : Answer) : DocumentCommand → Deed
  | insert _ _ => .inserted answer.elementId
  | update index _ _ _ => .at .updated elements index
  | remove index => .at .removed elements index
  | _ => .missed

theorem edits_of_at_place (command : DocumentCommand) (places : command.atPlace = true) :
    command.edits = true := by
  cases command with
  | insert _ _ | update _ _ _ _ | remove _ => rfl
  | _ => cases places

theorem fills_of_edits (command : DocumentCommand) (edits : command.edits = true) :
    command.fills = true := by
  cases command with
  | create text source => cases edits
  | _ => exact edits

theorem deed_at_ne_inserted (made : Id → Deed) (never : ∀ id other, made id ≠ .inserted other)
    (elements : List (Element Id)) (index : Int) (id : Id) :
    Deed.at made elements index ≠ .inserted id := by
  unfold Deed.at
  cases elementWithin elements index with
  | none => nofun
  | some found => exact never found.2.id id

/-- An edit at a place makes what its deed says, and puts in what was drawn for it. -/
theorem deed_makes (options : Options) (settings : Settings) (first drawn : Nat)
    (command : DocumentCommand) (places : command.atPlace = true) (edit : Edit)
    (prepared : command.prepare options first = some (.ok edit, drawn))
    (elements : List (Element Id)) (revision : Revision)
    (revised : edit.revise settings drawn elements = .ok revision) :
    (command.deed elements (Action.answerOf revision.answer)).Makes elements revision.elements ∧
      ∀ id, command.deed elements (Action.answerOf revision.answer) = .inserted id →
        ∃ number, drawn < number ∧ id = Id.ofNat number := by
  cases command with
  | insert draft index =>
      obtain ⟨element, -, rfl⟩ := Draft.map_drawing_ok _ _ _ _ (Option.some.inj prepared)
      obtain ⟨stored, number, answered, makes, later, drawnId⟩ :=
        Edit.insert_makes settings drawn elements revision element index revised
      rw [answered]
      refine ⟨makes, ?_⟩
      intro id inserted
      cases inserted
      exact ⟨number, later, drawnId⟩
  | update index kind value children =>
      obtain ⟨change, rfl⟩ : ∃ change, edit = .update index change := by
        cases children with
        | none =>
            cases prepared
            exact ⟨_, rfl⟩
        | some source =>
            obtain ⟨given, -, rfl⟩ := Draft.map_drawing_ok _ _ _ _ (Option.some.inj prepared)
            exact ⟨_, rfl⟩
      refine ⟨Edit.update_makes settings drawn elements revision index change revised, ?_⟩
      intro id inserted
      exact absurd inserted (deed_at_ne_inserted _ (by simp) elements index id)
  | remove index =>
      cases prepared
      refine ⟨Edit.remove_makes settings _ elements revision index revised, ?_⟩
      intro id inserted
      exact absurd inserted (deed_at_ne_inserted _ (by simp) elements index id)
  | _ => cases places

end DocumentCommand

namespace Workspace

variable {name : String} {before after : Workspace}

/-- An accepted edit has revised the document of its name, whatever came of validation. -/
theorem Effect.revised_of_accepted {command : DocumentCommand} {answer : Except Fault Answer}
    (effect : before.Effect name command answer after) (edits : command.edits = true)
    (given : Answer) (accepted : answer = .ok given) :
    ∃ holding changed edit drawn revision, before.find? name = some holding ∧
      after.find? name = some changed ∧ before.drawn ≤ drawn ∧
      command.prepare before.options before.drawn = some (.ok edit, drawn) ∧
      edit.revise before.settings drawn holding.document.elements = .ok revision ∧
      given = Action.answerOf revision.answer ∧
      changed.document.elements = revision.elements := by
  cases effect with
  | refused fault failed draws =>
      rw [failed] at accepted
      cases accepted
  | looked looks same =>
      rw [(command.fills_only (command.fills_of_edits edits)).1] at looks
      cases looks
  | edited edits holding found edit drawn grows prepared outcome last performed answered left =>
      obtain ⟨reply, replied, rfl⟩ := of_map_eq_ok (answered.symm.trans accepted)
      have changed := holding.document.edit_accepted before.settings
        (before.configuration holding) drawn edit reply
      rw [performed] at changed
      obtain ⟨revision, revised, rfl, -⟩ := changed replied
      have content := Document.edit_elements before.settings (before.configuration holding) drawn
        holding.document edit revision revised
      rw [performed] at content
      subst left
      exact ⟨holding, _, edit, drawn, revision, found, find_store _ name holding outcome, grows,
        prepared, revised, rfl, content.1⟩
  | validated asked =>
      rw [asked] at edits
      cases edits
  | configured configures =>
      rw [(command.fills_only (command.fills_of_edits edits)).2] at configures
      cases configures
  | created text source asked =>
      rw [asked] at edits
      cases edits
  | touched access index path value child asked =>
      rw [asked] at edits
      cases edits

theorem drawn_lasting (bound : Nat) :
    Lasting (fun _ => True) (fun _ => True) (fun workspace => bound ≤ workspace.drawn) where
  anew _ bounded := bounded
  inside _ _ _ _ _ _ bounded := bounded
  outside _ _ _ _ _ _ _ _ bounded := bounded
  performed workspace command _ bounded := by
    apply Nat.le_trans bounded
    cases command with
    | document name command => exact (Action.perform_effect name workspace command).frame.2
    | _ => exact (Action.perform_keeps_documents workspace _ rfl).drawn

/-- Runs of accepted edits at places of one document, with what each did, the latest first. Any
other commands that are not about the document may come between them. -/
inductive EditedBy (name : String) (start : Workspace) : List Deed → Workspace → Prop where
  | start : EditedBy name start [] start
  | edited (deeds : List Deed) (workspace : Workspace) (command : DocumentCommand)
      (holding : Holding) (answer : Answer) (earlier : EditedBy name start deeds workspace)
      (places : command.atPlace = true) (found : workspace.find? name = some holding)
      (accepted : (workspace.perform none (.document name command)).1.answer = .ok answer) :
      EditedBy name start (command.deed holding.document.elements answer :: deeds)
        (workspace.perform none (.document name command)).2
  | beside (deeds : List Deed) (workspace : Workspace)
      (own : Option (List (String × Datum))) (command : Command)
      (earlier : EditedBy name start deeds workspace)
      (apart : command.documentName? ≠ some name) :
      EditedBy name start deeds (workspace.perform own command).2

theorem ids_drawn_of_found (workspace : Workspace) (holding : Holding)
    (found : workspace.find? name = some holding) (drawn : workspace.IdsDrawn .outermost) :
    Id.DrawnBetween 0 workspace.drawn (holding.document.elements.map Element.id) := by
  obtain ⟨others, split, -⟩ := workspace.documents_split name holding found
  have held := split.flatMap_right fun entry =>
    Extent.outermost.ids entry.2.document.elements
  have own : Extent.outermost.ids holding.document.elements =
      holding.document.elements.map Element.id := by
    unfold Extent.ids
    induction holding.document.elements with
    | nil => rfl
    | cons element rest induction => rw [List.flatMap_cons, induction]; rfl
  apply Id.DrawnBetween.subperm drawn
  rw [← own]
  refine List.Subperm.trans ?_ held.symm.subperm
  exact (List.sublist_append_left _ _).subperm

theorem not_held_of_drawn_later {first : Nat} {ids : List Id}
    (held : Id.DrawnBetween 0 first ids) (number : Nat) (later : first < number) :
    Id.ofNat number ∉ ids := by
  intro member
  obtain ⟨earlier, -, bound, same⟩ := held.drawn _ member
  have := Id.of_nat_injective same
  omega

theorem edited_descends (workspace : Workspace) (original : List (Element Id)) (first : Nat)
    (drawnFirst : Id.DrawnBetween 0 first (original.map Element.id))
    (later : first ≤ workspace.drawn) (drawn : workspace.IdsDrawn .outermost)
    (deeds : List Deed) (holding : Holding) (found : workspace.find? name = some holding)
    (descends : Descends original deeds holding.document.elements)
    (command : DocumentCommand) (places : command.atPlace = true) (answer : Answer)
    (accepted : (workspace.perform none (.document name command)).1.answer = .ok answer) :
    ∃ changed, (workspace.perform none (.document name command)).2.find? name = some changed ∧
      Descends original (command.deed holding.document.elements answer :: deeds)
        changed.document.elements := by
  have effect := Action.perform_effect name workspace.fresh command
  obtain ⟨same, changed, edit, last, revision, foundSame, foundAfter, grows, prepared, revised,
    rfl, content⟩ := effect.revised_of_accepted (command.edits_of_at_place places) answer accepted
  obtain rfl : same = holding := Option.some.inj (foundSame.symm.trans found)
  obtain ⟨makes, draws⟩ := command.deed_makes workspace.options workspace.settings
    workspace.drawn last places edit prepared same.document.elements revision revised
  have drawnAfter := (ids_drawn_lasting .outermost).perform workspace none
    (.document name command) nofun nofun drawn
  have distinct := (ids_drawn_of_found _ changed foundAfter drawnAfter).distinct
  rw [← content] at makes
  refine ⟨changed, foundAfter, descends.step makes distinct ?_⟩
  intro id inserted
  obtain ⟨number, above, rfl⟩ := draws id inserted
  apply not_held_of_drawn_later drawnFirst
  have : workspace.drawn ≤ last := grows
  omega

theorem EditedBy.descends {start final : Workspace} {deeds : List Deed} (before : Holding)
    (held : start.find? name = some before) (drawn : start.IdsDrawn .outermost)
    (edited : EditedBy name start deeds final) :
    final.IdsDrawn .outermost ∧ start.drawn ≤ final.drawn ∧
      ∃ after, final.find? name = some after ∧
        Descends before.document.elements deeds after.document.elements := by
  have drawnBefore := ids_drawn_of_found start before held drawn
  induction edited with
  | start => exact ⟨drawn, Nat.le_refl _, before, held, .start drawnBefore.distinct⟩
  | edited deeds workspace command holding answer earlier places found accepted induction =>
      obtain ⟨drawnNow, later, current, foundNow, descends⟩ := induction
      obtain rfl : current = holding := Option.some.inj (foundNow.symm.trans found)
      refine ⟨?_, ?_, ?_⟩
      · exact (ids_drawn_lasting .outermost).perform workspace none _ nofun nofun drawnNow
      · exact (drawn_lasting start.drawn).perform workspace none _ trivial nofun later
      · exact edited_descends workspace before.document.elements start.drawn drawnBefore later
          drawnNow deeds current found descends command places answer accepted
  | beside deeds workspace own command earlier apart induction =>
      obtain ⟨drawnNow, later, current, foundNow, descends⟩ := induction
      refine ⟨?_, ?_, current, ?_, descends⟩
      · exact (ids_drawn_lasting .outermost).perform workspace own command nofun
          (fun _ _ => trivial) drawnNow
      · exact (drawn_lasting start.drawn).perform workspace own command trivial
          (fun _ _ => trivial) later
      · exact (find_lasting name (some current)).perform workspace own command apart
          (fun _ _ => trivial) foundNow

end Workspace

/-- Of the elements that a document holds, those that no edit removes stay in their order, each
once, and those that no edit was aimed at stay as they are. What is put in has an identifier that
none of them had, and the length tells how many elements came and went. -/
theorem identities_stable_under_edits (column : Column) (steps : List Step) (name : String)
    (before : Holding)
    (held : (({ column } : Workspace).runAll steps).2.find? name = some before)
    (deeds : List Deed) (final : Workspace)
    (edited : Workspace.EditedBy name (({ column } : Workspace).runAll steps).2 deeds final) :
    ∃ after, final.find? name = some after ∧
      Descends before.document.elements deeds after.document.elements := by
  have drawn := Workspace.run_ids_drawn .outermost column steps
    (Step.all_only_of_forall _ (fun _ whole => nomatch whole) steps)
  exact (edited.descends before held drawn).2.2

def openingRun : List Step :=
  [.command none (.document "draft" (.create "a+b" (.own false [] none)))]

def opened : Workspace := (({} : Workspace).runAll openingRun).2

def shifted : Workspace :=
  (opened.perform none (.document "draft" (.insert ⟨.text "variable", "z", [], none⟩
    (some (-5))))).2

def renamed : Workspace :=
  (shifted.perform none (.document "draft" (.update 1 none (some "x") none))).2

def shortened : Workspace := (renamed.perform none (.document "draft" (.remove 2))).2

def settled : Workspace := (shortened.perform none (.document "draft" (.remove 7))).2

def draftOf (elements : List (Element Id)) : Holding := ⟨⟨elements, none⟩, 0⟩

def openedElements : List (Element Id) :=
  [⟨.letter, "a", [], "fe-1"⟩, ⟨.operator, "+", [], "fe-2"⟩, ⟨.letter, "b", [], "fe-3"⟩]

theorem identities_stable_under_edits_shifted :
    opened.find? "draft" = some (draftOf openedElements) ∧
      Workspace.EditedBy "draft" opened
        [.missed, .removed "fe-2", .updated "fe-1", .inserted "fe-5"] settled ∧
      ∃ after, settled.find? "draft" = some after ∧
        Descends openedElements [.missed, .removed "fe-2", .updated "fe-1", .inserted "fe-5"]
          after.document.elements := by
  -- A scan goes down the length of a text, and such definitions are not unfolded otherwise.
  have held : opened.find? "draft" = some (draftOf openedElements) := by
    with_unfolding_all rfl
  have edited : Workspace.EditedBy "draft" opened
      [.missed, .removed "fe-2", .updated "fe-1", .inserted "fe-5"] settled := by
    have first := Workspace.EditedBy.edited [] opened
      (.insert ⟨.text "variable", "z", [], none⟩ (some (-5))) _
      (.element (some ⟨.letter, "z", [], "fe-5"⟩)) .start rfl held
      (by with_unfolding_all rfl)
    have second := Workspace.EditedBy.edited _ shifted (.update 1 none (some "x") none)
      (draftOf (⟨.letter, "z", [], "fe-5"⟩ :: openedElements)) (.present true) first rfl
      (by with_unfolding_all rfl) (by with_unfolding_all rfl)
    have third := Workspace.EditedBy.edited _ renamed (.remove 2)
      (draftOf [⟨.letter, "z", [], "fe-5"⟩, ⟨.letter, "x", [], "fe-1"⟩,
        ⟨.operator, "+", [], "fe-2"⟩, ⟨.letter, "b", [], "fe-3"⟩]) (.present true) second rfl
      (by with_unfolding_all rfl) (by with_unfolding_all rfl)
    exact Workspace.EditedBy.edited _ shortened (.remove 7)
      (draftOf [⟨.letter, "z", [], "fe-5"⟩, ⟨.letter, "x", [], "fe-1"⟩,
        ⟨.letter, "b", [], "fe-3"⟩]) (.present false) third rfl
      (by with_unfolding_all rfl) (by with_unfolding_all rfl)
  exact ⟨held, edited,
    identities_stable_under_edits .unbounded openingRun "draft" _ held _ settled edited⟩

end InlineFormula
