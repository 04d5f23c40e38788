import InlineFormula.Proofs.ScopedRuns

/-!
The order of assignments. Whether a datum is accepted, and what it is read as, does not hang on
what was set before, as long as not all attributes are replaced at once; so a change that names
each attribute once comes to the same in every order. One that does not go through stops at its
first datum that is not accepted.
-/

set_option autoImplicit false

namespace InlineFormula

namespace Options

/-- Set alone, the datum goes through. -/
def Accepts (options : Options) (pair : String × Datum) : Prop :=
  ∃ after, options.set pair.1 pair.2 = .ok after

variable (options : Options)

theorem accepts_iff (pair : String × Datum) :
    options.Accepts pair ↔
      options.has pair.1 = true ∧ ∃ value, Setting.read pair.1 pair.2 = .ok value := by
  constructor
  · rintro ⟨after, accepted⟩
    obtain ⟨known, value, read, -⟩ := (options.set_ok_iff pair.1 pair.2 after).mp accepted
    exact ⟨known, value, read⟩
  · rintro ⟨known, value, read⟩
    exact ⟨_, (options.set_ok_iff pair.1 pair.2 _).mpr ⟨known, value, read, rfl⟩⟩

/-- A datum that sets one attribute leaves undecided nothing about the others. -/
theorem set_single (pair : String × Datum) (single : pair.1 ≠ "__dict__")
    (accepted : options.Accepts pair) :
    ∃ value, Setting.read pair.1 pair.2 = .ok value ∧
      options.set pair.1 pair.2 = .ok (options.put pair.1 value) ∧
      (∀ other, (options.put pair.1 value).Accepts other ↔ options.Accepts other) ∧
      ∀ name given fault, (options.put pair.1 value).set name given = .error fault ↔
        options.set name given = .error fault := by
  obtain ⟨known, value, read⟩ := (options.accepts_iff pair).mp accepted
  refine ⟨value, read, ?_, ?_, ?_⟩
  · rw [← options.store_eq_put pair.1 value single]
    exact (options.set_ok_iff pair.1 pair.2 _).mpr ⟨known, value, read, rfl⟩
  · intro other
    rw [accepts_iff, accepts_iff, options.has_put pair.1 other.1 value known]
  · intro name given fault
    rw [set_error_iff, set_error_iff, options.has_put pair.1 name value known]

theorem first_unaccepted (pairs : List (String × Datum))
    (unfit : ¬∀ pair ∈ pairs, options.Accepts pair) :
    ∃ front name given fault back, pairs = front ++ (name, given) :: back ∧
      (∀ pair ∈ front, options.Accepts pair) ∧ options.set name given = .error fault := by
  induction pairs with
  | nil => exact absurd nofun unfit
  | cons pair rest induction =>
      cases first : options.set pair.1 pair.2 with
      | error fault => exact ⟨[], pair.1, pair.2, fault, rest, rfl, nofun, first⟩
      | ok after =>
          rw [List.forall_mem_cons] at unfit
          obtain ⟨front, name, given, fault, back, rfl, accepted, refused⟩ :=
            induction fun others => unfit ⟨⟨after, first⟩, others⟩
          exact ⟨pair :: front, name, given, fault, back, rfl,
            List.forall_mem_cons.mpr ⟨⟨after, first⟩, accepted⟩, refused⟩

theorem set_all_accepts (pairs : List (String × Datum))
    (single : ∀ pair ∈ pairs, pair.1 ≠ "__dict__")
    (accepted : ∀ pair ∈ pairs, options.Accepts pair) (other : String × Datum) :
    (options.setAll pairs).1.Accepts other ↔ options.Accepts other := by
  induction pairs generalizing options with
  | nil => rfl
  | cons pair rest induction =>
      rw [List.forall_mem_cons] at single accepted
      obtain ⟨value, -, set, same, -⟩ := options.set_single pair single.1 accepted.1
      rw [set_all_cons_ok _ _ _ _ _ set, ← same other]
      exact induction _ single.2 fun other member => (same other).mpr (accepted.2 other member)

theorem set_all_append (front back : List (String × Datum))
    (single : ∀ pair ∈ front, pair.1 ≠ "__dict__")
    (accepted : ∀ pair ∈ front, options.Accepts pair) :
    options.setAll (front ++ back) = (options.setAll front).1.setAll back := by
  induction front generalizing options with
  | nil => rfl
  | cons pair rest induction =>
      rw [List.forall_mem_cons] at single accepted
      obtain ⟨value, -, set, same, -⟩ := options.set_single pair single.1 accepted.1
      rw [List.cons_append, set_all_cons_ok _ _ _ _ _ set, set_all_cons_ok _ _ _ _ _ set]
      exact induction _ single.2 fun other member => (same other).mpr (accepted.2 other member)

theorem set_all_accepted (pairs : List (String × Datum))
    (single : ∀ pair ∈ pairs, pair.1 ≠ "__dict__")
    (accepted : ∀ pair ∈ pairs, options.Accepts pair) : (options.setAll pairs).2 = none := by
  induction pairs generalizing options with
  | nil => rfl
  | cons pair rest induction =>
      rw [List.forall_mem_cons] at single accepted
      obtain ⟨value, -, set, same, -⟩ := options.set_single pair single.1 accepted.1
      rw [set_all_cons_ok _ _ _ _ _ set]
      exact induction _ single.2 fun other member => (same other).mpr (accepted.2 other member)

/-- The first datum that is not accepted ends the change, with what those before it have set. -/
theorem set_all_stops (front back : List (String × Datum)) (name : String) (given : Datum)
    (fault : Fault) (single : ∀ pair ∈ front, pair.1 ≠ "__dict__")
    (accepted : ∀ pair ∈ front, options.Accepts pair)
    (refused : options.set name given = .error fault) :
    options.setAll (front ++ (name, given) :: back) =
      ((options.setAll front).1, some fault) := by
  induction front generalizing options with
  | nil => exact options.set_all_cons_error name given back fault refused
  | cons pair rest induction =>
      rw [List.forall_mem_cons] at single accepted
      obtain ⟨value, -, set, same, faults⟩ := options.set_single pair single.1 accepted.1
      rw [List.cons_append, set_all_cons_ok _ _ _ _ _ set, set_all_cons_ok _ _ _ _ _ set]
      exact induction _ single.2 (fun other member => (same other).mpr (accepted.2 other member))
        ((faults name given fault).mpr refused)

theorem set_all_perm (pairs other : List (String × Datum)) (reordered : other.Perm pairs)
    (distinct : (pairs.map Prod.fst).Nodup) (single : ∀ pair ∈ pairs, pair.1 ≠ "__dict__")
    (accepted : ∀ pair ∈ pairs, options.Accepts pair) :
    options.setAll other = options.setAll pairs := by
  induction reordered generalizing options with
  | nil => rfl
  | cons pair _ induction =>
      rw [List.forall_mem_cons] at single accepted
      obtain ⟨value, -, set, same, -⟩ := options.set_single pair single.1 accepted.1
      rw [set_all_cons_ok _ _ _ _ _ set, set_all_cons_ok _ _ _ _ _ set]
      exact induction _ (List.nodup_cons.mp distinct).2 single.2
        fun other member => (same other).mpr (accepted.2 other member)
  | swap first second rest =>
      simp only [List.forall_mem_cons] at single accepted
      have different : first.1 ≠ second.1 := by
        intro equal
        rw [List.map_cons, List.map_cons, equal] at distinct
        simp at distinct
      obtain ⟨left, leftRead, leftSet, leftSame, -⟩ :=
        options.set_single first single.1 accepted.1
      obtain ⟨right, rightRead, rightSet, rightSame, -⟩ :=
        options.set_single second single.2.1 accepted.2.1
      obtain ⟨rightToo, rightReadToo, rightAfter, -⟩ := (options.put first.1 left).set_single second
        single.2.1 ((leftSame second).mpr accepted.2.1)
      obtain ⟨leftToo, leftReadToo, leftAfter, -⟩ := (options.put second.1 right).set_single first
        single.1 ((rightSame first).mpr accepted.1)
      cases leftRead.symm.trans leftReadToo
      cases rightRead.symm.trans rightReadToo
      rw [set_all_cons_ok _ _ _ _ _ leftSet, set_all_cons_ok _ _ _ _ _ rightAfter,
        set_all_cons_ok _ _ _ _ _ rightSet, set_all_cons_ok _ _ _ _ _ leftAfter,
        options.put_comm first.1 second.1 left right different]
  | trans first second firstSame secondSame =>
      -- The list in between names the same attributes with the same data.
      have between := (second.map Prod.fst).nodup_iff.mpr distinct
      rw [firstSame options between (fun pair member => single pair (second.mem_iff.mp member))
        (fun pair member => accepted pair (second.mem_iff.mp member)),
        secondSame options distinct single accepted]

theorem set_all_in_force (pairs : List (String × Datum)) (distinct : (pairs.map Prod.fst).Nodup)
    (single : ∀ pair ∈ pairs, pair.1 ≠ "__dict__")
    (accepted : ∀ pair ∈ pairs, options.Accepts pair) (name : String) (given : Datum)
    (member : (name, given) ∈ pairs) :
    ∃ value, Setting.read name given = .ok value ∧
      (options.setAll pairs).1.value name = some value := by
  obtain ⟨front, back, rfl⟩ := List.append_of_mem member
  -- The same change with this datum at its end comes to the same.
  have reordered : ((front ++ back) ++ [(name, given)]).Perm (front ++ (name, given) :: back) := by
    rw [List.append_assoc]
    exact (List.perm_append_singleton _ _).append_left front
  have others : ∀ pair ∈ front ++ back, pair ∈ front ++ (name, given) :: back := by
    intro pair inside
    exact reordered.mem_iff.mp (List.mem_append_left _ inside)
  have singles : ∀ pair ∈ front ++ back, pair.1 ≠ "__dict__" := by
    intro pair inside
    exact single pair (others pair inside)
  have accepts : ∀ pair ∈ front ++ back, options.Accepts pair := by
    intro pair inside
    exact accepted pair (others pair inside)
  have last := (options.set_all_accepts _ singles accepts (name, given)).mpr (accepted _ member)
  obtain ⟨value, read, set, -⟩ :=
    (options.setAll (front ++ back)).1.set_single (name, given) (single _ member) last
  refine ⟨value, read, ?_⟩
  rw [← options.set_all_perm _ _ reordered distinct single accepted,
    options.set_all_append _ [(name, given)] singles accepts, set_all_cons_ok _ _ _ _ _ set]
  exact Options.value_put _ name value

theorem callable_perm (pairs other : List (String × Datum)) (reordered : other.Perm pairs) :
    options.Callable other ↔ options.Callable pairs := by
  simp only [Callable, reordered.mem_iff]

theorem assign_perm (pairs other : List (String × Datum)) (reordered : other.Perm pairs)
    (distinct : (pairs.map Prod.fst).Nodup) (single : ∀ pair ∈ pairs, pair.1 ≠ "__dict__")
    (callable : options.Callable pairs) (accepted : ∀ pair ∈ pairs, options.Accepts pair) :
    options.assign other = options.assign pairs ∧
      options.assign pairs = ((options.setAll pairs).1, none) := by
  have set := options.assign_callable pairs callable
  have setOther := options.assign_callable other
    ((options.callable_perm pairs other reordered).mpr callable)
  constructor
  · rw [set, setOther]
    exact options.set_all_perm pairs other reordered distinct single accepted
  · rw [set, ← options.set_all_accepted pairs single accepted]

theorem assign_stops (pairs : List (String × Datum))
    (single : ∀ pair ∈ pairs, pair.1 ≠ "__dict__") (callable : options.Callable pairs)
    (unfit : ¬∀ pair ∈ pairs, options.Accepts pair) :
    ∃ front name given fault back, pairs = front ++ (name, given) :: back ∧
      (∀ pair ∈ front, options.Accepts pair) ∧ options.set name given = .error fault ∧
      options.assign pairs = ((options.assign front).1, some fault) := by
  obtain ⟨front, name, given, fault, back, rfl, accepted, refused⟩ :=
    options.first_unaccepted pairs unfit
  have singles : ∀ pair ∈ front, pair.1 ≠ "__dict__" := by
    intro pair ahead
    exact single pair (List.mem_append_left _ ahead)
  have set : options.assign front = options.setAll front := by
    apply options.assign_callable
    exact ⟨callable.1, fun pair ahead => callable.2 pair (List.mem_append_left _ ahead)⟩
  refine ⟨front, name, given, fault, back, rfl, accepted, refused, ?_⟩
  rw [options.assign_callable _ callable, set]
  exact options.set_all_stops front back name given fault singles accepted refused

end Options

namespace Workspace

variable (workspace : Workspace)

theorem perform_assign (pairs : List (String × Datum)) :
    workspace.perform none (.assignSettings pairs) =
      ({ answer := (workspace.options.assign pairs).2.elim (.ok .accepted) .error
         warnings := []
         log := []
         document := none },
        workspace.fresh.withOptions (workspace.options.assign pairs).1) := by
  have ran : (Action.perform (.assignSettings pairs)).runOn workspace.fresh =
      ((workspace.options.assign pairs).2.elim (.ok .accepted) .error,
        workspace.fresh.withOptions (workspace.options.assign pairs).1) := by
    simp only [Action.perform, Action.run_bind, Action.run_rescope, fresh_scopes, Scopes.assign,
      scopes_current]
    cases (workspace.options.assign pairs).2 <;> rfl
  rw [perform_eq, ran]
  rfl

theorem perform_enter_congr (left right : List (String × Datum))
    (same : workspace.options.assign left = workspace.options.assign right) :
    workspace.perform none (.enterScope left) = workspace.perform none (.enterScope right) := by
  have overridden : workspace.options.override left = workspace.options.override right := by
    simp only [Options.override, same]
  have ran : (Action.perform (.enterScope left)).runOn workspace.fresh =
      (Action.perform (.enterScope right)).runOn workspace.fresh := by
    have entered : workspace.scopes.enter left = workspace.scopes.enter right := by
      rw [Scopes.enter, Scopes.enter, scopes_current, overridden]
    simp only [Action.perform, Action.run_bind, Action.run_rescope, fresh_scopes, entered]
  rw [perform_eq, perform_eq, ran]
  rfl

theorem perform_enter_stops (pairs : List (String × Datum)) (fault : Fault)
    (kept : List (String × Datum)) (told : workspace.options.snapshot = .ok kept)
    (stops : (workspace.options.assign pairs).2 = some fault) :
    (workspace.perform none (.enterScope pairs)).1.answer = .error fault ∧
      (workspace.perform none (.enterScope pairs)).2.scopes.kept = workspace.scopes.kept := by
  have overridden : workspace.options.override pairs =
      ((workspace.options.assign pairs).1.restore kept, .error fault) := by
    rw [Options.override, told]
    rcases assigned : workspace.options.assign pairs with ⟨changed, raised⟩
    rw [assigned] at stops
    cases stops
    rfl
  have entered : workspace.scopes.enter pairs =
      ({ workspace.scopes with current := (workspace.options.assign pairs).1.restore kept },
        some fault) := by
    rw [Scopes.enter, scopes_current, overridden]
  simp only [perform_answer, perform_after, Action.perform, Action.run_bind, Action.run_rescope,
    fresh_scopes, entered]
  exact ⟨rfl, rfl⟩

end Workspace

/-- A change that names each attribute once, and does not replace all of them, comes to the same in
every order if all of its data are accepted, and then each of them is in force. If not, every order
fails with the fault of its first datum that is not accepted: a plain change leaves what the data
before that one set, and a scope is not opened. A change that cannot be called sets nothing. -/
theorem changes_alike_in_every_order (workspace : Workspace) (pairs other : List (String × Datum))
    (distinct : (pairs.map Prod.fst).Nodup) (reordered : other.Perm pairs)
    (single : ∀ pair ∈ pairs, pair.1 ≠ "__dict__") :
    let options := workspace.options
    let assigned := fun given => workspace.perform none (.assignSettings given)
    let entered := fun given => workspace.perform none (.enterScope given)
    (options.Callable pairs → (∀ pair ∈ pairs, options.Accepts pair) →
      (assigned other).1.answer = .ok .accepted ∧ assigned other = assigned pairs ∧
      entered other = entered pairs ∧
      ∀ name given, (name, given) ∈ pairs → ∃ value, Setting.read name given = .ok value ∧
        (assigned other).2.options.value name = some value) ∧
    (options.Callable pairs → (¬∀ pair ∈ pairs, options.Accepts pair) →
      ∃ front name given fault back, other = front ++ (name, given) :: back ∧
        (∀ pair ∈ front, options.Accepts pair) ∧ options.set name given = .error fault ∧
        (assigned other).1.answer = .error fault ∧ (assigned other).2 = (assigned front).2 ∧
        ∀ kept, options.snapshot = .ok kept →
          (entered other).1.answer = .error fault ∧
            (entered other).2.scopes.kept = workspace.scopes.kept) ∧
    (¬options.Callable pairs →
      ∃ fault, (assigned other).1.answer = .error fault ∧
        (assigned other).2 = workspace.fresh) := by
  intro options assigned entered
  have answered (given : List (String × Datum)) : assigned given =
      ({ answer := (options.assign given).2.elim (.ok .accepted) .error
         warnings := []
         log := []
         document := none },
        workspace.fresh.withOptions (options.assign given).1) := workspace.perform_assign given
  have callable_iff := options.callable_perm pairs other reordered
  refine ⟨?_, ?_, ?_⟩
  · intro callable accepted
    obtain ⟨same, set⟩ :=
      options.assign_perm pairs other reordered distinct single callable accepted
    refine ⟨?_, ?_, workspace.perform_enter_congr other pairs same, ?_⟩
    · rw [answered, same, set]
      rfl
    · rw [answered, answered, same]
    · intro name given among
      rw [answered, same, set]
      exact options.set_all_in_force pairs distinct single accepted name given among
  · intro callable unfit
    simp only [← reordered.mem_iff] at single unfit
    obtain ⟨front, name, given, fault, back, split, accepted, refused, stops⟩ :=
      options.assign_stops other single (callable_iff.mpr callable) unfit
    refine ⟨front, name, given, fault, back, split, accepted, refused, ?_, ?_, ?_⟩
    · rw [answered, stops]
      rfl
    · rw [answered, answered, stops]
    · intro kept told
      exact workspace.perform_enter_stops other fault kept told (congrArg Prod.snd stops)
  · intro uncallable
    obtain ⟨fault, refused⟩ := options.assign_uncallable other
      fun called => uncallable (callable_iff.mp called)
    refine ⟨fault, ?_, ?_⟩
    · rw [answered, refused]
      rfl
    · rw [answered, refused]
      rfl

def threeChanges : List (String × Datum) :=
  [("operators", .text "+"), ("messages", .object [("custom", .null)]),
    ("function_names", .list [.text "exp", .text "e"])]

def badChanges : List (String × Datum) :=
  [("brackets", .text "("), ("operators", .text "-"), ("colour", .text "red")]

/-- The last of the three comes first, and of the two bad changes the other one is found. -/
theorem changes_alike_in_every_order_reversed :
    ((threeChanges.map Prod.fst).Nodup ∧ threeChanges.reverse.Perm threeChanges ∧
      (∀ pair ∈ threeChanges, pair.1 ≠ "__dict__") ∧
      Options.standard.Callable threeChanges ∧
      ∀ pair ∈ threeChanges, Options.standard.Accepts pair) ∧
    ((badChanges.map Prod.fst).Nodup ∧ badChanges.reverse.Perm badChanges ∧
      (∀ pair ∈ badChanges, pair.1 ≠ "__dict__") ∧ Options.standard.Callable badChanges ∧
      ¬∀ pair ∈ badChanges, Options.standard.Accepts pair) ∧
    ¬Options.standard.Callable [("self", .null)] ∧
    (({} : Workspace).perform none (.assignSettings threeChanges.reverse)).2.options =
      (({} : Workspace).perform none (.assignSettings threeChanges)).2.options ∧
    (∃ fault, (({} : Workspace).perform none (.assignSettings badChanges.reverse)).1.answer =
      .error fault) ∧
    ∃ fault, (({} : Workspace).perform none (.assignSettings [("self", .null)])).1.answer =
      .error fault := by
  have accepted : ∀ pair ∈ threeChanges, Options.standard.Accepts pair := by
    simp only [threeChanges, List.forall_mem_cons]
    exact ⟨⟨_, rfl⟩, ⟨_, rfl⟩, ⟨_, rfl⟩, nofun⟩
  have unfit : ¬∀ pair ∈ badChanges, Options.standard.Accepts pair := by
    intro all
    obtain ⟨after, impossible⟩ := all ("colour", .text "red") (by simp [badChanges])
    cases impossible
  have callable : Options.standard.Callable threeChanges := ⟨rfl, by simp [threeChanges]⟩
  have callableToo : Options.standard.Callable badChanges := ⟨rfl, by simp [badChanges]⟩
  have uncallable : ¬Options.standard.Callable [("self", .null)] := by
    simp [Options.Callable]
  have single : ∀ pair ∈ threeChanges, pair.1 ≠ "__dict__" := by simp [threeChanges]
  have singleToo : ∀ pair ∈ badChanges, pair.1 ≠ "__dict__" := by simp [badChanges]
  have laws := changes_alike_in_every_order {} threeChanges threeChanges.reverse (by decide)
    (List.reverse_perm _) single
  have faults := changes_alike_in_every_order {} badChanges badChanges.reverse (by decide)
    (List.reverse_perm _) singleToo
  have nothing := changes_alike_in_every_order {} [("self", .null)] [("self", .null)] (by decide)
    (List.Perm.refl _) (by simp)
  refine ⟨⟨by decide, List.reverse_perm _, single, callable, accepted⟩,
    ⟨by decide, List.reverse_perm _, singleToo, callableToo, unfit⟩, uncallable, ?_, ?_, ?_⟩
  · exact congrArg (fun ran => ran.2.options) (laws.1 callable accepted).2.1
  · obtain ⟨front, name, given, fault, back, -, -, -, answered, -⟩ := faults.2.1 callableToo unfit
    exact ⟨fault, answered⟩
  · obtain ⟨fault, answered, -⟩ := nothing.2.2 uncallable
    exact ⟨fault, answered⟩

/-- Operators that are set stay in force, or go with all that was set before. -/
theorem changes_not_always_alike :
    ¬∀ (workspace : Workspace) (pairs other : List (String × Datum)),
      (pairs.map Prod.fst).Nodup → other.Perm pairs →
      (∀ pair ∈ pairs, workspace.options.Accepts pair) →
      (workspace.perform none (.assignSettings other)).2.options.value "operators" =
        (workspace.perform none (.assignSettings pairs)).2.options.value "operators" := by
  intro always
  have same := always {} [("operators", .text "#"), ("__dict__", .object [])]
    [("__dict__", .object []), ("operators", .text "#")] (by decide) (.swap _ _ _) (by
      simp only [List.forall_mem_cons]
      exact ⟨⟨_, rfl⟩, ⟨_, rfl⟩, nofun⟩)
  have operators : "#" = "+-×÷*/=" := Datum.text.inj (Option.some.inj same)
  exact absurd operators (by decide)

end InlineFormula
