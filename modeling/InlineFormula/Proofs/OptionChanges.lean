import InlineFormula.Settings.Scopes

/-!
Changes of options. A datum that is set puts one value in place, unless it replaces all attributes
at once; what a change takes down beforehand are the five options, unless the table of fields was
replaced, and what it took down it brings back.
-/

set_option autoImplicit false

namespace InlineFormula.Options

variable (options : Options)

@[simp] theorem value_put (name : String) (value : Datum) :
    (options.put name value).value name = some value := by
  rw [Options.value, own_put, Option.some_or]

theorem value_put_other (name other : String) (value : Datum) (different : other ≠ name) :
    (options.put name value).value other = options.value other := by
  rw [Options.value, own_put_other options name other value different, Options.value]

theorem store_eq_put (name : String) (value : Datum) (single : name ≠ "__dict__") :
    options.store name value = options.put name value := by
  unfold store
  split
  · exact absurd rfl single
  · rfl

theorem set_ok_iff (name : String) (given : Datum) (after : Options) :
    options.set name given = .ok after ↔
      options.has name = true ∧
        ∃ value, Setting.read name given = .ok value ∧ after = options.store name value := by
  rw [Options.set]
  cases Setting.read name given <;> cases options.has name <;> simp [Except.map, eq_comm]

theorem set_error_iff (name : String) (given : Datum) (fault : Fault) :
    options.set name given = .error fault ↔
      (options.has name = false ∧ fault = .unknownOption name) ∨
        (options.has name = true ∧ Setting.read name given = .error fault) := by
  rw [Options.set]
  cases Setting.read name given <;> cases options.has name <;> simp [Except.map, eq_comm]

/-- A value under a name that is there makes no name known, and none unknown. -/
theorem has_put (name other : String) (value : Datum) (known : options.has name = true) :
    (options.put name value).has other = options.has other := by
  by_cases same : other = name
  · rw [same, known, has, value_put, Option.isSome_some, Bool.true_or]
  · rw [has, value_put_other options name other value same, has]

theorem set_all_cons_ok (name : String) (given : Datum) (rest : List (String × Datum))
    (after : Options) (accepted : options.set name given = .ok after) :
    options.setAll ((name, given) :: rest) = after.setAll rest := by
  rw [setAll, accepted]

theorem set_all_cons_error (name : String) (given : Datum) (rest : List (String × Datum))
    (fault : Fault) (refused : options.set name given = .error fault) :
    options.setAll ((name, given) :: rest) = (options, some fault) := by
  rw [setAll, refused]

/-- The method is there, and takes data of these names. -/
def Callable (pairs : List (String × Datum)) : Prop :=
  options.own "update" = none ∧ ∀ pair ∈ pairs, pair.1 ≠ "self"

theorem assign_callable (pairs : List (String × Datum)) (callable : options.Callable pairs) :
    options.assign pairs = options.setAll pairs := by
  have unused : (pairs.any fun pair => pair.1 == "self") = false := by simpa using callable.2
  rw [assign, callable.1, unused]
  rfl

theorem assign_uncallable (pairs : List (String × Datum)) (uncallable : ¬options.Callable pairs) :
    ∃ fault, options.assign pairs = (options, some fault) := by
  rw [assign]
  cases replaced : options.own "update" with
  | some given => exact ⟨_, rfl⟩
  | none =>
      have named : ¬∀ pair ∈ pairs, pair.1 ≠ "self" := fun free => uncallable ⟨replaced, free⟩
      have twice : (pairs.any fun pair => pair.1 == "self") = true := by simpa using named
      simp only [twice, if_true]
      exact ⟨_, rfl⟩

/-- What a change leaves is what was there, or what its data were set to. -/
theorem assign_fst_cases (pairs : List (String × Datum)) :
    (options.assign pairs).1 = options ∨
      (options.assign pairs).1 = (options.setAll pairs).1 := by
  unfold assign
  split
  · exact .inl rfl
  · split
    · exact .inl rfl
    · exact .inr rfl

/-- The five options are as they were; other attributes are left out of account. -/
def Same (before after : Options) : Prop := ∀ name ∈ names, after.value name = before.value name

theorem same_refl : options.Same options := fun _ _ => rfl

/-- The table of fields was replaced by an empty one, so that nothing is told. -/
def Untold : Prop := options.own "__dataclass_fields__" = some (.object [])

theorem snapshot_ok_cases (kept : List (String × Datum)) (told : options.snapshot = .ok kept) :
    (options.Untold ∧ kept = []) ∨
      (¬options.Untold ∧ kept.map Prod.fst = names ∧
        ∀ entry ∈ kept, options.value entry.1 = some entry.2) := by
  unfold snapshot at told
  split at told
  · cases told
  split at told
  case h_1 table =>
    refine .inr ⟨by rw [Untold, table]; exact nofun, ?_⟩
    generalize names = names at told ⊢
    induction names generalizing kept with
    | nil =>
        cases told
        exact ⟨rfl, nofun⟩
    | cons name rest induction =>
        obtain ⟨first, others, read, later, rfl⟩ := of_map_m_cons_eq_ok told
        obtain ⟨listed, values⟩ := induction others later
        split at read
        case h_1 value there =>
          cases read
          exact ⟨by rw [List.map_cons, listed], List.forall_mem_cons.mpr ⟨there, values⟩⟩
        case h_2 => cases read
  case h_2 empty =>
    cases told
    exact .inl ⟨empty, rfl⟩
  · cases told
  · cases told

/-- What was told is brought back, and what was not told of stays. -/
theorem value_restore (kept : List (String × Datum)) (before now : Options)
    (told : ∀ entry ∈ kept, before.value entry.1 = some entry.2) (name : String) :
    (now.restore kept).value name =
      if name ∈ kept.map Prod.fst then before.value name else now.value name := by
  induction kept generalizing now with
  | nil => rfl
  | cons entry rest induction =>
      rw [List.forall_mem_cons] at told
      rw [restore, List.foldl_cons, ← restore, induction (now.put entry.1 entry.2) told.2]
      by_cases later : name ∈ rest.map Prod.fst
      · rw [if_pos later, List.map_cons, if_pos (List.mem_cons_of_mem _ later)]
      · rw [if_neg later, List.map_cons]
        by_cases first : name = entry.1
        · subst first
          rw [value_put, if_pos List.mem_cons_self, told.1]
        · rw [value_put_other _ _ _ _ first, if_neg (by simp [first, later])]

theorem override_cases (pairs : List (String × Datum)) (inner : Options)
    (answer : Except Fault (List (String × Datum)))
    (overridden : options.override pairs = (inner, answer)) :
    (∃ fault, options.snapshot = .error fault ∧ inner = options ∧ answer = .error fault) ∨
    (∃ kept fault, options.snapshot = .ok kept ∧ (options.assign pairs).2 = some fault ∧
      inner = (options.assign pairs).1.restore kept ∧ answer = .error fault) ∨
    ∃ kept, options.snapshot = .ok kept ∧ options.assign pairs = (inner, none) ∧
      answer = .ok kept := by
  unfold override at overridden
  split at overridden
  case h_1 fault untold =>
    cases overridden
    exact .inl ⟨fault, untold, rfl, rfl⟩
  case h_2 kept told =>
    right
    split at overridden
    case h_1 changed fault assigned =>
      cases overridden
      exact .inl ⟨kept, fault, told, by rw [assigned], by rw [assigned], rfl⟩
    case h_2 changed assigned =>
      cases overridden
      exact .inr ⟨kept, told, assigned, rfl⟩

theorem restore_same (kept : List (String × Datum)) (told : options.snapshot = .ok kept)
    (tells : ¬options.Untold) (now : Options) : options.Same (now.restore kept) := by
  obtain ⟨untold, -⟩ | ⟨-, listed, values⟩ := options.snapshot_ok_cases kept told
  · exact absurd untold tells
  · intro name member
    rw [value_restore kept options now values, listed, if_pos member]

theorem override_error_same (pairs : List (String × Datum)) (inner : Options) (fault : Fault)
    (overridden : options.override pairs = (inner, .error fault)) (tells : ¬options.Untold) :
    options.Same inner := by
  obtain ⟨_, -, rfl, -⟩ | ⟨kept, _, told, -, rfl, -⟩ | ⟨_, -, -, impossible⟩ :=
    options.override_cases pairs inner _ overridden
  · exact inner.same_refl
  · exact options.restore_same kept told tells _
  · cases impossible

theorem override_ok_same (pairs : List (String × Datum)) (inner : Options)
    (kept : List (String × Datum)) (overridden : options.override pairs = (inner, .ok kept))
    (tells : ¬options.Untold) (now : Options) : options.Same (now.restore kept) := by
  obtain ⟨_, -, -, impossible⟩ | ⟨_, _, -, -, -, impossible⟩ | ⟨_, told, -, same⟩ :=
    options.override_cases pairs inner _ overridden
  · cases impossible
  · cases impossible
  · cases same
    exact options.restore_same kept told tells now

theorem override_untold (pairs : List (String × Datum)) (inner : Options)
    (kept : List (String × Datum)) (overridden : options.override pairs = (inner, .ok kept))
    (untold : options.Untold) : kept = [] := by
  obtain ⟨_, -, -, impossible⟩ | ⟨_, _, -, -, -, impossible⟩ | ⟨_, told, -, same⟩ :=
    options.override_cases pairs inner _ overridden
  · cases impossible
  · cases impossible
  · cases same
    obtain ⟨-, nothing⟩ | ⟨tells, -⟩ := options.snapshot_ok_cases kept told
    · exact nothing
    · exact absurd untold tells

end InlineFormula.Options
