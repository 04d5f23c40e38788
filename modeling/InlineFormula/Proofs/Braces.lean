import InlineFormula.Formula.Spelling

/-!
Braces in the content of a modifier, told by counting. The two scans over braces are pinned down
by how many of each kind the fronts of a text hold, and with them where a spelling may stand:
reading gives back exactly the spellings that fit what follows them.
-/

set_option autoImplicit false

namespace InlineFormula.Spelling

/-- No front of the text closes more groups than are open, `depth` of them before the text. -/
def NeverOverclosed (depth : Nat) (text : List Char) : Prop :=
  ∀ front, front <+: text → front.count '}' ≤ depth + front.count '{'

def Balanced (text : List Char) : Prop :=
  NeverOverclosed 0 text ∧ text.count '{' = text.count '}'

theorem never_overclosed_cons (depth : Nat) (char : Char) (rest : List Char) :
    NeverOverclosed depth (char :: rest) ↔
      ∀ front, front <+: rest →
        (char :: front).count '}' ≤ depth + (char :: front).count '{' := by
  constructor
  · intro never front fits
    apply never
    exact (List.prefix_cons_inj char).mpr fits
  · intro longer front fits
    rcases List.prefix_cons_iff.mp fits with rfl | ⟨shorter, rfl, inside⟩
    · simp
    · exact longer shorter inside

theorem never_overclosed_nil (depth : Nat) : NeverOverclosed depth [] := by
  intro front fits
  rw [List.prefix_nil.mp fits]
  simp

theorem never_overclosed_open (depth : Nat) (rest : List Char) :
    NeverOverclosed depth ('{' :: rest) ↔ NeverOverclosed (depth + 1) rest := by
  rw [never_overclosed_cons]
  have shifted : ∀ front : List Char,
      ('{' :: front).count '}' ≤ depth + ('{' :: front).count '{' ↔
        front.count '}' ≤ depth + 1 + front.count '{' := by
    intro front
    rw [List.count_cons_self, List.count_cons_of_ne (by decide)]
    omega
  simp only [shifted, NeverOverclosed]

theorem never_overclosed_close (depth : Nat) (rest : List Char) :
    NeverOverclosed depth ('}' :: rest) ↔
      ∃ outer, depth = outer + 1 ∧ NeverOverclosed outer rest := by
  rw [never_overclosed_cons]
  have shifted : ∀ front : List Char,
      ('}' :: front).count '}' ≤ depth + ('}' :: front).count '{' ↔
        front.count '}' + 1 ≤ depth + front.count '{' := by
    intro front
    rw [List.count_cons_self, List.count_cons_of_ne (by decide)]
  simp only [shifted]
  constructor
  · intro counted
    have one := counted [] (List.nil_prefix)
    simp only [List.count_nil] at one
    -- The front without a character already needs a group to close.
    have same : depth = depth - 1 + 1 := by omega
    refine ⟨depth - 1, same, ?_⟩
    intro front fits
    have bound := counted front fits
    omega
  · intro closed front fits
    rcases closed with ⟨outer, same, never⟩
    have bound := never front fits
    omega

theorem never_overclosed_other (depth : Nat) (char : Char) (rest : List Char)
    (opens : char ≠ '{') (closes : char ≠ '}') :
    NeverOverclosed depth (char :: rest) ↔ NeverOverclosed depth rest := by
  rw [never_overclosed_cons]
  simp only [List.count_cons_of_ne opens, List.count_cons_of_ne closes, NeverOverclosed]

theorem open_depth_eq_some_iff (depth left : Nat) (text : List Char) :
    openDepth depth text = some left ↔
      NeverOverclosed depth text ∧ text.count '}' + left = depth + text.count '{' := by
  fun_induction openDepth depth text with
  | case1 depth =>
      simp only [never_overclosed_nil, List.count_nil, Option.some.injEq, true_and]
      omega
  | case2 depth rest induction =>
      rw [induction, never_overclosed_open, List.count_cons_self, List.count_cons_of_ne (by decide)]
      apply and_congr_right
      intro never
      omega
  | case3 rest opens =>
      simp [never_overclosed_close]
  | case4 rest outer opens induction =>
      rw [induction, never_overclosed_close, List.count_cons_self,
        List.count_cons_of_ne (by decide)]
      simp only [Nat.succ_eq_add_one, Nat.add_right_cancel_iff, exists_eq_left']
      apply and_congr_right
      intro never
      omega
  | case5 depth char rest opens closes induction =>
      rw [induction, never_overclosed_other depth char rest opens closes,
        List.count_cons_of_ne opens, List.count_cons_of_ne closes]

theorem balanced_iff (text : List Char) : Balanced text ↔ openDepth 0 text = some 0 := by
  rw [open_depth_eq_some_iff, Balanced]
  apply and_congr_right
  intro never
  omega

theorem balanced_single (char : Char) (opens : char ≠ '{') (closes : char ≠ '}') :
    Balanced [char] := by
  constructor
  · exact (never_overclosed_other 0 char [] opens closes).mpr (never_overclosed_nil 0)
  · rw [List.count_cons_of_ne opens, List.count_cons_of_ne closes]
    rfl

/-- One step of the scan, whatever it does to the depth, as long as no group closes there. -/
private theorem close_group_deeper (depth inner : Nat) (char : Char)
    (rest content after : List Char)
    (sameDepth : ∀ body, openDepth depth (char :: body) = openDepth inner body)
    (staysOpen : char = '}' → depth ≠ 0)
    (closesInside : ∀ body, closeGroup inner rest = some (body, after) ↔
      rest = body ++ '}' :: after ∧ openDepth inner body = some 0) :
    (closeGroup inner rest).map (fun split => (char :: split.1, split.2)) =
        some (content, after) ↔
      char :: rest = content ++ '}' :: after ∧ openDepth depth content = some 0 := by
  constructor
  · intro mapped
    obtain ⟨⟨body, behind⟩, found, pair⟩ := Option.map_eq_some_iff.mp mapped
    cases pair
    obtain ⟨split, closed⟩ := (closesInside body).mp found
    rw [sameDepth, split]
    exact ⟨rfl, closed⟩
  · intro spelled
    rcases spelled with ⟨split, closed⟩
    cases content with
    | nil =>
        have first : char = '}' := (List.cons.inj split).1
        have outermost : depth = 0 := Option.some.inj closed
        exact absurd outermost (staysOpen first)
    | cons first body =>
        obtain ⟨rfl, behind⟩ := List.cons.inj split
        rw [sameDepth] at closed
        rw [(closesInside body).mpr ⟨behind, closed⟩]
        rfl

/-- A group closes at the first brace that has no group of its own to close. -/
theorem close_group_eq_some_iff (depth : Nat) (text content after : List Char) :
    closeGroup depth text = some (content, after) ↔
      text = content ++ '}' :: after ∧ openDepth depth content = some 0 := by
  fun_induction closeGroup depth text generalizing content with
  | case1 depth => simp
  | case2 depth rest induction =>
      exact close_group_deeper depth (depth + 1) '{' rest content after
        (fun body => rfl) (fun brace => absurd brace (by decide)) induction
  | case3 rest opens =>
      constructor
      · intro found
        cases found
        exact ⟨rfl, rfl⟩
      · intro spelled
        rcases spelled with ⟨split, closed⟩
        cases content with
        | nil => rw [(List.cons.inj split).2]
        | cons first body =>
            rw [← (List.cons.inj split).1] at closed
            cases closed
  | case4 rest outer opens induction =>
      exact close_group_deeper (outer + 1) outer '}' rest content after
        (fun body => rfl) (by omega) induction
  | case5 depth char rest opens closes induction =>
      have sameDepth : ∀ body, openDepth depth (char :: body) = openDepth depth body := by
        intro body
        simp only [openDepth, if_neg opens, if_neg closes]
      exact close_group_deeper depth depth char rest content after sameDepth
        (fun brace => absurd brace closes) induction

theorem close_group_eq_none_iff (depth : Nat) (text : List Char) :
    closeGroup depth text = none ↔ NeverOverclosed depth text := by
  fun_induction closeGroup depth text with
  | case1 depth => simp [never_overclosed_nil]
  | case2 depth rest induction => rw [Option.map_eq_none_iff, induction, never_overclosed_open]
  | case3 rest opens => simp [never_overclosed_close]
  | case4 rest outer opens induction =>
      rw [Option.map_eq_none_iff, induction, never_overclosed_close]
      simp
  | case5 depth char rest opens closes induction =>
      rw [Option.map_eq_none_iff, induction, never_overclosed_other depth char rest opens closes]

/-- Where a spelling may stand, `after` being the text behind it: only the end of the text
leaves a group open or a marker without content. -/
def Fits (after : List Char) : Spelling → Prop
  | grouped content => Balanced content
  | unclosed content => NeverOverclosed 0 content ∧ after = []
  | bare char => char ≠ '{'
  | absent => after = []

theorem fits_of_read (text after : List Char) (spelling : Spelling)
    (found : read text = (spelling, after)) : spelling.Fits after := by
  cases text with
  | nil =>
      cases found
      rfl
  | cons char rest =>
      rw [read] at found
      split at found
      case isTrue brace =>
        split at found
        case h_1 content behind closed =>
          cases found
          have inside := ((close_group_eq_some_iff 0 rest content after).mp closed).2
          exact (balanced_iff content).mpr inside
        case h_2 unclosed =>
          cases found
          exact ⟨(close_group_eq_none_iff 0 rest).mp unclosed, rfl⟩
      case isFalse brace =>
        cases found
        exact brace

theorem read_of_fits (spelling : Spelling) (after : List Char) (fits : spelling.Fits after) :
    read (spelling.text ++ after) = (spelling, after) := by
  cases spelling with
  | grouped content =>
      have closed : closeGroup 0 (content ++ '}' :: after) = some (content, after) :=
        (close_group_eq_some_iff 0 _ content after).mpr ⟨rfl, (balanced_iff content).mp fits⟩
      simp [text, read, closed]
  | unclosed content =>
      rcases fits with ⟨never, ended⟩
      subst after
      have stays := (close_group_eq_none_iff 0 content).mpr never
      simp [text, read, stays]
  | bare char =>
      have plain : char ≠ '{' := fits
      simp [text, read, plain]
  | absent =>
      have ended : after = [] := fits
      rw [ended]
      rfl

/-- What is read is the one spelling that fits. -/
theorem read_eq_iff (text after : List Char) (spelling : Spelling) :
    read text = (spelling, after) ↔ text = spelling.text ++ after ∧ spelling.Fits after := by
  constructor
  · intro found
    have whole := read_text text
    rw [found] at whole
    exact ⟨whole.symm, fits_of_read text after spelling found⟩
  · intro spelled
    rw [spelled.1]
    exact read_of_fits spelling after spelled.2

theorem read_fits (text : List Char) : (read text).1.Fits (read text).2 :=
  fits_of_read text (read text).2 (read text).1 rfl

theorem of_content_balanced (content : List Char) (balanced : Balanced content) :
    ofContent content = grouped content := by
  have several : content ≠ ['}'] := by
    intro lone
    rw [lone] at balanced
    exact absurd balanced.2 (by decide)
  rw [ofContent, if_neg several, (balanced_iff content).mp balanced]

theorem of_content_fits_iff (content after : List Char) :
    (ofContent content).Fits after ↔
      content = ['}'] ∨ Balanced content ∨
        NeverOverclosed 0 content ∧ content.count '}' < content.count '{' ∧ after = [] := by
  rw [ofContent]
  split
  case isTrue lone => simp [lone, Fits]
  case isFalse several =>
    simp only [several, false_or]
    split
    case h_1 open? depth =>
      obtain ⟨never, counted⟩ := (open_depth_eq_some_iff 0 (open? + 1) content).mp depth
      have unequal : content.count '{' ≠ content.count '}' := by omega
      have ahead : content.count '}' < content.count '{' := by omega
      simp [Fits, Balanced, never, unequal, ahead]
    case h_2 other =>
      have closed : ¬(NeverOverclosed 0 content ∧ content.count '}' < content.count '{' ∧
          after = []) := by
        intro unclosed
        rcases unclosed with ⟨never, ahead, ended⟩
        exact other (content.count '{' - content.count '}' - 1)
          ((open_depth_eq_some_iff 0 _ content).mpr ⟨never, by omega⟩)
      simp [Fits, closed]

/-- What was read can be written: the chosen spelling fits wherever some spelling does. -/
theorem of_content_fits (spelling : Spelling) (after : List Char) (fits : spelling.Fits after) :
    (ofContent spelling.content).Fits after := by
  rw [of_content_fits_iff]
  cases spelling with
  | grouped content => exact Or.inr (Or.inl fits)
  | unclosed content =>
      rcases fits with ⟨never, ended⟩
      -- An open group whose content turns out balanced is spelled as a closed one.
      have whole := never content (List.prefix_refl content)
      by_cases equal : content.count '{' = content.count '}'
      · exact Or.inr (Or.inl ⟨never, equal⟩)
      · have ahead : content.count '}' < content.count '{' := by omega
        exact Or.inr (Or.inr ⟨never, ahead, ended⟩)
  | bare char =>
      have opens : char ≠ '{' := fits
      by_cases closes : char = '}'
      · exact Or.inl (by rw [closes]; rfl)
      · exact Or.inr (Or.inl (balanced_single char opens closes))
  | absent => exact Or.inr (Or.inl ⟨never_overclosed_nil 0, rfl⟩)

end InlineFormula.Spelling
