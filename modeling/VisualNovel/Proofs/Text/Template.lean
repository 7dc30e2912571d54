import VisualNovel.Text.Template

/-!
# Filling a template, step by step

Filling takes a step for each plain character, for two percent signs and for a directive with its
argument. It has succeeded when arguments and template are used up together, and fails where no step
can be taken. So what filling gives is known from the place that the steps lead to.
-/
namespace VisualNovel.Text.Template

/-- The arguments that have not been used and the template that has not been read. -/
structure Place where
  args : List Argument
  template : List Char

/-- A step, and what it writes, where there is `room` for less than so many characters. -/
inductive Step (room : Nat) : Place → List Char → Place → Prop where
  | percent {args rest} : Step room ⟨args, '%' :: '%' :: rest⟩ ['%'] ⟨args, rest⟩
  | plain {args c rest} (other : c ≠ '%') : Step room ⟨args, c :: rest⟩ [c] ⟨args, rest⟩
  | directive {args s d a left letter rest text} (opens : s.head? ≠ some '%')
      (taken : takeDirective args s = .ok (d, a :: left, letter :: rest))
      (shown : showArgument room d letter a = .ok text) :
      Step room ⟨args, '%' :: s⟩ text ⟨left, rest⟩

/-- Steps one after the other, and all that they write. -/
inductive Reaches (room : Nat) : Place → List Char → Place → Prop where
  | here {x} : Reaches room x [] x
  | step {x y z text out} (first : Step room x text y) (others : Reaches room y out z) :
      Reaches room x (text ++ out) z

/-- Where no step can be taken and something is left: arguments that nothing shows, or a directive that
cannot be read, has no argument or cannot show it. -/
inductive Stuck (room : Nat) : Place → Problem → Prop where
  | unused {a left} : Stuck room ⟨a :: left, []⟩ .mismatch
  | unread {args s p} (opens : s.head? ≠ some '%') (refused : takeDirective args s = .error p) :
      Stuck room ⟨args, '%' :: s⟩ p
  | incomplete {args s d left rest} (opens : s.head? ≠ some '%')
      (taken : takeDirective args s = .ok (d, left, rest)) (missing : left = [] ∨ rest = []) :
      Stuck room ⟨args, '%' :: s⟩ .mismatch
  | unshown {args s d a left letter rest p} (opens : s.head? ≠ some '%')
      (taken : takeDirective args s = .ok (d, a :: left, letter :: rest))
      (refused : showArgument room d letter a = .error p) : Stuck room ⟨args, '%' :: s⟩ p

/-! ## What a directive takes -/

section

variable {α β : Type} {u : Except Problem α} {k : α → Except Problem β} {b : β} {q : Problem}

theorem bind_eq_ok_iff : u >>= k = .ok b ↔ ∃ a, u = .ok a ∧ k a = .ok b := by
  cases u <;> simp [bind, Except.bind]

theorem bind_eq_error_iff : u >>= k = .error q ↔ u = .error q ∨ ∃ a, u = .ok a ∧ k a = .error q := by
  cases u <;> simp [bind, Except.bind]

end

variable {args left : List Argument} {s rest : List Char} {text out : List Char} {p : Problem}
  {d d' : Directive} {a : Argument} {x y z : Place} {room n limit : Nat} {e e' : RangeError} {i : Int}

theorem takeFlags_suffix (f : Flags) (s : List Char) : (takeFlags f s).2 <:+ s := by
  fun_induction takeFlags f s with
  | case1 f r ih => exact ih.trans (List.suffix_cons _ _)
  | case2 f r ih => exact ih.trans (List.suffix_cons _ _)
  | case3 f r ih => exact ih.trans (List.suffix_cons _ _)
  | case4 f r ih => exact ih.trans (List.suffix_cons _ _)
  | case5 f r ih => exact ih.trans (List.suffix_cons _ _)
  | case6 f r => exact List.suffix_rfl

theorem dropSize_suffix (s : List Char) : dropSize s <:+ s := by
  unfold dropSize
  split
  · exact List.suffix_cons _ _
  · exact List.suffix_cons _ _
  · exact List.suffix_cons _ _
  · exact List.suffix_rfl

/-- An integer that a star cannot take. -/
def Beyond (limit : Nat) (i : Int) : Prop :=
  (limit : Int) ≤ i ∨ i < -(limit : Int)

instance : Decidable (Beyond limit i) :=
  inferInstanceAs (Decidable (_ ∨ _))

theorem takeCount_cons (h : a.integer? = some i) :
    takeCount limit e (a :: args) = if Beyond limit i then .error (.range e) else .ok (i, args) := by
  simp only [takeCount, h, Bool.or_eq_true, decide_eq_true_eq]
  rfl

theorem takeCount_eq_ok (h : takeCount limit e args = .ok (i, left)) :
    ∃ a, args = a :: left ∧ a.integer? = some i ∧ ¬Beyond limit i := by
  cases args with
  | nil => cases h
  | cons a args =>
    cases ha : a.integer? with
    | none => simp [takeCount, ha] at h
    | some j =>
      rw [takeCount_cons ha] at h
      split at h
      · cases h
      · next inside =>
        cases h
        exact ⟨a, rfl, ha, inside⟩

theorem takeCount_eq_range_iff : takeCount limit e args = .error (.range e') ↔
    ∃ a left i, args = a :: left ∧ a.integer? = some i ∧ Beyond limit i ∧ e' = e := by
  constructor
  · intro h
    cases args with
    | nil => cases h
    | cons a args =>
      cases ha : a.integer? with
      | none => simp [takeCount, ha] at h
      | some j =>
        rw [takeCount_cons ha] at h
        split at h
        · next beyond =>
          cases h
          exact ⟨a, args, j, rfl, ha, beyond, rfl⟩
        · cases h
  · rintro ⟨a, left, i, rfl, ha, beyond, rfl⟩
    rw [takeCount_cons ha, if_pos beyond]

theorem takeNumber_eq_ok (h : takeNumber limit s = .ok (n, rest)) :
    ∃ digits, digits.all isAsciiDigit = true ∧ s = digits ++ rest ∧
      n = ofDigits 10 (digits.map fun c => c.toNat - 48) := by
  rw [takeNumber] at h
  split at h
  · cases h
  · cases h
    exact ⟨s.takeWhile isAsciiDigit, List.all_takeWhile, List.takeWhile_append_dropWhile.symm, rfl⟩

theorem takeNumber_ne_range : takeNumber limit s ≠ .error (.range e) := by
  rw [takeNumber]
  split <;> simp

/-- What is read as a width: nothing, a star with its argument, or digits. -/
theorem takeWidth_cases (h : takeWidth d args s = .ok (d', left, rest)) :
    (d' = d ∧ left = args ∧ rest = s) ∨
    (∃ a i flags, args = a :: left ∧ a.integer? = some i ∧ s = '*' :: rest ∧ d' = { d with
      flags, width := some (if i.natAbs = sizeLimit then 0 else i.natAbs) }) ∨
    ∃ digits, digits.all isAsciiDigit = true ∧ left = args ∧ s = digits ++ rest ∧
      d' = { d with width := some (ofDigits 10 (digits.map fun c => c.toNat - 48)) } := by
  unfold takeWidth at h
  split at h
  · next r =>
    obtain ⟨⟨i, left'⟩, taken, read⟩ := bind_eq_ok_iff.1 h
    obtain ⟨a, rfl, ha, -⟩ := takeCount_eq_ok taken
    cases read
    exact Or.inr (Or.inl ⟨a, i, _, rfl, ha, rfl, rfl⟩)
  · next c r _ =>
    split at h
    · obtain ⟨⟨n, r'⟩, taken, read⟩ := bind_eq_ok_iff.1 h
      obtain ⟨digits, hdigits, hs, rfl⟩ := takeNumber_eq_ok taken
      cases read
      exact Or.inr (Or.inr ⟨digits, hdigits, rfl, hs, rfl⟩)
    · cases h
      exact Or.inl ⟨rfl, rfl, rfl⟩
  · cases h
    exact Or.inl ⟨rfl, rfl, rfl⟩

/-- What is read as a precision: nothing, a point and a star with its argument, or a point and
digits. -/
theorem takePrecision_cases (h : takePrecision d args s = .ok (d', left, rest)) :
    (d' = d ∧ left = args ∧ rest = s) ∨
    (∃ a i, args = a :: left ∧ a.integer? = some i ∧ s = '.' :: '*' :: rest ∧
      d' = { d with precision := some i.toNat }) ∨
    ∃ digits, digits.all isAsciiDigit = true ∧ left = args ∧ s = '.' :: (digits ++ rest) ∧
      d' = { d with precision := some (ofDigits 10 (digits.map fun c => c.toNat - 48)) } := by
  unfold takePrecision at h
  split at h
  · next r =>
    obtain ⟨⟨i, left'⟩, taken, read⟩ := bind_eq_ok_iff.1 h
    obtain ⟨a, rfl, ha, -⟩ := takeCount_eq_ok taken
    cases read
    exact Or.inr (Or.inl ⟨a, i, rfl, ha, rfl, rfl⟩)
  · next r _ =>
    obtain ⟨⟨n, r'⟩, taken, read⟩ := bind_eq_ok_iff.1 h
    obtain ⟨digits, hdigits, rfl, rfl⟩ := takeNumber_eq_ok taken
    cases read
    exact Or.inr (Or.inr ⟨digits, hdigits, rfl, rfl, rfl⟩)
  · cases h
    exact Or.inl ⟨rfl, rfl, rfl⟩

/-- A directive is read as flags, a width, a precision and a letter for the size. -/
theorem takeDirective_eq_ok_iff : takeDirective args s = .ok (d', left, rest) ↔
    ∃ d args' r' r'', takeWidth { flags := (takeFlags {} s).1 } args (takeFlags {} s).2 =
        .ok (d, args', r') ∧
      takePrecision d args' r' = .ok (d', left, r'') ∧ dropSize r'' = rest := by
  simp only [takeDirective, bind_eq_ok_iff, pure, Except.pure]
  constructor
  · rintro ⟨⟨d, args', r'⟩, width, ⟨d'', left', r''⟩, precision, h⟩
    cases h
    exact ⟨d, args', r', r'', width, precision, rfl⟩
  · rintro ⟨d, args', r', r'', width, precision, rfl⟩
    exact ⟨(d, args', r'), width, (d', left, r''), precision, rfl⟩

theorem takeWidth_suffix (h : takeWidth d args s = .ok (d', left, rest)) :
    left <:+ args ∧ rest <:+ s := by
  obtain ⟨-, rfl, rfl⟩ | ⟨a, i, flags, rfl, -, rfl, -⟩ | ⟨digits, -, rfl, rfl, -⟩ := takeWidth_cases h
  · exact ⟨List.suffix_rfl, List.suffix_rfl⟩
  · exact ⟨List.suffix_cons _ _, List.suffix_cons _ _⟩
  · exact ⟨List.suffix_rfl, List.suffix_append _ _⟩

theorem takePrecision_suffix (h : takePrecision d args s = .ok (d', left, rest)) :
    left <:+ args ∧ rest <:+ s := by
  obtain ⟨-, rfl, rfl⟩ | ⟨a, i, rfl, -, rfl, -⟩ | ⟨digits, -, rfl, rfl, -⟩ := takePrecision_cases h
  · exact ⟨List.suffix_rfl, List.suffix_rfl⟩
  · exact ⟨List.suffix_cons _ _, (List.suffix_cons _ _).trans (List.suffix_cons _ _)⟩
  · exact ⟨List.suffix_rfl, (List.suffix_append _ _).trans (List.suffix_cons _ _)⟩

theorem takeDirective_suffix (h : takeDirective args s = .ok (d', left, rest)) :
    left <:+ args ∧ rest <:+ s := by
  obtain ⟨d, args', r', r'', width, precision, rfl⟩ := takeDirective_eq_ok_iff.1 h
  have hwidth := takeWidth_suffix width
  have hprecision := takePrecision_suffix precision
  exact ⟨hprecision.1.trans hwidth.1, (dropSize_suffix r'').trans
    (hprecision.2.trans (hwidth.2.trans (takeFlags_suffix {} s)))⟩

/-! ## Where filling leads -/

theorem Step.shorter (h : Step room x text y) : y.template.length < x.template.length := by
  cases h with
  | percent => exact Nat.lt_succ_of_lt (Nat.lt_succ_self _)
  | plain other => exact Nat.lt_succ_self _
  | directive opens taken shown =>
    have := (takeDirective_suffix taken).2.length_le
    simp only [List.length_cons] at this ⊢
    omega

theorem not_percent (opens : s.head? ≠ some '%') : ∀ r, s = '%' :: r → False := by
  rintro r rfl
  exact opens rfl

/-- What a step writes comes before what filling the rest gives. -/
theorem Step.fillFrom_eq (h : Step room x text y) (n : Nat) :
    fillFrom room (n + 1) x.args x.template = (fillFrom room n y.args y.template).map (text ++ ·) := by
  cases h with
  | percent => rw [fillFrom]; rfl
  | plain other =>
    rw [fillFrom.eq_6 _ _ _ _ _ (fun _ hc _ => other hc) other]
    rfl
  | directive opens taken shown =>
    rw [fillFrom.eq_5 _ _ _ _ (not_percent opens), taken]
    simp only [bind, Except.bind, shown]
    rfl

theorem Stuck.fillFrom_eq (h : Stuck room x p) (n : Nat) :
    fillFrom room (n + 1) x.args x.template = .error p := by
  cases h with
  | unused => rfl
  | unread opens refused =>
    rw [fillFrom.eq_5 _ _ _ _ (not_percent opens), refused]
    rfl
  | incomplete opens taken missing =>
    rw [fillFrom.eq_5 _ _ _ _ (not_percent opens), taken]
    obtain rfl | rfl := missing
    · simp only [bind, Except.bind]
    · rfl
  | unshown opens taken refused =>
    rw [fillFrom.eq_5 _ _ _ _ (not_percent opens), taken]
    simp only [bind, Except.bind, refused]

/-- At any place filling is done, is stuck or takes a step. -/
theorem done_or_stuck_or_step (room : Nat) (x : Place) :
    x = ⟨[], []⟩ ∨ (∃ p, Stuck room x p) ∨ ∃ text y, Step room x text y := by
  obtain ⟨args, s⟩ := x
  cases s with
  | nil =>
    cases args with
    | nil => exact Or.inl rfl
    | cons a left => exact Or.inr (Or.inl ⟨_, .unused⟩)
  | cons c s =>
    by_cases other : c = '%'
    · subst other
      by_cases opens : s.head? = some '%'
      · obtain ⟨rest, rfl⟩ := List.head?_eq_some_iff.1 opens
        exact Or.inr (Or.inr ⟨_, _, .percent⟩)
      · cases taken : takeDirective args s with
        | error p => exact Or.inr (Or.inl ⟨p, .unread opens taken⟩)
        | ok t =>
          obtain ⟨d, left, rest⟩ := t
          match left, rest with
          | [], _ => exact Or.inr (Or.inl ⟨_, .incomplete opens taken (Or.inl rfl)⟩)
          | _ :: _, [] => exact Or.inr (Or.inl ⟨_, .incomplete opens taken (Or.inr rfl)⟩)
          | a :: left, letter :: rest =>
            cases shown : showArgument room d letter a with
            | error p => exact Or.inr (Or.inl ⟨p, .unshown opens taken shown⟩)
            | ok text => exact Or.inr (Or.inr ⟨text, _, .directive opens taken shown⟩)
    · exact Or.inr (Or.inr ⟨_, _, .plain other⟩)

/-- Steps lead from every place to the end or to where filling is stuck. -/
theorem exists_reaches (room : Nat) (x : Place) :
    ∃ out y, Reaches room x out y ∧ (y = ⟨[], []⟩ ∨ ∃ p, Stuck room y p) := by
  induction h : x.template.length using Nat.strongRecOn generalizing x with
  | ind n ih =>
    obtain done | stuck | ⟨text, y, step⟩ := done_or_stuck_or_step room x
    · exact ⟨[], x, .here, Or.inl done⟩
    · exact ⟨[], x, .here, Or.inr stuck⟩
    · obtain ⟨out, z, reaches, ends⟩ := ih _ (h ▸ step.shorter) y rfl
      exact ⟨text ++ out, z, .step step reaches, ends⟩

/-- If the bound on the work exceeds the length of the template, so it does at every place that the
steps lead to. -/
theorem Reaches.fillFrom_eq (h : Reaches room x out y) (hn : x.template.length < n) :
    ∃ m, y.template.length < m ∧
      fillFrom room n x.args x.template = (fillFrom room m y.args y.template).map (out ++ ·) := by
  induction h generalizing n with
  | @here x => exact ⟨n, hn, by cases fillFrom room n x.args x.template <;> rfl⟩
  | @step x y z text out first others ih =>
    obtain _ | n := n
    · exact absurd hn (Nat.not_lt_zero _)
    · obtain ⟨m, hm, heq⟩ := ih (n := n) (by have := first.shorter; omega)
      refine ⟨m, hm, ?_⟩
      rw [first.fillFrom_eq, heq]
      cases fillFrom room m z.args z.template <;> simp [Except.map]

variable {template filled : String}

theorem Reaches.fill_eq (h : Reaches room ⟨args, template.toList⟩ out y) :
    ∃ m, fill room template args =
      ((fillFrom room (m + 1) y.args y.template).map (out ++ ·)).map String.ofList := by
  have enough : template.toList.length < template.length + 1 := by
    rw [String.length_toList]
    exact Nat.lt_succ_self _
  obtain ⟨_ | m, hm, heq⟩ := h.fillFrom_eq enough
  · exact absurd hm (Nat.not_lt_zero _)
  · exact ⟨m, by rw [fill, ← heq]⟩

theorem fill_of_done (h : Reaches room ⟨args, template.toList⟩ out ⟨[], []⟩) :
    fill room template args = .ok (String.ofList out) := by
  obtain ⟨m, heq⟩ := h.fill_eq
  rw [heq, fillFrom]
  simp [Except.map]

theorem fill_of_stuck (h : Reaches room ⟨args, template.toList⟩ out y) (stuck : Stuck room y p) :
    fill room template args = .error p := by
  obtain ⟨m, heq⟩ := h.fill_eq
  rw [heq, stuck.fillFrom_eq]
  rfl

/-- A template is filled with what the steps write on the way to its end. -/
theorem fill_eq_ok_iff : fill room template args = .ok filled ↔
    Reaches room ⟨args, template.toList⟩ filled.toList ⟨[], []⟩ := by
  constructor
  · intro h
    obtain ⟨out, y, reaches, rfl | ⟨p, stuck⟩⟩ := exists_reaches room ⟨args, template.toList⟩
    · rw [fill_of_done reaches] at h
      rwa [← Except.ok.inj h, String.toList_ofList]
    · rw [fill_of_stuck reaches stuck] at h
      cases h
  · intro h
    rw [fill_of_done h, String.ofList_toList]

/-- A template cannot be filled if the steps lead to where filling is stuck. -/
theorem fill_eq_error_iff : fill room template args = .error p ↔
    ∃ out y, Reaches room ⟨args, template.toList⟩ out y ∧ Stuck room y p := by
  constructor
  · intro h
    obtain ⟨out, y, reaches, rfl | ⟨q, stuck⟩⟩ := exists_reaches room ⟨args, template.toList⟩
    · rw [fill_of_done reaches] at h
      cases h
    · rw [fill_of_stuck reaches stuck] at h
      cases h
      exact ⟨out, y, reaches, stuck⟩
  · rintro ⟨out, y, reaches, stuck⟩
    exact fill_of_stuck reaches stuck

end VisualNovel.Text.Template
