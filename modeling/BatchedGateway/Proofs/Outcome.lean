/- Chains of steps that can fail: when such a chain succeeds, and with what. -/

namespace BatchedGateway.Outcome

variable {ε ε' α β : Type}

@[simp] theorem ok_bind (a : α) (f : α → Except ε β) : (Except.ok a >>= f) = f a := rfl

@[simp] theorem error_bind (e : ε) (f : α → Except ε β) :
    ((Except.error e : Except ε α) >>= f) = .error e := rfl

@[simp] theorem mapError_ok (a : α) (f : ε → ε') :
    (Except.ok a : Except ε α).mapError f = .ok a := rfl

@[simp] theorem mapError_error (e : ε) (f : ε → ε') :
    (Except.error e : Except ε α).mapError f = .error (f e) := rfl

theorem bind_eq_ok {x : Except ε α} {f : α → Except ε β} {b : β} :
    (x >>= f) = .ok b ↔ ∃ a, x = .ok a ∧ f a = .ok b := by
  cases x with
  | error e => simp
  | ok a => simp

theorem map_eq_ok {x : Except ε α} {f : α → β} {b : β} :
    x.map f = .ok b ↔ ∃ a, x = .ok a ∧ f a = b := by
  cases x with
  | error e => simp [Except.map]
  | ok a => simp [Except.map]

theorem map_eq_error {x : Except ε α} {f : α → β} {e : ε} :
    x.map f = .error e ↔ x = .error e := by
  cases x with
  | error e' => simp [Except.map]
  | ok a => simp [Except.map]

theorem mapError_eq_ok {x : Except ε α} {f : ε → ε'} {a : α} :
    x.mapError f = .ok a ↔ x = .ok a := by
  cases x with
  | error e => simp
  | ok a => simp

theorem toOption_eq_some {x : Except ε α} {a : α} : x.toOption = some a ↔ x = .ok a := by
  cases x with
  | error e => simp [Except.toOption]
  | ok b => simp [Except.toOption]

theorem exists_eq_ok {σ : Type} {x : Except ε α × σ} (h : x.1.isOk = true) :
    ∃ a, x = (.ok a, x.2) := by
  obtain ⟨result, s⟩ := x
  cases result with
  | error e => cases h
  | ok a => exact ⟨a, rfl⟩

/-- A step that succeeds on all items of a list succeeds on the list. -/
theorem mapM_eq_ok {f : α → Except ε β} {g : α → β} {items : List α}
    (h : ∀ a ∈ items, f a = .ok (g a)) : items.mapM f = .ok (items.map g) := by
  induction items with
  | nil => rfl
  | cons a rest ih =>
      have hrest := ih fun b hb => h b (List.mem_cons_of_mem _ hb)
      rw [List.mapM_cons, h a List.mem_cons_self, ok_bind, hrest, ok_bind]
      rfl

/-- A chain of steps fails at the first step that fails. -/
theorem foldlM_eq_error {f : β → α → Except ε β} {items : List α} {b : β} {e : ε} :
    items.foldlM f b = .error e ↔ ∃ front a back b', items = front ++ a :: back ∧
      front.foldlM f b = .ok b' ∧ f b' a = .error e := by
  induction items generalizing b with
  | nil =>
      constructor
      · intro h
        cases h
      · rintro ⟨front, a, back, b', hitems, -, -⟩
        exact absurd hitems.symm (List.append_ne_nil_of_right_ne_nil _ (List.cons_ne_nil _ _))
  | cons first rest ih =>
      rw [List.foldlM_cons]
      constructor
      · intro h
        cases hfirst : f b first with
        | error e' =>
            rw [hfirst, error_bind] at h
            cases h
            exact ⟨[], first, rest, b, rfl, rfl, hfirst⟩
        | ok next =>
            rw [hfirst, ok_bind] at h
            obtain ⟨front, a, back, b', rfl, hfront, ha⟩ := ih.mp h
            refine ⟨first :: front, a, back, b', rfl, ?_, ha⟩
            rw [List.foldlM_cons, hfirst, ok_bind]
            exact hfront
      · rintro ⟨front, a, back, b', hitems, hfront, ha⟩
        cases front with
        | nil =>
            cases hitems
            cases hfront
            rw [ha, error_bind]
        | cons first front =>
            cases hitems
            rw [List.foldlM_cons] at hfront
            obtain ⟨next, hfirst, hfront⟩ := bind_eq_ok.mp hfront
            rw [hfirst, ok_bind]
            exact ih.mpr ⟨front, a, back, b', rfl, hfront, ha⟩

theorem foldlM_concat_eq_ok {f : β → α → Except ε β} {items : List α} {a : α} {b b' : β} :
    (items ++ [a]).foldlM f b = .ok b' ↔
      ∃ next, items.foldlM f b = .ok next ∧ f next a = .ok b' := by
  rw [List.foldlM_append, bind_eq_ok]
  simp only [List.foldlM_cons, List.foldlM_nil, bind_pure]

end BatchedGateway.Outcome
