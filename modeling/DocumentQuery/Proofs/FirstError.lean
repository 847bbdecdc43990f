import Mathlib.Data.List.Forall2

/-!
# Computations that stop at the first error

What is known of the steps of a computation that ends without an error.

* `bind_eq_ok`, `bind_eq_error` : a computation of two steps succeeds where both do, and fails where
  one does;
* `forM_eq_ok`   : a check of a list succeeds where each item passes;
* `mapM_eq_ok`   : a list succeeds where each item does;
* `mapM_eq_error` : a list fails where an item does that comes after none that fails;
* `mapM_map_eq_ok` : items that are all read give the list of what they are read as;
* `SameError`    : two computations that fail with the same errors;
* `SameResult`   : two computations that succeed with the same results;
* `map_of_mapM`  : what is read off the results of a list can be read off its items, and so can
  whether all of them or some have a property (`all_of_mapM`, `any_of_mapM`).
-/

namespace DocumentQuery

variable {ε α β γ δ : Type}

theorem bind_eq_ok {x : Except ε α} {f : α → Except ε β} {b : β} :
    (x >>= f) = .ok b ↔ ∃ a, x = .ok a ∧ f a = .ok b := by
  cases x with
  | error e => simp [bind, Except.bind]
  | ok a => simp [bind, Except.bind]

theorem bind_eq_error {x : Except ε α} {f : α → Except ε β} {e : ε} :
    (x >>= f) = .error e ↔ x = .error e ∨ ∃ a, x = .ok a ∧ f a = .error e := by
  cases x with
  | error e' => simp [bind, Except.bind]
  | ok a => simp [bind, Except.bind]

theorem exists_eq_ok_iff {x : Except ε α} : (∃ a, x = .ok a) ↔ ∀ e, x ≠ .error e := by
  cases x <;> simp

theorem map_eq_ok {x : Except ε α} {f : α → β} {b : β} :
    x.map f = .ok b ↔ ∃ a, x = .ok a ∧ f a = b := by
  cases x <;> simp [Except.map]

theorem map_eq_error {x : Except ε α} {f : α → β} {e : ε} :
    x.map f = .error e ↔ x = .error e := by
  cases x <;> simp [Except.map]

theorem forM_eq_ok {f : α → Except ε Unit} {xs : List α} :
    xs.forM f = .ok () ↔ ∀ x ∈ xs, f x = .ok () := by
  induction xs with
  | nil => simp [pure, Except.pure]
  | cons x xs ih =>
    rw [List.forM_eq_forM] at ih ⊢
    rw [List.forM_cons, bind_eq_ok, List.forall_mem_cons]
    constructor
    · rintro ⟨_, hx, hxs⟩
      exact ⟨hx, ih.1 hxs⟩
    · rintro ⟨hx, hxs⟩
      exact ⟨(), hx, ih.2 hxs⟩

theorem mapM_cons_eq_ok {f : α → Except ε β} {x : α} {xs : List α} {ys : List β} :
    (x :: xs).mapM f = .ok ys ↔ ∃ z zs, f x = .ok z ∧ xs.mapM f = .ok zs ∧ ys = z :: zs := by
  rw [List.mapM_cons, bind_eq_ok]
  constructor
  · rintro ⟨z, hz, h⟩
    obtain ⟨zs, hzs, h⟩ := bind_eq_ok.1 h
    cases h
    exact ⟨z, zs, hz, hzs, rfl⟩
  · rintro ⟨z, zs, hz, hzs, rfl⟩
    exact ⟨z, hz, bind_eq_ok.2 ⟨zs, hzs, rfl⟩⟩

/-- A list succeeds where each item does, with the list of their results. -/
theorem mapM_eq_ok {f : α → Except ε β} {xs : List α} {ys : List β} :
    xs.mapM f = .ok ys ↔ List.Forall₂ (fun x y => f x = .ok y) xs ys := by
  induction xs generalizing ys with
  | nil =>
    rw [List.forall₂_nil_left_iff]
    constructor
    · intro h
      cases h
      rfl
    · rintro rfl
      rfl
  | cons x xs ih =>
    rw [mapM_cons_eq_ok, List.forall₂_cons_left_iff]
    constructor
    · rintro ⟨z, zs, hz, hzs, rfl⟩
      exact ⟨z, zs, hz, ih.1 hzs, rfl⟩
    · rintro ⟨z, zs, hz, hzs, rfl⟩
      exact ⟨z, zs, hz, ih.2 hzs, rfl⟩

section Pairs

variable {R : α → β → Prop} {xs : List α} {ys : List β}

theorem exists_right_of_mem (h : List.Forall₂ R xs ys) {x : α} (hx : x ∈ xs) :
    ∃ y ∈ ys, R x y := by
  induction h with
  | nil => cases hx
  | cons hxy _ ih =>
    rcases List.mem_cons.1 hx with rfl | hx
    · exact ⟨_, List.mem_cons_self, hxy⟩
    · obtain ⟨y, hy, hR⟩ := ih hx
      exact ⟨y, List.mem_cons_of_mem _ hy, hR⟩

theorem exists_left_of_mem (h : List.Forall₂ R xs ys) {y : β} (hy : y ∈ ys) : ∃ x ∈ xs, R x y :=
  exists_right_of_mem h.flip hy

end Pairs

/-- An error in a list is the one of an item whose predecessors have none. -/
theorem mapM_eq_error {f : α → Except ε β} {xs : List α} {e : ε} :
    xs.mapM f = .error e ↔
      ∃ before x after, xs = before ++ x :: after ∧ (∀ y ∈ before, ∃ z, f y = .ok z) ∧
        f x = .error e := by
  induction xs with
  | nil =>
    constructor
    · intro h
      cases h
    · rintro ⟨before, x, after, h, _, _⟩
      simp at h
  | cons x xs ih =>
    rw [List.mapM_cons, bind_eq_error]
    constructor
    · rintro (hx | ⟨z, hz, h⟩)
      · exact ⟨[], x, xs, rfl, by simp, hx⟩
      · rcases bind_eq_error.1 h with hxs | ⟨_, _, h⟩
        · obtain ⟨before, y, after, rfl, hbefore, hy⟩ := ih.1 hxs
          exact ⟨x :: before, y, after, rfl, List.forall_mem_cons.2 ⟨⟨z, hz⟩, hbefore⟩, hy⟩
        · cases h
    · rintro ⟨before, y, after, hsplit, hbefore, hy⟩
      cases before with
      | nil =>
        cases hsplit
        exact .inl hy
      | cons b before =>
        cases hsplit
        obtain ⟨⟨z, hz⟩, hbefore⟩ := List.forall_mem_cons.1 hbefore
        refine .inr ⟨z, hz, bind_eq_error.2 (.inl ?_)⟩
        exact ih.2 ⟨before, y, after, rfl, hbefore, hy⟩

/-- An error in a list is one of an item. -/
theorem exists_of_mapM_error {f : α → Except ε β} {xs : List α} {e : ε}
    (h : xs.mapM f = .error e) : ∃ x ∈ xs, f x = .error e := by
  obtain ⟨before, x, after, rfl, _, hx⟩ := mapM_eq_error.1 h
  exact ⟨x, by simp, hx⟩

/-- A list fails if some item does. -/
theorem exists_mapM_eq_error {f : α → Except ε β} {xs : List α} :
    (∃ e, xs.mapM f = .error e) ↔ ∃ x ∈ xs, ∃ e, f x = .error e := by
  constructor
  · rintro ⟨e, h⟩
    obtain ⟨x, hx, herror⟩ := exists_of_mapM_error h
    exact ⟨x, hx, e, herror⟩
  · rintro ⟨x, hx, e, herror⟩
    cases hresult : xs.mapM f with
    | error e' => exact ⟨e', rfl⟩
    | ok ys =>
      obtain ⟨y, -, hy⟩ := exists_right_of_mem (mapM_eq_ok.1 hresult) hx
      rw [herror] at hy
      cases hy

theorem mapM_congr {f g : α → Except ε β} {xs : List α} (h : ∀ x ∈ xs, f x = g x) :
    xs.mapM f = xs.mapM g := by
  induction xs with
  | nil => rfl
  | cons x xs ih =>
    obtain ⟨hx, hxs⟩ := List.forall_mem_cons.1 h
    rw [List.mapM_cons, List.mapM_cons, hx, ih hxs]

/-- Items that are all read give the list of what they are read as. -/
theorem mapM_map_eq_ok {read : β → Except ε γ} {source : α → β} {result : α → γ} {xs : List α}
    (h : ∀ x ∈ xs, read (source x) = .ok (result x)) :
    (xs.map source).mapM read = .ok (xs.map result) := by
  induction xs with
  | nil => rfl
  | cons x xs ih =>
    obtain ⟨hx, hxs⟩ := List.forall_mem_cons.1 h
    exact mapM_cons_eq_ok.2 ⟨_, _, hx, ih hxs, rfl⟩

/-- A list succeeds if each item does. -/
theorem exists_mapM_eq_ok {f : α → Except ε β} {xs : List α} :
    (∃ ys, xs.mapM f = .ok ys) ↔ ∀ x ∈ xs, ∃ y, f x = .ok y := by
  simp only [exists_eq_ok_iff, ← not_exists, exists_mapM_eq_error]
  push Not
  rfl

/-- A property of a result that its item has too may be read off the items. -/
theorem map_of_mapM {f : α → Except ε β} {p : β → γ} {q : α → γ} {xs : List α} {ys : List β}
    (h : xs.mapM f = .ok ys) (hpq : ∀ x ∈ xs, ∀ y, f x = .ok y → p y = q x) :
    ys.map p = xs.map q := by
  induction xs generalizing ys with
  | nil =>
    cases h
    rfl
  | cons x xs ih =>
    obtain ⟨z, zs, hz, hzs, rfl⟩ := mapM_cons_eq_ok.1 h
    have htail := ih hzs fun y hy => hpq y (List.mem_cons_of_mem _ hy)
    rw [List.map_cons, List.map_cons, hpq x (by simp) z hz, htail]

/-! ## Computations with the same errors -/

/-- Both computations fail with the same error, or both succeed. -/
def SameError (first : Except ε α) (second : Except ε β) : Prop :=
  ∀ e, first = .error e ↔ second = .error e

namespace SameError

theorem refl (computation : Except ε α) : SameError computation computation := fun _ => Iff.rfl

theorem symm {first : Except ε α} {second : Except ε β} (h : SameError first second) :
    SameError second first :=
  fun e => (h e).symm

theorem trans {first : Except ε α} {second : Except ε β} {third : Except ε γ}
    (h : SameError first second) (hnext : SameError second third) : SameError first third :=
  fun e => (h e).trans (hnext e)

theorem exists_ok {first : Except ε α} {second : Except ε β} (h : SameError first second) :
    (∃ a, first = .ok a) ↔ ∃ b, second = .ok b := by
  rw [exists_eq_ok_iff, exists_eq_ok_iff]
  exact forall_congr' fun e => not_congr (h e)

/-- Computations in two steps, of which the second ones do not depend on the results of the
first. -/
theorem bind {first : Except ε α} {second : Except ε β} {rest : α → Except ε γ}
    {others : β → Except ε δ} (h : SameError first second)
    (hrest : ∀ a b, SameError (rest a) (others b)) :
    SameError (first >>= rest) (second >>= others) := by
  cases first with
  | error e =>
    have hsecond := (h e).1 rfl
    rw [hsecond]
    intro e'
    simp [Bind.bind, Except.bind]
  | ok a =>
    obtain ⟨b, hsecond⟩ := h.exists_ok.1 ⟨a, rfl⟩
    rw [hsecond]
    exact hrest a b

theorem ok (a : α) (b : β) : SameError (.ok a : Except ε α) (.ok b) := by
  intro e
  simp

theorem mapM {f : α → Except ε β} {g : α → Except ε γ} {xs : List α}
    (h : ∀ x ∈ xs, SameError (f x) (g x)) : SameError (xs.mapM f) (xs.mapM g) := by
  induction xs with
  | nil => exact ok _ _
  | cons x xs ih =>
    obtain ⟨hx, hxs⟩ := List.forall_mem_cons.1 h
    rw [List.mapM_cons, List.mapM_cons]
    exact hx.bind fun _ _ => (ih hxs).bind fun _ _ => ok _ _

/-- A last step that cannot fail makes no difference. -/
theorem then_ok {first : Except ε α} {second : Except ε β} {f : α → γ}
    (h : SameError first second) :
    SameError (first >>= fun a => .ok (f a)) second := by
  intro e
  rw [bind_eq_error, ← h e]
  simp

/-- A list fails as the parts of its items do, one after the other. -/
theorem mapM_flatMap {f : α → Except ε β} {parts : α → List γ} {g : γ → Except ε δ} {xs : List α}
    (h : ∀ x ∈ xs, SameError (f x) ((parts x).mapM g)) :
    SameError (xs.mapM f) ((xs.flatMap parts).mapM g) := by
  induction xs with
  | nil => exact ok _ _
  | cons x xs ih =>
    obtain ⟨hx, hxs⟩ := List.forall_mem_cons.1 h
    rw [List.mapM_cons, List.flatMap_cons, List.mapM_append]
    exact hx.bind fun _ _ => (ih hxs).bind fun _ _ => ok _ _

end SameError

/-! ## Computations with the same results -/

/-- Both computations succeed with the same result, or both fail. -/
def SameResult (first second : Except ε α) : Prop := ∀ result, first = .ok result ↔ second = .ok result

namespace SameResult

theorem refl (computation : Except ε α) : SameResult computation computation := fun _ => Iff.rfl

theorem of_errors (first second : ε) : SameResult (.error first : Except ε α) (.error second) := by
  intro result
  simp

theorem bind {first second : Except ε α} {rest others : α → Except ε β}
    (h : SameResult first second) (hrest : ∀ result, SameResult (rest result) (others result)) :
    SameResult (first >>= rest) (second >>= others) := by
  intro result
  rw [bind_eq_ok, bind_eq_ok]
  constructor
  · rintro ⟨a, ha, hresult⟩
    exact ⟨a, (h a).1 ha, (hrest a result).1 hresult⟩
  · rintro ⟨a, ha, hresult⟩
    exact ⟨a, (h a).2 ha, (hrest a result).2 hresult⟩

theorem mapM {R : α → β → Prop} {xs : List α} {ys : List β} {f : α → Except ε γ}
    {g : β → Except ε γ} (h : List.Forall₂ R xs ys)
    (hR : ∀ x ∈ xs, ∀ y, R x y → SameResult (f x) (g y)) :
    SameResult (xs.mapM f) (ys.mapM g) := by
  induction h with
  | nil => exact refl _
  | cons hxy _ ih =>
    obtain ⟨hx, hxs⟩ := List.forall_mem_cons.1 hR
    rw [List.mapM_cons, List.mapM_cons]
    exact (hx _ hxy).bind fun z => (ih hxs).bind fun zs => refl _

end SameResult

section Truth

variable {f : α → Except ε β} {p : β → Bool} {q : α → Bool} {xs : List α} {ys : List β}

theorem all_of_mapM (h : xs.mapM f = .ok ys) (hpq : ∀ x ∈ xs, ∀ y, f x = .ok y → p y = q x) :
    ys.all p = xs.all q := by
  have hmap := map_of_mapM h hpq
  calc ys.all p = (ys.map p).all id := by rw [List.all_map]; rfl
    _ = (xs.map q).all id := by rw [hmap]
    _ = xs.all q := by rw [List.all_map]; rfl

theorem any_of_mapM (h : xs.mapM f = .ok ys) (hpq : ∀ x ∈ xs, ∀ y, f x = .ok y → p y = q x) :
    ys.any p = xs.any q := by
  have hmap := map_of_mapM h hpq
  calc ys.any p = (ys.map p).any id := by rw [List.any_map]; rfl
    _ = (xs.map q).any id := by rw [hmap]
    _ = xs.any q := by rw [List.any_map]; rfl

theorem isEmpty_of_mapM (h : xs.mapM f = .ok ys) : ys.isEmpty = xs.isEmpty := by
  have hmap := map_of_mapM (p := fun _ => ()) (q := fun _ => ()) h fun _ _ _ _ => rfl
  have hlength := congrArg List.length hmap
  rw [List.length_map, List.length_map] at hlength
  rw [Bool.eq_iff_iff, List.isEmpty_iff_length_eq_zero, List.isEmpty_iff_length_eq_zero, hlength]

end Truth

end DocumentQuery
