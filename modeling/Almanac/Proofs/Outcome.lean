import Mathlib.Data.List.Forall2
import Almanac.Calendar.Arithmetic
/-!
# Outcomes taken apart

Every calculation of this library answers in `Except`: a value or a fault.  A proof about a value
begins by asking what the steps before it gave, and the equivalences below are that question, one
for each way in which a calculation is put together.
-/

namespace Almanac

section Outcome

variable {ε ε' α β : Type}

theorem bind_eq_ok {x : Except ε α} {f : α → Except ε β} {b : β} :
    (x >>= f) = .ok b ↔ ∃ a, x = .ok a ∧ f a = .ok b := by
  cases x with
  | error e => exact ⟨fun h => (nomatch h), fun ⟨_, h, _⟩ => nomatch h⟩
  | ok a =>
      constructor
      · intro h
        exact ⟨a, rfl, h⟩
      · rintro ⟨a', h, hf⟩
        cases h
        exact hf

theorem map_eq_ok {x : Except ε α} {f : α → β} {b : β} :
    x.map f = .ok b ↔ ∃ a, x = .ok a ∧ f a = b := by
  cases x with
  | error e => simp [Except.map]
  | ok a => simp [Except.map]

theorem mapError_eq_ok {x : Except ε α} {f : ε → ε'} {a : α} :
    x.mapError f = .ok a ↔ x = .ok a := by
  cases x with
  | error e => constructor <;> intro h <;> cases h
  | ok a' =>
      constructor
      · intro h
        cases h
        rfl
      · intro h
        cases h
        rfl

/-- A sequence fails at its first step, or at its second with what the first one gave. -/
theorem bind_eq_error {x : Except ε α} {f : α → Except ε β} {e : ε} :
    (x >>= f) = .error e ↔ x = .error e ∨ ∃ a, x = .ok a ∧ f a = .error e := by
  cases x with
  | error e' =>
      constructor
      · intro h
        cases h
        exact Or.inl rfl
      · rintro (h | ⟨_, h, _⟩)
        · cases h
          rfl
        · cases h
  | ok a =>
      constructor
      · intro h
        exact Or.inr ⟨a, rfl, h⟩
      · rintro (h | ⟨a', h, hf⟩)
        · cases h
        · cases h
          exact hf

theorem map_eq_error {x : Except ε α} {f : α → β} {e : ε} :
    x.map f = .error e ↔ x = .error e := by
  cases x with
  | error e' => simp [Except.map]
  | ok a => simp [Except.map]

theorem mapError_eq_error {x : Except ε α} {f : ε → ε'} {e' : ε'} :
    x.mapError f = .error e' ↔ ∃ e, x = .error e ∧ f e = e' := by
  cases x with
  | error e =>
      constructor
      · intro h
        cases h
        exact ⟨e, rfl, rfl⟩
      · rintro ⟨e, h, rfl⟩
        cases h
        rfl
  | ok a =>
      constructor
      · intro h
        cases h
      · rintro ⟨e, h, -⟩
        cases h

theorem mapError_mapError {ε'' : Type} (x : Except ε α) (f : ε → ε') (g : ε' → ε'') :
    (x.mapError f).mapError g = x.mapError (g ∘ f) := by
  cases x <;> rfl

theorem mapError_bind (x : Except ε α) (f : α → Except ε β) (g : ε → ε') :
    (x >>= f).mapError g = x.mapError g >>= fun a => (f a).mapError g := by
  cases x <;> rfl

@[simp] theorem pure_eq_ok {a b : α} : (pure a : Except ε α) = .ok b ↔ a = b := by
  simp [pure, Except.pure]

/-- Values compare where faults need not. -/
theorem toOption_eq_some {x : Except ε α} {a : α} : x.toOption = some a ↔ x = .ok a := by
  cases x <;> simp [Except.toOption]

theorem toOption_eq_none {x : Except ε α} : x.toOption = none ↔ ∃ e, x = .error e := by
  cases x <;> simp [Except.toOption]

theorem exists_error_iff {x : Except ε α} : (∃ e, x = .error e) ↔ ∀ a, x ≠ .ok a := by
  cases x <;> simp

/-! ## Lists of calculations -/

theorem mem_of_forall₂ {R : α → β → Prop} {a : α} {l : List α} {bs : List β}
    (h : List.Forall₂ R l bs) (ha : a ∈ l) : ∃ b ∈ bs, R a b := by
  induction h with
  | nil => cases ha
  | @cons a' b l bs hab _ ih =>
      rcases List.mem_cons.mp ha with rfl | ha
      · exact ⟨b, List.mem_cons_self, hab⟩
      · obtain ⟨b', hb', hab'⟩ := ih ha
        exact ⟨b', List.mem_cons_of_mem b hb', hab'⟩

theorem mapM_eq_ok_iff {f : α → Except ε β} :
    ∀ {l : List α} {bs : List β},
      l.mapM f = .ok bs ↔ List.Forall₂ (fun a b => f a = .ok b) l bs
  | [], bs => pure_eq_ok.trans (eq_comm.trans List.forall₂_nil_left_iff.symm)
  | a :: l, bs => by
      rw [List.mapM_cons, bind_eq_ok, List.forall₂_cons_left_iff]
      refine exists_congr fun b => ?_
      constructor
      · rintro ⟨hb, h⟩
        obtain ⟨bs', hbs', h⟩ := bind_eq_ok.mp h
        exact ⟨bs', hb, mapM_eq_ok_iff.mp hbs', (pure_eq_ok.mp h).symm⟩
      · rintro ⟨bs', hb, hbs', rfl⟩
        exact ⟨hb, bind_eq_ok.mpr ⟨bs', mapM_eq_ok_iff.mpr hbs', rfl⟩⟩

theorem mem_of_mapM_eq_ok {f : α → Except ε β} {l : List α} {b : β} {bs : List β}
    (h : l.mapM f = .ok bs) (hb : b ∈ bs) : ∃ a ∈ l, f a = .ok b :=
  mem_of_forall₂ (mapM_eq_ok_iff.mp h).flip hb

theorem mem_of_mapM_eq_error {f : α → Except ε β} {e : ε} :
    ∀ {l : List α}, l.mapM f = .error e → ∃ a ∈ l, f a = .error e
  | [], h => nomatch h
  | a :: l, h => by
      rw [List.mapM_cons] at h
      rcases bind_eq_error.mp h with ha | ⟨b, -, h⟩
      · exact ⟨a, List.mem_cons_self, ha⟩
      · rcases bind_eq_error.mp h with hl | ⟨bs, -, h⟩
        · obtain ⟨a', ha', hfa'⟩ := mem_of_mapM_eq_error hl
          exact ⟨a', List.mem_cons_of_mem a ha', hfa'⟩
        · cases h

/-- A list fails at the first place that does. -/
theorem mapM_eq_error_iff {f : α → Except ε β} {e : ε} :
    ∀ {l : List α}, l.mapM f = .error e ↔
      ∃ front a back, l = front ++ a :: back ∧ (∀ a' ∈ front, ∃ b, f a' = .ok b) ∧ f a = .error e
  | [] => by
      constructor
      · intro h
        cases h
      · rintro ⟨front, a, back, h, -⟩
        exact absurd h.symm (List.append_ne_nil_of_right_ne_nil front (List.cons_ne_nil a back))
  | a :: l => by
      rw [List.mapM_cons, bind_eq_error]
      constructor
      · rintro (ha | ⟨b, hb, h⟩)
        · exact ⟨[], a, l, rfl, nofun, ha⟩
        · rcases bind_eq_error.mp h with hl | ⟨bs, -, h⟩
          · obtain ⟨front, a', back, rfl, hfront, ha'⟩ := mapM_eq_error_iff.mp hl
            exact ⟨a :: front, a', back, rfl, List.forall_mem_cons.mpr ⟨⟨b, hb⟩, hfront⟩, ha'⟩
          · cases h
      · rintro ⟨front, a', back, h, hfront, ha'⟩
        cases front with
        | nil =>
            obtain ⟨rfl, rfl⟩ := List.cons.inj h
            exact Or.inl ha'
        | cons a'' front =>
            obtain ⟨rfl, rfl⟩ := List.cons.inj h
            obtain ⟨⟨b, hb⟩, hfront⟩ := List.forall_mem_cons.mp hfront
            refine Or.inr ⟨b, hb, bind_eq_error.mpr (Or.inl ?_)⟩
            exact mapM_eq_error_iff.mpr ⟨front, a', back, rfl, hfront, ha'⟩

theorem exists_mapM_eq_ok {f : α → Except ε β} {l : List α} :
    (∃ bs, l.mapM f = .ok bs) ↔ ∀ a ∈ l, ∃ b, f a = .ok b := by
  constructor
  · rintro ⟨bs, h⟩ a ha
    obtain ⟨b, -, hb⟩ := mem_of_forall₂ (mapM_eq_ok_iff.mp h) ha
    exact ⟨b, hb⟩
  · intro h
    cases hl : l.mapM f with
    | ok bs => exact ⟨bs, rfl⟩
    | error e =>
        obtain ⟨a, ha, he⟩ := mem_of_mapM_eq_error hl
        obtain ⟨b, hb⟩ := h a ha
        cases hb.symm.trans he

/-! ## Calculations that agree -/

/-- Both give one value, or neither gives any. -/
def Agree (x y : Except ε α) : Prop := ∀ a, x = .ok a ↔ y = .ok a

theorem Agree.refl (x : Except ε α) : Agree x x := fun _ => Iff.rfl

theorem Agree.bind {x y : Except ε α} {f g : α → Except ε β} (h : Agree x y)
    (hfg : ∀ a, Agree (f a) (g a)) : Agree (x >>= f) (y >>= g) := by
  intro b
  rw [bind_eq_ok, bind_eq_ok]
  constructor
  · rintro ⟨a, ha, hb⟩
    exact ⟨a, (h a).mp ha, (hfg a b).mp hb⟩
  · rintro ⟨a, ha, hb⟩
    exact ⟨a, (h a).mpr ha, (hfg a b).mpr hb⟩

theorem Agree.map {x y : Except ε α} (h : Agree x y) (f : α → β) : Agree (f <$> x) (f <$> y) := by
  intro b
  show x.map f = .ok b ↔ y.map f = .ok b
  rw [map_eq_ok, map_eq_ok]
  exact exists_congr fun a => and_congr_left fun _ => h a

end Outcome

/-- The word has room for all of the calendar's milliseconds, and some to spare. -/
theorem Word.fits_of_near {n : Int} (h : -10000000000000000 ≤ n ∧ n ≤ 10000000000000000) :
    Word.Fits n := by
  unfold Word.Fits Word.least Word.greatest
  omega

namespace Instant

variable {α : Type} {i : Instant}

@[simp] theorem require_eq_ok {o : Option α} {a : α} : i.require o = .ok a ↔ o = some a := by
  cases o <;> simp [require]

theorem require_eq_error {o : Option α} {fault : Fault} :
    i.require o = .error fault ↔ o = none ∧ fault = .instantOutOfRange i.millis := by
  cases o <;> simp [require, eq_comm]

theorem exists_toInt_eq {n : Int} (h : Word.Fits n) : ∃ i : Instant, i.toInt = n := by
  obtain ⟨a, -, ha⟩ := Word.fit?_of_fits h
  exact ⟨⟨a⟩, ha⟩

theorem le_def {i j : Instant} : i ≤ j ↔ i.toInt ≤ j.toInt := Iff.rfl

end Instant

end Almanac
