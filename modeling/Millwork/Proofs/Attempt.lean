import Mathlib.Data.List.Forall2
import Millwork.Notice

namespace Millwork

namespace Attempt

variable {ε α β : Type}

theorem bind_eq_ok {x : Except ε α} {f : α → Except ε β} {b : β} :
    x >>= f = .ok b ↔ ∃ a, x = .ok a ∧ f a = .ok b := by
  cases x with
  | error e =>
      constructor
      · intro h
        cases h
      · rintro ⟨a, h, -⟩
        cases h
  | ok a =>
      constructor
      · intro h
        exact ⟨a, rfl, h⟩
      · rintro ⟨a', h, next⟩
        cases h
        exact next

theorem bind_eq_error {x : Except ε α} {f : α → Except ε β} {e : ε} :
    x >>= f = .error e ↔ x = .error e ∨ ∃ a, x = .ok a ∧ f a = .error e := by
  cases x with
  | error e' =>
      constructor
      · intro h
        cases h
        exact .inl rfl
      · rintro (h | ⟨a, h, -⟩)
        · cases h
          rfl
        · cases h
  | ok a =>
      constructor
      · intro h
        exact .inr ⟨a, rfl, h⟩
      · rintro (h | ⟨a', h, next⟩)
        · cases h
        · cases h
          exact next

@[simp] theorem pure_eq_ok {a b : α} : (pure a : Except ε α) = .ok b ↔ a = b :=
  ⟨Except.ok.inj, fun h => h ▸ rfl⟩

@[simp] theorem pure_ne_error {a : α} {e : ε} : (pure a : Except ε α) ≠ .error e := nofun

@[simp] theorem ok_bind (a : α) (f : α → Except ε β) : Except.ok a >>= f = f a := rfl

theorem map_ok (a : α) (f : α → β) : f <$> Except.ok a = (Except.ok (f a) : Except ε β) := rfl

theorem exists_ok {x : Except ε α} (fine : x.isOk = true) : ∃ a, x = .ok a := by
  cases x with
  | error e => cases fine
  | ok a => exact ⟨a, rfl⟩

theorem map_eq_ok {x : Except ε α} {f : α → β} {b : β} :
    f <$> x = .ok b ↔ ∃ a, x = .ok a ∧ f a = b := by
  rw [map_eq_pure_bind, bind_eq_ok]
  simp only [pure_eq_ok]

theorem map_eq_error {x : Except ε α} {f : α → β} {e : ε} :
    f <$> x = .error e ↔ x = .error e := by
  rw [map_eq_pure_bind, bind_eq_error]
  simp

theorem map_congr {γ : Type} {x y : Except ε α} {f : α → β} {g : α → γ}
    (coarser : ∀ a b, f a = f b → g a = g b) (same : f <$> x = f <$> y) : g <$> x = g <$> y := by
  cases x with
  | error e =>
      cases y with
      | error e' => cases same; rfl
      | ok b => cases same
  | ok a =>
      cases y with
      | error e' => cases same
      | ok b => exact congrArg Except.ok (coarser a b (Except.ok.inj same))

theorem map_mapM {γ : Type} (g : β → γ) (f : α → Except ε β) (xs : List α) :
    List.map g <$> xs.mapM f = xs.mapM fun x => g <$> f x := by
  induction xs with
  | nil => rfl
  | cons x xs ih =>
      simp only [List.mapM_cons, ← ih, map_bind, map_pure, List.map_cons, bind_map_left]

theorem mapM_eq_ok {f : α → Except ε β} {xs : List α} {ys : List β} :
    xs.mapM f = .ok ys ↔ List.Forall₂ (fun x y => f x = .ok y) xs ys := by
  induction xs generalizing ys with
  | nil =>
      rw [List.mapM_nil, pure_eq_ok]
      refine ⟨fun h => h ▸ .nil, fun h => ?_⟩
      cases h
      rfl
  | cons x xs ih =>
      simp only [List.mapM_cons, bind_eq_ok, pure_eq_ok]
      constructor
      · rintro ⟨y, here, ys, rest, rfl⟩
        exact .cons here (ih.mp rest)
      · intro h
        cases h with
        | cons here rest => exact ⟨_, here, _, ih.mpr rest, rfl⟩

theorem mapM_isOk_iff {f : α → Except ε β} {xs : List α} :
    (∃ ys, xs.mapM f = .ok ys) ↔ ∀ x ∈ xs, ∃ y, f x = .ok y := by
  induction xs with
  | nil => simp
  | cons x xs ih =>
      rw [List.forall_mem_cons, ← ih]
      simp only [List.mapM_cons, bind_eq_ok, pure_eq_ok]
      constructor
      · rintro ⟨_, y, here, ys, rest, -⟩
        exact ⟨⟨y, here⟩, ys, rest⟩
      · rintro ⟨⟨y, here⟩, ys, rest⟩
        exact ⟨_, y, here, ys, rest, rfl⟩

theorem mapM_eq_error {f : α → Except ε β} {xs : List α} {e : ε} :
    xs.mapM f = .error e ↔ ∃ before x after, xs = before ++ x :: after ∧
      (∀ y ∈ before, ∃ b, f y = .ok b) ∧ f x = .error e := by
  induction xs with
  | nil => simp
  | cons x xs ih =>
      -- Either this item fails, or it does not and the first that fails is among the others.
      simp only [List.mapM_cons, bind_eq_error, pure_ne_error, and_false, exists_false, or_false,
        ih]
      constructor
      · rintro (here | ⟨b, here, before, y, after, rfl, fine, fails⟩)
        · exact ⟨[], x, xs, rfl, by simp, here⟩
        · refine ⟨x :: before, y, after, rfl, ?_, fails⟩
          exact List.forall_mem_cons.mpr ⟨⟨b, here⟩, fine⟩
      · rintro ⟨before, y, after, split, fine, fails⟩
        cases before with
        | nil =>
            cases split
            exact .inl fails
        | cons head before =>
            cases split
            obtain ⟨⟨b, here⟩, fine⟩ := List.forall_mem_cons.mp fine
            exact .inr ⟨b, here, before, y, after, rfl, fine, fails⟩

theorem mapError_eq_ok {ε' : Type} {x : Except ε α} {f : ε → ε'} {a : α} :
    x.mapError f = .ok a ↔ x = .ok a := by
  cases x with
  | error e => exact ⟨nofun, nofun⟩
  | ok b =>
      change Except.ok b = Except.ok a ↔ _
      rw [Except.ok.injEq, Except.ok.injEq]

theorem liftM_eq_ok {x : Except ArithmeticFault α} {a : α} :
    (liftM x : Attempt α) = .ok a ↔ x = .ok a :=
  mapError_eq_ok

/-! ## Results without their faults -/

theorem toOption_bind (x : Except ε α) (f : α → Except ε β) :
    (x >>= f).toOption = x.toOption >>= fun a => (f a).toOption := by
  cases x <;> rfl

theorem toOption_map (x : Except ε α) (f : α → β) :
    (f <$> x).toOption = f <$> x.toOption := by
  cases x <;> rfl

theorem toOption_mapError {ε' : Type} (x : Except ε α) (f : ε → ε') :
    (x.mapError f).toOption = x.toOption := by
  cases x <;> rfl

theorem toOption_mapM (f : α → Except ε β) (xs : List α) :
    (xs.mapM f).toOption = xs.mapM fun a => (f a).toOption := by
  induction xs with
  | nil => rfl
  | cons a xs ih =>
      simp only [List.mapM_cons, toOption_bind, ih]
      rfl

theorem toOption_eq_some {x : Except ε α} {a : α} : x.toOption = some a ↔ x = .ok a := by
  cases x <;> simp [Except.toOption]

/-! ## Conditions on outcomes -/

/-- Every result meets one condition, and every fault the other. -/
structure Meets (x : Attempt α) (result : α → Prop) (fault : Fault → Prop) : Prop where
  result : ∀ a, x = .ok a → result a
  fault : ∀ e, x = .error e → fault e

section Meets

variable {x : Attempt α} {f : α → Attempt β} {result : α → Prop} {fault : Fault → Prop}

theorem meets_pure {a : α} (holds : result a) : Meets (pure a) result fault where
  result _ same := Except.ok.inj same ▸ holds
  fault _ other := nomatch other

theorem meets_throw {e : Fault} (holds : fault e) : Meets (throw e : Attempt α) result fault where
  result _ other := nomatch other
  fault _ same := Except.error.inj same ▸ holds

theorem Meets.bind {result' : β → Prop} (first : Meets x result fault)
    (next : ∀ a, result a → Meets (f a) result' fault) : Meets (x >>= f) result' fault where
  result b made := by
    obtain ⟨a, here, rest⟩ := bind_eq_ok.mp made
    exact (next a (first.result a here)).result b rest
  fault e fails := by
    rcases bind_eq_error.mp fails with here | ⟨a, here, rest⟩
    · exact first.fault e here
    · exact (next a (first.result a here)).fault e rest

theorem Meets.map {f : α → β} {result' : β → Prop} (meets : Meets x result fault)
    (holds : ∀ a, result a → result' (f a)) : Meets (f <$> x) result' fault := by
  rw [map_eq_pure_bind]
  exact meets.bind fun a here => meets_pure (holds a here)

theorem Meets.mono {result' : α → Prop} {fault' : Fault → Prop} (meets : Meets x result fault)
    (results : ∀ a, result a → result' a) (faults : ∀ e, fault e → fault' e) :
    Meets x result' fault' :=
  ⟨fun a here => results a (meets.result a here), fun e here => faults e (meets.fault e here)⟩

theorem Meets.mapError {fault' : Fault → Prop} (meets : Meets x result fault) {g : Fault → Fault}
    (faults : ∀ e, fault e → fault' (g e)) : Meets (x.mapError g) result fault' := by
  cases x with
  | error e => exact ⟨fun _ other => (nomatch other),
      fun _ same => Except.error.inj same ▸ faults e (meets.fault e rfl)⟩
  | ok a => exact ⟨fun _ same => meets.result _ same, fun _ other => (nomatch other)⟩

theorem meets_mapM {xs : List α} {result' : β → Prop}
    (each : ∀ a ∈ xs, Meets (f a) result' fault) :
    Meets (xs.mapM f) (fun ys => ∀ y ∈ ys, result' y) fault := by
  induction xs with
  | nil => exact meets_pure (by simp)
  | cons a xs ih =>
      rw [List.forall_mem_cons] at each
      rw [List.mapM_cons]
      refine each.1.bind fun y here => (ih each.2).bind fun ys rest => meets_pure ?_
      exact List.forall_mem_cons.mpr ⟨here, rest⟩

end Meets

end Attempt

namespace Traced

variable {α β : Type}

@[simp] theorem outcome_lift (attempt : Attempt α) :
    (liftM attempt : Traced α).outcome = attempt := rfl

@[simp] theorem outcome_note (notice : Notice) : (note notice).outcome = .ok () := rfl

private theorem ext {a b : Traced α} (outcome : a.outcome = b.outcome)
    (notices : a.notices = b.notices) : a = b := by
  cases a
  cases b
  cases outcome
  cases notices
  rfl

theorem notices_bind (first : Traced α) (next : α → Traced β) :
    (first >>= next).notices = match first.outcome with
      | .ok a => first.notices ++ (next a).notices
      | .error _ => first.notices := by
  change (bind first next).notices = _
  unfold bind
  cases first.outcome <;> rfl

private theorem id_map' (x : Traced α) : id <$> x = x := by
  apply ext
  · change (x >>= pure).outcome = _
    rw [outcome_bind]
    cases x.outcome <;> rfl
  · change (x >>= pure).notices = _
    rw [notices_bind]
    cases x.outcome with
    | ok a => exact List.append_nil _
    | error e => rfl

private theorem pure_bind' (a : α) (f : α → Traced β) : pure a >>= f = f a := by
  apply ext
  · rw [outcome_bind]
    rfl
  · rw [notices_bind]
    rfl

private theorem bind_assoc' {γ : Type} (x : Traced α) (f : α → Traced β) (g : β → Traced γ) :
    x >>= f >>= g = x >>= fun a => f a >>= g := by
  apply ext
  · simp only [outcome_bind, bind_assoc]
  · rw [notices_bind, notices_bind, notices_bind, outcome_bind]
    cases x.outcome with
    | error e => rfl
    | ok a =>
        simp only [Attempt.ok_bind, notices_bind]
        cases (f a).outcome with
        | error e => rfl
        | ok b => exact List.append_assoc _ _ _

instance : LawfulMonad Traced := .mk' _ id_map' pure_bind' bind_assoc'

theorem outcome_mapM (f : α → Traced β) (xs : List α) :
    (xs.mapM f).outcome = xs.mapM fun x => (f x).outcome := by
  induction xs with
  | nil => rfl
  | cons x xs ih => simp only [List.mapM_cons, outcome_bind, ih, outcome_pure]; rfl

theorem mapM_congr {f g : α → Traced β} {xs : List α} (each : ∀ x ∈ xs, f x = g x) :
    xs.mapM f = xs.mapM g := by
  induction xs with
  | nil => rfl
  | cons x xs ih =>
      rw [List.forall_mem_cons] at each
      rw [List.mapM_cons, List.mapM_cons, each.1, ih each.2]

end Traced

end Millwork
