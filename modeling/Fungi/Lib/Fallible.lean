import Mathlib.Init

/-!
# Computations that may fail

A sequence of fallible steps returns a value exactly when every step does.
-/

namespace Fungi.Lib

variable {Failure Value Result : Type}

theorem ok_bind (value : Value) (next : Value → Except Failure Result) :
    (Except.ok value >>= next) = next value := rfl

theorem bind_eq_ok {first : Except Failure Value} {next : Value → Except Failure Result}
    {result : Result} :
    (first >>= next) = .ok result ↔ ∃ value, first = .ok value ∧ next value = .ok result := by
  cases first with
  | error failure =>
      constructor
      · intro impossible
        cases impossible
      · rintro ⟨value, impossible, -⟩
        cases impossible
  | ok value =>
      constructor
      · intro succeeded
        exact ⟨value, rfl, succeeded⟩
      · rintro ⟨value', same, succeeded⟩
        cases same
        exact succeeded

theorem bind_eq_error {first : Except Failure Value} {next : Value → Except Failure Result}
    {failure : Failure} :
    (first >>= next) = .error failure ↔
      first = .error failure ∨ ∃ value, first = .ok value ∧ next value = .error failure := by
  cases first with
  | error other =>
      constructor
      · intro failed
        exact Or.inl (congrArg Except.error (Except.error.inj failed))
      · rintro (same | ⟨value, impossible, -⟩)
        · exact congrArg Except.error (Except.error.inj same)
        · cases impossible
  | ok value =>
      constructor
      · intro failed
        exact Or.inr ⟨value, rfl, failed⟩
      · rintro (impossible | ⟨value', same, failed⟩)
        · cases impossible
        · cases same
          exact failed

@[simp] theorem pure_eq_ok {value result : Value} :
    (pure value : Except Failure Value) = .ok result ↔ value = result := by
  constructor
  · intro same
    cases same
    rfl
  · intro same
    rw [same]
    rfl

@[simp] theorem throw_eq_ok {failure : Failure} {result : Value} :
    (throw failure : Except Failure Value) = .ok result ↔ False := by
  constructor
  · intro impossible
    cases impossible
  · exact False.elim

section Guards

variable {condition : Prop} [Decidable condition] {failure : Failure}
  {rest : Except Failure Value} {result : Value}

/-- A guard in front of a computation. -/
theorem guard_eq_ok :
    (if condition then .error failure else rest) = .ok result ↔
      ¬ condition ∧ rest = .ok result := by
  split
  · next refused =>
      constructor
      · intro impossible
        cases impossible
      · intro accepted
        exact absurd refused accepted.1
  · next accepted =>
      exact ⟨fun succeeded => ⟨accepted, succeeded⟩, fun both => both.2⟩

theorem throw_guard_eq_ok :
    (if condition then throw failure else rest) = .ok result ↔
      ¬ condition ∧ rest = .ok result :=
  guard_eq_ok

end Guards

section Lists

variable {Item Image : Type} {convert : Item → Except Failure Image}

theorem mapM_cons_eq_ok {item : Item} {items : List Item} {images : List Image} :
    (item :: items).mapM convert = .ok images ↔
      ∃ image, convert item = .ok image ∧ ∃ rest, items.mapM convert = .ok rest ∧
        image :: rest = images := by
  rw [List.mapM_cons]
  simp only [bind_eq_ok, pure_eq_ok]

/-- A conversion of a whole list succeeds when that of every item does. -/
theorem mapM_eq_ok {accepts : Item → Prop} {image : Item → Image}
    (converts : ∀ item result, convert item = .ok result ↔ accepts item ∧ result = image item)
    {items : List Item} {images : List Image} :
    items.mapM convert = .ok images ↔
      (∀ item ∈ items, accepts item) ∧ images = items.map image := by
  induction items generalizing images with
  | nil =>
      rw [List.mapM_nil, pure_eq_ok]
      simp [eq_comm]
  | cons item rest inductionHypothesis =>
      rw [mapM_cons_eq_ok, List.forall_mem_cons]
      constructor
      · rintro ⟨first, converted, others, convertedAll, rfl⟩
        obtain ⟨accepted, rfl⟩ := (converts item first).mp converted
        obtain ⟨acceptedAll, rfl⟩ := inductionHypothesis.mp convertedAll
        exact ⟨⟨accepted, acceptedAll⟩, rfl⟩
      · rintro ⟨⟨accepted, acceptedAll⟩, rfl⟩
        exact ⟨image item, (converts item _).mpr ⟨accepted, rfl⟩, rest.map image,
          inductionHypothesis.mpr ⟨acceptedAll, rfl⟩, rfl⟩

theorem exists_of_mapM_eq_ok {items : List Item} {images : List Image}
    (converted : items.mapM convert = .ok images) :
    ∀ item ∈ items, ∃ image, convert item = .ok image := by
  induction items generalizing images with
  | nil => simp
  | cons item rest inductionHypothesis =>
      obtain ⟨image, first, others, convertedAll, -⟩ := mapM_cons_eq_ok.mp converted
      rw [List.forall_mem_cons]
      exact ⟨⟨image, first⟩, inductionHypothesis convertedAll⟩

/-- Converting a list fails as one of its items does. -/
theorem exists_of_mapM_eq_error {items : List Item} {failure : Failure}
    (failed : items.mapM convert = .error failure) :
    ∃ item ∈ items, convert item = .error failure := by
  induction items with
  | nil => cases failed
  | cons item rest inductionHypothesis =>
      rw [List.mapM_cons, bind_eq_error] at failed
      rcases failed with first | ⟨image, -, failed⟩
      · exact ⟨item, List.mem_cons_self, first⟩
      · rcases bind_eq_error.mp failed with later | ⟨images, -, impossible⟩
        · obtain ⟨other, member, fails⟩ := inductionHypothesis later
          exact ⟨other, List.mem_cons_of_mem _ member, fails⟩
        · cases impossible

end Lists

end Fungi.Lib
