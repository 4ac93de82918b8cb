import Mathlib.Data.List.Forall2

/-!
Results that may be failures: what the success or the failure of a composite tells about its parts.
-/

namespace TestGate.Results

universe u v

variable {ε : Type u} {α β : Type v}

theorem bind_eq_ok_iff
    {first : Except ε α} {next : α → Except ε β} {result : β} :
    (first >>= next) = .ok result ↔ ∃ value, first = .ok value ∧ next value = .ok result := by
  cases first with
  | error failure => simp [bind, Except.bind]
  | ok value => simp [bind, Except.bind]

theorem map_eq_ok_iff
    {first : Except ε α} {change : α → β} {result : β} :
    change <$> first = .ok result ↔ ∃ value, first = .ok value ∧ change value = result := by
  cases first with
  | error failure => simp [Functor.map, Except.map]
  | ok value => simp [Functor.map, Except.map]

theorem map_eq_error_iff
    {first : Except ε α} {change : α → β} {failure : ε} :
    change <$> first = .error failure ↔ first = .error failure := by
  cases first with
  | error other => simp [Functor.map, Except.map]
  | ok value => simp [Functor.map, Except.map]

theorem toOption_eq_some_iff
    {result : Except ε α} {value : α} :
    result.toOption = some value ↔ result = .ok value := by
  cases result with
  | error failure => simp [Except.toOption]
  | ok other => simp [Except.toOption]

/-- A list is worked through successfully exactly when each item of it is. -/
theorem mapM_eq_ok_iff
    {read : α → Except ε β} {items : List α} {results : List β} :
    items.mapM read = .ok results ↔
      List.Forall₂ (fun item result => read item = .ok result) items results := by
  induction items generalizing results with
  | nil =>
    rw [List.mapM_nil, List.forall₂_nil_left_iff]
    exact ⟨fun same => (Except.ok.inj same).symm, fun same => same ▸ rfl⟩
  | cons item rest inductionHypothesis =>
    rw [List.mapM_cons, bind_eq_ok_iff, List.forall₂_cons_left_iff]
    constructor
    · rintro ⟨result, first, others⟩
      rw [bind_eq_ok_iff] at others
      obtain ⟨restResults, restOk, same⟩ := others
      exact ⟨result, restResults, first, inductionHypothesis.mp restOk, (Except.ok.inj same).symm⟩
    · rintro ⟨result, restResults, first, restOk, rfl⟩
      refine ⟨result, first, bind_eq_ok_iff.mpr ⟨restResults, ?_, rfl⟩⟩
      exact inductionHypothesis.mpr restOk

/-- Each result comes from an item. -/
theorem mem_of_mapM_eq_ok
    {read : α → Except ε β} {items : List α} {results : List β} {result : β}
    (ok : items.mapM read = .ok results) (member : result ∈ results) :
    ∃ item ∈ items, read item = .ok result := by
  rw [mapM_eq_ok_iff] at ok
  induction ok with
  | nil => cases member
  | @cons item first _ _ firstOk _ inductionHypothesis =>
    rcases List.mem_cons.mp member with rfl | inRest
    · exact ⟨item, List.mem_cons_self, firstOk⟩
    · obtain ⟨other, otherMember, otherOk⟩ := inductionHypothesis inRest
      exact ⟨other, List.mem_cons_of_mem item otherMember, otherOk⟩

/-- Each item has a result. -/
theorem ok_of_mapM_eq_ok
    {read : α → Except ε β} {items : List α} {results : List β} {item : α}
    (ok : items.mapM read = .ok results) (member : item ∈ items) :
    ∃ result ∈ results, read item = .ok result := by
  rw [mapM_eq_ok_iff] at ok
  induction ok with
  | nil => cases member
  | @cons _ first _ _ firstOk _ inductionHypothesis =>
    rcases List.mem_cons.mp member with rfl | inRest
    · exact ⟨first, List.mem_cons_self, firstOk⟩
    · obtain ⟨other, otherMember, otherOk⟩ := inductionHypothesis inRest
      exact ⟨other, List.mem_cons_of_mem first otherMember, otherOk⟩

theorem exists_mapM_eq_ok
    {read : α → Except ε β} {items : List α}
    (ok : ∀ item ∈ items, ∃ result, read item = .ok result) :
    ∃ results, items.mapM read = .ok results := by
  induction items with
  | nil => exact ⟨[], rfl⟩
  | cons item rest inductionHypothesis =>
    obtain ⟨result, first⟩ := ok item List.mem_cons_self
    obtain ⟨results, others⟩ :=
      inductionHypothesis fun other member => ok other (List.mem_cons_of_mem item member)
    refine ⟨result :: results, ?_⟩
    rw [List.mapM_cons, first, others]
    rfl

/-- Working through a list fails with the first failure of an item. -/
theorem mapM_eq_error_iff
    {read : α → Except ε β} {items : List α} {failure : ε} :
    items.mapM read = .error failure ↔
      ∃ before item after, items = before ++ item :: after ∧
        (∀ earlier ∈ before, ∃ result, read earlier = .ok result) ∧
        read item = .error failure := by
  induction items with
  | nil => simp [List.mapM_nil, pure, Except.pure]
  | cons item rest inductionHypothesis =>
    rw [List.mapM_cons]
    cases first : read item with
    | error other =>
      constructor
      · rintro ⟨⟩
        exact ⟨[], item, rest, rfl, nofun, first⟩
      · rintro ⟨before, bad, after, whole, allOk, failed⟩
        cases before with
        | nil =>
          cases whole
          cases first.symm.trans failed
          rfl
        | cons head before =>
          cases whole
          obtain ⟨result, ok⟩ := allOk item List.mem_cons_self
          cases first.symm.trans ok
    | ok result =>
      have sameFailure : (Except.ok result >>= fun value => do
          let values ← rest.mapM read
          pure (value :: values)) = .error failure ↔ rest.mapM read = .error failure :=
        map_eq_error_iff
      rw [sameFailure, inductionHypothesis]
      constructor
      · rintro ⟨before, bad, after, rfl, allOk, failed⟩
        exact ⟨item :: before, bad, after, rfl,
          List.forall_mem_cons.mpr ⟨⟨result, first⟩, allOk⟩, failed⟩
      · rintro ⟨before, bad, after, whole, allOk, failed⟩
        cases before with
        | nil =>
          cases whole
          cases first.symm.trans failed
        | cons head before =>
          cases whole
          exact ⟨before, bad, after, rfl, (List.forall_mem_cons.mp allOk).2, failed⟩

theorem mapM_eq_error
    {read : α → Except ε β} {items : List α} {failure : ε}
    (failed : items.mapM read = .error failure) :
    ∃ item ∈ items, read item = .error failure := by
  obtain ⟨before, item, after, rfl, _, itemFailed⟩ := mapM_eq_error_iff.mp failed
  exact ⟨item, List.mem_append_right before List.mem_cons_self, itemFailed⟩

/-- A list that is worked through with results put into a state, which decide about no success, is
worked through first and put into the state then. -/
theorem foldlM_eq_map_mapM
    {σ : Type v} {step : σ → α → Except ε σ} {read : α → Except ε β} {put : σ → β → σ}
    (each : ∀ state item, step state item = put state <$> read item)
    (items : List α) (start : σ) :
    items.foldlM step start = (fun values => values.foldl put start) <$> items.mapM read := by
  induction items generalizing start with
  | nil => rfl
  | cons item rest inductionHypothesis =>
    rw [List.foldlM_cons, List.mapM_cons, each]
    cases read item with
    | error failure => rfl
    | ok value =>
      change rest.foldlM step (put start value) = _
      rw [inductionHypothesis]
      cases rest.mapM read with
      | error failure => rfl
      | ok values => rfl

end TestGate.Results
