/-
Readings that may be refused.  Where several are made one after the other and none is refused,
each of them was made; a proof takes such a reading apart step by step.
-/
namespace Logbook

variable {ε α β : Type}

theorem exists_of_bind_eq_ok {first : Except ε α} {next : α → Except ε β} {result : β}
    (h : (first >>= next) = .ok result) : ∃ value, first = .ok value ∧ next value = .ok result := by
  cases first with
  | error e => simp [bind, Except.bind] at h
  | ok value => exact ⟨value, rfl, h⟩

theorem exists_of_map_eq_ok {reading : Except ε α} {f : α → β} {result : β}
    (h : reading.map f = .ok result) : ∃ value, reading = .ok value ∧ f value = result := by
  cases reading with
  | error e => simp [Except.map] at h
  | ok value => exact ⟨value, rfl, Except.ok.inj h⟩

/-- Where a reading of a whole list is not refused, no step of it was. -/
theorem exists_of_foldlM_eq_ok {step : β → α → Except ε β} {items : List α} {start result : β}
    (h : items.foldlM step start = .ok result) :
    ∀ item ∈ items, ∃ before after, step before item = .ok after := by
  induction items generalizing start with
  | nil => simp
  | cons item items ih =>
      rw [List.foldlM_cons] at h
      obtain ⟨after, hstep, hrest⟩ := exists_of_bind_eq_ok h
      exact List.forall_mem_cons.mpr ⟨⟨start, after, hstep⟩, ih hrest⟩

theorem toOption_eq_some_iff {reading : Except ε α} {value : α} :
    reading.toOption = some value ↔ reading = .ok value := by
  cases reading <;> simp [Except.toOption]

theorem toOption_eq_none_iff {reading : Except ε α} :
    reading.toOption = none ↔ ∃ problem, reading = .error problem := by
  cases reading <;> simp [Except.toOption]

/-- What comes of a reading of a result depends on that result only. -/
theorem toOption_bind_congr {first first' : Except ε α} {next : α → Except ε β}
    (h : first.toOption = first'.toOption) :
    (first >>= next).toOption = (first' >>= next).toOption := by
  cases first <;> cases first' <;> simp_all [Except.toOption, bind, Except.bind]

/-- A reading depends on what comes after its first part only by the result of that. -/
theorem toOption_bind_congr_right (first : Except ε α) {next next' : α → Except ε β}
    (h : ∀ value, (next value).toOption = (next' value).toOption) :
    (first >>= next).toOption = (first >>= next').toOption := by
  cases first with
  | error problem => rfl
  | ok value => exact h value

end Logbook
