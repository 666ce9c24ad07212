import OpticsCheck.Proofs.Run.Stretch

/-!
# Runs in sequence

The same kind of run for every item of a list, each from where the one before it ended. Its values,
its writes and its length in time are those of its items, and a list in two parts runs as the first
part and then the second.
-/

namespace OpticsCheck.Run

variable {σ α β γ : Type}

section

variable (run : α → Run σ β) (items : List α) (clock : Nat) (state : σ)

/-- An item's value is the one that its run gives where the items before it end. -/
theorem getElem?_value_mapM (k : Nat) :
    ((items.mapM run) clock state).value[k]? = items[k]?.map fun item =>
      let left := (items.take k).mapM run clock state
      (run item left.clock left.state).value := by
  induction items generalizing clock state k with
  | nil => simp
  | cons item rest ih =>
    rw [List.mapM_cons]
    cases k with
    | zero => simp
    | succ k => simp [List.mapM_cons, ih]

/-- Every value is the one that the run of an item gives somewhere. -/
theorem exists_of_mem_value_mapM {value : β} (mem : value ∈ (items.mapM run clock state).value) :
    ∃ item ∈ items, ∃ clock state, (run item clock state).value = value := by
  obtain ⟨k, found⟩ := List.mem_iff_getElem?.mp mem
  rw [getElem?_value_mapM, Option.map_eq_some_iff] at found
  obtain ⟨item, here, same⟩ := found
  exact ⟨item, List.mem_of_getElem? here, _, _, same⟩

/-- A part of every value that does not depend on where its run starts. -/
theorem map_value_mapM {part : β → γ} {given : α → γ}
    (each : ∀ item clock state, part (run item clock state).value = given item) :
    ((items.mapM run) clock state).value.map part = items.map given := by
  induction items generalizing clock state with
  | nil => rfl
  | cons item rest ih =>
    rw [List.mapM_cons]
    simp [each, ih]

theorem writes_mapM {given : α → List Call}
    (each : ∀ item clock state, (run item clock state).writes = given item) :
    ((items.mapM run) clock state).writes = items.flatMap given := by
  induction items generalizing clock state with
  | nil => rfl
  | cons item rest ih =>
    have first := each item clock state
    have later := ih (run item clock state).clock (run item clock state).state
    simp only [Outcome.writes] at first later
    rw [List.mapM_cons]
    simp [Outcome.writes, first, later]

theorem clock_mapM_le {longest : Nat}
    (each : ∀ item clock state, (run item clock state).clock ≤ clock + longest) :
    ((items.mapM run) clock state).clock ≤ clock + items.length * longest := by
  induction items generalizing clock state with
  | nil => simp
  | cons item rest ih =>
    have first := each item clock state
    have later := ih (run item clock state).clock (run item clock state).state
    rw [List.mapM_cons]
    simp only [bind_pure_comp, clock_bind, clock_map, List.length_cons, Nat.succ_mul]
    omega

end
end OpticsCheck.Run
