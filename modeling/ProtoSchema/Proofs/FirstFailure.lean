import Mathlib.Data.List.Perm.Basic

set_option autoImplicit false

namespace ProtoSchema

variable {α β ε : Type}

def failure? : Except ε β → Option ε
  | .error e => some e
  | .ok _ => none

def firstFailure (attempt : α → Except ε β) (xs : List α) : Option ε :=
  xs.findSome? fun x => failure? (attempt x)

theorem bind_eq_ok {x : Except ε α} {f : α → Except ε β} {b : β} (done : x.bind f = .ok b) :
    ∃ a, x = .ok a ∧ f a = .ok b := by
  cases x with
  | error e => cases done
  | ok a => exact ⟨a, rfl, done⟩

theorem map_eq_ok {x : Except ε α} {f : α → β} {b : β} (done : x.map f = .ok b) :
    ∃ a, x = .ok a ∧ f a = b := by
  cases x with
  | error e => cases done
  | ok a => exact ⟨a, rfl, Except.ok.inj done⟩

theorem map_m_cons_ok {attempt : α → Except ε β} {x : α} {y : β} (done : attempt x = .ok y)
    (xs : List α) : (x :: xs).mapM attempt = (xs.mapM attempt).map (y :: ·) := by
  rw [List.mapM_cons, done]
  cases xs.mapM attempt <;> rfl

theorem map_m_cons_error {attempt : α → Except ε β} {x : α} {e : ε} (failed : attempt x = .error e)
    (xs : List α) : (x :: xs).mapM attempt = .error e := by
  rw [List.mapM_cons, failed]
  rfl

theorem map_m_eq_ok_iff (attempt : α → Except ε β) (xs : List α) (ys : List β) :
    xs.mapM attempt = .ok ys ↔ List.Forall₂ (fun x y => attempt x = .ok y) xs ys := by
  induction xs generalizing ys with
  | nil =>
      rw [List.forall₂_nil_left_iff]
      exact ⟨fun same => (Except.ok.inj same).symm, fun empty => empty ▸ rfl⟩
  | cons x xs ih =>
      cases done : attempt x with
      | error e =>
          rw [map_m_cons_error done]
          constructor
          · intro impossible
            cases impossible
          · intro pairs
            cases pairs with
            | cons first _ => rw [done] at first; cases first
      | ok y =>
          rw [map_m_cons_ok done]
          constructor
          · intro same
            cases others : xs.mapM attempt with
            | error e => rw [others] at same; cases same
            | ok zs =>
                rw [others] at same
                obtain rfl := Except.ok.inj same
                exact .cons done ((ih zs).mp others)
          · intro pairs
            cases pairs with
            | cons first rest =>
                obtain rfl := Except.ok.inj (done.symm.trans first)
                rw [(ih _).mpr rest]
                rfl

theorem mem_of_map_m_ok {attempt : α → Except ε β} {xs : List α} {ys : List β}
    (done : xs.mapM attempt = .ok ys) {y : β} (member : y ∈ ys) : ∃ x ∈ xs, attempt x = .ok y := by
  have pairs := (map_m_eq_ok_iff attempt xs ys).mp done
  obtain ⟨i, bound, rfl⟩ := List.getElem_of_mem member
  have within : i < xs.length := by rw [pairs.length_eq]; exact bound
  exact ⟨xs[i], List.getElem_mem within, pairs.get within bound⟩

theorem map_m_unique {γ : Type} {attempt : α → Except ε β} (view : β → γ) {a b : List α}
    {us vs : List β} (aDone : a.mapM attempt = .ok us) (bDone : b.mapM attempt = .ok vs)
    (told : ∀ x ∈ a, ∀ y ∈ b, ∀ u v, attempt x = .ok u → attempt y = .ok v → view u = view v → x = y)
    (same : us.map view = vs.map view) : a = b := by
  rw [map_m_eq_ok_iff] at aDone bDone
  induction aDone generalizing b vs with
  | nil =>
      cases bDone with
      | nil => rfl
      | cons _ _ => simp at same
  | cons first rest ih =>
      cases bDone with
      | nil => simp at same
      | cons otherFirst otherRest =>
          obtain ⟨heads, tails⟩ := List.cons.inj same
          have front := told _ (by simp) _ (by simp) _ _ first otherFirst heads
          have back := ih otherRest
            (fun x xMember y yMember => told x (by simp [xMember]) y (by simp [yMember])) tails
          rw [front, back]

theorem filter_map_of_map_m_ok {γ : Type} {attempt : α → Except ε β} {xs : List α} {ys : List β}
    (done : xs.mapM attempt = .ok ys) {f : α → Option γ} {g : β → Option γ}
    (agree : ∀ x y, attempt x = .ok y → f x = g y) : xs.filterMap f = ys.filterMap g := by
  induction (map_m_eq_ok_iff attempt xs ys).mp done with
  | nil => rfl
  | cons first rest ih =>
      rw [List.filterMap_cons, List.filterMap_cons, agree _ _ first,
        ih ((map_m_eq_ok_iff attempt _ _).mpr rest)]

theorem map_m_map_results {γ : Type} {attempt : α → Except ε β} {other : α → Except ε γ} {f : γ → β}
    {xs : List α} (agree : ∀ x ∈ xs, attempt x = (other x).map f) :
    xs.mapM attempt = (xs.mapM other).map (List.map f) := by
  induction xs with
  | nil => rfl
  | cons x xs ih =>
      have own := agree x List.mem_cons_self
      have rest := ih fun y member => agree y (List.mem_cons_of_mem x member)
      cases done : other x with
      | error e =>
          rw [done] at own
          rw [map_m_cons_error done, map_m_cons_error own]
          rfl
      | ok y =>
          rw [done] at own
          rw [map_m_cons_ok done, map_m_cons_ok own, rest]
          cases xs.mapM other <;> rfl

theorem map_m_perm {attempt : α → Except ε β} {a b : List α} {us : List β} (permuted : a.Perm b)
    (done : a.mapM attempt = .ok us) : ∃ vs, b.mapM attempt = .ok vs ∧ us.Perm vs := by
  obtain ⟨vs, pairs, same⟩ :=
    List.perm_comp_forall₂ permuted.symm ((map_m_eq_ok_iff attempt a us).mp done)
  exact ⟨vs, (map_m_eq_ok_iff attempt b vs).mpr pairs, same.symm⟩

theorem map_m_eq_error_iff (attempt : α → Except ε β) (xs : List α) (e : ε) :
    xs.mapM attempt = .error e ↔ firstFailure attempt xs = some e := by
  induction xs with
  | nil => exact ⟨(nomatch ·), (nomatch ·)⟩
  | cons x xs ih =>
      cases done : attempt x with
      | error first => simp [map_m_cons_error done, firstFailure, done, failure?]
      | ok y =>
          have later : firstFailure attempt (x :: xs) = firstFailure attempt xs := by
            simp [firstFailure, done, failure?]
          rw [map_m_cons_ok done, later, ← ih]
          cases xs.mapM attempt with
          | error first => rfl
          | ok ys => exact ⟨(nomatch ·), (nomatch ·)⟩

theorem failure_eq_some_iff (result : Except ε β) (e : ε) :
    failure? result = some e ↔ result = .error e := by
  cases result <;> simp [failure?]

theorem failure_eq_none_iff (result : Except ε β) :
    failure? result = none ↔ ∃ value, result = .ok value := by
  cases result <;> simp [failure?]

theorem failure_map_m (attempt : α → Except ε β) (xs : List α) :
    failure? (xs.mapM attempt) = firstFailure attempt xs := by
  ext e
  rw [failure_eq_some_iff, map_m_eq_error_iff]

theorem failure_map (x : Except ε α) (f : α → β) : failure? (x.map f) = failure? x := by
  cases x <;> rfl

theorem failure_bind {x : Except ε α} {f : α → Except ε β} {later : Option ε}
    (same : ∀ a, failure? (f a) = later) : failure? (x.bind f) = (failure? x).or later := by
  cases x with
  | error e => rfl
  | ok a => exact same a

theorem failure_both {γ : Type} (first : Except ε α) (second : Except ε β) (join : α → β → γ) :
    failure? (do let a ← first; let b ← second; return join a b) =
      (failure? first).or (failure? second) := by
  cases first <;> cases second <;> rfl

-- The first report from the members of a list is the first one from all their parts.
theorem find_some_flat_map {γ δ : Type} (first : α → Option δ) (parts : α → List γ)
    (report : γ → Option δ) (xs : List α)
    (agree : ∀ x ∈ xs, first x = (parts x).findSome? report) :
    xs.findSome? first = (xs.flatMap parts).findSome? report := by
  induction xs with
  | nil => rfl
  | cons x xs ih =>
      have rest := ih fun y member => agree y (by simp [member])
      rw [List.flatMap_cons, List.findSome?_append, ← rest, ← agree x (by simp)]
      cases done : first x <;> simp [done]

end ProtoSchema
