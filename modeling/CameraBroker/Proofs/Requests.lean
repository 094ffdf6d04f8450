import CameraBroker.Broker.Loop

/-! How the loop takes requests out of its pending list. -/
namespace CameraBroker.Broker

theorem firstClose?_cons {r : Request} (hr : ∀ i, r ≠ .close i) (rs : List Request) :
    firstClose? (r :: rs) = (firstClose? rs).map fun x => (x.1, r :: x.2) := by
  cases r with
  | close i => exact absurd rfl (hr i)
  | «open» h share => rfl
  | closeAll => rfl

theorem firstClose?_eq_none {rs : List Request} (h : firstClose? rs = none) (i : SessionId) :
    .close i ∉ rs := by
  induction rs with
  | nil => exact List.not_mem_nil
  | cons r rs ih =>
    by_cases hr : ∃ j, r = .close j
    · obtain ⟨j, rfl⟩ := hr
      cases h
    · have hr : ∀ j, r ≠ .close j := fun j hj => hr ⟨j, hj⟩
      rw [firstClose?_cons hr, Option.map_eq_none_iff] at h
      exact List.not_mem_cons_of_ne_of_not_mem (hr i).symm (ih h)

/-- The first close is taken out, and everything else keeps its place. -/
theorem firstClose?_eq_some {rs rest : List Request} {i : SessionId}
    (h : firstClose? rs = some (i, rest)) :
    ∃ before after, rs = before ++ .close i :: after ∧ rest = before ++ after ∧
      ∀ j, .close j ∉ before := by
  induction rs generalizing rest with
  | nil => cases h
  | cons r rs ih =>
    by_cases hr : ∃ j, r = .close j
    · obtain ⟨j, rfl⟩ := hr
      cases h
      exact ⟨[], rs, rfl, rfl, fun _ => List.not_mem_nil⟩
    · have hr : ∀ j, r ≠ .close j := fun j hj => hr ⟨j, hj⟩
      rw [firstClose?_cons hr, Option.map_eq_some_iff] at h
      obtain ⟨⟨j, rest'⟩, found, same⟩ := h
      cases same
      obtain ⟨before, after, rfl, rfl, none⟩ := ih found
      exact ⟨r :: before, after, rfl, rfl, fun j =>
        List.not_mem_cons_of_ne_of_not_mem (hr j).symm (none j)⟩

theorem lastCloseAll?_eq_none {rs : List Request} (h : lastCloseAll? rs = none) :
    .closeAll ∉ rs := by
  induction rs with
  | nil => exact List.not_mem_nil
  | cons r rs ih =>
    unfold lastCloseAll? at h
    split at h
    · cases h
    · rename_i none
      split at h
      · cases h
      · rename_i hr
        intro hmem
        rcases List.mem_cons.1 hmem with rfl | hmem
        · exact hr rfl
        · exact ih none hmem

/-- The requests are split after the last close-all. -/
theorem lastCloseAll?_eq_some {rs before after : List Request}
    (h : lastCloseAll? rs = some (before, after)) :
    rs = before ++ after ∧ .closeAll ∈ before ∧ .closeAll ∉ after := by
  induction rs generalizing before with
  | nil => cases h
  | cons r rs ih =>
    unfold lastCloseAll? at h
    split at h
    · rename_i before' after' found
      cases h
      obtain ⟨rfl, last, none⟩ := ih found
      exact ⟨rfl, List.mem_cons_of_mem _ last, none⟩
    · rename_i none
      split at h
      · rename_i hr
        cases h
        exact ⟨rfl, by simp [hr], lastCloseAll?_eq_none none⟩
      · cases h

theorem lastCloseAll?_concat {rs before after : List Request}
    (h : lastCloseAll? rs = some (before, after)) : ∃ front, before = front ++ [.closeAll] := by
  induction rs generalizing before with
  | nil => cases h
  | cons r rs ih =>
    unfold lastCloseAll? at h
    split at h
    · rename_i before' after' found
      cases h
      obtain ⟨front, rfl⟩ := ih found
      exact ⟨r :: front, rfl⟩
    · split at h
      · rename_i hr
        cases h
        exact ⟨[], by rw [hr]; rfl⟩
      · cases h

/-- Without a close and a close-all the oldest request is an open. -/
theorem exists_open_of_none {r : Request} {rs : List Request}
    (noClose : firstClose? (r :: rs) = none) (noCloseAll : lastCloseAll? (r :: rs) = none) :
    ∃ h share, r = .open h share := by
  cases r with
  | «open» h share => exact ⟨h, share, rfl⟩
  | close i => exact absurd List.mem_cons_self (firstClose?_eq_none noClose i)
  | closeAll => exact absurd List.mem_cons_self (lastCloseAll?_eq_none noCloseAll)

end CameraBroker.Broker
