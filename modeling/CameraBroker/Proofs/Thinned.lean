import CameraBroker.Proofs.Fates
import CameraBroker.Proofs.Requests

/-! Lists of requests from which some opens are taken out. Marks tell of the first opens of a list, in
their order, whether they are taken. The closes that a list holds, the requests before and after its
last close-all, and the order of all that is left stay what they are. -/
namespace CameraBroker

namespace Request

def opens (rs : List Request) : List HandleId := rs.filterMap handle?

@[simp] theorem opens_nil : opens [] = [] := rfl

@[simp] theorem opens_append (rs more : List Request) :
    opens (rs ++ more) = opens rs ++ opens more := List.filterMap_append

theorem opens_other {r : Request} (other : r.handle? = none) (rs : List Request) :
    opens (r :: rs) = opens rs := List.filterMap_cons_none other

end Request

open Request

/-- The opens with a mark are taken out of the first list, and the second one is left. -/
inductive Thins : List Bool → List Request → List Request → Prop where
  | rest (rs : List Request) : Thins [] rs rs
  | keep {marks : List Bool} {rs rs' : List Request} (h : HandleId) (share : Bool)
      (thins : Thins marks rs rs') :
      Thins (false :: marks) (.open h share :: rs) (.open h share :: rs')
  | drop {marks : List Bool} {rs rs' : List Request} (h : HandleId) (share : Bool)
      (thins : Thins marks rs rs') : Thins (true :: marks) (.open h share :: rs) rs'
  | pass {marks : List Bool} {rs rs' : List Request} {r : Request} (other : r.handle? = none)
      (thins : Thins marks rs rs') : Thins marks (r :: rs) (r :: rs')

namespace Thins
variable {marks : List Bool} {rs rs' : List Request}

/-- What comes behind is not touched. -/
theorem append (thins : Thins marks rs rs') (more : List Request) :
    Thins marks (rs ++ more) (rs' ++ more) := by
  induction thins with
  | rest rs => exact .rest _
  | keep h share _ ih => exact .keep h share ih
  | drop h share _ ih => exact .drop h share ih
  | pass other _ ih => exact .pass other ih

/-- The closes of single sessions are all there. -/
theorem filter_isClose (thins : Thins marks rs rs') :
    rs'.filter Request.isClose = rs.filter Request.isClose := by
  induction thins with
  | rest rs => rfl
  | keep h share _ ih => simpa [Request.isClose] using ih
  | drop h share _ ih => simpa [Request.isClose] using ih
  | pass other _ ih => simp [List.filter_cons, ih]

/-- The oldest request is still the oldest, unless it is taken. -/
theorem head {r : Request} (thins : Thins marks (r :: rs) rs')
    (stays : r.handle? = none ∨ marks.head? ≠ some true) :
    ∃ left, rs' = r :: left ∧ Thins (marks.drop (opens [r]).length) rs left := by
  cases thins with
  | rest => exact ⟨rs, rfl, by simpa using .rest rs⟩
  | keep h share thins => exact ⟨_, rfl, thins⟩
  | drop h share thins =>
    rcases stays with other | unmarked
    · cases other
    · exact absurd rfl unmarked
  | pass other thins => exact ⟨_, rfl, by simpa [opens_other other] using thins⟩

/-- The oldest request is taken, if it is an open with a mark. -/
theorem of_marked {h : HandleId} {share : Bool} (thins : Thins marks (.open h share :: rs) rs')
    (marked : marks.head? = some true) : Thins (marks.drop 1) rs rs' := by
  cases thins with
  | rest => cases marked
  | keep => cases marked
  | drop h share thins => exact thins
  | pass other => cases other

theorem nil (thins : Thins marks [] rs') : rs' = [] := by
  cases thins
  rfl

theorem firstClose?_none (thins : Thins marks rs rs')
    (none : Broker.firstClose? rs = none) : Broker.firstClose? rs' = .none := by
  induction thins with
  | rest rs => exact none
  | keep h share _ ih =>
    rw [Broker.firstClose?_cons (by simp)] at none ⊢
    rw [ih (Option.map_eq_none_iff.1 none)]
    rfl
  | drop h share _ ih =>
    rw [Broker.firstClose?_cons (by simp)] at none
    exact ih (Option.map_eq_none_iff.1 none)
  | @pass _ _ _ r other _ ih =>
    cases r with
    | close i => cases none
    | «open» h share => cases other
    | closeAll =>
      rw [Broker.firstClose?_cons (by simp)] at none ⊢
      rw [ih (Option.map_eq_none_iff.1 none)]
      rfl

/-- The first close is the same one. -/
theorem firstClose?_some (thins : Thins marks rs rs') {i : SessionId} {rest : List Request}
    (some : Broker.firstClose? rs = some (i, rest)) :
    ∃ rest', Broker.firstClose? rs' = .some (i, rest') ∧ Thins marks rest rest' := by
  induction thins generalizing rest with
  | rest rs => exact ⟨rest, some, .rest rest⟩
  | keep h share _ ih =>
    rw [Broker.firstClose?_cons (by simp)] at some
    obtain ⟨⟨j, others⟩, found, same⟩ := Option.map_eq_some_iff.1 some
    cases same
    obtain ⟨others', found', thins⟩ := ih found
    exact ⟨_, by rw [Broker.firstClose?_cons (by simp), found']; rfl, .keep h share thins⟩
  | drop h share _ ih =>
    rw [Broker.firstClose?_cons (by simp)] at some
    obtain ⟨⟨j, others⟩, found, same⟩ := Option.map_eq_some_iff.1 some
    cases same
    obtain ⟨others', found', thins⟩ := ih found
    exact ⟨others', found', .drop h share thins⟩
  | @pass _ _ _ r other thins ih =>
    cases r with
    | close j =>
      cases some
      exact ⟨_, rfl, thins⟩
    | «open» h share => cases other
    | closeAll =>
      rw [Broker.firstClose?_cons (by simp)] at some
      obtain ⟨⟨j, others⟩, found, same⟩ := Option.map_eq_some_iff.1 some
      cases same
      obtain ⟨others', found', thins⟩ := ih found
      exact ⟨_, by rw [Broker.firstClose?_cons (by simp), found']; rfl, .pass other thins⟩

/-- How the last close-all of a list is found behind its first request. -/
theorem lastCloseAll?_cons (r : Request) (rs : List Request) :
    Broker.lastCloseAll? (r :: rs) = match Broker.lastCloseAll? rs with
      | some (before, after) => some (r :: before, after)
      | none => if r = .closeAll then some ([r], rs) else none := rfl

theorem lastCloseAll?_none (thins : Thins marks rs rs')
    (none : Broker.lastCloseAll? rs = none) : Broker.lastCloseAll? rs' = .none := by
  have tail : ∀ {r : Request} {rs : List Request}, Broker.lastCloseAll? (r :: rs) = .none →
      Broker.lastCloseAll? rs = .none ∧ r ≠ .closeAll := by
    intro r rs none
    rw [lastCloseAll?_cons] at none
    cases found : Broker.lastCloseAll? rs with
    | some split => simp [found] at none
    | none => exact ⟨rfl, by simpa [found] using none⟩
  induction thins with
  | rest rs => exact none
  | keep h share _ ih =>
    rw [lastCloseAll?_cons, ih (tail none).1]
    rfl
  | drop h share _ ih => exact ih (tail none).1
  | pass other _ ih =>
    rw [lastCloseAll?_cons, ih (tail none).1]
    exact if_neg (tail none).2

/-- The last close-all parts what is left as it parts the whole list. -/
theorem lastCloseAll?_some (thins : Thins marks rs rs') {before after : List Request}
    (some : Broker.lastCloseAll? rs = some (before, after)) :
    ∃ before' after', Broker.lastCloseAll? rs' = .some (before', after') ∧
      Thins (marks.take (opens before).length) before before' ∧
      Thins (marks.drop (opens before).length) after after' := by
  induction thins generalizing before with
  | rest rs =>
    refine ⟨before, after, some, ?_, ?_⟩
    · simpa using .rest before
    · simpa using .rest after
  | @keep marks rs rs' h share _ ih =>
    rw [lastCloseAll?_cons] at some
    cases found : Broker.lastCloseAll? rs with
    | none => simp [found] at some
    | some split =>
      obtain ⟨front, back⟩ := split
      obtain ⟨rfl, rfl⟩ : .open h share :: front = before ∧ back = after := by
        simpa [found] using some
      obtain ⟨front', back', found', first, second⟩ := ih found
      exact ⟨.open h share :: front', back', by rw [lastCloseAll?_cons, found'],
        .keep h share first, second⟩
  | @drop marks rs rs' h share _ ih =>
    rw [lastCloseAll?_cons] at some
    cases found : Broker.lastCloseAll? rs with
    | none => simp [found] at some
    | some split =>
      obtain ⟨front, back⟩ := split
      obtain ⟨rfl, rfl⟩ : .open h share :: front = before ∧ back = after := by
        simpa [found] using some
      obtain ⟨front', back', found', first, second⟩ := ih found
      exact ⟨front', back', found', .drop h share first, second⟩
  | @pass marks rs rs' r other thins ih =>
    rw [lastCloseAll?_cons] at some
    cases found : Broker.lastCloseAll? rs with
    | none =>
      have none' := lastCloseAll?_none thins found
      obtain ⟨rfl, rfl, rfl⟩ : r = .closeAll ∧ [r] = before ∧ rs = after := by
        simpa [found] using some
      exact ⟨[.closeAll], rs', by rw [lastCloseAll?_cons, none']; rfl, .pass rfl (.rest []),
        thins⟩
    | some split =>
      obtain ⟨front, back⟩ := split
      obtain ⟨rfl, rfl⟩ : r :: front = before ∧ back = after := by simpa [found] using some
      obtain ⟨front', back', found', first, second⟩ := ih found
      rw [opens_other other]
      exact ⟨r :: front', back', by rw [lastCloseAll?_cons, found'], .pass other first, second⟩

end Thins

/-- Taking out the first close takes out no open. -/
theorem opens_of_firstClose? {rs rest : List Request} {i : SessionId}
    (some : Broker.firstClose? rs = some (i, rest)) : opens rest = opens rs := by
  obtain ⟨before, after, rfl, rfl, -⟩ := Broker.firstClose?_eq_some some
  simp [opens_other (r := .close i) rfl]

end CameraBroker
