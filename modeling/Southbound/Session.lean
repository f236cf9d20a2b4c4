import Southbound.Call

/-!
# Keys and sessions

A session to a device can only be opened while the credential store holds a key for it.  Opening a
session that is open, and closing one that is not, changes nothing and publishes nothing, so the
published events tell exactly which sessions are open.
-/

namespace Southbound

/-- The credentials that the credential store holds. -/
abbrev Keys := SortedMap Identity Credentials

/-- The devices with an open session. -/
abbrev Sessions := SortedSet Identity

namespace Sessions

/-- Opens the session to a device. -/
def openTo (s : Sessions) (keys : Keys) (id : Identity) :
    Except CollaboratorError (Sessions × List Occurrence) :=
  match keys.get? id with
  | none => .error (.session s!"no credentials for {id}")
  | some c =>
    if s.contains id then .ok (s, [])
    else .ok (s.insert id (),
      [.logged (.sessionOpened id c.username), .sessionChanged ⟨.added, id⟩])

/-- Closes the session to a device, with or without ceremony. -/
def closeTo (s : Sessions) (id : Identity) (force : Bool) : Sessions × List Occurrence :=
  if s.contains id then
    (s.erase id, [.logged (.sessionClosed id force), .sessionChanged ⟨.removed, id⟩])
  else (s, [])

/-- Opening is refused without credentials, does nothing to a session that is open, and opens any
other. -/
theorem of_openTo {s s' : Sessions} {keys : Keys} {id : Identity} {seen : List Occurrence}
    (opened : s.openTo keys id = .ok (s', seen)) :
    ∃ c, keys.get? id = some c ∧
      (s.contains id = true ∧ s' = s ∧ seen = [] ∨
        s.contains id = false ∧ s' = s.insert id () ∧
          seen = [.logged (.sessionOpened id c.username), .sessionChanged ⟨.added, id⟩]) := by
  unfold openTo at opened
  cases key : keys.get? id with
  | none =>
    rw [key] at opened
    cases opened
  | some c =>
    rw [key] at opened
    refine ⟨c, rfl, ?_⟩
    cases isOpen : s.contains id with
    | true =>
      cases (if_pos isOpen).symm.trans opened
      exact .inl ⟨rfl, rfl, rfl⟩
    | false =>
      cases (if_neg (Bool.eq_false_iff.1 isOpen)).symm.trans opened
      exact .inr ⟨rfl, rfl, rfl⟩

/-- Closing does nothing to a session that is not open. -/
theorem closeTo_cases (s : Sessions) (id : Identity) (force : Bool) :
    s.contains id = true ∧ s.closeTo id force = (s.erase id,
        [.logged (.sessionClosed id force), .sessionChanged ⟨.removed, id⟩]) ∨
      s.contains id = false ∧ s.closeTo id force = (s, []) := by
  cases isOpen : s.contains id with
  | true => exact .inl ⟨rfl, if_pos isOpen⟩
  | false => exact .inr ⟨rfl, if_neg (Bool.eq_false_iff.1 isOpen)⟩

end Sessions

end Southbound
