import Workspace.Proofs.Nesting

/-! Places in a value, named by the keys that lead to them. Something is put in its place by
changing the objects on the way and nothing else; where there is none on the way, an object
is made. -/
namespace Workspace.Json

/-- What stands under a key; null if nothing does. -/
def member (v : Json) (key : String) : Json := (v.asDict.get? key).getD .null

/-- The object with one member set, the others as they are. -/
def setMember (v : Json) (key : String) (x : Json) : Json := .object (v.asDict.insert key x)

/-- What stands at the end of a path. -/
def getPath (v : Json) : List String → Json
  | [] => v
  | key :: path => (v.member key).getPath path

/-- The value with `x` at the end of a path. -/
def setPath (v : Json) (path : List String) (x : Json) : Json :=
  match path with
  | [] => x
  | key :: path => v.setMember key ((v.member key).setPath path x)

lemma member_setMember (v : Json) (key : String) (x : Json) (k : String) :
    (v.setMember key x).member k = if k = key then x else v.member k := by
  simp only [member, setMember, asDict, Dict.get?_insert]
  split <;> rfl

lemma getPath_append (v : Json) (p q : List String) :
    v.getPath (p ++ q) = (v.getPath p).getPath q := by
  induction p generalizing v with
  | nil => rfl
  | cons key p ih => exact ih (v.member key)

lemma setPath_append (v : Json) (p q : List String) (x : Json) :
    v.setPath (p ++ q) x = v.setPath p ((v.getPath p).setPath q x) := by
  induction p generalizing v with
  | nil => rfl
  | cons key p ih => exact congrArg (v.setMember key) (ih (v.member key))

/-- What was put in a place is found there. -/
theorem getPath_setPath (v : Json) (p : List String) (x : Json) :
    (v.setPath p x).getPath p = x := by
  induction p generalizing v with
  | nil => rfl
  | cons key p ih => rw [setPath, getPath, member_setMember, if_pos rfl, ih]

/-- Whatever a path to another place leads to stays. -/
theorem getPath_setPath_other (v : Json) (p : List String) {k k' : String} (h : k' ≠ k)
    (q q' : List String) (x : Json) :
    (v.setPath (p ++ k :: q) x).getPath (p ++ k' :: q') = v.getPath (p ++ k' :: q') := by
  induction p generalizing v with
  | nil => simp only [List.nil_append, setPath, getPath, member_setMember, if_neg h]
  | cons key p ih => simp only [List.cons_append, setPath, getPath, member_setMember, if_true, ih]

section Nesting
variable {room limit : Nat} {v x : Json}

lemma Within.member (h : v.Within (room + 1)) (key : String) : (v.member key).Within room := by
  unfold Json.member
  cases hx : v.asDict.get? key with
  | none => exact within_flat room (by simp) (by simp)
  | some x =>
    cases v with
    | object m => exact h key x hx
    | _ => cases hx

lemma Within.setPath {p : List String} (h : v.Within limit) (hx : x.Within room)
    (fits : limit = p.length + room) : (v.setPath p x).Within limit := by
  induction p generalizing v limit with
  | nil =>
    obtain rfl : limit = room := by simpa using fits
    exact hx
  | cons key p ih =>
    obtain rfl : limit = p.length + room + 1 := by rw [fits, List.length_cons]; omega
    intro k y hy
    rw [Dict.get?_insert] at hy
    split at hy
    · cases hy
      exact ih (h.member key) rfl
    · cases v with
      | object m => exact h k y hy
      | _ => cases hy

end Nesting

end Workspace.Json
