/-! Text taken apart at a separator. There is always one part more than separators, and
empty parts are kept. -/
namespace Workspace.Text

def split (separator : Char) : List Char → List (List Char)
  | [] => [[]]
  | c :: cs =>
    if c = separator then [] :: split separator cs
    else match split separator cs with
      | [] => [[c]]
      | part :: parts => (c :: part) :: parts

/-- The parts of a text between separators. -/
def parts (separator : Char) (s : String) : List String :=
  (split separator s.toList).map String.ofList

theorem split_ne_nil (separator : Char) (cs : List Char) : split separator cs ≠ [] := by
  induction cs with
  | nil => simp [split]
  | cons c cs ih =>
    unfold split
    split
    · simp
    · split <;> simp

/-- A part without separators, and what stands behind the separator that ends it. -/
theorem split_append_cons {separator : Char} {part : List Char} (h : separator ∉ part)
    (cs : List Char) :
    split separator (part ++ separator :: cs) = part :: split separator cs := by
  induction part with
  | nil => simp [split]
  | cons c part ih =>
    have hc : c ≠ separator := fun e => h (by simp [e])
    have hp : separator ∉ part := fun e => h (by simp [e])
    simp [split, hc, ih hp]

theorem length_split (separator : Char) (cs : List Char) :
    (split separator cs).length = cs.count separator + 1 := by
  induction cs with
  | nil => rfl
  | cons c cs ih =>
    have hne := split_ne_nil separator cs
    unfold split
    split
    · rename_i e
      simp [ih, e]
    · rename_i e
      split
      · contradiction
      · rename_i part parts hs
        rw [hs] at ih
        simpa [e] using ih

end Workspace.Text
