import Mathlib.Tactic.Common
import Workspace.Dict.Lemmas
import Workspace.Environment

/-! Document equality. It is structural but for the sign of zero doubles, so it holds of a
document and itself; and two dictionaries are equal just if their look-ups are. -/
namespace Workspace
variable {α : Type} {lo lo' : Option String}

/-- Both are missing, or both are there and the same. -/
def alike (same : α → α → Bool) : Option α → Option α → Bool
  | none, none => true
  | some a, some b => same a b
  | _, _ => false

lemma alike_refl {same : α → α → Bool} (refl : ∀ a, same a a = true) (a? : Option α) :
    alike same a? a? = true := by
  cases a? with
  | none => rfl
  | some a => exact refl a

lemma isSome_eq_of_alike {same : α → α → Bool} {a? b? : Option α}
    (h : alike same a? b? = true) : a?.isSome = b?.isSome := by
  cases a? <;> cases b? <;> simp_all [alike]

namespace Chain

/-- Equality is a matter of the look-ups, under whichever bounds the chains stand. -/
theorem agree_iff {same : α → α → Bool} {m : Chain α lo} {m' : Chain α lo'} :
    m.agree same m' = true ↔ ∀ k, alike same (m.get? k) (m'.get? k) = true := by
  induction m generalizing lo' with
  | nil =>
    cases m' with
    | nil => simp [agree, get?, alike]
    | cons key' above' a' rest' =>
      simp only [agree, Bool.false_eq_true, false_iff, not_forall]
      exact ⟨key', by simp [get?, alike]⟩
  | cons key above a rest ih =>
    cases m' with
    | nil =>
      simp only [agree, Bool.false_eq_true, false_iff, not_forall]
      exact ⟨key, by simp [get?, alike]⟩
    | cons key' above' a' rest' =>
      simp only [agree, Bool.and_eq_true, beq_iff_eq]
      constructor
      · rintro ⟨⟨rfl, head⟩, tail⟩ k
        by_cases hk : k = key
        · simpa [get?, hk, alike] using head
        · simpa [get?, hk] using ih.mp tail k
      · intro h
        have hkey : key = key' := first_key_eq fun k => isSome_eq_of_alike (h k)
        subst hkey
        refine ⟨⟨rfl, by simpa [get?, alike] using h key⟩, ih.mpr fun k => ?_⟩
        by_cases hk : k = key
        · simp [hk, get?_rest_self, alike]
        · simpa [get?, hk] using h k

end Chain

namespace Json

lemma Number.same_refl (n : Number) : n.same n = true := by
  cases n <;> simp [Number.same, Binary64.same]

mutual

lemma same_refl : (v : Json) → v.same v = true
  | .null => rfl
  | .bool _ => by simp [same]
  | .number n => by simp [same, n.same_refl]
  | .string _ => by simp [same]
  | .list items => by rw [same, sameItems_refl items]
  | .object members => by rw [same, sameMembers_refl members]

lemma sameItems_refl : (items : List Json) → sameItems items items = true
  | [] => rfl
  | v :: rest => by simp [sameItems, same_refl v, sameItems_refl rest]

lemma sameMembers_refl {lo : Option String} : (members : Chain Json lo) →
    sameMembers members members = true
  | .nil => rfl
  | .cons _ _ v rest => by simp [sameMembers, same_refl v, sameMembers_refl rest]

end

end Json

lemma Chain.agree_refl {same : α → α → Bool} (refl : ∀ a, same a a = true) (m : Chain α lo) :
    m.agree same m = true :=
  Chain.agree_iff.mpr fun k => alike_refl refl (m.get? k)

lemma Presence.agree_refl {same : α → α → Bool} (refl : ∀ a, same a a = true)
    (p : Presence α) : p.agree same p = true := by
  cases p with
  | absent | null => rfl
  | set a => exact refl a

lemma Server.same_refl (s : Server) : s.same s = true := Chain.agree_refl Json.same_refl _

lemma Servers.same_refl (s : Servers) : s.same s = true := Chain.agree_refl Server.same_refl s

lemma Recipe.same_refl (r : Recipe) : r.same r = true := by
  simp [Recipe.same, Chain.agree_refl Json.same_refl]

lemma MachineConfig.same_refl (c : MachineConfig) : c.same c = true := by
  simp [MachineConfig.same, Presence.agree_refl (Chain.agree_refl Json.same_refl),
    Presence.agree_refl Servers.same_refl, Chain.agree_refl Json.same_refl]

end Workspace
