import Workspace.Proofs.Brackets
import Workspace.Proofs.CutLexeme

/-! Lists and objects when their text is cut. A reader may tell a text from its parts: it reads the
text whatever follows, and any part of it has run out. Then a list or object of such texts that
is cut before its closing bracket is cut off: the part in which the cut falls has run out, and so
there is nothing to go on with behind it. -/
namespace Workspace.Json

/-- The reader tells the text from what is left of it when it is cut. -/
structure Tells {α : Type} (read : Reader α) (text : List Char) : Prop where
  start : ∃ c cs, text = c :: cs ∧ isSpace c = false ∧ c ≠ ']'
  skips : ∀ cs, read (skipSpace cs) = read cs
  whole : ∃ a, ∀ rest, EndsNumber rest → read (text ++ rest) = .ok (a, rest)
  cut : ∀ p, p <+: text → p ≠ text → RunsOut (read p)

section Tells
variable {α β : Type} {read : Reader α} {text further bs p : List Char}

lemma EndsNumber.initial (h : EndsNumber text) (hp : p <+: text) : EndsNumber p := by
  rintro c cs rfl
  obtain ⟨rest, same⟩ := hp
  exact h c (cs ++ rest) same.symm

lemma Blank.initial (h : Blank bs) (hp : p <+: bs) : Blank p := fun c hc => h c (hp.subset hc)

lemma Blank.skipSpace (h : Blank bs) : skipSpace bs = [] := by
  have skipped := skipSpace_append h []
  rwa [List.append_nil] at skipped

/-- What is left of a text and what follows it begins as the text does. -/
lemma Tells.start_initial (h : Tells read text) (hp : p <+: text ++ further) (nonempty : p ≠ []) :
    ∃ c cs, skipSpace p = c :: cs ∧ c ≠ ']' := by
  obtain ⟨c, cs, rfl, space, bracket⟩ := h.start
  rcases List.prefix_cons_iff.mp hp with rfl | ⟨q, rfl, _⟩
  · exact absurd rfl nonempty
  · exact ⟨c, q, skipSpace_cons space q, bracket⟩

/-- A cut in the text or in what follows, which is cut off from there on. -/
lemma Tells.cutOff_bind (h : Tells read text) (ends : EndsNumber further)
    (hp : p <+: text ++ further) {f : α × List Char → Except Fault β}
    (cutOff : ∀ a q, q <+: further → CutOff (f (a, q))) : CutOff (read p >>= f) := by
  rcases cut_append hp with ⟨inside, cut⟩ | ⟨q, rfl, hq⟩
  · exact (h.cut p inside cut).bind fun a => cutOff a [] List.nil_prefix
  · obtain ⟨a, whole⟩ := h.whole
    rw [whole q (ends.initial hq)]
    exact cutOff a q hq

end Tells

/-! Between brackets. -/

/-- What stands before a part. -/
def comma (first : Bool) : List Char := if first then [] else [',']

/-- The parts from one on, and what stands behind the last of them before the closing bracket. -/
def Style.onward (style : Style) (depth : Nat) (first : Bool) : List (List Char) → List Char
  | [] => if first then [] else style.lineBreak depth
  | part :: parts =>
    comma first ++ (style.lineBreak (depth + 1) ++ (part ++ style.onward depth false parts))

section Parts
variable {style : Style} {depth : Nat} {opening closing : Char} {parts : List (List Char)}
  {p bs cs : List Char} {first : Bool}

lemma behind_eq (style : Style) (depth : Nat) (closing : Char) (parts : List (List Char))
    (rest : List Char) :
    style.behind depth closing parts rest = style.onward depth false parts ++ closing :: rest := by
  induction parts with
  | nil => rfl
  | cons part parts ih => simp [behind_cons, Style.onward, comma, ih]

lemma enclose_eq (style : Style) (depth : Nat) (opening closing : Char)
    (parts : List (List Char)) : style.enclose depth opening closing parts =
      opening :: (style.onward depth true parts ++ [closing]) := by
  cases parts with
  | nil => rfl
  | cons part parts =>
    have split : style.enclose depth opening closing (part :: parts) ++ [] =
        opening :: (style.lineBreak (depth + 1) ++
          (part ++ style.behind depth closing parts [])) := enclose_cons opening
    rw [List.append_nil, behind_eq] at split
    simp [split, Style.onward, comma]

/-- A cut of what stands in brackets is a cut before the closing one. -/
lemma enclose_cut (hp : p <+: style.enclose depth opening closing parts)
    (cut : p ≠ style.enclose depth opening closing parts) :
    p = [] ∨ ∃ q, p = opening :: q ∧ q <+: style.onward depth true parts := by
  rw [enclose_eq] at hp cut
  rcases List.prefix_cons_iff.mp hp with rfl | ⟨q, rfl, hq⟩
  · exact Or.inl rfl
  · refine Or.inr ⟨q, rfl, (List.prefix_concat_iff.mp hq).resolve_left ?_⟩
    rintro rfl
    exact cut rfl

lemma endsNumber_onward (spaced : style.Spaced) (depth : Nat) (parts : List (List Char)) :
    EndsNumber (style.onward depth false parts) := by
  cases parts with
  | nil => exact endsNumber_blank (spaced.lineBreak depth)
  | cons part parts =>
    intro c cs same
    obtain rfl : ',' = c := (List.cons.inj same).1
    decide

/-- Where a text of parts is cut: before the first of them is reached, or behind the blanks before
it. -/
lemma onward_cut (spaced : style.Spaced) (hp : p <+: style.onward depth first parts) :
    Blank p ∨ (∃ bs, p = comma first ++ bs ∧ Blank bs) ∨
      ∃ part further bs q, parts = part :: further ∧ p = comma first ++ (bs ++ q) ∧ Blank bs ∧
        q <+: part ++ style.onward depth false further ∧ q ≠ [] := by
  cases parts with
  | nil =>
    refine Or.inl ?_
    cases first with
    | true => exact List.prefix_nil.mp hp ▸ blank_nil
    | false => exact (spaced.lineBreak depth).initial hp
  | cons part parts =>
    have blank := spaced.lineBreak (depth + 1)
    rcases cut_append hp with ⟨inside, cut⟩ | ⟨q, rfl, hq⟩
    · cases first with
      | true => exact absurd (List.prefix_nil.mp inside) cut
      | false =>
        rcases List.prefix_cons_iff.mp inside with rfl | ⟨q, rfl, hq⟩
        · exact Or.inl blank_nil
        · exact absurd (by rw [List.prefix_nil.mp hq]; rfl) cut
    rcases cut_append hq with ⟨inside, _⟩ | ⟨r, rfl, hr⟩
    · exact Or.inr (Or.inl ⟨q, rfl, blank.initial inside⟩)
    by_cases empty : r = []
    · subst empty
      exact Or.inr (Or.inl ⟨_, rfl, by simpa using blank⟩)
    · exact Or.inr (Or.inr ⟨part, parts, _, r, rfl, rfl, blank, hr, empty⟩)

end Parts

section Lists
variable {α : Type} {item : Reader α} {style : Style} {depth : Nat} {parts : List (List Char)}
  {p bs cs : List Char}

lemma cutOff_nextItem (first : Bool) (blank : Blank bs) : CutOff (nextItem first bs) := by
  rw [nextItem, blank.skipSpace]
  exact cutOff_error _

lemma cutOff_nextItem_comma (first : Bool) (blank : Blank bs) :
    CutOff (nextItem first (comma first ++ bs)) := by
  cases first with
  | true => exact cutOff_nextItem true blank
  | false =>
    rw [comma, nextItem, if_neg (by decide), List.singleton_append, skipSpace_cons (by decide)]
    simp [blank.skipSpace, CutOff]

lemma nextItem_comma (first : Bool) (blank : Blank bs)
    (start : ∃ c cs', skipSpace cs = c :: cs' ∧ c ≠ ']') :
    nextItem first (comma first ++ (bs ++ cs)) = .ok (true, skipSpace cs) := by
  cases first with
  | true => exact nextItem_first blank start
  | false => exact nextItem_next blank start

/-- A list that is cut before its closing bracket is cut off. -/
lemma cutOff_readItems (spaced : style.Spaced) (each : ∀ part ∈ parts, Tells item part)
    {first : Bool} (hp : p <+: style.onward depth first parts) (steps : Nat) :
    CutOff (readItems item steps first p) := by
  induction steps generalizing parts first p with
  | zero => exact cutOff_error _
  | succ steps ih =>
    rcases onward_cut spaced hp with blank | ⟨bs, rfl, blank⟩ |
      ⟨part, further, bs, q, rfl, rfl, blank, hq, nonempty⟩
    · exact (cutOff_nextItem first blank).bind _
    · exact (cutOff_nextItem_comma first blank).bind _
    · have tells := each part (by simp)
      have next := nextItem_comma first blank (tells.start_initial hq nonempty)
      simp only [readItems, next, bind, Except.bind, if_true]
      rw [tells.skips]
      exact tells.cutOff_bind (endsNumber_onward spaced depth further) hq fun a r hr =>
        (ih (fun part h => each part (by simp [h])) hr).bind _

end Lists

section Members
variable {style : Style} {depth : Nat} {members : List (String × List Char)} {key : String}
  {seen : Dict Json} {p bs cs : List Char}

lemma cutOff_nextKey (first : Bool) (blank : Blank bs) : CutOff (nextKey first bs) := by
  rw [nextKey, blank.skipSpace]
  exact cutOff_error _

lemma cutOff_nextKey_comma (first : Bool) (blank : Blank bs) :
    CutOff (nextKey first (comma first ++ bs)) := by
  cases first with
  | true => exact cutOff_nextKey true blank
  | false =>
    rw [comma, nextKey, if_neg (by decide), List.singleton_append, skipSpace_cons (by decide)]
    simp [blank.skipSpace, CutOff]

lemma nextKey_comma (first : Bool) (blank : Blank bs) (cs : List Char) :
    nextKey first (comma first ++ (bs ++ '"' :: cs)) = nextKey.key ('"' :: cs) := by
  have skip : skipSpace (bs ++ '"' :: cs) = '"' :: cs := by
    rw [skipSpace_append blank, skipSpace_cons (by decide)]
  cases first with
  | true =>
    rw [comma, if_pos rfl, List.nil_append, nextKey, skip]
    rfl
  | false =>
    rw [comma, if_neg (by decide), List.singleton_append, nextKey, skipSpace_cons (by decide)]
    simp only [skip]
    rfl

/-- A cut in a key, or behind it. -/
lemma nextKey_cut {further : List Char} (first : Bool) (blank : Blank bs)
    (hp : p <+: quote key ++ further) (nonempty : p ≠ []) :
    CutOff (nextKey first (comma first ++ (bs ++ p))) ∨
      ∃ q, q <+: further ∧ nextKey first (comma first ++ (bs ++ p)) = .ok (some key, q) := by
  rcases cut_append hp with ⟨inside, cut⟩ | ⟨q, rfl, hq⟩
  · rcases quote_cut inside cut with rfl | ⟨r, rfl, cutOff⟩
    · exact absurd rfl nonempty
    · rw [nextKey_comma first blank]
      exact Or.inl (cutOff.bind _)
  · refine Or.inr ⟨q, hq, ?_⟩
    rw [← key_quote key q]
    exact nextKey_comma first blank _

/-- A cut in the colon, in the value behind it, or in what follows. -/
lemma Tells.cutOff_dictMember {α : Type} {value : Reader Json} {text further : List Char}
    (h : Tells value text) (spaced : style.Spaced) (ends : EndsNumber further)
    (hp : p <+: style.colon ++ (text ++ further)) {f : Dict Json × List Char → Except Fault α}
    (cutOff : ∀ v q, q <+: further → CutOff (f (seen.insert key v, q))) :
    CutOff (dictMember value key seen p >>= f) := by
  obtain ⟨bs, colon, blank⟩ := spaced.colon
  rw [colon] at hp
  rcases List.prefix_cons_iff.mp hp with rfl | ⟨q, rfl, hq⟩
  · exact (cutOff_error _ : CutOff (dictMember value key seen [])).bind f
  have mark : readColon (':' :: q) = .ok ((), q) := by
    rw [readColon, skipSpace_cons (by decide)]
    rfl
  obtain ⟨r, hr, same⟩ : ∃ r, r <+: text ++ further ∧ value q = value r := by
    rcases cut_append hq with ⟨inside, _⟩ | ⟨r, rfl, hr⟩
    · exact ⟨[], List.nil_prefix, by rw [← h.skips q, (blank.initial inside).skipSpace]⟩
    · exact ⟨r, hr, by rw [← h.skips, skipSpace_append blank, h.skips]⟩
  have read : dictMember value key seen (':' :: q) >>= f =
      value r >>= fun a => f (seen.insert key a.1, a.2) := by
    simp only [dictMember, mark, bind, Except.bind, same]
    cases value r <;> rfl
  rw [read]
  exact h.cutOff_bind ends hr cutOff

/-- An object that is cut before its closing bracket is cut off, if a member whose key is new is
read by the reader for its key. -/
lemma cutOff_readMembers (spaced : style.Spaced) {value : String → Reader Json}
    {member : String → Dict Json → Reader (Dict Json)}
    (new : ∀ key seen cs, seen.contains key = false →
      member key seen cs = dictMember (value key) key seen cs)
    (each : ∀ m ∈ members, Tells (value m.1) m.2) (distinct : (members.map Prod.fst).Nodup)
    (absent : ∀ m ∈ members, seen.contains m.1 = false) {first : Bool}
    (hp : p <+: style.onward depth first (members.map fun m => style.member m.1 m.2))
    (steps : Nat) : CutOff (readMembers member steps first seen p) := by
  induction steps generalizing members seen first p with
  | zero => exact cutOff_error _
  | succ steps ih =>
    rcases onward_cut spaced hp with blank | ⟨bs, rfl, blank⟩ |
      ⟨part, further, bs, q, split, rfl, blank, hq, nonempty⟩
    · exact (cutOff_nextKey first blank).bind _
    · exact (cutOff_nextKey_comma first blank).bind _
    obtain ⟨⟨key, text⟩, members, rfl, rfl, rfl⟩ := List.map_eq_cons_iff.mp split
    rw [member_append] at hq
    rcases nextKey_cut first blank hq nonempty with cutOff | ⟨r, hr, read⟩
    · exact cutOff.bind _
    rw [List.map_cons, List.nodup_cons] at distinct
    simp only [readMembers, read, bind, Except.bind]
    rw [new key seen r (absent (key, text) (by simp))]
    refine (each (key, text) (by simp)).cutOff_dictMember spaced
      (endsNumber_onward spaced depth _) hr fun v q hq => ?_
    refine ih (fun m hm => each m (by simp [hm])) distinct.2 (fun m hm => ?_) hq
    have there : m.1 ∈ members.map Prod.fst := List.mem_map_of_mem hm
    have other : m.1 ≠ key := fun same => distinct.1 (same ▸ there)
    rw [Chain.contains, Dict.get?_insert, if_neg other]
    exact absent m (by simp [hm])

end Members

end Workspace.Json
