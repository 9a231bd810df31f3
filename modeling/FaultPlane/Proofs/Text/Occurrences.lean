import Mathlib.Data.List.Infix
import FaultPlane.Text.Find

/-!
# Occurrences in a text

Deleting a text everywhere leaves what stands between its occurrences (`deleted_deleteAll`). That is
the text itself if there is no occurrence, and a shorter one else (`length_deleteAll`). A marker at
the start makes no difference to what is left, and a marker at the end makes none if it cannot
overlap itself.
-/

namespace FaultPlane.Text

/-! ### Lists of characters -/

section

variable {pat : List Char}

theorem afterPrefix?_eq_some {cs rest : List Char} :
    afterPrefix? pat cs = some rest ↔ cs = pat ++ rest := by
  induction pat generalizing cs with
  | nil => simp [afterPrefix?]
  | cons p pat ih =>
    cases cs with
    | nil => simp [afterPrefix?]
    | cons c cs =>
      by_cases h : p = c
      · simp [afterPrefix?, h, ih]
      · simp [afterPrefix?, h, Ne.symm h]

theorem deleteFrom_eq_drop (skip : Nat) (cs : List Char) :
    deleteFrom pat skip cs = deleteFrom pat 0 (cs.drop skip) := by
  induction skip generalizing cs with
  | zero => rfl
  | succ skip ih =>
    cases cs with
    | nil => rfl
    | cons c cs => exact ih cs

theorem deleteFrom_prefix (hne : pat ≠ []) (cs : List Char) :
    deleteFrom pat 0 (pat ++ cs) = deleteFrom pat 0 cs := by
  cases pat with
  | nil => exact absurd rfl hne
  | cons p ps =>
    have hprefix : (p :: ps).isPrefixOf (p :: (ps ++ cs)) = true :=
      List.isPrefixOf_iff_prefix.2 (List.prefix_append (p :: ps) cs)
    rw [List.cons_append, deleteFrom, if_pos hprefix, deleteFrom_eq_drop]
    simp

theorem deleteFrom_cons {c : Char} {cs : List Char} (h : ¬ pat <+: c :: cs) :
    deleteFrom pat 0 (c :: cs) = c :: deleteFrom pat 0 cs := by
  rw [deleteFrom, if_neg fun hprefix => h (List.isPrefixOf_iff_prefix.1 hprefix)]

/-- A text is cut up by its occurrences from the left, and what stands between them is left. -/
theorem exists_parts (hne : pat ≠ []) (cs : List Char) :
    ∃ part parts, cs = pat.intercalate (part :: parts) ∧
      deleteFrom pat 0 cs = (part :: parts).flatten ∧
        ∀ piece ∈ part :: parts, ¬ pat <:+: piece := by
  induction hlength : cs.length using Nat.strong_induction_on generalizing cs with
  | _ n ih =>
    subst hlength
    cases cs with
    | nil =>
      refine ⟨[], [], rfl, rfl, ?_⟩
      simpa using hne
    | cons c cs =>
      by_cases hprefix : pat <+: c :: cs
      · obtain ⟨rest, hrest⟩ := hprefix
        have hpos : 0 < pat.length := List.length_pos_iff.2 hne
        have hshorter : rest.length < (c :: cs).length := by
          rw [← hrest, List.length_append]
          omega
        obtain ⟨part, parts, hcut, hleft, hfree⟩ := ih rest.length hshorter rest rfl
        refine ⟨[], part :: parts, ?_, ?_, ?_⟩
        · rw [List.intercalate_cons_cons, ← hcut, ← hrest, List.nil_append]
        · rw [← hrest, deleteFrom_prefix hne, hleft]
          simp
        · rw [List.forall_mem_cons]
          exact ⟨by simpa using hne, hfree⟩
      · obtain ⟨part, parts, hcut, hleft, hfree⟩ := ih cs.length (Nat.lt_succ_self _) cs rfl
        have hcons : c :: cs = pat.intercalate ((c :: part) :: parts) := by
          rw [hcut]
          cases parts <;> simp
        refine ⟨c :: part, parts, hcons, ?_, ?_⟩
        · rw [deleteFrom_cons hprefix, hleft]
          simp
        · rw [List.forall_mem_cons] at hfree ⊢
          refine ⟨?_, hfree.2⟩
          rw [List.infix_cons_iff]
          rintro (here | later)
          · have hfront : c :: part <+: c :: cs := by
              rw [hcons]
              cases parts <;> simp
            exact hprefix (here.trans hfront)
          · exact hfree.1 later

theorem length_intercalate (part : List Char) (parts : List (List Char)) :
    (pat.intercalate (part :: parts)).length =
      (part :: parts).flatten.length + parts.length * pat.length := by
  induction parts generalizing part with
  | nil => simp
  | cons next parts ih =>
    have hrest := ih next
    simp only [List.intercalate_cons_cons, List.length_append, List.flatten_cons, List.length_cons,
      Nat.succ_mul] at hrest ⊢
    omega

theorem length_deleteFrom (hne : pat ≠ []) (cs : List Char) :
    ∃ count, cs.length = (deleteFrom pat 0 cs).length + count * pat.length ∧
      (count = 0 ↔ ¬ pat <:+: cs) := by
  obtain ⟨part, parts, hcut, hleft, hfree⟩ := exists_parts hne cs
  refine ⟨parts.length, ?_, ?_⟩
  · rw [hleft, hcut]
    exact length_intercalate part parts
  · cases parts with
    | nil =>
      have hself : cs = part := by simpa using hcut
      have hnone : ¬ pat <:+: cs := by
        rw [hself]
        exact hfree part List.mem_cons_self
      simp [hnone]
    | cons next parts =>
      have hinside : pat <:+: cs := by
        rw [hcut, List.intercalate_cons_cons]
        exact List.infix_append part pat _
      simp [hinside]

theorem deleteFrom_of_not_infix (hne : pat ≠ []) {cs : List Char} (h : ¬ pat <:+: cs) :
    deleteFrom pat 0 cs = cs := by
  obtain ⟨part, parts, hcut, hleft, -⟩ := exists_parts hne cs
  cases parts with
  | nil =>
    rw [hleft, hcut]
    simp
  | cons next parts =>
    refine absurd ?_ h
    rw [hcut, List.intercalate_cons_cons]
    exact List.infix_append part pat _

end

/-! ### Texts that cannot overlap themselves -/

section

variable {p : Char} {ps : List Char} (once : p ∉ ps)

include once

theorem deleteFrom_append {part : List Char} (free : ¬ p :: ps <:+: part) (cs : List Char) :
    deleteFrom (p :: ps) 0 (part ++ (p :: ps) ++ cs) = part ++ deleteFrom (p :: ps) 0 cs := by
  induction part with
  | nil => exact deleteFrom_prefix (List.cons_ne_nil p ps) cs
  | cons c part ih =>
    rw [List.infix_cons_iff, not_or] at free
    have hnot : ¬ p :: ps <+: c :: (part ++ (p :: ps) ++ cs) := by
      intro hprefix
      have hpart : c :: part <+: c :: (part ++ (p :: ps) ++ cs) := ⟨(p :: ps) ++ cs, by simp⟩
      rcases List.prefix_or_prefix_of_prefix hprefix hpart with inside | ⟨rest, hrest⟩
      · exact free.1 inside
      -- The occurrence reaches into the next one, so its first character comes again in it.
      · obtain ⟨tail, htail⟩ := hprefix
        have hsplit : rest ++ tail = (p :: ps) ++ cs := by
          have hwhole : (c :: part) ++ (rest ++ tail) = (c :: part) ++ ((p :: ps) ++ cs) := by
            rw [← List.append_assoc, hrest, htail]
            simp
          exact List.append_cancel_left hwhole
        cases rest with
        | nil => exact free.1 ⟨[], by simpa using hrest.symm⟩
        | cons q rest =>
          obtain rfl : q = p := by
            simp only [List.cons_append, List.cons.injEq] at hsplit
            exact hsplit.1
          refine once ?_
          simp only [List.cons_append, List.cons.injEq] at hrest
          rw [← hrest.2]
          simp
    rw [List.cons_append, List.cons_append, deleteFrom_cons hnot, ih free.2, List.cons_append]

theorem deleteFrom_suffix (cs : List Char) :
    deleteFrom (p :: ps) 0 (cs ++ (p :: ps)) = deleteFrom (p :: ps) 0 cs := by
  obtain ⟨part, parts, rfl, hleft, hfree⟩ := exists_parts (List.cons_ne_nil p ps) cs
  rw [hleft]
  clear hleft
  induction parts generalizing part with
  | nil =>
    have hlast := deleteFrom_append once (hfree part List.mem_cons_self) []
    simpa [deleteFrom] using hlast
  | cons next parts ih =>
    rw [List.forall_mem_cons] at hfree
    rw [List.intercalate_cons_cons, List.append_assoc (part ++ (p :: ps)),
      deleteFrom_append once hfree.1, ih next hfree.2]
    simp

end

/-! ### Occurrences beside other characters -/

theorem occurs_iff {pat cs : List Char} : occurs pat cs = true ↔ pat <:+: cs := by
  induction cs with
  | nil => simp [occurs]
  | cons c cs ih =>
    rw [occurs, Bool.or_eq_true, List.isPrefixOf_iff_prefix, ih, List.infix_cons_iff]

section

variable {pat : List Char} {p : Char}

theorem infix_append_of_head {front : List Char} (h : p ∉ front) (cs : List Char) :
    p :: pat <:+: front ++ cs ↔ p :: pat <:+: cs := by
  induction front with
  | nil => rfl
  | cons c front ih =>
    rw [List.mem_cons, not_or] at h
    rw [List.cons_append, List.infix_cons_iff, List.cons_prefix_cons, ih h.2]
    simp [h.1]

theorem infix_append_of_last {back : List Char} (h : p ∉ back) (cs : List Char) :
    pat ++ [p] <:+: cs ++ back ↔ pat ++ [p] <:+: cs := by
  rw [← List.reverse_infix, List.reverse_append, List.reverse_append, List.reverse_singleton,
    List.singleton_append, infix_append_of_head (by simpa using h), ← List.reverse_infix]
  simp

/-- An occurrence does not reach across a character that the pattern does not have. -/
theorem infix_across {c : Char} (h : c ∉ pat) (front back : List Char) :
    pat <:+: front ++ c :: back ↔ pat <:+: front ∨ pat <:+: back := by
  rw [List.infix_append_iff, List.infix_cons_iff]
  constructor
  · rintro (inFront | (here | inBack) | ⟨before, after, rfl, hbefore, hafter⟩)
    · exact .inl inFront
    · rcases List.prefix_cons_iff.1 here with rfl | ⟨rest, rfl, -⟩
      · exact .inl (List.nil_infix ..)
      · exact absurd List.mem_cons_self h
    · exact .inr inBack
    · rcases List.prefix_cons_iff.1 hafter with rfl | ⟨rest, rfl, -⟩
      · rw [List.append_nil]
        exact .inl hbefore.isInfix
      · exact absurd (List.mem_append_right before List.mem_cons_self) h
  · rintro (inFront | inBack)
    · exact .inl inFront
    · exact .inr (.inl (.inr inBack))

end

/-! ### Texts -/

def OccursIn (pat s : String) : Prop := ∃ front back, s = front ++ pat ++ back

/-- Whether `t` is what is left of `s` when the occurrences of `pat` are taken out of it. -/
def Deleted (pat s t : String) : Prop :=
  ∃ parts : List String, s = String.intercalate pat parts ∧ t = String.join parts ∧
    ∀ part ∈ parts, ¬ OccursIn pat part

/-- Whether `t` is `s` without the marker at the start, if `s` has it there. -/
def WithoutLeading (marker s t : String) : Prop :=
  s = marker ++ t ∨ (∀ rest, s ≠ marker ++ rest) ∧ t = s

/-- Whether `t` is `s` without the marker at the end, if `s` has it there. -/
def WithoutTrailing (marker s t : String) : Prop :=
  s = t ++ marker ∨ (∀ front, s ≠ front ++ marker) ∧ t = s

theorem occursIn_iff {pat s : String} : OccursIn pat s ↔ pat.toList <:+: s.toList := by
  constructor
  · rintro ⟨front, back, rfl⟩
    simp only [String.toList_append]
    exact List.infix_append _ _ _
  · rintro ⟨front, back, h⟩
    refine ⟨String.ofList front, String.ofList back, String.toList_inj.1 ?_⟩
    simp [← h]

instance (pat s : String) : Decidable (OccursIn pat s) := decidable_of_iff _ occursIn_iff.symm

theorem startsWith_iff {pat s : String} : startsWith pat s = true ↔ ∃ rest, s = pat ++ rest := by
  unfold startsWith
  rw [List.isPrefixOf_iff_prefix]
  constructor
  · rintro ⟨rest, h⟩
    refine ⟨String.ofList rest, String.toList_inj.1 ?_⟩
    simp [← h]
  · rintro ⟨rest, rfl⟩
    exact ⟨rest.toList, by simp⟩

theorem withoutLeading_iff {marker s t : String} :
    WithoutLeading marker s t ↔ dropLeading marker s = t := by
  have hafter : ∀ rest, s = marker ++ rest ↔
      afterPrefix? marker.toList s.toList = some rest.toList := fun rest => by
    rw [afterPrefix?_eq_some, ← String.toList_append, String.toList_inj]
  unfold WithoutLeading dropLeading
  cases hrest : afterPrefix? marker.toList s.toList with
  | none =>
    have hnot : ∀ rest, s ≠ marker ++ rest := fun rest h => by
      rw [hafter, hrest] at h
      cases h
    simp [hnot, eq_comm]
  | some cs =>
    have hs : s = marker ++ String.ofList cs := by
      rw [hafter, hrest, String.toList_ofList]
    have hmarked : ¬ ∀ rest, s ≠ marker ++ rest := fun hnot => hnot _ hs
    simp only [hmarked, false_and, or_false]
    rw [hs, String.append_right_inj]

section

variable {pat : String} (hne : pat ≠ "")

include hne

theorem toList_ne_nil : pat.toList ≠ [] := fun h => hne (String.toList_eq_nil_iff.1 h)

theorem deleted_deleteAll (s : String) : Deleted pat s (deleteAll pat s) := by
  obtain ⟨part, parts, hcut, hleft, hfree⟩ := exists_parts (toList_ne_nil hne) s.toList
  refine ⟨(part :: parts).map String.ofList, ?_, ?_, ?_⟩
  · rw [← String.toList_inj, hcut, String.toList_intercalate, List.map_map]
    simp [Function.comp_def]
  · rw [deleteAll, hleft, ← String.toList_inj, String.toList_join]
    simp [List.flatMap_map]
  · intro text member
    obtain ⟨piece, inside, rfl⟩ := List.mem_map.1 member
    rw [occursIn_iff, String.toList_ofList]
    exact hfree piece inside

theorem length_deleteAll (s : String) :
    ∃ count, s.length = (deleteAll pat s).length + count * pat.length ∧
      (count = 0 ↔ ¬ OccursIn pat s) := by
  obtain ⟨count, hlength, hcount⟩ := length_deleteFrom (toList_ne_nil hne) s.toList
  refine ⟨count, ?_, hcount.trans (not_congr occursIn_iff.symm)⟩
  rw [deleteAll, ← String.length_toList, ← String.length_toList, ← String.length_toList,
    String.toList_ofList]
  exact hlength

theorem deleteAll_eq_self_iff {s : String} : deleteAll pat s = s ↔ ¬ OccursIn pat s := by
  constructor
  · intro same
    obtain ⟨count, hlength, hcount⟩ := length_deleteAll hne s
    have hpos : 0 < pat.length := by
      rw [← String.length_toList]
      exact List.length_pos_iff.2 (toList_ne_nil hne)
    rw [same] at hlength
    have hzero : count * pat.length = 0 := by omega
    exact hcount.1 ((Nat.mul_eq_zero.1 hzero).resolve_right (by omega))
  · intro h
    have hnot : ¬ pat.toList <:+: s.toList := fun inside => h (occursIn_iff.2 inside)
    rw [deleteAll, deleteFrom_of_not_infix (toList_ne_nil hne) hnot, String.ofList_toList]

/-- A marker at the start makes no difference. -/
theorem deleteAll_of_leading {s t : String} (h : WithoutLeading pat s t) :
    deleteAll pat s = deleteAll pat t := by
  rcases h with rfl | ⟨-, rfl⟩
  · rw [deleteAll, String.toList_append, deleteFrom_prefix (toList_ne_nil hne), deleteAll]
  · rfl

end

/-- A marker at the end makes no difference if it cannot overlap itself. -/
theorem deleteAll_of_trailing {pat s t : String} {p : Char} {ps : List Char}
    (hpat : pat.toList = p :: ps) (once : p ∉ ps) (h : WithoutTrailing pat s t) :
    deleteAll pat s = deleteAll pat t := by
  rcases h with rfl | ⟨-, rfl⟩
  · rw [deleteAll, String.toList_append, hpat, deleteFrom_suffix once, deleteAll, hpat]
  · rfl

end FaultPlane.Text
