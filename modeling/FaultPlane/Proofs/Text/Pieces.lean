import FaultPlane.Text.Blank

/-!
# Texts between separators

A text that was put together with a separator comes apart at it: into the pieces of what was put
together, and into just that if the separator does not occur in any of it.
-/

namespace FaultPlane.Text

variable {p : Char → Bool}

theorem pieces_of_none {s : String} (h : ∀ c ∈ s.toList, p c = false) : pieces p s = [s] := by
  rw [pieces, List.splitOnP_eq_singleton h]
  simp

theorem free_of_mem_splitOnP (cs : List Char) :
    ∀ part ∈ cs.splitOnP p, ∀ c ∈ part, p c = false := by
  induction cs with
  | nil => simp
  | cons c cs ih =>
    rw [List.splitOnP_cons_eq_if_modifyHead]
    split
    · simpa using ih
    · next outside =>
      obtain ⟨part, parts, hparts⟩ := List.exists_cons_of_ne_nil (List.splitOnP_ne_nil p cs)
      rw [hparts, List.forall_mem_cons] at ih
      rw [hparts, List.modifyHead_cons, List.forall_mem_cons, List.forall_mem_cons]
      exact ⟨⟨Bool.eq_false_iff.2 outside, ih.1⟩, ih.2⟩

theorem splitOnP_append_left {front : List Char} (h : ∀ c ∈ front, p c = false) (cs : List Char) :
    (front ++ cs).splitOnP p = (cs.splitOnP p).modifyHead (front ++ ·) := by
  induction front with
  | nil => exact (congrFun List.modifyHead_id (cs.splitOnP p)).symm
  | cons c front ih =>
    obtain ⟨hc, hfront⟩ := List.forall_mem_cons.1 h
    rw [List.cons_append, List.splitOnP_cons_eq_if_modifyHead, if_neg (Bool.eq_false_iff.1 hc),
      ih hfront, List.modifyHead_modifyHead]
    rfl

theorem splitOnP_append_right {back : List Char} (h : ∀ c ∈ back, p c = false) (cs : List Char) :
    ∃ others last, cs.splitOnP p = others ++ [last] ∧
      (cs ++ back).splitOnP p = others ++ [last ++ back] := by
  induction cs with
  | nil => exact ⟨[], [], rfl, List.splitOnP_eq_singleton h⟩
  | cons c cs ih =>
    obtain ⟨others, last, hcs, happend⟩ := ih
    rw [List.cons_append, List.splitOnP_cons_eq_if_modifyHead, List.splitOnP_cons_eq_if_modifyHead,
      hcs, happend]
    split
    · exact ⟨[] :: others, last, rfl, rfl⟩
    · cases others with
      | nil => exact ⟨[], c :: last, rfl, rfl⟩
      | cons first others => exact ⟨(c :: first) :: others, last, rfl, rfl⟩

/-- A separator does not occur in the pieces that a text comes apart into. -/
theorem free_of_mem_pieces {s part : String} (h : part ∈ pieces p s) :
    ∀ c ∈ part.toList, p c = false := by
  obtain ⟨cs, inside, rfl⟩ := List.mem_map.1 h
  rw [String.toList_ofList]
  exact free_of_mem_splitOnP s.toList cs inside

theorem intercalate_pieces {separator : String} {c : Char} (single : separator.toList = [c])
    (s : String) : String.intercalate separator (pieces (· == c) s) = s := by
  have hlist : (s.toList.splitOnP (· == c)).map (String.toList ∘ String.ofList) =
      s.toList.splitOn c := by
    simp [Function.comp_def, List.splitOn_eq_splitOnP]
  rw [← String.toList_inj, String.toList_intercalate, pieces, List.map_map, hlist, single,
    List.intercalate_splitOn]

theorem flatMap_pieces_of_none {items : List String}
    (h : ∀ item ∈ items, ∀ c ∈ item.toList, p c = false) : items.flatMap (pieces p) = items := by
  induction items with
  | nil => rfl
  | cons item items ih =>
    rw [List.flatMap_cons, pieces_of_none (h item List.mem_cons_self),
      ih fun other member => h other (List.mem_cons_of_mem item member)]
    rfl

variable {separator : String} {c : Char} (single : separator.toList = [c]) (splits : p c = true)

include single splits

theorem pieces_append (s t : String) :
    pieces p (s ++ separator ++ t) = pieces p s ++ pieces p t := by
  have hlist : (s ++ separator ++ t).toList = s.toList ++ c :: t.toList := by
    simp [single]
  rw [pieces, hlist, List.splitOnP_append_cons _ _ splits, List.map_append]
  rfl

theorem pieces_intercalate {items : List String} (h : items ≠ []) :
    pieces p (String.intercalate separator items) = items.flatMap (pieces p) := by
  induction items with
  | nil => exact absurd rfl h
  | cons item items ih =>
    cases items with
    | nil => simp
    | cons next items =>
      rw [String.intercalate_cons_cons, pieces_append single splits, ih (List.cons_ne_nil _ _)]
      rfl

end FaultPlane.Text
