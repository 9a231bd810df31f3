import Mathlib.Data.List.DropRight
import Mathlib.Data.List.Forall2
import FaultPlane.Proofs.Text.Pieces

/-!
# Texts with blanks around them

Trimming takes away the blanks at both ends of a text and nothing else. What is left is the only
part of the text with blanks alone around it that neither starts nor ends with one
(`trim_eq_iff`), so blanks put around a text make no difference (`trim_surround`). Dropping one
character at the end reaches no further than a part that does not end with it
(`dropTrailing_append`).
-/

namespace FaultPlane.Text

/-! ### Lists of characters -/

section

variable (p : Char → Bool)

theorem stripBoth_eq (cs : List Char) : stripBoth p cs = (cs.dropWhile p).rdropWhile p := rfl

theorem stripBoth_surround {front back : List Char} (hfront : ∀ c ∈ front, p c = true)
    (hback : ∀ c ∈ back, p c = true) (cs : List Char) :
    stripBoth p (front ++ cs ++ back) = stripBoth p cs := by
  have hdrop : back.dropWhile p = [] := List.dropWhile_eq_nil_iff.2 hback
  have hreverse : ∀ c ∈ back.reverse, p c = true := fun c inside =>
    hback c (List.mem_reverse.1 inside)
  rw [stripBoth, List.append_assoc, List.dropWhile_append_of_pos hfront, List.dropWhile_append]
  split
  · next hnil =>
    rw [stripBoth, List.isEmpty_iff.1 hnil, hdrop]
  · rw [List.reverse_append, List.dropWhile_append_of_pos hreverse, stripBoth]

theorem exists_surround (cs : List Char) :
    ∃ front back, cs = front ++ stripBoth p cs ++ back ∧ (∀ c ∈ front, p c = true) ∧
      ∀ c ∈ back, p c = true := by
  refine ⟨cs.takeWhile p, (cs.dropWhile p).rtakeWhile p, ?_, ?_, ?_⟩
  · rw [stripBoth_eq, List.append_assoc, List.rdropWhile_append_rtakeWhile,
      List.takeWhile_append_dropWhile]
  · exact fun c inside => List.mem_takeWhile_imp inside
  · exact fun c inside => List.mem_rtakeWhile_imp inside

theorem head?_stripBoth (cs : List Char) : ∀ c ∈ (stripBoth p cs).head?, p c = false := by
  intro c hc
  obtain ⟨rest, hrest⟩ : stripBoth p cs <+: cs.dropWhile p := List.rdropWhile_prefix p _
  have hhead : c ∈ (cs.dropWhile p).head? := by
    rw [← hrest, List.head?_append, Option.mem_def.1 hc]
    rfl
  have hnot := List.head?_dropWhile_not p cs
  rw [Option.mem_def.1 hhead] at hnot
  simpa using hnot

theorem getLast?_stripBoth (cs : List Char) : ∀ c ∈ (stripBoth p cs).getLast?, p c = false := by
  intro c hc
  obtain ⟨hne, hlast⟩ := List.mem_getLast?_eq_getLast hc
  rw [hlast]
  exact Bool.eq_false_iff.2 (List.rdropWhile_last_not p _ hne)

theorem stripBoth_eq_self {cs : List Char} (hhead : ∀ c ∈ cs.head?, p c = false)
    (hlast : ∀ c ∈ cs.getLast?, p c = false) : stripBoth p cs = cs := by
  have hfront : cs.dropWhile p = cs := by
    cases cs with
    | nil => rfl
    | cons c cs => exact List.dropWhile_cons_of_neg (Bool.eq_false_iff.1 (hhead c rfl))
  rw [stripBoth_eq, hfront, List.rdropWhile_eq_self_iff]
  exact fun hne => Bool.eq_false_iff.1 (hlast _ (List.getLast?_eq_some_getLast hne))

end

/-! ### Texts -/

/-- Whether a text neither starts nor ends with a blank. -/
def Unpadded (s : String) : Prop :=
  (∀ c ∈ s.toList.head?, isBlank c = false) ∧ ∀ c ∈ s.toList.getLast?, isBlank c = false

/-- Whether `s` is `t` with blanks around it, which are not part of `t`. -/
def Padded (s t : String) : Prop :=
  Unpadded t ∧ ∃ front back, s = front ++ t ++ back ∧ allBlank front = true ∧ allBlank back = true

theorem allBlank_iff {s : String} : allBlank s = true ↔ ∀ c ∈ s.toList, isBlank c = true :=
  List.all_eq_true

theorem isBlank_of_isDigit {c : Char} (h : c.isDigit = true) : isBlank c = false := by
  have hbounds : 48 ≤ c.toNat ∧ c.toNat ≤ 57 := by
    rw [Char.isDigit, Bool.and_eq_true, decide_eq_true_eq, decide_eq_true_eq] at h
    exact h
  unfold isBlank
  dsimp only
  simp
  omega

theorem unpadded_empty : Unpadded "" := by
  constructor
  · intro c inside
    cases inside
  · intro c inside
    cases inside

theorem toList_trim (s : String) : (trim s).toList = stripBoth isBlank s.toList :=
  String.toList_ofList

theorem unpadded_trim (s : String) : Unpadded (trim s) := by
  rw [Unpadded, toList_trim]
  exact ⟨head?_stripBoth isBlank s.toList, getLast?_stripBoth isBlank s.toList⟩

theorem trim_of_unpadded {s : String} (h : Unpadded s) : trim s = s := by
  rw [trim, stripBoth_eq_self isBlank h.1 h.2, String.ofList_toList]

/-- Blanks put around a text make no difference. -/
theorem trim_surround {front back : String} (hfront : allBlank front = true)
    (hback : allBlank back = true) (s : String) : trim (front ++ s ++ back) = trim s := by
  rw [trim, String.toList_append, String.toList_append,
    stripBoth_surround isBlank (allBlank_iff.1 hfront) (allBlank_iff.1 hback), trim]

theorem padded_trim (s : String) : Padded s (trim s) := by
  obtain ⟨front, back, hs, hfront, hback⟩ := exists_surround isBlank s.toList
  refine ⟨unpadded_trim s, String.ofList front, String.ofList back, ?_, ?_, ?_⟩
  · rw [← String.toList_inj]
    simpa [toList_trim] using hs
  · rw [allBlank_iff, String.toList_ofList]
    exact hfront
  · rw [allBlank_iff, String.toList_ofList]
    exact hback

/-- A text is trimmed to the part of it that has blanks alone around it and none at its ends. -/
theorem trim_eq_iff {s t : String} : trim s = t ↔ Padded s t := by
  constructor
  · rintro rfl
    exact padded_trim s
  · rintro ⟨bare, front, back, rfl, hfront, hback⟩
    rw [trim_surround hfront hback, trim_of_unpadded bare]

theorem trim_eq_empty_iff {s : String} : trim s = "" ↔ allBlank s = true := by
  rw [trim_eq_iff]
  constructor
  · rintro ⟨-, front, back, rfl, hfront, hback⟩
    rw [allBlank_iff] at hfront hback ⊢
    simp only [String.append_empty, String.toList_append, List.mem_append]
    rintro c (inside | inside)
    · exact hfront c inside
    · exact hback c inside
  · intro blank
    refine ⟨unpadded_empty, s, "", ?_, blank, rfl⟩
    rw [String.append_empty, String.append_empty]

/-! ### Characters at the end -/

theorem toList_dropTrailing (c : Char) (s : String) :
    (dropTrailing c s).toList = s.toList.rdropWhile (· == c) := String.toList_ofList

theorem dropTrailing_eq_self_iff {c : Char} {s : String} :
    dropTrailing c s = s ↔ c ∉ s.toList.getLast? := by
  rw [← String.toList_inj, toList_dropTrailing, List.rdropWhile_eq_self_iff]
  constructor
  · intro h last
    obtain ⟨hne, hc⟩ := List.mem_getLast?_eq_getLast last
    exact h hne (beq_iff_eq.2 hc.symm)
  · intro h hne last
    exact h (beq_iff_eq.1 last ▸ List.getLast?_eq_some_getLast hne)

theorem dropTrailing_eq_empty_iff {c : Char} {s : String} :
    dropTrailing c s = "" ↔ ∀ d ∈ s.toList, d = c := by
  rw [← String.toList_inj, toList_dropTrailing, String.toList_empty, List.rdropWhile_eq_nil_iff]
  simp only [beq_iff_eq]

theorem dropTrailing_append {c : Char} {s : String} (h : dropTrailing c s = s) (t : String) :
    dropTrailing c (s ++ t) = s ++ dropTrailing c t := by
  have hs : s.toList.reverse.dropWhile (· == c) = s.toList.reverse := by
    rw [← List.reverse_inj, List.reverse_reverse]
    exact (toList_dropTrailing c s).symm.trans (congrArg String.toList h)
  rw [← String.toList_inj, toList_dropTrailing, String.toList_append, String.toList_append,
    toList_dropTrailing, List.rdropWhile, List.rdropWhile, List.reverse_append, List.dropWhile_append]
  split
  · next hnil =>
    rw [List.isEmpty_iff.1 hnil, hs, List.reverse_reverse, List.reverse_nil, List.append_nil]
  · rw [List.reverse_append, List.reverse_reverse]

/-! ### Items between commas -/

/-- The parts of a text between its commas, in their order, without the blanks around them and
without those that are blank. -/
def ItemsOf (s : String) (items : List String) : Prop :=
  ∃ parts bare, s = String.intercalate "," parts ∧ (∀ part ∈ parts, ',' ∉ part.toList) ∧
    List.Forall₂ Padded parts bare ∧ items = bare.filter (· ≠ "")

theorem commaItems_intercalate {parts : List String} (h : ∀ part ∈ parts, ',' ∉ part.toList) :
    commaItems (String.intercalate "," parts) = (parts.map trim).filter (· ≠ "") := by
  have hnone : ∀ part ∈ parts, ∀ c ∈ part.toList, (c == ',') = false := by
    intro part member c inside
    refine beq_false_of_ne ?_
    rintro rfl
    exact h part member inside
  cases parts with
  | nil => cbv
  | cons part parts =>
    have hcomma : ",".toList = [','] := rfl
    have hpieces : pieces (· == ',') (String.intercalate "," (part :: parts)) = part :: parts :=
      (pieces_intercalate hcomma rfl (List.cons_ne_nil part parts)).trans
        (flatMap_pieces_of_none hnone)
    rw [commaItems, hpieces]

theorem exists_uncut (s : String) :
    ∃ parts, s = String.intercalate "," parts ∧ ∀ part ∈ parts, ',' ∉ part.toList :=
  ⟨pieces (· == ',') s, (intercalate_pieces rfl s).symm, fun _ member inside =>
    absurd (free_of_mem_pieces member ',' inside) (by decide)⟩

theorem commaItems_eq_iff {s : String} {items : List String} :
    commaItems s = items ↔ ItemsOf s items := by
  constructor
  · rintro rfl
    obtain ⟨parts, rfl, uncut⟩ := exists_uncut s
    refine ⟨parts, parts.map trim, rfl, uncut, ?_, commaItems_intercalate uncut⟩
    rw [List.forall₂_map_right_iff, List.forall₂_same]
    exact fun part _ => padded_trim part
  · rintro ⟨parts, bare, rfl, uncut, hbare, rfl⟩
    have htrim : parts.map trim = bare := by
      rw [← List.forall₂_eq_eq_eq, List.forall₂_map_left_iff]
      exact hbare.imp fun _ _ => trim_eq_iff.2
    rw [commaItems_intercalate uncut, htrim]

/-- The items of a text that was put together with commas are those of its parts that are not blank,
without the blanks around them. -/
theorem mem_commaItems_intercalate {parts : List String} (h : ∀ part ∈ parts, ',' ∉ part.toList)
    (name : String) :
    name ∈ commaItems (String.intercalate "," parts) ↔
      name ≠ "" ∧ ∃ part ∈ parts, Padded part name := by
  rw [commaItems_intercalate h]
  simp only [List.mem_filter, List.mem_map, trim_eq_iff, decide_eq_true_eq, and_comm]

theorem commaItems_append (s t : String) :
    commaItems (s ++ "," ++ t) = commaItems s ++ commaItems t := by
  rw [commaItems, pieces_append rfl rfl, List.map_append, List.filter_append]
  rfl

/-- Whether a name stands in a text, between commas and with nothing but blanks around it. -/
def HasItem (s name : String) : Prop :=
  name ≠ "" ∧ ∃ parts, s = String.intercalate "," parts ∧ (∀ part ∈ parts, ',' ∉ part.toList) ∧
    ∃ part ∈ parts, Padded part name

theorem hasItem_iff {s name : String} : HasItem s name ↔ name ∈ commaItems s := by
  constructor
  · rintro ⟨filled, parts, rfl, uncut, part, member, padded⟩
    exact (mem_commaItems_intercalate uncut name).2 ⟨filled, part, member, padded⟩
  · intro member
    obtain ⟨parts, rfl, uncut⟩ := exists_uncut s
    obtain ⟨filled, here⟩ := (mem_commaItems_intercalate uncut name).1 member
    exact ⟨filled, parts, rfl, uncut, here⟩

instance (s name : String) : Decidable (HasItem s name) := decidable_of_iff _ hasItem_iff.symm

end FaultPlane.Text
