import Mathlib.Algebra.Order.Ring.Nat
import FaultPlane.Decimal.Integer
import FaultPlane.Proofs.Text.Pieces

/-!
# Lines of a text

Readers do not agree on what ends a line. A line feed does for all of them, and no printable
character of ASCII does for any; what is said here holds for every such reader. Lines that are put
together with line feeds come apart into the same lines exactly if none of them has a break inside
(`flatMap_pieces_eq_iff`).
-/

namespace FaultPlane.Text

/-- The printable characters of ASCII. -/
def isPrintable (c : Char) : Bool := 32 ≤ c.toNat && c.toNat < 127

/-- What a reader takes for the end of a line: any of some characters, each on its own. -/
structure LineBreaks where
  isBreak : Char → Bool
  lineFeed : isBreak '\n' = true
  printable : ∀ c, isPrintable c = true → isBreak c = false

namespace LineBreaks

def lineFeeds : LineBreaks where
  isBreak := fun c => c == '\n'
  lineFeed := rfl
  printable := by
    intro c hc
    refine beq_false_of_ne ?_
    rintro rfl
    cases hc

/-- The breaks of YAML: line feed, carriage return, next line, line and paragraph separator. -/
def yaml : LineBreaks where
  isBreak := fun c => decide (c.toNat ∈ [0x0A, 0x0D, 0x85, 0x2028, 0x2029])
  lineFeed := rfl
  printable := by
    intro c hc
    simp only [isPrintable, Bool.and_eq_true, decide_eq_true_eq] at hc
    refine decide_eq_false ?_
    simp only [List.mem_cons, List.not_mem_nil, or_false]
    omega

variable (b : LineBreaks)

/-- The lines of a text. A break at its very end does not begin another line. -/
def lines (text : String) : List String :=
  let all := pieces b.isBreak text
  if all.getLast? = some "" then all.dropLast else all

def Single (text : String) : Prop := ∀ c ∈ text.toList, b.isBreak c = false

def count (text : String) : Nat := text.toList.countP b.isBreak

theorem single_iff_count {text : String} : b.Single text ↔ b.count text = 0 := by
  rw [Single, count, List.countP_eq_zero]
  simp only [Bool.not_eq_true]

@[simp] theorem single_append {s t : String} : b.Single (s ++ t) ↔ b.Single s ∧ b.Single t := by
  simp only [Single, String.toList_append, List.forall_mem_append]

theorem single_of_printable {text : String} (h : text.toList.all isPrintable = true) :
    b.Single text := by
  intro c inside
  exact b.printable c (List.all_eq_true.1 h c inside)

@[simp] theorem single_ofNat (n : Nat) : b.Single (Decimal.ofNat n) := by
  intro c inside
  have hdigit : c.isDigit := by
    rw [Decimal.ofNat, String.toList_ofList] at inside
    exact Nat.isDigit_of_mem_toDigits (by decide) (by decide) inside
  obtain ⟨above, below⟩ := Char.isDigit_iff_toNat.1 hdigit
  have hzero : '0'.toNat = 48 := rfl
  have hnine : '9'.toNat = 57 := rfl
  refine b.printable c ?_
  simp only [isPrintable, Bool.and_eq_true, decide_eq_true_eq]
  omega

@[simp] theorem single_ofInt (z : Int) : b.Single (Decimal.ofInt z) := by
  cases z with
  | ofNat n => exact b.single_ofNat n
  | negSucc n => exact b.single_append.2 ⟨b.single_of_printable rfl, b.single_ofNat (n + 1)⟩

/-! ### Breaks in a text -/

theorem count_join (texts : List String) :
    b.count (String.join texts) = (texts.map b.count).sum := by
  rw [count, String.toList_join, List.countP_flatMap]
  rfl

@[simp] theorem count_ofNat (n : Nat) : b.count (Decimal.ofNat n) = 0 :=
  b.single_iff_count.1 (b.single_ofNat n)

@[simp] theorem count_ofInt (z : Int) : b.count (Decimal.ofInt z) = 0 :=
  b.single_iff_count.1 (b.single_ofInt z)

theorem sum_count_eq_zero_iff {texts : List String} :
    (texts.map b.count).sum = 0 ↔ ∀ text ∈ texts, b.Single text := by
  simp only [List.sum_eq_zero_iff_forall_eq_nat, List.forall_mem_map, single_iff_count]

/-! ### Texts put together -/

theorem length_pieces (text : String) : (pieces b.isBreak text).length = b.count text + 1 := by
  rw [pieces, count, List.length_map]
  induction text.toList with
  | nil => simp
  | cons c cs ih =>
    rw [List.splitOnP_cons_eq_if_modifyHead, List.countP_cons]
    split
    · next hbreak => rw [List.length_cons, ih]
    · next hbreak => rw [List.length_modifyHead, ih, Nat.add_zero]

theorem length_flatMap_pieces (lines : List String) :
    (lines.flatMap (pieces b.isBreak)).length = lines.length + (lines.map b.count).sum := by
  induction lines with
  | nil => rfl
  | cons line lines ih =>
    rw [List.flatMap_cons, List.length_append, ih, length_pieces, List.map_cons, List.sum_cons,
      List.length_cons]
    omega

/-- Lines come apart into themselves exactly if none of them has a break inside. -/
theorem flatMap_pieces_eq_iff {lines : List String} :
    lines.flatMap (pieces b.isBreak) = lines ↔ ∀ line ∈ lines, b.Single line := by
  constructor
  · intro same
    have hlength := b.length_flatMap_pieces lines
    rw [same] at hlength
    exact b.sum_count_eq_zero_iff.1 (by omega)
  · exact flatMap_pieces_of_none

theorem toList_lineFeed : "\n".toList = ['\n'] := rfl

/-- The lines of a text that ends with a line feed. -/
theorem lines_intercalate_lineFeed {lines : List String} (h : lines ≠ []) :
    b.lines (String.intercalate "\n" lines ++ "\n") = lines.flatMap (pieces b.isBreak) := by
  have hempty : pieces b.isBreak "" = [""] := pieces_of_none (b.single_of_printable rfl)
  have hpieces := pieces_append toList_lineFeed b.lineFeed (String.intercalate "\n" lines) ""
  rw [String.append_empty, pieces_intercalate toList_lineFeed b.lineFeed h, hempty] at hpieces
  rw [LineBreaks.lines, hpieces]
  simp

/-- The lines of a text whose last line has something in it. -/
theorem lines_intercalate {lines : List String} {last : String} (h : lines.getLast? = some last)
    (filled : last ≠ "") (single : b.Single last) :
    b.lines (String.intercalate "\n" lines) = lines.flatMap (pieces b.isBreak) := by
  obtain ⟨others, rfl⟩ := List.getLast?_eq_some_iff.1 h
  have hlast : ((others ++ [last]).flatMap (pieces b.isBreak)).getLast? = some last := by
    rw [List.flatMap_append, List.flatMap_singleton, pieces_of_none single,
      List.getLast?_concat]
  rw [LineBreaks.lines, pieces_intercalate toList_lineFeed b.lineFeed (by simp), hlast]
  exact if_neg fun same => filled (Option.some.inj same)

end LineBreaks

end FaultPlane.Text
