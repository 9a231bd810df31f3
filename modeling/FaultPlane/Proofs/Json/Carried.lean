import FaultPlane.Json.Codec
import FaultPlane.Proofs.Json.Words

/-!
# Values that are carried by their text

A codec carries a value if it reads the text that it writes for the value as that value. Every
scalar but a double is carried (`readsBack_text`, `readsBack_integer`), and a double is read the
same way inside of a text as on its own (`readsBack_real`). An option or a list is carried if what
it holds is (`takes_option`, `readsBack_list`).
-/

namespace FaultPlane.Json

/-! ### Texts and values -/

/-- The text of a value is read as that value. -/
def Codec.Carries {α : Type} (codec : Codec α) (a : α) : Prop :=
  codec.decode (codec.encode a) = .ok a

theorem Codec.carries_of_read {α : Type} {codec : Codec α} {a : α}
    (h : codec.read (codec.write a).chars = .ok (a, [])) : codec.Carries a := by
  -- The text that is written is made of characters, so it need not be taken apart to be read.
  rw [Codec.Carries, Codec.decode, Codec.encode, compact, String.toList_ofList, h]
  rfl

theorem Codec.read_of_decode {α : Type} {codec : Codec α} {doc : String} {a : α}
    (h : codec.decode doc = .ok a) :
    ∃ left, codec.read doc.toList = .ok (a, left) ∧ dropBlanks left = [] := by
  obtain ⟨⟨b, left⟩, hread, hrest⟩ := bind_eq_ok.1 h
  dsimp only at hrest
  split at hrest
  · next hempty =>
    cases hrest
    exact ⟨left, hread, List.isEmpty_iff.1 hempty⟩
  · cases hrest

theorem Codec.decodeFront_of_decode {α : Type} {codec : Codec α} {doc : String} {a : α}
    (h : codec.decode doc = .ok a) : codec.decodeFront doc = .ok a := by
  obtain ⟨left, hread, -⟩ := Codec.read_of_decode h
  rw [Codec.decodeFront, hread]
  rfl

/-- The reader takes a text for a value, whatever stands behind the value. -/
def Takes {α : Type} (read : Reader α) (text : List Char) (a : α) : Prop :=
  ∀ rest, Ends rest → read (text ++ rest) = .ok (a, rest)

/-- The text starts like a value: not with a blank or a closing bracket, nor with the first letter
of `null`. -/
def Opens : List Char → Prop
  | [] => False
  | c :: _ => isJsonBlank c = false ∧ c ≠ ']' ∧ c ≠ 'n'

/-- What is written for a value is read as that value wherever it stands. -/
structure Codec.ReadsBack {α : Type} (codec : Codec α) (a : α) : Prop where
  opens : Opens (codec.write a).chars
  takes : Takes codec.read (codec.write a).chars a

theorem Codec.ReadsBack.carries {α : Type} {codec : Codec α} {a : α} (h : codec.ReadsBack a) :
    codec.Carries a :=
  Codec.carries_of_read (by simpa using h.takes [] trivial)

theorem dropBlanks_cons {c : Char} (h : isJsonBlank c = false) (cs : List Char) :
    dropBlanks (c :: cs) = c :: cs := by
  rw [dropBlanks, List.dropWhile_cons, h]
  rfl

/-! ### Texts -/

theorem readText_textChars (want s : String) (rest : List Char) :
    readText want (textChars s ++ rest) = .ok (s, rest) := by
  have hchars : textChars s ++ rest = '"' :: (s.toList.flatMap escapeChar ++ '"' :: rest) := by
    simp [textChars]
  rw [hchars, readText, dropBlanks_cons rfl]
  exact textBody_escaped s rest

theorem takes_readText (want s : String) : Takes (readText want) (textChars s) s :=
  fun rest _ => readText_textChars want s rest

theorem opens_textChars (s : String) : Opens (textChars s) := by
  rw [textChars, List.cons_append]
  exact ⟨rfl, by decide, by decide⟩

theorem readsBack_text (s : String) : Codec.text.ReadsBack s where
  opens := opens_textChars s
  takes := takes_readText "a string" s

theorem readsBack_path (s : String) : Codec.path.ReadsBack s where
  opens := opens_textChars s
  takes := takes_readText "path string" s

theorem readsBack_bool (b : Bool) : Codec.bool.ReadsBack b where
  opens := by cases b <;> exact ⟨rfl, by decide, by decide⟩
  takes := by cases b <;> exact fun _ _ => rfl

theorem takes_readInstant {s : String} {t : Time.Instant} (h : Time.Instant.ofRfc3339 s = .ok t) :
    Takes readInstant (textChars s) t := by
  intro rest _
  rw [readInstant, readText_textChars]
  simp only [bind, Except.bind, h]
  rfl

theorem readsBack_instant {t : Time.Instant} (h : Time.Instant.ofRfc3339 t.rfc3339 = .ok t) :
    Codec.instant.ReadsBack t := by
  have htext : (Codec.instant.write t).chars = textChars t.rfc3339 := by
    rw [Codec.instant, chars]
  refine ⟨?_, ?_⟩
  · rw [htext]
    exact opens_textChars _
  · rw [htext]
    exact takes_readInstant h

/-! ### Whole numbers -/

/-- The first character of a number. -/
def IsNumberHead (c : Char) : Prop := c = '-' ∨ c.isDigit = true

theorem IsNumberHead.opens {c : Char} (h : IsNumberHead c) (cs : List Char) : Opens (c :: cs) := by
  rcases h with rfl | digit
  · exact ⟨rfl, by decide, by decide⟩
  · have hother : ∀ d : Char, d.isDigit = false → c ≠ d := by
      rintro d hd rfl
      rw [digit] at hd
      cases hd
    refine ⟨?_, hother ']' rfl, hother 'n' rfl⟩
    simp [isJsonBlank, hother ' ' rfl, hother '\n' rfl, hother '\t' rfl, hother '\r' rfl]

theorem readNumber_cons (want : String) {c : Char} (h : IsNumberHead c) (cs : List Char) :
    readNumber want (c :: cs) = number (c :: cs) := by
  rw [readNumber, dropBlanks_cons (h.opens cs).1]
  exact if_pos h

theorem ofInt_cons (n : Int) : ∃ c cs, (Decimal.ofInt n).toList = c :: cs ∧ IsNumberHead c := by
  by_cases hn : 0 ≤ n
  · rw [Decimal.toList_ofInt hn]
    cases hdigits : Nat.toDigits 10 n.toNat with
    | nil => exact absurd hdigits Nat.toDigits_ne_nil
    | cons c cs =>
      have hmem : c ∈ Nat.toDigits 10 n.toNat := by rw [hdigits]; exact List.mem_cons_self
      exact ⟨c, cs, rfl, .inr (Decimal.isDigit_of_mem_toDigits hmem)⟩
  · exact ⟨'-', _, Decimal.toList_ofInt_of_neg (by omega), .inl rfl⟩

/-- A codec that reads whole numbers within bounds that 64 bits can hold. -/
theorem readsBack_integer {α : Type} {codec : Codec α} {low high : Int} {want : String}
    (ofInt : Int → α) {a : α} {n : Int}
    (read : codec.read = fun cs => do
      let (n, cs) ← readInteger low high want cs
      pure (ofInt n, cs))
    (written : codec.write a = .integer n) (back : ofInt n = a) (bounds : low ≤ n ∧ n ≤ high)
    (above : -(UInt64.size / 2 : Nat) ≤ n) (below : n < UInt64.size) : codec.ReadsBack a := by
  obtain ⟨c, cs, hchars, hhead⟩ := ofInt_cons n
  have htext : (codec.write a).chars = c :: cs := by
    rw [written, chars, hchars]
  refine ⟨by rw [htext]; exact hhead.opens cs, fun rest ends => ?_⟩
  have hnumber : number (c :: (cs ++ rest)) = .ok (.integer n, rest) := by
    have h := number_ofInt above below ends
    rw [hchars] at h
    exact h
  have hread : readInteger low high want (c :: (cs ++ rest)) = .ok (n, rest) := by
    show (readNumber want (c :: (cs ++ rest)) >>= _) = _
    rw [readNumber_cons want hhead, hnumber]
    show (if low ≤ n ∧ n ≤ high then _ else _) = _
    rw [if_pos bounds]
    rfl
  rw [htext, List.cons_append, read]
  show (readInteger low high want (c :: (cs ++ rest)) >>= _) = _
  rw [hread, ← back]
  rfl

theorem readsBack_int64 (n : Int64) : Codec.int64.ReadsBack n := by
  have hlow := n.minValue_le_toInt
  have hhigh := n.toInt_le
  have hmin : Int64.minValue.toInt = -9223372036854775808 := by decide
  have hmax : Int64.maxValue.toInt = 9223372036854775807 := by decide
  have hsize : UInt64.size = 18446744073709551616 := rfl
  exact readsBack_integer Int64.ofInt rfl rfl n.ofInt_toInt ⟨hlow, hhigh⟩ (by omega) (by omega)

theorem readsBack_int32 (n : Int32) : Codec.int32.ReadsBack n := by
  have hlow := n.minValue_le_toInt
  have hhigh := n.toInt_le
  have hmin : Int32.minValue.toInt = -2147483648 := by decide
  have hmax : Int32.maxValue.toInt = 2147483647 := by decide
  have hsize : UInt64.size = 18446744073709551616 := rfl
  exact readsBack_integer Int32.ofInt rfl rfl n.ofInt_toInt ⟨hlow, hhigh⟩ (by omega) (by omega)

theorem readsBack_unsigned64 (want : String) (n : UInt64) :
    (Codec.unsigned64 want).ReadsBack n := by
  have hhigh := n.toNat_lt
  have hsize : UInt64.size = 18446744073709551616 := rfl
  have hbounds : 0 ≤ (n.toNat : Int) ∧ (n.toNat : Int) ≤ (UInt64.size - 1 : Nat) := by omega
  exact readsBack_integer (fun n => UInt64.ofNat n.toNat) rfl rfl UInt64.ofNat_toNat hbounds
    (by omega) (by omega)

theorem readsBack_uint16 (n : UInt16) : Codec.uint16.ReadsBack n := by
  have hhigh := n.toNat_lt
  have hwidth : UInt16.size = 65536 := rfl
  have hsize : UInt64.size = 18446744073709551616 := rfl
  have hbounds : 0 ≤ (n.toNat : Int) ∧ (n.toNat : Int) ≤ (UInt16.size - 1 : Nat) := by omega
  exact readsBack_integer (fun n => UInt16.ofNat n.toNat) rfl rfl UInt16.ofNat_toNat hbounds
    (by omega) (by omega)

/-! ### Doubles -/

/-- The text has no blank in it. -/
def Solid (cs : List Char) : Prop := ∀ c ∈ cs, isJsonBlank c = false

instance (cs : List Char) : Decidable (Solid cs) :=
  List.decidableBAll (fun c => isJsonBlank c = false) cs

theorem solid_append {cs ds : List Char} : Solid (cs ++ ds) ↔ Solid cs ∧ Solid ds :=
  List.forall_mem_append

theorem Solid.dropBlanks {cs : List Char} (h : Solid cs) : dropBlanks cs = cs := by
  cases cs with
  | nil => rfl
  | cons c cs => exact dropBlanks_cons (h c List.mem_cons_self) cs

theorem solid_digits {ds : List Char} (h : ∀ d ∈ ds, d.isDigit = true) : Solid ds :=
  fun d inside => (IsNumberHead.opens (.inr (h d inside)) []).1

theorem solid_toDigits (n : Nat) : Solid (Nat.toDigits 10 n) :=
  solid_digits fun _ => Decimal.isDigit_of_mem_toDigits

theorem solid_zeros (n : Nat) : Solid (List.replicate n '0') :=
  solid_digits fun _ inside => by rw [(List.mem_replicate.1 inside).2]; rfl

theorem Solid.take {cs : List Char} (h : Solid cs) (n : Nat) : Solid (cs.take n) :=
  fun c inside => h c (List.mem_of_mem_take inside)

theorem Solid.drop {cs : List Char} (h : Solid cs) (n : Nat) : Solid (cs.drop n) :=
  fun c inside => h c (List.mem_of_mem_drop inside)

theorem solid_layout (digits : Nat) (exponent : Int) : Solid (layout digits exponent).toList := by
  have hdigits := solid_toDigits digits
  unfold layout
  dsimp only
  split
  · simp only [String.toList_append, String.toList_ofList]
    exact solid_append.2 ⟨solid_append.2 ⟨hdigits, solid_zeros _⟩, by decide⟩
  split
  · simp only [String.toList_append, String.toList_ofList]
    exact solid_append.2 ⟨solid_append.2 ⟨hdigits.take _, by decide⟩, hdigits.drop _⟩
  split
  · simp only [String.toList_append, String.toList_ofList]
    exact solid_append.2 ⟨by decide, solid_append.2 ⟨solid_zeros _, hdigits⟩⟩
  · have hfraction : Solid (if (Nat.toDigits 10 digits).length = 1 then ""
        else "." ++ String.ofList ((Nat.toDigits 10 digits).drop 1)).toList := by
      split
      · decide
      · simp only [String.toList_append, String.toList_ofList]
        exact solid_append.2 ⟨by decide, hdigits.drop 1⟩
    have hmark : ∀ power : Int, Solid (if power < 0 then "e-" else "e+").toList := by
      intro power
      split <;> decide
    simp only [String.toList_append, String.toList_ofList, Decimal.ofNat]
    exact solid_append.2 ⟨solid_append.2 ⟨solid_append.2 ⟨hdigits.take 1, hfraction⟩, hmark _⟩,
      solid_toDigits _⟩

theorem solid_realText (x : Float) : Solid (realText x).toList := by
  have hsign : Solid (if UInt64.size / 2 ≤ x.toBits.toNat then "-" else "").toList := by
    split <;> decide
  unfold realText
  split
  · decide
  · dsimp only
    split
    · rw [String.toList_append]
      exact solid_append.2 ⟨hsign, by decide⟩
    · rw [String.toList_append]
      exact solid_append.2 ⟨hsign, solid_layout _ _⟩

theorem refuse_ne_ok {α : Type} (want : String) (cs : List Char) (r : α × List Char) :
    refuse want cs ≠ .ok r := by
  intro h
  unfold refuse at h
  split at h
  · cases h
  · obtain ⟨_, _, hthrow⟩ := bind_eq_ok.1 h
    cases hthrow
  · obtain ⟨_, _, hthrow⟩ := bind_eq_ok.1 h
    cases hthrow
  · obtain ⟨_, _, hthrow⟩ := bind_eq_ok.1 h
    cases hthrow
  · obtain ⟨_, _, hthrow⟩ := bind_eq_ok.1 h
    cases hthrow
  · cases h
  · cases h
  · split at h
    · obtain ⟨⟨v, _⟩, _, hthrow⟩ := bind_eq_ok.1 h
      cases v <;> cases hthrow
    · cases h

theorem readNumber_eq_ok {want : String} {cs left : List Char} {v : Number} (solid : Solid cs)
    (h : readNumber want cs = .ok (v, left)) :
    ∃ c ds, cs = c :: ds ∧ IsNumberHead c ∧ number cs = .ok (v, left) := by
  rw [readNumber, solid.dropBlanks] at h
  cases cs with
  | nil => exact absurd h (refuse_ne_ok _ _ _)
  | cons c ds =>
    by_cases hhead : IsNumberHead c
    · exact ⟨c, ds, rfl, hhead, (if_pos hhead).symm.trans h⟩
    · exact absurd ((if_neg hhead).symm.trans h) (refuse_ne_ok _ _ _)

/-- A double that is read from its text on its own is read from it inside of a longer text. -/
theorem readsBack_real {x : Float} (h : Codec.real.Carries x) : Codec.real.ReadsBack x := by
  have htext : (Codec.real.write x).chars = (realText x).toList := by rw [Codec.real, chars]
  have hsolid := solid_realText x
  obtain ⟨left, hread, hblank⟩ := Codec.read_of_decode h
  rw [Codec.encode, compact, String.toList_ofList, htext] at hread
  obtain ⟨⟨v, left'⟩, hnumber, hvalue⟩ := bind_eq_ok.1
    (show (readNumber "f64" (realText x).toList >>= _) = _ from hread)
  obtain ⟨c, ds, hchars, hhead, hnumber⟩ := readNumber_eq_ok hsolid hnumber
  obtain ⟨hsuffix, hmore⟩ := stops_number hnumber
  -- Only blanks may be left behind the number, and the text has none.
  have hend : left' = [] := by
    have hsame : left' = left := by
      cases v <;> exact (Prod.mk.inj (Except.ok.inj hvalue)).2
    have hleft : Solid left' := fun d inside => hsolid d (hsuffix.subset inside)
    rw [← hleft.dropBlanks, hsame]
    exact hblank
  subst hend
  refine ⟨by rw [htext, hchars]; exact hhead.opens ds, fun rest ends => ?_⟩
  have hlonger : readNumber "f64" ((realText x).toList ++ rest) = .ok (v, rest) := by
    have h := hmore ends
    rw [hchars, List.cons_append] at h ⊢
    rw [readNumber_cons _ hhead]
    exact h
  rw [htext]
  show (readNumber "f64" ((realText x).toList ++ rest) >>= _) = _
  rw [hlonger]
  cases v with
  | integer n =>
    have hx := (Prod.mk.inj (Except.ok.inj hvalue)).1
    rw [← hx]
    rfl
  | real y =>
    have hx : y = x := (Prod.mk.inj (Except.ok.inj hvalue)).1
    rw [← hx]
    rfl

/-- Not every double is carried: this one is read as the double next to it. -/
example : ¬ Codec.real.Carries 0.43490753560368717 :=
  fun h => absurd (congrArg Except.toOption h) (by decide +kernel)

/-! ### Options -/

section

variable {α : Type} {codec : Codec α}

/-- An option is carried if the value that it may hold is, and does not look like `null`. -/
theorem takes_option {o : Option α} (h : ∀ a ∈ o, codec.ReadsBack a) :
    Takes codec.option.read (codec.option.write o).chars o := by
  intro rest ends
  cases o with
  | none => rfl
  | some a =>
    have ha := h a rfl
    have htakes := ha.takes rest ends
    have hopens := ha.opens
    show codec.option.read ((codec.write a).chars ++ rest) = _
    cases htext : (codec.write a).chars with
    | nil =>
      rw [htext] at hopens
      exact hopens.elim
    | cons c cs =>
      rw [htext, List.cons_append] at htakes
      rw [htext] at hopens
      unfold Codec.option
      dsimp only
      rw [List.cons_append, dropBlanks_cons hopens.1]
      split
      · next hnull => exact absurd (List.cons.inj hnull).1 hopens.2.2
      · rw [htakes]
        rfl

/-! ### Lists -/

theorem itemChars_cons (x : Json) (items : List Json) :
    itemChars (x :: items) = x.chars ++ items.flatMap fun y => ',' :: y.chars := by
  induction items generalizing x with
  | nil => simp [itemChars]
  | cons y items ih => rw [itemChars, ih, List.flatMap_cons, List.cons_append]

/-- Between values, and before what ends them all, a value may end. -/
theorem ends_commas {β : Type} (text : β → List Char) (bs : List β) {rest : List Char}
    (ends : Ends rest) : Ends (bs.flatMap (fun b => ',' :: text b) ++ rest) := by
  cases bs with
  | nil => exact ends
  | cons b bs => exact .inl rfl

theorem length_le_commas {β : Type} (text : β → List Char) (bs : List β) :
    bs.length ≤ (bs.flatMap fun b => ',' :: text b).length := by
  induction bs with
  | nil => exact Nat.le_refl 0
  | cons b bs ih =>
    rw [List.flatMap_cons, List.length_append, List.length_cons, List.length_cons]
    omega

theorem ends_bracket (rest : List Char) : Ends (']' :: rest) := .inr (.inl rfl)

theorem nextItem_first {cs : List Char} (opens : Opens cs) (rest : List Char) :
    nextItem true (cs ++ rest) = .ok (true, cs ++ rest) := by
  cases cs with
  | nil => exact opens.elim
  | cons c cs =>
    rw [List.cons_append, nextItem, dropBlanks_cons opens.1]
    split
    · next h => cases h
    · next h => exact absurd (List.cons.inj h).1 opens.2.1
    · next h =>
      obtain ⟨rfl, rfl⟩ := List.cons.inj h
      rfl

theorem nextItem_comma {cs : List Char} (opens : Opens cs) (rest : List Char) :
    nextItem false (',' :: (cs ++ rest)) = .ok (true, cs ++ rest) := by
  cases cs with
  | nil => exact opens.elim
  | cons c cs =>
    rw [nextItem, dropBlanks_cons rfl]
    split
    · next h => cases h
    · next h => cases (List.cons.inj h).1
    · next h =>
      obtain ⟨rfl, rfl⟩ := List.cons.inj h
      rw [if_neg Bool.false_ne_true, if_pos rfl, List.cons_append, dropBlanks_cons opens.1]
      split
      · next h => cases h
      · next h => exact absurd (List.cons.inj h).1 opens.2.1
      · rfl

theorem readItems_cons {item : Reader α} {fuel : Nat} {first : Bool} {cs text rest left : List Char}
    {a : α} {as : List α} (next : nextItem first cs = .ok (true, text ++ rest))
    (takes : Takes item text a) (ends : Ends rest)
    (more : readItems item fuel false rest = .ok (as, left)) :
    readItems item (fuel + 1) first cs = .ok (a :: as, left) := by
  rw [readItems, next]
  show (item (text ++ rest) >>= _) = _
  rw [takes rest ends]
  show (readItems item fuel false rest >>= _) = _
  rw [more]
  rfl

theorem readItems_written {as : List α} (h : ∀ a ∈ as, codec.ReadsBack a) (rest : List Char)
    {fuel : Nat} (enough : as.length < fuel) :
    readItems codec.read fuel false
      ((as.map codec.write).flatMap (fun y => ',' :: y.chars) ++ ']' :: rest) =
        .ok (as, ']' :: rest) := by
  induction as generalizing fuel with
  | nil =>
    obtain ⟨fuel, rfl⟩ : ∃ n, fuel = n + 1 := ⟨fuel - 1, by simp at enough; omega⟩
    rfl
  | cons a as ih =>
    obtain ⟨fuel, rfl⟩ : ∃ n, fuel = n + 1 := ⟨fuel - 1, by omega⟩
    have ha := h a List.mem_cons_self
    have hmore := ih (fun b inside => h b (List.mem_cons_of_mem _ inside))
      (Nat.lt_of_succ_lt_succ enough)
    rw [List.map_cons, List.flatMap_cons, List.cons_append, List.cons_append, List.append_assoc]
    exact readItems_cons (nextItem_comma ha.opens _) ha.takes
      (ends_commas _ _ (ends_bracket rest)) hmore

theorem length_le_itemChars (items : List Json) : items.length ≤ (itemChars items).length + 1 := by
  cases items with
  | nil => exact Nat.zero_le _
  | cons x items =>
    have hcommas := length_le_commas chars items
    rw [itemChars_cons, List.length_append, List.length_cons]
    omega

/-- A list is carried if all its items are. -/
theorem readsBack_list {as : List α} (h : ∀ a ∈ as, codec.ReadsBack a) :
    codec.list.ReadsBack as := by
  have htext : (codec.list.write as).chars = '[' :: itemChars (as.map codec.write) ++ [']'] := by
    rw [Codec.list, chars]
  refine ⟨by rw [htext]; exact ⟨rfl, by decide, by decide⟩, fun rest _ => ?_⟩
  have hitems : ∀ fuel, as.length < fuel → readItems codec.read fuel true
      (itemChars (as.map codec.write) ++ ']' :: rest) = .ok (as, ']' :: rest) := by
    intro fuel enough
    obtain ⟨fuel, rfl⟩ : ∃ n, fuel = n + 1 := ⟨fuel - 1, by omega⟩
    cases as with
    | nil => rfl
    | cons a as =>
      have ha := h a List.mem_cons_self
      have hmore := readItems_written (fun b inside => h b (List.mem_cons_of_mem _ inside)) rest
        (Nat.lt_of_succ_lt_succ enough)
      rw [List.map_cons, itemChars_cons, List.append_assoc]
      exact readItems_cons (nextItem_first ha.opens _) ha.takes
        (ends_commas _ _ (ends_bracket rest)) hmore
  -- The fuel is the length of the text, and every item takes at least its comma.
  have hlength := length_le_itemChars (as.map codec.write)
  rw [List.length_map] at hlength
  rw [htext, List.append_assoc, List.cons_append, List.singleton_append]
  show (readItems codec.read ((itemChars (as.map codec.write) ++ ']' :: rest).length + 1) true
    (itemChars (as.map codec.write) ++ ']' :: rest) >>= _) = _
  rw [hitems _ (by rw [List.length_append, List.length_cons]; omega)]
  rfl

/-- A list that `null` may stand for is written like any list. -/
theorem readsBack_listOrNull {as : List α} (h : ∀ a ∈ as, codec.ReadsBack a) :
    codec.listOrNull.ReadsBack as := by
  have hlist := readsBack_list h
  have hoption : Takes codec.list.option.read (codec.list.write as).chars (some as) :=
    takes_option (o := some as) fun b hb => by cases hb; exact hlist
  refine ⟨hlist.opens, fun rest ends => ?_⟩
  show (codec.list.option.read ((codec.list.write as).chars ++ rest) >>= _) = _
  rw [hoption rest ends]
  rfl

end

end FaultPlane.Json
