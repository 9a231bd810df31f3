import FaultPlane.Json.Record
import FaultPlane.Json.Variant
import FaultPlane.Proofs.Json.Carried

/-!
# Objects that are carried by their text

The entries that are written for an object are read back one by one (`Folds.read`). A record is
carried if the values of its fields are, and if what is left out when it is written is what stands
for the field when it is absent (`readsBack_record`). A value of a sum type and a dictionary are
carried as they are (`readsBack_choice`, `readsBack_dictionary`).
-/

namespace FaultPlane.Json

/-! ### Entries -/

/-- An entry as it is written. -/
def entryText (e : String × Json) : List Char := textChars e.1 ++ ':' :: e.2.chars

theorem entryChars_cons (e : String × Json) (es : List (String × Json)) :
    entryChars (e :: es) = entryText e ++ es.flatMap fun e => ',' :: entryText e := by
  induction es generalizing e with
  | nil => simp [entryChars, entryText]
  | cons e' es ih =>
    rw [entryChars, ih, List.flatMap_cons, List.cons_append]
    rfl

/-- Reading the entries one by one, after their keys, leads from one state to the other. -/
inductive Folds {σ : Type} (entry : String → σ → Reader σ) : List (String × Json) → σ → σ → Prop
  | nil (s : σ) : Folds entry [] s s
  | cons {key : String} {x : Json} {es : List (String × Json)} {s s' s'' : σ} :
    Takes (entry key s) (':' :: x.chars) s' → Folds entry es s' s'' →
      Folds entry ((key, x) :: es) s s''

theorem ends_brace (rest : List Char) : Ends ('}' :: rest) := .inr (.inr rfl)

section

variable {σ : Type} {entry : String → σ → Reader σ} {key : String} {x : Json}
  {es : List (String × Json)} {s s' s'' : σ}

theorem foldEntries_cons {fuel : Nat} {first : Bool} {cs rest left : List Char}
    (next : nextKey first cs =
      .ok (true, key.toList.flatMap escapeChar ++ '"' :: (':' :: x.chars ++ rest)))
    (takes : Takes (entry key s) (':' :: x.chars) s') (ends : Ends rest)
    (more : foldEntries entry fuel false s' rest = .ok (s'', left)) :
    foldEntries entry (fuel + 1) first s cs = .ok (s'', left) := by
  rw [foldEntries, next]
  show (textBody (key.toList.flatMap escapeChar ++ '"' :: (':' :: x.chars ++ rest)) >>= _) = _
  rw [textBody_escaped]
  show (entry key s (':' :: x.chars ++ rest) >>= _) = _
  rw [takes rest ends]
  exact more

theorem entryText_append (e : String × Json) (rest : List Char) : entryText e ++ rest =
    '"' :: (e.1.toList.flatMap escapeChar ++ '"' :: (':' :: e.2.chars ++ rest)) := by
  simp [entryText, textChars]

theorem foldEntries_written (folds : Folds entry es s s') (rest : List Char) {fuel : Nat}
    (enough : es.length < fuel) :
    foldEntries entry fuel false s (es.flatMap (fun e => ',' :: entryText e) ++ '}' :: rest) =
      .ok (s', '}' :: rest) := by
  induction folds generalizing fuel with
  | nil s =>
    obtain ⟨fuel, rfl⟩ : ∃ n, fuel = n + 1 := ⟨fuel - 1, by simp at enough; omega⟩
    rfl
  | cons takes _ ih =>
    obtain ⟨fuel, rfl⟩ : ∃ n, fuel = n + 1 := ⟨fuel - 1, by omega⟩
    refine foldEntries_cons ?_ takes (ends_commas _ _ (ends_brace rest))
      (ih (Nat.lt_of_succ_lt_succ enough))
    rw [List.flatMap_cons, List.cons_append, List.cons_append, List.append_assoc, entryText_append]
    rfl

theorem length_le_entryChars (es : List (String × Json)) :
    es.length ≤ (entryChars es).length + 1 := by
  cases es with
  | nil => exact Nat.zero_le _
  | cons e es =>
    have hcommas := length_le_commas entryText es
    rw [entryChars_cons, List.length_append, List.length_cons]
    omega

/-- All entries of an object are read, up to its closing brace. -/
theorem Folds.read (folds : Folds entry es s s') (rest : List Char) :
    foldEntries entry ((entryChars es ++ '}' :: rest).length + 1) true s
      (entryChars es ++ '}' :: rest) = .ok (s', '}' :: rest) := by
  -- The fuel is the length of the text, and every entry takes at least its comma.
  have henough : es.length < (entryChars es ++ '}' :: rest).length + 1 := by
    have hlength := length_le_entryChars es
    rw [List.length_append, List.length_cons]
    omega
  generalize (entryChars es ++ '}' :: rest).length + 1 = fuel at henough
  obtain ⟨fuel, rfl⟩ : ∃ n, fuel = n + 1 := ⟨fuel - 1, by omega⟩
  cases folds with
  | nil s => rfl
  | cons takes more =>
    refine foldEntries_cons ?_ takes (ends_commas _ _ (ends_brace rest))
      (foldEntries_written more rest (Nat.lt_of_succ_lt_succ henough))
    rw [entryChars_cons, List.append_assoc, entryText_append]
    rfl

end

/-! ### Records -/

namespace Field

variable {α : Type}

/-- The value is found again: it is written and read, or left out and put in its place. -/
def Restores (field : Field α) (a : α) : Prop :=
  if field.isOmitted a then field.absent = some a
  else Takes field.codec.read (field.codec.write a).chars a

variable {key : String} {codec : Codec α}

theorem restores_required {a : α} (h : codec.ReadsBack a) : (required key codec).Restores a :=
  h.takes

theorem restores_withDefault {default a : α} (h : codec.ReadsBack a) :
    (withDefault key codec default).Restores a :=
  h.takes

theorem restores_nullable {o : Option α} (h : ∀ a ∈ o, codec.ReadsBack a) :
    (nullable key codec).Restores o :=
  takes_option h

theorem restores_optional {o : Option α} (h : ∀ a ∈ o, codec.ReadsBack a) :
    (optional key codec).Restores o := by
  cases o with
  | none => rfl
  | some a => exact takes_option h

theorem restores_optionalKey {o : Option α} (h : ∀ a ∈ o, codec.ReadsBack a) :
    (optionalKey key codec).Restores o := by
  cases o with
  | none => rfl
  | some a => exact takes_option h

end Field

namespace Fields

def keys : {β σ : Type} → Fields β σ → List String
  | _, _, .nil => []
  | _, _, .cons field rest => field.key :: rest.keys

/-- Every value of the record is found again. -/
def Restores : {β σ : Type} → Fields β σ → β → Prop
  | _, _, .nil, _ => True
  | _, _, .cons field rest, (a, b) => field.Restores a ∧ rest.Restores b

/-- What has been found when all entries of a record are read. -/
def found : {β σ : Type} → Fields β σ → β → σ
  | _, _, .nil, _ => ()
  | _, _, .cons field rest, (a, b) => (if field.isOmitted a then none else some a, rest.found b)

theorem fst_mem_keys : {β σ : Type} → (fields : Fields β σ) → (b : β) →
    ∀ e ∈ fields.entries b, e.1 ∈ fields.keys
  | _, _, .nil, _, _, inside => by cases inside
  | _, _, .cons field rest, (a, b), e, inside => by
    unfold entries at inside
    split at inside
    · exact List.mem_cons_of_mem _ (rest.fst_mem_keys b e inside)
    · rcases List.mem_cons.1 inside with rfl | inside
      · exact List.mem_cons_self
      · exact List.mem_cons_of_mem _ (rest.fst_mem_keys b e inside)

section

variable {α β σ : Type} {field : Field α} {rest : Fields β σ} {others : σ}

theorem takes_entry {text : List Char} {a : α} (h : Takes field.codec.read text a) :
    Takes ((cons field rest).entry field.key (none, others)) (':' :: text) (some a, others) := by
  intro left ends
  rw [entry, fill, if_pos rfl]
  show (field.codec.read (text ++ left) >>= _) = _
  rw [h left ends]
  rfl

/-- A field leaves the entries of other fields alone. -/
theorem entry_of_ne {key : String} (h : key ≠ field.key) (found : Option α) (cs : List Char) :
    (cons field rest).entry key (found, others) cs =
      (rest.entry key others cs).map fun r => ((found, r.1), r.2) := by
  rw [entry, fill, if_neg h, entry]
  -- The other fields know the key or not, and whatever their reader does is passed on.
  cases rest.fill key others with
  | none =>
    show (expectColon cs >>= fun r => skipValue r.2 >>= _) = Except.map _ (expectColon cs >>= _)
    cases expectColon cs with
    | error problem => rfl
    | ok r =>
      show (skipValue r.2 >>= _) = Except.map _ (skipValue r.2 >>= _)
      cases skipValue r.2 <;> rfl
  | some reader =>
    show (reader cs >>= _) = Except.map _ (reader cs)
    cases reader cs <;> rfl

theorem folds_of_ne {es : List (String × Json)} {s s' : σ} (h : ∀ e ∈ es, e.1 ≠ field.key)
    (found : Option α) (folds : Folds rest.entry es s s') :
    Folds (cons field rest).entry es (found, s) (found, s') := by
  induction folds with
  | nil s => exact .nil _
  | cons takes _ ih =>
    have hne := h _ List.mem_cons_self
    refine .cons (fun left ends => ?_) (ih fun e inside => h e (List.mem_cons_of_mem _ inside))
    rw [entry_of_ne hne, takes left ends]
    rfl

end

/-- The entries of a record lead from nothing to the values of its fields. -/
theorem folds_entries : {β σ : Type} → (fields : Fields β σ) → (b : β) → fields.keys.Nodup →
    fields.Restores b → Folds fields.entry (fields.entries b) fields.blank (fields.found b)
  | _, _, .nil, _, _, _ => .nil _
  | _, _, .cons field rest, (a, b), nodup, restores => by
    obtain ⟨ha, hb⟩ := restores
    obtain ⟨fresh, nodup⟩ := List.nodup_cons.1 nodup
    have hrest := rest.folds_entries b nodup hb
    have hother : ∀ e ∈ rest.entries b, e.1 ≠ field.key := by
      intro e inside same
      rw [← same] at fresh
      exact fresh (rest.fst_mem_keys b e inside)
    rw [Field.Restores] at ha
    rw [entries, found, blank]
    -- The keys are distinct, so the other entries keep what has come of this field.
    split
    · exact folds_of_ne hother none hrest
    · next written =>
      rw [if_neg written] at ha
      exact .cons (takes_entry ha) (folds_of_ne hother (some a) hrest)

theorem complete_found : {β σ : Type} → (fields : Fields β σ) → (b : β) → fields.Restores b →
    fields.complete (fields.found b) = .ok b
  | _, _, .nil, _, _ => rfl
  | _, _, .cons field rest, (a, b), restores => by
    obtain ⟨ha, hb⟩ := restores
    have hrest := rest.complete_found b hb
    have hvalue : ((if field.isOmitted a then none else some a) <|> field.absent) = some a := by
      rw [Field.Restores] at ha
      split
      · next omitted =>
        rw [if_pos omitted] at ha
        rw [ha]
        rfl
      · rfl
    rw [found, complete, hvalue]
    show (rest.complete (rest.found b) >>= _) = _
    rw [hrest]
    rfl

end Fields

/-- A record is carried if the values of its fields are, and it is put together of its parts. -/
theorem readsBack_record {α β σ : Type} {name : String} {fields : Fields β σ} {make : β → α}
    {parts : α → β} {a : α} (distinct : fields.keys.Nodup) (restores : fields.Restores (parts a))
    (whole : make (parts a) = a) : (Codec.record name fields make parts).ReadsBack a := by
  have htext : ((Codec.record name fields make parts).write a).chars =
      '{' :: entryChars (fields.entries (parts a)) ++ ['}'] := by
    rw [Codec.record, chars]
  refine ⟨by rw [htext]; exact ⟨rfl, by decide, by decide⟩, fun rest _ => ?_⟩
  have hentries := (fields.folds_entries (parts a) distinct restores).read rest
  rw [htext, List.append_assoc, List.cons_append, List.singleton_append]
  show (foldEntries fields.entry ((entryChars (fields.entries (parts a)) ++ '}' :: rest).length + 1)
    true fields.blank (entryChars (fields.entries (parts a)) ++ '}' :: rest) >>= _) = _
  rw [hentries]
  show (fields.complete (fields.found (parts a)) >>= _) = _
  rw [fields.complete_found (parts a) restores]
  show Except.ok (make (parts a), rest) = _
  rw [whole]

/-! ### What a record may hold -/

/-- A value that a field may have after reading. -/
def Field.MayHold {α : Type} (field : Field α) (a : α) : Prop :=
  (∃ cs left, field.codec.read cs = .ok (a, left)) ∨ field.absent = some a ∨ field.beyond = some a

namespace Fields

/-- Every field may have its value after reading. -/
def MayHold : {β σ : Type} → Fields β σ → β → Prop
  | _, _, .nil, _ => True
  | _, _, .cons field rest, (a, b) => field.MayHold a ∧ rest.MayHold b

/-- Every field that has been found may have its value after reading. -/
def MayFind : {β σ : Type} → Fields β σ → σ → Prop
  | _, _, .nil, _ => True
  | _, _, .cons field rest, (found, others) =>
    (∀ a ∈ found, field.MayHold a) ∧ rest.MayFind others

theorem mayFind_blank : {β σ : Type} → (fields : Fields β σ) → fields.MayFind fields.blank
  | _, _, .nil => trivial
  | _, _, .cons _ rest => ⟨fun _ h => (nomatch h), rest.mayFind_blank⟩

theorem mayFind_fill : {β σ : Type} → (fields : Fields β σ) → {key : String} → {s s' : σ} →
    {reader : Reader σ} → {cs left : List Char} → fields.MayFind s →
    fields.fill key s = some reader → reader cs = .ok (s', left) → fields.MayFind s'
  | _, _, .nil, _, _, _, _, _, _, _, known, _ => by cases known
  | _, _, .cons field rest, key, (found, others), s', reader, cs, left, before, known, h => by
    obtain ⟨hfound, hothers⟩ := before
    rw [fill] at known
    split at known
    · cases known
      split at h
      · cases h
      · obtain ⟨⟨_, cs⟩, _, h⟩ := bind_eq_ok.1 h
        obtain ⟨⟨a, cs'⟩, hread, h⟩ := bind_eq_ok.1 h
        cases h
        exact ⟨fun b hb => by cases hb; exact .inl ⟨_, _, hread⟩, hothers⟩
    · cases hfill : rest.fill key others with
      | none =>
        rw [hfill] at known
        cases known
      | some inner =>
        rw [hfill] at known
        cases known
        obtain ⟨⟨others', cs⟩, hinner, h⟩ := bind_eq_ok.1 h
        cases h
        exact ⟨hfound, rest.mayFind_fill hothers hfill hinner⟩

theorem mayFind_entry {β σ : Type} {fields : Fields β σ} {key : String} {s s' : σ}
    {cs left : List Char} (before : fields.MayFind s)
    (h : fields.entry key s cs = .ok (s', left)) : fields.MayFind s' := by
  unfold entry at h
  cases hfill : fields.fill key s with
  | some reader =>
    rw [hfill] at h
    exact fields.mayFind_fill before hfill h
  | none =>
    rw [hfill] at h
    obtain ⟨_, _, h⟩ := bind_eq_ok.1 h
    obtain ⟨_, _, h⟩ := bind_eq_ok.1 h
    cases h
    exact before

theorem mayHold_complete : {β σ : Type} → (fields : Fields β σ) → {s : σ} → {b : β} →
    fields.MayFind s → fields.complete s = .ok b → fields.MayHold b
  | _, _, .nil, _, _, _, _ => trivial
  | _, _, .cons field rest, (found, others), b, before, h => by
    obtain ⟨hfound, hothers⟩ := before
    rw [complete] at h
    cases hvalue : found <|> field.absent with
    | none =>
      rw [hvalue] at h
      cases h
    | some a =>
      rw [hvalue] at h
      obtain ⟨_, hpure, h⟩ := bind_eq_ok.1 h
      obtain ⟨b, hrest, h⟩ := bind_eq_ok.1 h
      cases hpure
      cases h
      refine ⟨?_, rest.mayHold_complete hothers hrest⟩
      cases found with
      | some a' =>
        cases hvalue
        exact hfound _ rfl
      | none => exact .inr (.inl hvalue)

theorem mayHold_readItems : {β σ : Type} → (fields : Fields β σ) → {name : String} →
    {total index : Nat} → {cs left : List Char} → {b : β} →
    fields.readItems name total index cs = .ok (b, left) → fields.MayHold b
  | _, _, .nil, _, _, _, _, _, _, _ => trivial
  | _, _, .cons field rest, name, total, index, cs, left, b, h => by
    rw [readItems] at h
    obtain ⟨⟨more, cs⟩, _, h⟩ := bind_eq_ok.1 h
    cases more with
    | true =>
      obtain ⟨⟨a, cs⟩, hread, h⟩ := bind_eq_ok.1 h
      obtain ⟨⟨b, cs⟩, hrest, h⟩ := bind_eq_ok.1 h
      cases h
      exact ⟨.inl ⟨_, _, hread⟩, rest.mayHold_readItems hrest⟩
    | false =>
      cases hbeyond : field.beyond with
      | none =>
        rw [hbeyond] at h
        cases h
      | some a =>
        rw [hbeyond] at h
        obtain ⟨_, hpure, h⟩ := bind_eq_ok.1 h
        obtain ⟨⟨b, cs⟩, hrest, h⟩ := bind_eq_ok.1 h
        cases hpure
        cases h
        exact ⟨.inr (.inr hbeyond), rest.mayHold_readItems hrest⟩

end Fields

/-- What every step of a fold preserves holds of its result. -/
theorem foldEntries_induction {σ : Type} {entry : String → σ → Reader σ} {P : σ → Prop}
    (step : ∀ {key s cs s' left}, P s → entry key s cs = .ok (s', left) → P s')
    {fuel : Nat} {first : Bool} {s s' : σ} {cs left : List Char} (before : P s)
    (h : foldEntries entry fuel first s cs = .ok (s', left)) : P s' := by
  induction fuel generalizing first s cs with
  | zero => cases h
  | succ fuel ih =>
    rw [foldEntries] at h
    obtain ⟨⟨more, cs⟩, _, h⟩ := bind_eq_ok.1 h
    cases more with
    | false =>
      cases h
      exact before
    | true =>
      obtain ⟨⟨key, cs⟩, _, h⟩ := bind_eq_ok.1 h
      obtain ⟨⟨s₁, cs⟩, hentry, h⟩ := bind_eq_ok.1 h
      exact ih (step before hentry) h

/-- A record that is read is put together of values that its fields may have. -/
theorem mayHold_record {α β σ : Type} {name : String} {fields : Fields β σ} {make : β → α}
    {parts : α → β} {a : α} {cs left : List Char}
    (h : (Codec.record name fields make parts).read cs = .ok (a, left)) :
    ∃ b, fields.MayHold b ∧ make b = a := by
  rw [Codec.record] at h
  dsimp only at h
  split at h
  · obtain ⟨⟨s, cs⟩, hentries, h⟩ := bind_eq_ok.1 h
    obtain ⟨b, hcomplete, h⟩ := bind_eq_ok.1 h
    obtain ⟨_, _, h⟩ := bind_eq_ok.1 h
    cases h
    have hfound := foldEntries_induction Fields.mayFind_entry fields.mayFind_blank hentries
    exact ⟨b, fields.mayHold_complete hfound hcomplete, rfl⟩
  · obtain ⟨⟨b, cs⟩, hitems, h⟩ := bind_eq_ok.1 h
    obtain ⟨_, _, h⟩ := bind_eq_ok.1 h
    cases h
    exact ⟨b, fields.mayHold_readItems hitems, rfl⟩
  · exact absurd h (refuse_ne_ok _ _ _)

/-! ### Variants -/

theorem readVariant_text {α : Type} {variants : List (String × Variant α)} {name : String} {a : α}
    (h : variants.lookup name = some (.bare a)) :
    Takes (readVariant variants) (textChars name) a := by
  intro rest _
  have hchars : textChars name ++ rest =
      '"' :: (name.toList.flatMap escapeChar ++ '"' :: rest) := by
    simp [textChars]
  rw [hchars, readVariant, dropBlanks_cons rfl]
  show (textBody (name.toList.flatMap escapeChar ++ '"' :: rest) >>= _) = _
  rw [textBody_escaped]
  show (findVariant variants name >>= _) = _
  rw [findVariant, h]
  rfl

theorem readVariant_object {α : Type} {variants : List (String × Variant α)} {name : String}
    {read : Reader α} {x : Json} {a : α} (h : variants.lookup name = some (.carrying read))
    (takes : Takes read x.chars a) :
    Takes (readVariant variants) (Json.object [(name, x)]).chars a := by
  intro rest _
  have hchars : (Json.object [(name, x)]).chars ++ rest =
      '{' :: (textChars name ++ ':' :: (x.chars ++ '}' :: rest)) := by
    simp [chars, entryChars]
  rw [hchars, readVariant, dropBlanks_cons rfl]
  show (readText _ (textChars name ++ ':' :: (x.chars ++ '}' :: rest)) >>= _) = _
  rw [readText_textChars]
  show (findVariant variants name >>= _) = _
  rw [findVariant, h]
  show (read (x.chars ++ '}' :: rest) >>= _) = _
  rw [takes _ (ends_brace rest)]
  rfl

theorem readsBack_choice {α : Type} {all : List α} {name : α → String} {a : α}
    (h : (all.map fun a => (name a, Variant.bare a)).lookup (name a) = some (.bare a)) :
    (Codec.choice all name).ReadsBack a := by
  have htext : ((Codec.choice all name).write a).chars = textChars (name a) := by
    rw [Codec.choice, chars]
  refine ⟨by rw [htext]; exact opens_textChars _, ?_⟩
  rw [htext]
  exact readVariant_text h

/-! ### Dictionaries -/

/-- Reads one entry of a dictionary, after its key. -/
def dictionaryEntry (key : String) (table : Table String) : Reader (Table String) := fun cs => do
  let (_, cs) ← expectColon cs
  let (value, cs) ← readText "a string" cs
  pure (table.insert key value, cs)

theorem folds_dictionary (pairs : List (String × String)) (table : Table String) :
    Folds dictionaryEntry (pairs.map fun (key, value) => (key, .text value)) table
      (pairs.foldl (fun table (key, value) => table.insert key value) table) := by
  induction pairs generalizing table with
  | nil => exact .nil table
  | cons e pairs ih =>
    obtain ⟨key, value⟩ := e
    have hentry : Takes (dictionaryEntry key table) (':' :: (Json.text value).chars)
        (table.insert key value) := by
      intro rest _
      rw [chars]
      show (readText "a string" (textChars value ++ rest) >>= _) = _
      rw [readText_textChars]
      rfl
    exact .cons hentry (ih _)

theorem readsBack_dictionary (table : Table String) : Codec.dictionary.ReadsBack table := by
  have htext : (Codec.dictionary.write table).chars =
      '{' :: entryChars (table.entries.map fun (key, value) => (key, .text value)) ++ ['}'] := by
    rw [Codec.dictionary, chars]
  have hsame : table.entries.foldl (fun table (key, value) => table.insert key value) .empty =
      table := Table.ext (Table.entries_ofList table.nodup)
  refine ⟨by rw [htext]; exact ⟨rfl, by decide, by decide⟩, fun rest _ => ?_⟩
  have hread := (folds_dictionary table.entries .empty).read rest
  rw [hsame] at hread
  rw [htext, List.append_assoc, List.cons_append, List.singleton_append]
  show (foldEntries dictionaryEntry _ true .empty _ >>= _) = _
  rw [hread]
  rfl

end FaultPlane.Json
