import FaultPlane.Cluster.Kubectl
import FaultPlane.Proofs.Text.Trimming

/-!
# Names in listings

A listing has names with blanks between them. The reader of it cuts at the blanks first and drops
the quotes at the ends of every word after that. Quotes around a whole listing are thus dropped from
its first and its last word, or are words of their own that nothing is left of, and the names are
read back that the listing was made of (`names_read_back`).
-/

namespace FaultPlane.Cluster

open Injection (ResourceKind)
open Text (allBlank isBlank stripBoth)
open Text.Utf8 (decodeLossy)

def isQuote (c : Char) : Bool := c = '\'' || c = '"'

/-! ### Lists of characters -/

/-- The names in a list of characters. -/
def namesIn (cs : List Char) : List (List Char) :=
  ((cs.splitOnP isBlank).map (stripBoth isQuote)).filter (· ≠ [])

theorem parseNames_eq (s : String) : parseNames s = (namesIn s.toList).map String.ofList := by
  -- A word that is not empty may be left with nothing, but never the other way round.
  have hkept : ∀ cs : List Char, (decide (String.ofList (stripBoth isQuote cs) ≠ "") &&
      decide (String.ofList cs ≠ "")) = decide (stripBoth isQuote cs ≠ []) := by
    intro cs
    cases cs with
    | nil => rfl
    | cons c cs => simp [String.ofList_eq_empty_iff]
  have hquote : (fun c => decide (c = '\'') || decide (c = '"')) = isQuote := rfl
  unfold parseNames Text.words Text.pieces namesIn
  simp only [List.filter_map, List.map_map, List.filter_filter, hquote, Function.comp_def,
    String.toList_ofList, hkept]

theorem namesIn_nil : namesIn [] = [] := by simp [namesIn, stripBoth]

theorem namesIn_append_cons {c : Char} (blank : isBlank c = true) (cs ds : List Char) :
    namesIn (cs ++ c :: ds) = namesIn cs ++ namesIn ds := by
  rw [namesIn, List.splitOnP_append_cons cs ds blank, List.map_append, List.filter_append]
  rfl

section

variable {gap : List Char} (blank : ∀ c ∈ gap, isBlank c = true)

include blank

theorem namesIn_blanks (cs : List Char) : namesIn (gap ++ cs) = namesIn cs := by
  induction gap with
  | nil => rfl
  | cons c gap ih =>
    obtain ⟨hc, hgap⟩ := List.forall_mem_cons.1 blank
    have hfirst := namesIn_append_cons hc [] (gap ++ cs)
    rw [namesIn_nil] at hfirst
    exact hfirst.trans (ih hgap)

/-- Blanks keep the names on both sides of them apart. -/
theorem namesIn_append (hne : gap ≠ []) (cs ds : List Char) :
    namesIn (cs ++ gap ++ ds) = namesIn cs ++ namesIn ds := by
  obtain ⟨c, rest, rfl⟩ := List.exists_cons_of_ne_nil hne
  obtain ⟨hc, hrest⟩ := List.forall_mem_cons.1 blank
  rw [List.append_assoc, List.cons_append, namesIn_append_cons hc, namesIn_blanks hrest]

end

section

variable {quotes : List Char} (quote : ∀ c ∈ quotes, isQuote c = true)

include quote

theorem not_blank_of_quote : ∀ c ∈ quotes, isBlank c = false := by
  intro c inside
  have hc : c = '\'' ∨ c = '"' := by simpa [isQuote] using quote c inside
  rcases hc with rfl | rfl
  · decide
  · decide

theorem namesIn_quotes_left (cs : List Char) : namesIn (quotes ++ cs) = namesIn cs := by
  obtain ⟨first, others, hcs⟩ := List.exists_cons_of_ne_nil (List.splitOnP_ne_nil isBlank cs)
  have hstrip : stripBoth isQuote (quotes ++ first) = stripBoth isQuote first := by
    simpa using Text.stripBoth_surround isQuote quote (List.forall_mem_nil _) first
  rw [namesIn, Text.splitOnP_append_left (not_blank_of_quote quote), hcs, List.modifyHead_cons,
    List.map_cons, hstrip, namesIn, hcs, List.map_cons]

theorem namesIn_quotes_right (cs : List Char) : namesIn (cs ++ quotes) = namesIn cs := by
  obtain ⟨others, last, hcs, happend⟩ := Text.splitOnP_append_right (not_blank_of_quote quote) cs
  have hstrip : stripBoth isQuote (last ++ quotes) = stripBoth isQuote last := by
    simpa using Text.stripBoth_surround isQuote (List.forall_mem_nil _) quote last
  rw [namesIn, happend, List.map_append, List.map_singleton, hstrip, namesIn, hcs, List.map_append,
    List.map_singleton]

end

/-! ### Listings -/

/-- A name that can be told from what is around it in a listing. -/
structure ProperName (name : String) : Prop where
  nonempty : name ≠ ""
  unbroken : ∀ c ∈ name.toList, isBlank c = false
  bareFirst : ∀ c ∈ name.toList.head?, isQuote c = false
  bareLast : ∀ c ∈ name.toList.getLast?, isQuote c = false

/-- Names in one text, with blanks between them. -/
inductive Row : List String → String → Prop where
  | none : Row [] ""
  | one (name : String) : Row [name] name
  | more (name : String) {names : List String} {gap rest : String} (broken : gap ≠ "")
      (blank : allBlank gap = true) (others : Row names rest) :
      Row (name :: names) (name ++ gap ++ rest)

/-- Whether a text is another one with blanks around it. -/
def Spaced (inner text : String) : Prop :=
  ∃ front back, text = front ++ inner ++ back ∧ allBlank front = true ∧ allBlank back = true

/-- The texts that list names: they have blanks around them, and may have a pair of quotes. -/
inductive Lists (names : List String) (text : String) : Prop where
  | bare {row : String} (listed : Row names row) (spaced : Spaced row text)
  | quoted {row inner : String} {quote : Char} (paired : isQuote quote = true)
      (listed : Row names row) (within : Spaced row inner)
      (spaced : Spaced (String.singleton quote ++ inner ++ String.singleton quote) text)

theorem parseNames_spaced {inner text : String} (h : Spaced inner text) :
    parseNames text = parseNames inner := by
  obtain ⟨front, back, rfl, hfront, hback⟩ := h
  rw [Text.allBlank_iff] at hfront hback
  rw [parseNames_eq, parseNames_eq, String.toList_append, String.toList_append, List.append_assoc,
    namesIn_blanks hfront]
  rcases eq_or_ne back.toList [] with hnil | hne
  · rw [hnil, List.append_nil]
  · have hafter := namesIn_append hback hne inner.toList []
    rw [namesIn_nil, List.append_nil, List.append_nil] at hafter
    rw [hafter]

theorem parseNames_quoted {quote : Char} (paired : isQuote quote = true) (inner : String) :
    parseNames (String.singleton quote ++ inner ++ String.singleton quote) = parseNames inner := by
  have hquote : ∀ c ∈ [quote], isQuote c = true := List.forall_mem_singleton.2 paired
  rw [parseNames_eq, parseNames_eq, String.toList_append, String.toList_append,
    String.toList_singleton, namesIn_quotes_right hquote, namesIn_quotes_left hquote]

theorem parseNames_one {name : String} (proper : ProperName name) : parseNames name = [name] := by
  have hstrip := Text.stripBoth_eq_self isQuote proper.bareFirst proper.bareLast
  rw [parseNames_eq, namesIn, List.splitOnP_eq_singleton proper.unbroken, List.map_singleton, hstrip]
  simp [proper.nonempty]

theorem parseNames_row {names : List String} {row : String} (listed : Row names row)
    (proper : ∀ name ∈ names, ProperName name) : parseNames row = names := by
  induction listed with
  | none => rw [parseNames_eq, String.toList_empty, namesIn_nil, List.map_nil]
  | one name => exact parseNames_one (proper name List.mem_cons_self)
  | more name broken blank others ih =>
    obtain ⟨hname, hothers⟩ := List.forall_mem_cons.1 proper
    have hfirst := parseNames_one hname
    have hrest := ih hothers
    rw [parseNames_eq] at hfirst hrest
    rw [parseNames_eq, String.toList_append, String.toList_append,
      namesIn_append (Text.allBlank_iff.1 blank) (by simpa using broken), List.map_append,
      hfirst, hrest]
    rfl

theorem parseNames_of_lists {names : List String} {text : String}
    (proper : ∀ name ∈ names, ProperName name) (h : Lists names text) :
    parseNames text = names := by
  cases h with
  | bare listed spaced => rw [parseNames_spaced spaced, parseNames_row listed proper]
  | quoted paired listed within spaced =>
    rw [parseNames_spaced spaced, parseNames_quoted paired, parseNames_spaced within,
      parseNames_row listed proper]

theorem properName_of_mem {text name : String} (h : name ∈ parseNames text) : ProperName name := by
  rw [parseNames_eq, List.mem_map] at h
  obtain ⟨cs, member, rfl⟩ := h
  rw [namesIn, List.mem_filter, List.mem_map] at member
  obtain ⟨⟨word, inside, rfl⟩, hne⟩ := member
  obtain ⟨front, back, hword, -, -⟩ := Text.exists_surround isQuote word
  refine ⟨by simpa [String.ofList_eq_empty_iff] using hne, ?_, ?_, ?_⟩
  · rw [String.toList_ofList]
    intro c hc
    refine Text.free_of_mem_splitOnP text.toList word inside c ?_
    rw [hword]
    exact List.mem_append_left back (List.mem_append_right front hc)
  · rw [String.toList_ofList]
    exact Text.head?_stripBoth isQuote word
  · rw [String.toList_ofList]
    exact Text.getLast?_stripBoth isQuote word

/-- Names that were put together with blanks are read back as they were, in their order. Whatever
the text, nothing but names is read from it. What the program writes is read as it stands, for the
blanks that are trimmed from it make no difference. -/
theorem names_read_back (k : Kubectl) (kind : ResourceKind) (namespaceName : String) :
    (∀ names text, (∀ name ∈ names, ProperName name) → Lists names text →
      parseNames text = names) ∧
    (∀ text, ∀ name ∈ parseNames text, ProperName name) ∧
    ∀ stdout stderr, k.answer (.ended true stdout stderr) (.list kind namespaceName) =
      parseNames (decodeLossy stdout) := by
  refine ⟨fun names text proper h => parseNames_of_lists proper h,
    fun text name => properName_of_mem, fun stdout stderr => ?_⟩
  obtain ⟨-, trimmed⟩ := Text.padded_trim (decodeLossy stdout)
  exact (parseNames_spaced trimmed).symm

theorem names_read_back_pair :
    (∀ name ∈ ["a", "b\"c"], ProperName name) ∧ Lists ["a", "b\"c"] " 'a \n b\"c' " ∧
      parseNames " 'a \n b\"c' " = ["a", "b\"c"] := by
  have hproper : ∀ name ∈ ["a", "b\"c"], ProperName name := by
    refine List.forall_mem_cons.2 ⟨?_, List.forall_mem_singleton.2 ?_⟩
    · exact ⟨by decide, by simp [isBlank], by simp [isQuote], by simp [isQuote]⟩
    · exact ⟨by decide, by simp [isBlank], by simp [isQuote], by simp [isQuote]⟩
  have hrow : Row ["a", "b\"c"] "a \n b\"c" := by
    have hjoined : "a \n b\"c" = "a" ++ " \n " ++ "b\"c" := by decide
    rw [hjoined]
    exact .more "a" (by decide) (by decide) (.one "b\"c")
  have hwithin : Spaced "a \n b\"c" "a \n b\"c" := ⟨"", "", by decide, by decide, by decide⟩
  have hspaced : Spaced (String.singleton '\'' ++ "a \n b\"c" ++ String.singleton '\'')
      " 'a \n b\"c' " :=
    ⟨" ", " ", by decide, by decide, by decide⟩
  have hlists : Lists ["a", "b\"c"] " 'a \n b\"c' " :=
    .quoted (by decide) hrow hwithin hspaced
  exact ⟨hproper, hlists, (names_read_back {} .networkChaos "chaos-mesh").1 _ _ hproper hlists⟩

end FaultPlane.Cluster
