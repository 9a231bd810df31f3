import FaultPlane.Proofs.Catalog.Entries
import FaultPlane.Proofs.Text.Occurrences

/-!
# Class names

The class of a method is the given one, else the listed one, else the one that follows by convention
from the package of the service, and the convention tells packages apart
(`conventionalClass_injective`). The package is the name of the service with every `ts-` and every
`-service` deleted. So it is the name between a leading `ts-` and a trailing `-service` just for the
services that have neither of them anywhere else (`className_stripped_iff`).
-/

namespace FaultPlane

/-! ### The convention -/

namespace Text

theorem length_upperChar (c : Char) : 1 ≤ (upperChar c).length ∧ (upperChar c).length ≤ 3 := by
  have hexpansions : ∀ e ∈ upperExpansions, 1 ≤ e.2.length ∧ e.2.length ≤ 3 := by decide
  unfold upperChar
  dsimp only
  split
  · simp
  · split
    · next found =>
      rw [List.length_map]
      exact hexpansions _ (List.mem_of_find?_eq_some found)
    · split <;> simp

theorem length_capitalize (s : String) :
    s.length ≤ (capitalize s).length ∧ (capitalize s).length ≤ s.length + 2 := by
  rw [← String.length_toList, ← String.length_toList, capitalize]
  cases s.toList with
  | nil => simp
  | cons c cs =>
    have hc := length_upperChar c
    rw [String.toList_ofList, List.length_append, List.length_cons]
    omega

end Text

namespace Catalog

theorem toList_conventionalClass (package : String) :
    (conventionalClass package).toList =
      package.toList ++ (".controller.".toList ++ (Text.capitalize package).toList) ++
        "Controller".toList := by
  simp only [conventionalClass, String.toList_append, List.append_assoc]

theorem length_le_of_conventionalClass {p q : String}
    (h : conventionalClass p = conventionalClass q) : q.length ≤ p.length := by
  have hlist := congrArg String.toList h
  rw [toList_conventionalClass, toList_conventionalClass, List.append_cancel_right_eq] at hlist
  by_contra hlonger
  have hp := Text.length_capitalize p
  have hq := Text.length_capitalize q
  have hlength := congrArg List.length hlist
  simp only [List.length_append, String.length_toList] at hlength
  -- Capital letters make up for one more character at most, and that would be the first dot.
  obtain ⟨rest, hrest⟩ : p.toList <+: q.toList := by
    have hprefix : p.toList <+: q.toList ++ (".controller.".toList ++ (Text.capitalize q).toList) :=
      ⟨_, hlist⟩
    refine List.prefix_of_prefix_length_le hprefix (List.prefix_append _ _) ?_
    rw [String.length_toList, String.length_toList]
    omega
  have hone : rest.length = 1 := by
    have hsum := congrArg List.length hrest
    rw [List.length_append, String.length_toList, String.length_toList] at hsum
    omega
  obtain ⟨c, rfl⟩ := List.length_eq_one_iff.1 hone
  rw [← hrest, List.append_assoc, List.append_cancel_left_eq] at hlist
  have hsecond := congrArg (·[1]?) hlist
  cases hsecond

theorem conventionalClass_injective : Function.Injective conventionalClass := by
  intro p q h
  have hlength : p.toList.length = q.toList.length := by
    have hle := length_le_of_conventionalClass h
    have hge := length_le_of_conventionalClass h.symm
    rw [String.length_toList, String.length_toList]
    omega
  have hlist := congrArg String.toList h
  rw [toList_conventionalClass, toList_conventionalClass, List.append_cancel_right_eq] at hlist
  exact String.toList_inj.1 (List.append_inj_left hlist hlength)

/-! ### Packages -/

/-- The package of a service, or what is left of its name when every `ts-` and then every `-service`
is deleted. -/
def DeletedPackage (c : Catalog) (service package : String) : Prop :=
  c.packages.get? service = some package ∨
    c.packages.get? service = none ∧
      ∃ rest, Text.Deleted "ts-" service rest ∧ Text.Deleted "-service" rest package

/-- The package of a service, or its name between a leading `ts-` and a trailing `-service`. -/
def StrippedPackage (c : Catalog) (service package : String) : Prop :=
  c.packages.get? service = some package ∨
    c.packages.get? service = none ∧
      ∃ rest, Text.WithoutLeading "ts-" service rest ∧ Text.WithoutTrailing "-service" rest package

/-- Whether neither `ts-` nor `-service` stands anywhere else than at its end of the name. -/
def MarkedOnce (service : String) : Prop :=
  ∃ rest name, Text.WithoutLeading "ts-" service rest ∧ Text.WithoutTrailing "-service" rest name ∧
    ¬ Text.OccursIn "ts-" rest ∧ ¬ Text.OccursIn "-service" name

theorem deletedPackage (c : Catalog) (service : String) :
    c.DeletedPackage service (c.package service) := by
  unfold package
  split
  · next package known => exact Or.inl known
  · next unknown =>
    exact Or.inr ⟨unknown, _, Text.deleted_deleteAll (by decide) service,
      Text.deleted_deleteAll (by decide) _⟩

theorem deleteAll_eq_stripped_iff {service rest name : String}
    (hrest : Text.WithoutLeading "ts-" service rest)
    (hname : Text.WithoutTrailing "-service" rest name) :
    Text.deleteAll "-service" (Text.deleteAll "ts-" service) = name ↔
      ¬ Text.OccursIn "ts-" rest ∧ ¬ Text.OccursIn "-service" name := by
  have hfront : "ts-" ≠ "" := by decide
  have hback : "-service" ≠ "" := by decide
  have hdash : "-service".toList = '-' :: "service".toList := rfl
  have htrailing : Text.deleteAll "-service" rest = Text.deleteAll "-service" name :=
    Text.deleteAll_of_trailing hdash (by decide) hname
  rw [Text.deleteAll_of_leading hfront hrest]
  constructor
  · intro h
    obtain ⟨leading, hleading, hnone⟩ := Text.length_deleteAll hfront rest
    obtain ⟨trailing, htotal, -⟩ := Text.length_deleteAll hback (Text.deleteAll "ts-" rest)
    have hlength : rest.length = name.length + 8 ∨ rest.length = name.length := by
      rcases hname with rfl | ⟨-, rfl⟩
      · exact Or.inl (String.length_append ..)
      · exact Or.inr rfl
    have hthree : "ts-".length = 3 := rfl
    have height : "-service".length = 8 := rfl
    rw [h, height] at htotal
    rw [hthree] at hleading
    -- At most eight characters are gone, and they are not three and some more.
    have hzero : leading = 0 := by omega
    have honce := hnone.1 hzero
    rw [(Text.deleteAll_eq_self_iff hfront).2 honce, htrailing] at h
    exact ⟨honce, (Text.deleteAll_eq_self_iff hback).1 h⟩
  · rintro ⟨honce, hnone⟩
    rw [(Text.deleteAll_eq_self_iff hfront).2 honce, htrailing]
    exact (Text.deleteAll_eq_self_iff hback).2 hnone

theorem strippedPackage_iff (c : Catalog) (service : String) :
    c.StrippedPackage service (c.package service) ↔
      (c.packages.get? service = none → MarkedOnce service) := by
  unfold package StrippedPackage
  cases hpackage : c.packages.get? service with
  | some package => simp
  | none =>
    simp only [reduceCtorEq, true_and, false_or, true_imp_iff]
    constructor
    · rintro ⟨rest, hrest, hname⟩
      exact ⟨rest, _, hrest, hname, (deleteAll_eq_stripped_iff hrest hname).1 rfl⟩
    · rintro ⟨rest, name, hrest, hname, once⟩
      refine ⟨rest, hrest, ?_⟩
      rw [(deleteAll_eq_stripped_iff hrest hname).2 once]
      exact hname

/-! ### Classes -/

def Unnamed (given : Option String) : Prop :=
  ∀ name, given = some name → Text.allBlank name = true

/-- The class that an entry names, or else the conventional one. -/
def classOf (c : Catalog) (service : String) (i : Interface) : String :=
  (i.className.filter (· ≠ "")).getD (conventionalClass (c.package service))

/-- The first entry of an interface and a method names a class. -/
def Lists (c : Catalog) (service interfaceName methodName name : String) : Prop :=
  ∃ i, c.FirstEntry service (fun j => j.name = interfaceName ∧ j.methodName = methodName) i ∧
    i.className = some name ∧ name ≠ ""

/-- The class of a method, where packages are named in some way. -/
inductive NamesClass (c : Catalog) (package : String → Prop)
    (service interfaceName methodName : String) (given : Option String) : String → Prop
  | given {name : String} (named : given = some name) (filled : Text.allBlank name = false) :
      NamesClass c package service interfaceName methodName given name
  | listed {name : String} (unnamed : Unnamed given)
      (lists : c.Lists service interfaceName methodName name) :
      NamesClass c package service interfaceName methodName given name
  | conventional {p : String} (unnamed : Unnamed given)
      (unlisted : ∀ name, ¬ c.Lists service interfaceName methodName name) (named : package p) :
      NamesClass c package service interfaceName methodName given
        (p ++ ".controller." ++ Text.capitalize p ++ "Controller")

section

variable (c : Catalog) (service interfaceName methodName : String) (given : Option String)

theorem unnamed_iff : Unnamed given ↔ given.filter (fun name => !Text.allBlank name) = none := by
  simp [Unnamed, Option.filter_eq_none_iff]

theorem unlisted_iff :
    (∀ name, ¬ c.Lists service interfaceName methodName name) ↔
      c.listedClass? service interfaceName methodName = none := by
  rw [Option.eq_none_iff_forall_ne_some]
  exact forall_congr' fun name => not_congr listedClass?_eq_some.symm

theorem className_of_unlisted (unnamed : Unnamed given)
    (unlisted : c.listedClass? service interfaceName methodName = none) :
    c.className service interfaceName methodName given =
      conventionalClass (c.package service) := by
  rw [className, (unnamed_iff given).1 unnamed, unlisted]

theorem className_of_firstEntry {i : Interface} (unnamed : Unnamed given)
    (first : c.FirstEntry service (fun j => j.name = interfaceName ∧ j.methodName = methodName) i) :
    c.className service interfaceName methodName given = c.classOf service i := by
  rw [className, (unnamed_iff given).1 unnamed, listedClass?_of_firstEntry first, classOf]
  cases i.className.filter (· ≠ "") <;> rfl

/-- Packages matter just where a class is neither given nor listed. -/
theorem namesClass_iff (package : String → Prop) :
    c.NamesClass package service interfaceName methodName given
        (c.className service interfaceName methodName given) ↔
      (Unnamed given → (∀ name, ¬ c.Lists service interfaceName methodName name) →
        package (c.package service)) := by
  constructor
  · intro names unnamed unlisted
    rw [className_of_unlisted c service interfaceName methodName given unnamed
      ((c.unlisted_iff service interfaceName methodName).1 unlisted)] at names
    generalize hname : conventionalClass (c.package service) = name at names
    cases names with
    | given named filled => exact absurd (unnamed _ named) (Bool.eq_false_iff.1 filled)
    | listed _ lists => exact absurd lists (unlisted _)
    | conventional _ _ named =>
      rw [conventionalClass_injective hname]
      exact named
  · intro named
    unfold className
    split
    · next name hgiven =>
      obtain ⟨hname, filled⟩ := Option.filter_eq_some_iff.1 hgiven
      exact .given hname (by simpa using filled)
    · next hgiven =>
      have unnamed := (unnamed_iff given).2 hgiven
      split
      · next name hlisted => exact .listed unnamed (listedClass?_eq_some.1 hlisted)
      · next hlisted =>
        have unlisted := (c.unlisted_iff service interfaceName methodName).2 hlisted
        exact .conventional unnamed unlisted (named unnamed unlisted)

/-- The class of a method is the given one, else the listed one, else the conventional one of the
package that is left when `ts-` and `-service` are deleted from the name of the service. Stripping
the two ends of the name leads to the same class exactly if a class is given or listed, the package
of the service is known, or there is nothing to delete but at the ends. -/
theorem className_stripped_iff :
    c.NamesClass (c.DeletedPackage service) service interfaceName methodName given
        (c.className service interfaceName methodName given) ∧
      (c.NamesClass (c.StrippedPackage service) service interfaceName methodName given
          (c.className service interfaceName methodName given) ↔
        (Unnamed given → (∀ name, ¬ c.Lists service interfaceName methodName name) →
          c.packages.get? service = none → MarkedOnce service)) := by
  refine ⟨?_, ?_⟩
  · rw [namesClass_iff]
    exact fun _ _ => c.deletedPackage service
  · rw [namesClass_iff, strippedPackage_iff]

end

/-- The classes of the service of assets are looked for in the package asseservice. -/
theorem not_always_stripped :
    ¬ ∀ (c : Catalog) (service interfaceName methodName : String) (given : Option String),
      c.NamesClass (c.StrippedPackage service) service interfaceName methodName given
        (c.className service interfaceName methodName given) := by
  intro always
  have hclass := always {} "ts-assets-service" "/assets" "list" none
  rw [namesClass_iff, strippedPackage_iff] at hclass
  have unlisted : ∀ name, ¬ ({} : Catalog).Lists "ts-assets-service" "/assets" "list" name :=
    (unlisted_iff _ _ _ _).2 rfl
  obtain ⟨rest, name, hrest, -, hnone, -⟩ := hclass ((unnamed_iff none).2 rfl) unlisted rfl
  rw [Text.withoutLeading_iff] at hrest
  rw [← hrest] at hnone
  exact absurd hnone (by decide)

end Catalog

end FaultPlane
